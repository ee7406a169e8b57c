import CorpusBench.Command.Args
import CorpusBench.Content.Bulk
import CorpusBench.Content.Neighborhood
import CorpusBench.Content.View
import CorpusBench.Events.Push
import CorpusBench.Fields.FieldType
import CorpusBench.Fields.IiifInfo
import CorpusBench.Fields.Timespan
import CorpusBench.Graph.Label
import CorpusBench.Jobs.Params
import CorpusBench.Table.Search
import CorpusBench.Table.Selection

/-!
# Decoding wire types by name

The command `deserialize` reads a document as the wire type it names, writes the value back,
and adds facts about it that its type defines.
-/

namespace CorpusBench

namespace Command

namespace Wire

/-- Decode `v` with `d`, giving the value written back and the facts `extra` draws from it. -/
def roundTrip {α : Type} (d : Decoder α) (enc : α → Json) (extra : α → Json) (v : Json) :
    Step Json := do
  let a ← liftClient (d.run v)
  return Json.mkObj [("value", enc a), ("extra", extra a)]

/-- Decode `v` with `d` and write it back, with no facts. -/
def plain {α : Type} (d : Decoder α) (enc : α → Json) (v : Json) : Step Json :=
  roundTrip d enc (fun _ => .null) v

/-- `deserialize`. -/
def deserializeCmd (req : Json) : Step Json := do
  let ty ← Args.str req "type"
  let v := (req.get? "value").getD .null
  match ty with
  | "ContentRecord" => plain ContentRecord.decoder ContentRecord.toJson v
  | "PageMeta" => plain PageMeta.decoder PageMeta.toJson v
  | "ListPage" => plain ListPage.decoder ListPage.toJson v
  | "NetworkNeighborhood" => plain Neighborhood.decoder Neighborhood.toJson v
  | "CollapsedRelationship" =>
    roundTrip Collapse.decoder Collapse.toJson (fun c => Json.mkObj [("wire", .str c.wire)]) v
  | "ContentUri" =>
    roundTrip ContentUri.decoder ContentUri.toJson
      (fun u => Json.mkObj [("content_type", .str u.contentType)]) v
  | "ContentView" => plain ContentView.decoder ContentView.toJson v
  | "ContentViewRequest" => plain ViewRequest.decoder ViewRequest.toJson v
  | "ContentSelection" =>
    roundTrip ContentSelection.decoder ContentSelection.toJson
      (fun s => Json.mkObj [("is_empty", .bool s.isEmpty)]) v
  | "BulkAction" =>
    roundTrip BulkAction.decoder BulkAction.toJson
      (fun a => Json.mkObj [("destructive", .bool a.isDestructive)]) v
  | "BulkActionRequest" => plain BulkRequest.decoder BulkRequest.toJson v
  | "JobStatus" =>
    roundTrip JobStatus.decoder JobStatus.toJson
      (fun s => Json.mkObj [("terminal", .bool s.isTerminal), ("display", .str s.name)]) v
  | "Job" =>
    roundTrip Job.decoder Job.toJson
      (fun j => Json.mkObj [("content_uri", .str j.contentUri.render)]) v
  | "JobProvenance" => plain JobProvenance.decoder JobProvenance.toJson v
  | "Jobsite" => plain Jobsite.decoder Jobsite.toJson v
  | "Task" => plain Task.decoder Task.toJson v
  | "TaskParameter" => plain TaskParameter.decoder TaskParameter.toJson v
  | "JobSubmission" => plain JobSubmission.decoder JobSubmission.toJson v
  | "Scholar" => do
    let taskIds ← Args.strListOr req "task_ids"
    roundTrip Scholar.decoder Scholar.toJson
      (fun s => Json.mkObj [("may_run", .arr (taskIds.map (fun t => .bool (s.mayRun t))))]) v
  | "PushEvent" =>
    roundTrip PushEvent.decoder PushEvent.toJson
      (fun e => Json.mkObj [("kind", .str e.kind.name)]) v
  | "AlertEvent" => plain AlertEvent.decoder AlertEvent.toJson v
  | "JobEvent" => plain JobEvent.decoder JobEvent.toJson v
  | "LabelMode" => plain LabelMode.decoder LabelMode.toJson v
  | "FieldType" => plain FieldType.decoder FieldType.toJson v
  | "ParameterType" => plain ParameterType.decoder ParameterType.toJson v
  | "FormValue" => plain FormValue.decoder FormValue.toJson v
  | "Granularity" => plain Granularity.decoder Granularity.toJson v
  | "Timespan" =>
    roundTrip Timespan.decoder Timespan.toJson
      (fun s => Json.mkObj [("display", .str s.text), ("parts", .arr (s.toParts.map .str))]) v
  | "CrossReference" => plain CrossReference.decoder CrossReference.toJson v
  | "IiifInfo" =>
    roundTrip ImageInfo.decoder ImageInfo.toJson
      (fun i => Json.mkObj [("aspect_ratio", Json.ofFloat i.aspectRatio),
        ("max_scale_factor", Json.ofNat i.maxScaleFactor)]) v
  | "SearchState" => plain SearchState.decoder SearchState.toJson v
  | "Selection" => plain Selection.decoder Selection.toJson v
  | "PageRequest" => plain PageRequest.decoder PageRequest.toJson v
  | "SortDirection" => plain SortDirection.decoder SortDirection.toJson v
  | "SearchType" => plain SearchType.decoder SearchType.toJson v
  | other => bad ("unknown type " ++ other)

end Wire

end Command

end CorpusBench
