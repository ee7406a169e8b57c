import CorpusBench.Command.Args
import CorpusBench.Fields.FieldType
import CorpusBench.Fields.Timespan
import CorpusBench.Graph.Label
import CorpusBench.Graph.Legend

/-!
# Commands on field values

Label formats, group colours, field types, timespans, granularities, cross references and
form values.
-/

namespace CorpusBench

namespace Command

namespace Fields

/-- A form value member: a text, a flag, or an array of texts. -/
def formArg (req : Json) (k : String) : Step FormValue := do
  match ← Args.value req k with
  | .str s => return .text s
  | .bool b => return .flag b
  | .arr items => return .list (← items.mapM (Args.asStr k))
  | _ => bad ("field " ++ k ++ " must be a string, a boolean or an array of strings")

/-- `label_format`. -/
def labelFormatCmd (req : Json) : Step Json := do
  let mode ← liftClient (LabelMode.decoder.run (← Args.value req "mode"))
  return .str (mode.format (← Args.str req "label"))

/-- `group_color`. -/
def groupColorCmd (req : Json) : Step Json := do
  return .str (groupColor (← Args.str req "group"))

/-- `field_type`. -/
def fieldTypeCmd (req : Json) : Step Json := do
  let t ← liftClient (FieldType.ofTag (← Args.str req "type"))
  return Json.mkObj [("tag", .str t.tag), ("display", .str t.tag),
    ("file_backed", .bool t.isFileBacked)]

/-- A timespan with its parts and its text. -/
def timespanJson (s : Timespan) : Json :=
  Json.mkObj [("value", s.toJson), ("parts", .arr (s.toParts.map .str)), ("display", .str s.text)]

/-- `timespan`. -/
def timespanCmd (req : Json) : Step Json := do
  let parts ← Args.strListOr req "parts"
  return timespanJson (← liftClient (Timespan.ofParts parts))

/-- `granularity`. -/
def granularityCmd (req : Json) : Step Json := do
  let g ← liftClient (Granularity.ofText (← Args.str req "g"))
  let parsed ← match ← Args.strOpt req "raw" with
    | some raw => do pure (Json.str (← liftClient (g.parse raw)).text)
    | none => pure Json.null
  return Json.mkObj [("granularity", .str g.name), ("parsed", parsed)]

/-- `crossref`. -/
def crossrefCmd (req : Json) : Step Json := do
  let x ← liftClient (CrossReference.ofUri (← Args.str req "uri"))
  let u ← liftClient (ContentUri.parse x.uri)
  return Json.mkObj [("value", x.toJson), ("content_type", .str u.contentType)]

/-- `form_value_is_empty`. -/
def formValueIsEmptyCmd (req : Json) : Step Json := do
  return .bool (← formArg req "form").isEmpty

/-- `form_value_from`. -/
def formValueFromCmd (req : Json) : Step Json := do
  let form ← match ← Args.value req "value" with
    | .str s => pure (FormValue.text s)
    | .bool b => pure (FormValue.flag b)
    | _ => bad "field value must be a string or a boolean"
  return Json.mkObj [("form", form.toJson), ("is_empty", .bool form.isEmpty),
    ("empty", FormValue.empty.toJson)]

end Fields

end Command

end CorpusBench
