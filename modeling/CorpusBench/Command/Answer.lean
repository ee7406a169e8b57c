import CorpusBench.Command.Core
import CorpusBench.Command.Fields
import CorpusBench.Command.Table
import CorpusBench.Command.Wire
import CorpusBench.Command.Server
import CorpusBench.Command.Explorer
import CorpusBench.Command.Browse
import CorpusBench.Command.Tracking
import CorpusBench.Command.Relay
import CorpusBench.Command.Editors
import CorpusBench.Command.Client
import CorpusBench.Command.Http
import CorpusBench.Command.Cli
import CorpusBench.Json.Read
import CorpusBench.Command.Args
import CorpusBench.Jobs.Params

/-!
# Answering commands

A command is a JSON object whose member `op` names the operation; `answer` runs it and gives
the answer object, and `answerLine` does the same from and to text.

## Main definitions

* `Command.handler?` — the operation an `op` name stands for.
* `Command.answer` — the answer to one command.
-/

namespace CorpusBench

/-! ### Commands on task parameters

Parameter types and the readings of raw parameter values. -/

namespace Command

namespace Jobs

/-- `parameter_type`. -/
def parameterTypeCmd (req : Json) : Step Json := do
  let t ← liftClient (ParameterType.ofTag (← Args.str req "tag"))
  return Json.mkObj [("tag", .str t.tag), ("display", .str t.tag), ("secret", .bool t.isSecret)]

/-- `parse_bool`. -/
def parseBoolCmd (req : Json) : Step Json := do
  return .bool (← liftClient (parseFlag (← Args.str req "s")))

/-- `pep8_normalize`. -/
def pep8NormalizeCmd (req : Json) : Step Json := do
  return .str (reflowText (← Args.str req "s"))

/-- `corpus_path`. -/
def corpusPathCmd (req : Json) : Step Json := do
  return .str (← liftClient (corpusPath (← Args.str req "s")))

/-- `cross_reference_value`. -/
def crossReferenceValueCmd (req : Json) : Step Json := do
  return crossReferenceValue (← liftClient (ContentUri.parse (← Args.str req "uri")))

end Jobs

end Command

namespace Command

/-- The operation of each command name. -/
def handler? : String → Option (Json → Step Json)
  | "decode_entities" => some Core.decodeEntitiesCmd
  | "client_config" => some Client.clientConfigCmd
  | "client_config_env" => some Client.clientConfigEnvCmd
  | "http" => some Http.httpCmd
  | "cli" => some Cli.cliCmd
  | "content_uri" => some Core.contentUriCmd
  | "collapse_parse" => some Core.collapseParseCmd
  | "network_query" => some Core.networkQueryCmd
  | "error_from_status" => some Core.errorFromStatusCmd
  | "deserialize" => some Wire.deserializeCmd
  | "label_format" => some Fields.labelFormatCmd
  | "group_color" => some Fields.groupColorCmd
  | "field_type" => some Fields.fieldTypeCmd
  | "timespan" => some Fields.timespanCmd
  | "granularity" => some Fields.granularityCmd
  | "crossref" => some Fields.crossrefCmd
  | "form_value_is_empty" => some Fields.formValueIsEmptyCmd
  | "form_value_from" => some Fields.formValueFromCmd
  | "parameter_type" => some Jobs.parameterTypeCmd
  | "parse_bool" => some Jobs.parseBoolCmd
  | "pep8_normalize" => some Jobs.pep8NormalizeCmd
  | "corpus_path" => some Jobs.corpusPathCmd
  | "cross_reference_value" => some Jobs.crossReferenceValueCmd
  | "split_key" => some Table.splitKeyCmd
  | "sort_direction" => some Table.sortDirectionCmd
  | "search_state" => some Table.searchStateCmd
  | "selection" => some Table.selectionCmd
  | "mock_api" => some Mock.mockApiCmd
  | "spool" => some Mock.spoolCmd
  | "scale_thickness" => some Graph.scaleThicknessCmd
  | "graph_model" => some Graph.graphModelCmd
  | "panes" => some Graph.panesCmd
  | "pending_ops" => some Graph.pendingOpsCmd
  | "explorer" => some Explore.explorerCmd
  | "table" => some Browse.tableCmd
  | "permitted_tasks" => some Tracking.permittedTasksCmd
  | "job_form" => some Tracking.jobFormCmd
  | "job_manager" => some Tracking.jobManagerCmd
  | "relay" => some Relays.relayCmd
  | "relay_registry" => some Relays.relayRegistryCmd
  | "to_form" => some Editors.toFormCmd
  | "from_form" => some Editors.fromFormCmd
  | "geo" => some Editors.geoCmd
  | "normalize_html" => some Editors.normalizeHtmlCmd
  | "text_preview" => some Editors.textPreviewCmd
  | "relative_path" => some Editors.relativePathCmd
  | "file_name" => some Editors.fileNameCmd
  | "validate_url" => some Editors.validateUrlCmd
  | "iiif" => some Editors.iiifCmd
  | "iiif_thumbnail" => some Editors.iiifThumbnailCmd
  | "parse_preview" => some Editors.parsePreviewCmd
  | "widget_registry" => some Editors.widgetRegistryCmd
  | "picker" => some Editors.pickerCmd
  | _ => none

/-- Run the command `req`. -/
def run (req : Json) : Step Json := do
  let op ← Args.str req "op"
  match handler? op with
  | some h => h req
  | none => bad ("unknown op " ++ op)

/-- The answer object of the command `req`. -/
def answer (req : Json) : Json := (run req).toJson

/-- The answer to one line of text holding a command. -/
def answerLine (line : String) : String :=
  match Json.parse line with
  | .ok req => (answer req).compact
  | .error e => (badInputJson e.message).compact

end Command

end CorpusBench
