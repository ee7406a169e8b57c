import CorpusBench.Command.Calls
import CorpusBench.Command.Client
import CorpusBench.Client.Remote
import CorpusBench.Fields.FileEditor

/-!
# The HTTP command

`http` runs steps on the HTTP client against a test server described by a route table.  The
test server is not reachable from the client: no request arrives, so every step that sends one
fails to connect and the server's log stays empty.  What can still be seen is everything the
client decides before sending: its settings, the addresses it builds, and the arguments it
refuses.

`<base>` in the members `base_url`, `url` and `base` stands for the test server's address, and
the address is written back as `<base>` in the answer.

## Main definitions

* `Command.Http.serverAddress` — the address `<base>` stands for.
* `Command.Http.Route` — one answer of the test server.
* `Command.Http.httpCmd`.
-/

namespace CorpusBench

namespace Command

namespace Http

/-- The address `<base>` stands for. -/
def serverAddress : String := "http://127.0.0.1:47613"

/-- How requests and answers write the test server's address. -/
def placeholder : String := "<base>"

mutual
/-- Replace `<base>` by the server's address in the string members named `keys`, at any
depth. -/
def withAddress (keys : List String) : Json → Json
  | .arr items => .arr (withAddressList keys items)
  | .obj fields => .obj (withAddressFields keys fields)
  | j => j

/-- `withAddress` on every item. -/
def withAddressList (keys : List String) : List Json → List Json
  | [] => []
  | j :: rest => withAddress keys j :: withAddressList keys rest

/-- `withAddress` on every member. -/
def withAddressFields (keys : List String) : Json.Fields → Json.Fields
  | [] => []
  | (k, .str s) :: rest =>
    (k, .str (if keys.contains k then s.replace placeholder serverAddress else s)) ::
      withAddressFields keys rest
  | (k, j) :: rest => (k, withAddress keys j) :: withAddressFields keys rest
end

mutual
/-- Write the server's address back as `<base>` in every string of an answer. -/
def hideAddress : Json → Json
  | .str s => .str (s.replace serverAddress placeholder)
  | .arr items => .arr (hideAddressList items)
  | .obj fields => .obj (hideAddressFields fields)
  | j => j

/-- `hideAddress` on every item. -/
def hideAddressList : List Json → List Json
  | [] => []
  | j :: rest => hideAddress j :: hideAddressList rest

/-- `hideAddress` on every member. -/
def hideAddressFields : Json.Fields → Json.Fields
  | [] => []
  | (k, j) :: rest => (k, hideAddress j) :: hideAddressFields rest
end

/-- One answer of the test server: the method, raw path and optional raw query it answers,
with its status, body and content type. -/
structure Route where
  method : String
  path : String
  query : Option String
  status : Nat
  body : Json
  contentType : Option String

/-- A route of the table; the status must be a real HTTP status. -/
def routeOf (j : Json) : Step Route := do
  let method ← Args.strOr j "method" "GET"
  let path ← Args.str j "path"
  let query ← Args.strOpt j "query"
  let status ← Args.natOr j "status" .u16 200
  if status < 100 || 599 < status then
    bad ("route status must be within 100..=599, got " ++ toString status)
  let contentType ← Args.strOpt j "content_type"
  return ⟨method, path, query, status, (Args.get? j "body").getD .null, contentType⟩

/-- The client's settings: `base_url` (the test server when absent), then the setters. -/
def configOf (req : Json) : Step ClientConfig := do
  let c := (Args.get? req "config").getD (.obj [])
  let c := match c with
    | .obj fs => if (Args.get? c "base_url").isSome then c else .obj (fs ++ [("base_url", .str serverAddress)])
    | _ => c
  Client.configOf c

/-- The steps' shared state: the client and the file editor, once one is made. -/
structure Session where
  client : HttpClient
  editor : Option FileEditor := none

/-- The editor of a session, or a malformed step before `editor_new`. -/
def editorOf (s : Session) : Step FileEditor :=
  match s.editor with
  | some e => .ok e
  | none => bad "no file editor: run editor_new first"

/-- A change of the editor, with its answer. -/
def onEditor (s : Session) (f : FileEditor → Except ClientError Json × FileEditor) :
    Session × Step Json :=
  match editorOf s with
  | .ok e =>
    let (r, e) := f e
    ({ s with editor := some e }, liftClient r)
  | .error h => (s, .error h)

/-- The uploader of a step: the client's, with the step's chunk size when it has one. -/
def uploaderOf (s : Session) (req : Json) : Step FileUploader := do
  let u := FileUploader.new s.client
  return match ← Args.natOpt req "chunk_size" .usize with
    | some n => u.withChunkSize n
    | none => u

/-- An upload's answer: the receipt, the progress after each chunk and the chunk size. -/
def uploadAnswer (u : FileUploader) (r : UploadReceipt × List (Nat × Nat)) : Json :=
  Json.mkObj [("receipt", r.1.toJson),
    ("progress", .arr (r.2.map fun (a, b) => .arr [Json.ofNat a, Json.ofNat b])),
    ("chunk_size", Json.ofNat u.chunkSize)]

/-- A step other than an API call. -/
def otherStep (s : Session) (op : String) (req : Json) : Session × Step Json :=
  let c := s.client
  match op with
  | "fetch_json" => (s, do liftClient (c.fetchExternalJson (← Args.str req "url") Decoder.any))
  | "fetch_text" => (s, do return .str (← liftClient (c.fetchExternalText (← Args.str req "url"))))
  | "upload" => (s, do
      let u ← uploaderOf s req
      let name ← Args.str req "name"
      let data ← Args.str req "data"
      return uploadAnswer u (← liftClient (u.upload name data.toUTF8.toList).outcome))
  | "revert" => (s, do
      liftClient ((FileUploader.new c).revert (← Args.str req "transfer_id")).outcome
      return .null)
  | "fetch_remote" => (s, do
      return .str (← liftClient ((FileUploader.new c).fetchRemote (← Args.str req "target")).outcome))
  | "editor_new" =>
    match (do return FileEditor.new (← uploaderOf s req) (← Args.strOpt req "stored") : Step FileEditor) with
    | .ok e => ({ s with editor := some e }, .ok e.toJson)
    | .error h => (s, .error h)
  | "editor_upload" =>
    match (do return (← Args.str req "name", ← Args.str req "data") : Step (String × String)) with
    | .ok (name, data) =>
      onEditor s fun e => let (r, e) := e.upload name data.toUTF8.toList; (r.outcome.map UploadReceipt.toJson, e)
    | .error h => (s, .error h)
  | "editor_upload_remote" =>
    match Args.str req "url" with
    | .ok address => onEditor s fun e => let (r, e) := e.uploadRemote address; (r.outcome.map UploadReceipt.toJson, e)
    | .error h => (s, .error h)
  | "editor_remove" => onEditor s fun e => let (r, e) := e.remove; (r.outcome.map fun () => .null, e)
  | "editor_state" => (s, do return (← editorOf s).toJson)
  | "iiif_info" => (s, do return (← liftClient (c.fetchImageInfo (← Args.str req "base"))).toJson)
  | "iiif_load" => (s, do return (c.loadViewer (← Args.str req "base")).toJson)
  | "link_preview" => (s, do return Json.ofOption LinkPreview.toJson (c.fetchPreview (← Args.str req "url")))
  | _ => (s, bad ("unknown http op " ++ op))

/-- One step; its answer carries the requests the server received during it, which are none. -/
def httpStep (s : Session) (req : Json) : Session × Json :=
  let (s, r) : Session × Step Json := match Args.str req "op" with
    | .error h => (s, .error h)
    | .ok op =>
      match ApiCall.read? op req with
      | some (.ok call) => (s, liftClient (call.run s.client.api))
      | some (.error h) => (s, .error h)
      | none => otherStep s op req
  let answer := match r.toJson with
    | .obj fs => .obj (fs ++ [("requests", .arr [])])
    | j => j
  (s, answer)

/-- Run the steps in order. -/
def runAll (s : Session) : List Json → List Json
  | [] => []
  | req :: rest => let (s, a) := httpStep s req; a :: runAll s rest

/-- `http`: steps on the HTTP client; a client whose settings are refused answers alone. -/
def httpCmd (raw : Json) : Step Json := do
  let req := withAddress ["base_url", "url", "base"] raw
  let _ ← (← Args.arrayOr req "routes").mapM routeOf
  let config ← configOf req
  let ops ← Args.arrayOr req "ops"
  return hideAddress <| match HttpClient.new config Network.unreachable with
    | .error e => Json.mkObj [("client", errorJson e)]
    | .ok client => .arr (runAll { client } ops)

end Http

end Command

end CorpusBench
