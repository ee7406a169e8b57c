import CorpusBench.Command.Calls
import CorpusBench.Server.Api
import CorpusBench.Text.Numeral

/-!
# Server commands

The in-memory server as commands: building it from the `api` member of a request, the steps
every stateful command accepts for looking at it and changing it (`calls`, `call_count`,
`record_count`, `add_record`, `add_link`, `fail_network`, `mock_corpus_id`), the `mock_api`
command that sends it requests one by one, and the `spool` command.

## Main definitions

* `Command.Mock.serverOf` — the server a request describes.
* `Command.Mock.Desk` — a server with the number of calls already reported.
* `Command.Mock.deskStep?` — the steps on the server shared by stateful commands.
* `Command.Mock.mockApiCmd`, `Command.Mock.spoolCmd`.
-/

namespace CorpusBench

namespace Command

namespace Mock

/-- Add one `[ct, id, label, fields?]` entry of the spec. -/
def recordEntry (s : Server) : Json → Step Server
  | .arr [.str ct, .str i, .str label] => .ok (s.insertRecord ct i label [])
  | .arr [.str ct, .str i, .str label, .null] => .ok (s.insertRecord ct i label [])
  | .arr [.str ct, .str i, .str label, .obj fields] => .ok (s.insertRecord ct i label fields)
  | _ => bad "records entries are [ct, id, label, fields?]"

/-- Add one `[from_ct, from_id, to_ct, to_id, title]` entry of the spec. -/
def linkEntry (s : Server) : Json → Step Server
  | .arr [.str a, .str b, .str c, .str d, .str t] => .ok (s.addLink a b c d t)
  | _ => bad "links entries are [from_ct, from_id, to_ct, to_id, title]"

/-- Add one `{id, content_type, ids}` entry of the spec. -/
def viewEntry (s : Server) (j : Json) : Step Server := do
  let viewId ← Args.str j "id"
  let ct ← Args.str j "content_type"
  let ids ← Args.strListOr j "ids"
  return { s with views := s.views.insert viewId ⟨ct, StrSet.ofList ids⟩ }

/-- The text a failing URI is kept as: its canonical form when it reads as a URI. -/
def failingKey (u : String) : String :=
  match ContentUri.parse u with
  | .ok v => v.render
  | .error _ => u

/-- The delay of every neighbourhood answer when every request outlives the sprawl
deadline. -/
def outlivingDelay : Nat := 10000

/-- The server described by the `api` member of a request (an empty corpus `42` when
absent). -/
def serverOf (req : Json) : Step Server := do
  let spec := (Args.get? req "api").getD (.obj [])
  let corpusId ← Args.strOr spec "corpus_id" "42"
  let s : Server := { corpusId := corpusId }
  let s ← (← Args.arrayOr spec "records").foldlM recordEntry s
  let s ← (← Args.arrayOr spec "links").foldlM linkEntry s
  let s ← (← Args.arrayOr spec "views").foldlM viewEntry s
  let jobs ← (← Args.arrayOr spec "jobs").mapM (Args.decodeWith "jobs" Job.decoder)
  let jobsites ← (← Args.arrayOr spec "jobsites").mapM (Args.decodeWith "jobsites" Jobsite.decoder)
  let tasks ← (← Args.arrayOr spec "tasks").mapM (Args.decodeWith "tasks" Task.decoder)
  let cursor ← Args.boolOr spec "cursor" false
  let failing ← Args.strListOr spec "failing"
  let outliving ← Args.boolOr spec "network_timeout" false
  let networkDelay ← Args.natOpt spec "network_delay_ms" .u64
  let jobDelay ← Args.natOpt spec "job_delay_ms" .u64
  let listDelays ← (← Args.objectOr spec "list_delays_ms").mapM fun (k, v) => do
    let page ← match readWord32? k with
      | some p => pure p
      | none => bad ("list_delays_ms keys are pages, got " ++ k)
    return (page, ← Args.asNat "list_delays_ms" .u64 v)
  return { s with
    jobs := jobs.foldl (fun m j => m.insert j.id j) [],
    jobsites := jobsites, tasks := tasks, cursorPaging := cursor,
    failing := failing.foldl (fun acc u => StrSet.insert (failingKey u) acc) [],
    networkDelay := if outliving then some outlivingDelay else networkDelay,
    jobDelay := jobDelay, listDelays := listDelays }

/-- A server, with the number of its calls that `calls` steps already reported. -/
structure Desk where
  server : Server
  reported : Nat := 0

/-- Run a program over the server alone; it never waits, so one run of the scheduler ends
it. -/
def runOn {α : Type} (p : Proc Server α) (s : Server) : Step (α × Server) :=
  match Proc.runNow p s with
  | .finished a s' _ => .ok (a, s')
  | .halted h => .error (.aborted h)
  | .stalled => bad "the server stalled"

/-- A step that changes the server, answering `null`. -/
def changeStep (d : Desk) (change : Step Server) : Desk × Step Json :=
  match change with
  | .ok s => ({ d with server := s }, .ok .null)
  | .error e => (d, .error e)

/-- The steps on the server that every stateful command accepts. -/
def deskStep? (d : Desk) (op : String) (req : Json) : Option (Desk × Step Json) :=
  let s := d.server
  match op with
  | "calls" =>
    some ({ d with reported := s.calls.length }, .ok (.arr ((s.calls.drop d.reported).map Call.toJson)))
  | "call_count" => some (d, do return Json.ofNat (s.callCount (← Args.str req "operation")))
  | "record_count" => some (d, do return Json.ofNat (s.recordCount (← Args.str req "content_type")))
  | "add_record" => some <| changeStep d do
    let ct ← Args.str req "content_type"
    let i ← Args.str req "id"
    let label ← Args.str req "label"
    let fields ← Args.objectOr req "fields"
    return s.insertRecord ct i label fields
  | "add_link" => some <| changeStep d do
    let a ← Args.str req "from_ct"
    let b ← Args.str req "from_id"
    let c ← Args.str req "to_ct"
    let e ← Args.str req "to_id"
    let t ← Args.str req "title"
    return s.addLink a b c e t
  | "fail_network" => some <| changeStep d do
    let u ← liftClient (ContentUri.parse (← Args.str req "uri"))
    return s.failNetworkFor u
  | "mock_corpus_id" => some (d, .ok (.str s.corpusId))
  | _ => none

/-- A request's answer as a step. -/
def answerStep {α : Type} (enc : α → Json) (p : Proc Server (Except ClientError α)) (s : Server) :
    Server × Step Json :=
  match runOn p s with
  | .ok (.ok a, s') => (s', .ok (enc a))
  | .ok (.error e, s') => (s', fail e)
  | .error h => (s, .error h)

/-- One request of a `mock_api` command: an API call, or `finish_job`, which ends a job as a
worker would. -/
def apiStep (s : Server) (op : String) (req : Json) : Step (Server × Step Json) := do
  match ApiCall.read? op req with
  | some (.ok call) => return answerStep id (call.run Server.api) s
  | some (.error h) => return (s, .error h)
  | none =>
    match op with
    | "finish_job" =>
      let jobId ← Args.str req "job_id"
      let status ← Args.decodeWith "status" JobStatus.decoder (← Args.value req "status")
      let report ← Args.str req "report"
      let (s', r) := s.finishJob jobId status report
      return (s', match r with
        | .ok () => .ok .null
        | .error e => fail e)
    | _ => bad ("unknown mock op " ++ op)

/-- One step of a `mock_api` command. -/
def mockApiStep (d : Desk) (req : Json) : Desk × Step Json :=
  match Args.str req "op" with
  | .error e => (d, .error e)
  | .ok op =>
    match deskStep? d op req with
    | some r => r
    | none =>
      match apiStep d.server op req with
      | .ok (s, r) => ({ d with server := s }, r)
      | .error e => (d, .error e)

/-- `mock_api`: send the server its requests in order. -/
def mockApiCmd (req : Json) : Step Json := do
  let s ← serverOf req
  let ops ← Args.arrayOr req "ops"
  return .arr (← runSteps mockApiStep { server := s } ops)

/-- `spool`: every record of a listing, with the calls it made. -/
def spoolCmd (req : Json) : Step Json := do
  let s ← serverOf req
  let corpusId ← Args.str req "corpus_id"
  let ct ← Args.str req "content_type"
  let params ← Args.pairsOr req "params"
  let cap ← Args.natOr req "max_pages" .usize Spool.standardCap
  let (r, s') ← runOn (Server.spool corpusId ct params cap) s
  let outcome := match r with
    | .ok rs => Json.mkObj [("ids", .arr (rs.map fun r => .str r.id))]
    | .error e => errorJson e
  return Json.mkObj [("result", outcome), ("calls", .arr (s'.calls.map Call.toJson))]

end Mock

end Command

end CorpusBench
