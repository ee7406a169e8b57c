import CorpusBench.Command.Server
import CorpusBench.Command.Graph
import CorpusBench.Jobs.Tracker

/-!
# Job commands

`permitted_tasks` lists the tasks a scholar may run; `job_form` runs steps on the form of one
task; `job_manager` runs steps on a job tracker over the in-memory server.  Inside an `events`
step the events are handled side by side on one virtual clock and answered in list order.

## Main definitions

* `Command.Tracking.fieldJson` — a form field as a document.
* `Command.Tracking.permittedTasksCmd`, `jobFormCmd`, `jobManagerCmd`.
-/

namespace CorpusBench

namespace Command

namespace Tracking

/-- `permitted_tasks`. -/
def permittedTasksCmd (req : Json) : Step Json := do
  let scholar ← Graph.decodeValue Scholar.decoder (← Args.value req "scholar")
  let sites ← (← Args.arrayOr req "jobsites").mapM (Graph.decodeValue Jobsite.decoder)
  let tasks ← (← Args.arrayOr req "tasks").mapM (Graph.decodeValue Task.decoder)
  let ct ← Args.str req "content_type"
  return .arr ((permittedTasks scholar sites tasks ct).map PermittedTask.toJson)

/-- A form field as a document. -/
def fieldJson (f : FormField) : Json :=
  Json.mkObj [("name", .str f.name), ("label", .str f.label), ("type", .str f.paramType.tag),
    ("required", .bool f.required), ("choices", .arr (f.choices.map .str)),
    ("content_type", Json.ofOption .str f.contentType), ("note", Json.ofOption .str f.note),
    ("value", Json.ofOption id f.value), ("display", .str f.displayValue)]

/-- A record's URI from a step. -/
def uriArg (req : Json) (key : String) : Step ContentUri := do
  liftClient (ContentUri.parse (← Args.str req key))

/-- One step of a `job_form` command. -/
def formStep (f : JobForm) (req : Json) : JobForm × Step Json :=
  let r : Step (JobForm × Json) := do
    match ← Args.str req "op" with
    | "set" =>
      let f ← liftClient (f.setValue (← Args.str req "name") (← Args.str req "raw"))
      return (f, .null)
    | "field" => return (f, Json.ofOption fieldJson (f.field? (← Args.str req "name")))
    | "fields" => return (f, .arr (f.fields.map fieldJson))
    | "missing" => return (f, .arr (f.missing.map .str))
    | "validate" =>
      liftClient f.validate
      return (f, .null)
    | "submission" =>
      let target ← uriArg req "target"
      return (f, (← liftClient (f.toSubmission target)).toJson)
    | op => bad ("unknown job_form op " ++ op)
  match r with
  | .ok (f', v) => (f', .ok v)
  | .error e => (f, .error e)

/-- The task of a request. -/
def taskArg (req : Json) : Step Task := do
  Graph.decodeValue Task.decoder (← Args.value req "task")

/-- `job_form`: steps on the form of a task. -/
def jobFormCmd (req : Json) : Step Json := do
  let task ← taskArg req
  let form ← liftClient (JobForm.new task (← Args.str req "jobsite_id"))
  return .arr (← runSteps formStep form (← Args.arrayOr req "ops"))

/-- An operation's result as a step's answer. -/
def answerOf {α : Type} (enc : α → Json) : Except ClientError α → Step Json
  | .ok a => .ok (enc a)
  | .error e => fail e

/-- Read the arguments of a step, then run its program; malformed arguments answer at once. -/
def withArgs {α : Type} (args : Step α) (k : α → Proc JobWorld (Step Json)) : Proc JobWorld (Step Json) :=
  match args with
  | .ok a => k a
  | .error h => pure (.error h)

/-- A step that reads the tracker. -/
def reading (f : JobTracker → Json) : Proc JobWorld (Step Json) := Proc.gets fun w => .ok (f w.tracker)

/-- The live and completed jobs. -/
def trackerJson (t : JobTracker) : Json :=
  Json.mkObj [("live", .arr (t.live.map fun (_, j) => j.toJson)),
    ("completed", .arr (t.completed.map fun (_, p) => p.toJson))]

/-- The form of a `submit` step with its values set, and the record it runs on. -/
def submissionArgs (req : Json) : Step (JobForm × ContentUri) := do
  let task ← taskArg req
  let form ← liftClient (JobForm.new task (← Args.str req "jobsite_id"))
  let form ← (← Args.pairsOr req "values").foldlM
    (fun f (name, raw) => liftClient (f.setValue name raw)) form
  return (form, ← uriArg req "target")

/-- The events of a step, each read as a job event. -/
def jobEventArg (j : Json) : Step JobEvent := Graph.decodeValue JobEvent.decoder j

/-- The program of one step of a `job_manager` command. -/
def plainStep (scope : JobScope) (req : Json) : Proc JobWorld (Step Json) :=
  withArgs (Args.str req "op") fun op =>
    match op with
    | "load" => withArgs (uriArg req "uri") fun u => answerOf Json.ofNat <$> JobWorld.loadJobs u
    | "submit" =>
      withArgs (submissionArgs req) fun (form, target) =>
        answerOf Job.toJson <$> JobWorld.submit scope form target
    | "retry" => withArgs (Args.str req "job_id") fun i => answerOf Job.toJson <$> JobWorld.retry i
    | "event" =>
      withArgs (do jobEventArg (← Args.value req "event")) fun e =>
        answerOf (fun o => .str o.name) <$> JobWorld.handleEvent e
    | "events" =>
      withArgs (do (← Args.arrayOr req "events").mapM jobEventArg) fun es => do
        let results ← Proc.joinAll (es.map JobWorld.handleEvent)
        pure (.ok (.arr (results.map fun r => outcomeJson (r.map fun o => .str o.name))))
    | "finish" =>
      withArgs (do return (← Args.str req "job_id",
          ← Graph.decodeValue JobStatus.decoder (← Args.value req "status"), ← Args.str req "report"))
        fun (i, status, report) =>
          JobWorld.ask (Proc.modifyGet fun s =>
            let (s', r) := s.finishJob i status report
            (answerOf (fun _ => .null) r, s'))
    | "live" => reading fun t => .arr (t.live.map fun (_, j) => j.toJson)
    | "live_job" =>
      withArgs (Args.str req "job_id") fun i => reading fun t => Json.ofOption Job.toJson (t.live.lookup i)
    | "completed" => reading fun t => .arr (t.completed.map fun (_, p) => p.toJson)
    | "registered" => withArgs (Args.str req "job_id") fun i => reading fun t => .bool (t.registered.contains i)
    | "can_retry" => withArgs (Args.str req "job_id") fun i => reading fun t => .bool (t.canRetry i)
    | "permitted" =>
      withArgs (Args.str req "content_type") fun ct =>
        answerOf (fun ps => .arr (ps.map PermittedTask.toJson)) <$> JobWorld.permitted scope ct
    | "state" => reading trackerJson
    | "attach" =>
      withArgs (do
          let _ ← Args.str req "relay_corpus_id"
          let capacity ← Args.natOr req "capacity" .usize 16
          let events ← (← Args.arrayOr req "events").mapM (Graph.decodeValue PushEvent.decoder)
          return (max capacity 1, events))
        fun (capacity, events) => do
          JobWorld.attach capacity events
          reading trackerJson
    | other => pure (bad ("unknown job_manager op " ++ other))

/-- A job session: the tracker and the server, the calls already reported, and the virtual
clock. -/
structure Session where
  world : JobWorld
  reported : Nat := 0
  clock : Nat := 0

/-- One step of a `job_manager` command. -/
def jobStep (scope : JobScope) (s : Session) (req : Json) : Session × Step Json :=
  match Args.str req "op" with
  | .error e => (s, .error e)
  | .ok op =>
    match Mock.deskStep? { server := s.world.server, reported := s.reported } op req with
    | some (d, r) => ({ s with world := { s.world with server := d.server }, reported := d.reported }, r)
    | none =>
      match Proc.runFrom Proc.standardFuel s.clock (plainStep scope req) s.world with
      | .finished r w clock => ({ s with world := w, clock := clock }, r)
      | .halted h => (s, .error (.aborted h))
      | .stalled => (s, bad "the job manager stalled")

/-- `job_manager`: steps on a job tracker over the in-memory server. -/
def jobManagerCmd (req : Json) : Step Json := do
  let server ← Mock.serverOf req
  let scholar ← Graph.decodeValue Scholar.decoder (← Args.value req "scholar")
  let corpusId ← Args.strOr req "corpus_id" server.corpusId
  let ops ← Args.arrayOr req "ops"
  return .arr (← runSteps (jobStep ⟨corpusId, scholar⟩) { world := ⟨{}, server⟩ } ops)

end Tracking

end Command

end CorpusBench
