import CorpusBench.Jobs.Form
import CorpusBench.Jobs.Permissions
import CorpusBench.Events.Relay
import CorpusBench.Server.Api

/-!
# Tracking jobs

The jobs of one content record are shown either as **live** entries (queueing or running) or
as **completed** entries, the provenance the record keeps for them.  Push events move jobs from
live to completed; the completed entry always comes from the record, never from the event, and
a job the record has no provenance for gets one made from the job itself.

* **Loading** a record lists its jobs and reads its provenance: every job seen is registered,
  running ones become live and finished ones completed.
* **An event** for a job never seen registers it and fetches it; events for that job arriving
  while the fetch is under way are kept and applied, in order, after it, so that racing events
  fetch once.  A failed fetch forgets the job, so that a later event tries again.  An event for
  a live job updates it; one for any other known job is ignored.  A job that reaches a final
  status is completed: its record is read again for the provenance.
* **Attaching** to a relay reads the job events published on it; when events were missed, the
  jobs of the record shown are loaded again first.

## Main definitions

* `JobTracker` — the jobs registered, the fetches under way, live and completed.
* `JobTracker.applyEvent`, `JobTracker.loadListing`.
* `JobWorld.loadJobs`, `submit`, `retry`, `handleEvent`, `attach`.

## Main results

* `JobTracker.applyEvent_unknown` — an event for a job that is not live changes
  nothing.
-/

namespace CorpusBench

/-- What handling an event did. -/
inductive EventOutcome where
  /-- The job was unknown: fetched and shown. -/
  | fetched
  /-- The job's fetch is under way: kept until it ends. -/
  | buffered
  /-- A live job was updated. -/
  | updated
  /-- The job reached a final status and was completed. -/
  | completed
  /-- Not a job shown here, or already completed. -/
  | ignored
  deriving DecidableEq, Repr

def EventOutcome.name : EventOutcome → String
  | .fetched => "Fetched"
  | .buffered => "Buffered"
  | .updated => "Updated"
  | .completed => "Completed"
  | .ignored => "Ignored"

/-- The completed entry made from a job whose record keeps no provenance for it. -/
def JobProvenance.ofJob (j : Job) : JobProvenance :=
  { jobId := j.id, taskName := j.taskName, jobsiteName := j.jobsiteName,
    scholarName := j.scholarName, status := j.status, parameters := j.parameters,
    report := j.report, submitted := j.submitted, completed := none }

/-- The jobs a manager shows. -/
structure JobTracker where
  /-- The record whose jobs are shown; none shows every job. -/
  content : Option ContentUri := none
  /-- Every job seen, including those being fetched. -/
  registered : StrSet := []
  /-- The events kept for each job being fetched, in arrival order. -/
  inFlight : StrMap (List JobEvent) := []
  live : StrMap Job := []
  completed : StrMap JobProvenance := []

namespace JobTracker

/-- Whether a job belongs to the record shown. -/
def shows (t : JobTracker) (j : Job) : Bool :=
  match t.content with
  | some u => j.contentUri == u
  | none => true

/-- Apply an event to a live job: its status, its stage when the event has one, and its
progress (at most 100) when the event has it.  The job when it just reached a final status. -/
def applyEvent (t : JobTracker) (e : JobEvent) : Option Job × JobTracker :=
  match t.live.lookup e.jobId with
  | none => (none, t)
  | some j =>
    let j := { j with status := e.status,
                      stage := if e.stage.isSome then e.stage else j.stage,
                      percentComplete := (e.percentComplete.map (min · 100)).getD j.percentComplete }
    (if e.status.isTerminal then some j else none, { t with live := t.live.insert e.jobId j })

theorem applyEvent_unknown (t : JobTracker) (e : JobEvent) (h : t.live.lookup e.jobId = none) :
    t.applyEvent e = (none, t) := by
  unfold applyEvent
  rw [h]

/-- Apply events in order until one completes the job. -/
def applyUntilFinished (t : JobTracker) : List JobEvent → Option Job × JobTracker
  | [] => (none, t)
  | e :: rest =>
    match t.applyEvent e with
    | (some j, t) => (some j, t)
    | (none, t) => applyUntilFinished t rest

/-- The provenance a record keeps for a job. -/
def provenanceIn (r : ContentRecord) (jobId : String) : Option JobProvenance :=
  r.provenance.find? (·.jobId == jobId)

/-- Show the jobs of a record: its running jobs live, its finished jobs completed with the
record's provenance, and every other provenance entry of the record completed too. -/
def loadListing (t : JobTracker) (u : ContentUri) (jobs : List Job) (r : ContentRecord) : JobTracker :=
  let t := { t with content := some u, live := [], completed := [] }
  let t := jobs.foldl (fun t j =>
    let t := { t with registered := t.registered.insert j.id }
    if j.status.isTerminal then
      { t with completed := t.completed.insert j.id ((provenanceIn r j.id).getD (JobProvenance.ofJob j)) }
    else { t with live := t.live.insert j.id j }) t
  r.provenance.foldl (fun t p =>
    let t := { t with registered := t.registered.insert p.jobId }
    if t.completed.containsKey p.jobId then t
    else { t with completed := t.completed.insert p.jobId p }) t

/-- Register a job, and show it live when it belongs to the record shown. -/
def showLive (t : JobTracker) (j : Job) : JobTracker :=
  let t := { t with registered := t.registered.insert j.id }
  if t.shows j then { t with live := t.live.insert j.id j } else t

/-- Whether a completed job failed, so that it can be retried. -/
def canRetry (t : JobTracker) (jobId : String) : Bool :=
  match t.completed.lookup jobId with
  | some p => p.status == .error
  | none => false

end JobTracker

/-- The corpus a manager tracks and the scholar it acts for. -/
structure JobScope where
  corpusId : String
  scholar : Scholar

/-- The tracker together with the server it asks. -/
structure JobWorld where
  tracker : JobTracker
  server : Server

namespace JobWorld

/-- A request to the server. -/
def ask {α : Type} (p : Proc Server α) : Proc JobWorld α :=
  Proc.zoom (·.server) (fun s w => { w with server := s }) p

/-- Change the tracker, with a result. -/
def onTracker {α : Type} (f : JobTracker → α × JobTracker) : Proc JobWorld α :=
  Proc.modifyGet fun w => let (a, t) := f w.tracker; (a, { w with tracker := t })

/-- The tasks the scholar may run on a content type. -/
def permitted (scope : JobScope) (contentType : String) :
    Proc JobWorld (Except ClientError (List PermittedTask)) := do
  match ← ask Server.listJobsites with
  | .error e => pure (.error e)
  | .ok sites =>
    match ← ask Server.listTasks with
    | .error e => pure (.error e)
    | .ok tasks => pure (.ok (permittedTasks scope.scholar sites tasks contentType))

/-- Show the jobs of a record; the number of live jobs. -/
def loadJobs (u : ContentUri) : Proc JobWorld (Except ClientError Nat) := do
  match ← ask (Server.listContentJobs u) with
  | .error e => pure (.error e)
  | .ok jobs =>
    match ← ask (Server.getContent u) with
    | .error e => pure (.error e)
    | .ok r => onTracker fun t => let t := t.loadListing u jobs r; (.ok t.live.length, t)

/-- Submit the job a form describes, on a record, and show it live. -/
def submit (scope : JobScope) (form : JobForm) (target : ContentUri) :
    Proc JobWorld (Except ClientError Job) := do
  if !scope.scholar.mayRun form.task.id then
    return .error (.forbidden (scope.scholar.username ++ " may not run task " ++ form.task.name))
  match form.toSubmission target with
  | .error e => pure (.error e)
  | .ok sub =>
    match ← ask (Server.submitJob sub) with
    | .error e => pure (.error e)
    | .ok j => onTracker fun t => (.ok j, t.showLive j)

/-- Run a failed job again: it leaves the completed entries and shows live again. -/
def retry (jobId : String) : Proc JobWorld (Except ClientError Job) := do
  match ← ask (Server.retryJob jobId) with
  | .error e => pure (.error e)
  | .ok j => onTracker fun t => (.ok j, { t with completed := t.completed.erase jobId }.showLive j)

/-- Complete a finished job with the provenance its record keeps, or one made from the job;
when the record cannot be read the job is completed from itself and the failure reported. -/
def finalize (j : Job) : Proc JobWorld (Except ClientError Unit) := do
  let r ← ask (Server.getContent j.contentUri)
  onTracker fun t =>
    let t := { t with live := t.live.erase j.id }
    match r with
    | .ok record =>
      let entry := (JobTracker.provenanceIn record j.id).getD (JobProvenance.ofJob j)
      (.ok (), { t with completed := t.completed.insert j.id entry })
    | .error e => (.error e, { t with completed := t.completed.insert j.id (JobProvenance.ofJob j) })

/-- Complete the job when it finished. -/
def settleFinished (finished : Option Job) (otherwise : EventOutcome) :
    Proc JobWorld (Except ClientError EventOutcome) :=
  match finished with
  | some j => (·.map fun _ => .completed) <$> finalize j
  | none => pure (.ok otherwise)

/-- Fetch an unknown job and apply its event and those kept meanwhile. -/
def fetchAndApply (e : JobEvent) : Proc JobWorld (Except ClientError EventOutcome) := do
  let r ← ask (Server.getJob e.jobId)
  let step : Except ClientError (Option (Option Job)) ← onTracker fun t =>
    let kept := (t.inFlight.lookup e.jobId).getD []
    let t := { t with inFlight := t.inFlight.erase e.jobId }
    match r with
    | .error err => (.error err, { t with registered := t.registered.erase e.jobId })
    | .ok j =>
      if !t.shows j then (.ok none, t)
      else
        let (finished, t) := { t with live := t.live.insert j.id j }.applyUntilFinished (e :: kept)
        (.ok (some finished), t)
  match step with
  | .error err => pure (.error err)
  | .ok none => pure (.ok .ignored)
  | .ok (some finished) => settleFinished finished .fetched

/-- What an event finds: a fetch under way, a job never seen, or a known job. -/
inductive Arrival where
  | kept
  | unseen
  | known

/-- Handle one push event. -/
def handleEvent (e : JobEvent) : Proc JobWorld (Except ClientError EventOutcome) := do
  let arrival ← onTracker fun t =>
    match t.inFlight.lookup e.jobId with
    | some kept => (Arrival.kept, { t with inFlight := t.inFlight.insert e.jobId (kept ++ [e]) })
    | none =>
      if t.registered.contains e.jobId then (.known, t)
      else (.unseen, { t with registered := t.registered.insert e.jobId,
                              inFlight := t.inFlight.insert e.jobId [] })
  match arrival with
  | .kept => pure (.ok .buffered)
  | .unseen => fetchAndApply e
  | .known =>
    let finished ← onTracker fun t =>
      if t.live.containsKey e.jobId then
        let (f, t) := t.applyEvent e
        (some f, t)
      else (none, t)
    match finished with
    | none => pure (.ok .ignored)
    | some f => settleFinished f .updated

/-- Read what a subscriber received, in order; failures are dropped.  Missing events reloads the
jobs of the record shown, if any; events other than job events are skipped. -/
def readReceipts : List Receipt → Proc JobWorld Unit
  | [] => pure ()
  | .lagged _ :: rest => do
    let t ← Proc.gets (·.tracker)
    match t.content with
    | some u => let _ ← loadJobs u
    | none => pure ()
    readReceipts rest
  | .event (.job e) :: rest => do
    let _ ← handleEvent e
    readReceipts rest
  | .event (.alert _) :: rest => readReceipts rest

/-- Read the events published on a relay before the tracker attached to it, with a buffer of
`capacity` events. -/
def attach (capacity : Nat) (events : List PushEvent) : Proc JobWorld Unit := do
  match bufferSize capacity with
  | .error h => Proc.abort h
  | .ok size => readReceipts (Receipt.backlog size events)

end JobWorld

end CorpusBench
