import CorpusBench.Server.Listing
import CorpusBench.Server.Neighbors
import CorpusBench.Content.View
import CorpusBench.Content.Bulk
import CorpusBench.Concurrent.Proc
import CorpusBench.Content.Spool

/-!
# Requests to the server

Every operation of the API as a program over the server's state.  Each request is logged
first, with its operation, its target and its parameters; the answer is computed from the
state at that moment; then the request may take a while to arrive, as the server's delays say
(list pages, neighbourhoods and single-job fetches).  A request that fails answers at once.

## Main definitions

* `Server.listContent`, `Server.networkAnswer`,
  `Server.contentView`, `Server.bulkAction`,
  `Server.submitJob`, … — the operations.
* `Server.api` — the operations as an implementation of the API.
* `Server.spool` — every record of a listing, page after page, with a cap on the
  number of pages.
-/

namespace CorpusBench

namespace Server

/-- Log a request. -/
def logged (operation target : String) (params : QueryPairs) : Proc Server Unit :=
  Proc.modify (·.log operation target params)

/-- Wait for an answer that takes `delay` milliseconds; an answer without delay, or with a
zero delay, arrives at once. -/
def arriveAfter : Option Nat → Proc Server Unit
  | some (d + 1) => Proc.pause (d + 1)
  | _ => pure ()

/-- The target of a request about the records of a type. -/
def typeTarget (corpusId contentType : String) : String := corpusId ++ "/" ++ contentType

/-- One page of the records of a type. -/
def listContent (corpusId contentType : String) (params : QueryPairs) : Proc Server (Except ClientError ListPage) := do
  logged "list_content" (typeTarget corpusId contentType) params
  match pageOf params with
  | .error e => pure (.error e)
  | .ok page =>
    let s ← Proc.get
    let answer ← Proc.ofAbort
      (pageWindow (s.listing contentType params) page (pageSizeOf params) s.cursorPaging)
    arriveAfter (s.listDelay page)
    pure (.ok answer)

/-- One record. -/
def getContent (u : ContentUri) : Proc Server (Except ClientError ContentRecord) := do
  logged "get_content" u.render []
  let s ← Proc.get
  pure <| match s.record? u.contentType u.contentId with
    | some r => .ok r
    | none => .error (.notFound u.render)

/-- Create a record of a type with the given fields: its id is `new-N`, its label the text
field `label` or else its id.  The new record is then fetched back, which is a second logged
request. -/
def createContent (corpusId contentType : String) (fields : Json.Fields) : Proc Server (Except ClientError ContentRecord) := do
  logged "create_content" (typeTarget corpusId contentType) []
  let newId ← Proc.modifyGet (·.mintId "new")
  let label := match fields.lookup "label" with
    | some (.str l) => l
    | _ => newId
  Proc.modify (·.insertRecord contentType newId label fields)
  let s ← Proc.get
  getContent (s.uri contentType newId)

/-- The answer to a neighbourhood request and the time it takes to arrive, without waiting for
it; the request is logged with the query's pairs, and a failing URI answers at once with a
reset connection. -/
def networkAnswer (u : ContentUri) (q : NetworkQuery) :
    Proc Server (Except ClientError Neighborhood × Option Nat) := do
  logged "network_json" u.render q.toPairs
  let s ← Proc.get
  if s.failing.contains u.render then
    pure (.error (.network ("connection reset for " ++ u.render)), none)
  else
    pure (.ok (s.neighborhood u q), s.networkDelay)

/-- A neighbourhood request, waiting for its answer. -/
def networkJson (u : ContentUri) (q : NetworkQuery) : Proc Server (Except ClientError Neighborhood) := do
  let (answer, delay) ← networkAnswer u q
  arriveAfter delay
  pure answer

/-- The effect of a view request on the state. -/
def applyViewRequest (s : Server) (r : ViewRequest) :
    Except ClientError (Option ContentView) × Server :=
  match r.action with
  | .create =>
    match r.name, r.contentType with
    | none, _ => (.error (.validation "view name required"), s)
    | some _, none => (.error (.validation "content type required"), s)
    | some name, some ct =>
      let members := StrSet.ofList
        (((s.recordsOf ct).filter (recordMatches · r.search)).map (·.id))
      let (viewId, s) := s.mintId "view"
      (.ok (some ⟨viewId, name, ct, some "populated"⟩),
        { s with views := s.views.insert viewId ⟨ct, members⟩ })
  | .refresh =>
    let viewId := r.viewId.getD ""
    match s.views.lookup viewId with
    | some v => (.ok (some ⟨viewId, viewId, v.contentType, some "populated"⟩), s)
    | none => (.error (.notFound ("view " ++ viewId)), s)
  | .delete =>
    let viewId := r.viewId.getD ""
    if s.views.containsKey viewId then (.ok none, { s with views := s.views.erase viewId })
    else (.error (.notFound ("view " ++ viewId)), s)

/-- Create, refresh or delete a saved view. -/
def contentView (corpusId : String) (r : ViewRequest) : Proc Server (Except ClientError (Option ContentView)) := do
  logged "content_view" corpusId []
  Proc.modifyGet (applyViewRequest · r)

/-- Delete the selected records of a type: all of them, or those with the listed ids. -/
def deleteSelection (s : Server) (contentType : String) : ContentSelection → Server
  | .all => s.modifyRecords contentType fun _ => []
  | .ids xs => s.modifyRecords contentType fun m => xs.foldl (fun m x => m.erase x) m

/-- A bulk action on a selection; the selection is logged as its JSON text, and only deleting
changes the server. -/
def bulkAction (corpusId contentType : String) (r : BulkRequest) : Proc Server (Except ClientError Unit) := do
  logged "bulk_action" (typeTarget corpusId contentType) [("selection", r.selection.toJson.compact)]
  if r.action.isDestructive then Proc.modify (deleteSelection · contentType r.selection)
  pure (.ok ())

/-- The job sites. -/
def listJobsites : Proc Server (Except ClientError (List Jobsite)) := do
  logged "list_jobsites" "" []
  Proc.gets fun s => .ok s.jobsites

/-- The tasks. -/
def listTasks : Proc Server (Except ClientError (List Task)) := do
  logged "list_tasks" "" []
  Proc.gets fun s => .ok s.tasks

/-- One job; the job is read after the fetch's delay. -/
def getJob (jobId : String) : Proc Server (Except ClientError Job) := do
  logged "get_job" jobId []
  let s ← Proc.get
  arriveAfter s.jobDelay
  Proc.gets fun s => match s.jobs.lookup jobId with
    | some j => .ok j
    | none => .error (.notFound ("job " ++ jobId))

/-- The jobs that ran on a record, in job-id order. -/
def listContentJobs (u : ContentUri) : Proc Server (Except ClientError (List Job)) := do
  logged "list_content_jobs" u.render []
  Proc.gets fun s => .ok ((s.jobs.map Prod.snd).filter (·.contentUri = u))

/-- The effect of submitting a job: a queued job `job-N` of a known task. -/
def applySubmission (s : Server) (sub : JobSubmission) : Except ClientError Job × Server :=
  match s.tasks.find? (·.id == sub.taskId) with
  | none => (.error (.validation ("unknown task " ++ sub.taskId)), s)
  | some task =>
    let siteName := ((s.jobsites.find? (·.id == sub.jobsiteId)).map (·.name)).getD ""
    let (jobId, s) := s.mintId "job"
    let j : Job :=
      { id := jobId, corpusId := sub.corpusId, contentType := sub.contentType,
        contentId := sub.contentId, taskId := task.id, taskName := task.name,
        jobsiteName := siteName, scholarName := "", status := .queueing, stage := none,
        percentComplete := 0, parameters := sub.parameters, report := none,
        submitted := some .now }
    (.ok j, { s with jobs := s.jobs.insert jobId j })

/-- Submit a job. -/
def submitJob (sub : JobSubmission) : Proc Server (Except ClientError Job) := do
  logged "submit_job" sub.taskId []
  Proc.modifyGet (applySubmission · sub)

/-- The effect of retrying a job: only a failed job is queued again. -/
def applyRetry (s : Server) (jobId : String) : Except ClientError Job × Server :=
  match s.jobs.lookup jobId with
  | none => (.error (.notFound ("job " ++ jobId)), s)
  | some j =>
    if j.status != .error then
      (.error (.validation ("job " ++ jobId ++ " is " ++ j.status.name ++
        ", only failed jobs can be retried")), s)
    else
      let j := { j with status := .queueing, percentComplete := 0, report := none }
      (.ok j, { s with jobs := s.jobs.insert jobId j })

/-- Retry a failed job. -/
def retryJob (jobId : String) : Proc Server (Except ClientError Job) := do
  logged "retry_job" jobId []
  Proc.modifyGet (applyRetry · jobId)

/-- The in-memory server as an implementation of the API. -/
def api : Api (Proc Server) :=
  { listContent, getContent, createContent, networkJson, contentView, bulkAction,
    listJobsites, listTasks, getJob, listContentJobs, submitJob, retryJob }

/-- Every record of a listing, page after page (see `Spool.records`). -/
def spool (corpusId contentType : String) (params : QueryPairs) (cap : Nat) :
    Proc Server (Except ClientError (List ContentRecord)) :=
  api.spool corpusId contentType params cap

end Server

end CorpusBench
