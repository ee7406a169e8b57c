import CorpusBench.Proofs.Concurrent.Join
import CorpusBench.Server.Api

/-!
# Requests to the in-memory server

Every request the server answers is logged first, then answered from the state at that moment,
and then may take a while to arrive.  This file states what single requests do when nothing
else runs: the answer, the state left (the old one with the request logged), and where the
request sleeps.  Logging only lengthens the log, so every answer computed from the rest of the
state is the same before and after (`Server.record`).

## Main definitions

* `Server.record` — the server with more requests logged.
* `Server.jobAnswer`, `Server.contentAnswer` — the answers to a request
  for a job and for a record.

## Main results

* `Server.wp_getJob`, `Server.wp_getContent` — a fetch is logged and
  answered from the state.
* `Server.sleepsThen_getJob` — a fetch of a job with a delay sleeps for it.
-/

namespace CorpusBench

namespace Server

/-! ### The log of requests -/

/-- The server once the requests `more` are logged after its own; nothing else changes. -/
def record (s : Server) (more : List Call) : Server := { s with calls := s.calls ++ more }

@[simp] lemma record_nil (s : Server) : s.record [] = s := by
  cases s
  simp [record]

@[simp] lemma record_record (s : Server) (more more' : List Call) :
    (s.record more).record more' = s.record (more ++ more') := by
  simp [record]

lemma log_eq_record (s : Server) (op target : String) (ps : QueryPairs) :
    s.log op target ps = s.record [⟨op, target, ps⟩] := rfl

lemma callCount_record (s : Server) (op : String) (more : List Call) :
    (s.record more).callCount op = s.callCount op + (more.filter (·.operation == op)).length := by
  simp [record, callCount]

/-! ### Answers -/

/-- The answer to a request for one job. -/
def jobAnswer (s : Server) (jobId : String) : Except ClientError Job :=
  match s.jobs.lookup jobId with
  | some j => .ok j
  | none => .error (.notFound ("job " ++ jobId))

/-- The answer to a request for one record. -/
def contentAnswer (s : Server) (u : ContentUri) : Except ClientError ContentRecord :=
  match s.record? u.contentType u.contentId with
  | some r => .ok r
  | none => .error (.notFound u.render)

@[simp] lemma jobAnswer_log (s : Server) (op target : String) (ps : QueryPairs) (jobId : String) :
    (s.log op target ps).jobAnswer jobId = s.jobAnswer jobId := rfl

@[simp] lemma contentAnswer_log (s : Server) (op target : String) (ps : QueryPairs) :
    (s.log op target ps).contentAnswer = s.contentAnswer := rfl

@[simp] lemma jobDelay_log (s : Server) (op target : String) (ps : QueryPairs) :
    (s.log op target ps).jobDelay = s.jobDelay := rfl

open Proc in
lemma wp_arriveAfter (d : Option Nat) (Q : Unit → Server → Prop) (s : Server) :
    wp (arriveAfter d) Q s ↔ Q () s := by
  unfold arriveAfter
  split <;> rfl

open Proc in
/-- A request for a job is logged, and answered with the job the server holds. -/
lemma wp_getJob (jobId : String) (Q : Except ClientError Job → Server → Prop) (s : Server) :
    wp (getJob jobId) Q s ↔ Q (s.jobAnswer jobId) (s.log "get_job" jobId []) := by
  unfold getJob logged
  simp only [wp_bind, wp_modify, wp_get, wp_arriveAfter, wp_gets]
  rfl

open Proc in
/-- A request for a record is logged, and answered with the record the server holds. -/
lemma wp_getContent (u : ContentUri) (Q : Except ClientError ContentRecord → Server → Prop)
    (s : Server) :
    wp (getContent u) Q s ↔ Q (s.contentAnswer u) (s.log "get_content" u.render []) := by
  unfold getContent logged
  simp only [wp_bind, wp_modify, wp_get, wp_pure]
  rfl

open Proc in
/-- A request for the jobs of a record is logged, and answered with the jobs that ran on it. -/
lemma wp_listContentJobs (u : ContentUri) (Q : Except ClientError (List Job) → Server → Prop)
    (s : Server) :
    wp (listContentJobs u) Q s ↔
      Q (.ok ((s.jobs.map Prod.snd).filter (·.contentUri = u)))
        (s.log "list_content_jobs" u.render []) := by
  unfold listContentJobs logged
  simp only [wp_bind, wp_modify, wp_gets]
  rfl

open Proc in
/-- A submission is logged, and then applied. -/
lemma wp_submitJob (sub : JobSubmission) (Q : Except ClientError Job → Server → Prop)
    (s : Server) :
    wp (submitJob sub) Q s ↔
      Q (applySubmission (s.log "submit_job" sub.taskId []) sub).1
        (applySubmission (s.log "submit_job" sub.taskId []) sub).2 := by
  unfold submitJob logged
  simp only [wp_bind, wp_modify, wp_modifyGet]

open Proc in
/-- A retry is logged, and then applied. -/
lemma wp_retryJob (jobId : String) (Q : Except ClientError Job → Server → Prop) (s : Server) :
    wp (retryJob jobId) Q s ↔
      Q (applyRetry (s.log "retry_job" jobId []) jobId).1
        (applyRetry (s.log "retry_job" jobId []) jobId).2 := by
  unfold retryJob logged
  simp only [wp_bind, wp_modify, wp_modifyGet]

@[simp] lemma jobAnswer_record (s : Server) (more : List Call) (jobId : String) :
    (s.record more).jobAnswer jobId = s.jobAnswer jobId := rfl

@[simp] lemma contentAnswer_record (s : Server) (more : List Call) :
    (s.record more).contentAnswer = s.contentAnswer := rfl

open Proc in
/-- A request for a job with a delay is logged, and then sleeps for the delay before it reads
the job. -/
lemma sleepsThen_getJob {jobId : String} {s : Server} {d : Nat} (hd : s.jobDelay = some (d + 1))
    {P : Nat → Proc Server (Except ClientError Job) → Server → Prop}
    (h : P (d + 1) (Proc.gets (·.jobAnswer jobId)) (s.log "get_job" jobId [])) :
    SleepsThen (getJob jobId) P s := by
  have hd' : (s.log "get_job" jobId []).jobDelay = some (d + 1) := hd
  unfold getJob logged
  show SleepsThen (arriveAfter (s.log "get_job" jobId []).jobDelay >>= fun _ => _) P
    (s.log "get_job" jobId [])
  rw [hd']
  exact h

lemma instant_getContent (u : ContentUri) (s : Server) : Proc.Instant (getContent u) s := trivial

open Proc in
/-- Without a delay, a request for a job is answered within the poll that makes it. -/
lemma instant_getJob {jobId : String} {s : Server} (hd : ∀ d, s.jobDelay ≠ some (d + 1)) :
    Proc.Instant (getJob jobId) s := by
  unfold getJob logged
  show Proc.Instant (arriveAfter (s.log "get_job" jobId []).jobDelay >>= fun _ => _)
    (s.log "get_job" jobId [])
  rw [instant_bind]
  unfold arriveAfter
  split
  · next d hdelay => exact absurd hdelay (hd d)
  · exact ⟨trivial, trivial⟩

open Proc in
lemma finishes_getJob (jobId : String) (s : Server) : Finishes (getJob jobId) s := by
  unfold getJob logged
  show Finishes (arriveAfter (s.log "get_job" jobId []).jobDelay >>= fun _ => _)
    (s.log "get_job" jobId [])
  rw [finishes_bind]
  unfold arriveAfter
  split <;> simp

/-! ### Pages of a listing -/

@[simp] lemma listing_record (s : Server) (more : List Call) :
    (s.record more).listing = s.listing := rfl

@[simp] lemma cursorPaging_record (s : Server) (more : List Call) :
    (s.record more).cursorPaging = s.cursorPaging := rfl

open Proc in
lemma yields_arriveAfter (d : Option Nat) (s : Server) : Yields (arriveAfter d) s () s := by
  unfold arriveAfter
  split <;> exact ⟨trivial, rfl, rfl⟩

open Proc in
/-- A list request whose page reads and whose offset fits a word is logged, and answered with
the page of the listing. -/
lemma yields_listContent {corpusId contentType : String} {ps : QueryPairs} {page : Nat}
    {lp : ListPage} (s : Server) (hpage : pageOf ps = .ok page)
    (hwin : pageWindow (s.listing contentType ps) page (pageSizeOf ps) s.cursorPaging = .ok lp) :
    Yields (listContent corpusId contentType ps) s (.ok lp)
      (s.record [⟨"list_content", typeTarget corpusId contentType, ps⟩]) := by
  unfold listContent logged
  refine (yields_modify _ s).bind ?_
  simp only [hpage]
  exact (yields_get _).bind ((yields_ofAbort hwin _).bind
    ((yields_arriveAfter _ _).bind (yields_pure _ _)))

end Server

end CorpusBench
