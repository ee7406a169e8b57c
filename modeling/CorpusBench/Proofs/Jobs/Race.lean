import CorpusBench.Proofs.Data.StrMap
import CorpusBench.Proofs.Server.Requests
import CorpusBench.Jobs.Tracker

/-!
# Events that race the fetch of their job

The first event for a job never seen registers the job and fetches it; events for the job that
arrive while the fetch is under way are kept, and applied after the fetched job, in order.
When a group of events for one job races its fetch, the fetch is made once, every event but the
first is answered at once as kept, and the tracker ends exactly as it would have had the events
been handled one after another: with the events applied in order up to the first that ends the
job, which is then completed once; or, when the fetch fails, as if the job had never been seen.

## Main definitions

* `JobTracker.arrive`, `receive`, `update`, `complete` — what each step of the
  handling of an event does to the tracker.
* `JobTracker.handleAlone` — the tracker once an event is handled with nothing else
  running.
* `JobTracker.raced` — the tracker while a fetch is under way for a group of events.

## Main results

* `JobTracker.Unseen.foldl_handleAlone_raced` — events for a job never seen, handled
  one after another, leave the tracker as one fetch followed by the kept events does.
* `JobWorld.runFrom_race` — the run of a group of events racing their job's fetch.
* `JobWorld.race_events_fetch_once` — a group of events racing the fetch of their
  job fetches it once, keeps all but the first, and leaves the tracker as handling them one
  after another does.
-/

namespace CorpusBench

/-! ### What each step does to the tracker -/

namespace JobTracker

/-- What an event finds, and the tracker once it has been noted: kept when its job is being
fetched, known when its job was seen, and otherwise registered, with a fetch under way. -/
def arrive (t : JobTracker) (e : JobEvent) : JobWorld.Arrival × JobTracker :=
  match t.inFlight.lookup e.jobId with
  | some kept => (JobWorld.Arrival.kept, { t with inFlight := t.inFlight.insert e.jobId (kept ++ [e]) })
  | none =>
    if t.registered.contains e.jobId then (.known, t)
    else (.unseen, { t with registered := t.registered.insert e.jobId,
                            inFlight := t.inFlight.insert e.jobId [] })

/-- The tracker once the fetch started by `e` has answered: the events kept meanwhile are taken
out; a failed fetch forgets the job, a job of another record is only registered, and a job shown
here goes live and takes `e` and the kept events, in order, until one ends it. -/
def receive (t : JobTracker) (e : JobEvent) (r : Except ClientError Job) :
    Except ClientError (Option (Option Job)) × JobTracker :=
  let kept := (t.inFlight.lookup e.jobId).getD []
  let t := { t with inFlight := t.inFlight.erase e.jobId }
  match r with
  | .error err => (.error err, { t with registered := t.registered.erase e.jobId })
  | .ok j =>
    if !t.shows j then (.ok none, t)
    else
      let (finished, t) := { t with live := t.live.insert j.id j }.applyUntilFinished (e :: kept)
      (.ok (some finished), t)

/-- The tracker once an event for a known job is applied, if the job is live. -/
def update (t : JobTracker) (e : JobEvent) : Option (Option Job) × JobTracker :=
  if t.live.containsKey e.jobId then
    let (f, t) := t.applyEvent e
    (some f, t)
  else (none, t)

/-- The tracker once a finished job is completed, with the record read for its provenance. -/
def complete (t : JobTracker) (j : Job) (r : Except ClientError ContentRecord) :
    Except ClientError Unit × JobTracker :=
  let t := { t with live := t.live.erase j.id }
  match r with
  | .ok record =>
    let entry := (JobTracker.provenanceIn record j.id).getD (JobProvenance.ofJob j)
    (.ok (), { t with completed := t.completed.insert j.id entry })
  | .error e => (.error e, { t with completed := t.completed.insert j.id (JobProvenance.ofJob j) })

/-- The tracker once the job that ended, if one did, is completed with the answer for its
record. -/
def completeIfFinished (answer : ContentUri → Except ClientError ContentRecord) :
    Option Job × JobTracker → JobTracker
  | (none, t) => t
  | (some f, t) => (t.complete f (answer f.contentUri)).2

/-- The tracker once the fetch started by `e` has answered `r`, and the job completed if the
events ended it. -/
def afterFetch (t : JobTracker) (e : JobEvent) (r : Except ClientError Job)
    (answer : ContentUri → Except ClientError ContentRecord) : JobTracker :=
  match t.receive e r with
  | (.ok (some f), t') => completeIfFinished answer (f, t')
  | (_, t') => t'

/-- The job that `e` and the events kept with it ended once the fetch answered `r`, if they ended
one. -/
def fetchEnds (t : JobTracker) (e : JobEvent) (r : Except ClientError Job) : Option Job :=
  match t.receive e r with
  | (.ok (some f), _) => f
  | _ => none

/-- The tracker once an event for a known job is applied, and the job completed if it ended. -/
def afterUpdate (t : JobTracker) (e : JobEvent)
    (answer : ContentUri → Except ClientError ContentRecord) : JobTracker :=
  match t.update e with
  | (some f, t') => completeIfFinished answer (f, t')
  | (none, t') => t'

/-- The job that an event for a known job ended, if it ended one. -/
def updateEnds (t : JobTracker) (e : JobEvent) : Option Job :=
  match t.update e with
  | (some f, _) => f
  | (none, _) => none

/-- The tracker once events are applied in order to a live job, up to the first that ends it,
and the job then completed. -/
def takeEvents (t : JobTracker) (es : List JobEvent)
    (answer : ContentUri → Except ClientError ContentRecord) : JobTracker :=
  completeIfFinished answer (t.applyUntilFinished es)

/-- The tracker once an event is handled with nothing else running, the server answering as `s`
does. -/
def handleAlone (t : JobTracker) (e : JobEvent) (s : Server) : JobTracker :=
  match t.arrive e with
  | (.kept, t') => t'
  | (.unseen, t') => t'.afterFetch e (s.jobAnswer e.jobId) s.contentAnswer
  | (.known, t') => t'.afterUpdate e s.contentAnswer

/-- The tracker's handling reads only the server's answers, which logging a request keeps. -/
@[simp] lemma handleAlone_record (t : JobTracker) (e : JobEvent) (s : Server) (more : List Call) :
    t.handleAlone e (s.record more) = t.handleAlone e s := rfl

end JobTracker

/-! ### Events for a known job -/

namespace JobTracker

variable {t : JobTracker} {e : JobEvent} {j : String}
  {answer : ContentUri → Except ClientError ContentRecord}

/-- The job `j` was seen and is not being fetched, and its live entry, if it has one, is the
job `j` itself. -/
structure Known (t : JobTracker) (j : String) : Prop where
  not_inFlight : t.inFlight.lookup j = none
  registered : t.registered.contains j = true
  sorted : StrMap.Sorted t.live
  live_id : ∀ job, t.live.lookup j = some job → job.id = j

lemma arrive_of_known (hk : t.Known e.jobId) : t.arrive e = (.known, t) := by
  simp [arrive, hk.not_inFlight, hk.registered]

lemma applyUntilFinished_cons (t : JobTracker) (e : JobEvent) (es : List JobEvent) :
    t.applyUntilFinished (e :: es) =
      match t.applyEvent e with
      | (some f, t') => (some f, t')
      | (none, t') => t'.applyUntilFinished es := rfl

/-- An event for a known job applies to it if it is live, and is ignored otherwise. -/
lemma afterUpdate_eq (t : JobTracker) (e : JobEvent) (answer) :
    t.afterUpdate e answer = completeIfFinished answer (t.applyEvent e) := by
  unfold afterUpdate update
  by_cases hlive : t.live.containsKey e.jobId
  · simp only [hlive, if_true]
  · have hnone : t.live.lookup e.jobId = none := by
      simpa [StrMap.containsKey] using hlive
    simp only [hlive, Bool.false_eq_true, if_false, applyEvent_unknown t e hnone]
    rfl

/-- An event for a live job updates its entry, which keeps its id. -/
lemma applyEvent_of_live {job : Job} (h : t.live.lookup e.jobId = some job) :
    ∃ job', job'.id = job.id ∧ t.applyEvent e =
      (if e.status.isTerminal then some job' else none,
        { t with live := t.live.insert e.jobId job' }) := by
  unfold applyEvent
  rw [h]
  refine ⟨_, ?_, rfl⟩
  rfl

/-- Applying an event for a known job keeps it known, and a job it ends is the job itself. -/
lemma Known.applyEvent (hk : t.Known j) (he : e.jobId = j) :
    (t.applyEvent e).2.Known j ∧ ∀ f, (t.applyEvent e).1 = some f → f.id = j := by
  cases hlive : t.live.lookup j with
  | none =>
    rw [applyEvent_unknown t e (he ▸ hlive)]
    exact ⟨hk, fun _ h => nomatch h⟩
  | some job =>
    obtain ⟨job', hid, happly⟩ := applyEvent_of_live (he ▸ hlive)
    have hid' : job'.id = j := hid.trans (hk.live_id job hlive)
    rw [happly, he]
    refine ⟨⟨hk.not_inFlight, hk.registered, hk.sorted.insert j job', fun job'' h => ?_⟩,
      fun f hf => ?_⟩
    · rw [StrMap.lookup_insert, if_pos rfl] at h
      cases h
      exact hid'
    · split at hf
      · cases hf
        exact hid'
      · cases hf

/-- Completing the job `j` keeps it known and takes it off the live entries. -/
lemma Known.complete (hk : t.Known j) {f : Job} (hf : f.id = j) (r : Except ClientError ContentRecord) :
    (t.complete f r).2.Known j ∧ (t.complete f r).2.live.lookup j = none := by
  have hlive : (t.live.erase f.id).lookup j = none := by
    rw [StrMap.lookup_erase hk.sorted, hf, if_pos rfl]
  have hsorted : StrMap.Sorted (t.live.erase f.id) := hk.sorted.erase f.id
  cases r <;>
    exact ⟨⟨hk.not_inFlight, hk.registered, hsorted, fun _ h => nomatch hlive.symm.trans h⟩,
      hlive⟩

/-- A known job that is not live ignores its events. -/
lemma Known.handleAlone_of_not_live (hk : t.Known j) (hlive : t.live.lookup j = none)
    (he : e.jobId = j) (s : Server) : t.handleAlone e s = t := by
  rw [handleAlone, arrive_of_known (he ▸ hk)]
  dsimp only
  rw [afterUpdate_eq, applyEvent_unknown t e (he ▸ hlive)]
  rfl

lemma Known.foldl_handleAlone_of_not_live (hk : t.Known j) (hlive : t.live.lookup j = none)
    (s : Server) :
    ∀ es : List JobEvent, (∀ e ∈ es, e.jobId = j) → es.foldl (·.handleAlone · s) t = t
  | [], _ => rfl
  | e :: es, hes => by
    rw [List.foldl_cons, hk.handleAlone_of_not_live hlive (hes e List.mem_cons_self)]
    exact hk.foldl_handleAlone_of_not_live hlive s es fun e' he' => hes e' (List.mem_cons_of_mem _ he')

/-- Events for a known job, handled one after another, apply to it in order up to the first that
ends it, and the job is then completed; later events are ignored.

**Proof sketch.** Induction on the events.  Each event applies to the job if it is live
(`afterUpdate_eq`), and keeps it known (`Known.applyEvent`); the event that ends it completes
it, which takes it off the live entries (`Known.complete`), so that the rest are ignored. -/
lemma Known.foldl_handleAlone (hk : t.Known j) (s : Server) {es : List JobEvent}
    (hes : ∀ e ∈ es, e.jobId = j) : es.foldl (·.handleAlone · s) t = t.takeEvents es s.contentAnswer := by
  induction es generalizing t with
  | nil => rfl
  | cons e es ih =>
    have he := hes e List.mem_cons_self
    have hes' : ∀ e' ∈ es, e'.jobId = j := fun e' he' => hes e' (List.mem_cons_of_mem _ he')
    obtain ⟨hk₁, hfin⟩ := hk.applyEvent he
    rw [List.foldl_cons, handleAlone, arrive_of_known (he ▸ hk)]
    dsimp only
    rw [afterUpdate_eq, takeEvents, applyUntilFinished_cons]
    rcases happly : t.applyEvent e with ⟨_ | f, t₁⟩
    · -- the event did not end the job: the rest apply to the updated job
      rw [happly] at hk₁
      exact ih hk₁ hes'
    · -- the event ended the job: it is completed, and the rest are ignored
      rw [happly] at hk₁ hfin
      obtain ⟨hk₂, hlive₂⟩ := hk₁.complete (hfin f rfl) (s.contentAnswer f.contentUri)
      exact hk₂.foldl_handleAlone_of_not_live hlive₂ s es hes'

/-! ### A group of events racing the fetch of their job -/

/-- The job `j` was never seen: it is not registered, fetched or live. -/
structure Unseen (t : JobTracker) (j : String) : Prop where
  not_registered : t.registered.contains j = false
  not_inFlight : t.inFlight.lookup j = none
  not_live : t.live.lookup j = none
  sorted : StrMap.Sorted t.live

/-- The tracker once the events of a group have all arrived while the fetch started by the
first is under way: the job is registered, and the events after the first are kept. -/
def raced (t : JobTracker) (j : String) (kept : List JobEvent) : JobTracker :=
  { t with registered := t.registered.insert j, inFlight := t.inFlight.insert j kept }

/-- The tracker once the fetch of `j` answered with a job shown here, before the events kept for it
apply. -/
def fetched (t : JobTracker) (j : String) (job : Job) : JobTracker :=
  { t with registered := t.registered.insert j, live := t.live.insert job.id job }

lemma Unseen.arrive_eq (hu : t.Unseen j) (he : e.jobId = j) :
    t.arrive e = (.unseen, t.raced j []) := by
  subst he
  simp [JobTracker.arrive, hu.not_inFlight, hu.not_registered, raced]

/-- An event for the job being fetched is kept after those kept before it. -/
lemma arrive_raced {kept : List JobEvent} (he : e.jobId = j) :
    (t.raced j kept).arrive e = (.kept, t.raced j (kept ++ [e])) := by
  subst he
  simp [arrive, raced, StrMap.lookup_insert_self, StrMap.insert_insert]

section Fetched

variable {kept : List JobEvent} {answer : ContentUri → Except ClientError ContentRecord}

/-- What the fetch started by the first event of a group finds once it answers: the events kept
for the job, and no fetch under way any more. -/
lemma Unseen.receive_raced (hu : t.Unseen j) (he : e.jobId = j) (r : Except ClientError Job) :
    (t.raced j kept).receive e r =
      match r with
      | .error err => (.error err, { t with registered := (t.registered.insert j).erase j })
      | .ok job =>
        if !t.shows job then (.ok none, { t with registered := t.registered.insert j })
        else
          let (finished, t') := (t.fetched j job).applyUntilFinished (e :: kept)
          (.ok (some finished), t') := by
  subst he
  have hkept : (t.raced e.jobId kept).inFlight.lookup e.jobId = some kept :=
    StrMap.lookup_insert_self _ _ _
  have hback : (t.raced e.jobId kept).inFlight.erase e.jobId = t.inFlight :=
    StrMap.erase_insert _ hu.not_inFlight
  unfold receive
  rw [hkept, hback]
  rfl

/-- A failed fetch forgets the job and the events kept for it. -/
lemma Unseen.afterFetch_error (hu : t.Unseen j) (he : e.jobId = j) (err : ClientError) :
    (t.raced j kept).afterFetch e (.error err) answer = t := by
  have hnot : j ∉ t.registered := (StrSet.contains_eq_false j t.registered).1 hu.not_registered
  rw [afterFetch, hu.receive_raced he]
  dsimp only
  rw [StrSet.erase_insert hnot]

/-- A job of another record stays registered, and the events kept for it are dropped. -/
lemma Unseen.afterFetch_hidden (hu : t.Unseen j) (he : e.jobId = j) {job : Job}
    (hs : t.shows job = false) :
    (t.raced j kept).afterFetch e (.ok job) answer = { t with registered := t.registered.insert j } := by
  rw [afterFetch, hu.receive_raced he]
  simp [hs]

/-- A job shown here goes live and takes the first event and the kept ones, in order. -/
lemma Unseen.afterFetch_shown (hu : t.Unseen j) (he : e.jobId = j) {job : Job}
    (hs : t.shows job = true) :
    (t.raced j kept).afterFetch e (.ok job) answer =
      (t.fetched j job).takeEvents (e :: kept) answer := by
  rw [afterFetch, hu.receive_raced he]
  simp only [hs, Bool.not_true, Bool.false_eq_true, if_false, takeEvents]

/-- The job a shown fetch ends is the one its events end when applied to the fetched job. -/
lemma Unseen.fetchEnds_shown (hu : t.Unseen j) (he : e.jobId = j) {job : Job}
    (hs : t.shows job = true) :
    (t.raced j kept).fetchEnds e (.ok job) = ((t.fetched j job).applyUntilFinished (e :: kept)).1 := by
  rw [fetchEnds, hu.receive_raced he]
  simp only [hs, Bool.not_true, Bool.false_eq_true, if_false]

end Fetched

/-- Once a fetch of another record's job answered, the job is known, and not live. -/
lemma Unseen.known_registered (hu : t.Unseen j) :
    ({ t with registered := t.registered.insert j } : JobTracker).Known j :=
  ⟨hu.not_inFlight, StrSet.contains_insert_self j t.registered, hu.sorted,
    fun _ h => nomatch hu.not_live.symm.trans h⟩

/-- Once a fetch of a job shown here answered, the job is known, and live under its own id. -/
lemma Unseen.known_fetched (hu : t.Unseen j) (job : Job) : (t.fetched j job).Known j := by
  refine ⟨hu.not_inFlight, StrSet.contains_insert_self j t.registered, hu.sorted.insert job.id job,
    fun job' h => ?_⟩
  change (t.live.insert job.id job).lookup j = some job' at h
  rw [StrMap.lookup_insert] at h
  split at h
  · next hj => cases h; exact hj.symm
  · exact nomatch hu.not_live.symm.trans h

/-- Handled alone, an event for a job never seen fetches it and finds nothing kept. -/
lemma Unseen.handleAlone_eq (hu : t.Unseen j) (he : e.jobId = j) (s : Server) :
    t.handleAlone e s = (t.raced j []).afterFetch e (s.jobAnswer j) s.contentAnswer := by
  rw [JobTracker.handleAlone, hu.arrive_eq he, he]

/-- When the fetch of a job never seen fails, each of its events, handled alone, fetches it again
and forgets it again. -/
lemma Unseen.foldl_handleAlone_of_error (hu : t.Unseen j) {s : Server} {err : ClientError}
    (hr : s.jobAnswer j = .error err) {es : List JobEvent} (hes : ∀ e ∈ es, e.jobId = j) :
    es.foldl (·.handleAlone · s) t = t := by
  induction es with
  | nil => rfl
  | cons e es ih =>
    have he := hes e List.mem_cons_self
    rw [List.foldl_cons, hu.handleAlone_eq he, hr, hu.afterFetch_error he]
    exact ih fun e' h => hes e' (List.mem_cons_of_mem _ h)

/-- Events racing the fetch of a job never seen, handled one after another instead, leave the
tracker as the race does.

**Proof sketch.** Handled alone, the first event fetches the job and finds no events kept.  If
the fetch fails, the job is forgotten and every later event fetches it again, with the same
answer.  If the job belongs to another record, it stays registered and not live, and the later
events are ignored.  If it is shown here, it goes live; the later events find it known, and
apply to it in order up to the first that ends it (`Known.foldl_handleAlone`), which is what the
race applies after the fetch. -/
theorem Unseen.foldl_handleAlone_raced (hu : t.Unseen j) (he : e.jobId = j) {rest : List JobEvent}
    (hrest : ∀ e' ∈ rest, e'.jobId = j) (s : Server) :
    (e :: rest).foldl (·.handleAlone · s) t =
      (t.raced j rest).afterFetch e (s.jobAnswer j) s.contentAnswer := by
  rw [List.foldl_cons, hu.handleAlone_eq he]
  cases hr : s.jobAnswer j with
  | error err =>
    rw [hu.afterFetch_error he, hu.afterFetch_error he]
    exact hu.foldl_handleAlone_of_error hr hrest
  | ok job =>
    cases hs : t.shows job with
    | false =>
      -- the job belongs to another record: the later events are ignored
      rw [hu.afterFetch_hidden he hs, hu.afterFetch_hidden he hs]
      exact hu.known_registered.foldl_handleAlone_of_not_live hu.not_live s rest hrest
    | true =>
      -- the job is shown here: the first event is the first of the events applied to it
      rw [hu.afterFetch_shown he hs, hu.afterFetch_shown he hs]
      have hk := hu.known_fetched job
      have hone : [e].foldl (·.handleAlone · s) (t.fetched j job) =
          (t.fetched j job).takeEvents [e] s.contentAnswer :=
        hk.foldl_handleAlone s (by simpa using he)
      rw [List.foldl_cons, List.foldl_nil] at hone
      rw [← hone, ← List.foldl_cons]
      exact hk.foldl_handleAlone s fun e' h => by
        rcases List.mem_cons.1 h with rfl | h
        · exact he
        · exact hrest e' h

end JobTracker

/-! ### The handling of an event, step by step -/

namespace JobWorld

open Proc

/-- What the fetch started by `e` does once the server has answered `r`. -/
def afterAnswer (e : JobEvent) (r : Except ClientError Job) :
    Proc JobWorld (Except ClientError EventOutcome) := do
  let step ← onTracker (·.receive e r)
  match step with
  | .error err => pure (.error err)
  | .ok none => pure (.ok .ignored)
  | .ok (some finished) => settleFinished finished .fetched

/-- What an event for a known job does. -/
def afterKnown (e : JobEvent) : Proc JobWorld (Except ClientError EventOutcome) := do
  let finished ← onTracker (·.update e)
  match finished with
  | none => pure (.ok .ignored)
  | some f => settleFinished f .updated

lemma handleEvent_eq (e : JobEvent) :
    handleEvent e = onTracker (·.arrive e) >>= fun arrival =>
      match arrival with
      | .kept => pure (.ok .buffered)
      | .unseen => fetchAndApply e
      | .known => afterKnown e := rfl

lemma fetchAndApply_eq (e : JobEvent) :
    fetchAndApply e = ask (Server.getJob e.jobId) >>= afterAnswer e := rfl

lemma finalize_eq (j : Job) :
    finalize j = ask (Server.getContent j.contentUri) >>= fun r => onTracker (·.complete j r) := rfl

lemma wp_ask {α : Type} (p : Proc Server α) (Q : α → JobWorld → Prop) (w : JobWorld) :
    wp (ask p) Q w ↔ wp p (fun a s => Q a { w with server := s }) w.server := by
  unfold ask
  refine wp_zoom ?_ ?_ ?_ p Q w <;> intros <;> rfl

lemma instant_ask {α : Type} (p : Proc Server α) (w : JobWorld) :
    Proc.Instant (ask p) w ↔ Proc.Instant p w.server := by
  unfold ask
  refine instant_zoom ?_ p w
  intros
  rfl

lemma wp_onTracker {α : Type} (f : JobTracker → α × JobTracker) (Q : α → JobWorld → Prop)
    (w : JobWorld) :
    wp (onTracker f) Q w ↔ Q (f w.tracker).1 { w with tracker := (f w.tracker).2 } := Iff.rfl

/-- The requests that completing the job that ended, if one did, makes: one read of its
record. -/
def completionCalls (f : Option Job) : List Call :=
  f.toList.map fun j => ⟨"get_content", j.contentUri.render, []⟩

/-- A completion makes one read of a record when a job ended, and no other request. -/
lemma length_filter_completionCalls (f : Option Job) (op : String) :
    ((completionCalls f).filter (·.operation == op)).length =
      if op = "get_content" then f.toList.length else 0 := by
  cases f with
  | none => simp [completionCalls]
  | some j =>
    by_cases h : op = "get_content"
    · simp [completionCalls, h]
    · simp [completionCalls, h, Ne.symm h]

/-! Each step below is stated with the exact tracker and the exact requests it leaves, whatever
its result. -/

lemma wp_finalize (j : Job) {Q : Except ClientError Unit → JobWorld → Prop} (w : JobWorld)
    (h : ∀ res, Q res ⟨(w.tracker.complete j (w.server.contentAnswer j.contentUri)).2,
      w.server.record (completionCalls (some j))⟩) :
    wp (finalize j) Q w := by
  rw [finalize_eq, wp_bind, wp_ask]
  simp only [Server.wp_getContent, wp_onTracker]
  exact h _

lemma instant_finalize (j : Job) (w : JobWorld) : Proc.Instant (finalize j) w := by
  rw [finalize_eq]
  refine Instant.bind ?_ fun _ _ => instant_modifyGet _ _
  rw [instant_ask]
  exact Server.instant_getContent _ _

variable {Q : Except ClientError EventOutcome → JobWorld → Prop}

lemma wp_settleFinished (f : Option Job) (o : EventOutcome) (w : JobWorld)
    (h : ∀ res, Q res ⟨JobTracker.completeIfFinished w.server.contentAnswer (f, w.tracker),
      w.server.record (completionCalls f)⟩) :
    wp (settleFinished f o) Q w := by
  cases f with
  | none =>
    show Q (.ok o) w
    simpa [JobTracker.completeIfFinished, completionCalls] using h (.ok o)
  | some j =>
    rw [settleFinished, wp_map]
    exact wp_finalize j w fun _ => h _

lemma instant_settleFinished (f : Option Job) (o : EventOutcome) (w : JobWorld) :
    Proc.Instant (settleFinished f o) w := by
  cases f with
  | none => trivial
  | some j =>
    rw [settleFinished, instant_map]
    exact instant_finalize j w

lemma wp_afterAnswer (e : JobEvent) (r : Except ClientError Job) (w : JobWorld)
    (h : ∀ res, Q res ⟨w.tracker.afterFetch e r w.server.contentAnswer,
      w.server.record (completionCalls (w.tracker.fetchEnds e r))⟩) :
    wp (afterAnswer e r) Q w := by
  unfold afterAnswer
  rw [wp_bind, wp_onTracker]
  unfold JobTracker.afterFetch JobTracker.fetchEnds at h
  rcases hr : w.tracker.receive e r with ⟨step, t'⟩
  simp only [hr] at h ⊢
  rcases step with err | _ | f
  · simpa [completionCalls] using h (.error err)
  · simpa [completionCalls] using h (.ok .ignored)
  · exact wp_settleFinished f .fetched _ h

lemma instant_afterAnswer (e : JobEvent) (r : Except ClientError Job) (w : JobWorld) :
    Proc.Instant (afterAnswer e r) w := by
  unfold afterAnswer
  refine Instant.bind (instant_modifyGet _ _) fun step w' => ?_
  rcases step with _ | _ | f
  · trivial
  · trivial
  · exact instant_settleFinished f .fetched w'

lemma wp_afterKnown (e : JobEvent) (w : JobWorld)
    (h : ∀ res, Q res ⟨w.tracker.afterUpdate e w.server.contentAnswer,
      w.server.record (completionCalls (w.tracker.updateEnds e))⟩) :
    wp (afterKnown e) Q w := by
  unfold afterKnown
  rw [wp_bind, wp_onTracker]
  unfold JobTracker.afterUpdate JobTracker.updateEnds at h
  rcases hu : w.tracker.update e with ⟨_ | f, t'⟩
  · simp only [hu] at h ⊢
    simpa [completionCalls] using h (.ok .ignored)
  · simp only [hu] at h ⊢
    exact wp_settleFinished f .updated _ h

lemma instant_afterKnown (e : JobEvent) (w : JobWorld) : Proc.Instant (afterKnown e) w := by
  unfold afterKnown
  refine Instant.bind (instant_modifyGet _ _) fun finished w' => ?_
  rcases finished with _ | f
  · trivial
  · exact instant_settleFinished f .updated w'

/-- An event handled with nothing else running leaves the tracker as `handleAlone` says, and
the server with only more requests logged. -/
lemma wp_handleEvent (e : JobEvent) (w : JobWorld)
    (h : ∀ res more, Q res ⟨w.tracker.handleAlone e w.server, w.server.record more⟩) :
    wp (handleEvent e) Q w := by
  rw [handleEvent_eq, wp_bind, wp_onTracker]
  unfold JobTracker.handleAlone at h
  rcases ha : w.tracker.arrive e with ⟨_ | _ | _, t'⟩ <;> simp only [ha] at h ⊢
  · -- kept: answered at once
    simpa using h (.ok .buffered) []
  · -- unseen: the job is fetched
    rw [fetchAndApply_eq, wp_bind, wp_ask]
    simp only [Server.wp_getJob]
    refine wp_afterAnswer e _ _ fun res => ?_
    simpa [Server.log_eq_record] using h res _
  · -- known: the event applies to the job if it is live
    exact wp_afterKnown e _ fun res => h res _

/-- An event that finds its job being fetched is kept, and answered at once. -/
lemma instant_handleEvent_of_kept {e : JobEvent} {w : JobWorld} {t' : JobTracker}
    (ha : w.tracker.arrive e = (.kept, t')) : Proc.Instant (handleEvent e) w := by
  rw [handleEvent_eq, instant_bind]
  refine ⟨instant_modifyGet _ _, ?_⟩
  rw [wp_onTracker, ha]
  trivial

lemma wp_handleEvent_of_kept {e : JobEvent} {w : JobWorld} {t' : JobTracker}
    (ha : w.tracker.arrive e = (.kept, t')) (h : Q (.ok .buffered) ⟨t', w.server⟩) :
    wp (handleEvent e) Q w := by
  rw [handleEvent_eq, wp_bind, wp_onTracker, ha]
  exact h

/-- The first event for a job never seen registers it, asks the server for it, and sleeps for the
server's delay; the answer is then read, and applied. -/
lemma sleepsThen_handleEvent_of_unseen {e : JobEvent} {w : JobWorld} {t' : JobTracker}
    (ha : w.tracker.arrive e = (.unseen, t')) {d : Nat} (hd : w.server.jobDelay = some (d + 1))
    {P : Nat → Proc JobWorld (Except ClientError EventOutcome) → JobWorld → Prop}
    (h : P (d + 1) (ask (Proc.gets (·.jobAnswer e.jobId)) >>= afterAnswer e)
      ⟨t', w.server.log "get_job" e.jobId []⟩) :
    SleepsThen (handleEvent e) P w := by
  rw [handleEvent_eq]
  refine SleepsThen.bind_right _ (instant_modifyGet _ _) ?_
  rw [wp_onTracker, ha]
  show SleepsThen (fetchAndApply e) P ⟨t', w.server⟩
  rw [fetchAndApply_eq]
  refine SleepsThen.bind_left _ (SleepsThen.zoom ?_ ?_ ?_ (Server.sleepsThen_getJob hd h))
    <;> intros <;> rfl

/-- Once the delay is over, the answer is read and applied at once. -/
lemma instant_answer (e : JobEvent) (w : JobWorld) :
    Proc.Instant (ask (Proc.gets (·.jobAnswer e.jobId)) >>= afterAnswer e) w :=
  Instant.bind (by rw [instant_ask]; trivial) fun r w' => instant_afterAnswer e r w'

lemma wp_answer (e : JobEvent) (w : JobWorld)
    (h : ∀ res, Q res ⟨w.tracker.afterFetch e (w.server.jobAnswer e.jobId) w.server.contentAnswer,
      w.server.record (completionCalls (w.tracker.fetchEnds e (w.server.jobAnswer e.jobId)))⟩) :
    wp (ask (Proc.gets (·.jobAnswer e.jobId)) >>= afterAnswer e) Q w := by
  rw [wp_bind, wp_ask]
  exact wp_afterAnswer e _ _ h

/-! ### A group of events racing the fetch of their job -/

/-- Events for the job being fetched are each kept, in order, and answered at once. -/
lemma instantAll_kept {t : JobTracker} {j : String} (s : Server) {rest : List JobEvent}
    (hrest : ∀ e ∈ rest, e.jobId = j) :
    ∀ {kept : List JobEvent} {R : List (Except ClientError EventOutcome) → JobWorld → Prop},
      R (rest.map fun _ => .ok .buffered) ⟨t.raced j (kept ++ rest), s⟩ →
        InstantAll (rest.map handleEvent) R ⟨t.raced j kept, s⟩ := by
  induction rest with
  | nil =>
    intro kept R h
    simp only [List.map_nil, List.append_nil] at h
    exact h
  | cons e rest ih =>
    intro kept R h
    have ha : (t.raced j kept).arrive e = (.kept, t.raced j (kept ++ [e])) :=
      JobTracker.arrive_raced (hrest e List.mem_cons_self)
    refine ⟨instant_handleEvent_of_kept ha, wp_handleEvent_of_kept ha ?_⟩
    exact ih (fun e' h' => hrest e' (List.mem_cons_of_mem _ h')) (by simpa using h)

/-- A group of events for a job never seen, racing its fetch: the first asks for the job and
sleeps for the server's delay while the others are kept and answered at once; the answer is
then read, and the kept events applied after the first.  The group ends when the delay does.

**Proof sketch.** The first handler runs up to its sleep (`sleepsThen_handleEvent_of_unseen`),
the others run to their end in the same poll (`instantAll_kept`), and the first ends in the poll
after its wake (`instant_answer`, `wp_answer`); `runFrom_joinAll_sleepsThen` puts the three
polls together. -/
theorem runFrom_race {w : JobWorld} {j : String} (hu : w.tracker.Unseen j) {d : Nat}
    (hd : w.server.jobDelay = some (d + 1)) {e : JobEvent} {rest : List JobEvent}
    (he : e.jobId = j) (hrest : ∀ e' ∈ rest, e'.jobId = j) (now : Nat) :
    ∃ rs w', (∀ fuel, runFrom (fuel + 3) now (joinAll ((e :: rest).map handleEvent)) w =
        .finished rs w' (now + (d + 1))) ∧
      rs.tail = rest.map (fun _ => .ok .buffered) ∧
      w'.tracker = (w.tracker.raced j rest).afterFetch e (w.server.jobAnswer j)
        w.server.contentAnswer ∧
      w'.server = (w.server.log "get_job" j []).record
        (completionCalls ((w.tracker.raced j rest).fetchEnds e (w.server.jobAnswer j))) := by
  subst he
  rw [List.map_cons]
  obtain ⟨ms, rs, w', hrun, hms, hrs, ht, hs⟩ := runFrom_joinAll_sleepsThen
    (Q := fun ms rs w' => ms = d + 1 ∧ rs.tail = rest.map (fun _ => .ok .buffered) ∧
      w'.tracker = (w.tracker.raced e.jobId rest).afterFetch e (w.server.jobAnswer e.jobId)
        w.server.contentAnswer ∧
      w'.server = (w.server.log "get_job" e.jobId []).record
        (completionCalls ((w.tracker.raced e.jobId rest).fetchEnds e (w.server.jobAnswer e.jobId))))
    (sleepsThen_handleEvent_of_unseen (hu.arrive_eq rfl) hd
      ⟨Nat.succ_pos d, instantAll_kept _ hrest
        ⟨instant_answer e _, wp_answer e _ fun _ => ⟨rfl, rfl, by simp, by simp⟩⟩⟩) now
  subst hms
  exact ⟨rs, w', hrun, hrs, ht, hs⟩

/-! ### The same events handled one after another -/

/-- Job events read one after another leave the tracker as handling each alone, in order, does,
and the server with only more requests logged. -/
lemma wp_readReceipts_jobs {R : Unit → JobWorld → Prop} (es : List JobEvent) (w : JobWorld)
    (h : ∀ more, R () ⟨es.foldl (·.handleAlone · w.server) w.tracker, w.server.record more⟩) :
    wp (readReceipts (es.map fun e => .event (.job e))) R w := by
  induction es generalizing w with
  | nil =>
    show R () w
    simpa using h []
  | cons e es ih =>
    show wp (handleEvent e >>= fun _ => readReceipts (es.map fun e => .event (.job e))) R w
    rw [wp_bind]
    refine wp_handleEvent e w fun _ more => ih _ fun more' => ?_
    simpa using h (more ++ more')

lemma finishes_ask {α : Type} (p : Proc Server α) (w : JobWorld) :
    Finishes (ask p) w ↔ Finishes p w.server := by
  unfold ask
  refine finishes_zoom ?_ p w
  intros
  rfl

/-- An event handled with nothing else running is handled to its end. -/
lemma finishes_handleEvent (e : JobEvent) (w : JobWorld) : Finishes (handleEvent e) w := by
  rw [handleEvent_eq, finishes_bind]
  refine ⟨trivial, ?_⟩
  rw [wp_onTracker]
  rcases w.tracker.arrive e with ⟨_ | _ | _, t'⟩
  · trivial
  · show Finishes (fetchAndApply e) ⟨t', w.server⟩
    rw [fetchAndApply_eq, finishes_bind, finishes_ask, wp_ask]
    refine ⟨Server.finishes_getJob _ _, ?_⟩
    simp only [Server.wp_getJob]
    exact (instant_afterAnswer e _ _).finishes
  · exact (instant_afterKnown e _).finishes

lemma finishes_readReceipts_jobs (es : List JobEvent) (w : JobWorld) :
    Finishes (readReceipts (es.map fun e => .event (.job e))) w := by
  induction es generalizing w with
  | nil => trivial
  | cons e es ih =>
    show Finishes (handleEvent e >>= fun _ => readReceipts (es.map fun e => .event (.job e))) w
    rw [finishes_bind]
    exact ⟨finishes_handleEvent e w, wp_handleEvent e w fun _ _ => ih _⟩

/-! ### The race and the events one after another -/

/-- A group of events for a job never seen that races the job's fetch: the job is asked for
once, every event but the first is answered at once as kept, and the tracker ends as handling
the same events one after another, which asks for the job again after each failed fetch, leaves
it.  When the fetch finds a job shown here, the events apply to it in order up to the first
that ends it, and the job is then completed, with one read of its record.

**Proof sketch.** `runFrom_race` gives the run of the group, whose tracker is the fetch's answer
applied to the events kept; `Unseen.foldl_handleAlone_raced` shows that handling the events one
after another reaches the same tracker, and `wp_readReceipts_jobs` and
`finishes_readReceipts_jobs` that the program's reader of events does that handling. -/
theorem race_events_fetch_once {w : JobWorld} {j : String} (hu : w.tracker.Unseen j) {d : Nat}
    (hd : w.server.jobDelay = some (d + 1)) {e : JobEvent} {rest : List JobEvent}
    (he : ∀ e' ∈ e :: rest, e'.jobId = j) (now : Nat) :
    ∃ rs w', (∀ fuel, runFrom (fuel + 3) now (joinAll ((e :: rest).map handleEvent)) w =
        .finished rs w' (now + (d + 1))) ∧
      rs.tail = rest.map (fun _ => .ok .buffered) ∧
      w'.server.callCount "get_job" = w.server.callCount "get_job" + 1 ∧
      (∃ w'', Reaches (readReceipts ((e :: rest).map fun e => .event (.job e))) w w'') ∧
      (∀ w'', Reaches (readReceipts ((e :: rest).map fun e => .event (.job e))) w w'' →
        w''.tracker = w'.tracker) ∧
      ∀ job, w.server.jobs.lookup j = some job → w.tracker.shows job = true →
        w'.tracker = (w.tracker.fetched j job).takeEvents (e :: rest) w.server.contentAnswer ∧
        w'.server.callCount "get_content" = w.server.callCount "get_content" +
          ((w.tracker.fetched j job).applyUntilFinished (e :: rest)).1.toList.length := by
  have he₁ : e.jobId = j := he e List.mem_cons_self
  have hrest : ∀ e' ∈ rest, e'.jobId = j := fun e' h => he e' (List.mem_cons_of_mem _ h)
  obtain ⟨rs, w', hrun, hrs, ht, hs⟩ := runFrom_race hu hd he₁ hrest now
  -- handled one after another, the events reach the tracker the race ends with
  have hseq : ∀ w'', Reaches (readReceipts ((e :: rest).map fun e => .event (.job e))) w w'' →
      w''.tracker = w'.tracker := by
    intro w'' hr
    refine wp_reaches (P := fun w'' => w''.tracker = w'.tracker) ?_ hr
    refine wp_readReceipts_jobs _ w fun _ => ?_
    rw [ht]
    exact hu.foldl_handleAlone_raced he₁ hrest w.server
  refine ⟨rs, w', hrun, hrs, ?_, ?_, hseq, fun job hjob hshow => ?_⟩
  · -- the completion only reads a record
    rw [hs, Server.callCount_record, Server.log_eq_record, Server.callCount_record,
      length_filter_completionCalls]
    simp
  · obtain ⟨fuel, a, w'', clock, hr⟩ := (finishes_readReceipts_jobs (e :: rest) w).runFrom now
    exact ⟨w'', fuel, now, a, clock, hr⟩
  · have hr : w.server.jobAnswer j = .ok job := by simp [Server.jobAnswer, hjob]
    refine ⟨by rw [ht, hr, hu.afterFetch_shown he₁ hshow], ?_⟩
    rw [hs, hr, hu.fetchEnds_shown he₁ hshow, Server.callCount_record, Server.log_eq_record,
      Server.callCount_record, length_filter_completionCalls]
    simp

/-- Two events, the second ending the job, for a job the server does not hold, racing its fetch
on an empty tracker. -/
theorem race_events_fetch_once_missing_job :
    let w : JobWorld := ⟨{}, { jobDelay := some 5 }⟩
    let j := "job-1"
    let e : JobEvent := { jobId := j, status := .running }
    let rest : List JobEvent := [{ jobId := j, status := .complete }]
    ∃ rs w', (∀ fuel, runFrom (fuel + 3) 0 (joinAll ((e :: rest).map handleEvent)) w =
        .finished rs w' (0 + (4 + 1))) ∧
      rs.tail = rest.map (fun _ => .ok .buffered) ∧
      w'.server.callCount "get_job" = w.server.callCount "get_job" + 1 ∧
      (∃ w'', Reaches (readReceipts ((e :: rest).map fun e => .event (.job e))) w w'') ∧
      (∀ w'', Reaches (readReceipts ((e :: rest).map fun e => .event (.job e))) w w'' →
        w''.tracker = w'.tracker) ∧
      ∀ job, w.server.jobs.lookup j = some job → w.tracker.shows job = true →
        w'.tracker = (w.tracker.fetched j job).takeEvents (e :: rest) w.server.contentAnswer ∧
        w'.server.callCount "get_content" = w.server.callCount "get_content" +
          ((w.tracker.fetched j job).applyUntilFinished (e :: rest)).1.toList.length :=
  race_events_fetch_once ⟨rfl, rfl, rfl, StrMap.sorted_nil⟩ rfl (by simp) 0

end JobWorld

end CorpusBench
