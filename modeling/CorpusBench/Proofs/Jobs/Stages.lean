import CorpusBench.Proofs.Jobs.Manager

/-!
# The stages of the events a manager handles

A manager handles any number of events side by side, and the scheduler switches between them
only where one waits.  The handling of an event is therefore always at one of three stages
(`JobWorld.Stage`): not yet started; asleep until the server answers the fetch of its job,
holding that job's entry among the fetches under way; or finished.  Each poll moves one event on
by one stretch made of the tracker's steps (`JobTracker.arrive`, `afterFetch`, `afterUpdate`).

So a property of trackers that each of those steps keeps (`JobTracker.KeptByEvents`) is kept by
every poll, whatever the other events did meanwhile.  The one step that needs more than the
property, the answer to a fetch, finds its job still being fetched: the waiting event holds that
entry, and no other event takes it out.  This is the argument of `JobWorld.guards_handleEvent`,
with the stages made explicit, so that a property that only holds from some point on — a job
that has finished stays finished — can be carried along the runs that follow that point, by
events that were already under way when it began to hold.

## Main definitions

* `JobTracker.KeptByEvents` — a property kept by each step of the handling of an
  event.
* `JobTracker.Ordered` — the events kept for a job being fetched are that job's, and
  the live entries are kept in order.
* `JobWorld.awaitingAnswer` — what an event asleep until the answer about its job
  does once it wakes.
* `JobWorld.Stage`, `JobWorld.Staged`.

## Main results

* `JobWorld.poll_handleEvent` — a poll handles a fresh event to its end, or leaves
  it awaiting the answer about its job.
* `JobWorld.Stage.poll` — a poll moves an event to its next stage, keeping the
  property and moving the fetches under way by the change in what the event holds.
* `JobWorld.Reachable.staged` — the events of a reachable configuration are staged,
  over a tracker that is ordered.
-/

namespace CorpusBench

namespace Server

/-- Retrying a job answers the job of that id. -/
lemma JobsKeyed.applyRetry_id {s : Server} (h : s.JobsKeyed) {jobId : String} {job : Job}
    (hr : (s.applyRetry jobId).1 = .ok job) : job.id = jobId := by
  unfold Server.applyRetry at hr
  split at hr
  · cases hr
  · next j hj =>
    split at hr
    · cases hr
    · cases hr
      exact h _ (StrMap.mem_of_lookup hj)

end Server

namespace JobTracker

variable {t : JobTracker} {P : JobTracker → Prop}

/-- A property of trackers that each step of the handling of an event keeps, where the step is
made: as the event arrives, once the fetch it started is answered with a job of the id asked
for, and as it is applied to a known job. -/
structure KeptByEvents (P : JobTracker → Prop) : Prop where
  arrive : ∀ {t : JobTracker} (e : JobEvent), t.Sound → P t → P (t.arrive e).2
  afterFetch : ∀ {t : JobTracker} (e : JobEvent) (r : Except ClientError Job)
    (answer : ContentUri → Except ClientError ContentRecord), t.Sound →
    e.jobId ∈ t.inFlight.keys → (∀ job, r = .ok job → job.id = e.jobId) → P t →
    P (t.afterFetch e r answer)
  afterUpdate : ∀ {t : JobTracker} (e : JobEvent)
    (answer : ContentUri → Except ClientError ContentRecord), t.Sound → P t →
    P (t.afterUpdate e answer)

/-- An event handled with nothing else running keeps such a property. -/
lemma KeptByEvents.handleAlone (hP : KeptByEvents P) (ht : t.Sound) {s : Server}
    (hs : s.JobsKeyed) (e : JobEvent) (hPt : P t) : P (t.handleAlone e s) := by
  have ha := hP.arrive e ht hPt
  have hsound := ht.arrive e
  unfold JobTracker.handleAlone
  rcases harr : t.arrive e with ⟨_ | _ | _, t'⟩ <;> rw [harr] at ha hsound <;> dsimp only
  · exact ha
  · -- never seen: the fetch it starts is the one answered
    have hJ : e.jobId ∈ t'.inFlight.keys := by
      rw [(arrive_unseen harr).2, StrMap.mem_keys_insert]
      exact .inl rfl
    exact hP.afterFetch e _ _ hsound hJ (fun _ hj => hs.jobAnswer_id hj) ha
  · exact hP.afterUpdate e _ hsound ha

/-! ### Events kept by job, live entries in order -/

/-- The events kept for a job being fetched are all for that job, and the live entries are kept
in order of their ids, so that taking one out leaves no other. -/
structure Ordered (t : JobTracker) : Prop where
  kept : ∀ p ∈ t.inFlight, ∀ ev ∈ p.2, ev.jobId = p.1
  live_sorted : StrMap.Sorted t.live

lemma ordered_of_inFlight_eq_nil (hnone : t.inFlight = []) (hs : StrMap.Sorted t.live) :
    t.Ordered :=
  ⟨fun p hp => by simp [hnone] at hp, hs⟩

lemma sorted_live_applyEvent (hs : StrMap.Sorted t.live) (e : JobEvent) :
    StrMap.Sorted (t.applyEvent e).2.live := by
  unfold applyEvent
  cases t.live.lookup e.jobId with
  | none => exact hs
  | some _ => exact hs.insert _ _

lemma sorted_live_applyUntilFinished :
    ∀ {t : JobTracker} (es : List JobEvent), StrMap.Sorted t.live →
      StrMap.Sorted (t.applyUntilFinished es).2.live
  | _, [], hs => hs
  | t, e :: es, hs => by
    have h₁ := sorted_live_applyEvent hs e
    rw [applyUntilFinished_cons]
    rcases happly : t.applyEvent e with ⟨_ | f, t₁⟩ <;> rw [happly] at h₁
    · exact sorted_live_applyUntilFinished es h₁
    · exact h₁

@[simp] lemma live_complete (t : JobTracker) (f : Job) (r : Except ClientError ContentRecord) :
    (t.complete f r).2.live = t.live.erase f.id := by
  cases r <;> rfl

@[simp] lemma registered_complete (t : JobTracker) (f : Job)
    (r : Except ClientError ContentRecord) : (t.complete f r).2.registered = t.registered := by
  cases r <;> rfl

lemma sorted_live_completeIfFinished (answer : ContentUri → Except ClientError ContentRecord)
    {x : Option Job × JobTracker} (hs : StrMap.Sorted x.2.live) :
    StrMap.Sorted (completeIfFinished answer x).live := by
  obtain ⟨_ | f, t⟩ := x
  · exact hs
  · simpa [completeIfFinished] using hs.erase f.id

/-- Arriving events are kept with the events of their own job. -/
lemma Ordered.arrive (h : t.Ordered) (e : JobEvent) : (t.arrive e).2.Ordered := by
  unfold JobTracker.arrive
  cases hkept : t.inFlight.lookup e.jobId with
  | some kept =>
    refine ⟨fun p hp ev hev => ?_, h.live_sorted⟩
    rcases StrMap.mem_insert_cases hp with rfl | hp
    · rcases List.mem_append.1 hev with hev | hev
      · exact h.kept _ (StrMap.mem_of_lookup hkept) ev hev
      · rw [List.mem_singleton.1 hev]
    · exact h.kept p hp ev hev
  | none =>
    dsimp only
    split
    · exact h
    · refine ⟨fun p hp ev hev => ?_, h.live_sorted⟩
      rcases StrMap.mem_insert_cases hp with rfl | hp
      · cases hev
      · exact h.kept p hp ev hev

lemma Ordered.afterFetch (h : t.Ordered) (e : JobEvent) (r : Except ClientError Job)
    (answer : ContentUri → Except ClientError ContentRecord) :
    (t.afterFetch e r answer).Ordered := by
  refine ⟨fun p hp => ?_, ?_⟩
  · rw [inFlight_afterFetch] at hp
    exact h.kept p ((StrMap.erase_sublist _ _).subset hp)
  · rw [afterFetch_eq]
    cases r with
    | error _ => exact h.live_sorted
    | ok job =>
      dsimp only
      split
      · exact sorted_live_completeIfFinished answer
          (sorted_live_applyUntilFinished _ (h.live_sorted.insert _ _))
      · exact h.live_sorted

lemma Ordered.afterUpdate (h : t.Ordered) (e : JobEvent)
    (answer : ContentUri → Except ClientError ContentRecord) :
    (t.afterUpdate e answer).Ordered := by
  refine ⟨fun p hp => ?_, ?_⟩
  · rw [inFlight_afterUpdate] at hp
    exact h.kept p hp
  · rw [afterUpdate_eq]
    exact sorted_live_completeIfFinished answer (sorted_live_applyEvent h.live_sorted e)

lemma keptByEvents_ordered : KeptByEvents Ordered where
  arrive e _ h := h.arrive e
  afterFetch e r answer _ _ _ h := h.afterFetch e r answer
  afterUpdate e answer _ h := h.afterUpdate e answer

lemma sorted_live_showLive (hs : StrMap.Sorted t.live) (job : Job) :
    StrMap.Sorted (t.showLive job).live := by
  unfold showLive
  dsimp only
  split
  · exact hs.insert _ _
  · exact hs

lemma sorted_live_foldl_loadListed {r : ContentRecord} :
    ∀ (jobs : List Job) (t : JobTracker), StrMap.Sorted t.live →
      StrMap.Sorted (jobs.foldl (loadListed r) t).live
  | [], _, hs => hs
  | j :: jobs, t, hs => by
    refine sorted_live_foldl_loadListed jobs _ ?_
    unfold loadListed
    dsimp only
    split
    · exact hs
    · exact hs.insert _ _

/-- A load shows the live jobs of the listing in order. -/
lemma sorted_live_loadListing (t : JobTracker) (u : ContentUri) (jobs : List Job)
    (r : ContentRecord) : StrMap.Sorted (t.loadListing u jobs r).live := by
  rw [loadListing_eq, (mem_foldl_loadEntry default r.provenance _).1]
  exact sorted_live_foldl_loadListed jobs _ StrMap.sorted_nil

end JobTracker

namespace JobWorld

open Proc

variable {P : JobTracker → Prop} {w : JobWorld}

/-- A consistent world whose tracker has the property `P`. -/
def ConsistentWith (P : JobTracker → Prop) (w : JobWorld) : Prop := Consistent w ∧ P w.tracker

/-! ### A fresh event, polled -/

/-- What an event asleep until the server answers about its job does once it wakes: it reads
the answer and applies it. -/
def awaitingAnswer (e : JobEvent) : Proc JobWorld (Except ClientError EventOutcome) :=
  ask (Proc.gets (·.jobAnswer e.jobId)) >>= afterAnswer e

/-- A poll of a fresh event handles it to its end, or — the first event for a job never seen,
when the server takes a while to answer for jobs — registers the job, starts its fetch and
leaves the event asleep until the answer, awaiting it. -/
lemma poll_handleEvent (e : JobEvent) (w : JobWorld) (now : Nat) :
    (∃ a w' m, Proc.poll now (handleEvent e) w = (.done a, w', m)) ∨
      ∃ t' d, w.tracker.arrive e = (.unseen, t') ∧ w.server.jobDelay = some (d + 1) ∧
        Proc.poll now (handleEvent e) w = (.sleepUntil (now + (d + 1)) (awaitingAnswer e),
          ⟨t', w.server.log "get_job" e.jobId []⟩, true) := by
  by_cases hwait : ∃ t' d, w.tracker.arrive e = (.unseen, t') ∧ w.server.jobDelay = some (d + 1)
  · obtain ⟨t', d, ha, hd⟩ := hwait
    obtain ⟨ms, q, s', hpoll, rfl, rfl, rfl⟩ := SleepsThen.poll now
      (sleepsThen_handleEvent_of_unseen (P := fun ms q s' => ms = d + 1 ∧ q = awaitingAnswer e ∧
        s' = ⟨t', w.server.log "get_job" e.jobId []⟩) ha hd ⟨rfl, rfl, rfl⟩)
    exact .inr ⟨t', d, ha, hd, hpoll⟩
  · have hinst := instant_handleEvent fun t' ha d hd => hwait ⟨t', d, ha, hd⟩
    obtain ⟨a, w', m, hpoll, -⟩ := Instant.poll now hinst (wp_true_of_instant _ _ hinst)
    exact .inl ⟨a, w', m, hpoll⟩

/-- Once awake, an event applies the answer about its job within the poll. -/
lemma poll_awaitingAnswer (e : JobEvent) (w : JobWorld) (now : Nat) :
    ∃ a w' m, Proc.poll now (awaitingAnswer e) w = (.done a, w', m) := by
  obtain ⟨a, w', m, hpoll, -⟩ :=
    Instant.poll now (instant_answer e w) (wp_true_of_instant _ _ (instant_answer e w))
  exact ⟨a, w', m, hpoll⟩

/-! ### Stages -/

/-- The stages of the handling of an event where the scheduler leaves it, with what it holds of
the fetches under way: not started, holding nothing; asleep until the server answers about its
job, holding that job's fetch; or finished, holding nothing. -/
inductive Stage : (String → Nat) → Proc JobWorld Unit → Prop
  | fresh (e : JobEvent) : Stage 0 ((fun _ => ()) <$> handleEvent e)
  | waiting (e : JobEvent) (t : Nat) :
      Stage (Pi.single e.jobId 1) (.sleepUntil t ((fun _ => ()) <$> awaitingAnswer e))
  | done : Stage 0 (.done ())

/-- A poll moves an event to its next stage.  The stretch it runs keeps any property kept by the
steps of the handling of events, and moves the fetches under way by the change in what the event
holds: it starts the fetch of the job it then waits for, or ends the fetch it held.

**Proof sketch.** A fresh event is handled to its end, as `handleAlone` says, or starts a fetch
and sleeps (`poll_handleEvent`); a waiting event either sleeps on or, its answer come, applies
it, its job still being fetched since it holds the fetch (`settled_answer`). -/
lemma Stage.poll (hP : JobTracker.KeptByEvents P) {n : String → Nat} {p : Proc JobWorld Unit}
    (hp : Stage n p) (hw : ConsistentWith P w) (hcov : ∀ k, n k ≤ fetching k w) (now : Nat) :
    ∃ m, Settled (ConsistentWith P) fetching w n (Proc.poll now p w).2.1 m ∧
      Stage m (Proc.poll now p w).1 := by
  cases hp with
  | fresh e =>
    rw [poll_map]
    rcases poll_handleEvent e w now with ⟨a, w', m, hpoll⟩ | ⟨t', d, ha, hd, hpoll⟩
    · -- handled within the poll, as with nothing else running
      rw [hpoll]
      refine ⟨0, wp_of_poll_eq_done (Q := fun _ w' => Settled (ConsistentWith P) fetching w 0 w' 0)
        (wp_handleEvent e w fun _ more => ?_) hpoll, .done⟩
      exact (settled_handleAlone hw.1 e more).and (hP.handleAlone hw.1.1 hw.1.2 e hw.2)
    · -- asleep until the answer, holding the fetch it started
      rw [hpoll]
      have hPt : P t' := by simpa [ha] using hP.arrive e hw.1.1 hw.2
      exact ⟨_, (settled_arrive_unseen hw.1 ha _ (hw.1.2.log _ _ _)).and hPt, .waiting e _⟩
  | waiting e t =>
    have hJ := mem_inFlight_of_covers hcov
    by_cases ht : t ≤ now
    · -- the answer has come, and is applied at once
      obtain ⟨a, w', m, hpoll⟩ := poll_awaitingAnswer e w now
      rw [poll_sleepUntil_of_le ht, poll_map, hpoll]
      refine ⟨0, wp_of_poll_eq_done (Q := fun _ w' => Settled (ConsistentWith P) fetching w _ w' 0)
        (wp_answer e w fun _ => ?_) hpoll, .done⟩
      exact (settled_answer hw.1 hJ _).and
        (hP.afterFetch e _ _ hw.1.1 hJ (fun _ hj => hw.1.2.jobAnswer_id hj) hw.2)
    · rw [poll_sleepUntil_of_lt (Nat.lt_of_not_le ht)]
      exact ⟨_, Settled.refl hw _, .waiting e t⟩
  | done => exact ⟨0, Settled.refl hw 0, .done⟩

/-! ### Events side by side -/

/-- Events handled side by side, each at a stage, in a consistent world whose tracker has `P`,
the fetches under way being those the waiting events hold. -/
structure Staged (P : JobTracker → Prop) (w : JobWorld) (held : List (String → Nat))
    (ps : List (Proc JobWorld Unit)) : Prop where
  valid : ConsistentWith P w
  stages : List.Forall₂ Stage held ps
  sum_eq : ∀ k, fetching k w = (held.map (· k)).sum

variable {held : List (String → Nat)} {ps : List (Proc JobWorld Unit)}

/-- An event joins the others, holding nothing. -/
lemma Staged.cons (h : Staged P w held ps) (e : JobEvent) :
    Staged P w (0 :: held) ((fun _ => ()) <$> handleEvent e :: ps) :=
  ⟨h.valid, .cons (.fresh e) h.stages, fun k => by simp [h.sum_eq k]⟩

/-- A change of the world that keeps the property and every count keeps the events staged. -/
lemma Staged.of_world (h : Staged P w held ps) {w' : JobWorld} (hw' : ConsistentWith P w')
    (hc : ∀ k, fetching k w' = fetching k w) : Staged P w' held ps :=
  ⟨hw', h.stages, fun k => (hc k).trans (h.sum_eq k)⟩

/-- Events staged over a tracker with one property are staged over it with any other it has. -/
lemma Staged.retarget {Q : JobTracker → Prop} (h : Staged P w held ps) (hQ : Q w.tracker) :
    Staged Q w held ps :=
  ⟨⟨h.valid.1, hQ⟩, h.stages, h.sum_eq⟩

/-- The stages of the events before the one at `pre.length`, its own, and those after it. -/
lemma Staged.split {pre post : List (Proc JobWorld Unit)} {p : Proc JobWorld Unit}
    (h : Staged P w held (pre ++ p :: post)) :
    ∃ hpre n hpost, held = hpre ++ n :: hpost ∧ List.Forall₂ Stage hpre pre ∧ Stage n p ∧
      List.Forall₂ Stage hpost post := by
  have hpre := List.forall₂_take_append held pre (p :: post) h.stages
  obtain ⟨n, rest, hp, hpost, hrest⟩ :=
    List.forall₂_cons_right_iff.1 (List.forall₂_drop_append held pre (p :: post) h.stages)
  refine ⟨held.take pre.length, n, rest, ?_, hpre, hp, hpost⟩
  have hheld := List.take_append_drop pre.length held
  rw [hrest] at hheld
  exact hheld.symm

/-- A poll of any one of the events keeps them staged, and keeps the property. -/
lemma Staged.poll (hP : JobTracker.KeptByEvents P) {pre post : List (Proc JobWorld Unit)}
    {p : Proc JobWorld Unit} (h : Staged P w held (pre ++ p :: post)) (now : Nat) :
    ∃ held', Staged P (Proc.poll now p w).2.1 held' (pre ++ (Proc.poll now p w).1 :: post) := by
  obtain ⟨hpre, n, hpost, rfl, hpre', hp, hpost'⟩ := h.split
  have hsum := h.sum_eq
  simp only [List.map_append, List.map_cons, List.sum_append, List.sum_cons] at hsum
  obtain ⟨m, hset, hp'⟩ := hp.poll hP h.valid (fun k => by have := hsum k; omega) now
  refine ⟨hpre ++ m :: hpost, hset.1, List.rel_append hpre' (.cons hp' hpost'), fun k => ?_⟩
  simp only [List.map_append, List.map_cons, List.sum_append, List.sum_cons]
  have := hset.2 k
  have := hsum k
  omega

/-- A finished event holds nothing, and leaves. -/
lemma Staged.drop {pre post : List (Proc JobWorld Unit)}
    (h : Staged P w held (pre ++ .done () :: post)) :
    ∃ held', Staged P w held' (pre ++ post) := by
  obtain ⟨hpre, n, hpost, rfl, hpre', hp, hpost'⟩ := h.split
  -- a finished event is at the last stage, which holds nothing
  have hzero : n = 0 := by cases hp; rfl
  subst hzero
  refine ⟨hpre ++ hpost, h.valid, List.rel_append hpre' hpost', fun k => ?_⟩
  have := h.sum_eq k
  simpa using this

/-- With no event under way there is no fetch under way: the operations other than events run
at rest. -/
lemma Staged.atRest (h : Staged P w held []) : AtRest w := by
  refine ⟨h.valid.1, List.eq_nil_of_map_eq_nil (f := Prod.fst)
    (List.eq_nil_iff_forall_not_mem.2 fun j hj => ?_)⟩
  have hheld : held = [] := List.forall₂_nil_right_iff.1 h.stages
  have := h.sum_eq j
  simp [fetching, StrMap.keys, hj, hheld] at this

/-- An operation that runs at rest, keeping the invariant at rest and the property, leaves no
event under way. -/
lemma Staged.rest (h : Staged P w held []) {w' : JobWorld}
    (hop : AtRest w → P w.tracker → AtRest w' ∧ P w'.tracker) :
    Staged P w' [] [] := by
  obtain ⟨hw', hP'⟩ := hop h.atRest h.valid.2
  exact ⟨⟨hw'.1, hP'⟩, .nil, fun j => by simp [fetching, StrMap.keys, hw'.2]⟩

/-! ### What the operations at rest do to the tracker -/

/-- A load leaves the tracker alone, or shows the listing of the record's jobs the server held. -/
lemma wp_loadJobs_tracker (u : ContentUri) (w : JobWorld) :
    wp (loadJobs u) (fun _ w' => w'.tracker = w.tracker ∨ ∃ r, w'.tracker =
      w.tracker.loadListing u ((w.server.jobs.map Prod.snd).filter (·.contentUri = u)) r) w := by
  unfold loadJobs
  rw [wp_bind, wp_ask, Server.wp_listContentJobs]
  dsimp only
  rw [wp_bind, wp_ask, Server.wp_getContent]
  split
  · exact .inl rfl
  · rw [wp_onTracker]
    exact .inr ⟨_, rfl⟩

/-- A submission leaves the tracker alone, or shows the job it made live. -/
lemma wp_submit_tracker (scope : JobScope) (form : JobForm) (target : ContentUri) (w : JobWorld) :
    wp (submit scope form target) (fun r w' => w'.tracker = w.tracker ∨
      ∃ job, r = .ok job ∧ w'.tracker = w.tracker.showLive job) w := by
  unfold submit
  split
  · exact .inl rfl
  · split
    · exact .inl rfl
    · rw [wp_bind, wp_ask, Server.wp_submitJob]
      split
      · exact .inl rfl
      · rw [wp_onTracker]
        exact .inr ⟨_, rfl, rfl⟩

/-- A retry leaves the tracker alone, or shows live again the job of the id retried. -/
lemma wp_retry_tracker (jobId : String) (hw : w.server.JobsKeyed) :
    wp (retry jobId) (fun r w' => w'.tracker = w.tracker ∨ ∃ job, r = .ok job ∧ job.id = jobId ∧
      w'.tracker = { w.tracker with completed := w.tracker.completed.erase jobId }.showLive job) w := by
  unfold retry
  rw [wp_bind, wp_ask, Server.wp_retryJob]
  split
  · exact .inl rfl
  · next job hr =>
    rw [wp_onTracker]
    exact .inr ⟨job, rfl, (hw.log _ _ _).applyRetry_id hr, rfl⟩

/-! ### Reachable configurations -/

/-- Loading the jobs of a record, submitting and retrying keep the tracker ordered: they start
no fetch, and show jobs live in order. -/
lemma ordered_of_rest {w' : JobWorld} (hw' : AtRest w') (ho : w.tracker.Ordered)
    (h : w'.tracker = w.tracker ∨ (∃ u jobs r, w'.tracker = w.tracker.loadListing u jobs r) ∨
      ∃ (t : JobTracker) (job : Job), t.live = w.tracker.live ∧ w'.tracker = t.showLive job) :
    w'.tracker.Ordered := by
  rcases h with h | ⟨u, jobs, r, h⟩ | ⟨t, job, hlive, h⟩
  · exact h ▸ ho
  · refine JobTracker.ordered_of_inFlight_eq_nil hw'.2 ?_
    rw [h]
    exact JobTracker.sorted_live_loadListing _ _ _ _
  · refine JobTracker.ordered_of_inFlight_eq_nil hw'.2 ?_
    rw [h]
    exact JobTracker.sorted_live_showLive (hlive ▸ ho.live_sorted) job

/-- In a reachable configuration, the events under way are each at a stage, holding between
them the fetches under way, and the tracker is ordered.

**Proof sketch.** Induction on reachability, as for `Reachable.guarded`: a fresh manager has no
event under way, the operations at rest keep the invariant at rest (`wp_loadJobs`, `wp_submit`,
`wp_retry`) and show jobs live in order, an event joins fresh, a poll moves one event to its
next stage (`Staged.poll`) and a finished event leaves (`Staged.drop`). -/
theorem Reachable.staged {ps : List (Proc JobWorld Unit)} (h : Reachable w ps) :
    ∃ held, Staged JobTracker.Ordered w held ps := by
  induction h with
  | start server keyed =>
    exact ⟨[], ⟨⟨⟨JobTracker.sound_empty, keyed⟩,
      JobTracker.ordered_of_inFlight_eq_nil rfl StrMap.sorted_nil⟩, .nil,
      fun j => by simp [fetching]⟩⟩
  | serve server keyed _ ih =>
    obtain ⟨held, hs⟩ := ih
    exact ⟨held, hs.of_world ⟨⟨hs.valid.1.1, keyed⟩, hs.valid.2⟩ fun _ => rfl⟩
  | load u _ hr ih =>
    obtain ⟨held, hs⟩ := ih
    refine ⟨[], hs.rest fun hw ho => ?_⟩
    have hw' := wp_reaches (wp_loadJobs u hw) hr
    refine ⟨hw', ordered_of_rest hw' ho ?_⟩
    rcases wp_reaches (wp_loadJobs_tracker u _) hr with h | ⟨r, h⟩
    · exact .inl h
    · exact .inr (.inl ⟨_, _, _, h⟩)
  | submit scope form target _ hr ih =>
    obtain ⟨held, hs⟩ := ih
    refine ⟨[], hs.rest fun hw ho => ?_⟩
    have hw' := wp_reaches (wp_submit scope form target hw) hr
    refine ⟨hw', ordered_of_rest hw' ho ?_⟩
    obtain ⟨_, _, _, _, hrun⟩ := hr
    rcases wp_runFrom (wp_submit_tracker scope form target _) hrun with h | ⟨job, -, h⟩
    · exact .inl h
    · exact .inr (.inr ⟨_, job, rfl, h⟩)
  | retry jobId _ hr ih =>
    obtain ⟨held, hs⟩ := ih
    refine ⟨[], hs.rest fun hw ho => ?_⟩
    have hw' := wp_reaches (wp_retry jobId hw) hr
    refine ⟨hw', ordered_of_rest hw' ho ?_⟩
    obtain ⟨_, _, _, _, hrun⟩ := hr
    rcases wp_runFrom (wp_retry_tracker jobId hw.1.2) hrun with h | ⟨job, -, -, h⟩
    · exact .inl h
    · refine .inr (.inr ⟨_, job, ?_, h⟩)
      rfl
  | event e _ ih =>
    obtain ⟨held, hs⟩ := ih
    exact ⟨_, hs.cons e⟩
  | poll now _ ih =>
    obtain ⟨held, hs⟩ := ih
    exact hs.poll JobTracker.keptByEvents_ordered now
  | finish _ ih =>
    obtain ⟨held, hs⟩ := ih
    exact hs.drop

end JobWorld

end CorpusBench
