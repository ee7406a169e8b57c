import CorpusBench.Proofs.Jobs.Stages

/-!
# A finished job stays finished

A job *has finished* for a tracker (`JobTracker.Finished`) when it is registered and neither
being fetched nor live.  The event that ends a job completes it: its record is read once more,
and the job is left finished with a completed entry (`JobWorld.wp_handleEvent_ended`,
`JobWorld.wp_awaitingAnswer_ended`).  From then on an event for the job finds it known and not
live, and is ignored within the poll that starts it, changing nothing and asking the server
nothing (`JobWorld.poll_handleEvent_of_finished`).

Each step of the handling of an event keeps a job finished (`JobTracker.keptByEvents_finished`):
the only step that makes a job live answers the fetch of a job never seen, and a finished job is
registered.  So events under way or joining later and a changing server keep it finished, and so
do loads, submissions and retries but three: a retry of the job that succeeds, a submission
answered with a job of its id, and a load whose listing shows it running.  Along the runs that
avoid those (`JobWorld.StaysFinished`) the job stays finished and its later events are ignored;
so each time a job is live, its handling ends with a single read of its record.

## Main definitions

* `JobTracker.Finished` — the job is registered, and neither being fetched nor live.
* `JobWorld.EndedJob` — a handling that answered `completed`, or read a record, read one and
  left the event's job finished and completed.
* `JobWorld.StaysFinished` — the runs that neither retry nor submit the job, nor load a listing
  that shows it running.

## Main results

* `JobWorld.wp_handleEvent_ended`, `wp_awaitingAnswer_ended` — the stretches of the handling of
  an event that end its job.
* `JobWorld.StaysFinished.staged` — those runs keep the job finished.
* `JobWorld.finished_job_ignores_later_events`.
-/

namespace CorpusBench

namespace JobTracker

variable {t : JobTracker} {j : String}

/-- The job `j` has finished: it is registered, and is neither being fetched nor live. -/
structure Finished (t : JobTracker) (j : String) : Prop where
  registered : j ∈ t.registered
  not_inFlight : j ∉ t.inFlight.keys
  not_live : j ∉ t.live.keys

/-! ### Each step keeps a job finished -/

lemma Finished.liveStep {t' : JobTracker} (h : t.Finished j) (hs : LiveStep t t') :
    t'.Finished j :=
  ⟨hs.registered ▸ h.registered, hs.inFlight ▸ h.not_inFlight,
    fun hl => h.not_live ((hs.keys j).1 hl)⟩

lemma Finished.complete (h : t.Finished j) (f : Job) (r : Except ClientError ContentRecord) :
    (t.complete f r).2.Finished j := by
  refine ⟨by simpa using h.registered, by simpa using h.not_inFlight, ?_⟩
  rw [live_complete]
  exact fun hl => h.not_live ((StrMap.keys_erase_sublist _ _).subset hl)

lemma Finished.completeIfFinished (answer : ContentUri → Except ClientError ContentRecord)
    {x : Option Job × JobTracker} (h : x.2.Finished j) :
    (JobTracker.completeIfFinished answer x).Finished j := by
  obtain ⟨_ | f, t⟩ := x
  · exact h
  · exact h.complete f _

/-- An arriving event keeps a job finished: a job it registers was never seen, and so is
another. -/
lemma Finished.arrive (ht : t.Sound) (h : t.Finished j) (e : JobEvent) :
    (t.arrive e).2.Finished j := by
  unfold JobTracker.arrive
  cases hkept : t.inFlight.lookup e.jobId with
  | some kept =>
    have hkey : e.jobId ∈ t.inFlight.keys := (StrMap.isSome_lookup_iff _ _).1 (by simp [hkept])
    refine ⟨h.registered, ?_, h.not_live⟩
    rw [StrMap.keys_insert_of_mem ht.sorted hkey]
    exact h.not_inFlight
  | none =>
    dsimp only
    split
    · exact h
    · next hnew =>
      have hne : j ≠ e.jobId := by
        rintro rfl
        exact hnew ((StrSet.contains_iff _ _).2 h.registered)
      refine ⟨(StrSet.mem_insert _ _ _).2 (.inr h.registered), ?_, h.not_live⟩
      rw [StrMap.mem_keys_insert]
      exact fun hk => hk.elim hne h.not_inFlight

/-- The answer to a fetch under way keeps a job finished: the job fetched is being fetched, and
so is another. -/
lemma Finished.afterFetch (h : t.Finished j) {e : JobEvent} (hJ : e.jobId ∈ t.inFlight.keys)
    {r : Except ClientError Job} (hr : ∀ job, r = .ok job → job.id = e.jobId)
    (answer : ContentUri → Except ClientError ContentRecord) :
    (t.afterFetch e r answer).Finished j := by
  have hne : j ≠ e.jobId := fun hj => h.not_inFlight (hj ▸ hJ)
  have hgone : j ∉ (t.inFlight.erase e.jobId).keys := fun hk =>
    h.not_inFlight ((StrMap.keys_erase_sublist _ _).subset hk)
  rw [afterFetch_eq]
  cases r with
  | error _ => exact ⟨(StrSet.mem_erase _ _ _).2 ⟨h.registered, hne⟩, hgone, h.not_live⟩
  | ok job =>
    dsimp only
    split
    · have h₁ : ({ t with inFlight := t.inFlight.erase e.jobId,
                          live := t.live.insert job.id job } : JobTracker).Finished j := by
        refine ⟨h.registered, hgone, ?_⟩
        rw [StrMap.mem_keys_insert, hr job rfl]
        exact fun hl => hl.elim hne h.not_live
      exact (h₁.liveStep (liveStep_applyUntilFinished _ _)).completeIfFinished answer
    · exact ⟨h.registered, hgone, h.not_live⟩

lemma Finished.afterUpdate (h : t.Finished j) (e : JobEvent)
    (answer : ContentUri → Except ClientError ContentRecord) :
    (t.afterUpdate e answer).Finished j := by
  rw [afterUpdate_eq]
  exact (h.liveStep (liveStep_applyEvent t e)).completeIfFinished answer

lemma keptByEvents_finished (j : String) : KeptByEvents (Finished · j) where
  arrive e ht h := h.arrive ht e
  afterFetch _ _ answer _ hJ hr h := h.afterFetch hJ hr answer
  afterUpdate e answer _ h := h.afterUpdate e answer

/-! ### The operations at rest -/

/-- Showing another job live keeps a job finished. -/
lemma Finished.showLive (h : t.Finished j) {job : Job} (hjob : job.id ≠ j) :
    (t.showLive job).Finished j := by
  have hreg : j ∈ t.registered.insert job.id := (StrSet.mem_insert _ _ _).2 (.inr h.registered)
  unfold JobTracker.showLive
  dsimp only
  split
  · refine ⟨hreg, h.not_inFlight, ?_⟩
    rw [StrMap.mem_keys_insert]
    exact fun hl => hl.elim (fun hj => hjob hj.symm) h.not_live
  · exact ⟨hreg, h.not_inFlight, h.not_live⟩

lemma mem_registered_foldl_loadListed {r : ContentRecord} :
    ∀ (jobs : List Job) (t : JobTracker), j ∈ t.registered →
      j ∈ (jobs.foldl (loadListed r) t).registered
  | [], _, h => h
  | job :: jobs, t, h => by
    refine mem_registered_foldl_loadListed jobs _ ?_
    unfold loadListed
    dsimp only
    split <;> exact (StrSet.mem_insert _ _ _).2 (.inr h)

lemma mem_registered_foldl_loadEntry :
    ∀ (ps : List JobProvenance) (t : JobTracker), j ∈ t.registered →
      j ∈ (ps.foldl loadEntry t).registered
  | [], _, h => h
  | p :: ps, t, h => by
    refine mem_registered_foldl_loadEntry ps _ ?_
    unfold loadEntry
    dsimp only
    split <;> exact (StrSet.mem_insert _ _ _).2 (.inr h)

/-- A load whose listing does not show a finished job running keeps it finished. -/
lemma Finished.loadListing (h : t.Finished j) {u : ContentUri} {jobs : List Job}
    {r : ContentRecord} (hnone : (t.loadListing u jobs r).inFlight = [])
    (hlisted : ∀ job ∈ jobs, job.id = j → job.status.isTerminal = true) :
    (t.loadListing u jobs r).Finished j := by
  refine ⟨?_, by simp [hnone, StrMap.keys], fun hl => ?_⟩
  · rw [loadListing_eq]
    exact mem_registered_foldl_loadEntry _ _ (mem_registered_foldl_loadListed _ _ h.registered)
  · obtain ⟨job, hjob, hid, hrun⟩ := (loadListing_live_completed t u jobs r j).1.1 hl
    simp [hlisted job hjob hid] at hrun

/-! ### The event that ends a job -/

/-- Completing a live job of a sound tracker whose live entries are in order finishes it, with
a completed entry. -/
lemma Sound.finished_complete (ht : t.Sound) (hsorted : StrMap.Sorted t.live) {f : Job}
    (hf : f.id ∈ t.live.keys) (r : Except ClientError ContentRecord) :
    (t.complete f r).2.Finished f.id ∧ f.id ∈ (t.complete f r).2.completed.keys := by
  refine ⟨⟨by simpa using ht.live_registered _ hf, ?_, ?_⟩, ?_⟩
  · simpa using fun hk => ht.inFlight_not_live _ hk hf
  · simp [StrMap.mem_keys_erase hsorted]
  · cases r <;> simp [JobTracker.complete, StrMap.mem_keys_insert]

/-- The job an event ends is the live job of the event's id. -/
lemma applyEvent_finished_id (hid : ∀ p ∈ t.live, p.2.id = p.1) {e : JobEvent} {f : Job}
    (hf : (t.applyEvent e).1 = some f) : f.id = e.jobId := by
  unfold applyEvent at hf
  cases hlive : t.live.lookup e.jobId with
  | none => simp [hlive] at hf
  | some job =>
    simp only [hlive] at hf
    split at hf
    · cases hf
      exact hid _ (StrMap.mem_of_lookup hlive)
    · cases hf

/-- Events all for one job end, if they end one, that job. -/
lemma applyUntilFinished_finished_id {k : String} :
    ∀ {t : JobTracker} {es : List JobEvent}, t.Sound → (∀ ev ∈ es, ev.jobId = k) → ∀ {f : Job},
      (t.applyUntilFinished es).1 = some f → f.id = k
  | _, [], _, _, _, hf => by simp [applyUntilFinished] at hf
  | t, e :: es, ht, hes, f, hf => by
    have hstep := liveStep_applyEvent t e
    rw [applyUntilFinished_cons] at hf
    rcases happly : t.applyEvent e with ⟨_ | f', t₁⟩
    · simp only [happly] at hstep hf
      exact applyUntilFinished_finished_id (ht.liveStep hstep)
        (fun ev hev => hes ev (List.mem_cons_of_mem _ hev)) hf
    · simp only [happly, Option.some.injEq] at hf
      subst hf
      rw [← hes e List.mem_cons_self]
      exact applyEvent_finished_id ht.live_id (by rw [happly])

/-- An event for a known job that ends it ends the event's own job, and completing it finishes
it. -/
lemma Sound.update_ends (ht : t.Sound) (hsorted : StrMap.Sorted t.live) {e : JobEvent} {f : Job}
    {t' : JobTracker} (hu : t.update e = (some (some f), t'))
    (r : Except ClientError ContentRecord) :
    (t'.complete f r).2.Finished e.jobId ∧ e.jobId ∈ (t'.complete f r).2.completed.keys := by
  unfold update at hu
  split at hu
  · have hstep := liveStep_applyEvent t e
    have hsorted' := sorted_live_applyEvent hsorted e
    have hlive := applyEvent_finished (t := t) ht.live_id (e := e) (f := f)
    have hid := applyEvent_finished_id (t := t) ht.live_id (e := e) (f := f)
    rcases happly : t.applyEvent e with ⟨fo, t₁⟩
    simp only [happly, Prod.mk.injEq, Option.some.injEq] at hu hstep hsorted' hlive hid
    obtain ⟨rfl, rfl⟩ := hu
    rw [← hid rfl]
    exact (ht.liveStep hstep).finished_complete hsorted' (hlive rfl) r
  · simp at hu

/-- The answer to a fetch under way that ends a job ends the fetched job, and completing it
finishes it: the events applied are the event's and those kept for its job, all for that job. -/
lemma Sound.receive_ends (ht : t.Sound) (ho : t.Ordered) {e : JobEvent}
    (hJ : e.jobId ∈ t.inFlight.keys) {r : Except ClientError Job}
    (hr : ∀ job, r = .ok job → job.id = e.jobId) {f : Job} {t' : JobTracker}
    (hrec : t.receive e r = (.ok (some (some f)), t')) (r' : Except ClientError ContentRecord) :
    (t'.complete f r').2.Finished e.jobId ∧ e.jobId ∈ (t'.complete f r').2.completed.keys := by
  unfold receive at hrec
  cases r with
  | error _ => simp at hrec
  | ok job =>
    dsimp only at hrec
    split at hrec
    · simp at hrec
    · next hshow =>
      have hshow' : ({ t with inFlight := t.inFlight.erase e.jobId } : JobTracker).shows job = true := by
        simpa using hshow
      have ht₁ := ht.fetched hJ (hr job rfl) hshow'
      have hes : ∀ ev ∈ e :: (t.inFlight.lookup e.jobId).getD [], ev.jobId = e.jobId := by
        intro ev hev
        rcases List.mem_cons.1 hev with rfl | hev
        · rfl
        · cases hkept : t.inFlight.lookup e.jobId with
          | none => simp [hkept] at hev
          | some kept =>
            rw [hkept, Option.getD_some] at hev
            exact ho.kept _ (StrMap.mem_of_lookup hkept) ev hev
      generalize ht₁def :
        ({ t with inFlight := t.inFlight.erase e.jobId, live := t.live.insert job.id job } :
          JobTracker) = t₁ at hrec ht₁
      have hsorted₁ : StrMap.Sorted t₁.live := by
        rw [← ht₁def]
        exact ho.live_sorted.insert job.id job
      have hstep := liveStep_applyUntilFinished t₁ (e :: (t.inFlight.lookup e.jobId).getD [])
      have hsorted := sorted_live_applyUntilFinished (e :: (t.inFlight.lookup e.jobId).getD [])
        hsorted₁
      have hlive := @applyUntilFinished_finished t₁ (e :: (t.inFlight.lookup e.jobId).getD [])
        ht₁.live_id f
      have hid := applyUntilFinished_finished_id ht₁ hes (f := f)
      rcases happly : t₁.applyUntilFinished (e :: (t.inFlight.lookup e.jobId).getD []) with
        ⟨fo, t₂⟩
      simp only [happly] at hrec hstep hsorted hlive hid
      simp only [Prod.mk.injEq, Except.ok.injEq, Option.some.injEq] at hrec
      obtain ⟨rfl, rfl⟩ := hrec
      rw [← hid rfl]
      exact (ht₁.liveStep hstep).finished_complete hsorted (hlive rfl) r'

end JobTracker

namespace JobWorld

open Proc JobTracker

/-- What the handling of the event `e`, from `w` to `w'` with the result `res`, does when it
ends the event's job: if it answered `completed`, or read a record, then it read exactly one,
and left the job finished, with a completed entry. -/
def EndedJob (e : JobEvent) (w : JobWorld) (res : Except ClientError EventOutcome)
    (w' : JobWorld) : Prop :=
  res = .ok .completed ∨ w.server.callCount "get_content" < w'.server.callCount "get_content" →
    w'.server.callCount "get_content" = w.server.callCount "get_content" + 1 ∧
      w'.tracker.Finished e.jobId ∧ e.jobId ∈ w'.tracker.completed.keys

/-- A handling that answers anything but `completed` and reads no record has ended nothing. -/
lemma endedJob_of_count {e : JobEvent} {w w' : JobWorld} {res : Except ClientError EventOutcome}
    (hres : res ≠ .ok .completed)
    (hcount : w'.server.callCount "get_content" = w.server.callCount "get_content") :
    EndedJob e w res w' := by
  rintro (h | h)
  · exact absurd h hres
  · omega

/-- The end of the handling of an event: with no job ended it answers at once, reading nothing;
with a job ended, it reads the job's record once and completes the job. -/
lemma wp_settleFinished_ended {e : JobEvent} {fo : Option Job} {o : EventOutcome}
    (ho : o ≠ .completed) {w₀ w : JobWorld}
    (hcount : w.server.callCount "get_content" = w₀.server.callCount "get_content")
    (hdone : ∀ f, fo = some f → ∀ r, (w.tracker.complete f r).2.Finished e.jobId ∧
      e.jobId ∈ (w.tracker.complete f r).2.completed.keys) :
    wp (settleFinished fo o) (EndedJob e w₀) w := by
  cases fo with
  | none => exact endedJob_of_count (fun h => ho (Except.ok.inj h)) hcount
  | some f =>
    rw [settleFinished, wp_map]
    refine wp_finalize f w fun _ _ => ?_
    obtain ⟨hfin, hcomp⟩ := hdone f rfl _
    refine ⟨?_, hfin, hcomp⟩
    rw [Server.callCount_record, length_filter_completionCalls, hcount]
    simp

/-- An event for a known job ends the job, if it does, as `EndedJob` says. -/
lemma wp_afterKnown_ended {e : JobEvent} {w : JobWorld} (ht : w.tracker.Sound)
    (hsorted : StrMap.Sorted w.tracker.live) : wp (afterKnown e) (EndedJob e w) w := by
  unfold afterKnown
  rw [wp_bind, wp_onTracker]
  rcases hu : w.tracker.update e with ⟨_ | fo, t'⟩
  · exact endedJob_of_count (by simp) rfl
  · refine wp_settleFinished_ended (by decide) rfl fun f hf r => ?_
    subst hf
    exact ht.update_ends hsorted hu r

/-- The answer to a fetch under way ends the job, if it does, as `EndedJob` says. -/
lemma wp_afterAnswer_ended {e : JobEvent} {w₀ w : JobWorld} (ht : w.tracker.Sound)
    (ho : w.tracker.Ordered) (hJ : e.jobId ∈ w.tracker.inFlight.keys)
    {r : Except ClientError Job} (hr : ∀ job, r = .ok job → job.id = e.jobId)
    (hcount : w.server.callCount "get_content" = w₀.server.callCount "get_content") :
    wp (afterAnswer e r) (EndedJob e w₀) w := by
  unfold afterAnswer
  rw [wp_bind, wp_onTracker]
  rcases hrec : w.tracker.receive e r with ⟨_ | _ | fo, t'⟩
  · exact endedJob_of_count (by simp) hcount
  · exact endedJob_of_count (by simp) hcount
  · refine wp_settleFinished_ended (by decide) hcount fun f hf r' => ?_
    subst hf
    exact ht.receive_ends ho hJ hr hrec r'

/-- Handled from a consistent world whose tracker is ordered, an event that ends its job reads
its record once and leaves it finished and completed. -/
lemma wp_handleEvent_ended {w : JobWorld} (hw : ConsistentWith Ordered w) (e : JobEvent) :
    wp (handleEvent e) (EndedJob e w) w := by
  rw [handleEvent_eq, wp_bind, wp_onTracker]
  have hsound := hw.1.1.arrive e
  have hord := hw.2.arrive e
  rcases ha : w.tracker.arrive e with ⟨_ | _ | _, t'⟩ <;> rw [ha] at hsound hord
  · -- kept: answered at once
    exact endedJob_of_count (by simp) rfl
  · -- never seen: the job is fetched and the answer applied
    have hJ : e.jobId ∈ t'.inFlight.keys := by
      rw [(arrive_unseen ha).2, StrMap.mem_keys_insert]
      exact .inl rfl
    rw [fetchAndApply_eq, wp_bind, wp_ask, Server.wp_getJob]
    exact wp_afterAnswer_ended hsound hord hJ (fun _ hj => hw.1.2.jobAnswer_id hj)
      (by simp [Server.log_eq_record, Server.callCount_record])
  · cases arrive_known ha
    exact wp_afterKnown_ended hw.1.1 hw.2.live_sorted

/-- Woken in a consistent world whose tracker is ordered, with its job still being fetched, an
event that ends its job reads its record once and leaves it finished and completed. -/
lemma wp_awaitingAnswer_ended {w : JobWorld} (hw : ConsistentWith Ordered w) {e : JobEvent}
    (hJ : e.jobId ∈ w.tracker.inFlight.keys) : wp (awaitingAnswer e) (EndedJob e w) w := by
  unfold awaitingAnswer
  rw [wp_bind, wp_ask]
  exact wp_afterAnswer_ended hw.1.1 hw.2 hJ (fun _ hj => hw.1.2.jobAnswer_id hj) rfl

/-! ### Later events -/

/-- An event for a finished job finds it known and not live: it is ignored within the poll that
starts it, changing nothing and asking the server nothing. -/
lemma poll_handleEvent_of_finished {w : JobWorld} {e : JobEvent}
    (hf : w.tracker.Finished e.jobId) (now : Nat) :
    ∃ m, Proc.poll now (handleEvent e) w = (.done (.ok .ignored), w, m) := by
  have ha : w.tracker.arrive e = (.known, w.tracker) := by
    simp [JobTracker.arrive, (StrMap.lookup_eq_none_iff _ _).2 hf.not_inFlight,
      (StrSet.contains_iff _ _).2 hf.registered]
  have hu : w.tracker.update e = (none, w.tracker) := by
    simp [JobTracker.update, StrMap.containsKey, (StrMap.lookup_eq_none_iff _ _).2 hf.not_live]
  have hwp : wp (handleEvent e) (fun res w' => res = .ok .ignored ∧ w' = w) w := by
    rw [handleEvent_eq, wp_bind, wp_onTracker, ha]
    show wp (afterKnown e) _ w
    unfold afterKnown
    rw [wp_bind, wp_onTracker, hu]
    exact ⟨rfl, rfl⟩
  rcases poll_handleEvent e w now with ⟨a, w', m, hpoll⟩ | ⟨t', d, ha', -, -⟩
  · obtain ⟨rfl, rfl⟩ := wp_of_poll_eq_done hwp hpoll
    exact ⟨m, hpoll⟩
  · rw [ha] at ha'
    cases ha'

/-- The configurations a manager reaches from `(w₀, ps₀)` with its steps (`Reachable`), but for
a successful retry of the job `j`, a submission the server answers with a job of id `j`, and a
load whose listing shows `j` running. -/
inductive StaysFinished (j : String) (w₀ : JobWorld) (ps₀ : List (Proc JobWorld Unit)) :
    JobWorld → List (Proc JobWorld Unit) → Prop
  | refl : StaysFinished j w₀ ps₀ w₀ ps₀
  /-- The server changes, its answers and failures with it. -/
  | serve {w : JobWorld} {ps : List (Proc JobWorld Unit)} (server : Server)
      (keyed : server.JobsKeyed) :
      StaysFinished j w₀ ps₀ w ps → StaysFinished j w₀ ps₀ { w with server := server } ps
  /-- The jobs of a record are loaded, none of those of id `j` running. -/
  | load {w w' : JobWorld} (u : ContentUri) : StaysFinished j w₀ ps₀ w [] →
      (∀ job ∈ w.server.jobs.map Prod.snd, job.contentUri = u → job.id = j →
        job.status.isTerminal = true) →
      Proc.Reaches (loadJobs u) w w' → StaysFinished j w₀ ps₀ w' []
  /-- A job is submitted, and the server answers with no job of id `j`. -/
  | submit {w w' : JobWorld} (scope : JobScope) (form : JobForm) (target : ContentUri) :
      StaysFinished j w₀ ps₀ w [] →
      wp (JobWorld.submit scope form target) (fun r _ => ∀ job, r = .ok job → job.id ≠ j) w →
      Proc.Reaches (JobWorld.submit scope form target) w w' → StaysFinished j w₀ ps₀ w' []
  /-- A job is retried, and a retry of `j` fails. -/
  | retry {w w' : JobWorld} (jobId : String) : StaysFinished j w₀ ps₀ w [] →
      wp (JobWorld.retry jobId) (fun r _ => ∀ job, r = .ok job → jobId ≠ j) w →
      Proc.Reaches (JobWorld.retry jobId) w w' → StaysFinished j w₀ ps₀ w' []
  /-- An event arrives, and is handled side by side with those being handled. -/
  | event {w : JobWorld} {ps : List (Proc JobWorld Unit)} (e : JobEvent) :
      StaysFinished j w₀ ps₀ w ps →
        StaysFinished j w₀ ps₀ w ((fun _ => ()) <$> handleEvent e :: ps)
  /-- An event being handled takes its next steps, up to where it waits, at any instant. -/
  | poll {w : JobWorld} {pre post : List (Proc JobWorld Unit)} {p : Proc JobWorld Unit}
      (now : Nat) : StaysFinished j w₀ ps₀ w (pre ++ p :: post) →
        StaysFinished j w₀ ps₀ (Proc.poll now p w).2.1 (pre ++ (Proc.poll now p w).1 :: post)
  /-- A handled event leaves. -/
  | finish {w : JobWorld} {pre post : List (Proc JobWorld Unit)} :
      StaysFinished j w₀ ps₀ w (pre ++ .done () :: post) → StaysFinished j w₀ ps₀ w (pre ++ post)

variable {j : String} {w₀ w : JobWorld} {ps₀ ps : List (Proc JobWorld Unit)}

/-- Along the runs that neither retry nor submit the job `j`, nor load a listing that shows it
running, the events stay staged and `j` stays finished.

**Proof sketch.** Induction on the run.  A change of the server leaves the tracker; a poll moves
one event on by steps that each keep `j` finished (`keptByEvents_finished`, `Staged.poll`); an
operation at rest leaves the tracker, or shows live a job other than `j`
(`wp_submit_tracker`, `wp_retry_tracker`), or loads a listing that does not show `j` running
(`wp_loadJobs_tracker`, `Finished.loadListing`). -/
theorem StaysFinished.staged {held₀ : List (String → Nat)} (h : StaysFinished j w₀ ps₀ w ps)
    (h₀ : Staged (Finished · j) w₀ held₀ ps₀) : ∃ held, Staged (Finished · j) w held ps := by
  induction h with
  | refl => exact ⟨held₀, h₀⟩
  | serve server keyed _ ih =>
    obtain ⟨held, hs⟩ := ih
    exact ⟨held, hs.of_world ⟨⟨hs.valid.1.1, keyed⟩, hs.valid.2⟩ fun _ => rfl⟩
  | @load w₁ w₂ u _ hlisted hr ih =>
    obtain ⟨held, hs⟩ := ih
    refine ⟨[], hs.rest fun hw hfin => ?_⟩
    have hw' := wp_reaches (wp_loadJobs u hw) hr
    refine ⟨hw', ?_⟩
    rcases wp_reaches (wp_loadJobs_tracker u _) hr with h | ⟨r, h⟩
    · rw [h]
      exact hfin
    · have hnone : w₂.tracker.inFlight = [] := hw'.2
      rw [h] at hnone ⊢
      refine hfin.loadListing hnone fun job hjob hid => ?_
      obtain ⟨hmem, hu⟩ := List.mem_filter.1 hjob
      exact hlisted job hmem (by simpa using hu) hid
  | submit scope form target _ hnot hr ih =>
    obtain ⟨held, hs⟩ := ih
    refine ⟨[], hs.rest fun hw hfin => ⟨wp_reaches (wp_submit scope form target hw) hr, ?_⟩⟩
    obtain ⟨_, _, _, _, hrun⟩ := hr
    rcases wp_runFrom (wp_submit_tracker scope form target _) hrun with h | ⟨job, hjob, h⟩
    · rw [h]
      exact hfin
    · rw [h]
      exact hfin.showLive (wp_runFrom hnot hrun job hjob)
  | @retry w₁ w₂ jobId _ hnot hr ih =>
    obtain ⟨held, hs⟩ := ih
    refine ⟨[], hs.rest fun hw hfin => ⟨wp_reaches (wp_retry jobId hw) hr, ?_⟩⟩
    obtain ⟨_, _, _, _, hrun⟩ := hr
    rcases wp_runFrom (wp_retry_tracker jobId hw.1.2) hrun with h | ⟨job, hjob, hid, h⟩
    · rw [h]
      exact hfin
    · -- the job shown live again is the one retried, which is another
      rw [h]
      have hne : job.id ≠ j := hid ▸ wp_runFrom hnot hrun job hjob
      exact Finished.showLive (t := { w₁.tracker with completed := w₁.tracker.completed.erase jobId })
        ⟨hfin.registered, hfin.not_inFlight, hfin.not_live⟩ hne
  | event e _ ih =>
    obtain ⟨held, hs⟩ := ih
    exact ⟨_, hs.cons e⟩
  | poll now _ ih =>
    obtain ⟨held, hs⟩ := ih
    exact hs.poll (keptByEvents_finished j) now
  | finish _ ih =>
    obtain ⟨held, hs⟩ := ih
    exact hs.drop

/-- Once the event that ends a job has been applied — it answered `completed`, or read the job's
record and answered the failure to read it — the job is finished, no longer live, and has a
completed entry, and its record was read exactly once.  This holds of the poll that handles a
fresh event to its end, and of the poll that wakes an event whose job is still being fetched.

From then on, through any run of the manager that neither retries the job successfully, nor
submits a job the server answers with its id, nor loads a listing that shows it running, the job
stays finished, and every later event for it is ignored within the poll that starts it, changing
nothing and asking the server nothing.  So each time a job is live, its handling ends with one
read of its record. -/
theorem finished_job_ignores_later_events :
    (∀ (w : JobWorld) (ps : List (Proc JobWorld Unit)), Reachable w ps → ∀ e : JobEvent,
      (∀ now res w' m, Proc.poll now (handleEvent e) w = (.done res, w', m) →
        EndedJob e w res w') ∧
      (∀ now₀ w₀ t q w₁ m₀, Proc.poll now₀ (handleEvent e) w₀ = (.sleepUntil t q, w₁, m₀) →
        e.jobId ∈ w.tracker.inFlight.keys →
        ∀ now res w' m, Proc.poll now q w = (.done res, w', m) → EndedJob e w res w')) ∧
    (∀ (j : String) (w : JobWorld) (ps : List (Proc JobWorld Unit)), Reachable w ps →
      w.tracker.Finished j → ∀ w' ps', StaysFinished j w ps w' ps' →
        w'.tracker.Finished j ∧ ∀ e : JobEvent, e.jobId = j → ∀ now, ∃ m,
          Proc.poll now (handleEvent e) w' = (.done (.ok .ignored), w', m)) := by
  refine ⟨fun w ps h e => ?_, fun j w ps h hfin w' ps' hrun => ?_⟩
  · obtain ⟨_, hs⟩ := h.staged
    refine ⟨fun now res w' m hpoll => wp_of_poll_eq_done (wp_handleEvent_ended hs.valid e) hpoll,
      fun now₀ w₀ t q w₁ m₀ hpoll₀ hJ now res w' m hpoll => ?_⟩
    -- the event left asleep awaits the answer about its job
    rcases poll_handleEvent e w₀ now₀ with ⟨a, w₂, m₂, hdone⟩ | ⟨t', d, -, -, hsleep⟩
    · rw [hdone] at hpoll₀
      cases hpoll₀
    · rw [hsleep] at hpoll₀
      simp only [Prod.mk.injEq, Proc.sleepUntil.injEq] at hpoll₀
      obtain ⟨⟨-, rfl⟩, -, -⟩ := hpoll₀
      exact wp_of_poll_eq_done (wp_awaitingAnswer_ended hs.valid hJ) hpoll
  · obtain ⟨held, hs⟩ := h.staged
    obtain ⟨_, hs'⟩ := hrun.staged (hs.retarget hfin)
    refine ⟨hs'.valid.2, fun e he now => poll_handleEvent_of_finished ?_ now⟩
    rw [he]
    exact hs'.valid.2

/-- An event for a job shown completed is ignored. -/
example : (match (Proc.poll 0 (handleEvent ⟨"j1", .running, none, none⟩)
    ⟨{ registered := ["j1"], completed := [("j1", { jobId := "j1", status := .complete })] }, {}⟩).1 with
    | .done r => r == .ok .ignored | _ => false) = true := by decide +kernel

end JobWorld

end CorpusBench
