import CorpusBench.Proofs.Jobs.Race

/-!
# The bookkeeping of a job tracker

A tracker keeps four collections about the jobs it has seen: the ids registered, the events
kept for the jobs being fetched, the live jobs and the completed ones.  They agree with one
another (`JobTracker.Coherent`) when every job the tracker holds anything for is registered, a
job being fetched has neither a live nor a completed entry, and every live job belongs to the
record shown.  Each change the handling of jobs makes — an event noted, a fetch answered, an
event applied to a live job, a job completed, the jobs of a record loaded, a job shown live —
keeps a tracker so, given what holds where the change is made.

## Main definitions

* `JobTracker.Coherent` — the four collections agree.
* `JobTracker.Sound` — coherent, with the fetches under way kept in order and each
  live job filed under its own id.
* `JobTracker.LiveStep` — a change of the live entries alone, in place.
* `Server.JobsKeyed` — the server files each job under its own id.

## Main results

* `JobTracker.Sound.arrive`, `Sound.afterFetch`, `Sound.afterUpdate`,
  `Sound.loadListing`, `Sound.showLive` — each step of the handling of jobs keeps a tracker
  sound.
* `JobTracker.inFlight_afterFetch`, `inFlight_afterUpdate`,
  `inFlight_loadListing` — which steps touch the fetches under way, and how.
-/

namespace CorpusBench

namespace Server

/-- Every job the server holds is filed under its own id: the server files the jobs it is given
and those it makes so, and changes a job only in place. -/
def JobsKeyed (s : Server) : Prop := ∀ p ∈ s.jobs, p.2.id = p.1

lemma JobsKeyed.record {s : Server} (h : s.JobsKeyed) (more : List Call) :
    (s.record more).JobsKeyed := h

lemma JobsKeyed.log {s : Server} (h : s.JobsKeyed) (op target : String) (ps : QueryPairs) :
    (s.log op target ps).JobsKeyed := h

/-- The job the server answers for an id has that id. -/
lemma JobsKeyed.jobAnswer_id {s : Server} (h : s.JobsKeyed) {jobId : String} {j : Job}
    (hj : s.jobAnswer jobId = .ok j) : j.id = jobId := by
  unfold jobAnswer at hj
  split at hj
  · next j' hlookup =>
    cases hj
    exact h _ (StrMap.mem_of_lookup hlookup)
  · cases hj

/-- Submitting a job files it under the id made for it. -/
lemma JobsKeyed.applySubmission {s : Server} (h : s.JobsKeyed) (sub : JobSubmission) :
    (Server.applySubmission s sub).2.JobsKeyed := by
  unfold Server.applySubmission
  split
  · exact h
  · intro p hp
    rcases StrMap.mem_insert_cases hp with rfl | hp
    · rfl
    · exact h p hp

/-- Retrying a job changes it in place. -/
lemma JobsKeyed.applyRetry {s : Server} (h : s.JobsKeyed) (jobId : String) :
    (Server.applyRetry s jobId).2.JobsKeyed := by
  unfold Server.applyRetry
  split
  · exact h
  · next j hj =>
    split
    · exact h
    · intro p hp
      rcases StrMap.mem_insert_cases hp with rfl | hp
      · -- the job keeps the id it was filed under
        exact (h _ (StrMap.mem_of_lookup hj) :)
      · exact h p hp

end Server

namespace JobTracker

/-- The collections of a tracker agree: every job it holds anything for is registered, a job
being fetched has neither a live nor a completed entry, and every live job belongs to the
record shown, when one is. -/
structure Coherent (t : JobTracker) : Prop where
  inFlight_registered : ∀ j ∈ t.inFlight.keys, j ∈ t.registered
  live_registered : ∀ j ∈ t.live.keys, j ∈ t.registered
  completed_registered : ∀ j ∈ t.completed.keys, j ∈ t.registered
  inFlight_not_live : ∀ j ∈ t.inFlight.keys, j ∉ t.live.keys
  inFlight_not_completed : ∀ j ∈ t.inFlight.keys, j ∉ t.completed.keys
  live_shown : ∀ u, t.content = some u → ∀ p ∈ t.live, p.2.contentUri = u

/-- A coherent tracker whose fetches under way are kept in order, so that taking one out leaves
no other entry for its job, and whose live jobs are each filed under their own id. -/
structure Sound (t : JobTracker) : Prop extends t.Coherent where
  sorted : StrMap.Sorted t.inFlight
  live_id : ∀ p ∈ t.live, p.2.id = p.1

/-- The tracker a manager starts with. -/
lemma sound_empty : ({} : JobTracker).Sound where
  inFlight_registered := by simp
  live_registered := by simp
  completed_registered := by simp
  inFlight_not_live := by simp
  inFlight_not_completed := by simp
  live_shown := by simp
  sorted := StrMap.sorted_nil
  live_id := by simp

variable {t t' : JobTracker}

/-! ### One collection at a time -/

section Changes

variable (h : t.Sound)
include h

/-- Registering a job. -/
lemma Sound.register (j : String) : { t with registered := t.registered.insert j }.Sound where
  inFlight_registered k hk := (StrSet.mem_insert j k _).2 (.inr (h.inFlight_registered k hk))
  live_registered k hk := (StrSet.mem_insert j k _).2 (.inr (h.live_registered k hk))
  completed_registered k hk := (StrSet.mem_insert j k _).2 (.inr (h.completed_registered k hk))
  inFlight_not_live := h.inFlight_not_live
  inFlight_not_completed := h.inFlight_not_completed
  live_shown := h.live_shown
  sorted := h.sorted
  live_id := h.live_id

/-- Forgetting a job the tracker holds nothing for. -/
lemma Sound.forget {j : String} (hf : j ∉ t.inFlight.keys) (hl : j ∉ t.live.keys)
    (hc : j ∉ t.completed.keys) : { t with registered := t.registered.erase j }.Sound where
  inFlight_registered k hk :=
    (StrSet.mem_erase j k _).2 ⟨h.inFlight_registered k hk, fun hkj => hf (hkj ▸ hk)⟩
  live_registered k hk :=
    (StrSet.mem_erase j k _).2 ⟨h.live_registered k hk, fun hkj => hl (hkj ▸ hk)⟩
  completed_registered k hk :=
    (StrSet.mem_erase j k _).2 ⟨h.completed_registered k hk, fun hkj => hc (hkj ▸ hk)⟩
  inFlight_not_live := h.inFlight_not_live
  inFlight_not_completed := h.inFlight_not_completed
  live_shown := h.live_shown
  sorted := h.sorted
  live_id := h.live_id

/-- Taking a job out of the fetches under way. -/
lemma Sound.endFetch (j : String) : { t with inFlight := t.inFlight.erase j }.Sound where
  inFlight_registered k hk := h.inFlight_registered k ((StrMap.keys_erase_sublist j _).subset hk)
  live_registered := h.live_registered
  completed_registered := h.completed_registered
  inFlight_not_live k hk := h.inFlight_not_live k ((StrMap.keys_erase_sublist j _).subset hk)
  inFlight_not_completed k hk :=
    h.inFlight_not_completed k ((StrMap.keys_erase_sublist j _).subset hk)
  live_shown := h.live_shown
  sorted := h.sorted.erase j
  live_id := h.live_id

/-- Showing a registered job that is not being fetched live, when it belongs to the record
shown. -/
lemma Sound.goLive {job : Job} (hreg : job.id ∈ t.registered) (hnf : job.id ∉ t.inFlight.keys)
    (hshow : t.shows job = true) : { t with live := t.live.insert job.id job }.Sound where
  inFlight_registered := h.inFlight_registered
  live_registered k hk := by
    rcases (StrMap.mem_keys_insert _ k _ _).1 hk with rfl | hk
    · exact hreg
    · exact h.live_registered k hk
  completed_registered := h.completed_registered
  inFlight_not_live k hk hl := by
    rcases (StrMap.mem_keys_insert _ k _ _).1 hl with rfl | hl
    · exact hnf hk
    · exact h.inFlight_not_live k hk hl
  inFlight_not_completed := h.inFlight_not_completed
  live_shown u hu p hp := by
    rcases StrMap.mem_insert_cases hp with rfl | hp
    · have hu' : t.content = some u := hu
      simpa [shows, hu'] using hshow
    · exact h.live_shown u hu p hp
  sorted := h.sorted
  live_id p hp := by
    rcases StrMap.mem_insert_cases hp with rfl | hp
    · rfl
    · exact h.live_id p hp

/-- Taking a job off the live entries. -/
lemma Sound.dropLive (j : String) : { t with live := t.live.erase j }.Sound where
  inFlight_registered := h.inFlight_registered
  live_registered k hk := h.live_registered k ((StrMap.keys_erase_sublist j _).subset hk)
  completed_registered := h.completed_registered
  inFlight_not_live k hk hl := h.inFlight_not_live k hk ((StrMap.keys_erase_sublist j _).subset hl)
  inFlight_not_completed := h.inFlight_not_completed
  live_shown u hu p hp := h.live_shown u hu p ((StrMap.erase_sublist j _).subset hp)
  sorted := h.sorted
  live_id p hp := h.live_id p ((StrMap.erase_sublist j _).subset hp)

/-- Completing a registered job that is not being fetched. -/
lemma Sound.addCompleted {j : String} (hreg : j ∈ t.registered) (hnf : j ∉ t.inFlight.keys)
    (entry : JobProvenance) : { t with completed := t.completed.insert j entry }.Sound where
  inFlight_registered := h.inFlight_registered
  live_registered := h.live_registered
  completed_registered k hk := by
    rcases (StrMap.mem_keys_insert _ k _ _).1 hk with rfl | hk
    · exact hreg
    · exact h.completed_registered k hk
  inFlight_not_live := h.inFlight_not_live
  inFlight_not_completed k hk hc := by
    rcases (StrMap.mem_keys_insert _ k _ _).1 hc with rfl | hc
    · exact hnf hk
    · exact h.inFlight_not_completed k hk hc
  live_shown := h.live_shown
  sorted := h.sorted
  live_id := h.live_id

/-- Taking a job off the completed entries. -/
lemma Sound.dropCompleted (j : String) : { t with completed := t.completed.erase j }.Sound where
  inFlight_registered := h.inFlight_registered
  live_registered := h.live_registered
  completed_registered k hk := h.completed_registered k ((StrMap.keys_erase_sublist j _).subset hk)
  inFlight_not_live := h.inFlight_not_live
  inFlight_not_completed k hk hc :=
    h.inFlight_not_completed k hk ((StrMap.keys_erase_sublist j _).subset hc)
  live_shown := h.live_shown
  sorted := h.sorted
  live_id := h.live_id

/-- Registering a job that is not being fetched, and showing it live if it belongs to the
record shown. -/
lemma Sound.showLive {job : Job} (hnf : job.id ∉ t.inFlight.keys) : (t.showLive job).Sound := by
  have hreg := h.register job.id
  unfold JobTracker.showLive
  dsimp only
  split
  · exact hreg.goLive ((StrSet.mem_insert _ _ _).2 (.inl rfl)) hnf (by assumption)
  · exact hreg

end Changes

/-! ### Changes of the live entries in place -/

/-- `t'` is `t` with its live entries changed in place: the same keys, and each entry keeping
the id and the record of its job. -/
structure LiveStep (t t' : JobTracker) : Prop where
  content : t'.content = t.content
  registered : t'.registered = t.registered
  inFlight : t'.inFlight = t.inFlight
  completed : t'.completed = t.completed
  keys : ∀ k, k ∈ t'.live.keys ↔ k ∈ t.live.keys
  entry : ∀ p ∈ t'.live, ∃ q ∈ t.live,
    q.1 = p.1 ∧ q.2.id = p.2.id ∧ q.2.contentUri = p.2.contentUri

lemma LiveStep.refl (t : JobTracker) : LiveStep t t :=
  ⟨rfl, rfl, rfl, rfl, fun _ => Iff.rfl, fun p hp => ⟨p, hp, rfl, rfl, rfl⟩⟩

lemma LiveStep.trans {t'' : JobTracker} (h₁ : LiveStep t t') (h₂ : LiveStep t' t'') :
    LiveStep t t'' := by
  refine ⟨h₂.content.trans h₁.content, h₂.registered.trans h₁.registered,
    h₂.inFlight.trans h₁.inFlight, h₂.completed.trans h₁.completed,
    fun k => (h₂.keys k).trans (h₁.keys k), fun p hp => ?_⟩
  obtain ⟨q, hq, h1, h2, h3⟩ := h₂.entry p hp
  obtain ⟨r, hr, h1', h2', h3'⟩ := h₁.entry q hq
  exact ⟨r, hr, h1'.trans h1, h2'.trans h2, h3'.trans h3⟩

/-- A change of the live entries in place keeps a tracker sound. -/
lemma Sound.liveStep (h : t.Sound) (hs : LiveStep t t') : t'.Sound where
  inFlight_registered k hk := by
    rw [hs.registered]
    exact h.inFlight_registered k (hs.inFlight ▸ hk)
  live_registered k hk := by
    rw [hs.registered]
    exact h.live_registered k ((hs.keys k).1 hk)
  completed_registered k hk := by
    rw [hs.registered]
    exact h.completed_registered k (hs.completed ▸ hk)
  inFlight_not_live k hk hl := h.inFlight_not_live k (hs.inFlight ▸ hk) ((hs.keys k).1 hl)
  inFlight_not_completed k hk hc := by
    rw [hs.inFlight] at hk
    rw [hs.completed] at hc
    exact h.inFlight_not_completed k hk hc
  live_shown u hu p hp := by
    obtain ⟨q, hq, -, -, hcu⟩ := hs.entry p hp
    exact hcu ▸ h.live_shown u (hs.content ▸ hu) q hq
  sorted := hs.inFlight ▸ h.sorted
  live_id p hp := by
    obtain ⟨q, hq, hk, hid, -⟩ := hs.entry p hp
    rw [← hid, ← hk]
    exact h.live_id q hq

/-- An event changes the entry of its job in place, if the job is live. -/
lemma liveStep_applyEvent (t : JobTracker) (e : JobEvent) : LiveStep t (t.applyEvent e).2 := by
  unfold applyEvent
  cases hlive : t.live.lookup e.jobId with
  | none => exact LiveStep.refl t
  | some job =>
    have hkey : e.jobId ∈ t.live.keys := (StrMap.isSome_lookup_iff _ _).1 (by simp [hlive])
    refine ⟨rfl, rfl, rfl, rfl, fun k => ?_, fun p hp => ?_⟩
    · rw [StrMap.mem_keys_insert]
      exact ⟨fun hk => hk.elim (· ▸ hkey) id, Or.inr⟩
    · rcases StrMap.mem_insert_cases hp with rfl | hp
      · exact ⟨(e.jobId, job), StrMap.mem_of_lookup hlive, rfl, rfl, rfl⟩
      · exact ⟨p, hp, rfl, rfl, rfl⟩

/-- A job an event ends is live, under its own id, in the tracker the event leaves. -/
lemma applyEvent_finished (hid : ∀ p ∈ t.live, p.2.id = p.1) {e : JobEvent} {f : Job}
    (hf : (t.applyEvent e).1 = some f) : f.id ∈ (t.applyEvent e).2.live.keys := by
  unfold applyEvent at hf ⊢
  cases hlive : t.live.lookup e.jobId with
  | none => simp [hlive] at hf
  | some job =>
    simp only [hlive] at hf ⊢
    split at hf
    · cases hf
      rw [StrMap.mem_keys_insert]
      exact Or.inl (hid _ (StrMap.mem_of_lookup hlive))
    · cases hf

lemma liveStep_applyUntilFinished :
    ∀ (t : JobTracker) (es : List JobEvent), LiveStep t (t.applyUntilFinished es).2
  | t, [] => LiveStep.refl t
  | t, e :: es => by
    have hstep := liveStep_applyEvent t e
    rw [applyUntilFinished_cons]
    rcases happly : t.applyEvent e with ⟨_ | f, t₁⟩
    · rw [happly] at hstep
      exact hstep.trans (liveStep_applyUntilFinished t₁ es)
    · rwa [happly] at hstep

/-- The job events end, when they end one, is live, under its own id, in the tracker they
leave. -/
lemma applyUntilFinished_finished :
    ∀ {t : JobTracker} {es : List JobEvent}, (∀ p ∈ t.live, p.2.id = p.1) → ∀ {f : Job},
      (t.applyUntilFinished es).1 = some f → f.id ∈ (t.applyUntilFinished es).2.live.keys
  | _, [], _, _, hf => by simp [applyUntilFinished] at hf
  | t, e :: es, hid, f, hf => by
    have hstep := liveStep_applyEvent t e
    rw [applyUntilFinished_cons] at hf ⊢
    rcases happly : t.applyEvent e with ⟨_ | f', t₁⟩
    · simp only [happly] at hstep hf ⊢
      -- no event so far ended the job: the rest go on from a tracker still filed by id
      have hid₁ : ∀ p ∈ t₁.live, p.2.id = p.1 := fun p hp => by
        obtain ⟨q, hq, hk, hi, -⟩ := hstep.entry p hp
        rw [← hi, ← hk]
        exact hid q hq
      exact applyUntilFinished_finished hid₁ hf
    · simp only [happly, Option.some.injEq] at hf ⊢
      subst hf
      have hfin := applyEvent_finished hid (e := e) (f := f') (by rw [happly])
      rwa [happly] at hfin

/-! ### The steps of the handling of an event -/

/-- Completing a live job keeps a tracker sound. -/
lemma Sound.complete (h : t.Sound) {f : Job} (hf : f.id ∈ t.live.keys)
    (r : Except ClientError ContentRecord) : (t.complete f r).2.Sound := by
  have hdrop := h.dropLive f.id
  have hreg : f.id ∈ t.registered := h.live_registered _ hf
  have hnf : f.id ∉ t.inFlight.keys := fun hk => h.inFlight_not_live _ hk hf
  unfold JobTracker.complete
  cases r with
  | ok record => exact hdrop.addCompleted hreg hnf _
  | error e => exact hdrop.addCompleted hreg hnf _

@[simp] lemma inFlight_complete (t : JobTracker) (f : Job) (r : Except ClientError ContentRecord) :
    (t.complete f r).2.inFlight = t.inFlight := by
  unfold JobTracker.complete
  cases r <;> rfl

lemma Sound.completeIfFinished (h : t.Sound) {fo : Option Job}
    (hf : ∀ f, fo = some f → f.id ∈ t.live.keys)
    (answer : ContentUri → Except ClientError ContentRecord) :
    (JobTracker.completeIfFinished answer (fo, t)).Sound := by
  cases fo with
  | none => exact h
  | some f => exact h.complete (hf f rfl) _

@[simp] lemma inFlight_completeIfFinished (answer : ContentUri → Except ClientError ContentRecord)
    (fo : Option Job) (t : JobTracker) :
    (JobTracker.completeIfFinished answer (fo, t)).inFlight = t.inFlight := by
  cases fo <;> simp [JobTracker.completeIfFinished]

/-- Events applied to a live job up to the first that ends it, and the job then completed. -/
lemma Sound.takeEvents (h : t.Sound) (es : List JobEvent)
    (answer : ContentUri → Except ClientError ContentRecord) : (t.takeEvents es answer).Sound :=
  (h.liveStep (liveStep_applyUntilFinished t es)).completeIfFinished
    (fun _ hf => applyUntilFinished_finished h.live_id hf) answer

@[simp] lemma inFlight_takeEvents (t : JobTracker) (es : List JobEvent)
    (answer : ContentUri → Except ClientError ContentRecord) :
    (t.takeEvents es answer).inFlight = t.inFlight := by
  rw [takeEvents, inFlight_completeIfFinished]
  exact (liveStep_applyUntilFinished t es).inFlight

/-- An event for a known job keeps a tracker sound. -/
lemma Sound.afterUpdate (h : t.Sound) (e : JobEvent)
    (answer : ContentUri → Except ClientError ContentRecord) : (t.afterUpdate e answer).Sound := by
  rw [afterUpdate_eq]
  exact (h.liveStep (liveStep_applyEvent t e)).completeIfFinished
    (fun _ hf => applyEvent_finished h.live_id hf) answer

@[simp] lemma inFlight_afterUpdate (t : JobTracker) (e : JobEvent)
    (answer : ContentUri → Except ClientError ContentRecord) :
    (t.afterUpdate e answer).inFlight = t.inFlight := by
  rw [afterUpdate_eq, inFlight_completeIfFinished]
  exact (liveStep_applyEvent t e).inFlight

/-- An event noted keeps a tracker sound: a job never seen is registered as it starts to be
fetched, and so has no other entry. -/
lemma Sound.arrive (h : t.Sound) (e : JobEvent) : (t.arrive e).2.Sound := by
  unfold JobTracker.arrive
  cases hkept : t.inFlight.lookup e.jobId with
  | some kept =>
    -- a job already being fetched: its entry changes in place
    have hkey : e.jobId ∈ t.inFlight.keys := (StrMap.isSome_lookup_iff _ _).1 (by simp [hkept])
    have hkeys := StrMap.keys_insert_of_mem h.sorted hkey (kept ++ [e])
    exact { inFlight_registered := hkeys ▸ h.inFlight_registered
            live_registered := h.live_registered
            completed_registered := h.completed_registered
            inFlight_not_live := hkeys ▸ h.inFlight_not_live
            inFlight_not_completed := hkeys ▸ h.inFlight_not_completed
            live_shown := h.live_shown
            sorted := h.sorted.insert _ _
            live_id := h.live_id }
  | none =>
    dsimp only
    split
    · exact h
    · -- a job never seen: registered, it has no live or completed entry
      next hnew =>
      have hreg : e.jobId ∉ t.registered := by simpa [StrSet.contains_iff] using hnew
      have hnot : e.jobId ∉ t.inFlight.keys := (StrMap.lookup_eq_none_iff _ _).1 hkept
      have hnl : e.jobId ∉ t.live.keys := fun hl => hreg (h.live_registered _ hl)
      have hnc : e.jobId ∉ t.completed.keys := fun hc => hreg (h.completed_registered _ hc)
      have hreg' := h.register e.jobId
      exact { inFlight_registered := fun k hk => by
                rcases (StrMap.mem_keys_insert _ k _ _).1 hk with rfl | hk
                · exact (StrSet.mem_insert _ _ _).2 (.inl rfl)
                · exact hreg'.inFlight_registered k hk
              live_registered := hreg'.live_registered
              completed_registered := hreg'.completed_registered
              inFlight_not_live := fun k hk => by
                rcases (StrMap.mem_keys_insert _ k _ _).1 hk with rfl | hk
                · exact hnl
                · exact h.inFlight_not_live k hk
              inFlight_not_completed := fun k hk => by
                rcases (StrMap.mem_keys_insert _ k _ _).1 hk with rfl | hk
                · exact hnc
                · exact h.inFlight_not_completed k hk
              live_shown := h.live_shown
              sorted := h.sorted.insert _ _
              live_id := h.live_id }

/-- An event for a job being fetched is kept, and the jobs being fetched stay the same. -/
lemma keys_arrive_kept (h : t.Sound) {e : JobEvent} (ha : t.arrive e = (.kept, t')) :
    t'.inFlight.keys = t.inFlight.keys := by
  unfold arrive at ha
  cases hkept : t.inFlight.lookup e.jobId with
  | some kept =>
    simp only [hkept, Prod.mk.injEq] at ha
    rw [← ha.2]
    exact StrMap.keys_insert_of_mem h.sorted
      ((StrMap.isSome_lookup_iff _ _).1 (by simp [hkept])) _
  | none =>
    simp only [hkept] at ha
    split at ha <;> simp at ha

/-- An event for a known job changes nothing as it arrives. -/
lemma arrive_known {e : JobEvent} (ha : t.arrive e = (.known, t')) : t' = t := by
  unfold arrive at ha
  cases hkept : t.inFlight.lookup e.jobId with
  | some kept => simp [hkept] at ha
  | none =>
    simp only [hkept] at ha
    split at ha
    · simp only [Prod.mk.injEq] at ha
      exact ha.2.symm
    · simp at ha

/-- The first event for a job never seen starts a fetch of it, with nothing kept. -/
lemma arrive_unseen {e : JobEvent} (ha : t.arrive e = (.unseen, t')) :
    e.jobId ∉ t.inFlight.keys ∧ t'.inFlight = t.inFlight.insert e.jobId [] := by
  unfold arrive at ha
  cases hkept : t.inFlight.lookup e.jobId with
  | some kept => simp [hkept] at ha
  | none =>
    simp only [hkept] at ha
    split at ha
    · simp at ha
    · simp only [Prod.mk.injEq] at ha
      exact ⟨(StrMap.lookup_eq_none_iff _ _).1 hkept, by rw [← ha.2]⟩

/-- What an answered fetch does: its job leaves the fetches under way, and is forgotten if the
fetch failed, or else, if it belongs to the record shown, goes live and takes the event that
started the fetch and those kept for it. -/
lemma afterFetch_eq (t : JobTracker) (e : JobEvent) (r : Except ClientError Job)
    (answer : ContentUri → Except ClientError ContentRecord) :
    t.afterFetch e r answer =
      match r with
      | .error _ =>
        { t with inFlight := t.inFlight.erase e.jobId, registered := t.registered.erase e.jobId }
      | .ok job =>
        if t.shows job then
          ({ t with inFlight := t.inFlight.erase e.jobId, live := t.live.insert job.id job } :
            JobTracker).takeEvents (e :: (t.inFlight.lookup e.jobId).getD []) answer
        else { t with inFlight := t.inFlight.erase e.jobId } := by
  unfold JobTracker.afterFetch JobTracker.receive
  cases r with
  | error err => rfl
  | ok job =>
    have hs : ({ t with inFlight := t.inFlight.erase e.jobId } : JobTracker).shows job =
        t.shows job := rfl
    cases hshow : t.shows job
    · simp [hs, hshow]
    · simp only [hs, hshow, Bool.not_true, Bool.false_eq_true, if_false, if_true]
      rfl

/-- A job that a fetch answered, of the id fetched and belonging to the record shown, goes live
as the fetch ends. -/
lemma Sound.fetched (h : t.Sound) {e : JobEvent} (hj : e.jobId ∈ t.inFlight.keys) {job : Job}
    (hid : job.id = e.jobId) (hshow : t.shows job = true) :
    ({ t with inFlight := t.inFlight.erase e.jobId
              live := t.live.insert job.id job } : JobTracker).Sound := by
  have hgone : e.jobId ∉ (t.inFlight.erase e.jobId).keys := fun hk =>
    ((StrMap.mem_keys_erase h.sorted _ _).1 hk).1 rfl
  exact (h.endFetch e.jobId).goLive (by rw [hid]; exact h.inFlight_registered _ hj)
    (by rw [hid]; exact hgone) hshow

/-- A fetch that answered keeps a tracker sound, when its job was being fetched and the answer
is a job of that id. -/
lemma Sound.afterFetch (h : t.Sound) {e : JobEvent} (hj : e.jobId ∈ t.inFlight.keys)
    {r : Except ClientError Job} (hr : ∀ job, r = .ok job → job.id = e.jobId)
    (answer : ContentUri → Except ClientError ContentRecord) :
    (t.afterFetch e r answer).Sound := by
  have hend := h.endFetch e.jobId
  have hgone : e.jobId ∉ (t.inFlight.erase e.jobId).keys := fun hk =>
    ((StrMap.mem_keys_erase h.sorted _ _).1 hk).1 rfl
  rw [afterFetch_eq]
  cases r with
  | error err =>
    exact hend.forget hgone (h.inFlight_not_live _ hj) (h.inFlight_not_completed _ hj)
  | ok job =>
    have hid := hr job rfl
    dsimp only
    split
    · -- a job of the record shown goes live under the id it was fetched by
      next hshow => exact (h.fetched hj hid hshow).takeEvents _ answer
    · exact hend

/-- An answered fetch takes its own job, and no other, out of the fetches under way. -/
lemma inFlight_afterFetch (t : JobTracker) (e : JobEvent) (r : Except ClientError Job)
    (answer : ContentUri → Except ClientError ContentRecord) :
    (t.afterFetch e r answer).inFlight = t.inFlight.erase e.jobId := by
  rw [afterFetch_eq]
  cases r with
  | error err => rfl
  | ok job =>
    dsimp only
    split
    · exact inFlight_takeEvents _ _ answer
    · rfl

/-- An event handled with nothing else running keeps a tracker sound, over a server that files
each job under its own id, and leaves the same jobs being fetched: a fetch it starts, it also
ends. -/
lemma Sound.handleAlone (h : t.Sound) {s : Server} (hs : s.JobsKeyed) (e : JobEvent) :
    (t.handleAlone e s).Sound ∧
      ∀ k, k ∈ (t.handleAlone e s).inFlight.keys ↔ k ∈ t.inFlight.keys := by
  have ha := h.arrive e
  unfold JobTracker.handleAlone
  rcases harr : t.arrive e with ⟨_ | _ | _, t'⟩ <;> rw [harr] at ha <;> dsimp only
  · -- kept: the fetch under way stays
    exact ⟨ha, fun k => by rw [keys_arrive_kept h harr]⟩
  · -- never seen: the fetch starts and ends
    obtain ⟨hnot, hin⟩ := arrive_unseen harr
    have hJ : e.jobId ∈ t'.inFlight.keys := by
      rw [hin, StrMap.mem_keys_insert]
      exact .inl rfl
    refine ⟨ha.afterFetch hJ (fun _ hj => hs.jobAnswer_id hj) _, fun k => ?_⟩
    rw [inFlight_afterFetch, StrMap.mem_keys_erase ha.sorted, hin, StrMap.mem_keys_insert]
    constructor
    · rintro ⟨hne, hk | hk⟩
      · exact absurd hk hne
      · exact hk
    · intro hk
      exact ⟨fun hkJ => hnot (hkJ ▸ hk), .inr hk⟩
  · -- known: no fetch
    cases arrive_known harr
    exact ⟨ha.afterUpdate e _, fun k => by rw [inFlight_afterUpdate]⟩

/-! ### Loading the jobs of a record -/

section Load

variable {u : ContentUri} {r : ContentRecord}

/-- One listed job of a load: registered, then completed with the record's provenance if it has
finished, or else shown live. -/
def loadListed (r : ContentRecord) (t : JobTracker) (j : Job) : JobTracker :=
  let t := { t with registered := t.registered.insert j.id }
  if j.status.isTerminal then
    { t with completed :=
        t.completed.insert j.id ((provenanceIn r j.id).getD (JobProvenance.ofJob j)) }
  else { t with live := t.live.insert j.id j }

/-- One provenance entry of the record: registered, and completed unless it already is. -/
def loadEntry (t : JobTracker) (p : JobProvenance) : JobTracker :=
  let t := { t with registered := t.registered.insert p.jobId }
  if t.completed.containsKey p.jobId then t
  else { t with completed := t.completed.insert p.jobId p }

/-- A load shows the record afresh, then each listed job, then each provenance entry. -/
lemma loadListing_eq (t : JobTracker) (u : ContentUri) (jobs : List Job) (r : ContentRecord) :
    t.loadListing u jobs r = r.provenance.foldl loadEntry
      (jobs.foldl (loadListed r) { t with content := some u, live := [], completed := [] }) := rfl

/-- What holds of a tracker while the jobs of the record `u` are loaded into it, with no fetch
under way. -/
def Loading (u : ContentUri) (t : JobTracker) : Prop :=
  t.Sound ∧ t.content = some u ∧ t.inFlight = []

/-- Showing a record afresh, with no live or completed entry yet. -/
lemma Sound.showRecord (h : t.Sound) (u : ContentUri) :
    { t with content := some u, live := [], completed := [] }.Sound where
  inFlight_registered := h.inFlight_registered
  live_registered := by simp
  completed_registered := by simp
  inFlight_not_live := by simp
  inFlight_not_completed := by simp
  live_shown := by simp
  sorted := h.sorted
  live_id := by simp

lemma Loading.listed {t : JobTracker} (h : Loading u t) {j : Job} (hj : j.contentUri = u) :
    Loading u (loadListed r t j) := by
  obtain ⟨hs, hu, hnone⟩ := h
  have hreg := hs.register j.id
  have hmem : j.id ∈ t.registered.insert j.id := (StrSet.mem_insert _ _ _).2 (.inl rfl)
  have hnf : j.id ∉ t.inFlight.keys := by simp [hnone]
  unfold loadListed
  dsimp only
  split
  · exact ⟨hreg.addCompleted hmem hnf _, hu, hnone⟩
  · exact ⟨hreg.goLive hmem hnf (by simp [shows, hu, hj]), hu, hnone⟩

lemma Loading.entry {t : JobTracker} (h : Loading u t) (p : JobProvenance) :
    Loading u (loadEntry t p) := by
  obtain ⟨hs, hu, hnone⟩ := h
  have hreg := hs.register p.jobId
  unfold loadEntry
  dsimp only
  split
  · exact ⟨hreg, hu, hnone⟩
  · exact ⟨hreg.addCompleted ((StrSet.mem_insert _ _ _).2 (.inl rfl)) (by simp [hnone]) _, hu,
      hnone⟩

/-- Loading the jobs of a record, all of them jobs of that record, keeps a tracker with no
fetch under way sound, and starts no fetch. -/
lemma Sound.loadListing (h : t.Sound) (hnone : t.inFlight = []) {jobs : List Job}
    (hjobs : ∀ j ∈ jobs, j.contentUri = u) :
    (t.loadListing u jobs r).Sound ∧ (t.loadListing u jobs r).inFlight = [] := by
  have hstart : Loading u { t with content := some u, live := [], completed := [] } :=
    ⟨h.showRecord u, rfl, hnone⟩
  -- each job of the record, then each provenance entry, keeps the tracker loading
  have hlisted : ∀ (js : List Job) (t₀ : JobTracker), (∀ j ∈ js, j.contentUri = u) →
      Loading u t₀ → Loading u (js.foldl (loadListed r) t₀) := by
    intro js
    induction js with
    | nil => exact fun _ _ h => h
    | cons j js ih =>
      intro t₀ hjs h₀
      exact ih _ (fun j' hj' => hjs j' (List.mem_cons_of_mem _ hj'))
        (h₀.listed (hjs j List.mem_cons_self))
  have hentries : ∀ (ps : List JobProvenance) (t₀ : JobTracker), Loading u t₀ →
      Loading u (ps.foldl loadEntry t₀) := by
    intro ps
    induction ps with
    | nil => exact fun _ h => h
    | cons p ps ih => exact fun t₀ h₀ => ih _ (h₀.entry p)
  have hdone := hentries r.provenance _ (hlisted jobs _ hjobs hstart)
  rw [loadListing_eq]
  exact ⟨hdone.1, hdone.2.2⟩

/-! ### Which jobs a load shows live and completed -/

section Shown

variable {k : String}

lemma mem_live_loadListed (j : Job) :
    k ∈ (loadListed r t j).live.keys ↔ k ∈ t.live.keys ∨ (k = j.id ∧ j.status.isTerminal = false) := by
  unfold loadListed
  cases j.status.isTerminal <;> simp [StrMap.mem_keys_insert, or_comm]

lemma mem_completed_loadListed (j : Job) :
    k ∈ (loadListed r t j).completed.keys ↔
      k ∈ t.completed.keys ∨ (k = j.id ∧ j.status.isTerminal = true) := by
  unfold loadListed
  cases j.status.isTerminal <;> simp [StrMap.mem_keys_insert, or_comm]

@[simp] lemma live_loadEntry (p : JobProvenance) : (loadEntry t p).live = t.live := by
  unfold loadEntry
  dsimp only
  split <;> rfl

lemma mem_completed_loadEntry (p : JobProvenance) :
    k ∈ (loadEntry t p).completed.keys ↔ k ∈ t.completed.keys ∨ k = p.jobId := by
  unfold loadEntry
  dsimp only
  split
  · next hc =>
    -- the entry's job is completed already
    have hp : p.jobId ∈ t.completed.keys := (StrMap.containsKey_iff _ _).1 hc
    exact ⟨.inl, fun hk => hk.elim id fun hk => hk ▸ hp⟩
  · simp [StrMap.mem_keys_insert, or_comm]

/-- The listed jobs of a load add to the live entries the running ones, and to the completed
entries the finished ones. -/
lemma mem_foldl_loadListed (k : String) :
    ∀ (jobs : List Job) (t : JobTracker),
      (k ∈ (jobs.foldl (loadListed r) t).live.keys ↔
        k ∈ t.live.keys ∨ ∃ j ∈ jobs, j.id = k ∧ j.status.isTerminal = false) ∧
      (k ∈ (jobs.foldl (loadListed r) t).completed.keys ↔
        k ∈ t.completed.keys ∨ ∃ j ∈ jobs, j.id = k ∧ j.status.isTerminal = true)
  | [], t => by simp
  | j :: jobs, t => by
    obtain ⟨hl, hc⟩ := mem_foldl_loadListed k jobs (loadListed r t j)
    rw [List.foldl_cons, hl, hc, mem_live_loadListed, mem_completed_loadListed]
    constructor <;> constructor
    all_goals grind

/-- The provenance entries of a load leave the live entries, and complete every job they name. -/
lemma mem_foldl_loadEntry (k : String) :
    ∀ (ps : List JobProvenance) (t : JobTracker),
      (ps.foldl loadEntry t).live = t.live ∧
      (k ∈ (ps.foldl loadEntry t).completed.keys ↔ k ∈ t.completed.keys ∨ ∃ p ∈ ps, p.jobId = k)
  | [], t => by simp
  | p :: ps, t => by
    obtain ⟨hl, hc⟩ := mem_foldl_loadEntry k ps (loadEntry t p)
    rw [List.foldl_cons, hl, hc, live_loadEntry, mem_completed_loadEntry]
    refine ⟨rfl, ?_⟩
    grind

/-- After the jobs of a record are loaded, a job is live exactly when the listing shows it
running, and completed exactly when the listing shows it finished or the record keeps
provenance for it.  So a running job of which the record keeps provenance, as a failed job run
again does, is shown both live and completed. -/
theorem loadListing_live_completed (t : JobTracker) (u : ContentUri) (jobs : List Job)
    (r : ContentRecord) (k : String) :
    (k ∈ (t.loadListing u jobs r).live.keys ↔
        ∃ j ∈ jobs, j.id = k ∧ j.status.isTerminal = false) ∧
      (k ∈ (t.loadListing u jobs r).completed.keys ↔
        (∃ j ∈ jobs, j.id = k ∧ j.status.isTerminal = true) ∨ ∃ p ∈ r.provenance, p.jobId = k) := by
  obtain ⟨hjl, hjc⟩ := mem_foldl_loadListed (r := r) k jobs
    { t with content := some u, live := [], completed := [] }
  obtain ⟨hpl, hpc⟩ := mem_foldl_loadEntry k r.provenance
    (jobs.foldl (loadListed r) { t with content := some u, live := [], completed := [] })
  rw [loadListing_eq, hpl, hpc, hjl, hjc]
  simp

/-- A job run again after a failed run is shown both live and completed. -/
example :
    let t := ({} : JobTracker).loadListing ⟨"42", "Document", "d1"⟩
      [{ id := "j1", corpusId := "42", contentType := "Document", contentId := "d1", taskId := "ocr",
         status := .queueing }] { id := "d1", provenance := [{ jobId := "j1", status := .error }] }
    t.live.keys = ["j1"] ∧ t.completed.keys = ["j1"] := by decide +kernel

end Shown

end Load

end JobTracker

end CorpusBench
