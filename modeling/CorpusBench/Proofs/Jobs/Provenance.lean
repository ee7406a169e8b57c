import CorpusBench.Proofs.Jobs.Coherence

/-!
# The provenance entry shown for a finished job

When a job ends, the tracker shows a completed entry for it, taken from the provenance of the
job's record: after a terminal event, from the record fetched again by `JobWorld.finalize`; on a
load, from the record whose jobs are listed.  Either way the entry is the *first* one the record
keeps for the job (`JobTracker.provenanceIn` searches from the front), and the job itself stands
in when the record keeps none.

The server adds one entry per run at the end of the record's provenance.  A job that failed, was
retried and then succeeded has two entries, the failure first, and the tracker shows the
failure: the job still offers a retry.

## Main definitions

* `JobTracker.FirstEntry` — the first provenance entry of a record for a job, or the
  job itself.

## Main results

* `JobTracker.provenanceIn_eq_some_iff` — the entry found is the first for the job.
* `JobTracker.lookup_completed_loadListing` — a load shows a finished job with the
  record's entry for it.
* `JobWorld.completed_entry_first_for_job`.
-/

namespace CorpusBench

namespace JobTracker

variable {r : ContentRecord} {t : JobTracker} {j : Job} {p : JobProvenance}

/-! ### The entry found in a record -/

/-- The entry found for a job is the first one of the record's provenance for it. -/
lemma provenanceIn_eq_some_iff {k : String} :
    provenanceIn r k = some p ↔
      p.jobId = k ∧ ∃ pre post, r.provenance = pre ++ p :: post ∧ ∀ q ∈ pre, q.jobId ≠ k := by
  unfold provenanceIn
  rw [List.find?_eq_some_iff_append]
  simp

lemma provenanceIn_eq_none_iff {k : String} :
    provenanceIn r k = none ↔ ∀ q ∈ r.provenance, q.jobId ≠ k := by
  unfold provenanceIn
  rw [List.find?_eq_none]
  simp

/-- `p` is the first provenance entry the record `r` keeps for the job `j`, or the entry made
from the job itself when the record keeps none. -/
def FirstEntry (r : ContentRecord) (j : Job) (p : JobProvenance) : Prop :=
  (p.jobId = j.id ∧ ∃ pre post, r.provenance = pre ++ p :: post ∧ ∀ q ∈ pre, q.jobId ≠ j.id) ∨
    (p = JobProvenance.ofJob j ∧ ∀ q ∈ r.provenance, q.jobId ≠ j.id)

/-- The entry the tracker takes for a job from its record is the first one. -/
lemma firstEntry_getD_provenanceIn (r : ContentRecord) (j : Job) :
    FirstEntry r j ((provenanceIn r j.id).getD (JobProvenance.ofJob j)) := by
  cases h : provenanceIn r j.id with
  | none => exact .inr ⟨rfl, provenanceIn_eq_none_iff.1 h⟩
  | some p => exact .inl (provenanceIn_eq_some_iff.1 h)

/-- A completed entry offers a retry exactly when it records a failure. -/
lemma canRetry_of_lookup {k : String} (h : t.completed.lookup k = some p) :
    t.canRetry k = true ↔ p.status = .error := by
  simp [canRetry, h]

/-! ### A load -/

section Load

/-- A provenance entry of a load leaves the entry of a job already completed. -/
lemma lookup_completed_foldl_loadEntry {k : String} :
    ∀ (ps : List JobProvenance) (t : JobTracker), k ∈ t.completed.keys →
      (ps.foldl loadEntry t).completed.lookup k = t.completed.lookup k
  | [], _, _ => rfl
  | q :: ps, t, hk => by
    have hk' : k ∈ (loadEntry t q).completed.keys := mem_completed_loadEntry q |>.2 (.inl hk)
    rw [List.foldl_cons, lookup_completed_foldl_loadEntry ps _ hk']
    unfold loadEntry
    dsimp only
    split
    · rfl
    · next hq =>
      -- the entry's job is not completed yet, so it is another job
      have hne : k ≠ q.jobId := fun h => hq (by simpa [h] using (StrMap.containsKey_iff _ _).2 hk)
      simp [StrMap.lookup_insert, hne]

/-- The listed jobs of a load leave the entry of a job none of them is. -/
lemma lookup_completed_foldl_loadListed_of_not_mem {k : String} :
    ∀ (jobs : List Job) (t : JobTracker), (∀ j' ∈ jobs, j'.id ≠ k) →
      (jobs.foldl (loadListed r) t).completed.lookup k = t.completed.lookup k
  | [], _, _ => rfl
  | j' :: jobs, t, hk => by
    rw [List.foldl_cons,
      lookup_completed_foldl_loadListed_of_not_mem jobs _ fun j'' hj'' => hk j'' (by simp [hj''])]
    have hne : k ≠ j'.id := fun h => hk j' List.mem_cons_self h.symm
    unfold loadListed
    dsimp only
    split
    · simp [StrMap.lookup_insert, hne]
    · rfl

/-- A listed job that has finished, listed once, is completed with its record's entry. -/
lemma lookup_completed_foldl_loadListed :
    ∀ (jobs : List Job) (t : JobTracker), j ∈ jobs → j.status.isTerminal = true →
      (jobs.map (·.id)).Nodup →
      (jobs.foldl (loadListed r) t).completed.lookup j.id =
        some ((provenanceIn r j.id).getD (JobProvenance.ofJob j))
  | [], _, hj, _, _ => (List.not_mem_nil hj).elim
  | j' :: jobs, t, hj, hterm, hnodup => by
    rw [List.map_cons, List.nodup_cons] at hnodup
    rw [List.foldl_cons]
    rcases List.mem_cons.1 hj with rfl | hj
    · -- the job itself: no later job has its id
      have hnot : ∀ j'' ∈ jobs, j''.id ≠ j.id := fun j'' hj'' h =>
        hnodup.1 (List.mem_map.2 ⟨j'', hj'', h⟩)
      rw [lookup_completed_foldl_loadListed_of_not_mem jobs _ hnot]
      simp [loadListed, hterm, StrMap.lookup_insert]
    · exact lookup_completed_foldl_loadListed jobs _ hj hterm hnodup.2

/-- A load shows a listed job that has finished, listed once, with its record's entry for it. -/
lemma lookup_completed_loadListing (u : ContentUri) {jobs : List Job} (hj : j ∈ jobs)
    (hterm : j.status.isTerminal = true) (hnodup : (jobs.map (·.id)).Nodup) :
    (t.loadListing u jobs r).completed.lookup j.id =
      some ((provenanceIn r j.id).getD (JobProvenance.ofJob j)) := by
  rw [loadListing_eq]
  have hlisted := lookup_completed_foldl_loadListed (r := r) jobs
    { t with content := some u, live := [], completed := [] } hj hterm hnodup
  rw [lookup_completed_foldl_loadEntry _ _ ((StrMap.lookup_eq_none_iff _ _).not_left.1 (by
    simp [hlisted])), hlisted]

end Load

end JobTracker

namespace JobWorld

open JobTracker

/-- Whichever way a run of a job ends, the tracker shows the first provenance entry the job's
record keeps for it, or the job itself when the record keeps none, and offers a retry exactly
when that entry records a failure.  A run ends when a terminal event completes the job and the
record is fetched again, or when a load lists the job as finished.  The entry is not the one of
the latest run when the record keeps several for the job: the server adds each at the end. -/
theorem completed_entry_first_for_job (r : ContentRecord) (j : Job) :
    (∀ w : JobWorld, w.server.contentAnswer j.contentUri = .ok r →
      Proc.wp (finalize j) (fun _ w' => ∃ p, w'.tracker.completed.lookup j.id = some p ∧
        FirstEntry r j p ∧ (w'.tracker.canRetry j.id = true ↔ p.status = .error)) w) ∧
    (∀ (t : JobTracker) (u : ContentUri) (jobs : List Job),
      j ∈ jobs → j.status.isTerminal = true → (jobs.map (·.id)).Nodup →
      ∃ p, (t.loadListing u jobs r).completed.lookup j.id = some p ∧
        FirstEntry r j p ∧ ((t.loadListing u jobs r).canRetry j.id = true ↔ p.status = .error)) := by
  refine ⟨fun w hr => wp_finalize j w fun _ => ?_, fun t u jobs hj hterm hnodup => ?_⟩
  · have hlookup : (w.tracker.complete j (w.server.contentAnswer j.contentUri)).2.completed.lookup
        j.id = some ((provenanceIn r j.id).getD (JobProvenance.ofJob j)) := by
      simp [hr, complete, StrMap.lookup_insert]
    exact ⟨_, hlookup, firstEntry_getD_provenanceIn r j, canRetry_of_lookup hlookup⟩
  · have hlookup := lookup_completed_loadListing (t := t) (r := r) u hj hterm hnodup
    exact ⟨_, hlookup, firstEntry_getD_provenanceIn r j, canRetry_of_lookup hlookup⟩

/-- Of a failed run and a completed one, a load shows the failed first run and offers a retry. -/
example :
    let t := ({} : JobTracker).loadListing ⟨"42", "Document", "d1"⟩
      [{ id := "j1", corpusId := "42", contentType := "Document", contentId := "d1", taskId := "ocr",
         status := .complete }]
      { id := "d1", provenance := [{ jobId := "j1", status := .error }, { jobId := "j1", status := .complete }] }
    (t.completed.lookup "j1").map (·.status) = some JobStatus.error ∧ t.canRetry "j1" = true := by
  decide +kernel

end JobWorld

end CorpusBench
