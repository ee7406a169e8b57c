import CorpusBench.Proofs.Concurrent.Guards
import CorpusBench.Proofs.Jobs.Coherence

/-!
# A job manager keeps its bookkeeping coherent

A manager loads the jobs of a record, submits and retries jobs, and handles push events, any
number of which may race.  The events of a group are handled side by side: each runs until it
waits for the server, and the others run meanwhile, in any order.  Through every such run, with
the server answering anything and failing anywhere, the tracker stays coherent
(`JobTracker.Coherent`): every job it holds anything for is registered, a job being fetched has
neither a live nor a completed entry, and every live job belongs to the record shown.

The proof is an invariant kept wherever the scheduler may switch (`Proc.Guards`).  Between two
such points an event is handled without interruption, and each of its steps keeps the tracker
sound (`JobTracker.Sound.handleAlone`, `Sound.afterFetch`).  Across the one point where it waits,
for the answer to the fetch of a job never seen, the event holds that job's entry among the
fetches under way: no other event takes it out, so when the answer comes the job is still being
fetched and has no other entry.  Loading, submitting and retrying run when no event is being
handled, hence no fetch is under way.

## Main definitions

* `JobWorld.Consistent` — a sound tracker over a server that files each job under its own id.
* `JobWorld.fetching` — whether a job is being fetched: the unit an event holds while it waits.
* `JobWorld.Reachable` — the configurations of a manager and the events it is handling.

## Main results

* `JobWorld.guards_handleEvent` — an event guards the invariant, holding the entry of the job
  it fetches while it waits.
* `JobWorld.wp_loadJobs`, `wp_submit`, `wp_retry` — run with no event being handled, the
  operations keep the invariant.
* `JobWorld.reachable_coherent` — every reachable tracker is coherent.
-/

namespace CorpusBench

namespace JobWorld

open Proc

/-- A sound tracker over a server that files each job under its own id. -/
def Consistent (w : JobWorld) : Prop := w.tracker.Sound ∧ w.server.JobsKeyed

/-- Whether the job `j` is being fetched: the unit the event that started the fetch holds until
the answer comes. -/
def fetching (j : String) (w : JobWorld) : Nat := if j ∈ w.tracker.inFlight.keys then 1 else 0

/-- A consistent world with no fetch under way, where the operations other than events run. -/
def AtRest (w : JobWorld) : Prop := Consistent w ∧ w.tracker.inFlight = []

/-! ### Events -/

/-- An event runs within one poll, unless it is the first for a job never seen and the server
takes a while to answer for jobs. -/
lemma instant_handleEvent {e : JobEvent} {w : JobWorld}
    (h : ∀ t', w.tracker.arrive e = (.unseen, t') → ∀ d, w.server.jobDelay ≠ some (d + 1)) :
    Proc.Instant (handleEvent e) w := by
  rw [handleEvent_eq, instant_bind]
  refine ⟨instant_modifyGet _ _, ?_⟩
  rw [wp_onTracker]
  rcases ha : w.tracker.arrive e with ⟨_ | _ | _, t'⟩
  · trivial
  · -- never seen: the server answers at once
    rw [fetchAndApply_eq, instant_bind, instant_ask, wp_ask]
    refine ⟨Server.instant_getJob (h t' ha), ?_⟩
    rw [Server.wp_getJob]
    exact instant_afterAnswer e _ _
  · exact instant_afterKnown e _

/-- An event handled within one poll keeps the invariant, and every count. -/
lemma settled_handleAlone {w : JobWorld} (hw : Consistent w) (e : JobEvent) (more : List Call) :
    Settled Consistent fetching w 0 ⟨w.tracker.handleAlone e w.server, w.server.record more⟩ 0 := by
  obtain ⟨hsound, hkeys⟩ := hw.1.handleAlone hw.2 e
  exact ⟨⟨hsound, hw.2.record more⟩, fun k => by simp [fetching, hkeys k]⟩

/-- An event that waits for the answer to the fetch it starts holds the job's entry among the
fetches under way: the counts move by that unit as the fetch starts. -/
lemma settled_arrive_unseen {w : JobWorld} (hw : Consistent w) {e : JobEvent} {t' : JobTracker}
    (ha : w.tracker.arrive e = (.unseen, t')) (s : Server) (hs : s.JobsKeyed) :
    Settled Consistent fetching w 0 ⟨t', s⟩ (Pi.single e.jobId 1) := by
  have ht' : t'.Sound := by simpa [ha] using hw.1.arrive e
  obtain ⟨hnot, hin⟩ := JobTracker.arrive_unseen ha
  refine ⟨⟨ht', hs⟩, fun k => ?_⟩
  by_cases hk : k = e.jobId
  · subst hk
    simp [fetching, hin, StrMap.mem_keys_insert, hnot]
  · simp [fetching, hin, StrMap.mem_keys_insert, hk]

/-- The answer to a fetch under way ends it: the event that held the job's entry gives it back. -/
lemma settled_answer {w : JobWorld} (hw : Consistent w) {e : JobEvent}
    (hJ : e.jobId ∈ w.tracker.inFlight.keys) (more : List Call) :
    Settled Consistent fetching w (Pi.single e.jobId 1)
      ⟨w.tracker.afterFetch e (w.server.jobAnswer e.jobId) w.server.contentAnswer,
        w.server.record more⟩ 0 := by
  refine ⟨⟨hw.1.afterFetch hJ (fun _ hj => hw.2.jobAnswer_id hj) _, hw.2.record more⟩, fun k => ?_⟩
  have hk := StrMap.mem_keys_erase hw.1.sorted e.jobId k
  by_cases hkJ : k = e.jobId
  · subst hkJ
    simp [fetching, JobTracker.inFlight_afterFetch, hk, hJ]
  · simp [fetching, JobTracker.inFlight_afterFetch, hk, hkJ]

/-- A share of one unit of a job's fetch, covered by the counts, means the job is being
fetched. -/
lemma mem_inFlight_of_covers {w : JobWorld} {j : String}
    (hcov : ∀ k, (Pi.single j 1 : String → Nat) k ≤ fetching k w) : j ∈ w.tracker.inFlight.keys := by
  have := hcov j
  simp only [Pi.single_eq_same, fetching] at this
  split at this
  · assumption
  · omega

/-- When the answer comes, the job is still being fetched; the event applies it and gives the
entry back. -/
lemma guards_answer (e : JobEvent) :
    Guards Consistent fetching (Pi.single e.jobId 1) 0
      (ask (Proc.gets (·.jobAnswer e.jobId)) >>= afterAnswer e) := by
  intro w hw hcov
  -- the event's unit is still counted: its job is being fetched
  have hJ := mem_inFlight_of_covers hcov
  exact GuardsFrom.instant (instant_answer e w) (wp_answer e w fun _ => settled_answer hw hJ _)

/-- An event guards the invariant: it holds nothing, except the entry of the job it fetches
while it waits for the server's answer.

**Proof sketch.** An event that does not wait is handled within one poll, and keeps the tracker
sound with the same jobs being fetched (`JobTracker.Sound.handleAlone`).  The first event for a
job never seen that waits registers the job and takes its entry among the fetches under way
(`settled_arrive_unseen`), and applies the answer once it comes (`guards_answer`). -/
theorem guards_handleEvent (e : JobEvent) : Guards Consistent fetching 0 0 (handleEvent e) := by
  intro w hw _
  by_cases hwait : ∃ t' d, w.tracker.arrive e = (.unseen, t') ∧ w.server.jobDelay = some (d + 1)
  · obtain ⟨t', d, ha, hd⟩ := hwait
    exact GuardsFrom.sleepsThen (sleepsThen_handleEvent_of_unseen ha hd
      ⟨_, settled_arrive_unseen hw ha _ (hw.2.log _ _ _), guards_answer e⟩)
  · have hinst : Proc.Instant (handleEvent e) w :=
      instant_handleEvent fun t' ha d hd => hwait ⟨t', d, ha, hd⟩
    exact GuardsFrom.instant hinst (wp_handleEvent e w fun _ more => settled_handleAlone hw e more)

/-! ### Operations with no event being handled -/

@[simp] lemma inFlight_showLive (t : JobTracker) (j : Job) :
    (t.showLive j).inFlight = t.inFlight := by
  unfold JobTracker.showLive
  dsimp only
  split <;> rfl

/-- Loading the jobs of a record keeps the invariant, with no fetch under way: the server lists
only the jobs of that record. -/
lemma wp_loadJobs (u : ContentUri) {w : JobWorld} (hw : AtRest w) :
    wp (loadJobs u) (fun _ w' => AtRest w') w := by
  have hjobs : ∀ (jobs : List Job), ∀ j ∈ jobs.filter (·.contentUri = u), j.contentUri = u :=
    fun _ j hj => by simpa using (List.mem_filter.1 hj).2
  unfold loadJobs
  rw [wp_bind, wp_ask, Server.wp_listContentJobs]
  dsimp only
  rw [wp_bind, wp_ask, Server.wp_getContent]
  split
  · exact ⟨⟨hw.1.1, hw.1.2⟩, hw.2⟩
  · rw [wp_onTracker]
    obtain ⟨hsound, hnone⟩ := hw.1.1.loadListing hw.2 (r := _) (hjobs _)
    exact ⟨⟨hsound, hw.1.2⟩, hnone⟩

/-- Submitting a job keeps the invariant, with no fetch under way. -/
lemma wp_submit (scope : JobScope) (form : JobForm) (target : ContentUri) {w : JobWorld}
    (hw : AtRest w) : wp (submit scope form target) (fun _ w' => AtRest w') w := by
  unfold submit
  split
  · exact hw
  · split
    · exact hw
    · rw [wp_bind, wp_ask, Server.wp_submitJob]
      split
      · exact ⟨⟨hw.1.1, (hw.1.2.log _ _ _).applySubmission _⟩, hw.2⟩
      · rw [wp_onTracker]
        exact ⟨⟨hw.1.1.showLive (by simp [hw.2]), (hw.1.2.log _ _ _).applySubmission _⟩,
          by simp [hw.2]⟩

/-- Retrying a job keeps the invariant, with no fetch under way. -/
lemma wp_retry (jobId : String) {w : JobWorld} (hw : AtRest w) :
    wp (retry jobId) (fun _ w' => AtRest w') w := by
  unfold retry
  rw [wp_bind, wp_ask, Server.wp_retryJob]
  split
  · exact ⟨⟨hw.1.1, (hw.1.2.log _ _ _).applyRetry _⟩, hw.2⟩
  · rw [wp_onTracker]
    exact ⟨⟨(hw.1.1.dropCompleted jobId).showLive (by simp [hw.2]),
      (hw.1.2.log _ _ _).applyRetry _⟩, by simp [hw.2]⟩

/-! ### Reachable configurations -/

/-- The configurations of a job manager over the in-memory server: the world and the events
being handled, a finished one staying as `.done` until it leaves.  The server may change in any
way that files each job under its own id, as it files the jobs it is given and those it makes;
loading, submitting and retrying run to their end when no event is being handled; events join
at any time, and the scheduler polls any one of them. -/
inductive Reachable : JobWorld → List (Proc JobWorld Unit) → Prop
  /-- A fresh manager, over any server. -/
  | start (server : Server) (keyed : server.JobsKeyed) : Reachable ⟨{}, server⟩ []
  /-- The server changes, its answers and failures with it. -/
  | serve {w : JobWorld} {ps : List (Proc JobWorld Unit)} (server : Server)
      (keyed : server.JobsKeyed) : Reachable w ps → Reachable { w with server := server } ps
  /-- The jobs of a record are loaded. -/
  | load {w w' : JobWorld} (u : ContentUri) :
      Reachable w [] → Proc.Reaches (loadJobs u) w w' → Reachable w' []
  /-- A job is submitted. -/
  | submit {w w' : JobWorld} (scope : JobScope) (form : JobForm) (target : ContentUri) :
      Reachable w [] → Proc.Reaches (JobWorld.submit scope form target) w w' → Reachable w' []
  /-- A failed job is retried. -/
  | retry {w w' : JobWorld} (jobId : String) :
      Reachable w [] → Proc.Reaches (JobWorld.retry jobId) w w' → Reachable w' []
  /-- An event arrives, and is handled side by side with those being handled. -/
  | event {w : JobWorld} {ps : List (Proc JobWorld Unit)} (e : JobEvent) :
      Reachable w ps → Reachable w ((fun _ => ()) <$> handleEvent e :: ps)
  /-- An event being handled takes its next steps, up to where it waits, at any instant. -/
  | poll {w : JobWorld} {pre post : List (Proc JobWorld Unit)} {p : Proc JobWorld Unit}
      (now : Nat) : Reachable w (pre ++ p :: post) →
        Reachable (Proc.poll now p w).2.1 (pre ++ (Proc.poll now p w).1 :: post)
  /-- A handled event leaves. -/
  | finish {w : JobWorld} {pre post : List (Proc JobWorld Unit)} :
      Reachable w (pre ++ .done () :: post) → Reachable w (pre ++ post)

variable {w : JobWorld} {ps : List (Proc JobWorld Unit)}

/-- An operation that runs with no event being handled, and keeps the invariant at rest, leaves
the events guarded. -/
lemma guarded_of_atRest {w' : JobWorld} {held : List (String → Nat)}
    (h : Guarded Consistent fetching w held ([] : List (Proc JobWorld Unit)))
    (hop : AtRest w → AtRest w') :
    ∃ held', Guarded Consistent fetching w' held' ([] : List (Proc JobWorld Unit)) := by
  -- with no event being handled, no fetch is under way
  have hnone : w.tracker.inFlight = [] := by
    refine List.eq_nil_of_map_eq_nil (f := Prod.fst) (List.eq_nil_iff_forall_not_mem.2 fun j hj => ?_)
    have := h.count_eq_zero j
    simp [fetching, StrMap.keys, hj] at this
  obtain ⟨hw', hnone'⟩ := hop ⟨h.valid, hnone⟩
  exact ⟨[], hw', .nil, fun j => by simp [fetching, StrMap.keys, hnone']⟩

/-- In a reachable configuration, the events being handled guard the invariant with shares that
add up to the fetches under way.

**Proof sketch.** Induction on reachability: a fresh manager is sound with nothing fetched, a
change of the server files jobs by id and leaves the tracker alone, the operations keep the
invariant at rest (`wp_loadJobs`, `wp_submit`, `wp_retry`), an event joins holding nothing
(`guards_handleEvent`), and a poll or a finished event keeps the others guarded
(`Proc.Guarded.poll`, `Proc.Guarded.drop`). -/
theorem Reachable.guarded (h : Reachable w ps) :
    ∃ held, Guarded Consistent fetching w held ps := by
  induction h with
  | start server keyed =>
    exact ⟨[], ⟨⟨JobTracker.sound_empty, keyed⟩, .nil, fun j => by simp [fetching]⟩⟩
  | serve server keyed _ ih =>
    obtain ⟨held, hg⟩ := ih
    exact ⟨held, hg.of_counts ⟨hg.valid.1, keyed⟩ fun _ => rfl⟩
  | load u _ hr ih =>
    obtain ⟨held, hg⟩ := ih
    exact guarded_of_atRest hg fun hw => wp_reaches (wp_loadJobs u hw) hr
  | submit scope form target _ hr ih =>
    obtain ⟨held, hg⟩ := ih
    exact guarded_of_atRest hg fun hw => wp_reaches (wp_submit scope form target hw) hr
  | retry jobId _ hr ih =>
    obtain ⟨held, hg⟩ := ih
    exact guarded_of_atRest hg fun hw => wp_reaches (wp_retry jobId hw) hr
  | event e _ ih =>
    obtain ⟨held, hg⟩ := ih
    exact ⟨_, hg.cons ((guards_handleEvent e).map _)⟩
  | poll now _ ih =>
    obtain ⟨held, hg⟩ := ih
    exact hg.poll now
  | finish _ ih =>
    obtain ⟨held, hg⟩ := ih
    exact hg.drop

/-- Whatever a manager has done, and whatever events it is in the middle of handling, its
tracker is coherent: every job it keeps events for, shows live or shows completed is
registered, no job being fetched is live or completed, and every live job belongs to the record
shown. -/
theorem reachable_coherent (h : Reachable w ps) : w.tracker.Coherent := by
  obtain ⟨_, hg⟩ := h.guarded
  exact hg.valid.1.toCoherent

/-- A running job of a book. -/
def runningJob : Job where
  id := "job-1"
  corpusId := "42"
  contentType := "Book"
  contentId := "b1"
  taskId := "task-1"
  status := .running

/-- A server holding one running job, that answers for jobs after five milliseconds. -/
def slowJobServer : Server where
  jobs := [(runningJob.id, runningJob)]
  jobDelay := some 5

/-- An event for a job never seen, polled once on a fresh manager over `slowJobServer`: it has
started the job's fetch and waits for the answer, in a reachable configuration whose tracker is
coherent. -/
theorem reachable_coherent_while_fetching :
    let w : JobWorld := ⟨{}, slowJobServer⟩
    let p : Proc JobWorld Unit :=
      (fun _ => ()) <$> handleEvent { jobId := "job-1", status := .running }
    Reachable (Proc.poll 0 p w).2.1 [(Proc.poll 0 p w).1] ∧
      "job-1" ∈ (Proc.poll 0 p w).2.1.tracker.inFlight.keys ∧
      (Proc.poll 0 p w).2.1.tracker.Coherent := by
  intro w p
  have hkeyed : slowJobServer.JobsKeyed := by
    intro q hq
    rcases List.mem_singleton.1 hq with rfl
    rfl
  have h : Reachable (Proc.poll 0 p w).2.1 [(Proc.poll 0 p w).1] :=
    @Reachable.poll w [] [] p 0 (.event _ (.start slowJobServer hkeyed))
  exact ⟨h, by decide +kernel, reachable_coherent h⟩

end JobWorld

end CorpusBench
