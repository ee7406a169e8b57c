import CorpusBench.Proofs.Graph.Pending
import CorpusBench.Proofs.Command.Explorer

/-!
# The explorer command counts its pending operations exactly

Every step of the `explorer` command owns nothing when it starts and gives back every unit of
the pending count it takes, however it ends (`owns_stepProgram`).  So in every configuration
the command can reach (`Reachable`), whatever the interleaving of its steps and the answers of
the server, each step in flight owns a share of the count — one unit for each sprawl it has
begun and not ended, and one for the batch of an expansion it has not released — and the count
is the sum of the shares.  In particular the count is zero once every step in flight has
finished, and a step that ends an operation never finds the count at zero.

An expansion settles exactly when the release of its batch brings the count to zero, that is
when no step in flight owns a unit: every sprawl of the batch has merged or failed.  So of
overlapping expansions exactly one settles (`World.BatchRun.settles_once`).

## Main results

* `Command.Explore.owns_stepProgram` — every step gives back what it takes.
* `Command.Explore.Reachable.shares` — the count is the sum of the shares of the
  steps in flight (`Proc.Shares`).
* `Command.Explore.pending_exact_and_batch_settles_once` — and a batch of expansions settles
  once.
-/

namespace CorpusBench

namespace Command

namespace Explore

/-! ### Steps -/

/-- Every step gives back what it takes: the server-side operations are the programs of
`World`, which give back what they take, and every other operation changes other parts of the
explorer, or nothing. -/
lemma ownsRules (cfg : ExplorerConfig) :
    StepRules cfg (fun p => ∀ n, Proc.Owns World.pendingCount n n p) where
  toRules := World.ownsRules _ cfg
  gets f n := Proc.Owns.gets n f
  changing_of hf _ := by
    refine Proc.Owns.modifyGet fun w _ => ?_
    split
    · next v e he =>
      obtain ⟨_, _, _, _, rfl⟩ := (hf _ _ _ he).frame
      rfl
    · rfl
  resets hc := (World.ownsRules _ cfg).changeAndReset_of <| World.owns_onExplorer_of_pending
    fun e => by
      obtain ⟨_, _, _, h⟩ := hc.frame e
      rw [h]
  extrude _ _ := World.owns_onExplorerOrAbort fun _ _ _ hx => Explorer.pending_of_extrude hx

/-- Setting the page size leaves the pending count alone. -/
lemma owns_setPageSize (limit n : Nat) : Proc.Owns World.pendingCount n n (setPageSize limit) :=
  Proc.Owns.modifyGet fun w _ => by
    split
    · next v e he =>
      rw [setPageSize_ok he]
      rfl
    · rfl

/-- Every step gives back what it takes, `parallel` ones included, whatever their nesting. -/
lemma owns_stepProgram (cfg : ExplorerConfig) (depth : Nat) :
    ∀ req, Proc.Owns World.pendingCount 0 0 (stepProgram cfg depth req) :=
  fun req => (ownsRules cfg).stepProgram_of depth owns_setPageSize req 0

/-! ### Reachable configurations -/

variable {cfg : ExplorerConfig} {w : World Server} {ps : List (Proc (World Server) Json)}

/-- In a reachable configuration each step in flight owns a share of the pending count, and
the count is the sum of the shares.

**Proof sketch.** Induction on reachability.  A fresh explorer counts nothing and runs nothing,
a change of the server leaves the count alone, a new step owns nothing (`owns_stepProgram`), and
a poll of a step moves the count by exactly the change in its share (`Proc.Shares.poll`). -/
lemma Reachable.shares (h : Reachable cfg w ps) :
    ∃ held, Proc.Shares World.pendingCount w held ps := by
  induction h with
  | start server => exact ⟨[], .nil, rfl⟩
  | serve server _ ih =>
    obtain ⟨held, hheld⟩ := ih
    exact ⟨held, hheld.of_count_eq rfl⟩
  | begin depth req _ ih =>
    obtain ⟨held, hheld⟩ := ih
    exact ⟨0 :: held, hheld.cons (owns_stepProgram cfg depth req)⟩
  | poll now _ ih =>
    obtain ⟨held, hheld⟩ := ih
    exact hheld.poll now

/-- The pending count is exact, and a batch of overlapping expansions settles once.  In every
reachable configuration the count is the sum of the shares the steps in flight own
(`Reachable.shares`), zero once all have finished.  An expansion's end settles exactly when its
release empties the count, and answers with its sprawl's result and the report
(`World.poll_expandEnd`).  Of overlapping expansions at most one reports a settle pass, only once
every sprawl of the batch has ended, and exactly one once all have answered with their outcome
(`World.BatchRun.settles_once`). -/
theorem pending_exact_and_batch_settles_once :
    (∀ {w : World Server} {ps : List (Proc (World Server) Json)}, Reachable cfg w ps →
      ∃ held : List Nat, List.Forall₂ (fun n p => Proc.Owns World.pendingCount n 0 p) held ps ∧
        w.explorer.pending.count = held.sum ∧
        (w.explorer.pending.count = 0 ↔ ∀ n ∈ held, n = 0) ∧
        ((∀ p ∈ ps, ∃ a, p = .done a) → w.explorer.pending.count = 0)) ∧
    (∀ (r : Except ClientError SprawlOutcome) (now : Nat) {w : World Server} {n : Nat},
      World.pendingCount w = n + 1 →
        World.pendingCount (Proc.poll now (World.expandEnd cfg r) w).2.1 = n ∧
          ((∃ settled : Option SettleReport, settled.isSome = (n == 0) ∧
              (Proc.poll now (World.expandEnd cfg r) w).1 = .done (r.map (·, settled))) ∨
            n = 0 ∧ ∃ h, (Proc.poll now (World.expandEnd cfg r) w).1 = .halt h)) ∧
    (∀ {w : World Server} {ps : List (Proc (World Server) World.ExpandAnswer)},
      World.BatchRun cfg w ps →
        ps.countP World.reportsSettle ≤ 1 ∧
          (0 < ps.countP World.reportsSettle →
            World.pendingCount w = 0 ∧ ∀ p ∈ ps, (∃ a, p = .done a) ∨ ∃ h, p = .halt h) ∧
          (ps ≠ [] → (∀ p ∈ ps, World.answeredOk p) → ps.countP World.reportsSettle = 1)) :=
  ⟨fun h => by
    obtain ⟨held, hheld⟩ := h.shares
    exact ⟨held, hheld.owned, hheld.sum_eq, hheld.eq_zero_iff, hheld.eq_zero_of_done⟩,
    fun r now _ _ hw => World.poll_expandEnd cfg r now hw, fun h => h.settles_once cfg⟩

/-- Two expansions of one node on a fresh explorer over the in-memory server, both begun before
either is polled, then each polled once: both answer with their outcome, and exactly one reports
the settle pass. -/
theorem two_overlapping_expansions_settle_once :
    let e := World.sprawlTop Server.networkAnswer {} "/corpus/c/t/1" {} >>= World.expandEnd {}
    let w : World Server := ⟨{ Explorer.start {} with pending := ⟨2⟩ }, {}⟩
    let r₁ := Proc.poll 0 e w
    let r₂ := Proc.poll 0 e r₁.2.1
    World.BatchRun {} r₂.2.1 [r₁.1, r₂.1] ∧ [r₁.1, r₂.1].countP World.reportsSettle = 1 := by
  intro e w r₁ r₂
  have h₁ : World.BatchRun {} ⟨{ Explorer.start {} with pending := ⟨1⟩ }, {}⟩ [e] :=
    (World.BatchRun.start (w := ⟨Explorer.start {}, {}⟩) rfl).begin Server.networkAnswer
      "/corpus/c/t/1" {} (.inl rfl)
  have h₂ : World.BatchRun {} w [e, e] :=
    h₁.begin Server.networkAnswer "/corpus/c/t/1" {} (.inr (by exact Nat.one_pos))
  -- the first expansion is polled, then the second
  have hrun : World.BatchRun {} r₂.2.1 [r₁.1, r₂.1] :=
    @World.BatchRun.poll _ {} r₁.2.1 [r₁.1] [] e 0 (@World.BatchRun.poll _ {} w [] [e] e 0 h₂)
  exact ⟨hrun, (pending_exact_and_batch_settles_once.2.2 hrun).2.2 (by simp) (by decide +kernel)⟩

end Explore

end Command

end CorpusBench
