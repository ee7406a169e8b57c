import CorpusBench.Proofs.Concurrent.Owns
import CorpusBench.Proofs.Graph.Exploring
import CorpusBench.Graph.Explorer.Run

/-!
# The pending count of the explorer is exact

The explorer counts its pending operations: every sprawl from its start to its end, and every
expansion until it releases its batch.  Each program of the explorer owns (`Proc.Owns`) the
units of the count it has taken and not yet given back, and gives every one back on every way
it ends: an excluded node, a failed or late request, a stale answer, a failed resprawl or
child, and success alike.  A URI that does not parse is refused before anything is taken.  The
other changes to the explorer leave the count alone.

Since a program gives back only units it owns, the count always covers the unit given back:
ending an operation never meets a count of zero.

## Main definitions

* `World.pendingCount` — the pending count of a world.

## Main results

* `World.owns_sprawlCounted` — the body of a sprawl gives back what it takes.
* `World.ownsRules` — owning the units taken follows the rules of the programs of the explorer,
  so each program gives back what it takes.
* `World.BatchRun.settles_once` — overlapping expansions settle once.
-/

namespace CorpusBench

namespace Explorer

variable {e e' : Explorer}

/-! ### Changes that leave the count alone -/

lemma pending_of_merge {uri : String} {answer : Neighborhood} {skip : Nat} {o : SprawlOptions}
    {maxR : Nat} {r : Merged} (hm : e.merge uri answer skip o maxR = .ok (r, e')) :
    e'.pending = e.pending := by
  obtain ⟨model, panes, rfl, -⟩ := merge_ok hm
  rfl

lemma pending_of_relayout {s : LinkScale} {n : Nat} (h : e.relayout s = .ok (n, e')) :
    e'.pending = e.pending := by
  obtain ⟨m, rfl, -⟩ := relayout_ok h
  rfl

lemma pending_of_settle {s : LinkScale} {r : SettleReport} (h : e.settle s = .ok (r, e')) :
    e'.pending = e.pending := by
  unfold Explorer.settle at h
  obtain ⟨⟨k, e1⟩, h1, h⟩ := Except.bind_eq_ok.1 h
  cases h
  rw [← pending_of_relayout h1]
  split <;> rfl

lemma pending_extrudeLoop (isolated : Bool) : ∀ (fuel : Nat) (work removed : List String)
    (e : Explorer), (extrudeLoop isolated fuel work removed e).2.pending = e.pending
  | 0, _, _, _ => rfl
  | _ + 1, [], _, _ => rfl
  | fuel + 1, current :: rest, removed, e => by
    rw [Explorer.extrudeLoop]
    split
    · exact pending_extrudeLoop isolated fuel rest removed e
    · exact pending_extrudeLoop isolated fuel _ _ _

lemma pending_of_extrude {uri : String} {isolated : Bool} {s : LinkScale} {removed : List String}
    (h : e.extrude uri isolated s = .ok (removed, e')) : e'.pending = e.pending := by
  unfold Explorer.extrude at h
  dsimp only at h
  generalize hres : Explorer.extrudeLoop isolated _ _ _ _ = res at h
  obtain ⟨⟨k, e3⟩, hr, h⟩ := Except.bind_eq_ok.1 h
  cases h
  rw [pending_of_relayout hr, ← hres, pending_extrudeLoop]

end Explorer

namespace World

variable {σ : Type}

/-- The number of operations the explorer of a world counts as pending. -/
def pendingCount (w : World σ) : Nat := w.explorer.pending.count

/-! ### Atomic steps -/

/-- A change of the explorer that moves the count by the change in what its program owns. -/
lemma owns_onExplorer {α : Type} {f : Explorer → α × Explorer} {n m : Nat}
    (hf : ∀ e, n ≤ e.pending.count → (f e).2.pending.count + n = e.pending.count + m) :
    Proc.Owns pendingCount n m (onExplorer f : Proc (World σ) α) := by
  refine Proc.Owns.modifyGet fun w hw => ?_
  have h := hf w.explorer hw
  revert h
  rcases f w.explorer with ⟨a, e⟩
  intro h
  exact h

lemma owns_onExplorer_of_pending {α : Type} {f : Explorer → α × Explorer}
    (hf : ∀ e, (f e).2.pending = e.pending) (n : Nat) :
    Proc.Owns pendingCount n n (onExplorer f : Proc (World σ) α) :=
  owns_onExplorer fun e _ => by rw [hf e]

lemma owns_onExplorerOrAbort {α : Type} {f : Explorer → Except Abort (α × Explorer)}
    (hf : ∀ e a e', f e = .ok (a, e') → e'.pending = e.pending) (n : Nat) :
    Proc.Owns pendingCount n n (onExplorerOrAbort f : Proc (World σ) α) := by
  refine Proc.Owns.get_bind fun w _ => ?_
  split
  · next a e he => exact .write (by simp only [pendingCount, hf _ _ _ he]) (.done a)
  · exact .halt _

lemma owns_explorerNow (n : Nat) :
    Proc.Owns pendingCount n n (explorerNow : Proc (World σ) Explorer) :=
  Proc.Owns.gets n _

/-- A request to the source leaves the explorer alone. -/
lemma owns_ask {α : Type} (p : Proc σ α) (n : Nat) : Proc.Owns pendingCount n n (ask p) := by
  unfold ask
  refine Proc.Owns.zoom ?_ n p
  intro _ _
  rfl

/-- Beginning an operation takes one unit. -/
lemma owns_beginPending (n : Nat) :
    Proc.Owns pendingCount n (n + 1) (beginPending : Proc (World σ) Unit) :=
  owns_onExplorer fun _ _ => by
    simp only [PendingOps.begin]
    omega

/-- Ending an operation gives back one unit; the count covers it, so it is one more than the
count left. -/
lemma owns_releasePending (n : Nat) :
    Proc.Owns pendingCount (n + 1) n (releasePending : Proc (World σ) Bool) :=
  owns_onExplorer fun _ he => by
    simp only [PendingOps.release]
    omega

lemma owns_awaitQuiescence (n : Nat) :
    Proc.Owns pendingCount n n (awaitQuiescence : Proc (World σ) Unit) :=
  Proc.Owns.waitFor n _

lemma owns_settle (cfg : ExplorerConfig) (n : Nat) :
    Proc.Owns pendingCount n n (settle cfg : Proc (World σ) _) :=
  owns_onExplorerOrAbort (fun _ _ _ hs => Explorer.pending_of_settle hs) n

/-- Giving back what is taken, from every count; programs side by side each start owning
nothing. -/
lemma ownsClosed : Closed (σ := σ) fun p => ∀ n, Proc.Owns pendingCount n n p where
  pure a n := .pure n a
  bind hp hk n := (hp n).bind fun a => hk a n
  joinAll h := Proc.Owns.joinAll fun p hp => h p hp 0

/-! ### Sprawls -/

section Sprawl

variable (src : NeighborSource σ) (cfg : ExplorerConfig)

lemma owns_fetchNeighborhood (uri : String) (target : ContentUri) (q : NetworkQuery) (n : Nat) :
    Proc.Owns pendingCount n n (fetchNeighborhood src cfg uri target q) := by
  unfold fetchNeighborhood
  refine (owns_ask _ n).bind fun ⟨answer, delay⟩ => ?_
  dsimp only
  split
  · exact .pure n _
  · split
    · exact (Proc.Owns.pause n _).bind fun _ => .pure n _
    · split
      · exact .pure n _
      · exact (Proc.Owns.pause n _).bind fun _ => .pure n _
  · exact .pure n _

/-- The body of a sprawl gives back what it takes when the sprawls it starts do.

**Proof sketch.** Follow the program: the early ends (an excluded node, a failed request, a
stale answer) take nothing, the merge leaves the count alone, and the resprawl and the children
are sprawls, which give back what they take whether they succeed or fail. -/
lemma owns_sprawlCounted {depth : Nat}
    (ih : ∀ uri o n, Proc.Owns pendingCount n n (sprawl src cfg depth uri o))
    (uri : String) (target : ContentUri) (o : SprawlOptions) (n : Nat) :
    Proc.Owns pendingCount n n (sprawlCounted src cfg depth uri target o) := by
  unfold sprawlCounted
  dsimp only
  refine (owns_explorerNow n).bind fun e => ?_
  split
  · -- an excluded node is not asked for
    exact .pure n _
  refine (owns_fetchNeighborhood src cfg uri target _ n).bind fun r => ?_
  split
  · -- the request failed or timed out
    exact .pure n _
  refine (owns_explorerNow n).bind fun e' => ?_
  split
  · -- the answer is stale
    exact .pure n _
  refine (owns_onExplorerOrAbort (fun _ _ _ hm => Explorer.pending_of_merge hm) n).bind
    fun m => ?_
  -- the children, sprawled side by side, each give back what they take
  have hchildren := ownsClosed.children_of ih m.newUris
  split
  · refine (ih uri _ n).bind fun r => ?_
    split
    · exact hchildren _ _ _ n
    · exact hchildren _ _ _ n
  · exact hchildren _ _ _ n

/-- Owning the units taken follows the rules: a sprawl takes one unit for itself from its start
to its end, whichever way it ends, and an expansion holds one for its batch around its sprawl,
giving it back before the settle pass. -/
lemma ownsRules : Rules src cfg (fun p => ∀ n, Proc.Owns pendingCount n n p) where
  toClosed := ownsClosed
  counted hp hk n := (owns_beginPending n).bind fun _ => (hp (n + 1)).bind fun a =>
    (owns_releasePending n).bind fun b => hk a b n
  body ih uri target o _ := owns_sprawlCounted src cfg ih uri target o
  settlePass := owns_settle cfg
  quiescence := owns_awaitQuiescence
  addSeeds _ := owns_onExplorer_of_pending fun _ => rfl
  clear := owns_onExplorer_of_pending fun _ => rfl

end Sprawl

/-! ### A batch of expansions

Expansions that overlap form a batch: each holds one unit of the count for the batch around its
sprawl, and the one whose release brings the count to zero settles.  No expansion joins a batch
whose count has reached zero, so exactly one expansion of a batch settles, and only once every
sprawl of the batch has ended. -/

section Batch

variable (cfg : ExplorerConfig)

/-- An expansion's end runs within one poll.  Its release leaves `n` units of the count, and it
runs the settle pass exactly when that is none: it answers with its sprawl's result, carrying
the report when it settled, unless the settle pass aborts. -/
theorem poll_expandEnd (r : Except ClientError SprawlOutcome) (now : Nat) {w : World σ} {n : Nat}
    (hw : pendingCount w = n + 1) :
    pendingCount (Proc.poll now (expandEnd cfg r) w).2.1 = n ∧
      ((∃ settled : Option SettleReport, settled.isSome = (n == 0) ∧
          (Proc.poll now (expandEnd cfg r) w).1 = .done (r.map (·, settled))) ∨
        n = 0 ∧ ∃ h, (Proc.poll now (expandEnd cfg r) w).1 = .halt h) := by
  have hw' : w.explorer.pending.count = n + 1 := hw
  by_cases hn : n = 0
  · -- the release empties the count: the settle pass runs in the same poll
    subst hn
    rcases hs : ({ w with explorer := { w.explorer with pending := ⟨0⟩ } } : World σ).explorer.settle
        cfg.linkScale with h | ⟨rep, e⟩
    · simp [expandEnd, releasePending, onExplorer, Proc.modifyGet, settle, onExplorerOrAbort,
        Proc.get, Proc.abort, Functor.map, bind, Proc.bind, pure, Proc.poll, PendingOps.release,
        hw', hs, pendingCount]
    · simp [expandEnd, releasePending, onExplorer, Proc.modifyGet, settle, onExplorerOrAbort,
        Proc.get, Proc.set, Functor.map, bind, Proc.bind, pure, Proc.poll, PendingOps.release,
        hw', hs, pendingCount]
      exact ⟨by rw [Explorer.pending_of_settle hs], _, rfl, rfl⟩
  · simp [expandEnd, releasePending, onExplorer, Proc.modifyGet, bind, Proc.bind, pure, Proc.poll,
      PendingOps.release, hw', hn, pendingCount]
    exact ⟨none, by simp [hn], rfl⟩

/-- What an expansion answers: its sprawl's outcome and the report of its settle pass. -/
abbrev ExpandAnswer := Except ClientError (SprawlOutcome × Option SettleReport)

/-- The stages of an expansion, with the units of the count it owns and whether it has run the
settle pass. -/
inductive Expansion : Proc (World σ) ExpandAnswer → Nat → Bool → Prop
  /-- Sprawling: one unit for the batch besides those its sprawl owns. -/
  | sprawling {q : Proc (World σ) (Except ClientError SprawlOutcome)} {n : Nat}
      (hq : Proc.Owns pendingCount n 0 q) : Expansion (q >>= expandEnd cfg) (n + 1) false
  /-- Released, with the report when it settled. -/
  | released (r : Except ClientError SprawlOutcome) (settled : Option SettleReport) :
      Expansion (.done (r.map (·, settled))) 0 settled.isSome
  /-- Aborted by its settle pass. -/
  | aborted (h : Abort) : Expansion (.halt h) 0 true

/-- A poll of an expansion while the others own `m` units: it keeps whether it has settled, the
count being zero exactly when it was, or it settles as its release empties the count. -/
lemma Expansion.poll {p : Proc (World σ) ExpandAnswer} {n : Nat} {b : Bool}
    (hp : Expansion cfg p n b) (now : Nat) {w : World σ} {m : Nat} (hw : pendingCount w = m + n) :
    ∃ n' b', Expansion cfg (Proc.poll now p w).1 n' b' ∧
      pendingCount (Proc.poll now p w).2.1 = m + n' ∧
      (b' = b ∧ (m + n' = 0 ↔ m + n = 0) ∨ b = false ∧ b' = true ∧ m + n' = 0 ∧ 0 < n) := by
  cases hp with
  | released r settled => exact ⟨0, _, .released r settled, hw, .inl ⟨rfl, Iff.rfl⟩⟩
  | aborted h => exact ⟨0, true, .aborted h, hw, .inl ⟨rfl, Iff.rfl⟩⟩
  | @sprawling q n hq =>
    obtain ⟨n', hq', hc⟩ := Proc.OwnsFrom.poll now q w n (hq w (by omega)) (by omega)
    have hb := Proc.poll_bind now q (expandEnd cfg) w
    rcases hpq : Proc.poll now q w with ⟨q', w', _⟩
    rw [hpq] at hq' hc hb
    cases q' with
    | done r =>
      -- the sprawl has ended owning nothing, and the release comes in the same poll
      have hn' : n' = 0 := Proc.OwnsFrom.done_iff.1 (hq' w' (by dsimp only at hc; omega))
      obtain ⟨hcount, hend⟩ := poll_expandEnd cfg r now (w := w') (n := m) (by dsimp only at hc; omega)
      rw [Prod.mk.injEq] at hb
      rw [hb.1, hb.2]
      refine ⟨0, m == 0, ?_, hcount, ?_⟩
      · rcases hend with ⟨settled, hs, he⟩ | ⟨rfl, h, he⟩
        · rw [he, ← hs]
          exact .released r settled
        · rw [he]
          exact .aborted h
      · by_cases hm : m = 0 <;> simp [hm]
    | _ =>
      obtain ⟨h1, h2⟩ := Prod.mk.inj hb
      rw [h1, h2]
      exact ⟨n' + 1, false, .sprawling hq', by dsimp only at hc ⊢; omega, .inl ⟨rfl, by omega⟩⟩

/-- Expansions side by side as one batch, each with its stage: the units they own add up to the
count, and exactly one has run the settle pass once the count has reached zero, none before. -/
structure Batch (w : World σ) (ps : List (Proc (World σ) ExpandAnswer))
    (xs : List (Proc (World σ) ExpandAnswer × Nat × Bool)) : Prop where
  programs : xs.map (·.1) = ps
  stages : ∀ x ∈ xs, Expansion cfg x.1 x.2.1 x.2.2
  sum_eq : pendingCount w = (xs.map (·.2.1)).sum
  settles : xs.countP (·.2.2) = if pendingCount w = 0 ∧ ps ≠ [] then 1 else 0

/-- A poll of any one expansion of a batch keeps it a batch. -/
lemma Batch.poll {w : World σ} {xs} {pre post : List (Proc (World σ) ExpandAnswer)}
    {p : Proc (World σ) ExpandAnswer} (h : Batch cfg w (pre ++ p :: post) xs) (now : Nat) :
    ∃ xs', Batch cfg (Proc.poll now p w).2.1 (pre ++ (Proc.poll now p w).1 :: post) xs' := by
  obtain ⟨l₁, l₂, rfl, h₁, h₂⟩ := List.map_eq_append_iff.1 h.programs
  obtain ⟨⟨q, n, b⟩, l₃, rfl, rfl, h₃⟩ := List.map_eq_cons_iff.1 h₂
  have hsum := h.sum_eq
  have hsettles := h.settles
  simp only [List.map_append, List.map_cons, List.sum_append, List.sum_cons] at hsum
  -- the others own `m` units, and have run the settle pass `k` times
  obtain ⟨n', b', hp', hcount, hstep⟩ := (h.stages (q, n, b) (by simp)).poll cfg now
    (w := w) (m := (l₁.map (·.2.1)).sum + (l₃.map (·.2.1)).sum) (by dsimp only; omega)
  refine ⟨l₁ ++ ((Proc.poll now q w).1, n', b') :: l₃, by simp [h₁, h₃], ?_, ?_, ?_⟩
  · intro x hx
    rcases List.mem_append.1 hx with hx | hx
    · exact h.stages x (by simp [hx])
    rcases List.mem_cons.1 hx with rfl | hx
    · exact hp'
    · exact h.stages x (by simp [hx])
  · rw [hcount]
    simp only [List.map_append, List.map_cons, List.sum_append, List.sum_cons]
    omega
  · rw [hsum] at hsettles
    rw [hcount]
    simp only [List.countP_append, List.countP_cons, ne_eq, List.append_ne_nil_of_right_ne_nil,
      reduceCtorEq, not_false_eq_true, and_true] at hsettles ⊢
    rcases hstep with ⟨rfl, hiff⟩ | ⟨rfl, rfl, h0, hn⟩
    · by_cases hz : (l₁.map (·.2.1)).sum + (l₃.map (·.2.1)).sum + n' = 0
      · rw [if_pos hz, hsettles, if_pos (by dsimp only at hiff; omega)]
      · rw [if_neg hz, hsettles, if_neg (by dsimp only at hiff; omega)]
    · dsimp only at hn
      have hpos : ¬(l₁.map (·.2.1)).sum + (n + (l₃.map (·.2.1)).sum) = 0 := by omega
      rw [if_neg hpos] at hsettles
      rw [if_pos h0]
      simp only [Bool.false_eq_true, ↓reduceIte] at hsettles ⊢
      omega

/-- A poll of an expansion begins it, taking its unit for the batch, and goes on with its sprawl
in the same pass. -/
lemma poll_expand (src : NeighborSource σ) (uri : String) (o : SprawlOptions) (now : Nat)
    (w : World σ) :
    let w' : World σ := { w with explorer := { w.explorer with pending := w.explorer.pending.begin } }
    Proc.poll now (expand src cfg uri o) w =
      ((Proc.poll now (sprawlTop src cfg uri o >>= expandEnd cfg) w').1,
        (Proc.poll now (sprawlTop src cfg uri o >>= expandEnd cfg) w').2.1, true) :=
  rfl

/-- The configurations of a batch of expansions with no other operation in flight.  An
expansion begins (`poll_expand`) while the batch is open: at the start, or while the count
covers some unit.  The expansions step in any interleaving, and the world may change in any way
that leaves the count alone. -/
inductive BatchRun : World σ → List (Proc (World σ) ExpandAnswer) → Prop
  | start {w : World σ} (h : pendingCount w = 0) : BatchRun w []
  | begin {w : World σ} {ps : List (Proc (World σ) ExpandAnswer)} (src : NeighborSource σ)
      (uri : String) (o : SprawlOptions) (hopen : ps = [] ∨ 0 < pendingCount w) :
      BatchRun w ps →
        BatchRun { w with explorer := { w.explorer with pending := w.explorer.pending.begin } }
          ((sprawlTop src cfg uri o >>= expandEnd cfg) :: ps)
  | change {w w' : World σ} {ps : List (Proc (World σ) ExpandAnswer)}
      (h : pendingCount w' = pendingCount w) : BatchRun w ps → BatchRun w' ps
  | poll {w : World σ} {pre post : List (Proc (World σ) ExpandAnswer)}
      {p : Proc (World σ) ExpandAnswer} (now : Nat) : BatchRun w (pre ++ p :: post) →
      BatchRun (Proc.poll now p w).2.1 (pre ++ (Proc.poll now p w).1 :: post)

/-- The expansions of every configuration of a batch form a batch. -/
lemma BatchRun.batch {w : World σ} {ps : List (Proc (World σ) ExpandAnswer)}
    (h : BatchRun cfg w ps) : ∃ xs, Batch cfg w ps xs := by
  induction h with
  | start h => exact ⟨[], rfl, by simp, by simp [h], by simp⟩
  | @begin w ps src uri o hopen _ ih =>
    obtain ⟨xs, hxs⟩ := ih
    -- the new expansion owns one unit, and the batch was open
    have hsettles : xs.countP (·.2.2) = 0 := by
      rw [hxs.settles]
      rcases hopen with rfl | hpos
      · simp
      · simp [Nat.pos_iff_ne_zero.1 hpos]
    refine ⟨(sprawlTop src cfg uri o >>= expandEnd cfg, 1, false) :: xs, by simp [hxs.programs],
      ?_, ?_, ?_⟩
    · intro x hx
      rcases List.mem_cons.1 hx with rfl | hx
      · exact .sprawling ((ownsRules src cfg).sprawl_of _ uri o 0)
      · exact hxs.stages x hx
    · simp [pendingCount, PendingOps.begin, ← hxs.sum_eq, Nat.add_comm]
    · simp [pendingCount, PendingOps.begin, hsettles]
  | change h _ ih =>
    obtain ⟨xs, hxs⟩ := ih
    exact ⟨xs, hxs.programs, hxs.stages, h.trans hxs.sum_eq, h ▸ hxs.settles⟩
  | poll now _ ih =>
    obtain ⟨xs, hxs⟩ := ih
    exact hxs.poll cfg now

/-- Whether an expansion has answered with the report of a settle pass. -/
def reportsSettle : Proc (World σ) ExpandAnswer → Bool
  | .done (.ok (_, some _)) => true
  | _ => false

/-- Whether an expansion has answered with its sprawl's outcome. -/
def answeredOk : Proc (World σ) ExpandAnswer → Bool
  | .done (.ok _) => true
  | _ => false

/-- A sprawling expansion has not answered. -/
lemma views_bind_expandEnd (q : Proc (World σ) (Except ClientError SprawlOutcome)) :
    reportsSettle (q >>= expandEnd cfg) = false ∧ answeredOk (q >>= expandEnd cfg) = false := by
  cases q <;> exact ⟨rfl, rfl⟩

/-- An expansion reports a settle pass only when it ran one. -/
lemma Expansion.settled_of_reports {p : Proc (World σ) ExpandAnswer} {n : Nat} {b : Bool}
    (hp : Expansion cfg p n b) (hr : reportsSettle p = true) : b = true := by
  cases hp with
  | sprawling => simp [views_bind_expandEnd] at hr
  | released r settled =>
    cases r <;> cases settled <;> simp_all [reportsSettle, Except.map]
  | aborted => rfl

/-- An expansion that answered with its sprawl's outcome has released its unit, and reports
whether it settled. -/
lemma Expansion.reports_of_ok {p : Proc (World σ) ExpandAnswer} {n : Nat} {b : Bool}
    (hp : Expansion cfg p n b) (hok : answeredOk p = true) : n = 0 ∧ reportsSettle p = b := by
  cases hp with
  | sprawling => simp [views_bind_expandEnd] at hok
  | released r settled =>
    cases r <;> cases settled <;> simp_all [answeredOk, reportsSettle, Except.map]
  | aborted => cases hok

/-- An expansion that owns nothing has released or aborted. -/
lemma Expansion.ended {p : Proc (World σ) ExpandAnswer} {b : Bool} (hp : Expansion cfg p 0 b) :
    (∃ a, p = .done a) ∨ ∃ h, p = .halt h := by
  cases hp with
  | released r settled => exact .inl ⟨_, rfl⟩
  | aborted h => exact .inr ⟨h, rfl⟩

/-- Of a batch of overlapping expansions, at most one reports a settle pass.  One that does
settled only once every sprawl of the batch had ended: the count is zero and every expansion has
released or aborted.  Once every expansion has answered with its sprawl's outcome, exactly one
reports the settle pass.

**Proof sketch.** The expansions form a batch (`BatchRun.batch`): exactly one has run the settle
pass once the count has reached zero, none before; an expansion reports a settle pass only when
it ran one, and one that answered with its outcome reports whether it did. -/
theorem BatchRun.settles_once {w : World σ} {ps : List (Proc (World σ) ExpandAnswer)}
    (h : BatchRun cfg w ps) :
    ps.countP reportsSettle ≤ 1 ∧
      (0 < ps.countP reportsSettle →
        pendingCount w = 0 ∧ ∀ p ∈ ps, (∃ a, p = .done a) ∨ ∃ h, p = .halt h) ∧
      (ps ≠ [] → (∀ p ∈ ps, answeredOk p) → ps.countP reportsSettle = 1) := by
  obtain ⟨xs, hxs⟩ := h.batch
  have hps : ps.countP reportsSettle = xs.countP (fun x => reportsSettle x.1) := by
    rw [← hxs.programs, List.countP_map]
    rfl
  have hle : xs.countP (fun x => reportsSettle x.1) ≤ xs.countP (·.2.2) :=
    List.countP_mono_left fun x hx => (hxs.stages x hx).settled_of_reports cfg
  have hsettles := hxs.settles
  refine ⟨?_, fun hpos => ?_, fun hne hok => ?_⟩
  · split_ifs at hsettles <;> omega
  · -- a settle pass has run, so the count is zero and no expansion owns a unit
    have h0 : pendingCount w = 0 := by
      by_contra h0
      rw [if_neg (by tauto)] at hsettles
      omega
    refine ⟨h0, fun p hp => ?_⟩
    obtain ⟨x, hx, rfl⟩ := List.mem_map.1 (hxs.programs ▸ hp)
    have hx0 : x.2.1 = 0 :=
      List.sum_eq_zero_iff.1 (hxs.sum_eq ▸ h0) _ (List.mem_map.2 ⟨x, hx, rfl⟩)
    exact (hx0 ▸ hxs.stages x hx).ended cfg
  · -- every expansion has released its unit and reports whether it settled
    have hrep : ∀ x ∈ xs, x.2.1 = 0 ∧ reportsSettle x.1 = x.2.2 := fun x hx =>
      (hxs.stages x hx).reports_of_ok cfg (hok _ (hxs.programs ▸ List.mem_map.2 ⟨x, hx, rfl⟩))
    have h0 : pendingCount w = 0 := by
      rw [hxs.sum_eq, List.sum_eq_zero_iff]
      intro k hk
      obtain ⟨x, hx, rfl⟩ := List.mem_map.1 hk
      exact (hrep x hx).1
    rw [hps, List.countP_congr fun x hx => by rw [(hrep x hx).2], hsettles, if_pos ⟨h0, hne⟩]

end Batch

end World

end CorpusBench
