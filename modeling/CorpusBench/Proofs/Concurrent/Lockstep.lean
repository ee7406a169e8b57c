import Mathlib.Tactic.Lemma
import Mathlib.Data.List.Forall2
import CorpusBench.Concurrent.Proc

/-!
# Programs in lockstep

Two programs run in *lockstep* when they make the same moves, step for step, from states in a
relation `ρ`: from related states they read and go on alike, they write related states, sleep
for the same time, wait on conditions that hold together, abort with the same abort, fork
children that are pairwise in lockstep, and end with related results.  The second program may
run `δ` milliseconds behind the first, so that a sleep ends `δ` later in it.

Runs of programs in lockstep from related states end alike: both finish, with related results,
related states and clocks `δ` apart, or both abort with the same abort, or both stall
(`Proc.Lockstep.runFrom`).  This is how a program is shown not to depend on a part of the
state: relate the states that differ only in that part, and show the program in lockstep with
itself.

## Main definitions

* `Proc.Lockstep` — two programs in lockstep, with `Proc.LockstepAll` for the
  children of forks.
* `Ending.Alike` — two runs that end alike.

## Main results

* `Proc.Lockstep.bind`, `Proc.Lockstep.joinAll`,
  `Proc.Lockstep.zoom` — lockstep is built up along the programs.
* `Proc.Lockstep.poll` — a poll keeps two programs in lockstep.
* `Proc.Lockstep.runFrom` — runs in lockstep end alike.
-/

namespace CorpusBench

/-- Two runs end alike: both finish, with results related by `R`, states related by `ρ` and
the second clock `δ` after the first, or both abort with the same abort, or both stall. -/
def Ending.Alike {σ α β : Type} (ρ : σ → σ → Prop) (δ : Nat) (R : α → β → Prop) :
    Ending σ α → Ending σ β → Prop
  | .finished a s t, .finished b s' t' => R a b ∧ ρ s s' ∧ t' = t + δ
  | .halted h, .halted h' => h = h'
  | .stalled, .stalled => True
  | _, _ => False

/-- Runs that end alike for a relation on states end alike for any weaker one. -/
lemma Ending.Alike.mono {σ α β : Type} {ρ ρ' : σ → σ → Prop} {δ : Nat} {R : α → β → Prop}
    (hρ : ∀ s s', ρ s s' → ρ' s s') {x : Ending σ α} {y : Ending σ β} (h : x.Alike ρ δ R y) :
    x.Alike ρ' δ R y := by
  cases x <;> cases y <;> first | exact h.elim | exact h | exact ⟨h.1, hρ _ _ h.2.1, h.2.2⟩

/-- Runs that end alike for equality, with no delay, are the same run. -/
lemma Ending.Alike.eq {σ α : Type} {x y : Ending σ α} (h : x.Alike Eq 0 Eq y) : x = y := by
  cases x <;> cases y <;> simp only [Ending.Alike] at h
  · obtain ⟨rfl, rfl, rfl⟩ := h
    rfl
  · rw [h]
  · rfl

namespace Proc

variable {σ : Type} (ρ : σ → σ → Prop) (δ : Nat)

mutual
/-- The programs make the same moves from states related by `ρ`, the sleeps of the second
ending `δ` milliseconds after those of the first, and end with results related by `R`. -/
inductive Lockstep : {α β : Type} → (α → β → Prop) → Proc σ α → Proc σ β → Prop
  | done {α β : Type} {R : α → β → Prop} {a : α} {b : β} (related : R a b) :
      Lockstep R (.done a) (.done b)
  | halt {α β : Type} {R : α → β → Prop} (abort : Abort) :
      Lockstep R (.halt abort) (.halt abort)
  | read {α β : Type} {R : α → β → Prop} {k : σ → Proc σ α} {k' : σ → Proc σ β}
      (next : ∀ s s', ρ s s' → Lockstep R (k s) (k' s')) : Lockstep R (.read k) (.read k')
  | write {α β : Type} {R : α → β → Prop} {s s' : σ} {n : Proc σ α} {n' : Proc σ β}
      (related : ρ s s') (next : Lockstep R n n') : Lockstep R (.write s n) (.write s' n')
  | sleep {α β : Type} {R : α → β → Prop} (ms : Nat) {n : Proc σ α} {n' : Proc σ β}
      (next : Lockstep R n n') : Lockstep R (.sleep ms n) (.sleep ms n')
  | sleepUntil {α β : Type} {R : α → β → Prop} (time : Nat) {n : Proc σ α} {n' : Proc σ β}
      (next : Lockstep R n n') : Lockstep R (.sleepUntil time n) (.sleepUntil (time + δ) n')
  | await {α β : Type} {R : α → β → Prop} {r r' : σ → Bool} {n : Proc σ α} {n' : Proc σ β}
      (ready : ∀ s s', ρ s s' → r s = r' s') (next : Lockstep R n n') :
      Lockstep R (.await r n) (.await r' n')
  | fork {α β γ : Type} {R : α → β → Prop} {cs cs' : Procs σ γ} {k : List γ → Proc σ α}
      {k' : List γ → Proc σ β} (children : LockstepAll cs cs')
      (next : ∀ rs, Lockstep R (k rs) (k' rs)) : Lockstep R (.fork cs k) (.fork cs' k')

/-- The children of two forks, pairwise in lockstep with equal results. -/
inductive LockstepAll : {γ : Type} → Procs σ γ → Procs σ γ → Prop
  | nil {γ : Type} : LockstepAll (.nil : Procs σ γ) .nil
  | cons {γ : Type} {c c' : Proc σ γ} {cs cs' : Procs σ γ} (head : Lockstep Eq c c')
      (tail : LockstepAll cs cs') : LockstepAll (.cons c cs) (.cons c' cs')
end

/-- Two outcomes of a poll alike: programs left in lockstep, related states, the same flag. -/
def PollAlike {α β : Type} (R : α → β → Prop) (x : Proc σ α × σ × Bool)
    (y : Proc σ β × σ × Bool) : Prop :=
  Lockstep ρ δ R x.1 y.1 ∧ ρ x.2.1 y.2.1 ∧ x.2.2 = y.2.2

/-- Two outcomes of a poll of the children of forks alike. -/
def PollAllAlike {γ : Type} (x y : Procs σ γ × σ × Bool) : Prop :=
  LockstepAll ρ δ x.1 y.1 ∧ ρ x.2.1 y.2.1 ∧ x.2.2 = y.2.2

variable {ρ δ} {α β : Type} {R : α → β → Prop}

/-! ### Building programs in lockstep -/

section Build

/-- Sequencing: the second parts are in lockstep whenever the first parts end with related
results. -/
lemma Lockstep.bind {α' β' : Type} {R' : α' → β' → Prop} {f : α → Proc σ α'}
    {g : β → Proc σ β'} (hf : ∀ a b, R a b → Lockstep ρ δ R' (f a) (g b)) :
    ∀ (p : Proc σ α) {q : Proc σ β}, Lockstep ρ δ R p q → Lockstep ρ δ R' (p >>= f) (q >>= g)
  | .done a, _, h => by
    cases h with
    | done hr => exact hf _ _ hr
  | .halt _, _, h => by
    cases h
    exact .halt _
  | .read k, _, h => by
    cases h with
    | read next => exact .read fun s s' hs => Lockstep.bind hf (k s) (next s s' hs)
  | .write _ n, _, h => by
    cases h with
    | write hs next => exact .write hs (Lockstep.bind hf n next)
  | .sleep ms n, _, h => by
    cases h with
    | sleep _ next => exact .sleep ms (Lockstep.bind hf n next)
  | .sleepUntil t n, _, h => by
    cases h with
    | sleepUntil _ next => exact .sleepUntil t (Lockstep.bind hf n next)
  | .await _ n, _, h => by
    cases h with
    | await ready next => exact .await ready (Lockstep.bind hf n next)
  | .fork _ k, _, h => by
    cases h with
    | fork children next => exact .fork children fun rs => Lockstep.bind hf (k rs) (next rs)

lemma Lockstep.pure {a : α} {b : β} (h : R a b) : Lockstep ρ δ R (pure a) (pure b) := .done h

mutual
/-- A program is in lockstep with itself, from equal states and with no delay. -/
theorem Lockstep.refl {α : Type} : ∀ p : Proc σ α, Lockstep Eq 0 Eq p p
  | .done _ => .done rfl
  | .halt a => .halt a
  | .read k => .read fun s _ hs => hs ▸ Lockstep.refl (k s)
  | .write _ n => .write rfl (Lockstep.refl n)
  | .sleep ms n => .sleep ms (Lockstep.refl n)
  | .sleepUntil t n => .sleepUntil t (Lockstep.refl n)
  | .await _ n => .await (fun _ _ hs => hs ▸ rfl) (Lockstep.refl n)
  | .fork cs k => .fork (LockstepAll.refl cs) fun rs => Lockstep.refl (k rs)

/-- Children are in lockstep with themselves. -/
theorem LockstepAll.refl {γ : Type} : ∀ cs : Procs σ γ, LockstepAll Eq 0 cs cs
  | .nil => .nil
  | .cons c cs => .cons (Lockstep.refl c) (LockstepAll.refl cs)
end

lemma Lockstep.map {α' β' : Type} {R' : α' → β' → Prop} {f : α → α'} {g : β → β'}
    (hf : ∀ a b, R a b → R' (f a) (g b)) {p : Proc σ α} {q : Proc σ β}
    (h : Lockstep ρ δ R p q) : Lockstep ρ δ R' (f <$> p) (g <$> q) :=
  h.bind (fun a b hab => .pure (hf a b hab)) p

/-- A read of values related from related states. -/
lemma Lockstep.gets {f : σ → α} {g : σ → β} (h : ∀ s s', ρ s s' → R (f s) (g s')) :
    Lockstep ρ δ R (Proc.gets f) (Proc.gets g) :=
  .read fun s s' hs => .done (h s s' hs)

/-- A change of the state with a result, related results and states from related states. -/
lemma Lockstep.modifyGet {f : σ → α × σ} {g : σ → β × σ}
    (h : ∀ s s', ρ s s' → R (f s).1 (g s').1 ∧ ρ (f s).2 (g s').2) :
    Lockstep ρ δ R (Proc.modifyGet f) (Proc.modifyGet g) :=
  .read fun s s' hs => .write (h s s' hs).2 (.done (h s s' hs).1)

/-- A read of the state, going on in lockstep from every pair of related states. -/
lemma Lockstep.get_bind {f : σ → Proc σ α} {g : σ → Proc σ β}
    (h : ∀ s s', ρ s s' → Lockstep ρ δ R (f s) (g s')) :
    Lockstep ρ δ R (Proc.get >>= f) (Proc.get >>= g) :=
  .read h

/-- A change of the state that keeps states related. -/
lemma Lockstep.modify {f g : σ → σ} (h : ∀ s s', ρ s s' → ρ (f s) (g s')) :
    Lockstep ρ δ Eq (Proc.modify f) (Proc.modify g) :=
  .read fun s s' hs => .write (h s s' hs) (.done rfl)

/-- A choice made alike by both programs. -/
lemma Lockstep.ite {c : Prop} [Decidable c] {p p' : Proc σ α} {q q' : Proc σ β}
    (hpos : c → Lockstep ρ δ R p q) (hneg : ¬c → Lockstep ρ δ R p' q') :
    Lockstep ρ δ R (if c then p else p') (if c then q else q') := by
  by_cases hc : c
  · rw [if_pos hc, if_pos hc]
    exact hpos hc
  · rw [if_neg hc, if_neg hc]
    exact hneg hc

lemma Lockstep.pause (ms : Nat) : Lockstep ρ δ Eq (Proc.pause ms : Proc σ Unit) (Proc.pause ms) :=
  .sleep ms (.done rfl)

lemma Lockstep.waitFor {r r' : σ → Bool} (h : ∀ s s', ρ s s' → r s = r' s') :
    Lockstep ρ δ Eq (Proc.waitFor r) (Proc.waitFor r') :=
  .await h (.done rfl)

lemma Lockstep.abort (a : Abort) : Lockstep ρ δ R (Proc.abort a) (Proc.abort a) := .halt a

/-- Programs pairwise in lockstep, as the children of a fork. -/
lemma LockstepAll.ofList {γ : Type} {ps qs : List (Proc σ γ)}
    (h : List.Forall₂ (Lockstep ρ δ Eq) ps qs) : LockstepAll ρ δ (Procs.ofList ps) (Procs.ofList qs) := by
  induction h with
  | nil => exact .nil
  | cons head _ tail => exact .cons head tail

/-- Programs side by side, pairwise in lockstep. -/
lemma Lockstep.joinAll {γ : Type} {ps qs : List (Proc σ γ)}
    (h : List.Forall₂ (Lockstep ρ δ Eq) ps qs) :
    Lockstep ρ δ Eq (Proc.joinAll ps) (Proc.joinAll qs) :=
  .fork (.ofList h) fun _ => .done rfl

section Zoom

variable {τ : Type} {ρ' : τ → τ → Prop} {view : σ → τ} {update : τ → σ → σ}

mutual
/-- Programs over a part of the state in lockstep, for a relation on the parts that the larger
states' relation passes on and that putting related parts back keeps. -/
lemma Lockstep.zoom (hview : ∀ s s', ρ s s' → ρ' (view s) (view s'))
    (hupdate : ∀ t t' s s', ρ' t t' → ρ s s' → ρ (update t s) (update t' s')) :
    ∀ {α β : Type} {R : α → β → Prop} (p : Proc τ α) {q : Proc τ β},
    Lockstep ρ' δ R p q → Lockstep ρ δ R (Proc.zoom view update p) (Proc.zoom view update q)
  | _, _, _, .done _, _, h => by
    cases h with
    | done hr => exact .done hr
  | _, _, _, .halt _, _, h => by
    cases h
    exact .halt _
  | _, _, _, .read k, _, h => by
    cases h with
    | read next =>
      exact .read fun s s' hs => Lockstep.zoom hview hupdate (k (view s)) (next _ _ (hview s s' hs))
  | _, _, _, .write _ n, _, h => by
    cases h with
    | write ht next =>
      exact .read fun s s' hs => .write (hupdate _ _ _ _ ht hs) (Lockstep.zoom hview hupdate n next)
  | _, _, _, .sleep ms n, _, h => by
    cases h with
    | sleep _ next => exact .sleep ms (Lockstep.zoom hview hupdate n next)
  | _, _, _, .sleepUntil t n, _, h => by
    cases h with
    | sleepUntil _ next => exact .sleepUntil t (Lockstep.zoom hview hupdate n next)
  | _, _, _, .await _ n, _, h => by
    cases h with
    | await ready next =>
      exact .await (fun s s' hs => ready _ _ (hview s s' hs)) (Lockstep.zoom hview hupdate n next)
  | _, _, _, .fork cs k, _, h => by
    cases h with
    | fork children next =>
      exact .fork (LockstepAll.zoomAll hview hupdate cs children) fun rs =>
        Lockstep.zoom hview hupdate (k rs) (next rs)

/-- `Lockstep.zoom` for the children of forks. -/
lemma LockstepAll.zoomAll (hview : ∀ s s', ρ s s' → ρ' (view s) (view s'))
    (hupdate : ∀ t t' s s', ρ' t t' → ρ s s' → ρ (update t s) (update t' s')) :
    ∀ {γ : Type} (cs : Procs τ γ) {cs' : Procs τ γ},
    LockstepAll ρ' δ cs cs' →
      LockstepAll ρ δ (Proc.zoomAll view update cs) (Proc.zoomAll view update cs')
  | _, .nil, _, h => by
    cases h
    exact .nil
  | _, .cons c cs, _, h => by
    cases h with
    | cons head tail =>
      exact .cons (Lockstep.zoom hview hupdate c head) (LockstepAll.zoomAll hview hupdate cs tail)
end

end Zoom

end Build

/-! ### Scheduling -/

section Scheduling

/-- Children in lockstep abort together, with the same abort. -/
lemma LockstepAll.firstHalt {γ : Type} :
    ∀ (cs : Procs σ γ) {cs' : Procs σ γ}, LockstepAll ρ δ cs cs' → cs.firstHalt = cs'.firstHalt
  | .nil, _, h => by
    cases h
    rfl
  | .cons _ cs, _, h => by
    cases h with
    | cons head tail => cases head <;> simp only [Procs.firstHalt, LockstepAll.firstHalt cs tail]

/-- Children in lockstep finish together, with the same results. -/
lemma LockstepAll.results {γ : Type} :
    ∀ (cs : Procs σ γ) {cs' : Procs σ γ}, LockstepAll ρ δ cs cs' → cs.results = cs'.results
  | .nil, _, h => by
    cases h
    rfl
  | .cons _ cs, _, h => by
    cases h with
    | cons head tail =>
      cases head with
      | done hr =>
        subst hr
        simp only [Procs.results, LockstepAll.results cs tail]
      | _ => rfl

/-- A poll that moved on at once, after a read or a write, is alike when the poll of what
follows is. -/
lemma PollAlike.moved {x : Proc σ α × σ × Bool} {y : Proc σ β × σ × Bool}
    (h : PollAlike ρ δ R x y) : PollAlike ρ δ R (x.1, x.2.1, true) (y.1, y.2.1, true) :=
  ⟨h.1, h.2.1, rfl⟩

mutual
/-- One poll of programs in lockstep, from related states and instants `δ` apart, leaves
programs in lockstep and related states, and moves both or neither.

**Proof sketch.** Recursion on the first program, as the poll recurses: both read related
states and write related states, find their sleeps over at the same instants and their waits
ready together, and a fork polls its children (`LockstepAll.pollAll`), whose aborts and results
agree (`LockstepAll.firstHalt`, `LockstepAll.results`). -/
theorem Lockstep.poll (now : Nat) : ∀ {α β : Type} {R : α → β → Prop} (p : Proc σ α)
    {q : Proc σ β} {s s' : σ}, Lockstep ρ δ R p q → ρ s s' →
      PollAlike ρ δ R (Proc.poll now p s) (Proc.poll (now + δ) q s')
  | _, _, _, .done _, _, _, _, h, hs => by
    cases h with
    | done hr => exact ⟨.done hr, hs, rfl⟩
  | _, _, _, .halt _, _, _, _, h, hs => by
    cases h
    exact ⟨.halt _, hs, rfl⟩
  | _, _, _, .read k, _, s, s', h, hs => by
    cases h with
    | read next => exact (Lockstep.poll now (k s) (next s s' hs) hs).moved
  | _, _, _, .write _ n, _, _, _, h, _ => by
    cases h with
    | write ht next => exact (Lockstep.poll now n next ht).moved
  | _, _, _, .sleep ms n, _, _, _, h, hs => by
    cases h with
    | @sleep _ _ _ _ _ n' next =>
      refine ⟨?_, hs, rfl⟩
      show Lockstep ρ δ _ (.sleepUntil (now + ms) n) (.sleepUntil (now + δ + ms) n')
      rw [Nat.add_right_comm]
      exact .sleepUntil _ next
  | _, _, _, .sleepUntil t n, _, s, _, h, hs => by
    cases h with
    | sleepUntil _ next =>
      simp only [Proc.poll, Nat.add_le_add_iff_right]
      split
      · exact (Lockstep.poll now n next hs).moved
      · exact ⟨.sleepUntil t next, hs, rfl⟩
  | _, _, _, .await r n, _, s, s', h, hs => by
    cases h with
    | await ready next =>
      simp only [Proc.poll, ← ready s s' hs]
      split
      · exact (Lockstep.poll now n next hs).moved
      · exact ⟨.await ready next, hs, rfl⟩
  | _, _, _, .fork cs k, _, s, s', h, hs => by
    cases h with
    | @fork _ _ _ _ _ cs' _ k' children next =>
      obtain ⟨hcs, hs₁, hm⟩ := LockstepAll.pollAll now cs children hs
      rcases h1 : Proc.pollAll now cs s with ⟨cs₁, s₁, m₁⟩
      rcases h2 : Proc.pollAll (now + δ) cs' s' with ⟨cs₂, s₂, m₂⟩
      rw [h1, h2] at hcs hs₁ hm
      simp only [Proc.poll, h1, h2, ← LockstepAll.firstHalt cs₁ hcs, ← LockstepAll.results cs₁ hcs]
      split
      · -- a child aborted, and both forks abort alike
        exact ⟨.halt _, hs₁, rfl⟩
      · split
        · -- every child finished, with the same results: both forks go on with them
          next rs _ => exact (Lockstep.poll now (k rs) (next rs) hs₁).moved
        · exact ⟨.fork hcs next, hs₁, hm⟩

/-- One pass over children in lockstep leaves children in lockstep and related states, and
moves both or neither. -/
theorem LockstepAll.pollAll (now : Nat) : ∀ {γ : Type} (cs : Procs σ γ) {cs' : Procs σ γ}
    {s s' : σ}, LockstepAll ρ δ cs cs' → ρ s s' →
      PollAllAlike ρ δ (Proc.pollAll now cs s) (Proc.pollAll (now + δ) cs' s')
  | _, .nil, _, _, _, h, hs => by
    cases h
    exact ⟨.nil, hs, rfl⟩
  | _, .cons c cs, _, s, s', h, hs => by
    cases h with
    | @cons _ _ c' _ cs' head tail =>
      obtain ⟨hl, hs₁, hm⟩ := Lockstep.poll now c head hs
      rcases h1 : Proc.poll now c s with ⟨c₁, s₁, m₁⟩
      rcases h2 : Proc.poll (now + δ) c' s' with ⟨c₂, s₂, m₂⟩
      rw [h1, h2] at hl hs₁ hm
      dsimp only at hm
      subst hm
      have hl' := hl
      cases hl
      case halt a =>
        -- the child aborted: both passes stop there
        simp only [Proc.pollAll, h1, h2]
        exact ⟨.cons (.halt a) tail, hs₁, rfl⟩
      all_goals
        obtain ⟨hcs, hs₃, hm₃⟩ := LockstepAll.pollAll now cs tail hs₁
        simp only [Proc.pollAll, h1, h2]
        exact ⟨.cons hl' hcs, hs₃, by rw [hm₃]⟩
end

mutual
/-- The earliest wake-up of the second program is that of the first, `δ` later. -/
theorem Lockstep.nextWake : ∀ {α β : Type} {R : α → β → Prop} (p : Proc σ α) {q : Proc σ β},
    Lockstep ρ δ R p q → Proc.nextWake q = (Proc.nextWake p).map (· + δ)
  | _, _, _, .sleepUntil _ _, _, h => by
    cases h
    rfl
  | _, _, _, .fork cs _, _, h => by
    cases h with
    | fork children _ => exact LockstepAll.nextWakeAll cs children
  | _, _, _, .done _, _, h => by cases h; rfl
  | _, _, _, .halt _, _, h => by cases h; rfl
  | _, _, _, .read _, _, h => by cases h; rfl
  | _, _, _, .write _ _, _, h => by cases h; rfl
  | _, _, _, .sleep _ _, _, h => by cases h; rfl
  | _, _, _, .await _ _, _, h => by cases h; rfl

/-- `Lockstep.nextWake` for the children of forks. -/
theorem LockstepAll.nextWakeAll : ∀ {γ : Type} (cs : Procs σ γ) {cs' : Procs σ γ},
    LockstepAll ρ δ cs cs' → Proc.nextWakeAll cs' = (Proc.nextWakeAll cs).map (· + δ)
  | _, .nil, _, h => by
    cases h
    rfl
  | _, .cons c cs, _, h => by
    cases h with
    | cons head tail =>
      simp only [Proc.nextWakeAll, Lockstep.nextWake c head, LockstepAll.nextWakeAll cs tail]
      cases Proc.nextWake c <;> cases Proc.nextWakeAll cs <;>
        simp [Nat.add_min_add_right]
end

/-- One step of two runs: after polls alike, the runs end alike, given that runs in lockstep
with one unit of fuel less do.

**Proof sketch.** Both polls leave programs of the same shape.  Finished or aborted, both runs
end there alike; otherwise both moved or neither did, and both go on at once or from their
earliest wake-ups, which are `δ` apart (`Lockstep.nextWake`). -/
lemma PollAlike.runFrom_succ {fuel now : Nat} {p : Proc σ α} {q : Proc σ β} {s s' : σ}
    (hpoll : PollAlike ρ δ R (Proc.poll now p s) (Proc.poll (now + δ) q s'))
    (ih : ∀ {now : Nat} {p : Proc σ α} {q : Proc σ β} {s s' : σ}, Lockstep ρ δ R p q → ρ s s' →
      (Proc.runFrom fuel now p s).Alike ρ δ R (Proc.runFrom fuel (now + δ) q s')) :
    (Proc.runFrom (fuel + 1) now p s).Alike ρ δ R (Proc.runFrom (fuel + 1) (now + δ) q s') := by
  obtain ⟨hl, hs₁, hm⟩ := hpoll
  rw [Proc.runFrom, Proc.runFrom]
  rcases h1 : Proc.poll now p s with ⟨p₁, s₁, m₁⟩
  rcases h2 : Proc.poll (now + δ) q s' with ⟨q₁, s₂, m₂⟩
  rw [h1, h2] at hl hs₁ hm
  dsimp only at hl hs₁ hm
  subst hm
  have hw := hl.nextWake
  have hl' := hl
  cases hl
  case done hr => exact ⟨hr, hs₁, rfl⟩
  case halt => rfl
  all_goals
    cases m₁
    · -- nothing moved: both clocks jump to the earliest wake-ups, `δ` apart, or both stall
      dsimp only
      rw [hw]
      cases Proc.nextWake _ with
      | none => trivial
      | some t =>
        dsimp only [Option.map_some]
        rw [Nat.add_max_add_right]
        exact ih hl' hs₁
    · exact ih hl' hs₁

/-- Runs of programs in lockstep, from related states and instants `δ` apart, end alike.

**Proof sketch.** Induction on the fuel, one poll at a time (`Lockstep.poll`,
`PollAlike.runFrom_succ`). -/
theorem Lockstep.runFrom : ∀ (fuel : Nat) {now : Nat} {p : Proc σ α} {q : Proc σ β} {s s' : σ},
    Lockstep ρ δ R p q → ρ s s' →
      (Proc.runFrom fuel now p s).Alike ρ δ R (Proc.runFrom fuel (now + δ) q s')
  | 0, _, _, _, _, _, _, _ => trivial
  | fuel + 1, now, p, _, _, _, h, hs =>
    (Lockstep.poll now p h hs).runFrom_succ (Lockstep.runFrom fuel)

end Scheduling

end Proc

end CorpusBench
