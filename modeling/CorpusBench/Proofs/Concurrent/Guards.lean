import Mathlib
import CorpusBench.Proofs.Concurrent.Join

/-!
# Invariants that hold wherever the scheduler may switch

The scheduler switches from one program to another only where a program sleeps, waits or
ends: the reads and writes in between run with no other program running.  A property of the
shared state then need only hold at those points, and a program may break it for a moment as
long as it mends it before it sleeps.  A program *guards* `I` when every point where it sleeps,
waits or ends is in a state satisfying `I`, provided it starts, and wakes, in one.

What a program knows about the state from one such point to the next is carried by *shares*,
as in `Proc.Owns`: the state has counts `c i`, a program holds `n i` units of each, and from
one switch to the next each count moves by exactly the change in what the program holds.  A
program that wakes may then rely on each count covering what it holds, since every other
program moved the counts only within its own shares.

## Main definitions

* `Proc.Settled` — a point where the scheduler may switch: `I` holds, and each count
  moved by the change in what the program holds.
* `Proc.GuardsFrom` — a program, from a given point on, guards `I` with its shares.
* `Proc.Guards` — the same from every state satisfying `I` whose counts cover what
  the program holds.
* `Proc.Guarded` — programs side by side, each guarding `I`, in a state satisfying
  `I` whose counts are the sums of their shares.

## Main results

* `Proc.GuardsFrom.poll` — a poll leaves a settled state and a program that guards
  `I` from there.
* `Proc.Guarded.poll` — polling any one of programs side by side keeps them
  guarded; `Proc.Guarded.drop` — a finished program leaves without a share.
* `Proc.GuardsFrom.instant_bind`, `Proc.GuardsFrom.sleepsThen`,
  `Proc.Guards.map` — the rules by which a program is shown to guard `I`.
-/

namespace CorpusBench

namespace Proc

variable {σ ι : Type} (I : σ → Prop) (c : ι → σ → Nat)

/-- A point where the scheduler may switch, in the state `s` with the shares `n`, of a stretch of
a program that started in `s₀` with the shares `n₀`: the state satisfies `I`, and each count
moved by the change in the shares. -/
def Settled (s₀ : σ) (n₀ : ι → Nat) (s : σ) (n : ι → Nat) : Prop :=
  I s ∧ ∀ i, c i s + n₀ i = c i s₀ + n i

/-- A program that started a stretch in `s₀` holding `n₀`, and goes on in `s`, ends holding
`e`: wherever it sleeps, waits or ends the point is settled, and after a sleep or a wait it goes
on from any state satisfying `I` whose counts cover what it holds.  It neither aborts nor
forks. -/
inductive GuardsFrom : σ → (ι → Nat) → σ → (ι → Nat) → {α : Type} → Proc σ α → Prop
  | done {s₀ : σ} {n₀ : ι → Nat} {s : σ} {e : ι → Nat} {α : Type} (a : α)
      (settled : Settled I c s₀ n₀ s e) : GuardsFrom s₀ n₀ s e (.done a)
  | read {s₀ : σ} {n₀ : ι → Nat} {s : σ} {e : ι → Nat} {α : Type} {k : σ → Proc σ α}
      (next : GuardsFrom s₀ n₀ s e (k s)) : GuardsFrom s₀ n₀ s e (.read k)
  | write {s₀ : σ} {n₀ : ι → Nat} {s s' : σ} {e : ι → Nat} {α : Type} {p : Proc σ α}
      (next : GuardsFrom s₀ n₀ s' e p) : GuardsFrom s₀ n₀ s e (.write s' p)
  | sleep {s₀ : σ} {n₀ : ι → Nat} {s : σ} {e : ι → Nat} {α : Type} {ms : Nat} {p : Proc σ α}
      (n : ι → Nat) (settled : Settled I c s₀ n₀ s n)
      (next : ∀ s', I s' → (∀ i, n i ≤ c i s') → GuardsFrom s' n s' e p) :
      GuardsFrom s₀ n₀ s e (.sleep ms p)
  | sleepUntil {s₀ : σ} {n₀ : ι → Nat} {s : σ} {e : ι → Nat} {α : Type} {t : Nat}
      {p : Proc σ α} (n : ι → Nat) (settled : Settled I c s₀ n₀ s n)
      (next : ∀ s', I s' → (∀ i, n i ≤ c i s') → GuardsFrom s' n s' e p) :
      GuardsFrom s₀ n₀ s e (.sleepUntil t p)
  | await {s₀ : σ} {n₀ : ι → Nat} {s : σ} {e : ι → Nat} {α : Type} {r : σ → Bool}
      {p : Proc σ α} (n : ι → Nat) (settled : Settled I c s₀ n₀ s n)
      (next : ∀ s', r s' = true → I s' → (∀ i, n i ≤ c i s') → GuardsFrom s' n s' e p) :
      GuardsFrom s₀ n₀ s e (.await r p)

/-- The program guards `I` holding `n`, and ends holding `e`, from every state satisfying `I`
whose counts cover `n`. -/
def Guards {α : Type} (n e : ι → Nat) (p : Proc σ α) : Prop :=
  ∀ s, I s → (∀ i, n i ≤ c i s) → GuardsFrom I c s n s e p

variable {I c} {α β : Type}

/-! ### Settled points -/

lemma Settled.refl {s : σ} (hs : I s) (n : ι → Nat) : Settled I c s n s n := ⟨hs, fun _ => rfl⟩

/-- Two stretches one after the other move each count by the sum of their moves. -/
lemma Settled.trans {s₀ s₁ s : σ} {n₀ n₁ n : ι → Nat} (h₀ : Settled I c s₀ n₀ s₁ n₁)
    (h₁ : Settled I c s₁ n₁ s n) : Settled I c s₀ n₀ s n := by
  refine ⟨h₁.1, fun i => ?_⟩
  have := h₀.2 i
  have := h₁.2 i
  omega

/-- A settled point where a second property holds too is settled for both. -/
lemma Settled.and {Q : σ → Prop} {s₀ s : σ} {n₀ n : ι → Nat} (h : Settled I c s₀ n₀ s n)
    (hQ : Q s) : Settled (fun s => I s ∧ Q s) c s₀ n₀ s n :=
  ⟨⟨h.1, hQ⟩, h.2⟩

/-- Counts that covered the shares at the start of a stretch cover them where it settles. -/
lemma Settled.covers {s₀ s : σ} {n₀ n : ι → Nat} (h : Settled I c s₀ n₀ s n)
    (hcov : ∀ i, n₀ i ≤ c i s₀) : ∀ i, n i ≤ c i s := by
  intro i
  have := h.2 i
  have := hcov i
  omega

/-! ### Scheduling -/

/-- A stretch that starts at a settled point may be counted from any earlier one. -/
lemma GuardsFrom.rebase {s₁ s : σ} {n₁ e : ι → Nat} {p : Proc σ α}
    (h : GuardsFrom I c s₁ n₁ s e p) {s₀ : σ} {n₀ : ι → Nat} (h₀ : Settled I c s₀ n₀ s₁ n₁) :
    GuardsFrom I c s₀ n₀ s e p := by
  induction h with
  | done a settled => exact .done a (h₀.trans settled)
  | read _ ih => exact .read (ih h₀)
  | write _ ih => exact .write (ih h₀)
  | sleep n settled next => exact .sleep n (h₀.trans settled) next
  | sleepUntil n settled next => exact .sleepUntil n (h₀.trans settled) next
  | await n settled next => exact .await n (h₀.trans settled) next

/-- A poll of a program that guards `I` stops at a settled point, and leaves a program that
guards `I` from there, holding what it then holds.

**Proof sketch.** Induction on the derivation, following the poll: a read or a write goes on at
once, a sleep becomes a sleep until its end and stops, a sleep that is over or a wait that is
ready goes on from the state it was left in, which the others left settled and covering its
shares, and anything else stops where it is. -/
theorem GuardsFrom.poll (now : Nat) {s₀ s : σ} {n₀ e : ι → Nat} {p : Proc σ α}
    (h : GuardsFrom I c s₀ n₀ s e p) :
    (∀ i, n₀ i ≤ c i s₀) →
      ∃ n, Settled I c s₀ n₀ (Proc.poll now p s).2.1 n ∧ Guards I c n e (Proc.poll now p s).1 := by
  induction h with
  | done a settled =>
    intro _
    exact ⟨_, settled, fun s' hs' _ => .done a (Settled.refl hs' _)⟩
  | @read s₀ n₀ s e α k _ ih =>
    intro hcov
    obtain ⟨n, hset, hguards⟩ := ih hcov
    rcases hpoll : Proc.poll now (k s) s with ⟨p', s', _⟩
    simp only [hpoll] at hset hguards
    simp only [Proc.poll, hpoll]
    exact ⟨n, hset, hguards⟩
  | @write s₀ n₀ s s' e α p _ ih =>
    intro hcov
    obtain ⟨n, hset, hguards⟩ := ih hcov
    rcases hpoll : Proc.poll now p s' with ⟨p', s'', _⟩
    simp only [hpoll] at hset hguards
    simp only [Proc.poll, hpoll]
    exact ⟨n, hset, hguards⟩
  | sleep n settled next =>
    intro _
    exact ⟨n, settled, fun s' hs' _ => .sleepUntil n (Settled.refl hs' n) next⟩
  | @sleepUntil s₀ n₀ s e α t p n settled next ih =>
    intro hcov
    simp only [Proc.poll]
    split
    · -- the sleep is over: the program goes on from the state it was left in
      obtain ⟨n', hset, hguards⟩ := ih s settled.1 (settled.covers hcov) (settled.covers hcov)
      exact ⟨n', settled.trans hset, hguards⟩
    · exact ⟨n, settled, fun s' hs' _ => .sleepUntil n (Settled.refl hs' n) next⟩
  | @await s₀ n₀ s e α r p n settled next ih =>
    intro hcov
    simp only [Proc.poll]
    split
    · next hr =>
      obtain ⟨n', hset, hguards⟩ := ih s hr settled.1 (settled.covers hcov) (settled.covers hcov)
      exact ⟨n', settled.trans hset, hguards⟩
    · exact ⟨n, settled, fun s' hs' _ => .await n (Settled.refl hs' n) next⟩

/-! ### Building programs that guard an invariant -/

/-- Sequencing: the second part goes on holding what the first part ends holding.

**Proof sketch.** Induction on the first part's derivation: `bind` grafts the second part at
every leaf, where the point is settled, so the second part starts a stretch there that counts
from the first part's start (`GuardsFrom.rebase`). -/
lemma GuardsFrom.bind {s₀ s : σ} {n₀ m e : ι → Nat} {p : Proc σ α} {f : α → Proc σ β}
    (h : GuardsFrom I c s₀ n₀ s m p) (hf : ∀ a, Guards I c m e (f a)) :
    (∀ i, n₀ i ≤ c i s₀) → GuardsFrom I c s₀ n₀ s e (p >>= f) := by
  induction h with
  | done a settled =>
    intro hcov
    exact (hf a _ settled.1 (settled.covers hcov)).rebase settled
  | read _ ih => exact fun hcov => .read (ih hf hcov)
  | write _ ih => exact fun hcov => .write (ih hf hcov)
  | sleep n settled _ ih =>
    exact fun _ => .sleep n settled fun s' hs' hcov' => ih s' hs' hcov' hf hcov'
  | sleepUntil n settled _ ih =>
    exact fun _ => .sleepUntil n settled fun s' hs' hcov' => ih s' hs' hcov' hf hcov'
  | await n settled _ ih =>
    exact fun _ => .await n settled fun s' hr hs' hcov' => ih s' hr hs' hcov' hf hcov'

lemma Guards.bind {n m e : ι → Nat} {p : Proc σ α} {f : α → Proc σ β} (hp : Guards I c n m p)
    (hf : ∀ a, Guards I c m e (f a)) : Guards I c n e (p >>= f) :=
  fun s hs hcov => (hp s hs hcov).bind hf hcov

lemma Guards.pure {n : ι → Nat} (a : α) : Guards I c n n (pure a : Proc σ α) :=
  fun _ hs _ => .done a (Settled.refl hs _)

lemma Guards.map {n e : ι → Nat} {p : Proc σ α} (hp : Guards I c n e p) (f : α → β) :
    Guards I c n e (f <$> p) :=
  hp.bind fun a => Guards.pure (f a)

/-- A part that ends within one poll runs with no switch: what follows it need only guard `I`
from wherever it ends. -/
lemma GuardsFrom.instant_bind {s₀ : σ} {n₀ e : ι → Nat} {f : α → Proc σ β} :
    ∀ {p : Proc σ α} {s : σ}, Instant p s →
      wp p (fun a s' => GuardsFrom I c s₀ n₀ s' e (f a)) s → GuardsFrom I c s₀ n₀ s e (p >>= f)
  | .done _, _, _, h => h
  | .read k, s, hi, h => .read (GuardsFrom.instant_bind (p := k s) hi h)
  | .write _ n, _, hi, h => .write (GuardsFrom.instant_bind (p := n) hi h)
  | .halt _, _, hi, _ => hi.elim
  | .sleep _ _, _, hi, _ => hi.elim
  | .sleepUntil _ _, _, hi, _ => hi.elim
  | .await _ _, _, hi, _ => hi.elim
  | .fork _ _, _, hi, _ => hi.elim

/-- A program that ends within one poll guards `I` when the state it ends in is settled. -/
lemma GuardsFrom.instant {s₀ : σ} {n₀ e : ι → Nat} :
    ∀ {p : Proc σ α} {s : σ}, Instant p s → wp p (fun _ s' => Settled I c s₀ n₀ s' e) s →
      GuardsFrom I c s₀ n₀ s e p
  | .done a, _, _, h => .done a h
  | .read k, s, hi, h => .read (GuardsFrom.instant (p := k s) hi h)
  | .write _ n, _, hi, h => .write (GuardsFrom.instant (p := n) hi h)
  | .halt _, _, hi, _ => hi.elim
  | .sleep _ _, _, hi, _ => hi.elim
  | .sleepUntil _ _, _, hi, _ => hi.elim
  | .await _ _, _, hi, _ => hi.elim
  | .fork _ _, _, hi, _ => hi.elim

/-- A program that reads and writes and then sleeps guards `I` when it sleeps at a settled point,
and what follows the sleep guards `I` with the shares it then holds. -/
lemma GuardsFrom.sleepsThen {s₀ : σ} {n₀ e : ι → Nat} :
    ∀ {p : Proc σ α} {s : σ},
      SleepsThen p (fun _ q s' => ∃ n, Settled I c s₀ n₀ s' n ∧ Guards I c n e q) s →
        GuardsFrom I c s₀ n₀ s e p
  | .read k, s, h => .read (GuardsFrom.sleepsThen (p := k s) h)
  | .write _ n, _, h => .write (GuardsFrom.sleepsThen (p := n) h)
  | .sleep _ _, _, h => by
    obtain ⟨n, hset, hguards⟩ := h
    exact .sleep n hset hguards
  | .done _, _, h => h.elim
  | .halt _, _, h => h.elim
  | .sleepUntil _ _, _, h => h.elim
  | .await _ _, _, h => h.elim
  | .fork _ _, _, h => h.elim

/-! ### Programs side by side -/

section Guarded

variable (I c) in
/-- Programs side by side, in a state satisfying `I`: each guards `I` with its share and ends
holding nothing, and the shares add up to the counts of the state. -/
structure Guarded (s : σ) (held : List (ι → Nat)) (ps : List (Proc σ α)) : Prop where
  valid : I s
  owned : List.Forall₂ (fun n p => Guards I c n 0 p) held ps
  sum_eq : ∀ i, c i s = (held.map (· i)).sum

variable {s : σ} {held : List (ι → Nat)} {ps : List (Proc σ α)}

/-- A program that starts holding nothing joins the others. -/
lemma Guarded.cons (h : Guarded I c s held ps) {p : Proc σ α} (hp : Guards I c 0 0 p) :
    Guarded I c s (0 :: held) (p :: ps) :=
  ⟨h.valid, .cons hp h.owned, fun i => by simp [h.sum_eq i]⟩

/-- A change of the state that keeps `I` and every count keeps the programs guarded. -/
lemma Guarded.of_counts (h : Guarded I c s held ps) {s' : σ} (hs' : I s')
    (hc : ∀ i, c i s' = c i s) : Guarded I c s' held ps :=
  ⟨hs', h.owned, fun i => (hc i).trans (h.sum_eq i)⟩

/-- With no program running, every count is zero. -/
lemma Guarded.count_eq_zero (h : Guarded I c s held ([] : List (Proc σ α))) (i : ι) :
    c i s = 0 := by
  have hheld : held = [] := List.forall₂_nil_right_iff.1 h.owned
  rw [h.sum_eq i, hheld]
  rfl

/-- The shares of the programs before the one at `pre.length`, its own, and those after it. -/
lemma Guarded.split {pre post : List (Proc σ α)} {p : Proc σ α}
    (h : Guarded I c s held (pre ++ p :: post)) :
    ∃ hpre n hpost, held = hpre ++ n :: hpost ∧ List.Forall₂ (fun n p => Guards I c n 0 p) hpre pre ∧
      Guards I c n 0 p ∧ List.Forall₂ (fun n p => Guards I c n 0 p) hpost post := by
  have hpre := List.forall₂_take_append held pre (p :: post) h.owned
  obtain ⟨n, rest, hp, hpost, hrest⟩ :=
    List.forall₂_cons_right_iff.1 (List.forall₂_drop_append held pre (p :: post) h.owned)
  refine ⟨held.take pre.length, n, rest, ?_, hpre, hp, hpost⟩
  have hheld := List.take_append_drop pre.length held
  rw [hrest] at hheld
  exact hheld.symm

/-- A poll of any one of the programs keeps them guarded: the counts move by the change in the
share of the program polled, and the others, stopped where the scheduler may switch, go on from
any state that covers their shares. -/
lemma Guarded.poll {pre post : List (Proc σ α)} {p : Proc σ α}
    (h : Guarded I c s held (pre ++ p :: post)) (now : Nat) :
    ∃ held', Guarded I c (Proc.poll now p s).2.1 held' (pre ++ (Proc.poll now p s).1 :: post) := by
  obtain ⟨hpre, n, hpost, rfl, hpre', hp, hpost'⟩ := h.split
  have hsum := h.sum_eq
  simp only [List.map_append, List.map_cons, List.sum_append, List.sum_cons] at hsum
  obtain ⟨n', hset, hp'⟩ := (hp s h.valid (fun i => by have := hsum i; omega)).poll now
    (fun i => by have := hsum i; omega)
  refine ⟨hpre ++ n' :: hpost, hset.1, List.rel_append hpre' (.cons hp' hpost'), fun i => ?_⟩
  simp only [List.map_append, List.map_cons, List.sum_append, List.sum_cons]
  have := hset.2 i
  have := hsum i
  omega

/-- A finished program holds nothing, and leaves. -/
lemma Guarded.drop {pre post : List (Proc σ α)} {a : α}
    (h : Guarded I c s held (pre ++ .done a :: post)) :
    ∃ held', Guarded I c s held' (pre ++ post) := by
  obtain ⟨hpre, n, hpost, rfl, hpre', hp, hpost'⟩ := h.split
  have hsum := h.sum_eq
  simp only [List.map_append, List.map_cons, List.sum_append, List.sum_cons] at hsum
  -- a finished program ends where it is, holding nothing
  have hzero : ∀ i, n i = 0 := by
    have hdone := hp s h.valid (fun i => by have := hsum i; omega)
    cases hdone with
    | done _ settled => exact fun i => by have := settled.2 i; simp at this; omega
  refine ⟨hpre ++ hpost, h.valid, List.rel_append hpre' hpost', fun i => ?_⟩
  simp only [List.map_append, List.sum_append]
  have := hsum i
  have := hzero i
  omega

end Guarded

end Proc

end CorpusBench
