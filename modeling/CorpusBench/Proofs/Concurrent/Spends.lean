import Mathlib.Tactic.Lemma
import CorpusBench.Concurrent.Proc

/-!
# Programs that spend a bounded part of a count, and end

Some counts in a shared state only grow, one unit per use of a resource: the requests a server
has logged, say.  A program *spends at most* `b` units of such a count `c`
(`Proc.SpendsFrom c R Q s b n p`) when, run from `s`, every write raises the count by no more
than its budget then gives up, so that over the whole run, children included, the count grows by
at most `b`.  The children of a fork spend from budgets of their own, from whatever state they
find; after a sleep the program goes on from any state `R` allows: the state itself for a
program run alone, any state for a child that shares it.

The same predicate bounds the sleeps: `n` is a potential, two units for a sleep not started and
one for a sleep under way.  A program that neither waits nor runs out of potential ends: every
poll leaves it *parked* (ended, asleep, or with children so), and from a parked program a poll
that moves anything ends it or uses potential, while one that moves nothing is followed by a jump
of the clock to a wake-up.  So a run alone of a program that spends at most `b` ends within a
bounded number of polls, and if it finishes, it finishes in its postcondition with the count
raised by at most `b` (`Proc.SpendsFrom.runFrom`, `Proc.SpendsFrom.runFrom_within`).

## Main definitions

* `Proc.Parked` — where a poll leaves a program.
* `Proc.SpendsFrom`, `Proc.SpendAll` — a program, or the children of a fork, spend at most a
  budget of a count and sleep a bounded number of times.
* `Ending.Within` — a run that finished within a budget, or aborted.

## Main results

* `Proc.SpendsFrom.bind` — spending is built up along the program.
* `Proc.SpendsFrom.poll` — a poll spends from the budget, uses no potential, and uses some when
  it moves a parked program without ending it.
* `Proc.SpendsFrom.runFrom` — a run alone ends, within the budget.
-/

namespace CorpusBench

/-- A run that finished in `Q` with the count `c` raised by at most `b` from `s`, or that
aborted; one that stalled, or ran out of fuel, did not end. -/
def Ending.Within {σ α : Type} (c : σ → Nat) (Q : α → σ → Prop) (s : σ) (b : Nat) :
    Ending σ α → Prop
  | .finished a s' _ => Q a s' ∧ c s' ≤ c s + b
  | .halted _ => True
  | .stalled => False

/-- A bound met from a later state within what is left of the budget is met from the first. -/
lemma Ending.Within.mono {σ α : Type} {c : σ → Nat} {Q : α → σ → Prop} {s s' : σ} {b b' : Nat}
    {e : Ending σ α}
    (hc : c s' + b' ≤ c s + b) (h : e.Within c Q s' b') : e.Within c Q s b := by
  cases e with
  | finished a s'' _ => exact ⟨h.1, by have := h.2; omega⟩
  | halted _ => trivial
  | stalled => exact h.elim

namespace Proc

variable {σ : Type}

/-! ### Where a poll leaves a program -/

/-- A program that has finished or aborted. -/
def Ended {α : Type} : Proc σ α → Prop
  | .done _ => True
  | .halt _ => True
  | _ => False

mutual
/-- Where a poll leaves a program: ended, asleep until an instant, waiting, or running children
that all stand so, none of them aborted and not all of them finished. -/
def Parked {α : Type} : Proc σ α → Prop
  | .done _ => True
  | .halt _ => True
  | .sleepUntil _ _ => True
  | .await _ _ => True
  | .fork cs _ => ParkedAll cs ∧ cs.firstHalt = none ∧ cs.results = none
  | .read _ => False
  | .write _ _ => False
  | .sleep _ _ => False

/-- Children that all stand where a poll leaves a program. -/
def ParkedAll {β : Type} : Procs σ β → Prop
  | .nil => True
  | .cons p ps => Parked p ∧ ParkedAll ps
end

mutual
/-- A poll leaves every program parked. -/
theorem parked_poll {α : Type} (now : Nat) : ∀ (p : Proc σ α) (s : σ), Parked (poll now p s).1
  | .done _, _ => trivial
  | .halt _, _ => trivial
  | .read k, s => by
    have h := parked_poll now (k s) s
    rcases hpoll : poll now (k s) s with ⟨p', s', _⟩
    rw [hpoll] at h
    simpa only [poll, hpoll] using h
  | .write s' n, _ => by
    have h := parked_poll now n s'
    rcases hpoll : poll now n s' with ⟨p', s'', _⟩
    rw [hpoll] at h
    simpa only [poll, hpoll] using h
  | .sleep _ _, _ => trivial
  | .sleepUntil t n, s => by
    simp only [poll]
    split
    · have h := parked_poll now n s
      rcases hpoll : poll now n s with ⟨p', s', _⟩
      rw [hpoll] at h
      exact h
    · trivial
  | .await r n, s => by
    simp only [poll]
    split
    · have h := parked_poll now n s
      rcases hpoll : poll now n s with ⟨p', s', _⟩
      rw [hpoll] at h
      exact h
    · trivial
  | .fork cs k, s => by
    have hall := parkedAll_pollAll now cs s
    rcases hpoll : pollAll now cs s with ⟨cs', s', moved⟩
    rw [hpoll] at hall
    simp only [poll, hpoll]
    split
    · trivial
    · next hhalt =>
      split
      · next rs _ =>
        have h := parked_poll now (k rs) s'
        rcases hpoll' : poll now (k rs) s' with ⟨p', s'', _⟩
        rw [hpoll'] at h
        exact h
      · next hres => exact ⟨hall hhalt, hhalt, hres⟩

/-- A pass over children leaves them all parked, unless one aborted. -/
theorem parkedAll_pollAll {β : Type} (now : Nat) : ∀ (cs : Procs σ β) (s : σ),
    (pollAll now cs s).1.firstHalt = none → ParkedAll (pollAll now cs s).1
  | .nil, _, _ => trivial
  | .cons c cs, s, h => by
    have hc := parked_poll now c s
    simp only [pollAll] at h ⊢
    split at h
    · simp [Procs.firstHalt] at h
    · next c' s1 m1 hne heq =>
      rw [heq] at hc
      simp only at h hc ⊢
      -- the child polled did not abort, so the first abort is among the others
      have hrest : (pollAll now cs s1).1.firstHalt = none := by
        cases c' with
        | halt a => exact absurd rfl (hne a)
        | _ => exact h
      exact ⟨hc, parkedAll_pollAll now cs s1 hrest⟩
end

mutual
/-- A poll that moves nothing leaves a parked program, with no aborted child, as it was. -/
theorem poll_of_parked {α : Type} (now : Nat) : ∀ (p : Proc σ α) (s : σ), Parked p →
    (poll now p s).2.2 = false → poll now p s = (p, s, false)
  | .done _, _, _, _ => rfl
  | .halt _, _, _, _ => rfl
  | .sleepUntil t n, s, _, h => by
    simp only [poll] at h ⊢
    split at h
    · simp at h
    · next ht => rw [if_neg ht]
  | .await r n, s, _, h => by
    simp only [poll] at h ⊢
    split at h
    · simp at h
    · next hr => rw [if_neg hr]
  | .fork cs k, s, hp, h => by
    obtain ⟨hall, hhalt, hres⟩ := hp
    simp only [poll] at h ⊢
    rcases hpoll : pollAll now cs s with ⟨cs', s', moved⟩
    simp only [hpoll] at h ⊢
    split at h
    · simp at h
    · split at h
      · simp at h
      · -- the children moved nothing, so they stand as they were
        obtain ⟨rfl, rfl, rfl⟩ : cs' = cs ∧ s' = s ∧ moved = false := by
          have hsame := pollAll_of_parked now cs s hall hhalt (by rw [hpoll]; exact h)
          rw [hpoll] at hsame
          simpa using hsame
        simp only

/-- A pass that moves nothing leaves parked children, none aborted, as they were. -/
theorem pollAll_of_parked {β : Type} (now : Nat) : ∀ (cs : Procs σ β) (s : σ), ParkedAll cs →
    cs.firstHalt = none → (pollAll now cs s).2.2 = false → pollAll now cs s = (cs, s, false)
  | .nil, _, _, _, _ => rfl
  | .cons c cs, s, ⟨hc, hall⟩, hhalt, h => by
    -- a child that aborted would be the first abort
    have hnot : ∀ a, c ≠ .halt a := by
      rintro a rfl
      simp [Procs.firstHalt] at hhalt
    have hhalt' : cs.firstHalt = none := by
      cases c with
      | halt a => exact absurd rfl (hnot a)
      | _ => exact hhalt
    simp only [pollAll] at h ⊢
    split at h
    · simp at h
    · next c' s1 m1 _ heq =>
      simp only [Bool.or_eq_false_iff] at h
      have hc' := poll_of_parked now c s hc (by rw [heq]; exact h.1)
      rw [heq] at hc'
      simp only [Prod.mk.injEq] at hc'
      obtain ⟨rfl, rfl, rfl⟩ := hc'
      have hcs := pollAll_of_parked now cs s1 hall hhalt' h.2
      simp [hcs]
end

/-! ### Spending and sleeping within bounds -/

variable (c : σ → Nat)

mutual
/-- Run from `s` with `b` units of the count `c` left to spend and a potential of `n` for its
sleeps, the program raises the count by no more than what it gives up of the budget at each
write, and ends in `Q`.  A sleep uses two units of potential, one when it starts and one when
it ends, after which the program goes on from any state `R` allows; the children of a fork
spend from budgets of their own and sleep within potentials of their own, from any state, and
the program goes on from any state with what is left. -/
inductive SpendsFrom : (σ → σ → Prop) → {α : Type} → (α → σ → Prop) → σ → Nat → Nat →
    Proc σ α → Prop
  | done {R : σ → σ → Prop} {α : Type} {Q : α → σ → Prop} {s : σ} {b n : Nat} {a : α}
      (post : Q a s) : SpendsFrom R Q s b n (.done a)
  | halt {R : σ → σ → Prop} {α : Type} {Q : α → σ → Prop} {s : σ} {b n : Nat} (abort : Abort) :
      SpendsFrom R Q s b n (Proc.halt abort : Proc σ α)
  | read {R : σ → σ → Prop} {α : Type} {Q : α → σ → Prop} {s : σ} {b n : Nat}
      {k : σ → Proc σ α} (next : SpendsFrom R Q s b n (k s)) : SpendsFrom R Q s b n (.read k)
  | write {R : σ → σ → Prop} {α : Type} {Q : α → σ → Prop} {s s' : σ} {b b' n : Nat}
      {p : Proc σ α} (spends : c s' + b' ≤ c s + b) (next : SpendsFrom R Q s' b' n p) :
      SpendsFrom R Q s b n (.write s' p)
  | sleep {R : σ → σ → Prop} {α : Type} {Q : α → σ → Prop} {s : σ} {b n m ms : Nat}
      {p : Proc σ α} (sleeps : m + 2 ≤ n) (next : ∀ s', R s s' → SpendsFrom R Q s' b m p) :
      SpendsFrom R Q s b n (.sleep ms p)
  | sleepUntil {R : σ → σ → Prop} {α : Type} {Q : α → σ → Prop} {s : σ} {b n m t : Nat}
      {p : Proc σ α} (sleeps : m + 1 ≤ n) (next : ∀ s', R s s' → SpendsFrom R Q s' b m p) :
      SpendsFrom R Q s b n (.sleepUntil t p)
  | fork {R : σ → σ → Prop} {α β : Type} {Q : α → σ → Prop} {s : σ} {b n : Nat} {P : β → Prop}
      {len b₁ n₁ b₂ n₂ : Nat} {cs : Procs σ β} {k : List β → Proc σ α}
      (children : SpendAll P len b₁ n₁ cs) (spends : b₁ + b₂ ≤ b) (sleeps : n₁ + n₂ ≤ n)
      (next : ∀ rs : List β, rs.length = len → (∀ r ∈ rs, P r) → ∀ s',
        SpendsFrom R Q s' b₂ n₂ (k rs)) :
      SpendsFrom R Q s b n (.fork cs k)

/-- `len` children, each ending in `P` and spending within its own budget and potential from
any state, with budgets adding up to `b` and potentials to `n`. -/
inductive SpendAll : {β : Type} → (β → Prop) → Nat → Nat → Nat → Procs σ β → Prop
  | nil {β : Type} {P : β → Prop} : SpendAll P 0 0 0 (.nil : Procs σ β)
  | cons {β : Type} {P : β → Prop} {len b₁ n₁ b₂ n₂ : Nat} {p : Proc σ β} {ps : Procs σ β}
      (head : ∀ s, SpendsFrom (fun _ _ => True) (fun r _ => P r) s b₁ n₁ p)
      (tail : SpendAll P len b₂ n₂ ps) :
      SpendAll P (len + 1) (b₁ + b₂) (n₁ + n₂) (.cons p ps)
end

variable {c} {R : σ → σ → Prop} {α β : Type} {Q : α → σ → Prop}

/-! ### Building programs that spend within bounds -/

section Build

/-- A larger budget, a larger potential and a weaker postcondition. -/
lemma SpendsFrom.mono {Q' : α → σ → Prop} (hQ : ∀ a s, Q a s → Q' a s) :
    ∀ {p : Proc σ α} {s : σ} {b b' n n' : Nat}, b ≤ b' → n ≤ n' →
      SpendsFrom c R Q s b n p → SpendsFrom c R Q' s b' n' p
  | .done _, _, _, _, _, _, _, _, h => by
    cases h with
    | done post => exact .done (hQ _ _ post)
  | .halt a, _, _, _, _, _, _, _, _ => .halt a
  | .read k, s, _, _, _, _, hb, hn, h => by
    cases h with
    | read next => exact .read (SpendsFrom.mono hQ (p := k s) hb hn next)
  | .write _ p, _, _, _, _, _, hb, hn, h => by
    cases h with
    | write spends next =>
      refine .write ?_ (SpendsFrom.mono hQ (p := p) (Nat.le_refl _) hn next)
      omega
  | .sleep _ p, _, _, _, _, _, hb, hn, h => by
    cases h with
    | sleep sleeps next =>
      refine .sleep ?_ fun s' hs' => SpendsFrom.mono hQ (p := p) hb (Nat.le_refl _) (next s' hs')
      omega
  | .sleepUntil _ p, _, _, _, _, _, hb, hn, h => by
    cases h with
    | sleepUntil sleeps next =>
      refine .sleepUntil ?_ fun s' hs' =>
        SpendsFrom.mono hQ (p := p) hb (Nat.le_refl _) (next s' hs')
      omega
  | .await _ _, _, _, _, _, _, _, _, h => by cases h
  | .fork _ k, _, _, _, _, _, hb, hn, h => by
    cases h with
    | fork children spends sleeps next =>
      exact .fork children (by omega) (by omega) fun rs hlen hP s' =>
        SpendsFrom.mono hQ (p := k rs) (Nat.le_refl _) (Nat.le_refl _) (next rs hlen hP s')

lemma SpendsFrom.pure {s : σ} {a : α} (h : Q a s) (b n : Nat) :
    SpendsFrom c R Q s b n (Pure.pure a : Proc σ α) := .done h

/-- Sequencing: the second part spends from what the first leaves, from wherever it ends.

**Proof sketch.** Recursion on the first part, which `bind` rebuilds with the second part
grafted at every leaf; the budgets and potentials of the two parts add up. -/
lemma SpendsFrom.bind {Q' : β → σ → Prop} {f : α → Proc σ β} {b₂ n₂ : Nat}
    (hf : ∀ a s, Q a s → SpendsFrom c R Q' s b₂ n₂ (f a)) :
    ∀ {p : Proc σ α} {s : σ} {b₁ n₁ : Nat}, SpendsFrom c R Q s b₁ n₁ p →
      SpendsFrom c R Q' s (b₁ + b₂) (n₁ + n₂) (p >>= f)
  | .done a, s, _, _, h => by
    cases h with
    | done post => exact (hf a s post).mono (fun _ _ h => h) (by omega) (by omega)
  | .halt a, _, _, _, _ => .halt a
  | .read k, s, _, _, h => by
    cases h with
    | read next => exact .read (SpendsFrom.bind hf (p := k s) next)
  | .write _ p, _, _, _, h => by
    cases h with
    | write spends next =>
      refine .write ?_ (SpendsFrom.bind hf (p := p) next)
      omega
  | .sleep _ p, _, _, _, h => by
    cases h with
    | sleep sleeps next =>
      refine .sleep ?_ fun s' hs' => SpendsFrom.bind hf (p := p) (next s' hs')
      omega
  | .sleepUntil _ p, _, _, _, h => by
    cases h with
    | sleepUntil sleeps next =>
      refine .sleepUntil ?_ fun s' hs' => SpendsFrom.bind hf (p := p) (next s' hs')
      omega
  | .await _ _, _, _, _, h => by cases h
  | .fork _ k, _, _, _, h => by
    cases h with
    | fork children spends sleeps next =>
      exact .fork children (by omega) (by omega) fun rs hlen hP s' =>
        SpendsFrom.bind hf (p := k rs) (next rs hlen hP s')

end Build

/-! ### Scheduling -/

section Poll

/-- A parked child that shares the state spends as it does from any state: it waits only on
sleeps that end at an instant, and its result does not depend on the state. -/
lemma SpendsFrom.anywhere {P : β → Prop} :
    ∀ {p : Proc σ β} {s : σ} {b n : Nat}, Parked p →
      SpendsFrom c (fun _ _ => True) (fun r _ => P r) s b n p →
      ∀ s', SpendsFrom c (fun _ _ => True) (fun r _ => P r) s' b n p
  | .done _, _, _, _, _, h, _ => by
    cases h with
    | done post => exact .done post
  | .halt a, _, _, _, _, _, _ => .halt a
  | .sleepUntil _ _, _, _, _, _, h, _ => by
    cases h with
    | sleepUntil sleeps next => exact .sleepUntil sleeps next
  | .await _ _, _, _, _, _, h, _ => by cases h
  | .fork _ _, _, _, _, _, h, _ => by
    cases h with
    | fork children spends sleeps next => exact .fork children spends sleeps next

/-- Children that have all finished end in `P`, one result each. -/
lemma SpendAll.results {P : β → Prop} (s : σ) :
    ∀ {cs : Procs σ β} {len b n : Nat} {rs : List β}, SpendAll c P len b n cs →
      cs.results = some rs → rs.length = len ∧ ∀ r ∈ rs, P r
  | .nil, _, _, _, _, h, hrs => by
    cases h
    simp only [Procs.results, Option.some.injEq] at hrs
    subst hrs
    exact ⟨rfl, by simp⟩
  | .cons p ps, _, _, _, rs, h, hrs => by
    cases h with
    | cons head tail =>
      cases p with
      | done a =>
        simp only [Procs.results, Option.map_eq_map, Option.map_eq_some_iff] at hrs
        obtain ⟨rs', hrs', rfl⟩ := hrs
        obtain ⟨hlen, hP⟩ := SpendAll.results s tail hrs'
        have ha : P a := by
          cases head s with
          | done post => exact post
        refine ⟨by simp [hlen], fun r hr => ?_⟩
        rcases List.mem_cons.1 hr with rfl | hr
        · exact ha
        · exact hP r hr
      | _ => simp [Procs.results] at hrs

mutual
/-- A poll spends from the budget and uses no potential; from a parked program, a poll that
moves anything uses some.

**Proof sketch.** Recursion on the program, as the poll itself: a read or a write goes on as
its rule says, a sleep that starts becomes a sleep under way, one that ends gives up its unit,
and a fork polls its children (`SpendAll.pollAll`) and, once all have finished, goes on with
their results.  From a parked program only a sleep that ends or a child that moves can move
anything, and both use potential. -/
theorem SpendsFrom.poll (now : Nat) :
    ∀ {R : σ → σ → Prop} {α : Type} {Q : α → σ → Prop} {p : Proc σ α} {s : σ} {b n : Nat},
      (∀ s, R s s) → SpendsFrom c R Q s b n p →
      ∃ b' n', SpendsFrom c R Q (Proc.poll now p s).2.1 b' n' (Proc.poll now p s).1 ∧
        c (Proc.poll now p s).2.1 + b' ≤ c s + b ∧ n' ≤ n ∧
        (Parked p → (Proc.poll now p s).2.2 = true → n' < n)
  | _, _, _, .done a, s, b, n, _, h => ⟨b, n, h, Nat.le_refl _, Nat.le_refl _, fun _ hm => by
      simp [Proc.poll] at hm⟩
  | _, _, _, .halt a, s, b, n, _, _ => ⟨b, n, .halt a, Nat.le_refl _, Nat.le_refl _, fun _ hm => by
      simp [Proc.poll] at hm⟩
  | _, _, _, .read k, s, _, _, hR, h => by
    cases h with
    | read next =>
      obtain ⟨b', n', h', hc, hn, -⟩ := SpendsFrom.poll now hR next
      rcases hpoll : Proc.poll now (k s) s with ⟨p', s', _⟩
      simp only [hpoll] at h' hc
      simp only [Proc.poll, hpoll]
      exact ⟨b', n', h', hc, hn, fun hp => hp.elim⟩
  | _, _, _, .write s' p, s, _, _, hR, h => by
    cases h with
    | write spends next =>
      obtain ⟨b', n', h', hc, hn, -⟩ := SpendsFrom.poll now hR next
      rcases hpoll : Proc.poll now p s' with ⟨p', s'', _⟩
      simp only [hpoll] at h' hc
      simp only [Proc.poll, hpoll]
      exact ⟨b', n', h', by omega, hn, fun hp => hp.elim⟩
  | _, _, _, .sleep ms p, s, b, _, _, h => by
    cases h with
    | @sleep _ _ _ _ _ _ m _ _ sleeps next =>
      exact ⟨b, m + 1, .sleepUntil (Nat.le_refl _) next, Nat.le_refl _, by omega,
        fun hp => hp.elim⟩
  | _, _, _, .sleepUntil t p, s, b, n, hR, h => by
    cases h with
    | @sleepUntil _ _ _ _ _ _ m _ _ sleeps next =>
      simp only [Proc.poll]
      split
      · -- the sleep is over: it gives up its unit and the program goes on
        obtain ⟨b', n', h', hc, hn, -⟩ := SpendsFrom.poll now hR (next s (hR s))
        rcases hpoll : Proc.poll now p s with ⟨p', s', _⟩
        simp only [hpoll] at h' hc
        exact ⟨b', n', h', hc, by omega, fun _ _ => by omega⟩
      · exact ⟨b, n, .sleepUntil sleeps next, Nat.le_refl _, Nat.le_refl _, fun _ hm => by
          simp at hm⟩
  | _, _, _, .await _ _, _, _, _, _, h => by cases h
  | _, _, _, .fork cs k, s, b, n, hR, h => by
    cases h with
    | @fork _ _ _ _ _ _ _ P len b₁ n₁ b₂ n₂ _ _ children spends sleeps next =>
      have hall := SpendAll.pollAll now (s := s) children
      rcases hpoll : Proc.pollAll now cs s with ⟨cs', s1, moved⟩
      simp only [hpoll] at hall
      simp only [Proc.poll, hpoll]
      rcases hall with ⟨a, hhalt, hc, hpos⟩ | ⟨hhalt, b₁', n₁', children', hc, hn, hdec⟩
      · -- a child aborted, and so does the fork
        simp only [hhalt]
        exact ⟨0, 0, .halt a, by omega, Nat.zero_le _, fun hp _ => by
          have := hpos hp.1 hp.2.1
          omega⟩
      simp only [hhalt]
      -- the children moved, unless they were left as they were
      have hmoved : Parked (.fork cs k) → cs'.results ≠ none → moved = true := by
        rintro ⟨hpa, hph, hpr⟩ hres
        cases hm : moved
        · have hsame := pollAll_of_parked now cs s hpa hph (by rw [hpoll]; exact hm)
          rw [hpoll] at hsame
          simp only [Prod.mk.injEq] at hsame
          rw [hsame.1] at hres
          exact absurd hpr hres
        · rfl
      split
      · -- every child has finished: the fork goes on with their results
        next rs hrs =>
        obtain ⟨hlen, hP⟩ := SpendAll.results s1 children' hrs
        obtain ⟨b', n', h', hc', hn', -⟩ := SpendsFrom.poll now hR (next rs hlen hP s1)
        rcases hpoll' : Proc.poll now (k rs) s1 with ⟨p', s2, _⟩
        simp only [hpoll'] at h' hc'
        dsimp only
        refine ⟨b', n', h', by omega, by omega, fun hp _ => ?_⟩
        have := hdec hp.1 hp.2.1 (hmoved hp (by rw [hrs]; simp))
        omega
      · dsimp only
        exact ⟨b₁' + b₂, n₁' + n₂, .fork children' (Nat.le_refl _) (Nat.le_refl _) next,
          by omega, by omega, fun hp hm => by
            have := hdec hp.1 hp.2.1 hm
            omega⟩

/-- A pass over children spends from their budgets and uses no potential; over parked
children, none aborted, a pass that moves anything uses some.  When a child aborts, the pass
ends there, and the children, if parked, had potential left. -/
theorem SpendAll.pollAll (now : Nat) :
    ∀ {β : Type} {P : β → Prop} {cs : Procs σ β} {s : σ} {len b n : Nat},
      SpendAll c P len b n cs →
      (∃ a, (Proc.pollAll now cs s).1.firstHalt = some a ∧ c (Proc.pollAll now cs s).2.1 ≤ c s + b ∧
        (ParkedAll cs → cs.firstHalt = none → 0 < n)) ∨
      ((Proc.pollAll now cs s).1.firstHalt = none ∧ ∃ b' n',
        SpendAll c P len b' n' (Proc.pollAll now cs s).1 ∧
        c (Proc.pollAll now cs s).2.1 + b' ≤ c s + b ∧ n' ≤ n ∧
        (ParkedAll cs → cs.firstHalt = none → (Proc.pollAll now cs s).2.2 = true → n' < n))
  | _, _, .nil, s, _, _, _, h => by
    cases h
    exact .inr ⟨rfl, 0, 0, .nil, Nat.le_refl _, Nat.le_refl _, fun _ _ hm => by
      simp [Proc.pollAll] at hm⟩
  | _, P, .cons p ps, s, _, _, _, h => by
    cases h with
    | @cons _ _ len b₁ n₁ b₂ n₂ _ _ head tail =>
      obtain ⟨b₁', n₁', h₁, hc₁, hn₁, hdec₁⟩ := SpendsFrom.poll now (fun _ => trivial) (head s)
      -- a parked child that was no abort and moved nothing stands as it was
      have hmoves : Parked p → (∀ a, p ≠ .halt a) → (Proc.poll now p s).1 ≠ p →
          (Proc.poll now p s).2.2 = true := by
        intro hp hnot hne
        cases hm : (Proc.poll now p s).2.2
        · have := poll_of_parked now p s hp hm
          rw [this] at hne
          exact absurd rfl hne
        · rfl
      have hfirst : ParkedAll (.cons p ps) → (Procs.cons p ps).firstHalt = none →
          Parked p ∧ (∀ a, p ≠ .halt a) ∧ ParkedAll ps ∧ ps.firstHalt = none := by
        rintro ⟨hp, hps⟩ hh
        have hnot : ∀ a, p ≠ .halt a := by
          rintro a rfl
          simp [Procs.firstHalt] at hh
        refine ⟨hp, hnot, hps, ?_⟩
        cases p with
        | halt a => exact absurd rfl (hnot a)
        | _ => exact hh
      simp only [Proc.pollAll]
      split
      · -- the child aborted: the pass stops there
        next a s1 m heq =>
        simp only [heq] at hc₁
        refine .inl ⟨a, by simp [Procs.firstHalt], by simp only at hc₁ ⊢; omega, fun hpa hh => ?_⟩
        obtain ⟨hp, hnot, -, -⟩ := hfirst hpa hh
        have hm := hmoves hp hnot (by rw [heq]; exact fun h => hnot a h.symm)
        have := hdec₁ hp hm
        omega
      · next p' s1 m1 hne heq =>
        simp only [heq] at h₁ hc₁ hdec₁
        have hp' : Parked p' := by
          have := parked_poll now p s
          rwa [heq] at this
        have hrest := SpendAll.pollAll now (s := s1) tail
        rcases hpoll : Proc.pollAll now ps s1 with ⟨ps', s2, m2⟩
        simp only [hpoll] at hrest
        have hnot' : ∀ a, p' ≠ .halt a := fun a h => hne a h
        rcases hrest with ⟨a, hhalt, hc₂, hpos⟩ | ⟨hhalt, b₂', n₂', tail', hc₂, hn₂, hdec₂⟩
        · refine .inl ⟨a, ?_, by simp only at hc₁ hc₂ ⊢; omega, fun hpa hh => ?_⟩
          · cases p' with
            | halt a' => exact absurd rfl (hnot' a')
            | _ => exact hhalt
          · have := hpos (hfirst hpa hh).2.2.1 (hfirst hpa hh).2.2.2
            omega
        · refine .inr ⟨?_, b₁' + b₂', n₁' + n₂',
            .cons (SpendsFrom.anywhere hp' h₁) tail', by simp only at hc₁ hc₂ ⊢; omega, by omega,
            fun hpa hh hm => ?_⟩
          · cases p' with
            | halt a' => exact absurd rfl (hnot' a')
            | _ => exact hhalt
          · obtain ⟨hp, -, hps, hps'⟩ := hfirst hpa hh
            simp only [Bool.or_eq_true] at hm
            rcases hm with hm | hm
            · have := hdec₁ hp hm
              omega
            · have := hdec₂ hps hps' hm
              omega
end

end Poll

/-! ### Runs end -/

section Run

/-- A program that has ended has finished or aborted. -/
lemma ended_cases {p : Proc σ α} (h : Ended p) : (∃ a, p = .done a) ∨ ∃ a, p = .halt a := by
  cases p with
  | done a => exact .inl ⟨a, rfl⟩
  | halt a => exact .inr ⟨a, rfl⟩
  | _ => exact h.elim

/-! One step of a run: the poll, then the end, the rest of the run at the same instant when
something moved, or after the clock jumped to the next wake-up when nothing did. -/

lemma runFrom_succ_of_done {p : Proc σ α} {s s' : σ} {now fuel : Nat} {a : α} {m : Bool}
    (hpoll : poll now p s = (.done a, s', m)) : runFrom (fuel + 1) now p s = .finished a s' now := by
  rw [runFrom, hpoll]

lemma runFrom_succ_of_halt {p : Proc σ α} {s s' : σ} {now fuel : Nat} {a : Abort} {m : Bool}
    (hpoll : poll now p s = (.halt a, s', m)) : runFrom (fuel + 1) now p s = .halted a := by
  rw [runFrom, hpoll]

lemma runFrom_succ_of_moved {p p' : Proc σ α} {s s' : σ} {now fuel : Nat}
    (hpoll : poll now p s = (p', s', true)) (hp' : ¬ Ended p') :
    runFrom (fuel + 1) now p s = runFrom fuel now p' s' := by
  rw [runFrom, hpoll]
  cases p' <;> first | exact absurd trivial hp' | rfl

lemma runFrom_succ_of_stuck {p p' : Proc σ α} {s s' : σ} {now fuel t : Nat}
    (hpoll : poll now p s = (p', s', false)) (hp' : ¬ Ended p') (hwake : nextWake p' = some t) :
    runFrom (fuel + 1) now p s = runFrom fuel (max t now) p' s' := by
  rw [runFrom, hpoll]
  cases p' <;> first | exact absurd trivial hp' | simp only [hwake]

/-- A poll that ends a program that spends within bounds ends the run within them. -/
lemma SpendsFrom.runFrom_of_ended {p p' : Proc σ α} {s s' : σ} {now b b' n' : Nat} {m : Bool}
    (hpoll : Proc.poll now p s = (p', s', m)) (h : SpendsFrom c R Q s' b' n' p')
    (hc : c s' + b' ≤ c s + b) (hend : Ended p') : (Proc.runFrom 1 now p s).Within c Q s b := by
  obtain ⟨a, rfl⟩ | ⟨a, rfl⟩ := ended_cases hend
  · cases h with
    | done post =>
      rw [runFrom_succ_of_done hpoll]
      exact ⟨post, by omega⟩
  · rw [runFrom_succ_of_halt hpoll]
    trivial

mutual
/-- A parked program that spends within bounds and has not ended sleeps until some instant. -/
theorem SpendsFrom.nextWake_isSome :
    ∀ {R : σ → σ → Prop} {α : Type} {Q : α → σ → Prop} {p : Proc σ α} {s : σ} {b n : Nat},
      SpendsFrom c R Q s b n p → Parked p → ¬ Ended p → ∃ t, nextWake p = some t
  | _, _, _, .done _, _, _, _, _, _, hend => absurd trivial hend
  | _, _, _, .halt _, _, _, _, _, _, hend => absurd trivial hend
  | _, _, _, .sleepUntil t _, _, _, _, _, _, _ => ⟨t, rfl⟩
  | _, _, _, .await _ _, _, _, _, h, _, _ => by cases h
  | _, _, _, .fork _ _, s, _, _, h, hp, _ => by
    cases h with
    | fork children _ _ _ => exact SpendAll.nextWakeAll_isSome s children hp.1 hp.2.1 hp.2.2

/-- Parked children, none aborted and not all finished, have one asleep. -/
theorem SpendAll.nextWakeAll_isSome (s : σ) :
    ∀ {β : Type} {P : β → Prop} {cs : Procs σ β} {len b n : Nat}, SpendAll c P len b n cs →
      ParkedAll cs → cs.firstHalt = none → cs.results = none → ∃ t, nextWakeAll cs = some t
  | _, _, .nil, _, _, _, _, _, _, hres => by simp [Procs.results] at hres
  | _, _, .cons p ps, _, _, _, h, hall, hhalt, hres => by
    cases h with
    | cons head tail =>
      have hps : ps.firstHalt = none := by
        cases p with
        | halt a => simp [Procs.firstHalt] at hhalt
        | _ => exact hhalt
      by_cases hp : Ended p
      · -- a finished child: another one has not finished
        obtain ⟨a, rfl⟩ | ⟨a, rfl⟩ := ended_cases hp
        · have hres' : ps.results = none := by
            simpa [Procs.results] using hres
          obtain ⟨t, ht⟩ := SpendAll.nextWakeAll_isSome s tail hall.2 hps hres'
          exact ⟨t, by simp [nextWakeAll, nextWake, ht]⟩
        · simp [Procs.firstHalt] at hhalt
      · obtain ⟨t, ht⟩ := SpendsFrom.nextWake_isSome (head s) hall.1 hp
        cases hw : nextWakeAll ps with
        | none => exact ⟨t, by simp [nextWakeAll, ht, hw]⟩
        | some t' => exact ⟨min t t', by simp [nextWakeAll, ht, hw]⟩
end

mutual
/-- A parked program polled at or after its next wake-up moves. -/
theorem poll_moved_of_wake {α : Type} (now : Nat) : ∀ (p : Proc σ α) (s : σ) {t : Nat},
    Parked p → nextWake p = some t → t ≤ now → (poll now p s).2.2 = true
  | .done _, _, _, _, hw, _ => by simp [nextWake] at hw
  | .halt _, _, _, _, hw, _ => by simp [nextWake] at hw
  | .read _, _, _, hp, _, _ => hp.elim
  | .write _ _, _, _, hp, _, _ => hp.elim
  | .sleep _ _, _, _, hp, _, _ => hp.elim
  | .sleepUntil _ _, _, _, _, hw, ht => by
    simp only [nextWake, Option.some.injEq] at hw
    subst hw
    simp only [poll, if_pos ht]
  | .await _ _, _, _, _, hw, _ => by simp [nextWake] at hw
  | .fork cs k, s, _, hp, hw, ht => by
    have hm := pollAll_moved_of_wake now cs s hp.1 hp.2.1 hw ht
    rcases hpoll : pollAll now cs s with ⟨cs', s', moved⟩
    rw [hpoll] at hm
    simp only [poll, hpoll]
    split
    · rfl
    · split
      · rfl
      · exact hm

/-- Parked children, none aborted, polled at or after their next wake-up move. -/
theorem pollAll_moved_of_wake {β : Type} (now : Nat) : ∀ (cs : Procs σ β) (s : σ) {t : Nat},
    ParkedAll cs → cs.firstHalt = none → nextWakeAll cs = some t → t ≤ now →
      (pollAll now cs s).2.2 = true
  | .nil, _, _, _, _, hw, _ => by simp [nextWakeAll] at hw
  | .cons p ps, s, t, hall, hhalt, hw, ht => by
    have hps : ps.firstHalt = none := by
      cases p with
      | halt a => simp [Procs.firstHalt] at hhalt
      | _ => exact hhalt
    -- the child wakes by now, or a later one does
    have hwake : (∃ a, nextWake p = some a ∧ a ≤ now) ∨
        ∃ a, nextWakeAll ps = some a ∧ a ≤ now := by
      cases hp : nextWake p with
      | none => exact .inr ⟨t, by simpa [nextWakeAll, hp] using hw, ht⟩
      | some a =>
        cases hq : nextWakeAll ps with
        | none =>
          simp only [nextWakeAll, hp, hq, Option.some.injEq] at hw
          exact .inl ⟨a, rfl, by omega⟩
        | some a' =>
          simp only [nextWakeAll, hp, hq, Option.some.injEq] at hw
          rcases Nat.le_total a a' with h | h
          · exact .inl ⟨a, rfl, by rw [Nat.min_eq_left h] at hw; omega⟩
          · exact .inr ⟨a', rfl, by rw [Nat.min_eq_right h] at hw; omega⟩
    simp only [pollAll]
    split
    · rfl
    · next p' s1 m1 _ heq =>
      simp only [Bool.or_eq_true]
      rcases hwake with ⟨a, ha, hle⟩ | ⟨a, ha, hle⟩
      · have hm := poll_moved_of_wake now p s hall.1 ha hle
        rw [heq] at hm
        exact .inl hm
      · exact .inr (pollAll_moved_of_wake now ps s1 hall.2 hps ha hle)
end

variable (hR : ∀ s, R s s)
include hR

/-- From a parked program that spends within bounds, a run ends within the budget.

**Proof sketch.** Strong induction on the potential.  A poll that ends the program ends the
run; one that moves it uses potential; one that moves nothing leaves it as it was, and the
clock jumps to its next wake-up, where the next poll moves it. -/
theorem SpendsFrom.runFrom_of_parked (n : Nat) :
    ∀ {p : Proc σ α} {s : σ} {b : Nat} (now : Nat), SpendsFrom c R Q s b n p → Parked p →
      ∃ fuel, (Proc.runFrom fuel now p s).Within c Q s b := by
  induction n using Nat.strongRecOn with
  | ind n ih =>
  intro p s b now h hp
  -- a run from a poll that moved the program, using potential unless it ended
  have hmoved : ∀ (now' : Nat) (p' : Proc σ α) (s' : σ) (b' n' : Nat),
      Proc.poll now' p s = (p', s', true) → SpendsFrom c R Q s' b' n' p' → c s' + b' ≤ c s + b →
      (¬ Ended p' → n' < n) → ∃ fuel, (Proc.runFrom fuel now' p s).Within c Q s b := by
    intro now' p' s' b' n' hpoll h' hc hdec
    by_cases hend : Ended p'
    · exact ⟨1, h'.runFrom_of_ended hpoll hc hend⟩
    · have hp' : Parked p' := by
        have := parked_poll now' p s
        rwa [hpoll] at this
      obtain ⟨fuel, hrun⟩ := ih n' (hdec hend) now' h' hp'
      exact ⟨fuel + 1, by rw [runFrom_succ_of_moved hpoll hend]; exact Ending.Within.mono hc hrun⟩
  obtain ⟨b', n', h', hc, -, hdec⟩ := SpendsFrom.poll now hR h
  rcases hpoll : Proc.poll now p s with ⟨p', s', m⟩
  simp only [hpoll] at h' hc hdec
  cases m with
  | true => exact hmoved now p' s' b' n' hpoll h' hc fun _ => hdec hp rfl
  | false =>
    -- nothing moved: the program stands as it was
    have hsame := poll_of_parked now p s hp (by rw [hpoll])
    simp only [hpoll, Prod.mk.injEq] at hsame
    obtain ⟨rfl, rfl, -⟩ := hsame
    by_cases hend : Ended p'
    · exact ⟨1, h.runFrom_of_ended hpoll (Nat.le_refl _) hend⟩
    -- the clock jumps to the next wake-up, where the next poll moves the program
    obtain ⟨t, ht⟩ := h.nextWake_isSome hp hend
    have hmove := poll_moved_of_wake (max t now) p' s' hp ht (Nat.le_max_left t now)
    obtain ⟨b'', n'', h'', hc'', -, hdec''⟩ := SpendsFrom.poll (max t now) hR h
    rcases hpoll' : Proc.poll (max t now) p' s' with ⟨p'', s'', m'⟩
    simp only [hpoll'] at h'' hc'' hdec'' hmove
    cases hmove
    obtain ⟨fuel, hrun⟩ :=
      hmoved (max t now) p'' s'' b'' n'' hpoll' h'' hc'' fun _ => hdec'' hp rfl
    exact ⟨fuel + 1, by rw [runFrom_succ_of_stuck hpoll hend ht]; exact hrun⟩

/-- Run alone, a program that spends within bounds ends: it finishes within the budget, or
aborts. -/
theorem SpendsFrom.runFrom {p : Proc σ α} {s : σ} {b n : Nat} (now : Nat)
    (h : SpendsFrom c R Q s b n p) : ∃ fuel, (Proc.runFrom fuel now p s).Within c Q s b := by
  obtain ⟨b', n', h', hc, -, -⟩ := SpendsFrom.poll now hR h
  have hp' := parked_poll now p s
  rcases hpoll : Proc.poll now p s with ⟨p', s', m⟩
  simp only [hpoll] at h' hc hp'
  by_cases hend : Ended p'
  · exact ⟨1, h'.runFrom_of_ended hpoll hc hend⟩
  cases m with
  | true =>
    obtain ⟨fuel, hrun⟩ := h'.runFrom_of_parked hR n' now hp'
    exact ⟨fuel + 1, by rw [runFrom_succ_of_moved hpoll hend]; exact Ending.Within.mono hc hrun⟩
  | false =>
    obtain ⟨t, ht⟩ := h'.nextWake_isSome hp' hend
    obtain ⟨fuel, hrun⟩ := h'.runFrom_of_parked hR n' (max t now) hp'
    exact ⟨fuel + 1, by rw [runFrom_succ_of_stuck hpoll hend ht]; exact Ending.Within.mono hc hrun⟩

end Run

end Proc

end CorpusBench
