import Mathlib
import CorpusBench.Proofs.Concurrent.Join

/-!
# Rely and guarantee where the scheduler may switch

The scheduler switches from one program to another only where a program sleeps, waits, forks
or ends; the reads and writes in between, a *stretch*, run with no other program running.  Here
every program promises two things of each of its stretches: the state where it stops satisfies
`I`, and it is reached by `R` from the state where the stretch started.  In return it relies on
the others for as much: when it goes on after a switch, the state satisfies `I` and is reached
by `R` from the state where it stopped, since the stretches of the others, one after another,
compose.  `R` is a preorder.

What a program may keep knowing across a switch is what `R` keeps: a fact read in a stretch and
preserved by `R` still holds when the program wakes.  A program also carries a postcondition
`Q a s₀ s` on its result, the start `s₀` of the stretch it ends in and the state `s` it ends in,
so that what follows it in a sequence may use what it learned.

## Main definitions

* `Proc.Settles` — a point where the scheduler may switch.
* `Proc.StepsFrom` — a program in the middle of a stretch keeps its promises;
  `Proc.StepsAll` — the children of a fork do.
* `Proc.Steps` — a program keeps its promises from every state satisfying `I`.
* `Proc.Relied` — programs side by side in a state satisfying `I`, each relying on
  the others since it last stopped.

## Main results

* `Proc.StepsFrom.poll` — a poll stops at a settled point and leaves a program that
  keeps its promises from there.
* `Proc.Relied.poll` — polling any one of programs side by side keeps them relied.
* `Proc.StepsFrom.bind`, `Proc.StepsFrom.joinAll`,
  `Proc.StepsFrom.of_steps` — the rules by which a program is shown to keep its
  promises, and `Proc.Steps.bind`, `Proc.Steps.joinAll` for programs
  that carry nothing across their switches.
-/

namespace CorpusBench

namespace Proc

variable {σ : Type} (I : σ → Prop) (R : σ → σ → Prop)

/-- A point where the scheduler may switch, of a stretch that started in `s₀`: the state
satisfies `I` and is reached from `s₀` by `R`. -/
def Settles (s₀ s : σ) : Prop := I s ∧ R s₀ s

mutual
/-- In a stretch that started in `s₀` and has reached `s`, the program stops only at settled
points, and ends in its postcondition `Q`; after a switch it goes on from any state satisfying
`I` that the others reached by `R` from where it stopped.  A fork is a point where the scheduler
may switch: its children start there. -/
inductive StepsFrom : {α : Type} → (α → σ → σ → Prop) → σ → σ → Proc σ α → Prop
  | done {α : Type} {Q : α → σ → σ → Prop} {s₀ s : σ} (a : α) (post : Q a s₀ s) :
      StepsFrom Q s₀ s (.done a)
  | halt {α : Type} {Q : α → σ → σ → Prop} {s₀ s : σ} (h : Abort) (settles : Settles I R s₀ s) :
      StepsFrom Q s₀ s (.halt h)
  | read {α : Type} {Q : α → σ → σ → Prop} {s₀ s : σ} {k : σ → Proc σ α}
      (next : StepsFrom Q s₀ s (k s)) : StepsFrom Q s₀ s (.read k)
  | write {α : Type} {Q : α → σ → σ → Prop} {s₀ s s' : σ} {p : Proc σ α}
      (next : StepsFrom Q s₀ s' p) : StepsFrom Q s₀ s (.write s' p)
  | sleep {α : Type} {Q : α → σ → σ → Prop} {s₀ s : σ} {ms : Nat} {p : Proc σ α}
      (settles : Settles I R s₀ s) (next : ∀ s', I s' → R s s' → StepsFrom Q s' s' p) :
      StepsFrom Q s₀ s (.sleep ms p)
  | sleepUntil {α : Type} {Q : α → σ → σ → Prop} {s₀ s : σ} {t : Nat} {p : Proc σ α}
      (settles : Settles I R s₀ s) (next : ∀ s', I s' → R s s' → StepsFrom Q s' s' p) :
      StepsFrom Q s₀ s (.sleepUntil t p)
  | await {α : Type} {Q : α → σ → σ → Prop} {s₀ s : σ} {r : σ → Bool} {p : Proc σ α}
      (settles : Settles I R s₀ s)
      (next : ∀ s', r s' = true → I s' → R s s' → StepsFrom Q s' s' p) :
      StepsFrom Q s₀ s (.await r p)
  | fork {α β : Type} {Q : α → σ → σ → Prop} {s₀ s : σ} {cs : Procs σ β}
      {k : List β → Proc σ α} (settles : Settles I R s₀ s) (children : StepsAll s cs)
      (next : ∀ rs s', I s' → R s s' → StepsFrom Q s' s' (k rs)) :
      StepsFrom Q s₀ s (.fork cs k)

/-- Each child of a fork goes on from any state satisfying `I` reached by `R` from `t`, and
stops only at settled points. -/
inductive StepsAll : σ → {β : Type} → Procs σ β → Prop
  | nil {t : σ} {β : Type} : StepsAll t (.nil : Procs σ β)
  | cons {t : σ} {β : Type} {p : Proc σ β} {ps : Procs σ β}
      (head : ∀ s, I s → R t s → StepsFrom (fun _ => Settles I R) s s p) (tail : StepsAll t ps) :
      StepsAll t (.cons p ps)
end

/-- From every state satisfying `I` the program keeps its promises, and ends at a settled
point. -/
def Steps {α : Type} (p : Proc σ α) : Prop := ∀ s, I s → StepsFrom I R (fun _ => Settles I R) s s p

variable {I R} {α β : Type}

/-! ### Building programs that keep their promises -/

section Build

variable {Q : β → σ → σ → Prop}

/-- Sequencing: the second part starts, in the stretch where the first part ends, from its
postcondition.

**Proof sketch.** Recursion on the first part, which `bind` rebuilds with the second part
grafted at every leaf. -/
lemma StepsFrom.bind {P : α → σ → σ → Prop} {f : α → Proc σ β}
    (hf : ∀ a s₀ s, P a s₀ s → StepsFrom I R Q s₀ s (f a)) :
    ∀ (p : Proc σ α) (s₀ s : σ), StepsFrom I R P s₀ s p → StepsFrom I R Q s₀ s (p >>= f)
  | .done a, s₀, s, h => by
    cases h with
    | done _ post => exact hf a s₀ s post
  | .halt e, _, _, h => by
    cases h with
    | halt _ settles => exact .halt e settles
  | .read k, s₀, s, h => by
    cases h with
    | read hk => exact .read (StepsFrom.bind hf (k s) s₀ s hk)
  | .write s' p, s₀, _, h => by
    cases h with
    | write hp => exact .write (StepsFrom.bind hf p s₀ s' hp)
  | .sleep _ p, _, _, h => by
    cases h with
    | sleep settles next =>
      exact .sleep settles fun s' hs' hR => StepsFrom.bind hf p s' s' (next s' hs' hR)
  | .sleepUntil _ p, _, _, h => by
    cases h with
    | sleepUntil settles next =>
      exact .sleepUntil settles fun s' hs' hR => StepsFrom.bind hf p s' s' (next s' hs' hR)
  | .await _ p, _, _, h => by
    cases h with
    | await settles next =>
      exact .await settles fun s' hr hs' hR => StepsFrom.bind hf p s' s' (next s' hr hs' hR)
  | .fork cs k, _, _, h => by
    cases h with
    | fork settles children next =>
      exact .fork settles children fun rs s' hs' hR =>
        StepsFrom.bind hf (k rs) s' s' (next rs s' hs' hR)

/-- A weaker postcondition. -/
lemma StepsFrom.mono {P : β → σ → σ → Prop} (hPQ : ∀ a s₀ s, P a s₀ s → Q a s₀ s) :
    ∀ (p : Proc σ β) (s₀ s : σ), StepsFrom I R P s₀ s p → StepsFrom I R Q s₀ s p
  | .done a, _, _, h => by
    cases h with
    | done _ post => exact .done a (hPQ _ _ _ post)
  | .halt e, _, _, h => by
    cases h with
    | halt _ settles => exact .halt e settles
  | .read k, s₀, s, h => by
    cases h with
    | read hk => exact .read (StepsFrom.mono hPQ (k s) s₀ s hk)
  | .write s' p, s₀, _, h => by
    cases h with
    | write hp => exact .write (StepsFrom.mono hPQ p s₀ s' hp)
  | .sleep _ p, _, _, h => by
    cases h with
    | sleep settles next =>
      exact .sleep settles fun s' hs' hR => StepsFrom.mono hPQ p s' s' (next s' hs' hR)
  | .sleepUntil _ p, _, _, h => by
    cases h with
    | sleepUntil settles next =>
      exact .sleepUntil settles fun s' hs' hR => StepsFrom.mono hPQ p s' s' (next s' hs' hR)
  | .await _ p, _, _, h => by
    cases h with
    | await settles next =>
      exact .await settles fun s' hr hs' hR => StepsFrom.mono hPQ p s' s' (next s' hr hs' hR)
  | .fork cs k, _, _, h => by
    cases h with
    | fork settles children next =>
      exact .fork settles children fun rs s' hs' hR =>
        StepsFrom.mono hPQ (k rs) s' s' (next rs s' hs' hR)

lemma StepsFrom.pure {s₀ s : σ} (b : β) (h : Q b s₀ s) : StepsFrom I R Q s₀ s (pure b) :=
  .done b h

lemma StepsFrom.gets_bind {f : σ → α} {k : α → Proc σ β} {s₀ s : σ}
    (h : StepsFrom I R Q s₀ s (k (f s))) : StepsFrom I R Q s₀ s (Proc.gets f >>= k) :=
  .read h

lemma StepsFrom.modifyGet_bind {f : σ → α × σ} {k : α → Proc σ β} {s₀ s : σ}
    (h : StepsFrom I R Q s₀ (f s).2 (k (f s).1)) : StepsFrom I R Q s₀ s (Proc.modifyGet f >>= k) :=
  .read (.write h)

/-- A part that ends within one poll runs with no switch: what follows it goes on in the same
stretch, from wherever it ends. -/
lemma StepsFrom.instant_bind {s₀ : σ} {f : α → Proc σ β} :
    ∀ {p : Proc σ α} {s : σ}, Instant p s →
      wp p (fun a s' => StepsFrom I R Q s₀ s' (f a)) s → StepsFrom I R Q s₀ s (p >>= f)
  | .done _, _, _, h => h
  | .read k, s, hi, h => .read (StepsFrom.instant_bind (p := k s) hi h)
  | .write _ n, _, hi, h => .write (StepsFrom.instant_bind (p := n) hi h)
  | .halt _, _, hi, _ => hi.elim
  | .sleep _ _, _, hi, _ => hi.elim
  | .sleepUntil _ _, _, hi, _ => hi.elim
  | .await _ _, _, hi, _ => hi.elim
  | .fork _ _, _, hi, _ => hi.elim

/-- A sleep at a settled point: what follows goes on from any state the others leave. -/
lemma StepsFrom.pause {s₀ s : σ} (ms : Nat) {Q : Unit → σ → σ → Prop}
    (settles : Settles I R s₀ s) (next : ∀ s', I s' → R s s' → Q () s' s') :
    StepsFrom I R Q s₀ s (Proc.pause ms) :=
  .sleep settles fun s' hs' hR => .done () (next s' hs' hR)

lemma StepsFrom.waitFor {s₀ s : σ} (r : σ → Bool) {Q : Unit → σ → σ → Prop}
    (settles : Settles I R s₀ s) (next : ∀ s', r s' = true → I s' → R s s' → Q () s' s') :
    StepsFrom I R Q s₀ s (Proc.waitFor r) :=
  .await settles fun s' hr hs' hR => .done () (next s' hr hs' hR)

lemma StepsFrom.abort {s₀ s : σ} (e : Abort) (settles : Settles I R s₀ s) :
    StepsFrom I R Q s₀ s (Proc.abort e) :=
  .halt e settles

/-- Programs side by side, each keeping its promises, started at a settled point. -/
lemma StepsFrom.joinAll {s₀ s : σ} {ps : List (Proc σ α)} {Q : List α → σ → σ → Prop}
    (settles : Settles I R s₀ s) (hps : ∀ p ∈ ps, Steps I R p)
    (next : ∀ rs s', I s' → R s s' → Q rs s' s') : StepsFrom I R Q s₀ s (Proc.joinAll ps) := by
  have hall : ∀ (qs : List (Proc σ α)), (∀ p ∈ qs, Steps I R p) →
      StepsAll I R s (Procs.ofList qs) := by
    intro qs
    induction qs with
    | nil => exact fun _ => .nil
    | cons q qs ih =>
      intro hqs
      exact .cons (fun s' hs' _ => hqs q (by simp) s' hs')
        (ih fun p hp => hqs p (List.mem_cons_of_mem _ hp))
  exact .fork settles (hall ps hps) fun rs s' hs' hR => .done rs (next rs s' hs' hR)

end Build

variable [IsPreorder σ R]

/-! ### Settled points -/

lemma Settles.refl {s : σ} (hs : I s) : Settles I R s s := ⟨hs, refl_of R s⟩

/-- A settled point of a stretch that started at a settled point of an earlier one is settled
for the earlier one too. -/
lemma Settles.trans {s₀ s₁ s : σ} (h₀ : Settles I R s₀ s₁) (h₁ : Settles I R s₁ s) :
    Settles I R s₀ s :=
  ⟨h₁.1, trans_of R h₀.2 h₁.2⟩

/-- Children that go on from states reached from `t` go on from states reached from a later
point. -/
lemma StepsAll.mono {t t' : σ} (ht : R t t') :
    ∀ {β : Type} {cs : Procs σ β}, StepsAll I R t cs → StepsAll I R t' cs
  | _, _, .nil => .nil
  | _, _, .cons head tail => .cons (fun s hs hR => head s hs (trans_of R ht hR)) (tail.mono ht)

/-- A program that has reached a point where the scheduler may switch goes on, from any later
point, as from the point itself. -/
lemma StepsFrom.later {s s' : σ} {p : Proc σ α} (hsw : ∀ s'', I s'' → R s s'' →
    StepsFrom I R (fun _ => Settles I R) s'' s'' p) (hR : R s s') :
    ∀ s'', I s'' → R s' s'' → StepsFrom I R (fun _ => Settles I R) s'' s'' p :=
  fun s'' hs'' hR' => hsw s'' hs'' (trans_of R hR hR')

/-! ### Scheduling -/

mutual
/-- A poll stops at a settled point of the stretch it runs, and leaves a program that goes on
from any later settled point.

**Proof sketch.** Recursion on the program, as the poll itself: a read or a write goes on at
once; a sleep becomes a sleep until its end and stops; a sleep that is over, or a wait that is
ready, goes on from the state it was polled in, which the others left settled; a fork polls its
children (`StepsAll.pollAll`), and, once all have finished, goes on with their results. -/
theorem StepsFrom.poll (now : Nat) :
    ∀ {α : Type} (p : Proc σ α) (s₀ s : σ), StepsFrom I R (fun _ => Settles I R) s₀ s p →
      Settles I R s₀ (Proc.poll now p s).2.1 ∧ ∀ s', I s' → R (Proc.poll now p s).2.1 s' →
        StepsFrom I R (fun _ => Settles I R) s' s' (Proc.poll now p s).1
  | _, .done a, _, _, h => by
    cases h with
    | done _ post => exact ⟨post, fun s' hs' _ => .done a (Settles.refl hs')⟩
  | _, .halt e, _, _, h => by
    cases h with
    | halt _ settles => exact ⟨settles, fun s' hs' _ => .halt e (Settles.refl hs')⟩
  | _, .read k, s₀, s, h => by
    cases h with
    | read hk =>
      have ih := StepsFrom.poll now (k s) s₀ s hk
      rcases hpoll : Proc.poll now (k s) s with ⟨p', s', _⟩
      simp only [hpoll] at ih
      simp only [Proc.poll, hpoll]
      exact ih
  | _, .write s' p, s₀, _, h => by
    cases h with
    | write hp =>
      have ih := StepsFrom.poll now p s₀ s' hp
      rcases hpoll : Proc.poll now p s' with ⟨p', s'', _⟩
      simp only [hpoll] at ih
      simp only [Proc.poll, hpoll]
      exact ih
  | _, .sleep ms p, _, s, h => by
    cases h with
    | sleep settles next =>
      refine ⟨settles, fun s' hs' hR => .sleepUntil (Settles.refl hs') ?_⟩
      exact StepsFrom.later next hR
  | _, .sleepUntil t p, _, s, h => by
    cases h with
    | sleepUntil settles next =>
      simp only [Proc.poll]
      split
      · -- the sleep is over: the program goes on from the state it was polled in
        have ih := StepsFrom.poll now p s s (next s settles.1 (refl_of R s))
        rcases hpoll : Proc.poll now p s with ⟨p', s', _⟩
        simp only [hpoll] at ih ⊢
        exact ⟨settles.trans ih.1, ih.2⟩
      · exact ⟨settles, fun s' hs' hR =>
          .sleepUntil (Settles.refl hs') (StepsFrom.later next hR)⟩
  | _, .await r p, _, s, h => by
    cases h with
    | await settles next =>
      simp only [Proc.poll]
      split
      · next hr =>
        have ih := StepsFrom.poll now p s s (next s hr settles.1 (refl_of R s))
        rcases hpoll : Proc.poll now p s with ⟨p', s', _⟩
        simp only [hpoll] at ih ⊢
        exact ⟨settles.trans ih.1, ih.2⟩
      · exact ⟨settles, fun s' hs' hR => .await (Settles.refl hs')
          fun s'' hr hs'' hR' => next s'' hr hs'' (trans_of R hR hR')⟩
  | _, .fork cs k, _, s, h => by
    cases h with
    | fork settles children next =>
      have hall := StepsAll.pollAll now cs s s children settles.1 (refl_of R s)
      rcases hpoll : Proc.pollAll now cs s with ⟨cs', s1, _⟩
      simp only [hpoll] at hall
      simp only [Proc.poll, hpoll]
      split
      · -- a child aborted, and so does the fork
        next e _ =>
        exact ⟨settles.trans hall.1, fun s' hs' _ => .halt e (Settles.refl hs')⟩
      · split
        · -- every child has finished: the fork goes on with their results
          next rs _ =>
          have ih := StepsFrom.poll now (k rs) s1 s1 (next rs s1 hall.1.1 hall.1.2)
          rcases hpoll' : Proc.poll now (k rs) s1 with ⟨p', s2, _⟩
          simp only [hpoll'] at ih ⊢
          exact ⟨(settles.trans hall.1).trans ih.1, ih.2⟩
        · exact ⟨settles.trans hall.1, fun s' hs' hR => .fork (Settles.refl hs')
            (hall.2.mono hR) fun rs s'' hs'' hR' =>
              next rs s'' hs'' (trans_of R hall.1.2 (trans_of R hR hR'))⟩

/-- One pass over the children of a fork, started at a state satisfying `I` reached from `t`,
stops at a settled point and leaves children that go on from any later one. -/
theorem StepsAll.pollAll (now : Nat) :
    ∀ {β : Type} (cs : Procs σ β) (t s : σ), StepsAll I R t cs → I s → R t s →
      Settles I R s (Proc.pollAll now cs s).2.1 ∧
        StepsAll I R (Proc.pollAll now cs s).2.1 (Proc.pollAll now cs s).1
  | _, .nil, _, s, _, hs, _ => ⟨Settles.refl hs, .nil⟩
  | _, .cons p ps, t, s, h, hs, hR => by
    cases h with
    | cons head tail =>
      have hp := StepsFrom.poll now p s s (head s hs hR)
      simp only [Proc.pollAll]
      split
      · -- the child aborted: the pass stops there
        next e s1 _ heq =>
        rw [heq] at hp
        exact ⟨hp.1, .cons (fun s' hs' _ => .halt e (Settles.refl hs'))
          (tail.mono (trans_of R hR hp.1.2))⟩
      · next c' s1 _ _ heq =>
        rw [heq] at hp
        have ih := StepsAll.pollAll now ps t s1 tail hp.1.1 (trans_of R hR hp.1.2)
        rcases hpoll : Proc.pollAll now ps s1 with ⟨ps', s2, _⟩
        simp only [hpoll] at ih ⊢
        exact ⟨hp.1.trans ih.1, .cons (StepsFrom.later hp.2 ih.1.2) ih.2⟩
end

/-! ### Programs side by side -/

variable (I R) in
/-- Programs side by side, in a state satisfying `I`: each goes on from any state satisfying
`I` reached by `R` from the point where it last stopped. -/
def Relied (s : σ) (ps : List (Proc σ α)) : Prop :=
  I s ∧ ∀ p ∈ ps, ∃ t, R t s ∧ ∀ s', I s' → R t s' → StepsFrom I R (fun _ => Settles I R) s' s' p

/-- A program that keeps its promises joins the others. -/
lemma Relied.cons {s : σ} {ps : List (Proc σ α)} (h : Relied I R s ps) {p : Proc σ α}
    (hp : Steps I R p) : Relied I R s (p :: ps) := by
  refine ⟨h.1, fun q hq => ?_⟩
  rcases List.mem_cons.1 hq with rfl | hq
  · exact ⟨s, refl_of R s, fun s' hs' _ => hp s' hs'⟩
  · exact h.2 q hq

/-- A change of the state by `R` to a state satisfying `I` keeps the programs relied. -/
lemma Relied.step {s s' : σ} {ps : List (Proc σ α)} (h : Relied I R s ps) (hs' : I s')
    (hR : R s s') : Relied I R s' ps := by
  refine ⟨hs', fun p hp => ?_⟩
  obtain ⟨t, ht, hsw⟩ := h.2 p hp
  exact ⟨t, trans_of R ht hR, hsw⟩

/-- A poll of any one of the programs keeps them relied: the one polled stops at a settled
point, reached by `R` from the state it started in, and the others go on from there. -/
lemma Relied.poll {s : σ} {pre post : List (Proc σ α)} {p : Proc σ α}
    (h : Relied I R s (pre ++ p :: post)) (now : Nat) :
    Relied I R (Proc.poll now p s).2.1 (pre ++ (Proc.poll now p s).1 :: post) := by
  obtain ⟨t, ht, hsw⟩ := h.2 p (by simp)
  have hp := StepsFrom.poll now p s s (hsw s h.1 ht)
  refine ⟨hp.1.1, fun q hq => ?_⟩
  rcases List.mem_append.1 hq with hq | hq
  · exact (h.step hp.1.1 hp.1.2).2 q (by simp [hq])
  rcases List.mem_cons.1 hq with rfl | hq
  · exact ⟨_, refl_of R _, hp.2⟩
  · exact (h.step hp.1.1 hp.1.2).2 q (by simp [hq])

/-- A poll of any one of the programs moves the state by `R`. -/
lemma Relied.rel_poll {s : σ} {pre post : List (Proc σ α)} {p : Proc σ α}
    (h : Relied I R s (pre ++ p :: post)) (now : Nat) : R s (Proc.poll now p s).2.1 := by
  obtain ⟨t, ht, hsw⟩ := h.2 p (by simp)
  exact (StepsFrom.poll now p s s (hsw s h.1 ht)).1.2


/-! ### Programs that keep their promises, from a settled point -/

/-- A stretch that started at a settled point of an earlier one may be counted from the earlier
one: its settled points are settled for it too.

**Proof sketch.** Recursion on the program; only the first stretch changes. -/
lemma StepsFrom.rebase {s₀ s₁ : σ} (h₀ : Settles I R s₀ s₁) :
    ∀ (p : Proc σ α) (s : σ), StepsFrom I R (fun _ => Settles I R) s₁ s p →
      StepsFrom I R (fun _ => Settles I R) s₀ s p
  | .done a, _, h => by
    cases h with
    | done _ post => exact .done a (h₀.trans post)
  | .halt e, _, h => by
    cases h with
    | halt _ settles => exact .halt e (h₀.trans settles)
  | .read k, s, h => by
    cases h with
    | read hk => exact .read (StepsFrom.rebase h₀ (k s) s hk)
  | .write s' p, _, h => by
    cases h with
    | write hp => exact .write (StepsFrom.rebase h₀ p s' hp)
  | .sleep _ _, _, h => by
    cases h with
    | sleep settles next => exact .sleep (h₀.trans settles) next
  | .sleepUntil _ _, _, h => by
    cases h with
    | sleepUntil settles next => exact .sleepUntil (h₀.trans settles) next
  | .await _ _, _, h => by
    cases h with
    | await settles next => exact .await (h₀.trans settles) next
  | .fork _ _, _, h => by
    cases h with
    | fork settles children next => exact .fork (h₀.trans settles) children next

/-- A program that keeps its promises, started in the middle of a stretch at a settled point,
keeps them for that stretch. -/
lemma StepsFrom.of_steps {p : Proc σ α} (hp : Steps I R p) {s₀ s : σ}
    (settles : Settles I R s₀ s) : StepsFrom I R (fun _ => Settles I R) s₀ s p :=
  StepsFrom.rebase settles p s (hp s settles.1)

/-! ### Programs that keep their promises -/

namespace Steps

/-- Sequencing: the second part starts at the settled point where the first part ends. -/
lemma bind {p : Proc σ α} {f : α → Proc σ β} (hp : Steps I R p) (hf : ∀ a, Steps I R (f a)) :
    Steps I R (p >>= f) :=
  fun s hs => StepsFrom.bind (fun a _ _ h => StepsFrom.of_steps (hf a) h) p s s (hp s hs)

lemma pure (a : α) : Steps I R (pure a : Proc σ α) := fun _ hs => .done a (Settles.refl hs)

lemma map {p : Proc σ α} (hp : Steps I R p) (f : α → β) : Steps I R (f <$> p) :=
  hp.bind fun _ => Steps.pure _

lemma gets (f : σ → α) : Steps I R (Proc.gets f) := fun _ hs => .read (.done _ (Settles.refl hs))

omit [IsPreorder σ R] in
/-- A change made in one step keeps the promises when it keeps `I` and is a step of `R`. -/
lemma modifyGet {f : σ → α × σ} (hf : ∀ s, I s → I (f s).2 ∧ R s (f s).2) :
    Steps I R (Proc.modifyGet f) :=
  fun s hs => .read (.write (.done _ (hf s hs)))

lemma waitFor (r : σ → Bool) : Steps I R (Proc.waitFor r) :=
  fun _ hs => StepsFrom.waitFor r (Settles.refl hs) fun _ _ hs' _ => Settles.refl hs'

lemma pause (ms : Nat) : Steps I R (Proc.pause ms : Proc σ Unit) :=
  fun _ hs => StepsFrom.pause ms (Settles.refl hs) fun _ hs' _ => Settles.refl hs'

lemma joinAll {ps : List (Proc σ α)} (hps : ∀ p ∈ ps, Steps I R p) : Steps I R (Proc.joinAll ps) :=
  fun _ hs => StepsFrom.joinAll (Settles.refl hs) hps fun _ _ hs' _ => Settles.refl hs'

end Steps

end Proc

end CorpusBench
