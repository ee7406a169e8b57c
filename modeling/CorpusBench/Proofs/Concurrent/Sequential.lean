import Mathlib.Tactic.Lemma
import CorpusBench.Concurrent.Proc

/-!
# Programs run alone

When nothing runs beside a program, the state each of its steps sees is the state the step
before it left, and a wait on a condition that does not hold never ends.  The weakest
precondition `Proc.wp p Q s` says that every way `p` can finish, run alone from `s`, ends with
a result and a state satisfying `Q`.  It is computed along the program, one rule per kind of
step, and is sound for the scheduler: a run that finishes satisfies the postcondition
(`Proc.wp_runFrom`).

This is partial correctness: an abort, a wait that never ends and a run out of fuel promise
nothing.  A fork promises nothing either; the programs reasoned about this way never fork.
Termination is a property of its own, `Proc.Finishes`: every wait the program comes to is
ready, and it neither aborts nor forks.  A program that finishes has a finished run, with
enough fuel from any instant (`Proc.Finishes.runFrom`), and with the weakest precondition that
run ends in the postcondition (`Proc.Finishes.runFrom_wp`).

## Main definitions

* `Proc.wp` — the weakest precondition of a program run alone.
* `Proc.Reaches` — a run of the program alone, from one state, finishes in another.
* `Ending.state?` — the state a run finished in, if it finished.
* `Proc.Finishes` — a run of the program alone finishes.
* `Proc.Yields` — a run of the program alone finishes with a given result and state.
* `Proc.Total` — a run of the program alone finishes, in a postcondition.

## Main results

* `Proc.wp_bind` — the precondition of a sequence is that of its first part for
  the precondition of the rest.
* `Proc.wp_zoom` — a program over a part of the state, through a lawful lens.
* `Proc.wp_runFrom`, `Proc.wp_reaches` — soundness for the scheduler.
* `Proc.finishes_bind` — a sequence finishes when its first part does and the rest
  does from wherever the first part ends.
* `Proc.Finishes.runFrom_wp` — total correctness: a program that finishes, with the
  weakest precondition of `Q`, has a finished run, and it ends in `Q`.
-/

namespace CorpusBench

/-- The state a run finished in, if it finished. -/
def Ending.state? {σ α : Type} : Ending σ α → Option σ
  | .finished _ s _ => some s
  | _ => none

namespace Proc

variable {σ : Type}

/-- The weakest precondition of `p` run alone: every way it finishes ends in a result and a
state satisfying `Q`.  A wait continues only when its condition holds of the state as it is; an
abort or a fork promises nothing. -/
def wp {α : Type} : Proc σ α → (α → σ → Prop) → σ → Prop
  | .done a, Q, s => Q a s
  | .halt _, _, _ => True
  | .read k, Q, s => wp (k s) Q s
  | .write s' n, Q, _ => wp n Q s'
  | .sleep _ n, Q, s => wp n Q s
  | .sleepUntil _ n, Q, s => wp n Q s
  | .await r n, Q, s => r s = true → wp n Q s
  | .fork _ _, _, _ => False

/-- A run of `p` alone from `s` finishes in `s'`, whatever its result, clock and fuel. -/
def Reaches {α : Type} (p : Proc σ α) (s s' : σ) : Prop :=
  ∃ fuel now a clock, runFrom fuel now p s = .finished a s' clock

variable {α β : Type} {Q : α → σ → Prop}

/-! ### The rules, one per kind of step -/

@[simp] lemma wp_pure (a : α) (s : σ) : wp (pure a : Proc σ α) Q s ↔ Q a s := Iff.rfl

/-- A sequence: whatever the first part finishes with must be a good start for the rest.

**Proof sketch.** Recursion on the first part, which `bind` rebuilds with the rest grafted at
every leaf. -/
lemma wp_bind (f : α → Proc σ β) (Q : β → σ → Prop) :
    ∀ (p : Proc σ α) (s : σ), wp (p >>= f) Q s ↔ wp p (fun a s' => wp (f a) Q s') s
  | .done _, _ => Iff.rfl
  | .halt _, _ => Iff.rfl
  | .read k, s => wp_bind f Q (k s) s
  | .write s' n, _ => wp_bind f Q n s'
  | .sleep _ n, s => wp_bind f Q n s
  | .sleepUntil _ n, s => wp_bind f Q n s
  | .await _ n, s => imp_congr_right fun _ => wp_bind f Q n s
  | .fork _ _, _ => Iff.rfl

@[simp] lemma wp_map (f : α → β) (p : Proc σ α) (Q : β → σ → Prop) (s : σ) :
    wp (f <$> p) Q s ↔ wp p (fun a s' => Q (f a) s') s :=
  wp_bind (fun a => pure (f a)) Q p s

@[simp] lemma wp_get (Q : σ → σ → Prop) (s : σ) : wp Proc.get Q s ↔ Q s s := Iff.rfl

@[simp] lemma wp_gets (f : σ → α) (s : σ) : wp (Proc.gets f) Q s ↔ Q (f s) s := Iff.rfl

@[simp] lemma wp_set (Q : Unit → σ → Prop) (s s' : σ) : wp (Proc.set s') Q s ↔ Q () s' :=
  Iff.rfl

@[simp] lemma wp_modify (Q : Unit → σ → Prop) (f : σ → σ) (s : σ) :
    wp (Proc.modify f) Q s ↔ Q () (f s) := Iff.rfl

@[simp] lemma wp_modifyGet (f : σ → α × σ) (s : σ) :
    wp (Proc.modifyGet f) Q s ↔ Q (f s).1 (f s).2 := Iff.rfl

@[simp] lemma wp_pause (Q : Unit → σ → Prop) (ms : Nat) (s : σ) :
    wp (Proc.pause ms) Q s ↔ Q () s := Iff.rfl

@[simp] lemma wp_waitFor (Q : Unit → σ → Prop) (r : σ → Bool) (s : σ) :
    wp (Proc.waitFor r) Q s ↔ (r s = true → Q () s) := Iff.rfl

@[simp] lemma wp_abort (h : Abort) (s : σ) : wp (Proc.abort h : Proc σ α) Q s := trivial

@[simp] lemma wp_ofAbort (r : Except Abort α) (s : σ) :
    wp (Proc.ofAbort r) Q s ↔ ∀ a, r = .ok a → Q a s := by
  cases r <;> simp [ofAbort, wp]

/-- A weaker postcondition has a weaker precondition. -/
lemma wp_mono {Q' : α → σ → Prop} (hQ : ∀ a s, Q a s → Q' a s) :
    ∀ (p : Proc σ α) (s : σ), wp p Q s → wp p Q' s
  | .done a, s, h => hQ a s h
  | .halt _, _, _ => trivial
  | .read k, s, h => wp_mono hQ (k s) s h
  | .write s' n, _, h => wp_mono hQ n s' h
  | .sleep _ n, s, h => wp_mono hQ n s h
  | .sleepUntil _ n, s, h => wp_mono hQ n s h
  | .await _ n, s, h => fun hr => wp_mono hQ n s (h hr)
  | .fork _ _, _, h => h

/-! ### Programs over a part of the state -/

section Zoom

variable {τ : Type} {view : σ → τ} {update : τ → σ → σ}

/-- A program over a part of the state, when `view` and `update` are a lawful lens: the part
reads back what was put, a second update overwrites the first, and putting back the part
changes nothing.

**Proof sketch.** Recursion on the program: a write of the part writes the whole state with
the part replaced, which the laws fold into one update of the state the program started from. -/
lemma wp_zoom (view_update : ∀ t s, view (update t s) = t)
    (update_update : ∀ t t' s, update t' (update t s) = update t' s)
    (update_view : ∀ s, update (view s) s = s) :
    ∀ (p : Proc τ α) (Q : α → σ → Prop) (s : σ),
      wp (zoom view update p) Q s ↔ wp p (fun a t => Q a (update t s)) (view s)
  | .done a, Q, s => by simp only [zoom, wp, update_view]
  | .halt _, _, _ => Iff.rfl
  | .read k, Q, s => wp_zoom view_update update_update update_view (k (view s)) Q s
  | .write t n, Q, s => by
    simp only [zoom, wp]
    rw [wp_zoom view_update update_update update_view n, view_update]
    simp only [update_update]
  | .sleep _ n, Q, s => wp_zoom view_update update_update update_view n Q s
  | .sleepUntil _ n, Q, s => wp_zoom view_update update_update update_view n Q s
  | .await _ n, Q, s => imp_congr_right fun _ => wp_zoom view_update update_update update_view n Q s
  | .fork _ _, _, _ => Iff.rfl

end Zoom

/-! ### Soundness for the scheduler -/

/-- A poll of a program run alone leaves a program whose precondition holds of the state the
poll leaves.

**Proof sketch.** Recursion on the program, following `poll`: a read or a write continues from
the state it saw or wrote, a sleep becomes a sleep until its instant, and a wait that is ready
continues; a fork has no precondition. -/
lemma wp_poll (now : Nat) :
    ∀ (p : Proc σ α) (s : σ), wp p Q s → wp (poll now p s).1 Q (poll now p s).2.1
  | .done _, _, h => h
  | .halt _, _, _ => trivial
  | .read k, s, h => by simpa [poll] using wp_poll now (k s) s h
  | .write s' n, _, h => by simpa [poll] using wp_poll now n s' h
  | .sleep _ _, _, h => h
  | .sleepUntil t n, s, h => by
    simp only [poll]
    split
    · simpa using wp_poll now n s h
    · exact h
  | .await r n, s, h => by
    simp only [poll]
    split
    · next hr => simpa using wp_poll now n s (h hr)
    · exact h
  | .fork _ _, _, h => h.elim

/-- A poll that finishes a program finishes it in the program's postcondition. -/
lemma wp_of_poll_eq_done {p : Proc σ α} {s s' : σ} {a : α} {m : Bool} (h : wp p Q s) {now : Nat}
    (hpoll : poll now p s = (.done a, s', m)) : Q a s' := by
  have hwp := wp_poll now p s h
  rwa [hpoll] at hwp

/-- A run that finishes satisfies the postcondition of the weakest precondition it started
from. -/
theorem wp_runFrom {p : Proc σ α} {s : σ} (h : wp p Q s) {fuel now : Nat} {a : α} {s' : σ}
    {clock : Nat} (hrun : runFrom fuel now p s = .finished a s' clock) : Q a s' := by
  induction fuel generalizing now p s with
  | zero => simp [runFrom] at hrun
  | succ fuel ih =>
    have hpoll := wp_poll now p s h
    simp only [runFrom] at hrun
    split at hrun
    · next heq =>
      rw [heq] at hpoll
      cases hrun
      exact hpoll
    · cases hrun
    · next heq =>
      rw [heq] at hpoll
      exact ih hpoll hrun
    · next heq =>
      rw [heq] at hpoll
      split at hrun
      · exact ih hpoll hrun
      · cases hrun

/-- A run that finishes reaches the state it finishes in; whether it finishes is computed. -/
lemma reaches_state? {p : Proc σ α} {s : σ} {fuel now : Nat}
    (h : (runFrom fuel now p s).state?.isSome = true) :
    Reaches p s ((runFrom fuel now p s).state?.getD s) := by
  revert h
  cases hrun : runFrom fuel now p s with
  | finished a s' clock => exact fun _ => ⟨fuel, now, a, clock, hrun⟩
  | halted _ => simp [Ending.state?]
  | stalled => simp [Ending.state?]

/-- What holds after every finished run, whatever its result, holds where a run alone leads. -/
theorem wp_reaches {p : Proc σ α} {s s' : σ} {P : σ → Prop} (h : wp p (fun _ s'' => P s'') s)
    (hr : Reaches p s s') : P s' := by
  obtain ⟨_, _, _, _, hrun⟩ := hr
  exact wp_runFrom h hrun

/-! ### Termination -/

/-- A run of `p` alone from `s` finishes: every wait it comes to is ready when it comes to it,
and it neither aborts nor forks.  Sleeps are no obstacle: the clock jumps to their end. -/
def Finishes {α : Type} : Proc σ α → σ → Prop
  | .done _, _ => True
  | .halt _, _ => False
  | .read k, s => Finishes (k s) s
  | .write s' n, _ => Finishes n s'
  | .sleep _ n, s => Finishes n s
  | .sleepUntil _ n, s => Finishes n s
  | .await r n, s => r s = true ∧ Finishes n s
  | .fork _ _, _ => False

@[simp] lemma finishes_pure (a : α) (s : σ) : Finishes (pure a : Proc σ α) s := trivial

/-- A sequence finishes when its first part does and the rest does from wherever the first part
ends.

**Proof sketch.** Recursion on the first part, as for `wp_bind`; at a wait, the rest is reached
only through the wait, so its condition guards the precondition of the rest. -/
lemma finishes_bind (f : α → Proc σ β) :
    ∀ (p : Proc σ α) (s : σ), Finishes (p >>= f) s ↔ Finishes p s ∧ wp p (fun a s' => Finishes (f a) s') s
  | .done _, _ => iff_of_eq (true_and _).symm
  | .halt _, _ => iff_of_eq (false_and _).symm
  | .read k, s => finishes_bind f (k s) s
  | .write s' n, _ => finishes_bind f n s'
  | .sleep _ n, s => finishes_bind f n s
  | .sleepUntil _ n, s => finishes_bind f n s
  | .await r n, s => by
    show (r s = true ∧ Finishes (n >>= f) s) ↔ (r s = true ∧ Finishes n s) ∧ (r s = true → _)
    rw [finishes_bind f n s]
    exact ⟨fun ⟨hr, hn, hw⟩ => ⟨⟨hr, hn⟩, fun _ => hw⟩, fun ⟨⟨hr, hn⟩, hw⟩ => ⟨hr, hn, hw hr⟩⟩
  | .fork _ _, _ => iff_of_eq (false_and _).symm

/-- A program that finishes has the trivial postcondition: it does not fork. -/
lemma wp_true_of_finishes : ∀ (p : Proc σ α) (s : σ), Finishes p s → wp p (fun _ _ => True) s
  | .done _, _, _ => trivial
  | .halt _, _, h => h.elim
  | .read k, s, h => wp_true_of_finishes (k s) s h
  | .write s' n, _, h => wp_true_of_finishes n s' h
  | .sleep _ n, s, h => wp_true_of_finishes n s h
  | .sleepUntil _ n, s, h => wp_true_of_finishes n s h
  | .await _ n, s, h => fun _ => wp_true_of_finishes n s h.2
  | .fork _ _, _, h => h.elim

@[simp] lemma finishes_map (f : α → β) (p : Proc σ α) (s : σ) :
    Finishes (f <$> p) s ↔ Finishes p s := by
  rw [show f <$> p = p >>= fun a => pure (f a) from rfl, finishes_bind]
  exact ⟨And.left, fun h => ⟨h, wp_mono (fun _ _ _ => trivial) p s (wp_true_of_finishes p s h)⟩⟩

@[simp] lemma finishes_get (s : σ) : Finishes Proc.get s := trivial

@[simp] lemma finishes_gets (f : σ → α) (s : σ) : Finishes (Proc.gets f) s := trivial

@[simp] lemma finishes_set (s s' : σ) : Finishes (Proc.set s') s := trivial

@[simp] lemma finishes_modify (f : σ → σ) (s : σ) : Finishes (Proc.modify f) s := trivial

@[simp] lemma finishes_modifyGet (f : σ → α × σ) (s : σ) : Finishes (Proc.modifyGet f) s :=
  trivial

@[simp] lemma finishes_pause (ms : Nat) (s : σ) : Finishes (Proc.pause ms) s := trivial

@[simp] lemma finishes_waitFor (r : σ → Bool) (s : σ) :
    Finishes (Proc.waitFor r) s ↔ r s = true := iff_of_eq (and_true _)

@[simp] lemma not_finishes_abort (h : Abort) (s : σ) : ¬ Finishes (Proc.abort h : Proc σ α) s :=
  id

@[simp] lemma finishes_ofAbort (r : Except Abort α) (s : σ) :
    Finishes (Proc.ofAbort r) s ↔ ∃ a, r = .ok a := by
  cases r <;> simp [ofAbort, Finishes]

/-- A program over a part of the state finishes when it finishes on the part. -/
lemma finishes_zoom {τ : Type} {view : σ → τ} {update : τ → σ → σ}
    (view_update : ∀ t s, view (update t s) = t) :
    ∀ (p : Proc τ α) (s : σ), Finishes (zoom view update p) s ↔ Finishes p (view s)
  | .done _, _ => Iff.rfl
  | .halt _, _ => Iff.rfl
  | .read k, s => finishes_zoom view_update (k (view s)) s
  | .write t n, s => by
    show Finishes (zoom view update n) (update t s) ↔ Finishes n t
    rw [finishes_zoom view_update n, view_update]
  | .sleep _ n, s => finishes_zoom view_update n s
  | .sleepUntil _ n, s => finishes_zoom view_update n s
  | .await _ n, s => and_congr_right fun _ => finishes_zoom view_update n s
  | .fork _ _, _ => Iff.rfl

/-! ### Termination is sound for the scheduler -/

/-- More fuel does not change a finished run. -/
lemma runFrom_succ_of_finished {a : α} {s' : σ} {clock : Nat} :
    ∀ {fuel now : Nat} {p : Proc σ α} {s : σ}, runFrom fuel now p s = .finished a s' clock →
      runFrom (fuel + 1) now p s = .finished a s' clock
  | 0, _, _, _, h => by simp [runFrom] at h
  | fuel + 1, now, p, s, h => by
    rw [runFrom] at h ⊢
    generalize poll now p s = polled at h ⊢
    obtain ⟨p', s'', moved⟩ := polled
    cases p' <;> cases moved <;> simp only at h ⊢
    case fork.false =>
      -- nothing moved: the clock jumps to the earliest wake-up
      split at h
      · exact runFrom_succ_of_finished h
      · cases h
    all_goals first | exact h | exact runFrom_succ_of_finished h

/-- A poll of a program that finishes either moves it or leaves it exactly as it was. -/
lemma poll_eq_of_not_moved {now : Nat} :
    ∀ {p p' : Proc σ α} {s s' : σ}, Finishes p s → poll now p s = (p', s', false) →
      p' = p ∧ s' = s
  | .done _, _, _, _, _, h => by cases h; exact ⟨rfl, rfl⟩
  | .halt _, _, _, _, hf, _ => hf.elim
  | .read _, _, _, _, _, h => by cases h
  | .write _ _, _, _, _, _, h => by cases h
  | .sleep _ _, _, _, _, _, h => by cases h
  | .sleepUntil t _, _, _, _, _, h => by
    simp only [poll] at h
    split at h
    · cases h
    · cases h
      exact ⟨rfl, rfl⟩
  | .await _ _, _, _, _, hf, h => by
    simp only [poll, hf.1, if_true] at h
    cases h
  | .fork _ _, _, _, _, hf, _ => hf.elim

/-- A step that passes straight on to a program `n` that finishes — a read, a write, a ready
wait or a sleep that has ended — finishes as `n` does, with one more unit of fuel.

**Proof sketch.** Both runs poll `n` first.  If that poll moved anything, the two runs go on
from the same program, one with more fuel; if it moved nothing, `n` is left as it was
(`poll_eq_of_not_moved`), and the step's run goes on from `n` itself. -/
lemma runFrom_succ_of_poll {p n : Proc σ α} {s t : σ} {now : Nat}
    (hp : poll now p s = ((poll now n t).1, (poll now n t).2.1, true)) (hn : Finishes n t)
    {fuel : Nat} {a : α} {s' : σ} {clock : Nat} (h : runFrom fuel now n t = .finished a s' clock) :
    runFrom (fuel + 1) now p s = .finished a s' clock := by
  cases fuel with
  | zero => simp [runFrom] at h
  | succ fuel =>
    have hstill := h
    rw [runFrom] at h ⊢
    rw [hp]
    generalize hpoll : poll now n t = polled at h ⊢
    obtain ⟨p', s'', moved⟩ := polled
    cases moved
    · -- nothing moved: the step's run goes on from `n` itself
      obtain ⟨rfl, rfl⟩ := poll_eq_of_not_moved hn hpoll
      cases p' <;> simp only at h ⊢ <;> first | exact h | exact hstill
    · cases p' <;> simp only at h ⊢ <;> first | exact h | exact runFrom_succ_of_finished h

/-- A sleep until `time` before a program that finishes from every instant finishes: at or after
`time` it passes straight on, before it the clock jumps to `time`. -/
lemma runFrom_sleepUntil {n : Proc σ α} {s : σ} (hn : Finishes n s)
    (ih : ∀ now, ∃ fuel a s' clock, runFrom fuel now n s = .finished a s' clock) (time now : Nat) :
    ∃ fuel a s' clock, runFrom fuel now (.sleepUntil time n) s = .finished a s' clock := by
  -- at an instant past `time` the sleep is over and the poll passes on to `n`
  have hover : ∀ now, time ≤ now →
      ∃ fuel a s' clock, runFrom fuel now (.sleepUntil time n) s = .finished a s' clock := by
    intro now hle
    obtain ⟨fuel, a, s', clock, hrun⟩ := ih now
    exact ⟨fuel + 1, a, s', clock, runFrom_succ_of_poll (by simp [poll, hle]) hn hrun⟩
  by_cases hle : time ≤ now
  · exact hover now hle
  · obtain ⟨fuel, a, s', clock, hrun⟩ := hover time (Nat.le_refl _)
    refine ⟨fuel + 1, a, s', clock, ?_⟩
    rw [runFrom]
    simp only [poll, if_neg hle, nextWake, Nat.max_eq_left (Nat.le_of_not_le hle)]
    exact hrun

/-- A program that finishes has a finished run, from any instant. -/
theorem Finishes.runFrom : ∀ {p : Proc σ α} {s : σ}, Finishes p s →
    ∀ now, ∃ fuel a s' clock, Proc.runFrom fuel now p s = .finished a s' clock
  | .done a, s, _, now => ⟨1, a, s, now, rfl⟩
  | .halt _, _, h, _ => h.elim
  | .read k, s, h, now => by
    obtain ⟨fuel, a, s', clock, hrun⟩ := Finishes.runFrom (p := k s) h now
    exact ⟨fuel + 1, a, s', clock, runFrom_succ_of_poll (n := k s) (t := s) rfl h hrun⟩
  | .write t n, _, h, now => by
    obtain ⟨fuel, a, s', clock, hrun⟩ := Finishes.runFrom (p := n) h now
    exact ⟨fuel + 1, a, s', clock, runFrom_succ_of_poll (n := n) (t := t) rfl h hrun⟩
  | .sleep ms n, s, h, now => by
    -- the sleep becomes a sleep until `now + ms`
    obtain ⟨fuel, a, s', clock, hrun⟩ :=
      runFrom_sleepUntil (n := n) h (Finishes.runFrom (p := n) h) (now + ms) now
    exact ⟨fuel + 1, a, s', clock, by rw [Proc.runFrom]; exact hrun⟩
  | .sleepUntil time n, s, h, now =>
    runFrom_sleepUntil (n := n) h (Finishes.runFrom (p := n) h) time now
  | .await r n, s, h, now => by
    obtain ⟨fuel, a, s', clock, hrun⟩ := Finishes.runFrom (p := n) h.2 now
    exact ⟨fuel + 1, a, s', clock, runFrom_succ_of_poll (n := n) (by simp [poll, h.1]) h.2 hrun⟩
  | .fork _ _, _, h, _ => h.elim

/-- Total correctness: a program that finishes, from a state with the weakest precondition of
`Q`, has a finished run from any instant, and it ends in `Q`. -/
theorem Finishes.runFrom_wp {p : Proc σ α} {s : σ} {Q : α → σ → Prop} (hf : Finishes p s)
    (hwp : wp p Q s) (now : Nat) :
    ∃ fuel a s' clock, Proc.runFrom fuel now p s = .finished a s' clock ∧ Q a s' := by
  obtain ⟨fuel, a, s', clock, hrun⟩ := hf.runFrom now
  exact ⟨fuel, a, s', clock, hrun, wp_runFrom hwp hrun⟩

/-! ### Total correctness -/

/-- Run alone from `s`, the program finishes, and every run that finishes ends in `Q`. -/
def Total {α : Type} (p : Proc σ α) (Q : α → σ → Prop) (s : σ) : Prop := Finishes p s ∧ wp p Q s

lemma total_pure {Q : α → σ → Prop} (a : α) {s : σ} (h : Q a s) : Total (pure a) Q s :=
  ⟨trivial, h⟩

/-- A sequence ends in `Q` when its first part ends where the rest ends in `Q`. -/
lemma Total.bind {p : Proc σ α} {f : α → Proc σ β} {Q : β → σ → Prop} {s : σ}
    (h : Total p (fun a s' => Total (f a) Q s') s) : Total (p >>= f) Q s :=
  ⟨(finishes_bind f p s).2 ⟨h.1, wp_mono (fun _ _ h => h.1) p s h.2⟩,
    (wp_bind f Q p s).2 (wp_mono (fun _ _ h => h.2) p s h.2)⟩

lemma Total.mono {p : Proc σ α} {Q Q' : α → σ → Prop} {s : σ} (h : Total p Q s)
    (hQ : ∀ a s, Q a s → Q' a s) : Total p Q' s :=
  ⟨h.1, wp_mono hQ p s h.2⟩

lemma Total.map {p : Proc σ α} {Q : β → σ → Prop} {s : σ} (f : α → β)
    (h : Total p (fun a s' => Q (f a) s') s) : Total (f <$> p) Q s :=
  Total.bind (h.mono fun a _ h => total_pure (f a) h)

lemma total_gets {f : σ → α} {Q : α → σ → Prop} {s : σ} (h : Q (f s) s) :
    Total (Proc.gets f) Q s :=
  ⟨trivial, h⟩

lemma total_pause {Q : Unit → σ → Prop} (ms : Nat) {s : σ} (h : Q () s) :
    Total (Proc.pause ms) Q s :=
  ⟨trivial, h⟩

/-- A program that is total has a finished run from any instant, and it ends in `Q`. -/
theorem Total.runFrom {p : Proc σ α} {Q : α → σ → Prop} {s : σ} (h : Total p Q s) (now : Nat) :
    ∃ fuel a s' clock, Proc.runFrom fuel now p s = .finished a s' clock ∧ Q a s' :=
  h.1.runFrom_wp h.2 now

/-! ### Programs with one outcome -/

/-- Run alone from `s`, the program finishes, and every run that finishes returns `a` and ends
in `t`. -/
def Yields {α : Type} (p : Proc σ α) (s : σ) (a : α) (t : σ) : Prop :=
  Finishes p s ∧ wp p (fun b t' => b = a ∧ t' = t) s

lemma yields_pure (a : α) (s : σ) : Yields (pure a : Proc σ α) s a s := ⟨trivial, rfl, rfl⟩

lemma yields_get (s : σ) : Yields Proc.get s s s := ⟨trivial, rfl, rfl⟩

lemma yields_modify (f : σ → σ) (s : σ) : Yields (Proc.modify f) s () (f s) := ⟨trivial, rfl, rfl⟩

lemma yields_ofAbort {r : Except Abort α} {a : α} (h : r = .ok a) (s : σ) :
    Yields (Proc.ofAbort r) s a s := by
  subst h
  exact ⟨trivial, rfl, rfl⟩

/-- A sequence has the outcome of its second part, run from where the first part ends. -/
lemma Yields.bind {p : Proc σ α} {f : α → Proc σ β} {s t u : σ} {a : α} {b : β}
    (hp : Yields p s a t) (hf : Yields (f a) t b u) : Yields (p >>= f) s b u := by
  refine ⟨(finishes_bind f p s).2 ⟨hp.1, ?_⟩, (wp_bind f _ p s).2 ?_⟩
  · exact wp_mono (fun a' t' h => h.1 ▸ h.2 ▸ hf.1) p s hp.2
  · exact wp_mono (fun a' t' h => h.1 ▸ h.2 ▸ hf.2) p s hp.2

lemma Yields.map {p : Proc σ α} {s t : σ} {a : α} (hp : Yields p s a t) (f : α → β) :
    Yields (f <$> p) s (f a) t :=
  hp.bind (yields_pure (f a) t)

/-- A program with one outcome has a finished run from any instant, and every finished run has
that outcome. -/
theorem Yields.runFrom {p : Proc σ α} {s t : σ} {a : α} (h : Yields p s a t) (now : Nat) :
    (∃ fuel clock, Proc.runFrom fuel now p s = .finished a t clock) ∧
      ∀ fuel now' b t' clock, Proc.runFrom fuel now' p s = .finished b t' clock → b = a ∧ t' = t := by
  obtain ⟨fuel, b, t', clock, hrun, rfl, rfl⟩ := h.1.runFrom_wp h.2 now
  exact ⟨⟨fuel, clock, hrun⟩, fun _ _ _ _ _ hrun' => wp_runFrom h.2 hrun'⟩

end Proc

end CorpusBench
