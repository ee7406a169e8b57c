import Mathlib
import CorpusBench.Concurrent.Proc

/-!
# Shares of a count

Some counts in a shared state are a ledger of what the running programs hold: a program takes
units of the count and gives them back later, and nothing else moves it.  A program *owns* `n`
units (`Proc.Owns c n e p`) when, run from any state whose count `c` covers what it owns, each
of its atomic steps moves the count by exactly the change in what it owns, and it ends owning
`e`.  Owning is read off the program alone: after a point where the scheduler may switch, the
program must go on from any state whose count still covers its share, since the others may
have moved the count meanwhile, within their own shares.

Under any interleaving the count then stays the sum of the shares of the programs in flight
(`Proc.OwnsFrom.poll`).  In particular a program only gives back units it owns, so a count kept
so never has to be held at zero when it is decremented.

## Main definitions

* `Proc.OwnsFrom` — from a given state, a program owns `n` units and ends owning
  `e`; `Proc.OwnAll` — the children of a fork own `n` units together, and each
  ends owning none.
* `Proc.Owns` — the same from every state whose count covers `n`.
* `Proc.Shares` — programs side by side own shares that add up to the count.

## Main results

* `Proc.Owns.bind`, `Proc.Owns.frame`,
  `Proc.Owns.joinAll`, `Proc.Owns.zoom` — owning is built up along
  the program.
* `Proc.OwnsFrom.poll` — a poll moves the count by the change in what the program
  owns, and leaves a program that owns what it then holds.
* `Proc.Shares.poll` — polling any one of programs side by side keeps their shares
  adding up to the count; `Proc.Shares.eq_zero_of_done` — once all have finished,
  the count is zero.
-/

namespace CorpusBench

namespace Proc

variable {σ : Type} (c : σ → Nat)

mutual
/-- Run from the state `s` while owning `n` units of the count `c`, the program ends owning
`e`, and each of its writes moves the count by exactly the change in what it owns.  After a
sleep, a wait or a fork it goes on from any state whose count covers what it owns. -/
inductive OwnsFrom : σ → Nat → Nat → {α : Type} → Proc σ α → Prop
  | done {s : σ} {e : Nat} {α : Type} (a : α) : OwnsFrom s e e (.done a)
  | halt {s : σ} {n e : Nat} {α : Type} (h : Abort) : OwnsFrom s n e (Proc.halt h : Proc σ α)
  | read {s : σ} {n e : Nat} {α : Type} {k : σ → Proc σ α} (next : OwnsFrom s n e (k s)) :
      OwnsFrom s n e (.read k)
  | write {s s' : σ} {n m e : Nat} {α : Type} {p : Proc σ α} (moves : c s' + n = c s + m)
      (next : OwnsFrom s' m e p) : OwnsFrom s n e (.write s' p)
  | sleep {s : σ} {n e ms : Nat} {α : Type} {p : Proc σ α}
      (next : ∀ s', n ≤ c s' → OwnsFrom s' n e p) : OwnsFrom s n e (.sleep ms p)
  | sleepUntil {s : σ} {n e t : Nat} {α : Type} {p : Proc σ α}
      (next : ∀ s', n ≤ c s' → OwnsFrom s' n e p) : OwnsFrom s n e (.sleepUntil t p)
  | await {s : σ} {n e : Nat} {α : Type} {r : σ → Bool} {p : Proc σ α}
      (next : ∀ s', r s' = true → n ≤ c s' → OwnsFrom s' n e p) : OwnsFrom s n e (.await r p)
  | fork {s : σ} {n m e : Nat} {α β : Type} {cs : Procs σ β} {k : List β → Proc σ α}
      (children : OwnAll m cs) (next : ∀ rs s', n ≤ c s' → OwnsFrom s' n e (k rs)) :
      OwnsFrom s (n + m) e (.fork cs k)

/-- The children of a fork own `n` units together, each from every state whose count covers
its share, and each ends owning none. -/
inductive OwnAll : Nat → {β : Type} → Procs σ β → Prop
  | nil {β : Type} : OwnAll 0 (.nil : Procs σ β)
  | cons {n m : Nat} {β : Type} {p : Proc σ β} {ps : Procs σ β}
      (head : ∀ s, n ≤ c s → OwnsFrom s n 0 p) (tail : OwnAll m ps) :
      OwnAll (n + m) (.cons p ps)
end

/-- The program owns `n` units of the count `c` and ends owning `e`, from every state whose
count covers `n`. -/
def Owns {α : Type} (n e : Nat) (p : Proc σ α) : Prop := ∀ s, n ≤ c s → OwnsFrom c s n e p

variable {c}

/-- A finished program owns what it ends owning. -/
lemma OwnsFrom.done_iff {α : Type} {s : σ} {n e : Nat} {a : α} :
    OwnsFrom c s n e (.done a) ↔ n = e := by
  constructor
  · intro h
    cases h
    rfl
  · rintro rfl
    exact .done a

/-- Children that have all finished own nothing. -/
lemma OwnAll.results_eq_zero {β : Type} {s : σ} :
    ∀ {m : Nat} {cs : Procs σ β} {rs : List β}, OwnAll c m cs → cs.results = some rs →
      m ≤ c s → m = 0
  | _, .nil, _, h, _, _ => by
    cases h
    rfl
  | _, .cons p ps, _, h, hrs, hm => by
    cases h with
    | @cons n m0 _ _ _ hp hps =>
      cases p with
      | done b =>
        have hn : n = 0 := OwnsFrom.done_iff.1 (hp s (by omega))
        simp only [Procs.results, Option.map_eq_map, Option.map_eq_some_iff] at hrs
        obtain ⟨rs', hrs', -⟩ := hrs
        have hm0 : m0 = 0 := OwnAll.results_eq_zero hps hrs' (show m0 ≤ c s by omega)
        omega
      | _ => simp [Procs.results] at hrs

/-! ### Scheduling -/

mutual
/-- A poll moves the count by exactly the change in what the program owns, and leaves a
program that owns what it then holds, from every state.

**Proof sketch.** Recursion on the program, as the poll itself: a read goes on in the state it
read, a write moves the count as its rule says, a sleep or a wait that is over goes on at once,
and a fork polls its children (`OwnAll.pollAll`) and, once all have finished owning nothing,
goes on with their results. -/
theorem OwnsFrom.poll {α : Type} {e : Nat} (now : Nat) :
    ∀ (p : Proc σ α) (s : σ) (n : Nat), OwnsFrom c s n e p → n ≤ c s →
      ∃ n', Owns c n' e (Proc.poll now p s).1 ∧ c (Proc.poll now p s).2.1 + n = c s + n'
  | .done a, s, n, h, _ => by
    cases OwnsFrom.done_iff.1 h
    exact ⟨_, fun _ _ => .done a, rfl⟩
  | .halt h, s, n, _, _ => ⟨n, fun _ _ => .halt h, rfl⟩
  | .read k, s, n, h, hn => by
    cases h with
    | read hk =>
      obtain ⟨n', hp, hc⟩ := OwnsFrom.poll now (k s) s n hk hn
      rcases hpoll : Proc.poll now (k s) s with ⟨p', s', _⟩
      simp only [hpoll] at hp hc
      simp only [Proc.poll, hpoll]
      exact ⟨n', hp, hc⟩
  | .write s' p, s, n, h, hn => by
    cases h with
    | @write _ _ _ m _ _ _ hmoves hp =>
      obtain ⟨n', hp', hc⟩ := OwnsFrom.poll now p s' m hp (by omega)
      rcases hpoll : Proc.poll now p s' with ⟨p'', s'', _⟩
      simp only [hpoll] at hp' hc
      simp only [Proc.poll, hpoll]
      exact ⟨n', hp', by omega⟩
  | .sleep ms p, s, n, h, _ => by
    cases h with
    | sleep hp => exact ⟨n, fun s' hs' => .sleepUntil hp, rfl⟩
  | .sleepUntil t p, s, n, h, hn => by
    cases h with
    | sleepUntil hp =>
      simp only [Proc.poll]
      split
      · exact OwnsFrom.poll now p s n (hp s hn) hn
      · exact ⟨n, fun s' hs' => .sleepUntil hp, rfl⟩
  | .await r p, s, n, h, hn => by
    cases h with
    | await hp =>
      simp only [Proc.poll]
      split
      · next hr => exact OwnsFrom.poll now p s n (hp s hr hn) hn
      · exact ⟨n, fun s' hs' => .await hp, rfl⟩
  | .fork cs k, s, n, h, hn => by
    cases h with
    | @fork _ n0 m _ _ _ _ _ hcs hk =>
      obtain ⟨m', hcs', hc⟩ := OwnAll.pollAll now cs s m hcs (by omega)
      rcases hpoll : Proc.pollAll now cs s with ⟨cs', s1, _⟩
      simp only [hpoll] at hcs' hc
      simp only [Proc.poll, hpoll]
      split
      · -- a child aborted, and so does the fork
        next h _ =>
        dsimp only
        exact ⟨n0 + m', fun _ _ => .halt h, by omega⟩
      · split
        · -- every child has finished, owning nothing: the fork goes on with their results
          next rs hrs =>
          have hm' : m' = 0 := hcs'.results_eq_zero hrs (show m' ≤ c s1 by omega)
          subst hm'
          obtain ⟨n', hp, hc'⟩ := OwnsFrom.poll now (k rs) s1 n0 (hk rs s1 (by omega)) (by omega)
          rcases hpoll' : Proc.poll now (k rs) s1 with ⟨p', s2, _⟩
          simp only [hpoll'] at hp hc' ⊢
          exact ⟨n', hp, by omega⟩
        · dsimp only
          exact ⟨n0 + m', fun _ _ => .fork hcs' hk, by omega⟩

/-- One pass over the children of a fork moves the count by exactly the change in what they
own together. -/
theorem OwnAll.pollAll {β : Type} (now : Nat) :
    ∀ (cs : Procs σ β) (s : σ) (m : Nat), OwnAll c m cs → m ≤ c s →
      ∃ m', OwnAll c m' (Proc.pollAll now cs s).1 ∧
        c (Proc.pollAll now cs s).2.1 + m = c s + m'
  | .nil, s, m, h, _ => by
    cases h
    exact ⟨0, .nil, rfl⟩
  | .cons p ps, s, m, h, hm => by
    cases h with
    | @cons n m0 _ _ _ hp hps =>
      obtain ⟨n1, hp1, hc1⟩ := OwnsFrom.poll now p s n (hp s (by omega)) (by omega)
      simp only [Proc.pollAll]
      split
      · -- the child aborted: the pass stops there
        next h s1 _ heq =>
        rw [heq] at hc1
        exact ⟨n1 + m0, .cons (fun _ _ => .halt h) hps, by simp only at hc1 ⊢; omega⟩
      · next c' s1 _ _ heq =>
        simp only [heq] at hp1 hc1
        obtain ⟨m2, hps2, hc2⟩ := OwnAll.pollAll now ps s1 m0 hps (by omega)
        rcases hpoll : Proc.pollAll now ps s1 with ⟨ps', s2, _⟩
        simp only [hpoll] at hps2 hc2 ⊢
        exact ⟨n1 + m2, .cons hp1 hps2, by omega⟩
end

/-- A poll of a sequence polls its first part and, once that has finished, goes on in the same
pass with the second. -/
theorem poll_bind {α β : Type} (now : Nat) : ∀ (p : Proc σ α) (f : α → Proc σ β) (s : σ),
    ((Proc.poll now (p >>= f) s).1, (Proc.poll now (p >>= f) s).2.1) =
      match Proc.poll now p s with
      | (.done a, s', _) => ((Proc.poll now (f a) s').1, (Proc.poll now (f a) s').2.1)
      | (p', s', _) => (p' >>= f, s')
  | .done a, f, s => rfl
  | .halt h, f, s => rfl
  | .read k, f, s => by
    have ih := poll_bind now (k s) f s
    rcases hp : Proc.poll now (k s) s with ⟨p', s', m⟩
    rw [hp] at ih
    rw [show (Proc.read k >>= f) = .read fun s => (k s >>= f) from rfl]
    simp only [Proc.poll, hp]
    cases p' <;> exact ih
  | .write s' n, f, s => by
    have ih := poll_bind now n f s'
    rcases hp : Proc.poll now n s' with ⟨p', s'', m⟩
    rw [hp] at ih
    rw [show (Proc.write s' n >>= f) = .write s' (n >>= f) from rfl]
    simp only [Proc.poll, hp]
    cases p' <;> exact ih
  | .sleep ms n, f, s => rfl
  | .sleepUntil t n, f, s => by
    rw [show (Proc.sleepUntil t n >>= f) = .sleepUntil t (n >>= f) from rfl]
    by_cases ht : t ≤ now
    · have ih := poll_bind now n f s
      rcases hp : Proc.poll now n s with ⟨p', s', m⟩
      rw [hp] at ih
      simp only [Proc.poll, ht, if_true, hp]
      cases p' <;> exact ih
    · simp only [Proc.poll, ht, if_false]
      rfl
  | .await r n, f, s => by
    rw [show (Proc.await r n >>= f) = .await r (n >>= f) from rfl]
    by_cases hr : r s = true
    · have ih := poll_bind now n f s
      rcases hp : Proc.poll now n s with ⟨p', s', m⟩
      rw [hp] at ih
      simp only [Proc.poll, hr, if_true, hp]
      cases p' <;> exact ih
    · simp only [Proc.poll, hr]
      rfl
  | .fork cs k, f, s => by
    rw [show (Proc.fork cs k >>= f) = .fork cs fun rs => (k rs >>= f) from rfl]
    rcases hc : Proc.pollAll now cs s with ⟨cs', s', m⟩
    simp only [Proc.poll, hc]
    split
    · rfl
    · split
      · next rs _ =>
        have ih := poll_bind now (k rs) f s'
        rcases hp : Proc.poll now (k rs) s' with ⟨p', s'', m'⟩
        rw [hp] at ih
        cases p' <;> exact ih
      · rfl

/-! ### Building programs that own a share -/

section Build

variable {α β : Type}

/-- Sequencing: the second part starts owning what the first part ends owning.

**Proof sketch.** Recursion on the first part, which `bind` rebuilds with the second part
grafted at every leaf; a leaf owns what it ends owning, and the count covers it there. -/
lemma OwnsFrom.bind {m e : Nat} {f : α → Proc σ β} (hf : ∀ a, Owns c m e (f a)) :
    ∀ (p : Proc σ α) (s : σ) (n : Nat), OwnsFrom c s n m p → n ≤ c s →
      OwnsFrom c s n e (p.bind f)
  | .done a, s, n, h, hn => by
    cases OwnsFrom.done_iff.1 h
    exact hf a s hn
  | .halt h, _, _, _, _ => .halt h
  | .read k, s, n, h, hn => by
    cases h with
    | read hk => exact .read (OwnsFrom.bind hf (k s) s n hk hn)
  | .write s' p, s, n, h, hn => by
    cases h with
    | write hmoves hp => exact .write hmoves (OwnsFrom.bind hf p s' _ hp (by omega))
  | .sleep _ p, _, n, h, _ => by
    cases h with
    | sleep hp => exact .sleep fun s' hs' => OwnsFrom.bind hf p s' n (hp s' hs') hs'
  | .sleepUntil _ p, _, n, h, _ => by
    cases h with
    | sleepUntil hp => exact .sleepUntil fun s' hs' => OwnsFrom.bind hf p s' n (hp s' hs') hs'
  | .await _ p, _, n, h, _ => by
    cases h with
    | await hp => exact .await fun s' hr hs' => OwnsFrom.bind hf p s' n (hp s' hr hs') hs'
  | .fork cs k, _, _, h, _ => by
    cases h with
    | @fork _ n0 _ _ _ _ _ _ hcs hk =>
      exact .fork hcs fun rs s' hs' => OwnsFrom.bind hf (k rs) s' n0 (hk rs s' hs') hs'

lemma Owns.bind {n m e : Nat} {p : Proc σ α} {f : α → Proc σ β} (hp : Owns c n m p)
    (hf : ∀ a, Owns c m e (f a)) : Owns c n e (p >>= f) :=
  fun s hs => OwnsFrom.bind hf p s n (hp s hs) hs

/-- What the others own does not matter: a program that owns `n` units and ends owning `e`
also does so on top of `j` more. -/
lemma OwnsFrom.frame (j : Nat) :
    ∀ (p : Proc σ α) (s : σ) (n e : Nat), OwnsFrom c s n e p → OwnsFrom c s (n + j) (e + j) p
  | .done a, _, _, _, h => by
    cases OwnsFrom.done_iff.1 h
    exact .done a
  | .halt h, _, _, _, _ => .halt h
  | .read k, s, n, e, h => by
    cases h with
    | read hk => exact .read (OwnsFrom.frame j (k s) s n e hk)
  | .write s' p, _, _, e, h => by
    cases h with
    | write hmoves hp => exact .write (by omega) (OwnsFrom.frame j p s' _ e hp)
  | .sleep _ p, _, n, e, h => by
    cases h with
    | sleep hp => exact .sleep fun s' hs' => OwnsFrom.frame j p s' n e (hp s' (by omega))
  | .sleepUntil _ p, _, n, e, h => by
    cases h with
    | sleepUntil hp =>
      exact .sleepUntil fun s' hs' => OwnsFrom.frame j p s' n e (hp s' (by omega))
  | .await _ p, _, n, e, h => by
    cases h with
    | await hp =>
      exact .await fun s' hr hs' => OwnsFrom.frame j p s' n e (hp s' hr (by omega))
  | .fork cs k, s, _, e, h => by
    cases h with
    | @fork _ n0 m _ _ _ _ _ hcs hk =>
      have hfork : OwnsFrom c s (n0 + j + m) (e + j) (.fork cs k) :=
        .fork hcs fun rs s' hs' => OwnsFrom.frame j (k rs) s' n0 e (hk rs s' (by omega))
      rwa [Nat.add_right_comm] at hfork

lemma Owns.frame {n e : Nat} {p : Proc σ α} (hp : Owns c n e p) (j : Nat) :
    Owns c (n + j) (e + j) p :=
  fun s hs => OwnsFrom.frame j p s n e (hp s (by omega))

lemma Owns.pure (n : Nat) (a : α) : Owns c n n (pure a : Proc σ α) := fun _ _ => .done a

lemma Owns.map {n e : Nat} {p : Proc σ α} (hp : Owns c n e p) (f : α → β) :
    Owns c n e (f <$> p) :=
  hp.bind fun a => Owns.pure e (f a)

lemma Owns.get (n : Nat) : Owns c n n (Proc.get : Proc σ σ) := fun s _ => .read (.done s)

lemma Owns.gets (n : Nat) (f : σ → α) : Owns c n n (Proc.gets f) :=
  fun s _ => .read (.done (f s))

/-- What follows a read need only own its share from the state it read. -/
lemma Owns.get_bind {n e : Nat} {f : σ → Proc σ α} (hf : ∀ s, n ≤ c s → OwnsFrom c s n e (f s)) :
    Owns c n e (Proc.get >>= f) :=
  fun s hs => .read (hf s hs)

/-- A change made in one step, that moves the count by the change in what its program owns. -/
lemma Owns.modifyGet {n m : Nat} {f : σ → α × σ} (hf : ∀ s, n ≤ c s → c (f s).2 + n = c s + m) :
    Owns c n m (Proc.modifyGet f) := by
  intro s hs
  refine .read ?_
  have hmoves := hf s hs
  revert hmoves
  rcases f s with ⟨a, s'⟩
  intro hmoves
  exact .write hmoves (.done a)

lemma Owns.pause (n ms : Nat) : Owns c n n (Proc.pause ms : Proc σ Unit) :=
  fun _ _ => .sleep fun _ _ => .done ()

lemma Owns.waitFor (n : Nat) (r : σ → Bool) : Owns c n n (Proc.waitFor r) :=
  fun _ _ => .await fun _ _ _ => .done ()

lemma Owns.abort (n e : Nat) (h : Abort) : Owns c n e (Proc.abort h : Proc σ α) :=
  fun _ _ => .halt h

lemma OwnAll.ofList : ∀ {ps : List (Proc σ β)}, (∀ p ∈ ps, Owns c 0 0 p) →
    OwnAll c 0 (Procs.ofList ps)
  | [], _ => .nil
  | p :: ps, h => .cons (h p (by simp)) (OwnAll.ofList fun q hq => h q (by simp [hq]))

/-- Programs run side by side that each give back what they take. -/
lemma Owns.joinAll {ps : List (Proc σ β)} (hps : ∀ p ∈ ps, Owns c 0 0 p) (n : Nat) :
    Owns c n n (Proc.joinAll ps) :=
  fun _ _ => .fork (OwnAll.ofList hps) fun rs _ _ => .done rs

end Build

/-! ### Programs over a part of the state -/

section Zoom

variable {τ : Type} {view : σ → τ} {update : τ → σ → σ}

mutual
/-- A program over a part of the state that leaves the count alone owns nothing more than
when it started, whatever the program does. -/
lemma OwnsFrom.zoom (hup : ∀ t s, c (update t s) = c s) {n : Nat} {α : Type} :
    ∀ (p : Proc τ α) (s : σ), OwnsFrom c s n n (Proc.zoom view update p)
  | .done a, _ => .done a
  | .halt h, _ => .halt h
  | .read k, s => .read (OwnsFrom.zoom hup (k (view s)) s)
  | .write t p, s => .read (.write (by rw [hup]) (OwnsFrom.zoom hup p _))
  | .sleep _ p, _ => .sleep fun s' _ => OwnsFrom.zoom hup p s'
  | .sleepUntil _ p, _ => .sleepUntil fun s' _ => OwnsFrom.zoom hup p s'
  | .await _ p, _ => .await fun s' _ _ => OwnsFrom.zoom hup p s'
  | .fork cs k, _ => .fork (OwnAll.zoomAll hup cs) fun rs s' _ => OwnsFrom.zoom hup (k rs) s'

lemma OwnAll.zoomAll (hup : ∀ t s, c (update t s) = c s) {β : Type} :
    ∀ cs : Procs τ β, OwnAll c 0 (Proc.zoomAll view update cs)
  | .nil => .nil
  | .cons p ps => .cons (fun s _ => OwnsFrom.zoom hup p s) (OwnAll.zoomAll hup ps)
end

lemma Owns.zoom (hup : ∀ t s, c (update t s) = c s) (n : Nat) {α : Type} (p : Proc τ α) :
    Owns c n n (Proc.zoom view update p) :=
  fun s _ => OwnsFrom.zoom hup p s

end Zoom

/-! ### Programs side by side -/

section Shares

variable {α : Type}

variable (c) in
/-- Programs side by side own shares of the count, each ending owning nothing, and the shares
add up to the count of the state. -/
structure Shares (s : σ) (held : List Nat) (ps : List (Proc σ α)) : Prop where
  owned : List.Forall₂ (fun n p => Owns c n 0 p) held ps
  sum_eq : c s = held.sum

variable {s : σ} {held : List Nat} {ps : List (Proc σ α)}

/-- A program that starts owning nothing joins the others. -/
lemma Shares.cons (h : Shares c s held ps) {p : Proc σ α} (hp : Owns c 0 0 p) :
    Shares c s (0 :: held) (p :: ps) :=
  ⟨.cons hp h.owned, by rw [h.sum_eq, List.sum_cons, Nat.zero_add]⟩

/-- A change of the state that leaves the count alone keeps the shares. -/
lemma Shares.of_count_eq (h : Shares c s held ps) {s' : σ} (hs : c s' = c s) :
    Shares c s' held ps :=
  ⟨h.owned, hs.trans h.sum_eq⟩

/-- A poll of any one of the programs keeps the shares adding up to the count: the count moves
by exactly the change in the share of the program polled, and the others keep theirs. -/
lemma Shares.poll {pre post : List (Proc σ α)} {p : Proc σ α}
    (h : Shares c s held (pre ++ p :: post)) (now : Nat) :
    ∃ held', Shares c (Proc.poll now p s).2.1 held' (pre ++ (Proc.poll now p s).1 :: post) := by
  -- the shares of the programs before the one polled, of that one, and of those after it
  have hpre := List.forall₂_take_append held pre (p :: post) h.owned
  obtain ⟨n, rest, hp, hpost, hrest⟩ :=
    List.forall₂_cons_right_iff.1 (List.forall₂_drop_append held pre (p :: post) h.owned)
  have hsum := h.sum_eq
  rw [← List.take_append_drop pre.length held, hrest, List.sum_append, List.sum_cons] at hsum
  obtain ⟨n', hp', hmoves⟩ := OwnsFrom.poll now p s n (hp s (by omega)) (by omega)
  refine ⟨held.take pre.length ++ n' :: rest, List.rel_append hpre (.cons hp' hpost), ?_⟩
  rw [List.sum_append, List.sum_cons]
  omega

/-- The count is zero exactly when no program owns a unit. -/
lemma Shares.eq_zero_iff (h : Shares c s held ps) : c s = 0 ↔ ∀ n ∈ held, n = 0 := by
  rw [h.sum_eq]
  exact List.sum_eq_zero_iff

/-- Once every program has finished, the count is zero: a finished program owns what it ends
owning, which is nothing. -/
lemma Shares.eq_zero_of_done (h : Shares c s held ps) (hdone : ∀ p ∈ ps, ∃ a, p = .done a) :
    c s = 0 := by
  refine h.eq_zero_iff.2 ?_
  have hle : held.sum ≤ c s := h.sum_eq.ge
  have howned := h.owned
  clear h
  induction howned with
  | nil => simp
  | @cons n p held ps hp _ ih =>
    obtain ⟨a, rfl⟩ := hdone p (by simp)
    rw [List.sum_cons] at hle
    have hn : n = 0 := OwnsFrom.done_iff.1 (hp s (by omega))
    have hrest := ih (fun q hq => hdone q (by simp [hq])) (by omega)
    intro m hm
    rcases List.mem_cons.1 hm with rfl | hm
    · exact hn
    · exact hrest m hm

end Shares

end Proc

end CorpusBench
