import Mathlib
import CorpusBench.Proofs.Concurrent.Keeps
import CorpusBench.Proofs.Concurrent.Join

/-!
# Roles played where the scheduler may switch

The scheduler switches programs only where one sleeps, waits or ends; the reads and writes in
between run alone.  Here every program plays a *role*, ghost data saying what it holds and what
it is in the middle of (a ticket it waits with, a request it waits for), and the shared state
with the roles of all the programs in flight satisfies an invariant `Inv`.

A stretch of a program, from one switch to the next, *moves* the invariant when, from every
state where it holds with the program's old role among any others, it reaches one where it holds
with the new role among the same others (`Proc.Moves`).  The others' roles are left alone, so
the moves of programs run one after another compose, and a program that wakes may rely on what
the invariant says of its own role: ownership of ghost resources as in concurrent separation
logic, with the frame quantified explicitly.

Some roles are those a program may sleep in; `Proc.Cast` records that every sleeping program is
in one, so that what the invariant says of such roles bounds the programs asleep.

## Main definitions

* `Proc.Moves` — a stretch keeps the invariant whatever the others play.
* `Proc.PlaysFrom` — a program, from a point of a stretch on, moves the invariant at
  every switch and ends in a given role; `Proc.Plays` — from every state where the
  invariant holds with its role.
* `Proc.Cast` — programs side by side, each playing its role, in a state where the
  invariant holds with all of them.

## Main results

* `Proc.PlaysFrom.poll` — a poll aborts or stops where the program moved the
  invariant, and leaves a program that plays from there.
* `Proc.Cast.poll`, `Cast.join`, `Cast.drop` — polling a program, a program joining
  and a finished one leaving keep the programs cast.
* `Proc.Cast.countP_asleep_le` — no more programs sleep than roles one may sleep in.
* `Proc.PlaysFrom.bind`, `PlaysFrom.modifyGet_bind`, … — the rules by which a
  program is shown to play its role.
-/

namespace CorpusBench

namespace Proc

variable {σ G : Type} (Inv : σ → Multiset G → Prop) (Sleeps : G → Prop)

/-- A stretch from `s₀`, playing `g₀`, to `s`, playing `g`, keeps the invariant whatever roles the
other programs play. -/
def Moves (s₀ : σ) (g₀ : G) (s : σ) (g : G) : Prop :=
  ∀ F, Inv s₀ (g₀ ::ₘ F) → Inv s (g ::ₘ F)

/-- A program that started a stretch in `s₀` playing `g₀`, and goes on in `s`, ends playing `e`:
wherever it sleeps, waits or ends it has moved the invariant to its role there, it sleeps only in
a role of `Sleeps`, and after a sleep or a wait it goes on from any state where the invariant
holds with that role.  It may abort anywhere; it never forks. -/
inductive PlaysFrom : σ → G → σ → G → {α : Type} → Proc σ α → Prop
  | done {s₀ : σ} {g₀ : G} {s : σ} {e : G} {α : Type} (a : α) (moves : Moves Inv s₀ g₀ s e) :
      PlaysFrom s₀ g₀ s e (.done a)
  | halt {s₀ : σ} {g₀ : G} {s : σ} {e : G} {α : Type} (h : Abort) :
      PlaysFrom s₀ g₀ s e (.halt h : Proc σ α)
  | read {s₀ : σ} {g₀ : G} {s : σ} {e : G} {α : Type} {k : σ → Proc σ α}
      (next : PlaysFrom s₀ g₀ s e (k s)) : PlaysFrom s₀ g₀ s e (.read k)
  | write {s₀ : σ} {g₀ : G} {s s' : σ} {e : G} {α : Type} {p : Proc σ α}
      (next : PlaysFrom s₀ g₀ s' e p) : PlaysFrom s₀ g₀ s e (.write s' p)
  | sleep {s₀ : σ} {g₀ : G} {s : σ} {e : G} {α : Type} {ms : Nat} {p : Proc σ α} (g : G)
      (moves : Moves Inv s₀ g₀ s g) (asleep : Sleeps g)
      (next : ∀ s' F, Inv s' (g ::ₘ F) → PlaysFrom s' g s' e p) :
      PlaysFrom s₀ g₀ s e (.sleep ms p)
  | sleepUntil {s₀ : σ} {g₀ : G} {s : σ} {e : G} {α : Type} {t : Nat} {p : Proc σ α} (g : G)
      (moves : Moves Inv s₀ g₀ s g) (asleep : Sleeps g)
      (next : ∀ s' F, Inv s' (g ::ₘ F) → PlaysFrom s' g s' e p) :
      PlaysFrom s₀ g₀ s e (.sleepUntil t p)
  | await {s₀ : σ} {g₀ : G} {s : σ} {e : G} {α : Type} {r : σ → Bool} {p : Proc σ α} (g : G)
      (moves : Moves Inv s₀ g₀ s g)
      (next : ∀ s' F, r s' = true → Inv s' (g ::ₘ F) → PlaysFrom s' g s' e p) :
      PlaysFrom s₀ g₀ s e (.await r p)

/-- The program plays `g`, and ends playing `e`, from every state where the invariant holds with
`g` among any other roles. -/
def Plays {α : Type} (g e : G) (p : Proc σ α) : Prop :=
  ∀ s F, Inv s (g ::ₘ F) → PlaysFrom Inv Sleeps s g s e p

/-- The program sleeps until some instant. -/
def Asleep {α : Type} (p : Proc σ α) : Prop := ∃ t q, p = .sleepUntil t q

instance {α : Type} : DecidablePred (Asleep : Proc σ α → Prop)
  | .sleepUntil t q => isTrue ⟨t, q, rfl⟩
  | .done _ | .halt _ | .read _ | .write _ _ | .sleep _ _ | .await _ _ | .fork _ _ =>
    isFalse fun ⟨_, _, h⟩ => nomatch h

variable {Inv Sleeps} {α β : Type}

/-! ### Moves -/

lemma Moves.refl (s : σ) (g : G) : Moves Inv s g s g := fun _ h => h

lemma Moves.trans {s₀ s₁ s : σ} {g₀ g₁ g : G} (h₀ : Moves Inv s₀ g₀ s₁ g₁)
    (h₁ : Moves Inv s₁ g₁ s g) : Moves Inv s₀ g₀ s g :=
  fun F hF => h₁ F (h₀ F hF)

/-! ### Scheduling -/

/-- A stretch that starts at a point the program moved the invariant to may be counted from any
earlier one. -/
lemma PlaysFrom.rebase {s₁ s : σ} {g₁ e : G} {p : Proc σ α}
    (h : PlaysFrom Inv Sleeps s₁ g₁ s e p) {s₀ : σ} {g₀ : G} (h₀ : Moves Inv s₀ g₀ s₁ g₁) :
    PlaysFrom Inv Sleeps s₀ g₀ s e p := by
  induction h with
  | done a moves => exact .done a (h₀.trans moves)
  | halt h => exact .halt h
  | read _ ih => exact .read (ih h₀)
  | write _ ih => exact .write (ih h₀)
  | sleep g moves asleep next => exact .sleep g (h₀.trans moves) asleep next
  | sleepUntil g moves asleep next => exact .sleepUntil g (h₀.trans moves) asleep next
  | await g moves next => exact .await g (h₀.trans moves) next

/-- A program stopped where it sleeps plays its role from there. -/
lemma plays_sleepUntil {t : Nat} {p : Proc σ α} {g e : G} (asleep : Sleeps g)
    (next : ∀ s' F, Inv s' (g ::ₘ F) → PlaysFrom Inv Sleeps s' g s' e p) :
    Plays Inv Sleeps g e (.sleepUntil t p) :=
  fun s _ _ => .sleepUntil g (Moves.refl s g) asleep next

/-- A program stopped where it waits plays its role from there. -/
lemma plays_await {r : σ → Bool} {p : Proc σ α} {g e : G}
    (next : ∀ s' F, r s' = true → Inv s' (g ::ₘ F) → PlaysFrom Inv Sleeps s' g s' e p) :
    Plays Inv Sleeps g e (.await r p) :=
  fun s _ _ => .await g (Moves.refl s g) next

variable (Inv Sleeps) in
/-- What a poll leaves of a program that plays its role: an abort, or a program stopped at a
point the stretch moved the invariant to, playing its role there, and asleep only in a role of
`Sleeps`. -/
def Stops (s₀ : σ) (g₀ e : G) (x : Proc σ α × σ × Bool) : Prop :=
  (∃ h, x.1 = .halt h) ∨
    ∃ g, Moves Inv s₀ g₀ x.2.1 g ∧ Plays Inv Sleeps g e x.1 ∧ (Asleep x.1 → Sleeps g)

/-- A poll of a program that plays its role, from a state where the invariant holds, aborts or
stops at a point it moved the invariant to.

**Proof sketch.** Induction on the derivation, following the poll: a read or a write goes on at
once, a sleep becomes a sleep until its end and stops, a sleep that is over or a wait that is
ready goes on from the point the program moved the invariant to, and anything else stops where
it is. -/
theorem PlaysFrom.poll (now : Nat) {s₀ s : σ} {g₀ e : G} {p : Proc σ α}
    (h : PlaysFrom Inv Sleeps s₀ g₀ s e p) :
    ∀ F, Inv s₀ (g₀ ::ₘ F) → Stops Inv Sleeps s₀ g₀ e (Proc.poll now p s) := by
  induction h with
  | done a moves =>
    intro _ _
    refine .inr ⟨_, moves, fun s' _ _ => .done a (Moves.refl s' _), ?_⟩
    rintro ⟨t, q, hq⟩
    cases hq
  | halt h => exact fun _ _ => .inl ⟨h, rfl⟩
  | @read s₀ g₀ s e α k _ ih =>
    intro F hF
    have hpoll : Proc.poll now (.read k) s =
        ((Proc.poll now (k s) s).1, (Proc.poll now (k s) s).2.1, true) := rfl
    rw [hpoll]
    exact ih F hF
  | @write s₀ g₀ s s' e α p _ ih =>
    intro F hF
    have hpoll : Proc.poll now (.write s' p) s =
        ((Proc.poll now p s').1, (Proc.poll now p s').2.1, true) := rfl
    rw [hpoll]
    exact ih F hF
  | sleep g moves asleep next =>
    exact fun _ _ => .inr ⟨g, moves, plays_sleepUntil asleep next, fun _ => asleep⟩
  | @sleepUntil s₀ g₀ s e α t p g moves asleep next ih =>
    intro F hF
    simp only [Proc.poll]
    split
    · -- the sleep is over: the program goes on from the point it moved the invariant to
      rcases ih s F (moves F hF) F (moves F hF) with hh | ⟨g', hm, hp, ha⟩
      · exact .inl hh
      · exact .inr ⟨g', moves.trans hm, hp, ha⟩
    · exact .inr ⟨g, moves, plays_sleepUntil asleep next, fun _ => asleep⟩
  | @await s₀ g₀ s e α r p g moves next ih =>
    intro F hF
    simp only [Proc.poll]
    split
    · next hr =>
      rcases ih s F hr (moves F hF) F (moves F hF) with hh | ⟨g', hm, hp, ha⟩
      · exact .inl hh
      · exact .inr ⟨g', moves.trans hm, hp, ha⟩
    · refine .inr ⟨g, moves, plays_await next, ?_⟩
      rintro ⟨t, q, hq⟩
      cases hq

/-! ### Building programs that play a role -/

/-- Sequencing: the second part starts in the role the first part ends in.

**Proof sketch.** Induction on the first part's derivation: `bind` grafts the second part at
every leaf, where the first part has moved the invariant to its last role, so the second part
starts a stretch there that counts from the first part's start (`PlaysFrom.rebase`). -/
lemma PlaysFrom.bind {s₀ s : σ} {g₀ m e : G} {p : Proc σ α} {f : α → Proc σ β}
    (h : PlaysFrom Inv Sleeps s₀ g₀ s m p) (hf : ∀ a, Plays Inv Sleeps m e (f a)) :
    ∀ F, Inv s₀ (g₀ ::ₘ F) → PlaysFrom Inv Sleeps s₀ g₀ s e (p >>= f) := by
  induction h with
  | done a moves => exact fun F hF => (hf a _ F (moves F hF)).rebase moves
  | halt h => exact fun _ _ => .halt h
  | read _ ih => exact fun F hF => .read (ih hf F hF)
  | write _ ih => exact fun F hF => .write (ih hf F hF)
  | sleep g moves asleep _ ih =>
    exact fun _ _ => .sleep g moves asleep fun s' F hF => ih s' F hF hf F hF
  | sleepUntil g moves asleep _ ih =>
    exact fun _ _ => .sleepUntil g moves asleep fun s' F hF => ih s' F hF hf F hF
  | await g moves _ ih =>
    exact fun _ _ => .await g moves fun s' F hr hF => ih s' F hr hF hf F hF

lemma Plays.bind {g m e : G} {p : Proc σ α} {f : α → Proc σ β} (hp : Plays Inv Sleeps g m p)
    (hf : ∀ a, Plays Inv Sleeps m e (f a)) : Plays Inv Sleeps g e (p >>= f) :=
  fun s F hF => (hp s F hF).bind hf F hF

lemma Plays.pure (g : G) (a : α) : Plays Inv Sleeps g g (pure a : Proc σ α) :=
  fun s _ _ => .done a (Moves.refl s g)

lemma Plays.map {g e : G} {p : Proc σ α} (hp : Plays Inv Sleeps g e p) (f : α → β) :
    Plays Inv Sleeps g e (f <$> p) :=
  hp.bind fun a => Plays.pure e (f a)

/-- A change of the state in one step, then the rest from the state it leaves. -/
lemma PlaysFrom.modifyGet_bind {s₀ s : σ} {g₀ e : G} {f : σ → α × σ} {k : α → Proc σ β}
    (h : PlaysFrom Inv Sleeps s₀ g₀ (f s).2 e (k (f s).1)) :
    PlaysFrom Inv Sleeps s₀ g₀ s e (Proc.modifyGet f >>= k) :=
  .read (.write h)

/-- A look at the state, then the rest. -/
lemma PlaysFrom.gets_bind {s₀ s : σ} {g₀ e : G} {f : σ → α} {k : α → Proc σ β}
    (h : PlaysFrom Inv Sleeps s₀ g₀ s e (k (f s))) :
    PlaysFrom Inv Sleeps s₀ g₀ s e (Proc.gets f >>= k) :=
  .read h

/-! ### Programs side by side -/

section Cast

variable (Inv Sleeps) in
/-- Programs side by side, each playing its role and ending in `idle`, asleep only in a role of
`Sleeps`, in a state where the invariant holds with all their roles. -/
structure Cast (idle : G) (s : σ) (roles : List G) (ps : List (Proc σ α)) : Prop where
  valid : Inv s roles
  plays : List.Forall₂ (fun g p => Plays Inv Sleeps g idle p ∧ (Asleep p → Sleeps g)) roles ps

variable {idle : G} {s : σ} {roles : List G} {ps : List (Proc σ α)}

/-- A program that starts in `idle`, awake, joins the others when `idle` may always be added. -/
lemma Cast.join (h : Cast Inv Sleeps idle s roles ps) (hjoin : ∀ s F, Inv s F → Inv s (idle ::ₘ F))
    {p : Proc σ α} (hp : Plays Inv Sleeps idle idle p) (hawake : ¬ Asleep p) :
    Cast Inv Sleeps idle s (idle :: roles) (p :: ps) :=
  ⟨by simpa using hjoin s _ h.valid, .cons ⟨hp, fun ha => absurd ha hawake⟩ h.plays⟩

/-- The roles of the programs before the one at `pre.length`, its own, and those after it. -/
lemma Cast.split {pre post : List (Proc σ α)} {p : Proc σ α}
    (h : Cast Inv Sleeps idle s roles (pre ++ p :: post)) :
    ∃ rpre g rpost, roles = rpre ++ g :: rpost ∧
      List.Forall₂ (fun g p => Plays Inv Sleeps g idle p ∧ (Asleep p → Sleeps g)) rpre pre ∧
      Plays Inv Sleeps g idle p ∧
      List.Forall₂ (fun g p => Plays Inv Sleeps g idle p ∧ (Asleep p → Sleeps g)) rpost post := by
  have hpre := List.forall₂_take_append roles pre (p :: post) h.plays
  obtain ⟨g, rest, hp, hpost, hrest⟩ :=
    List.forall₂_cons_right_iff.1 (List.forall₂_drop_append roles pre (p :: post) h.plays)
  refine ⟨roles.take pre.length, g, rest, ?_, hpre, hp.1, hpost⟩
  have hroles := List.take_append_drop pre.length roles
  rw [hrest] at hroles
  exact hroles.symm

/-- The invariant with the roles of the programs before and after one, and that one's role. -/
lemma multiset_split (rpre rpost : List G) (g : G) :
    ((rpre ++ g :: rpost : List G) : Multiset G) = g ::ₘ ((rpre ++ rpost : List G) : Multiset G) := by
  simp only [← Multiset.coe_add, ← Multiset.cons_coe, Multiset.add_cons]

/-- A poll of any one of the programs keeps them cast, unless it aborts. -/
lemma Cast.poll {pre post : List (Proc σ α)} {p : Proc σ α}
    (h : Cast Inv Sleeps idle s roles (pre ++ p :: post)) (now : Nat)
    (hlive : ∀ a, (Proc.poll now p s).1 ≠ .halt a) :
    ∃ roles', Cast Inv Sleeps idle (Proc.poll now p s).2.1 roles'
      (pre ++ (Proc.poll now p s).1 :: post) := by
  obtain ⟨rpre, g, rpost, rfl, hpre, hp, hpost⟩ := h.split
  have hvalid := h.valid
  rw [multiset_split] at hvalid
  rcases (hp s _ hvalid).poll now _ hvalid with ⟨a, ha⟩ | ⟨g', hm, hp', ha⟩
  · exact absurd ha (hlive a)
  · refine ⟨rpre ++ g' :: rpost, ?_, List.rel_append hpre (.cons ⟨hp', ha⟩ hpost)⟩
    rw [multiset_split]
    exact hm _ hvalid

/-- A finished program leaves, when `idle` may always be taken away. -/
lemma Cast.drop {pre post : List (Proc σ α)} {a : α}
    (h : Cast Inv Sleeps idle s roles (pre ++ .done a :: post))
    (hdrop : ∀ s F, Inv s (idle ::ₘ F) → Inv s F) :
    ∃ roles', Cast Inv Sleeps idle s roles' (pre ++ post) := by
  obtain ⟨rpre, g, rpost, rfl, hpre, hp, hpost⟩ := h.split
  have hvalid := h.valid
  rw [multiset_split] at hvalid
  -- a finished program has moved the invariant to `idle`
  have hidle : Inv s (idle ::ₘ ((rpre ++ rpost : List G) : Multiset G)) := by
    cases hp s _ hvalid with
    | done _ moves => exact moves _ hvalid
  exact ⟨rpre ++ rpost, hdrop s _ hidle, List.rel_append hpre hpost⟩

end Cast

end Proc

end CorpusBench
