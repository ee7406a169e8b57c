import CorpusBench.Proofs.Concurrent.Sequential

/-!
# Programs side by side while one of them sleeps

A poll runs every part of a program that can run at the current instant.  Two kinds of
programs are simple to follow through it.  An *instant* program only reads and writes the state
and then ends: one poll runs it to its end (`Proc.Instant.poll`).  A program that *sleeps then*
continues reads and writes the state and then sleeps: one poll runs it up to the sleep, which
becomes a sleep until the instant it ends (`Proc.SleepsThen.poll`).

When programs run side by side and the first sleeps while the others are instant, the others
run, in order, in the first poll, while the first one sleeps; the second poll moves nothing, the
clock jumps to the end of the sleep, and the third poll runs the first program to its end, from
the state the others left (`Proc.runFrom_joinAll_sleepsThen`).  This is how events that race a
request are handled: the first starts the request and waits for its answer, and the others are
dealt with while it waits.

## Main definitions

* `Proc.Instant` — a program that ends within the poll that starts it.
* `Proc.SleepsThen` — a program that reads and writes, then sleeps.
* `Proc.InstantAll` — programs that end, one after another, within one poll.

## Main results

* `Proc.instant_bind`, `Proc.instant_zoom` — the rules for sequences and
  for programs over a part of the state.
* `Proc.pollAll_instantAll` — one poll runs instant children to their ends.
* `Proc.runFrom_joinAll_sleepsThen` — the run of programs side by side when the
  first sleeps once and the others are instant.
-/

namespace CorpusBench

namespace Proc

variable {σ : Type} {α β : Type}

/-! ### Programs that end within one poll -/

/-- A run of `p` from `s` ends within the poll that starts it: it reads and writes the state and
ends, with no sleep, wait, abort or fork on the way. -/
def Instant : Proc σ α → σ → Prop
  | .done _, _ => True
  | .read k, s => Instant (k s) s
  | .write s' n, _ => Instant n s'
  | _, _ => False

@[simp] lemma instant_pure (a : α) (s : σ) : Instant (pure a : Proc σ α) s := trivial

/-- A sequence is instant when its first part is and the rest is from wherever the first part
ends. -/
lemma instant_bind (f : α → Proc σ β) :
    ∀ (p : Proc σ α) (s : σ), Instant (p >>= f) s ↔ Instant p s ∧ wp p (fun a s' => Instant (f a) s') s
  | .done _, _ => iff_of_eq (true_and _).symm
  | .halt _, _ => iff_of_eq (false_and _).symm
  | .read k, s => instant_bind f (k s) s
  | .write s' n, _ => instant_bind f n s'
  | .sleep _ _, _ => iff_of_eq (false_and _).symm
  | .sleepUntil _ _, _ => iff_of_eq (false_and _).symm
  | .await _ _, _ => iff_of_eq (false_and _).symm
  | .fork _ _, _ => iff_of_eq (false_and _).symm

/-- An instant program has the trivial postcondition: it does not fork. -/
lemma wp_true_of_instant : ∀ (p : Proc σ α) (s : σ), Instant p s → wp p (fun _ _ => True) s
  | .done _, _, _ => trivial
  | .read k, s, h => wp_true_of_instant (k s) s h
  | .write s' n, _, h => wp_true_of_instant n s' h
  | .halt _, _, h => h.elim
  | .sleep _ _, _, h => h.elim
  | .sleepUntil _ _, _, h => h.elim
  | .await _ _, _, h => h.elim
  | .fork _ _, _, h => h.elim

/-- An instant program finishes when run alone. -/
lemma Instant.finishes : ∀ {p : Proc σ α} {s : σ}, Instant p s → Finishes p s
  | .done _, _, _ => trivial
  | .read k, s, h => Instant.finishes (p := k s) h
  | .write _ n, _, h => Instant.finishes (p := n) h
  | .halt _, _, h => h.elim
  | .sleep _ _, _, h => h.elim
  | .sleepUntil _ _, _, h => h.elim
  | .await _ _, _, h => h.elim
  | .fork _ _, _, h => h.elim

/-- A sequence of instant programs, the second whatever the first's result, is instant. -/
lemma Instant.bind {p : Proc σ α} {f : α → Proc σ β} {s : σ} (hp : Instant p s)
    (hf : ∀ a s', Instant (f a) s') : Instant (p >>= f) s :=
  (instant_bind f p s).2 ⟨hp, wp_mono (fun a s' _ => hf a s') p s (wp_true_of_instant p s hp)⟩

@[simp] lemma instant_map (f : α → β) (p : Proc σ α) (s : σ) :
    Instant (f <$> p) s ↔ Instant p s := by
  rw [show f <$> p = p >>= fun a => pure (f a) from rfl, instant_bind]
  exact ⟨And.left, fun h => ⟨h, wp_mono (fun _ _ _ => trivial) p s (wp_true_of_instant p s h)⟩⟩

@[simp] lemma instant_get (s : σ) : Instant Proc.get s := trivial

@[simp] lemma instant_gets (f : σ → α) (s : σ) : Instant (Proc.gets f) s := trivial

@[simp] lemma instant_modify (f : σ → σ) (s : σ) : Instant (Proc.modify f) s := trivial

@[simp] lemma instant_modifyGet (f : σ → α × σ) (s : σ) : Instant (Proc.modifyGet f) s :=
  trivial

/-- A program over a part of the state is instant when it is instant on the part. -/
lemma instant_zoom {τ : Type} {view : σ → τ} {update : τ → σ → σ}
    (view_update : ∀ t s, view (update t s) = t) :
    ∀ (p : Proc τ α) (s : σ), Instant (zoom view update p) s ↔ Instant p (view s)
  | .done _, _ => Iff.rfl
  | .halt _, _ => Iff.rfl
  | .read k, s => instant_zoom view_update (k (view s)) s
  | .write t n, s => by
    show Instant (zoom view update n) (update t s) ↔ Instant n t
    rw [instant_zoom view_update n, view_update]
  | .sleep _ _, _ => Iff.rfl
  | .sleepUntil _ _, _ => Iff.rfl
  | .await _ _, _ => Iff.rfl
  | .fork _ _, _ => Iff.rfl

/-- One poll runs an instant program to its end, in the postcondition of its weakest
precondition. -/
lemma Instant.poll (now : Nat) {Q : α → σ → Prop} :
    ∀ {p : Proc σ α} {s : σ}, Instant p s → wp p Q s →
      ∃ a s' m, Proc.poll now p s = (.done a, s', m) ∧ Q a s'
  | .done a, s, _, hq => ⟨a, s, false, rfl, hq⟩
  | .read k, s, hi, hq => by
    obtain ⟨a, s', m, hpoll, ha⟩ := Instant.poll now (p := k s) hi hq
    exact ⟨a, s', true, by simp only [Proc.poll, hpoll], ha⟩
  | .write t n, _, hi, hq => by
    obtain ⟨a, s', m, hpoll, ha⟩ := Instant.poll now (p := n) hi hq
    exact ⟨a, s', true, by simp only [Proc.poll, hpoll], ha⟩
  | .halt _, _, hi, _ => hi.elim
  | .sleep _ _, _, hi, _ => hi.elim
  | .sleepUntil _ _, _, hi, _ => hi.elim
  | .await _ _, _, hi, _ => hi.elim
  | .fork _ _, _, hi, _ => hi.elim

/-! ### Programs that read and write, then sleep -/

/-- A run of `p` from `s` reads and writes the state and then sleeps for `ms` milliseconds,
with the state `s'` and the continuation `n` such that `P ms n s'`. -/
def SleepsThen : Proc σ α → (Nat → Proc σ α → σ → Prop) → σ → Prop
  | .read k, P, s => SleepsThen (k s) P s
  | .write s' n, P, _ => SleepsThen n P s'
  | .sleep ms n, P, s => P ms n s
  | _, _, _ => False

@[simp] lemma sleepsThen_pause (ms : Nat) (P : Nat → Proc σ Unit → σ → Prop) (s : σ) :
    SleepsThen (Proc.pause ms) P s ↔ P ms (pure ()) s := Iff.rfl

/-- A sequence whose first part sleeps sleeps there, and continues with the rest. -/
lemma SleepsThen.bind_left (f : α → Proc σ β) {P : Nat → Proc σ β → σ → Prop} :
    ∀ {p : Proc σ α} {s : σ}, SleepsThen p (fun ms n s' => P ms (n >>= f) s') s →
      SleepsThen (p >>= f) P s
  | .read k, s, h => SleepsThen.bind_left f (p := k s) h
  | .write _ n, _, h => SleepsThen.bind_left f (p := n) h
  | .sleep _ _, _, h => h
  | .done _, _, h => h.elim
  | .halt _, _, h => h.elim
  | .sleepUntil _ _, _, h => h.elim
  | .await _ _, _, h => h.elim
  | .fork _ _, _, h => h.elim

/-- A sequence whose first part is instant sleeps where the rest does. -/
lemma SleepsThen.bind_right (f : α → Proc σ β) {P : Nat → Proc σ β → σ → Prop} :
    ∀ {p : Proc σ α} {s : σ}, Instant p s → wp p (fun a s' => SleepsThen (f a) P s') s →
      SleepsThen (p >>= f) P s
  | .done _, _, _, h => h
  | .read k, s, hi, h => SleepsThen.bind_right f (p := k s) hi h
  | .write _ n, _, hi, h => SleepsThen.bind_right f (p := n) hi h
  | .halt _, _, hi, _ => hi.elim
  | .sleep _ _, _, hi, _ => hi.elim
  | .sleepUntil _ _, _, hi, _ => hi.elim
  | .await _ _, _, hi, _ => hi.elim
  | .fork _ _, _, hi, _ => hi.elim

section Zoom

variable {τ : Type} {view : σ → τ} {update : τ → σ → σ}

/-- A program over a part of the state sleeps where it sleeps on the part, with the part it
leaves put back into the state it started from. -/
lemma SleepsThen.zoom (view_update : ∀ t s, view (update t s) = t)
    (update_update : ∀ t t' s, update t' (update t s) = update t' s)
    (update_view : ∀ s, update (view s) s = s) {P : Nat → Proc σ α → σ → Prop} :
    ∀ {p : Proc τ α} {s : σ},
      SleepsThen p (fun ms n t => P ms (Proc.zoom view update n) (update t s)) (view s) →
        SleepsThen (Proc.zoom view update p) P s
  | .read k, s, h => SleepsThen.zoom view_update update_update update_view (p := k (view s)) h
  | .write t n, s, h => by
    -- the write puts the part back; later writes overwrite it
    have h' : SleepsThen n (fun ms n t' => P ms (Proc.zoom view update n) (update t' s)) t := h
    refine SleepsThen.zoom view_update update_update update_view (p := n) (s := update t s) ?_
    rw [view_update]
    simpa only [update_update] using h'
  | .sleep ms n, s, h => by
    have h' : P ms (Proc.zoom view update n) (update (view s) s) := h
    rwa [update_view] at h'
  | .done _, _, h => h.elim
  | .halt _, _, h => h.elim
  | .sleepUntil _ _, _, h => h.elim
  | .await _ _, _, h => h.elim
  | .fork _ _, _, h => h.elim

end Zoom

/-- One poll runs a program that sleeps then continues up to its sleep, which becomes a sleep
until the instant it ends. -/
lemma SleepsThen.poll (now : Nat) {P : Nat → Proc σ α → σ → Prop} :
    ∀ {p : Proc σ α} {s : σ}, SleepsThen p P s →
      ∃ ms n s', Proc.poll now p s = (.sleepUntil (now + ms) n, s', true) ∧ P ms n s'
  | .read k, s, h => by
    obtain ⟨ms, n, s', hpoll, hp⟩ := SleepsThen.poll now (p := k s) h
    exact ⟨ms, n, s', by simp only [Proc.poll, hpoll], hp⟩
  | .write t n, _, h => by
    obtain ⟨ms, n', s', hpoll, hp⟩ := SleepsThen.poll now (p := n) h
    exact ⟨ms, n', s', by simp only [Proc.poll, hpoll], hp⟩
  | .sleep ms n, s, h => ⟨ms, n, s, rfl, h⟩
  | .done _, _, h => h.elim
  | .halt _, _, h => h.elim
  | .sleepUntil _ _, _, h => h.elim
  | .await _ _, _, h => h.elim
  | .fork _ _, _, h => h.elim

/-- A sleep that is over goes on within the poll. -/
lemma poll_sleepUntil_of_le {t now : Nat} (h : t ≤ now) (p : Proc σ α) (s : σ) :
    Proc.poll now (.sleepUntil t p) s = ((Proc.poll now p s).1, (Proc.poll now p s).2.1, true) := by
  simp only [Proc.poll, if_pos h]

/-- A sleep that is not over stays as it is. -/
lemma poll_sleepUntil_of_lt {t now : Nat} (h : now < t) (p : Proc σ α) (s : σ) :
    Proc.poll now (.sleepUntil t p) s = (.sleepUntil t p, s, false) := by
  simp only [Proc.poll, if_neg (Nat.not_le_of_lt h)]

/-- A poll of a program whose result is mapped is the poll of the program, its result mapped:
the map only ever runs at the program's end, where it runs at once. -/
lemma poll_map (now : Nat) (f : α → β) :
    ∀ (p : Proc σ α) (s : σ), Proc.poll now (f <$> p) s =
      (f <$> (Proc.poll now p s).1, (Proc.poll now p s).2.1, (Proc.poll now p s).2.2)
  | .done _, _ => rfl
  | .halt _, _ => rfl
  | .read k, s => by
    show Proc.poll now (.read fun s' => f <$> k s') s = _
    simp only [Proc.poll, poll_map now f (k s) s]
  | .write s' n, _ => by
    show Proc.poll now (.write s' (f <$> n)) _ = _
    simp only [Proc.poll, poll_map now f n s']
  | .sleep _ _, _ => rfl
  | .sleepUntil t n, s => by
    show Proc.poll now (.sleepUntil t (f <$> n)) s = _
    simp only [Proc.poll]
    split
    · simp only [poll_map now f n s]
    · rfl
  | .await r n, s => by
    show Proc.poll now (.await r (f <$> n)) s = _
    simp only [Proc.poll]
    split
    · simp only [poll_map now f n s]
    · rfl
  | .fork cs k, s => by
    show Proc.poll now (.fork cs fun rs => f <$> k rs) s = _
    simp only [Proc.poll]
    rcases pollAll now cs s with ⟨cs', s', moved⟩
    dsimp only
    split
    · rfl
    · split
      · next rs _ => simp only [poll_map now f (k rs) s']
      · rfl

/-! ### Children that end within one poll -/

/-- Programs that, run one after another from `s`, each end within one poll, with their results
and the state the last leaves such that `Q`. -/
def InstantAll : List (Proc σ β) → (List β → σ → Prop) → σ → Prop
  | [], Q, s => Q [] s
  | p :: ps, Q, s => Instant p s ∧ wp p (fun b s' => InstantAll ps (fun bs => Q (b :: bs)) s') s

/-- The children of a fork, all finished. -/
lemma firstHalt_ofList_done (bs : List β) :
    (Procs.ofList (bs.map fun b => (Proc.done b : Proc σ β))).firstHalt = none := by
  induction bs with
  | nil => rfl
  | cons b bs ih => exact ih

lemma results_ofList_done (bs : List β) :
    (Procs.ofList (bs.map fun b => (Proc.done b : Proc σ β))).results = some bs := by
  induction bs with
  | nil => rfl
  | cons b bs ih => simp only [List.map_cons, Procs.ofList, Procs.results, ih]; rfl

/-- A poll of finished children moves nothing. -/
lemma pollAll_done (now : Nat) (bs : List β) (s : σ) :
    pollAll now (Procs.ofList (bs.map fun b => (Proc.done b : Proc σ β))) s =
      (Procs.ofList (bs.map fun b => (Proc.done b : Proc σ β)), s, false) := by
  induction bs with
  | nil => rfl
  | cons b bs ih => simp only [List.map_cons, Procs.ofList, pollAll, Proc.poll, ih, Bool.or_false]

/-- Finished children do not sleep. -/
lemma nextWakeAll_done (bs : List β) :
    nextWakeAll (Procs.ofList (bs.map fun b => (Proc.done b : Proc σ β))) = none := by
  induction bs with
  | nil => rfl
  | cons b bs ih => simp only [List.map_cons, Procs.ofList, nextWakeAll, nextWake, ih]

/-- One poll runs children that end within it to their ends, one after another. -/
lemma pollAll_instantAll (now : Nat) {Q : List β → σ → Prop} :
    ∀ {ps : List (Proc σ β)} {s : σ}, InstantAll ps Q s →
      ∃ bs s' m, pollAll now (Procs.ofList ps) s =
        (Procs.ofList (bs.map fun b => (Proc.done b : Proc σ β)), s', m) ∧ Q bs s'
  | [], s, h => ⟨[], s, false, rfl, h⟩
  | p :: ps, s, ⟨hi, hq⟩ => by
    obtain ⟨b, s₁, m₁, hpoll, hrest⟩ := hi.poll now hq
    obtain ⟨bs, s₂, m₂, hall, hQ⟩ := pollAll_instantAll now hrest
    refine ⟨b :: bs, s₂, m₁ || m₂, ?_, hQ⟩
    simp only [Procs.ofList, pollAll, hpoll, hall, List.map_cons]

/-! ### Side by side while the first one sleeps -/

/-- Programs side by side, the first of which reads and writes and then sleeps, while the others
end at once, one after another, from the state it leaves; the first continues from the state
they leave and ends at once when its sleep is over.  The run takes three polls: the first runs
everything up to the sleep, the second moves nothing, the clock jumps to the end of the sleep,
and the third runs the first program to its end. -/
theorem runFrom_joinAll_sleepsThen {p : Proc σ β} {ps : List (Proc σ β)} {s : σ}
    {Q : Nat → List β → σ → Prop}
    (h : SleepsThen p (fun ms n s₁ => 0 < ms ∧
      InstantAll ps (fun bs s₂ => Instant n s₂ ∧ wp n (fun b s₃ => Q ms (b :: bs) s₃) s₂) s₁) s)
    (now : Nat) :
    ∃ ms rs s', (∀ fuel, runFrom (fuel + 3) now (joinAll (p :: ps)) s = .finished rs s' (now + ms)) ∧
      Q ms rs s' := by
  obtain ⟨ms, n, s₁, hpoll₁, hpos, hall⟩ := h.poll now
  obtain ⟨bs, s₂, m, hpollAll, hn, hwp⟩ := pollAll_instantAll now hall
  obtain ⟨b, s₃, m', hpoll₃, hQ⟩ := hn.poll (now + ms) hwp
  refine ⟨ms, b :: bs, s₃, fun fuel => ?_, hQ⟩
  let rest := Procs.ofList (bs.map fun b => (Proc.done b : Proc σ β))
  let waiting : Proc σ (List β) := .fork (.cons (.sleepUntil (now + ms) n) rest) .done
  -- the first poll runs the others while the first one sleeps
  have hfirst : poll now (joinAll (p :: ps)) s = (waiting, s₂, true) := by
    simp only [joinAll, Procs.ofList, Proc.poll, pollAll, hpoll₁, hpollAll, Procs.firstHalt,
      firstHalt_ofList_done, Procs.results, Bool.true_or, waiting, rest]
  -- the second moves nothing, and the clock jumps to the end of the sleep
  have hsecond : poll now waiting s₂ = (waiting, s₂, false) := by
    have hlt : ¬ now + ms ≤ now := by omega
    simp only [waiting, rest, Proc.poll, pollAll, if_neg hlt, pollAll_done, Procs.firstHalt,
      firstHalt_ofList_done, Procs.results, Bool.or_false]
  have hwake : nextWake waiting = some (now + ms) := by
    simp only [waiting, rest, nextWake, nextWakeAll, nextWakeAll_done]
  -- the third runs the first one to its end
  have hthird : poll (now + ms) waiting s₂ = (.done (b :: bs), s₃, true) := by
    simp only [waiting, rest, Proc.poll, pollAll, Nat.le_refl, if_true, hpoll₃, pollAll_done,
      Procs.firstHalt, firstHalt_ofList_done, Procs.results, results_ofList_done]
    rfl
  show runFrom (fuel + 2 + 1) now (joinAll (p :: ps)) s = _
  rw [runFrom, hfirst]
  show runFrom (fuel + 1 + 1) now waiting s₂ = _
  -- nothing moved: the run waits for the wake-up of the sleep
  rw [runFrom, hsecond]
  simp only [waiting] at hwake ⊢
  rw [hwake]
  dsimp only
  rw [Nat.max_eq_left (Nat.le_add_right now ms), runFrom, hthird]

end Proc

end CorpusBench
