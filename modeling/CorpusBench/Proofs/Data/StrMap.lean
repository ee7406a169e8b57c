import Mathlib.Data.String.Basic
import Mathlib.Data.List.Pairwise
import CorpusBench.Data.StrMap

/-!
# Lookups in sorted maps and sets

Every map of the client is a `StrMap` and every set a `StrSet`: a list kept sorted by key.
This file gives each operation its equation through `lookup` (for maps) or `∈` (for sets), so
that invariants stated through lookups never look at positions in the list, and shows that
each operation keeps the list sorted.

Only erasing from a map needs sortedness for its equation: `erase` removes the first entry of
a key, which is its only entry when the keys are sorted.

## Main definitions

* `StrMap.Sorted`, `StrSet.Sorted` — strictly increasing keys.

## Main results

* `StrMap.lookup_insert`, `StrMap.lookup_erase`,
  `StrMap.lookup_modify`, `StrMap.lookup_map` — one equation per
  operation.
* `StrMap.Sorted.insert`, `StrMap.Sorted.erase` — sortedness is kept.
* `StrSet.mem_insert`, `StrSet.mem_erase`,
  `StrSet.Sorted.insert`, `StrSet.Sorted.erase`.
-/

namespace CorpusBench

/-- A computation that may fail, followed by another, succeeds exactly when both do. -/
lemma Except.bind_eq_ok {ε α β : Type} {x : Except ε α} {f : α → Except ε β} {b : β} :
    x >>= f = .ok b ↔ ∃ a, x = .ok a ∧ f a = .ok b := by
  cases x <;> simp [bind, Except.bind]

lemma Except.map_eq_ok {ε α β : Type} {f : α → β} {x : Except ε α} {b : β} :
    f <$> x = .ok b ↔ ∃ a, x = .ok a ∧ f a = b := by
  cases x <;> simp [Functor.map, Except.map]

namespace StrMap

variable {α β : Type}

/-- The keys of a map are strictly increasing, hence distinct. -/
def Sorted (m : StrMap α) : Prop := m.keys.Pairwise (· < ·)

@[simp] lemma keys_nil : keys ([] : StrMap α) = [] := rfl

@[simp] lemma keys_cons (k : String) (v : α) (m : StrMap α) :
    keys ((k, v) :: m) = k :: keys m := rfl

@[simp] lemma lookup_nil (j : String) : lookup j ([] : StrMap α) = none := rfl

lemma lookup_cons (j k : String) (v : α) (m : StrMap α) :
    lookup j ((k, v) :: m) = if j = k then some v else lookup j m := rfl

@[simp] lemma sorted_nil : Sorted ([] : StrMap α) := List.Pairwise.nil

lemma sorted_cons {k : String} {v : α} {m : StrMap α} :
    Sorted ((k, v) :: m) ↔ (∀ j ∈ m.keys, k < j) ∧ Sorted m := by
  simp [Sorted]

/-- A key has a value exactly when it is among the keys. -/
lemma isSome_lookup_iff (j : String) (m : StrMap α) : (lookup j m).isSome ↔ j ∈ m.keys := by
  induction m with
  | nil => simp
  | cons p m ih =>
    obtain ⟨k, v⟩ := p
    by_cases h : j = k <;> simp [lookup_cons, h, ih]

lemma lookup_eq_none_iff (j : String) (m : StrMap α) : lookup j m = none ↔ j ∉ m.keys := by
  rw [← isSome_lookup_iff, Option.not_isSome_iff_eq_none]

lemma containsKey_iff (j : String) (m : StrMap α) : containsKey j m = true ↔ j ∈ m.keys :=
  isSome_lookup_iff j m

/-- A key of a sorted map is below every key after it, so it has no second entry. -/
lemma Sorted.lookup_tail_eq_none {k : String} {v : α} {m : StrMap α}
    (h : Sorted ((k, v) :: m)) : lookup k m = none := by
  rw [lookup_eq_none_iff]
  intro hk
  exact lt_irrefl k ((sorted_cons.1 h).1 k hk)

lemma Sorted.nodup {m : StrMap α} (h : Sorted m) : m.keys.Nodup :=
  List.Pairwise.imp ne_of_lt h

/-! ### Insertion -/

/-- Insertion changes the value of one key. -/
lemma lookup_insert (k j : String) (v : α) (m : StrMap α) :
    lookup j (insert k v m) = if j = k then some v else lookup j m := by
  induction m with
  | nil => simp [insert, lookup_cons]
  | cons p m ih =>
    obtain ⟨k', v'⟩ := p
    unfold insert
    by_cases hlt : k < k'
    · simp [hlt, lookup_cons]
    · by_cases heq : k = k'
      · subst heq
        by_cases hj : j = k <;> simp [hj, lookup_cons]
      · simp only [hlt, heq, if_false, lookup_cons, ih]
        by_cases hj : j = k
        · simp [hj, heq]
        · simp [hj]

lemma mem_keys_insert (k j : String) (v : α) (m : StrMap α) :
    j ∈ (insert k v m).keys ↔ j = k ∨ j ∈ m.keys := by
  rw [← isSome_lookup_iff, ← isSome_lookup_iff, lookup_insert]
  by_cases hj : j = k <;> simp [hj]

/-- Insertion keeps a map sorted.

**Proof sketch.** Induction on the map.  When the new key goes in front it is below the old
head, hence below every key; when it goes further in, the head stays below every key of the
tail with the new key added, since the new key is above the head. -/
lemma Sorted.insert {m : StrMap α} (h : Sorted m) (k : String) (v : α) :
    Sorted (StrMap.insert k v m) := by
  induction m with
  | nil => simp [StrMap.insert, Sorted]
  | cons p m ih =>
    obtain ⟨k', v'⟩ := p
    obtain ⟨hhead, htail⟩ := sorted_cons.1 h
    unfold StrMap.insert
    by_cases hlt : k < k'
    · simp only [hlt, if_true]
      refine sorted_cons.2 ⟨?_, h⟩
      intro j hj
      rcases List.mem_cons.1 (by simpa using hj) with rfl | hj
      · exact hlt
      · exact lt_trans hlt (hhead j hj)
    · by_cases heq : k = k'
      · subst heq
        simpa [hlt] using sorted_cons.2 ⟨hhead, htail⟩
      · have hgt : k' < k := lt_of_le_of_ne (not_lt.1 hlt) (Ne.symm heq)
        simp only [hlt, heq, if_false]
        refine sorted_cons.2 ⟨?_, ih htail⟩
        intro j hj
        rcases (mem_keys_insert k j v m).1 hj with rfl | hj
        · exact hgt
        · exact hhead j hj

/-- Writing to a key that is present keeps the keys, in their order. -/
lemma keys_insert_of_mem {m : StrMap α} (h : Sorted m) {k : String} (hk : k ∈ m.keys) (v : α) :
    (insert k v m).keys = m.keys := by
  induction m with
  | nil => simp at hk
  | cons p m ih =>
    obtain ⟨k', v'⟩ := p
    obtain ⟨hhead, htail⟩ := sorted_cons.1 h
    unfold insert
    by_cases heq : k = k'
    · subst heq; simp
    · have hk' : k ∈ keys m := by simpa [heq] using hk
      have hlt : ¬ k < k' := fun hlt => lt_asymm hlt (hhead k hk')
      simp [hlt, heq, ih htail hk']

/-- In a sorted map an entry is found by its key. -/
lemma Sorted.lookup_of_mem {m : StrMap α} (h : Sorted m) {k : String} {v : α} (hm : (k, v) ∈ m) :
    lookup k m = some v := by
  induction m with
  | nil => simp at hm
  | cons p m ih =>
    obtain ⟨k', v'⟩ := p
    obtain ⟨hhead, htail⟩ := sorted_cons.1 h
    rcases List.mem_cons.1 hm with hp | hm
    · cases hp; simp [lookup_cons]
    · have hk : k ∈ keys m := List.mem_map_of_mem (f := Prod.fst) hm
      have hne : k ≠ k' := ne_of_gt (hhead k hk)
      simp [lookup_cons, hne, ih htail hm]

lemma mem_of_lookup {m : StrMap α} {k : String} {v : α} (h : lookup k m = some v) : (k, v) ∈ m := by
  induction m with
  | nil => simp at h
  | cons p m ih =>
    obtain ⟨k', v'⟩ := p
    by_cases hk : k = k'
    · subst hk
      simp only [lookup_cons, if_true, Option.some.injEq] at h
      simp [h]
    · simp only [lookup_cons, hk, if_false] at h
      exact List.mem_cons_of_mem _ (ih h)

/-- An entry of a map after a write is the entry written or one from before. -/
lemma mem_insert_cases {k : String} {v : α} {m : StrMap α} {p : String × α}
    (h : p ∈ insert k v m) : p = (k, v) ∨ p ∈ m := by
  induction m with
  | nil => simpa [insert] using h
  | cons q m ih =>
    obtain ⟨k', v'⟩ := q
    unfold insert at h
    split_ifs at h
    · rcases List.mem_cons.1 h with h | h
      · exact Or.inl h
      · exact Or.inr h
    · rcases List.mem_cons.1 h with h | h
      · exact Or.inl h
      · exact Or.inr (List.mem_cons_of_mem _ h)
    · rcases List.mem_cons.1 h with h | h
      · exact Or.inr (h ▸ List.mem_cons_self)
      · rcases ih h with h | h
        · exact Or.inl h
        · exact Or.inr (List.mem_cons_of_mem _ h)

/-! ### Erasure -/

lemma keys_erase_sublist (k : String) (m : StrMap α) : (erase k m).keys.Sublist m.keys := by
  induction m with
  | nil => simp [erase]
  | cons p m ih =>
    obtain ⟨k', v'⟩ := p
    by_cases h : k = k'
    · simp [erase, h]
    · simpa [erase, h] using ih

lemma Sorted.erase {m : StrMap α} (h : Sorted m) (k : String) : Sorted (StrMap.erase k m) :=
  List.Pairwise.sublist (keys_erase_sublist k m) h

lemma erase_sublist (k : String) (m : StrMap α) : (erase k m).Sublist m := by
  induction m with
  | nil => simp [erase]
  | cons p m ih =>
    obtain ⟨k', v'⟩ := p
    by_cases h : k = k'
    · simp [erase, h]
    · simpa [erase, h] using ih

/-- Erasing one key leaves the value of every other key, sorted or not. -/
lemma lookup_erase_of_ne {k j : String} (hj : j ≠ k) (m : StrMap α) :
    lookup j (erase k m) = lookup j m := by
  induction m with
  | nil => rfl
  | cons p m ih =>
    obtain ⟨k', v'⟩ := p
    by_cases hk : k = k'
    · subst hk
      simp [erase, lookup_cons, hj]
    · simp [erase, hk, lookup_cons, ih]

/-- Erasure removes the value of one key; the keys being distinct, no other entry of it
remains. -/
lemma lookup_erase {m : StrMap α} (h : Sorted m) (k j : String) :
    lookup j (erase k m) = if j = k then none else lookup j m := by
  induction m with
  | nil => simp [erase]
  | cons p m ih =>
    obtain ⟨k', v'⟩ := p
    have htail := (sorted_cons.1 h).2
    by_cases hk : k = k'
    · subst hk
      have hnone := h.lookup_tail_eq_none
      by_cases hj : j = k
      · subst hj; simp [erase, hnone]
      · simp [erase, hj, lookup_cons]
    · simp only [erase, hk, if_false, lookup_cons, ih htail]
      by_cases hj : j = k
      · subst hj; simp [hk]
      · simp [hj]

/-- The keys left by an erasure are the others. -/
lemma mem_keys_erase {m : StrMap α} (h : Sorted m) (k j : String) :
    j ∈ (erase k m).keys ↔ j ≠ k ∧ j ∈ m.keys := by
  rw [← isSome_lookup_iff, ← isSome_lookup_iff, lookup_erase h]
  by_cases hj : j = k <;> simp [hj]

/-- A second write under a key overwrites the first. -/
lemma insert_insert (k : String) (v v' : α) (m : StrMap α) :
    insert k v (insert k v' m) = insert k v m := by
  induction m with
  | nil => simp [insert]
  | cons p m ih =>
    obtain ⟨k', w⟩ := p
    by_cases hlt : k < k'
    · simp [insert, hlt]
    · by_cases heq : k = k'
      · subst heq
        simp [insert]
      · simp [insert, hlt, heq, ih]

/-- Erasing a key just written, that had no value before, gives the map back. -/
lemma erase_insert {k : String} (v : α) {m : StrMap α} (h : lookup k m = none) :
    erase k (insert k v m) = m := by
  induction m with
  | nil => simp [insert, erase]
  | cons p m ih =>
    obtain ⟨k', w⟩ := p
    have hne : k ≠ k' := by
      rintro rfl
      simp [lookup_cons] at h
    have hm : lookup k m = none := by simpa [lookup_cons, hne] using h
    by_cases hlt : k < k'
    · simp [insert, erase, hlt]
    · simp [insert, erase, hlt, hne, ih hm]

/-! ### Changing values in place -/

lemma keys_modify (k : String) (f : α → α) (m : StrMap α) : (modify k f m).keys = m.keys := by
  induction m with
  | nil => rfl
  | cons p m ih =>
    obtain ⟨k', v'⟩ := p
    by_cases h : k = k' <;> simp [modify, h, ih]

lemma Sorted.modify {m : StrMap α} (h : Sorted m) (k : String) (f : α → α) :
    Sorted (StrMap.modify k f m) := by
  rw [Sorted, keys_modify]; exact h

/-- Changing the value of one key in place. -/
lemma lookup_modify (k j : String) (f : α → α) (m : StrMap α) :
    lookup j (modify k f m) = if j = k then (lookup j m).map f else lookup j m := by
  induction m with
  | nil => simp [modify]
  | cons p m ih =>
    obtain ⟨k', v'⟩ := p
    by_cases hk : k = k'
    · subst hk
      by_cases hj : j = k <;> simp [modify, hj, lookup_cons]
    · simp only [modify, hk, if_false, lookup_cons, ih]
      by_cases hj : j = k
      · subst hj; simp [hk]
      · simp [hj]

/-- A map of the entries that keeps every key changes each value on its own. -/
lemma lookup_map (F : String × α → String × β) (hF : ∀ p, (F p).1 = p.1) (j : String)
    (m : StrMap α) : lookup j (m.map F) = (lookup j m).map fun v => (F (j, v)).2 := by
  induction m with
  | nil => rfl
  | cons p m ih =>
    obtain ⟨k, v⟩ := p
    have hpair : F (k, v) = (k, (F (k, v)).2) := Prod.ext (hF (k, v)) rfl
    rw [List.map_cons, hpair, lookup_cons, lookup_cons, ih]
    by_cases hj : j = k
    · subst hj; simp
    · simp [hj]

lemma keys_map (F : String × α → String × β) (hF : ∀ p, (F p).1 = p.1) (m : StrMap α) :
    StrMap.keys (m.map F) = m.keys := by
  simp [keys, hF]

lemma Sorted.map {m : StrMap α} (h : Sorted m) (F : String × α → String × β)
    (hF : ∀ p, (F p).1 = p.1) : StrMap.Sorted (m.map F) := by
  rw [Sorted, keys_map F hF]; exact h

/-- A pass over the entries that may fail, and that keeps every key and a view of every value,
keeps the keys and the view of the value under each key. -/
lemma mapM_ok {ε γ : Type} {F : String × α → Except ε (String × β)} {V : α → γ} {W : β → γ}
    (hF : ∀ p q, F p = .ok q → q.1 = p.1 ∧ W q.2 = V p.2) {m : StrMap α} {m' : StrMap β}
    (h : m.mapM F = .ok m') :
    m'.keys = m.keys ∧ ∀ j, (lookup j m').map W = (lookup j m).map V := by
  -- the pass keeps the keys with their views, entry by entry
  have hviews : ∀ (l : StrMap α) (l' : StrMap β), l.mapM F = .ok l' →
      l'.map (fun q => (q.1, W q.2)) = l.map (fun p => (p.1, V p.2)) := by
    intro l
    induction l with
    | nil => intro l' h; cases h; rfl
    | cons p l ih =>
      intro l' h
      rw [List.mapM_cons] at h
      cases hp : F p with
      | error e => rw [hp] at h; cases h
      | ok q =>
        cases hl : l.mapM F with
        | error e => rw [hp] at h; simp only [hl] at h; cases h
        | ok qs =>
          rw [hp] at h; simp only [hl] at h; cases h
          obtain ⟨h1, h2⟩ := hF p q hp
          simp [ih qs hl, h1, h2]
  have hmap := hviews m m' h
  refine ⟨?_, fun j => ?_⟩
  · simpa [keys, Function.comp_def] using congrArg (List.map Prod.fst) hmap
  · have := congrArg (lookup j) hmap
    rwa [lookup_map (fun q : String × β => (q.1, W q.2)) (fun _ => rfl),
      lookup_map (fun p : String × α => (p.1, V p.2)) (fun _ => rfl)] at this

end StrMap

namespace StrSet

/-- The members of a set are strictly increasing, hence distinct. -/
def Sorted (s : StrSet) : Prop := s.Pairwise (· < ·)

lemma contains_iff (k : String) (s : StrSet) : contains k s = true ↔ k ∈ s := by
  simp [contains]

lemma contains_eq_false (k : String) (s : StrSet) : contains k s = false ↔ k ∉ s := by
  rw [← contains_iff, Bool.not_eq_true]

lemma mem_insert (k j : String) (s : StrSet) : j ∈ insert k s ↔ j = k ∨ j ∈ s := by
  induction s with
  | nil => simp [insert]
  | cons k' s ih =>
    unfold insert
    by_cases hlt : k < k'
    · simp [hlt]
    · by_cases heq : k = k'
      · subst heq; simp
      · simp only [hlt, heq, if_false, List.mem_cons, ih]
        tauto

lemma Sorted.insert {s : StrSet} (h : Sorted s) (k : String) : Sorted (StrSet.insert k s) := by
  induction s with
  | nil => simp [StrSet.insert, Sorted]
  | cons k' s ih =>
    obtain ⟨hhead, htail⟩ := List.pairwise_cons.1 h
    unfold StrSet.insert
    by_cases hlt : k < k'
    · simp only [hlt, if_true]
      refine List.pairwise_cons.2 ⟨?_, h⟩
      intro j hj
      rcases List.mem_cons.1 hj with rfl | hj
      · exact hlt
      · exact lt_trans hlt (hhead j hj)
    · by_cases heq : k = k'
      · subst heq; simpa [hlt] using h
      · have hgt : k' < k := lt_of_le_of_ne (not_lt.1 hlt) (Ne.symm heq)
        simp only [hlt, heq, if_false]
        refine List.pairwise_cons.2 ⟨?_, ih htail⟩
        intro j hj
        rcases (mem_insert k j s).1 hj with rfl | hj
        · exact hgt
        · exact hhead j hj

/-- Adding a member of a sorted set gives the same list. -/
lemma insert_of_mem {s : StrSet} (h : Sorted s) {k : String} (hk : k ∈ s) : insert k s = s := by
  induction s with
  | nil => simp at hk
  | cons k' s ih =>
    obtain ⟨hhead, htail⟩ := List.pairwise_cons.1 h
    unfold insert
    by_cases heq : k = k'
    · subst heq; simp
    · have hk' : k ∈ s := by simpa [heq] using hk
      have hlt : ¬ k < k' := fun hlt => lt_asymm hlt (hhead k hk')
      simp [hlt, heq, ih htail hk']

lemma mem_erase (k j : String) (s : StrSet) : j ∈ erase k s ↔ j ∈ s ∧ j ≠ k := by
  simp [erase]

lemma Sorted.erase {s : StrSet} (h : Sorted s) (k : String) : Sorted (StrSet.erase k s) :=
  List.Pairwise.sublist List.filter_sublist h

lemma Sorted.nodup {s : StrSet} (h : Sorted s) : s.Nodup := List.Pairwise.imp ne_of_lt h

@[simp] lemma erase_erase (k : String) (s : StrSet) : erase k (erase k s) = erase k s := by
  simp [erase, List.filter_filter]

/-- Removing a string just added, that was not a member, gives the set back. -/
lemma erase_insert {k : String} {s : StrSet} (h : k ∉ s) : erase k (insert k s) = s := by
  -- the added string is the only one the removal finds
  have hadd : ∀ s : StrSet, erase k (insert k s) = erase k s := by
    intro s
    induction s with
    | nil => simp [insert, erase]
    | cons k' s ih =>
      unfold insert
      by_cases hlt : k < k'
      · simp [hlt, erase]
      · by_cases heq : k = k'
        · simp [heq]
        · simp only [erase] at ih
          simp only [hlt, heq, if_false, erase, List.filter_cons, ih]
  rw [hadd, erase, List.filter_eq_self]
  intro a ha
  have hne : a ≠ k := fun hak => h (hak ▸ ha)
  simpa using hne

end StrSet

end CorpusBench
