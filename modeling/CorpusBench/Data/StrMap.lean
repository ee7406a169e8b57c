/-!
# Maps and sets keyed by text

The ordered containers of the client: a map from strings to values and a set of strings, both
kept sorted by key (the code-point order of strings, which is also the byte order of their
UTF-8 encodings) with no key twice.  Iteration visits keys in that order, which is the order
every answer lists them in.

## Main definitions

* `StrMap` — sorted association lists: `insert`, `lookup`, `erase`, `ofList`.
* `StrSet` — sorted duplicate-free lists: `insert`, `erase`, `contains`, `ofList`.

## Main results

* `StrMap.lookup_insert_self` — a key reads back the value last written to it.
* `StrSet.contains_insert_self` — an inserted string is a member.
-/

namespace CorpusBench

/-- A map from strings to values, sorted by key with no key twice. -/
abbrev StrMap (α : Type) := List (String × α)

namespace StrMap

variable {α : Type}

/-- Write `v` under `k`, keeping the keys sorted; a key already present is overwritten in
place. -/
def insert (k : String) (v : α) : StrMap α → StrMap α
  | [] => [(k, v)]
  | (k', v') :: rest =>
    if k < k' then (k, v) :: (k', v') :: rest
    else if k = k' then (k, v) :: rest
    else (k', v') :: insert k v rest

/-- The value stored under `k`. -/
def lookup (k : String) : StrMap α → Option α
  | [] => none
  | (k', v) :: rest => if k = k' then some v else lookup k rest

/-- Whether `k` has a value. -/
def containsKey (k : String) (m : StrMap α) : Bool := (lookup k m).isSome

/-- Remove the entry of `k`. -/
def erase (k : String) : StrMap α → StrMap α
  | [] => []
  | (k', v) :: rest => if k = k' then rest else (k', v) :: erase k rest

/-- Build a map from pairs in any order; of two equal keys the later wins. -/
def ofList (pairs : List (String × α)) : StrMap α :=
  pairs.foldl (fun acc p => insert p.1 p.2 acc) []

/-- Apply `f` to the value of `k`, if any. -/
def modify (k : String) (f : α → α) : StrMap α → StrMap α
  | [] => []
  | (k', v) :: rest => if k = k' then (k', f v) :: rest else (k', v) :: modify k f rest

/-- The keys in order. -/
def keys (m : StrMap α) : List String := m.map Prod.fst

theorem lookup_insert_self (k : String) (v : α) (m : StrMap α) :
    lookup k (insert k v m) = some v := by
  induction m with
  | nil => simp [insert, lookup]
  | cons p rest ih =>
    obtain ⟨k', v'⟩ := p
    unfold insert
    by_cases h1 : k < k'
    · simp [h1, lookup]
    · by_cases h2 : k = k'
      · subst h2; simp [lookup]
      · simp [h1, h2, lookup, ih]

end StrMap

/-- A set of strings, sorted with no string twice. -/
abbrev StrSet := List String

namespace StrSet

/-- Add a string, keeping the order; a member is not added again. -/
def insert (k : String) : StrSet → StrSet
  | [] => [k]
  | k' :: rest =>
    if k < k' then k :: k' :: rest
    else if k = k' then k' :: rest
    else k' :: insert k rest

/-- Whether a string is a member. -/
def contains (k : String) (s : StrSet) : Bool := s.any (· == k)

/-- Remove a string. -/
def erase (k : String) (s : StrSet) : StrSet := s.filter (· != k)

/-- The set of the strings of a list. -/
def ofList (xs : List String) : StrSet := xs.foldl (fun acc k => insert k acc) []

theorem contains_insert_self (k : String) (s : StrSet) : contains k (insert k s) = true := by
  induction s with
  | nil => simp [insert, contains]
  | cons k' rest ih =>
    unfold insert
    by_cases h1 : k < k'
    · simp [h1, contains]
    · by_cases h2 : k = k'
      · subst h2; simp [contains]
      · simp only [h1, h2, if_false]
        simp only [contains, List.any_cons, Bool.or_eq_true] at ih ⊢
        exact Or.inr ih

end StrSet

end CorpusBench
