/-!
# Tables of code points

Unicode character data gives every code point a value, and the values come in runs of
consecutive code points.  This module holds the three shapes of table the library reads such
data into, and the text they are written in.

* A **code set** is an increasing array of boundaries: the code points from a boundary at an
  even place up to the next boundary are in the set, so a code point is in it exactly when an
  odd number of boundaries are at or below it.
* A **class table** gives each run a small number: an increasing array of boundaries, each with
  the value of the run it starts; below the first boundary the value is `0`.
* A **code map** sends code points to texts.  Each entry covers a run of code points at a fixed
  stride, and either shifts each of them by one distance or sends all of them to one text.  The
  extent of an entry holds the start of no other entry, so the entry that covers a code point,
  if any, is the last one starting at or below it.

Counting the boundaries at or below a code point halves the window at each step, so a lookup
takes a number of steps logarithmic in the size of the table.

Tables are written as text: lowercase hexadecimal numbers separated by blanks, each boundary or
start given as its distance from the one before.  A class table alternates distances and
values; a code map separates its entries by commas, each entry being the distance, the count
and the stride followed by `+d` or `-d` for a shift, or by `=` and the code points of a text.

## Main definitions

* `CodeSet`, `CodeSet.contains`.
* `ClassTable`, `ClassTable.value`, `ClassTable.valueAt?`.
* `CodeMap`, `CodeMap.image?`.
* `CodeSet.ofText`, `ClassTable.ofText`, `CodeMap.ofText`.

## Main results

* `countAtMost_le` — the count never passes the window.
* `CodeSet.contains_empty` — the empty table holds no code point.
-/

namespace CorpusBench

/-- The number of entries of a nondecreasing array, under `key`, that are at or below `n`,
searching the window from `lo` to `hi` and knowing that the entries before `lo` are. -/
def countAtMost {α : Type} (xs : Array α) (key : α → Nat) (n : Nat) (lo hi : Nat) : Nat :=
  if lo < hi then
    let mid := lo + (hi - lo) / 2
    let below := match xs[mid]? with
      | some x => decide (key x ≤ n)
      | none => false
    if below then countAtMost xs key n (mid + 1) hi else countAtMost xs key n lo mid
  else lo
termination_by hi - lo

theorem countAtMost_le {α : Type} (xs : Array α) (key : α → Nat) (n : Nat) :
    ∀ (lo hi : Nat), lo ≤ hi → countAtMost xs key n lo hi ≤ hi := by
  intro lo hi h
  fun_induction countAtMost xs key n lo hi with
  | case1 lo hi hlt mid below hb ih => exact ih (by omega)
  | case2 lo hi hlt mid below hb ih => have := ih (by omega); omega
  | case3 lo hi hge => exact h

/-- The value of a lowercase hexadecimal digit. -/
def hexDigit? (c : Char) : Option Nat :=
  if '0' ≤ c && c ≤ '9' then some (c.toNat - '0'.toNat)
  else if 'a' ≤ c && c ≤ 'f' then some (c.toNat - 'a'.toNat + 10)
  else none

/-- Put the number being read, if any, before the numbers read so far (kept last first). -/
def pushNumber (current : Option Nat) (acc : List Nat) : List Nat :=
  match current with
  | some v => v :: acc
  | none => acc

/-- The numbers of a text of hexadecimal numbers, any other character ending a number;
`current` is the number being read and `acc` holds those read before, last first. -/
def hexNumbersFrom : List Char → Option Nat → List Nat → List Nat
  | [], current, acc => (pushNumber current acc).reverse
  | c :: rest, current, acc =>
    match hexDigit? c with
    | some d => hexNumbersFrom rest (some ((current.getD 0) * 16 + d)) acc
    | none => hexNumbersFrom rest none (pushNumber current acc)

/-- The numbers of a text of hexadecimal numbers. -/
def hexNumbers (cs : List Char) : List Nat := hexNumbersFrom cs none []

/-- The running sums of a list of distances, starting from `base`, after those in `acc` (kept
last first). -/
def runningSumsFrom : List Nat → Nat → List Nat → List Nat
  | [], _, acc => acc.reverse
  | d :: rest, base, acc => runningSumsFrom rest (base + d) ((base + d) :: acc)

/-- The running sums of a list of distances. -/
def runningSums (ds : List Nat) : List Nat := runningSumsFrom ds 0 []

theorem runningSumsFrom_length : ∀ (ds : List Nat) (base : Nat) (acc : List Nat),
    (runningSumsFrom ds base acc).length = ds.length + acc.length
  | [], _, acc => by simp [runningSumsFrom]
  | _ :: rest, base, acc => by
    simp only [runningSumsFrom, runningSumsFrom_length rest, List.length_cons]
    omega

/-- A set of code points, kept as the boundaries of its runs. -/
structure CodeSet where
  bounds : Array Nat

namespace CodeSet

/-- Read a code set from the distances between its boundaries. -/
def ofText (text : String) : CodeSet := ⟨(runningSums (hexNumbers text.toList)).toArray⟩

/-- Whether a code point is in the set: an odd number of boundaries are at or below it. -/
def contains (s : CodeSet) (n : Nat) : Bool :=
  countAtMost s.bounds id n 0 s.bounds.size % 2 = 1

theorem contains_empty (n : Nat) : contains ⟨#[]⟩ n = false := by
  simp [contains, countAtMost]

end CodeSet

/-- A table of small values by runs of code points. -/
structure ClassTable where
  bounds : Array Nat
  values : Array Nat

namespace ClassTable

/-- Pair up the distances and values of a class table's text. -/
def splitPairs : List Nat → List Nat × List Nat
  | d :: v :: rest => let (ds, vs) := splitPairs rest; (d :: ds, v :: vs)
  | _ => ([], [])

/-- Read a class table from its alternating distances and values. -/
def ofText (text : String) : ClassTable :=
  let (ds, vs) := splitPairs (hexNumbers text.toList)
  ⟨(runningSums ds).toArray, vs.toArray⟩

/-- The value of a code point: that of the last boundary at or below it, `0` below all. -/
def value (t : ClassTable) (n : Nat) : Nat :=
  match countAtMost t.bounds id n 0 t.bounds.size with
  | 0 => 0
  | i + 1 => t.values.getD i 0

/-- The value of the boundary equal to `n`, if there is one. -/
def valueAt? (t : ClassTable) (n : Nat) : Option Nat :=
  match countAtMost t.bounds id n 0 t.bounds.size with
  | 0 => none
  | i + 1 => if t.bounds[i]? = some n then t.values[i]? else none

end ClassTable

/-- What an entry of a code map does to the code points it covers. -/
inductive CodeImage where
  /-- Each code point moves by the distance. -/
  | shift (distance : Int)
  /-- Each code point becomes the text. -/
  | text (points : List Nat)

/-- An entry of a code map: the code points `start`, `start + stride`, … , `count` of them. -/
structure CodeRun where
  start : Nat
  count : Nat
  stride : Nat
  image : CodeImage

namespace CodeRun

/-- Whether the entry covers a code point. -/
def covers (r : CodeRun) (n : Nat) : Bool :=
  r.start ≤ n && (n - r.start) % r.stride = 0 && (n - r.start) / r.stride < r.count

/-- The text a covered code point becomes. -/
def imageOf (r : CodeRun) (n : Nat) : List Nat :=
  match r.image with
  | .shift d => [(n + d).toNat]
  | .text points => points

end CodeRun

/-- A map from code points to texts, by runs. -/
structure CodeMap where
  runs : Array CodeRun

namespace CodeMap

/-- Read one entry from its numbers, after the start: the count, the stride and the image. -/
def readRun (start : Nat) (tokens : List (List Char)) : Option CodeRun :=
  match tokens with
  | c :: s :: k :: points =>
    match hexNumbers c, hexNumbers s with
    | [count], [stride] =>
      match k with
      | '+' :: d => (hexNumbers d).head?.map fun d => ⟨start, count, stride, .shift d⟩
      | '-' :: d => (hexNumbers d).head?.map fun d => ⟨start, count, stride, .shift (-(d : Int))⟩
      | ['='] => some ⟨start, count, stride, .text (points.flatMap hexNumbers)⟩
      | _ => none
    | _, _ => none
  | _ => none

/-- Read the entries of a code map, each start a distance from the one before, after those in
`acc` (kept last first); an entry that does not read is skipped. -/
def readRuns : List (List Char) → Nat → List CodeRun → List CodeRun
  | [], _, acc => acc.reverse
  | entry :: rest, base, acc =>
    match (entry.splitOn ' ').filter (!·.isEmpty) with
    | d :: tokens =>
      match hexNumbers d with
      | [d] =>
        match readRun (base + d) tokens with
        | some r => readRuns rest (base + d) (r :: acc)
        | none => readRuns rest base acc
      | _ => readRuns rest base acc
    | [] => readRuns rest base acc

/-- Read a code map from its text. -/
def ofText (text : String) : CodeMap :=
  ⟨(readRuns ((text.toList.filter (· ≠ '\n')).splitOn ',') 0 []).toArray⟩

/-- The text a code point becomes, if the map covers it. -/
def image? (m : CodeMap) (n : Nat) : Option (List Nat) :=
  match countAtMost m.runs CodeRun.start n 0 m.runs.size with
  | 0 => none
  | i + 1 =>
    match m.runs[i]? with
    | some r => if r.covers n then some (r.imageOf n) else none
    | none => none

end CodeMap

end CorpusBench
