/-!
# Similar words

The Jaro similarity of two words, used to suggest the name the user probably meant.

Two characters match when they are equal and their positions differ by less than half the
longer word's length (minus one); each character matches at most once, the earliest free one.
With `m` matches and `t` half the number of matched pairs out of order, the similarity of words
of lengths `a` and `b` is `(m/a + m/b + (m - t)/m) / 3`, and `0` without matches; two empty
words are alike.

## Main definitions

* `CommandLine.jaro` — the similarity, in `[0, 1]`.
* `CommandLine.similarNames` — the candidates more than `0.7` alike, least alike
  first.
-/

namespace CorpusBench

namespace CommandLine

/-- The first free position in `[lo, hi)` of `b` holding `c`. -/
def freeMatch (b : Array Char) (taken : Array Bool) (c : Char) (lo hi : Nat) : Option Nat :=
  (List.range' lo (hi - lo)).find? fun j => b.getD j ' ' == c && !taken.getD j true

/-- Mark the matches: which characters of each word are matched. -/
def matchMarks (a b : List Char) : List Bool × Array Bool :=
  let range := max a.length b.length / 2 - 1
  let bs := b.toArray
  a.zipIdx.foldl (fun (marks, taken) (c, i) =>
    match freeMatch bs taken c (i - range) (min b.length (i + range + 1)) with
    | some j => (marks ++ [true], taken.setIfInBounds j true)
    | none => (marks ++ [false], taken)) ([], Array.replicate b.length false)

/-- The Jaro similarity of two words. -/
def jaro (x y : String) : Float :=
  let a := x.toList
  let b := y.toList
  if a.isEmpty && b.isEmpty then 1.0
  else if a.isEmpty || b.isEmpty then 0.0
  else
    let (marks, taken) := matchMarks a b
    let fromA := (a.zip marks).filterMap fun (c, m) => if m then some c else none
    let fromB := (b.zip taken.toList).filterMap fun (c, m) => if m then some c else none
    let m := fromA.length
    let t := ((fromA.zip fromB).filter fun (c, d) => c != d).length / 2
    if m = 0 then 0.0
    else (m.toFloat / a.length.toFloat + m.toFloat / b.length.toFloat +
      (m - t).toFloat / m.toFloat) / 3.0

/-- The candidates more than `0.7` alike to `v`, least alike first (ties in their order). -/
def similarNames (v : String) (candidates : List String) : List String :=
  let scored := (candidates.map fun c => (jaro v c, c)).filter fun (s, _) => s > 0.7
  (scored.mergeSort fun p q => p.1 ≤ q.1).map (·.2)

end CommandLine

end CorpusBench
