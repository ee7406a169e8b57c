import CorpusBench.Text.Canonical

/-!
# Normal form C

Two texts are canonically equivalent when they stand for the same characters, such as `é` and
`e` followed by a combining acute accent.  Normal form C picks one text of each class, the most
composed one, in three steps over code points.

1. **Decompose** each code point into its full canonical decomposition; a Hangul syllable
   becomes its leading consonant, its vowel and its trailing consonant, if any, by arithmetic.
2. **Order** the marks: each run of code points of nonzero combining class is sorted by class,
   marks of one class keeping their order (the sort is stable).
3. **Compose** from left to right: a code point joins the last starter before it when the pair
   has a primary composite and nothing between them blocks it; a code point in between blocks
   it when its combining class is zero or not below that of the code point.  Hangul leading
   consonants and vowels, and syllables and trailing consonants, compose by arithmetic.

## Main definitions

* `Text.decompose`, `Text.orderMarks`, `Text.compose`.
* `Text.nfc`, `Text.isNfc`.

## Main results

* `Text.orderMarks_starters` — text of starters only is already ordered.
-/

namespace CorpusBench

namespace Text

/-- The first Hangul syllable. -/
def hangulBase : Nat := 0xAC00

/-- The first Hangul leading consonant. -/
def leadBase : Nat := 0x1100
/-- The first Hangul vowel. -/
def vowelBase : Nat := 0x1161
/-- The code point before the first Hangul trailing consonant: a syllable without a trailing
consonant counts it. -/
def trailBase : Nat := 0x11A7

/-- Whether a code point is a Hangul syllable. -/
def isHangulSyllable (n : Nat) : Bool := hangulBase ≤ n && n < hangulBase + 11172

/-- The jamo of a Hangul syllable: 588 syllables share a leading consonant, 28 a vowel. -/
def hangulJamo (n : Nat) : List Nat :=
  let s := n - hangulBase
  let t := s % 28
  [leadBase + s / 588, vowelBase + s % 588 / 28] ++ (if t = 0 then [] else [trailBase + t])

/-- The full canonical decomposition of one code point. -/
def decomposeOne (n : Nat) : List Nat :=
  if isHangulSyllable n then hangulJamo n else (decomposition? n).getD [n]

/-- The full canonical decomposition of a text. -/
def decompose (ns : List Nat) : List Nat := ns.flatMap decomposeOne

/-- A run of marks sorted by combining class, keeping the order within a class. -/
def sortMarks (run : List Nat) : List Nat :=
  run.mergeSort fun a b => combiningClass a ≤ combiningClass b

/-- Put the marks of a text in canonical order; `run` holds the marks met since the last
starter, in order. -/
def orderFrom : List Nat → List Nat → List Nat
  | [], run => sortMarks run
  | n :: rest, run =>
    if combiningClass n = 0 then sortMarks run ++ n :: orderFrom rest []
    else orderFrom rest (run ++ [n])

/-- The marks of a decomposed text in canonical order. -/
def orderMarks (ns : List Nat) : List Nat := orderFrom ns []

theorem orderFrom_starters : ∀ (ns : List Nat), (∀ n ∈ ns, combiningClass n = 0) →
    orderFrom ns [] = ns
  | [], _ => by simp [orderFrom, sortMarks]
  | n :: rest, h => by
    have hn : combiningClass n = 0 := h n List.mem_cons_self
    have hr := orderFrom_starters rest fun m hm => h m (List.mem_cons_of_mem _ hm)
    simp [orderFrom, hn, hr, sortMarks]

theorem orderMarks_starters (ns : List Nat) (h : ∀ n ∈ ns, combiningClass n = 0) :
    orderMarks ns = ns := orderFrom_starters ns h

/-- The primary composite of two code points, Hangul included. -/
def pairComposite (a b : Nat) : Option Nat :=
  if leadBase ≤ a && a < leadBase + 19 && vowelBase ≤ b && b < vowelBase + 21 then
    some (hangulBase + ((a - leadBase) * 21 + (b - vowelBase)) * 28)
  else if isHangulSyllable a && (a - hangulBase) % 28 = 0 && trailBase < b && b < trailBase + 28
  then some (a + (b - trailBase))
  else composition? a b

/-- Where composing stands: the text before the current starter and the text after it, both
nearest first, the starter, and the combining class of the last code point kept after it
(`256` when a mark stands before any starter, which blocks every pair). -/
structure Composer where
  before : List Nat
  starter : Option Nat
  after : List Nat
  lastClass : Nat

/-- Compose one more code point. -/
def Composer.step (st : Composer) (n : Nat) : Composer :=
  let cls := combiningClass n
  let joined := match st.starter with
    | some s => if st.lastClass < cls || st.lastClass = 0 then pairComposite s n else none
    | none => none
  match joined with
  | some k => { st with starter := some k }
  | none =>
    if cls = 0 then ⟨st.after ++ st.starter.toList ++ st.before, some n, [], 0⟩
    else
      { st with after := n :: st.after,
                lastClass := if st.starter.isSome then cls else 256 }

/-- The composed text. -/
def Composer.finish (st : Composer) : List Nat :=
  (st.after ++ st.starter.toList ++ st.before).reverse

/-- Compose a decomposed text whose marks are in canonical order. -/
def compose (ns : List Nat) : List Nat :=
  (ns.foldl Composer.step ⟨[], none, [], 0⟩).finish

/-- The text in normal form C. -/
def nfc (ns : List Nat) : List Nat := compose (orderMarks (decompose ns))

/-- Whether a text is in normal form C. -/
def isNfc (ns : List Nat) : Bool := nfc ns == ns

end Text

end CorpusBench
