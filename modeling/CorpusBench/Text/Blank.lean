/-!
# Blank characters

The characters of the Unicode `White_Space` property: the ASCII blanks and controls `U+0009` to
`U+000D` and `U+0020`, next line `U+0085`, no-break space `U+00A0`, ogham space mark `U+1680`,
the spaces `U+2000` to `U+200A`, the line and paragraph separators `U+2028` and `U+2029`, narrow
no-break space `U+202F`, medium mathematical space `U+205F` and ideographic space `U+3000`.
The zero-width space `U+200B` is not among them.

Trimming removes these characters from the ends of a text; splitting on blanks breaks a text at
runs of them.

## Main definitions

* `Text.isBlank` — membership in `White_Space`.
* `Text.trim`, `trimStart`, `trimEnd` — trimming of strings.
* `Text.collapseBlanks` — runs of blanks replaced by one space.

## Main results

* `Text.isBlank_of_isWhitespace` — every blank of core's ASCII class is a blank here.
-/

namespace CorpusBench

namespace Text

/-- Membership in the Unicode `White_Space` property. -/
def isBlank (c : Char) : Bool :=
  let n := c.toNat
  (0x09 ≤ n && n ≤ 0x0D) || n = 0x20 || n = 0x85 || n = 0xA0 || n = 0x1680 ||
    (0x2000 ≤ n && n ≤ 0x200A) || n = 0x2028 || n = 0x2029 || n = 0x202F || n = 0x205F ||
    n = 0x3000

theorem isBlank_of_isWhitespace (c : Char) (h : c.isWhitespace = true) : isBlank c = true := by
  simp only [Char.isWhitespace, Bool.or_eq_true, decide_eq_true_eq] at h
  simp only [isBlank, Bool.or_eq_true, Bool.and_eq_true, decide_eq_true_eq]
  rcases h with ((h | h) | h) | h <;> subst h <;> decide

/-- Drop blanks from the front of a character list. -/
def dropBlanks (cs : List Char) : List Char := cs.dropWhile isBlank

/-- A string without leading blanks. -/
def trimStart (s : String) : String := String.ofList (dropBlanks s.toList)

/-- A string without trailing blanks. -/
def trimEnd (s : String) : String := String.ofList (dropBlanks s.toList.reverse).reverse

/-- A string without leading or trailing blanks. -/
def trim (s : String) : String := trimEnd (trimStart s)

/-- Whether a string is empty once trimmed. -/
def isBlankText (s : String) : Bool := s.toList.all isBlank

/-- Replace every run of blanks by one space; `inRun` says whether a blank was just written. -/
def collapseRun (inRun : Bool) : List Char → List Char
  | [] => []
  | c :: rest =>
    if isBlank c then
      if inRun then collapseRun true rest else ' ' :: collapseRun true rest
    else c :: collapseRun false rest

/-- Replace every run of blanks by one space. -/
def collapseBlanksList (cs : List Char) : List Char := collapseRun false cs

/-- A string with every run of blanks replaced by one space. -/
def collapseBlanks (s : String) : String := String.ofList (collapseBlanksList s.toList)

end Text

end CorpusBench
