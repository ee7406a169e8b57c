import CorpusBench.Text.Cased

/-!
# Letter case

Case mapping of text: ASCII lowering, and lowering by the full lower-case mapping of Unicode
(`Text.lowerImage`).  Lowering is by character except for the capital sigma,
which becomes the final `ς` when a cased character precedes it and none follows it, looking
past case-ignorable characters on both sides, and `σ` otherwise.

## Main definitions

* `Text.asciiLower`, `Text.asciiLowerString` — `A`–`Z` to `a`–`z`.
* `Text.lowerChars`, `Text.lowerString` — Unicode lower case.
-/

namespace CorpusBench

namespace Text

/-- `A`–`Z` to `a`–`z`; every other character unchanged. -/
def asciiLower (c : Char) : Char :=
  if 'A' ≤ c && c ≤ 'Z' then Char.ofNat (c.toNat + 32) else c

/-- A string with ASCII letters lowered. -/
def asciiLowerString (s : String) : String := String.ofList (s.toList.map asciiLower)

/-- `a`–`z` to `A`–`Z`; every other character unchanged. -/
def asciiUpper (c : Char) : Char :=
  if 'a' ≤ c && c ≤ 'z' then Char.ofNat (c.toNat - 32) else c

/-- The lower-case form of a character as the characters it becomes, outside the context
rule of the capital sigma. -/
def lowerChars (c : Char) : List Char := (lowerImage c.toNat).map Char.ofNat

/-- Whether the first character of a list that is not case-ignorable is cased. -/
def casedPastIgnorable : List Char → Bool
  | [] => false
  | c :: rest => if isCaseIgnorable c then casedPastIgnorable rest else isCased c

/-- The lower-case form of a capital sigma between the characters `before` it (nearest first)
and `after` it: final `ς` at the end of a word, `σ` elsewhere. -/
def lowerSigma (before after : List Char) : Char :=
  if casedPastIgnorable before && !casedPastIgnorable after then 'ς' else 'σ'

/-- Lower the characters of a text, `before` holding those already lowered, nearest first. -/
def lowerFrom : List Char → List Char → List Char
  | [], _ => []
  | c :: rest, before =>
    (if c = 'Σ' then [lowerSigma before rest] else lowerChars c) ++ lowerFrom rest (c :: before)

/-- A string in lower case. -/
def lowerString (s : String) : String := String.ofList (lowerFrom s.toList [])

end Text

end CorpusBench
