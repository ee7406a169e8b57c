/-!
# Character references

Text taken from markup may carry character references: `&amp;`, `&lt;`, `&gt;`, `&quot;`,
`&apos;` and `&nbsp;` by name, and `&#N;` or `&#xH;` by code point.  Decoding replaces each
well-formed reference by its character in one left-to-right pass, so a character it produced is
never read again (`&amp;lt;` becomes `&lt;`).

A reference is recognised only when its `;` lies within the first ten bytes from its `&`.  A
numeric reference may carry a `+` before its digits; it is refused when its value overflows 32
bits, is a surrogate, or lies beyond `U+10FFFF`.  Anything not recognised is kept as written.

## Main definitions

* `Text.referenceChar?` — the character a reference name stands for.
* `Text.decodeEntities` — the decoding pass.
-/

namespace CorpusBench

namespace Text

/-- The value a character stands for as a digit: `0`–`9`, then the letters of either case from
ten on; 99 for any other character. -/
def digitWeight (c : Char) : Nat :=
  if '0' ≤ c && c ≤ '9' then c.toNat - '0'.toNat
  else if 'a' ≤ c && c ≤ 'z' then c.toNat - 'a'.toNat + 10
  else if 'A' ≤ c && c ≤ 'Z' then c.toNat - 'A'.toNat + 10
  else 99

/-- The value of a digit in a base; none for a character that is no digit of the base. -/
def digitValue (base : Nat) (c : Char) : Option Nat :=
  if digitWeight c < base then some (digitWeight c) else none

/-- The value read so far followed by one more digit, refusing a value of 32 bits or more. -/
def pushDigit (base : Nat) (acc : Option Nat) (c : Char) : Option Nat :=
  match acc, digitValue base c with
  | some a, some d => if a * base + d < Nat.pow 2 32 then some (a * base + d) else none
  | _, _ => none

/-- The value of a run of digits in a base, refusing an empty run, a bad digit and a value of
32 bits or more; a leading `+` is allowed. -/
def readWord (base : Nat) (cs : List Char) : Option Nat :=
  let digits := match cs with
    | '+' :: rest => rest
    | _ => cs
  if digits.isEmpty then none else digits.foldl (pushDigit base) (some 0)

/-- The character of a code point, refusing surrogates and values beyond `U+10FFFF`. -/
def charOfCode? (n : Nat) : Option Char :=
  if n < 0xD800 || (0xDFFF < n && n ≤ 0x10FFFF) then some (Char.ofNat n) else none

/-- The character a reference name (the text between `&` and `;`) stands for. -/
def referenceChar? (name : List Char) : Option Char :=
  match name with
  | '#' :: 'x' :: hex => (readWord 16 hex).bind charOfCode?
  | '#' :: 'X' :: hex => (readWord 16 hex).bind charOfCode?
  | '#' :: dec => (readWord 10 dec).bind charOfCode?
  | _ =>
    let n := String.ofList name
    if n = "amp" then some '&' else if n = "lt" then some '<' else if n = "gt" then some '>'
    else if n = "quot" then some '"' else if n = "apos" then some '\''
    else if n = "nbsp" then some (Char.ofNat 0xA0) else none

/-- Decode references in one left-to-right pass. -/
def decodeList : List Char → List Char
  | [] => []
  | '&' :: rest =>
    let name := rest.takeWhile (· ≠ ';')
    match _h : rest.dropWhile (· ≠ ';') with
    | ';' :: after =>
      let found :=
        if 1 + (name.map Char.utf8Size).foldr (· + ·) 0 ≤ 10 then referenceChar? name else none
      match found with
      | some c => c :: decodeList after
      | none => '&' :: decodeList rest
    | _ => '&' :: decodeList rest
  | c :: rest => c :: decodeList rest
termination_by cs => cs.length
decreasing_by
  all_goals first
    | decreasing_tactic
    | have h1 := (List.dropWhile_suffix (fun x => decide (x ≠ ';')) (l := rest)).length_le
      rw [_h] at h1
      simp at h1
      simp_wf
      omega

/-- Decode the character references of a text. -/
def decodeEntities (s : String) : String := String.ofList (decodeList s.toList)

end Text

end CorpusBench
