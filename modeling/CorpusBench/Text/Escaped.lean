import CorpusBench.Json.Write
import CorpusBench.Text.Printable

/-!
# Escaped text in messages

When a message quotes a piece of text it writes it between double quotes, with every
character that would not show as itself escaped: the backslash and the double quote by a
backslash, tab, carriage return, line feed and NUL by their letters, and every other character
that is not printable by its code point in braces (`\u{200b}`).

A character shows as itself when it is printable and does not extend the character before
it (`Text.isPrintable`, `Text.extendsGrapheme`): controls, format
characters, separators other than the space, private-use and unassigned code points, and
combining marks are escaped.

## Main definitions

* `Text.isShown` — whether a character is written as itself.
* `Text.quoteEscaped` — the quoted, escaped text.
-/

namespace CorpusBench

namespace Text

/-- Whether a character is written as itself inside quoted text: it is printable and does not
extend the character before it. -/
def isShown (c : Char) : Bool := isPrintable c && !extendsGrapheme c

/-- The lower-case hexadecimal digits of a number, without leading zeros. -/
def hexText (n : Nat) : String := String.ofList (Nat.toDigits 16 n)

/-- The escape of one character inside double quotes. -/
def escapeQuoted (c : Char) : List Char :=
  if c = '\\' then ['\\', '\\']
  else if c = '"' then ['\\', '"']
  else if c = '\t' then ['\\', 't']
  else if c = '\r' then ['\\', 'r']
  else if c = '\n' then ['\\', 'n']
  else if c.toNat = 0 then ['\\', '0']
  else if isShown c then [c]
  else ("\\u" ++ "\x7b" ++ hexText c.toNat ++ "\x7d").toList

/-- Text between double quotes, escaped. -/
def quoteEscaped (s : String) : String :=
  String.ofList ('"' :: (s.toList.flatMap escapeQuoted ++ ['"']))

theorem escapeQuoted_of_shown (c : Char) (h : isShown c = true) (h1 : c ≠ '\\') (h2 : c ≠ '"')
    (h3 : c ≠ '\t') (h4 : c ≠ '\r') (h5 : c ≠ '\n') (h6 : c.toNat ≠ 0) :
    escapeQuoted c = [c] := by
  simp [escapeQuoted, h, h1, h2, h3, h4, h5, h6]

end Text

end CorpusBench
