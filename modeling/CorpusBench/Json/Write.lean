import CorpusBench.Json.Value
import CorpusBench.Decimal.Text

/-!
# Writing JSON

The compact text of a document: no blanks, members in key order, strings quoted with the
escapes of the wire format.  Inside a string, `"` and `\` are escaped, the control characters
`\b`, `\f`, `\n`, `\r` and `\t` get their short escapes, every other character below `U+0020`
is written `\u00XX` with lower-case hex digits, and all else (non-ASCII included) is written
as itself.  Numbers are written by kind: integers in decimal, doubles in the document layout
of `FloatLayout`.

## Main definitions

* `Json.quote` — a string literal.
* `JsonNumber.text`, `Json.compact` — the text of numbers and
  documents.
* `Json.pretty` — the indented text of a document, for people to read.
-/

namespace CorpusBench

/-- The lower-case hex digit of a value below 16. -/
def hexDigit (n : Nat) : Char :=
  if n < 10 then Char.ofNat ('0'.toNat + n) else Char.ofNat ('a'.toNat + n - 10)

namespace Json

/-- The escaped form of one character inside a string literal. -/
def escapeChar (c : Char) : List Char :=
  if c = '"' then ['\\', '"']
  else if c = '\\' then ['\\', '\\']
  else if c = '\n' then ['\\', 'n']
  else if c = '\r' then ['\\', 'r']
  else if c = '\t' then ['\\', 't']
  else if c.toNat = 8 then ['\\', 'b']
  else if c.toNat = 12 then ['\\', 'f']
  else if c.toNat < 32 then
    ['\\', 'u', '0', '0', hexDigit (c.toNat / 16), hexDigit (c.toNat % 16)]
  else [c]

/-- A string literal: the text between double quotes, escaped. -/
def quote (s : String) : String :=
  String.ofList ('"' :: (s.toList.flatMap escapeChar ++ ['"']))

end Json

/-- The text of a number. -/
def JsonNumber.text : JsonNumber → String
  | .nat n => toString n
  | .neg n => "-" ++ toString n.natAbs
  | .float x => Float.documentText x

namespace Json

mutual

/-- The compact text of a document. -/
def compact : Json → String
  | .null => "null"
  | .bool true => "true"
  | .bool false => "false"
  | .num n => n.text
  | .str s => quote s
  | .arr items => "[" ++ compactItems items ++ "]"
  | .obj fields => "\x7b" ++ compactFields fields ++ "\x7d"

/-- Array items, separated by commas. -/
def compactItems : List Json → String
  | [] => ""
  | [j] => compact j
  | j :: rest => compact j ++ "," ++ compactItems rest

/-- Object members, separated by commas. -/
def compactFields : Fields → String
  | [] => ""
  | [(k, v)] => quote k ++ ":" ++ compact v
  | (k, v) :: rest => quote k ++ ":" ++ compact v ++ "," ++ compactFields rest

end

/-- The indentation of a nesting depth: two spaces a level. -/
def indent (d : Nat) : String := "".pushn ' ' (2 * d)

mutual

/-- The indented text of a document at nesting depth `d`: every item and member on a line of
its own, members written `"key": value`, and empty arrays and objects kept on one line. -/
def pretty (d : Nat) : Json → String
  | .arr [] => "[]"
  | .arr items => "[\n" ++ prettyItems (d + 1) items ++ "\n" ++ indent d ++ "]"
  | .obj [] => "\x7b\x7d"
  | .obj fields => "\x7b\n" ++ prettyFields (d + 1) fields ++ "\n" ++ indent d ++ "\x7d"
  | j => compact j

/-- Array items at depth `d`, one a line. -/
def prettyItems (d : Nat) : List Json → String
  | [] => ""
  | [j] => indent d ++ pretty d j
  | j :: rest => indent d ++ pretty d j ++ ",\n" ++ prettyItems d rest

/-- Object members at depth `d`, one a line. -/
def prettyFields (d : Nat) : Fields → String
  | [] => ""
  | [(k, v)] => indent d ++ quote k ++ ": " ++ pretty d v
  | (k, v) :: rest => indent d ++ quote k ++ ": " ++ pretty d v ++ ",\n" ++ prettyFields d rest

end

end Json

end CorpusBench
