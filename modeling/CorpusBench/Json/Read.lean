import CorpusBench.Json.Value
import CorpusBench.Decimal.Text

/-!
# Reading JSON

The strict reader of JSON text.  It accepts exactly one document surrounded by blanks (space,
tab, line feed, carriage return), nests at most 127 containers deep, and reports the first
fault with its line and column.

Columns count bytes from the start of the line.  A fault found by looking at the next
character (an unexpected character, the end of the input) is reported one byte past the
position read so far; a fault found in what was consumed (a bad escape, a control character in
a string, a malformed literal) is reported at the position read so far.

Numbers keep their kind: digits without point or exponent are an unsigned integer when they
fit 64 bits, a negative integer when they fit 64 signed bits, and a double otherwise; `-0` is
the double negative zero.  A double is computed in two roundings: the first digits, as long as
they stay below `2^64`, make a significand that is rounded to a double, and that double is
multiplied or divided by the power of ten of the exponent, itself rounded.  The result may
thus lie one unit away from the double nearest to the decimal written.  A literal beyond the
largest double is refused.

## Main definitions

* `Json.ReadFault`, `Json.ReadError` — what went wrong, and where.
* `Json.parse` — the document of a text.
-/

namespace CorpusBench

namespace Json

/-- The faults of the reader. -/
inductive ReadFault where
  | eofInList
  | eofInObject
  | eofInString
  | eofInValue
  | expectedColon
  | expectedListCommaOrEnd
  | expectedObjectCommaOrEnd
  | expectedIdent
  | expectedValue
  | invalidEscape
  | invalidNumber
  | numberOutOfRange
  | controlCharacter
  | keyMustBeAString
  | loneLeadingSurrogate
  | trailingComma
  | trailingCharacters
  | unexpectedEndOfHexEscape
  | recursionLimit
  deriving DecidableEq, Repr

/-- The wording of each fault. -/
def ReadFault.text : ReadFault → String
  | .eofInList => "EOF while parsing a list"
  | .eofInObject => "EOF while parsing an object"
  | .eofInString => "EOF while parsing a string"
  | .eofInValue => "EOF while parsing a value"
  | .expectedColon => "expected `:`"
  | .expectedListCommaOrEnd => "expected `,` or `]`"
  | .expectedObjectCommaOrEnd => "expected `,` or `\x7d`"
  | .expectedIdent => "expected ident"
  | .expectedValue => "expected value"
  | .invalidEscape => "invalid escape"
  | .invalidNumber => "invalid number"
  | .numberOutOfRange => "number out of range"
  | .controlCharacter => "control character (\\u0000-\\u001F) found while parsing a string"
  | .keyMustBeAString => "key must be a string"
  | .loneLeadingSurrogate => "lone leading surrogate in hex escape"
  | .trailingComma => "trailing comma"
  | .trailingCharacters => "trailing characters"
  | .unexpectedEndOfHexEscape => "unexpected end of hex escape"
  | .recursionLimit => "recursion limit exceeded"

/-- A fault at a line and a byte column. -/
structure ReadError where
  fault : ReadFault
  line : Nat
  column : Nat
  deriving DecidableEq, Repr

/-- The message of a read error: `expected value at line 1 column 1`. -/
def ReadError.message (e : ReadError) : String :=
  e.fault.text ++ " at line " ++ toString e.line ++ " column " ++ toString e.column

/-- The unread text with the position of what was read so far. -/
structure Cursor where
  rest : List Char
  line : Nat
  column : Nat

namespace Cursor

/-- Consume one character. -/
def advance (c : Cursor) : Cursor :=
  match c.rest with
  | [] => c
  | ch :: rest =>
    if ch = '\n' then ⟨rest, c.line + 1, 0⟩ else ⟨rest, c.line, c.column + ch.utf8Size⟩

/-- Consume `n` characters. -/
def advanceBy (c : Cursor) : Nat → Cursor
  | 0 => c
  | n + 1 => (c.advance).advanceBy n

/-- A fault at the position read so far. -/
def fail {α : Type} (c : Cursor) (f : ReadFault) : Except ReadError α :=
  .error ⟨f, c.line, c.column⟩

/-- A fault one byte past the position read so far (at the character looked at). -/
def failAhead {α : Type} (c : Cursor) (f : ReadFault) : Except ReadError α :=
  match c.rest with
  | [] => .error ⟨f, c.line, c.column⟩
  | '\n' :: _ => .error ⟨f, c.line + 1, 0⟩
  | _ :: _ => .error ⟨f, c.line, c.column + 1⟩

/-- Skip blanks from `rest`, counting lines and columns. -/
def skipFrom : List Char → Nat → Nat → Cursor
  | ch :: rest, line, column =>
    if ch = ' ' || ch = '\t' || ch = '\r' then skipFrom rest line (column + 1)
    else if ch = '\n' then skipFrom rest (line + 1) 0
    else ⟨ch :: rest, line, column⟩
  | [], line, column => ⟨[], line, column⟩

/-- Skip blanks. -/
def skipBlanks (c : Cursor) : Cursor := skipFrom c.rest c.line c.column

/-- The next character, if any. -/
def peek (c : Cursor) : Option Char := c.rest.head?

end Cursor

/-- The value of a hex digit. -/
def hexValue? (c : Char) : Option Nat :=
  if '0' ≤ c && c ≤ '9' then some (c.toNat - '0'.toNat)
  else if 'a' ≤ c && c ≤ 'f' then some (c.toNat - 'a'.toNat + 10)
  else if 'A' ≤ c && c ≤ 'F' then some (c.toNat - 'A'.toNat + 10)
  else none

/-- The position `k` bytes on from the line and column given, over the text `rest`; a character
that the count ends inside of is passed in part. -/
def bytesOnFrom : List Char → Nat → Nat → Nat → Cursor
  | [], _, line, column => ⟨[], line, column⟩
  | ch :: rest, k, line, column =>
    if k = 0 then ⟨ch :: rest, line, column⟩
    else if ch = '\n' then bytesOnFrom rest (k - 1) (line + 1) 0
    else if ch.utf8Size ≤ k then bytesOnFrom rest (k - ch.utf8Size) line (column + ch.utf8Size)
    else ⟨rest, line, column + k⟩

/-- The position `k` bytes on. -/
def bytesOn (c : Cursor) (k : Nat) : Cursor := bytesOnFrom c.rest k c.line c.column

/-- Read the four hex digits of a `\u` escape.  The escape takes the next four bytes: fewer
than four left is the end of the text inside a string, and four that are not all hex digits
are an invalid escape, reported after them. -/
def readHex4 (c : Cursor) : Except ReadError (Nat × Cursor) :=
  if ((c.rest.take 4).map Char.utf8Size).foldr (· + ·) 0 < 4 then
    let atEnd : Cursor := ⟨[], c.line, c.column + (c.rest.map Char.utf8Size).foldr (· + ·) 0⟩
    atEnd.fail .eofInString
  else
    match c.rest with
    | a :: b :: d :: e :: _ =>
      match hexValue? a, hexValue? b, hexValue? d, hexValue? e with
      | some w, some x, some y, some z =>
        .ok (((w * 16 + x) * 16 + y) * 16 + z, ⟨c.rest.drop 4, c.line, c.column + 4⟩)
      | _, _, _, _ => (bytesOn c 4).fail .invalidEscape
    | _ => (bytesOn c 4).fail .invalidEscape

/-- After a `\u` escape: a code unit outside the surrogates is the character itself; a leading
surrogate must be followed by a `\u` escape of a trailing one. -/
def readUnicodeEscape (c : Cursor) : Except ReadError (Char × Cursor) := do
  let (n, c) ← readHex4 c
  if 0xDC00 ≤ n && n ≤ 0xDFFF then c.fail .loneLeadingSurrogate
  else if n < 0xD800 || n > 0xDBFF then .ok (Char.ofNat n, c)
  else
    match c.rest with
    | [] => c.fail .eofInString
    | '\\' :: _ =>
      let c := c.advance
      match c.rest with
      | [] => c.fail .eofInString
      | 'u' :: _ =>
        let (n2, c) ← readHex4 c.advance
        if n2 < 0xDC00 || n2 > 0xDFFF then c.fail .loneLeadingSurrogate
        else .ok (Char.ofNat (((n - 0xD800) * 1024 + (n2 - 0xDC00)) + 0x10000), c)
      | _ :: _ => (c.advance).fail .unexpectedEndOfHexEscape
    | _ :: _ => (c.advance).fail .unexpectedEndOfHexEscape

/-- Read the rest of a string literal whose opening quote was consumed; `fuel` bounds the
characters read. -/
def readStringBody : Nat → Cursor → List Char → Except ReadError (String × Cursor)
  | 0, c, _ => c.fail .eofInString
  | fuel + 1, c, acc =>
    match c.rest with
    | [] => c.fail .eofInString
    | ch :: rest =>
      if ch = '"' then .ok (String.ofList acc.reverse, c.advance)
      else if ch = '\\' then
        let c1 := c.advance
        match c1.rest with
        | [] => c1.fail .eofInString
        | e :: _ =>
          let single : Option Char :=
            if e = '"' then some '"' else if e = '\\' then some '\\'
            else if e = '/' then some '/' else if e = 'b' then some (Char.ofNat 8)
            else if e = 'f' then some (Char.ofNat 12) else if e = 'n' then some '\n'
            else if e = 'r' then some '\r' else if e = 't' then some '\t' else none
          match single with
          | some out => readStringBody fuel c1.advance (out :: acc)
          | none =>
            if e = 'u' then
              match readUnicodeEscape c1.advance with
              | .error err => .error err
              | .ok (out, c2) => readStringBody fuel c2 (out :: acc)
            else (c1.advance).fail .invalidEscape
      else if ch.toNat < 32 then (c.advance).fail .controlCharacter
      else readStringBody fuel ⟨rest, c.line, c.column + ch.utf8Size⟩ (ch :: acc)

/-- The value of a decimal digit. -/
def digitValue (c : Char) : Nat := c.toNat - '0'.toNat

/-- The number of digits at the start of a text. -/
def digitRun (cs : List Char) : Nat := (cs.takeWhile Char.isDigit).length

/-- Take digits into the significand `sig` while it stays below `2^64`: the significand and how
many digits were taken after the `n` already counted. -/
def takeSignificand : Nat → Nat → List Char → Nat × Nat
  | sig, n, d :: rest =>
    if d.isDigit && sig * 10 + digitValue d < Nat.pow 2 64 then
      takeSignificand (sig * 10 + digitValue d) (n + 1) rest
    else (sig, n)
  | sig, n, [] => (sig, n)

/-- The largest power of ten in the scaling table. -/
def largestPower : Nat := 308

/-- A power of ten of the table, as the nearest double. -/
def powerOfTen (k : Nat) : Float := Decimal.toFloat ⟨1, k⟩

/-- Scale `f` by `10^e`: beyond the table, divide by `1e308` first (a zero stays zero, a
positive power beyond the table is refused); within it, multiply or divide by the rounded
power, refusing an infinite product.  `fuel` bounds the divisions. -/
def scaleByPower (f : Float) (e : Int) : Nat → Option Float
  | 0 => some f
  | fuel + 1 =>
    if e.natAbs ≤ largestPower then
      if 0 ≤ e then
        let g := f * powerOfTen e.natAbs
        if g.isInf then none else some g
      else some (f / powerOfTen e.natAbs)
    else if f == 0 then some f
    else if 0 ≤ e then none
    else scaleByPower (f / powerOfTen largestPower) (e + largestPower) fuel

/-- The double of a literal with significand `sig` (below `2^64`) and decimal exponent `e`: the
significand rounded to a double, then scaled by the rounded power of ten.  The two roundings
may leave the result one unit away from the double nearest to the decimal written; `none` when
it is beyond the largest double. -/
def scaledDouble (sig : Nat) (e : Int) : Option Float :=
  scaleByPower (decimalToFloat false ⟨sig, 0⟩) e ((-e).toNat / largestPower + 2)

/-- Finish a double literal, refusing one beyond the largest double. -/
def finishDouble (negative : Bool) (sig : Nat) (e : Int) (c : Cursor) :
    Except ReadError (Json × Cursor) :=
  match scaledDouble sig e with
  | some f => .ok (.num (.float (if negative then -f else f)), c)
  | none => c.fail .numberOutOfRange

/-- An exponent kept within 32 signed bits. -/
def clampExponent (e : Int) : Int := max (-Int.pow 2 31) (min e (Int.pow 2 31 - 1))

/-- Read exponent digits onto `acc` while the value fits 31 bits: the value, the digits
consumed, and whether the last one consumed overflowed. -/
def takeExponent : Nat → Nat → List Char → Nat × Nat × Bool
  | acc, n, d :: rest =>
    if d.isDigit then
      let v := acc * 10 + digitValue d
      if Nat.pow 2 31 - 1 < v then (acc, n + 1, true) else takeExponent v (n + 1) rest
    else (acc, n, false)
  | acc, n, [] => (acc, n, false)

/-- Read the exponent of a literal after its `e`, added to the exponent `start` of the digits.
An exponent too large for 32 bits makes a nonzero literal with a positive exponent out of range
and any other literal zero. -/
def readExponent (negative : Bool) (sig : Nat) (start : Int) (c : Cursor) :
    Except ReadError (Json × Cursor) :=
  let (expNegative, c) :=
    match c.rest with
    | '+' :: _ => (false, c.advance)
    | '-' :: _ => (true, c.advance)
    | _ => (false, c)
  match c.rest with
  | [] => c.fail .eofInValue
  | d :: rest =>
    if !d.isDigit then (c.advance).fail .invalidNumber
    else
      let (v, n, overflowed) := takeExponent (digitValue d) 1 rest
      let c := c.advanceBy n
      if overflowed then
        if sig ≠ 0 && !expNegative then c.fail .numberOutOfRange
        else .ok (.num (.float (if negative then -0.0 else 0.0)), c.advanceBy (digitRun c.rest))
      else
        finishDouble negative sig (clampExponent (if expNegative then start - v else start + v)) c

/-- After the digits of a double literal: its exponent, if any. -/
def afterDigits (negative : Bool) (sig : Nat) (e : Int) (c : Cursor) :
    Except ReadError (Json × Cursor) :=
  match c.rest with
  | x :: _ =>
    if x = 'e' || x = 'E' then readExponent negative sig e c.advance
    else finishDouble negative sig e c
  | [] => finishDouble negative sig e c

/-- Read the fraction of a literal after its point, onto the significand `sig` with exponent
`start`; digits that would take the significand past `2^64` are dropped. -/
def readFraction (negative : Bool) (sig : Nat) (start : Int) (c : Cursor) :
    Except ReadError (Json × Cursor) :=
  let (sig, n) := takeSignificand sig 0 c.rest
  let c := c.advanceBy n
  let e := start - n
  match c.rest with
  | x :: _ =>
    if x.isDigit then afterDigits negative sig e (c.advanceBy (digitRun c.rest))
    else if n = 0 then c.failAhead .invalidNumber
    else afterDigits negative sig e c
  | [] => if n = 0 then c.failAhead .eofInValue else finishDouble negative sig e c

/-- An integer literal: unsigned when not negative; negative when it fits 64 signed bits and is
not zero; otherwise the negated double (so `-0` is negative zero). -/
def integerValue (negative : Bool) (sig : Nat) : Json :=
  if !negative then .num (.nat sig)
  else if sig ≠ 0 && sig ≤ Nat.pow 2 63 then .num (.neg (-(sig : Int)))
  else .num (.float (-(decimalToFloat false ⟨sig, 0⟩)))

/-- After the integer digits of a literal (with `shift` digits beyond the significand): a
fraction, an exponent, or the end. -/
def afterInteger (negative : Bool) (sig : Nat) (shift : Nat) (c : Cursor) :
    Except ReadError (Json × Cursor) :=
  match c.rest with
  | x :: _ =>
    if x = '.' then readFraction negative sig shift c.advance
    else if x = 'e' || x = 'E' then readExponent negative sig shift c.advance
    else if shift = 0 then .ok (integerValue negative sig, c)
    else finishDouble negative sig shift c
  | [] => if shift = 0 then .ok (integerValue negative sig, c) else finishDouble negative sig shift c

/-- Read a number literal whose minus sign (if any) was consumed.  Integer digits past `2^64`
only raise the exponent. -/
def readNumber (negative : Bool) (c : Cursor) : Except ReadError (Json × Cursor) :=
  match c.rest with
  | [] => c.fail .eofInValue
  | d :: _ =>
    if !d.isDigit then (c.advance).fail .invalidNumber
    else if d = '0' then
      let c1 := c.advance
      match c1.rest with
      | x :: _ => if x.isDigit then c1.failAhead .invalidNumber else afterInteger negative 0 0 c1
      | [] => afterInteger negative 0 0 c1
    else
      let (sig, n) := takeSignificand 0 0 c.rest
      let c1 := c.advanceBy n
      let shift := digitRun c1.rest
      afterInteger negative sig shift (c1.advanceBy shift)

/-- Read the letters of `null`, `true` or `false` after their first one. -/
def readIdent (c : Cursor) : List Char → Except ReadError Cursor
  | [] => .ok c
  | expected :: more =>
    match c.rest with
    | [] => c.fail .eofInValue
    | ch :: _ => if ch = expected then readIdent c.advance more else (c.advance).fail .expectedIdent

/-- The deepest nesting of arrays and objects accepted. -/
def depthLimit : Nat := 128

mutual

/-- Read one value; `fuel` bounds the steps, `depth` counts the open containers. -/
def readValue : Nat → Nat → Cursor → Except ReadError (Json × Cursor)
  | 0, _, c => c.fail .recursionLimit
  | fuel + 1, depth, c0 =>
    let c := c0.skipBlanks
    match c.rest with
    | [] => c.failAhead .eofInValue
    | ch :: _ =>
      if ch = 'n' then (readIdent c.advance ['u', 'l', 'l']).map (fun c => (.null, c))
      else if ch = 't' then (readIdent c.advance ['r', 'u', 'e']).map (fun c => (.bool true, c))
      else if ch = 'f' then
        (readIdent c.advance ['a', 'l', 's', 'e']).map (fun c => (.bool false, c))
      else if ch = '-' then readNumber true c.advance
      else if ch.isDigit then readNumber false c
      else if ch = '"' then
        (readStringBody (c.rest.length + 1) c.advance []).map (fun (s, c) => (.str s, c))
      else if ch = '[' then
        if depth + 1 ≥ depthLimit then c.failAhead .recursionLimit
        else readItems fuel (depth + 1) c.advance [] true
      else if ch = '{' then
        if depth + 1 ≥ depthLimit then c.failAhead .recursionLimit
        else readMembers fuel (depth + 1) c.advance [] true
      else c.failAhead .expectedValue

/-- Read the items of an array after its `[` or after the items read so far. -/
def readItems : Nat → Nat → Cursor → List Json → Bool → Except ReadError (Json × Cursor)
  | 0, _, c, _, _ => c.fail .recursionLimit
  | fuel + 1, depth, c0, acc, first =>
    let c := c0.skipBlanks
    match c.rest with
    | [] => c.failAhead .eofInList
    | ch :: _ =>
      if ch = ']' then .ok (.arr acc.reverse, c.advance)
      else if first then
        match readValue fuel depth c with
        | .error e => .error e
        | .ok (v, c) => readItems fuel depth c (v :: acc) false
      else if ch = ',' then
        let c := c.advance.skipBlanks
        match c.rest with
        | [] => c.failAhead .eofInValue
        | ']' :: _ => c.failAhead .trailingComma
        | _ :: _ =>
          match readValue fuel depth c with
          | .error e => .error e
          | .ok (v, c) => readItems fuel depth c (v :: acc) false
      else c.failAhead .expectedListCommaOrEnd

/-- Read the members of an object after its `{` or after the members read so far. -/
def readMembers : Nat → Nat → Cursor → Fields → Bool → Except ReadError (Json × Cursor)
  | 0, _, c, _, _ => c.fail .recursionLimit
  | fuel + 1, depth, c0, acc, first =>
    let c := c0.skipBlanks
    match c.rest with
    | [] => c.failAhead .eofInObject
    | ch :: _ =>
      if ch = '}' then .ok (.obj acc, c.advance)
      else
        let keyStart : Except ReadError Cursor :=
          if first then .ok c
          else if ch = ',' then .ok c.advance.skipBlanks
          else c.failAhead .expectedObjectCommaOrEnd
        match keyStart with
        | .error e => .error e
        | .ok c =>
          match c.rest with
          | [] => c.failAhead .eofInValue
          | k :: _ =>
            if k = '}' then c.failAhead .trailingComma
            else if k ≠ '"' then c.failAhead .keyMustBeAString
            else
              match readStringBody (c.rest.length + 1) c.advance [] with
              | .error e => .error e
              | .ok (key, c) =>
                let c := c.skipBlanks
                match c.rest with
                | [] => c.failAhead .eofInObject
                | ':' :: _ =>
                  match readValue fuel depth c.advance with
                  | .error e => .error e
                  | .ok (v, c) => readMembers fuel depth c (StrMap.insert key v acc) false
                | _ :: _ => c.failAhead .expectedColon

end

/-- The document of a text: one value between blanks. -/
def parse (s : String) : Except ReadError Json :=
  let c : Cursor := ⟨s.toList, 1, 0⟩
  match readValue (2 * s.length + 2) 0 c with
  | .error e => .error e
  | .ok (v, c) =>
    let c := c.skipBlanks
    match c.rest with
    | [] => .ok v
    | _ :: _ => c.failAhead .trailingCharacters

end Json

end CorpusBench
