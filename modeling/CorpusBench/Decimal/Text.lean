import CorpusBench.Decimal.Shortest

/-!
# Doubles as text

Two layouts of the shortest digits of a double, and the reading of decimal text into the
nearest double.

* The **plain** layout writes every finite double positionally: `51.5`, `0.0000001`,
  `1000000000000000000000`, an integral value without a point, negative zero as `-0`.  It is
  used wherever a number is spliced into a message, a form field or a URL segment.
* The **document** layout is the one of JSON numbers: positional with a trailing `.0` for an
  integral value while the value lies in `[1e-5, 1e16)`, and otherwise one digit, the rest
  after a point, and a signed exponent: `1e+16`, `1.5e-7`.

Reading rounds exactly: the decimal `m · 10^e` becomes the double nearest to it, a tie going to
the even significand, computed on `Nat` without any intermediate rounding.

## Main definitions

* `FloatLayout`, `FloatLayout.plain`, `FloatLayout.document` — the two layouts.
* `Decimal.toFloat` — the double nearest to a decimal.
* `parseFloatText?` — the grammar of decimal literals accepted by form fields.
-/

namespace CorpusBench

/-- How the shortest digits of a double are laid out. -/
structure FloatLayout where
  /-- Points (see `Decimal.point`) strictly above this bound and not above `positionalUpTo`
  are written positionally; `none` writes every value positionally. -/
  positionalAbove : Option Int
  positionalUpTo : Int
  /-- Appended to a positional integral value. -/
  integralSuffix : String
  /-- Whether a non-negative exponent carries a `+`. -/
  exponentPlus : Bool
  infinityText : String
  nanText : String
  /-- Whether a tie between two nearest shortest decimals goes to the even one (else to the
  upper one). -/
  tieToEven : Bool

namespace FloatLayout

/-- Positional always, no point for integral values, `inf` and `NaN` spelled out. -/
def plain : FloatLayout := ⟨none, 0, "", false, "inf", "NaN", false⟩

/-- JSON numbers: positional for points in `(-5, 16]`, a `.0` on integral values, an exponent
with its sign elsewhere, and ties to the even digit. -/
def document : FloatLayout := ⟨some (-5), 16, ".0", true, "null", "null", true⟩

/-- Diagnostics: positional from `1e-4` up to below `1e16` with a `.0` on integral values, an
exponent without `+` elsewhere, `inf` and `NaN` spelled out. -/
def diagnostic : FloatLayout := ⟨some (-4), 16, ".0", false, "inf", "NaN", false⟩

end FloatLayout

/-- `n` zero characters. -/
def zeros (n : Nat) : String := String.ofList (List.replicate n '0')

namespace Decimal

/-- The digits of the significand as text. -/
def digitText (d : Decimal) : String := String.ofList (Nat.toDigits 10 d.digits)

/-- Lay out a nonzero decimal without trailing zeros, unsigned. -/
def layout (style : FloatLayout) (d : Decimal) : String :=
  let ds := d.digitText
  let n := ds.length
  let kk := d.point
  let positional :=
    match style.positionalAbove with
    | none => true
    | some lo => lo < kk && kk ≤ style.positionalUpTo
  if positional then
    if kk ≤ 0 then "0." ++ zeros (-kk).toNat ++ ds
    else if kk.toNat < n then
      String.ofList (ds.toList.take kk.toNat) ++ "." ++ String.ofList (ds.toList.drop kk.toNat)
    else ds ++ zeros (kk.toNat - n) ++ style.integralSuffix
  else
    let e := kk - 1
    let mantissa :=
      match ds.toList with
      | [] => "0"
      | [c] => String.singleton c
      | c :: rest => String.singleton c ++ "." ++ String.ofList rest
    let sign := if e < 0 then "-" else if style.exponentPlus then "+" else ""
    mantissa ++ "e" ++ sign ++ toString e.natAbs

end Decimal

/-- A double as text in the given layout. -/
def Float.textIn (style : FloatLayout) (x : Float) : String :=
  if x.isNaN then style.nanText
  else
    match BinaryValue.ofFloat x with
    | none => if x < 0 then "-" ++ style.infinityText else style.infinityText
    | some v =>
      let sign := if v.negative then "-" else ""
      if v.significand = 0 then sign ++ "0" ++ style.integralSuffix
      else sign ++ (v.shortest style.tieToEven).layout style

/-- The plain text of a double: `51.5`, `0.0000001`, `-0`, `inf`. -/
def Float.plainText (x : Float) : String := Float.textIn FloatLayout.plain x

/-- The text of a double as a JSON number: `2.5`, `123.0`, `1e+16`, `-0.0`. -/
def Float.documentText (x : Float) : String := Float.textIn FloatLayout.document x

/-- The text of a double in a diagnostic: `5.0`, `0.0001`, `1e16`, `1.5e-7`, `NaN`. -/
def Float.diagnosticText (x : Float) : String := Float.textIn FloatLayout.diagnostic x

namespace Decimal

/-- The double nearest to `digits · 10^exponent`, a tie going to the even significand;
`Float.inf` beyond the largest finite double. -/
def toFloat (d : Decimal) : Float :=
  if d.digits = 0 then 0.0
  else
    let magnitude : Int := d.exponent + (Nat.toDigits 10 d.digits).length
    if magnitude > 310 then Float.ofBits 0x7FF0000000000000
    else if magnitude < -330 then 0.0
    else
      let (dn, dd) := BinaryValue.powTen d.exponent
      let num := d.digits * dn
      let den := dd
      -- the binary exponent b with 2^52 ≤ num / (den · 2^b) < 2^53, or the least one
      let estimate : Int := (Nat.log2 num : Int) - (Nat.log2 den : Int) - 52
      let quotient (b : Int) : Nat × Nat × Nat :=
        let (tn, td) := BinaryValue.powTwo b
        -- num / (den · 2^b) = (num · td) / (den · tn)
        let a := num * td
        let c := den * tn
        (a / c, a % c, c)
      let b0 := if (quotient estimate).1 < Nat.pow 2 52 then estimate - 1 else estimate
      let b := if b0 < -1074 then -1074 else b0
      let (q, r, c) := quotient b
      let up := 2 * r > c || (2 * r = c && q % 2 = 1)
      let q1 := if up then q + 1 else q
      let (q2, b2) := if q1 = Nat.pow 2 53 then (Nat.pow 2 52, b + 1) else (q1, b)
      if b2 > 971 then Float.ofBits 0x7FF0000000000000
      else if q2 < Nat.pow 2 52 then Float.ofBits (UInt64.ofNat q2)
      else Float.ofBits (UInt64.ofNat ((b2 + 1075).toNat * Nat.pow 2 52 + (q2 - Nat.pow 2 52)))

end Decimal

/-- A signed decimal read as a double. -/
def decimalToFloat (negative : Bool) (d : Decimal) : Float :=
  let x := d.toFloat
  if negative then -x else x

/-- Read decimal digits, most significant first. -/
def digitsValue (ds : List Char) : Nat :=
  ds.foldl (fun acc c => acc * 10 + (c.toNat - '0'.toNat)) 0

/-- The literal of a decimal number: sign, digits with at most one point and at least one
digit, and an optional exponent `e`/`E` with sign and at least one digit; or one of `inf`,
`infinity` and `nan` in any case.  The value is the nearest double. -/
def parseFloatText? (s : String) : Option Float :=
  let cs := s.toList
  let (negative, body) :=
    match cs with
    | '-' :: rest => (true, rest)
    | '+' :: rest => (false, rest)
    | _ => (false, cs)
  let lower := String.ofList (body.map Char.toLower)
  if lower = "inf" || lower = "infinity" then
    some (if negative then -(Float.ofBits 0x7FF0000000000000) else Float.ofBits 0x7FF0000000000000)
  else if lower = "nan" then some (Float.ofBits 0x7FF8000000000000)
  else
    let intPart := body.takeWhile Char.isDigit
    let rest := body.dropWhile Char.isDigit
    let (fracPart, rest) :=
      match rest with
      | '.' :: r => (r.takeWhile Char.isDigit, r.dropWhile Char.isDigit)
      | _ => ([], rest)
    if intPart.isEmpty && fracPart.isEmpty then none
    else
      let expResult : Option Int :=
        match rest with
        | [] => some 0
        | c :: r =>
          if c = 'e' || c = 'E' then
            let (eneg, edigits) :=
              match r with
              | '-' :: r' => (true, r')
              | '+' :: r' => (false, r')
              | _ => (false, r)
            if edigits.isEmpty || !edigits.all Char.isDigit then none
            else
              -- exponents beyond any double are clamped; the value is then zero or infinite
              let e := min (digitsValue edigits) 100000
              some (if eneg then -(e : Int) else e)
          else none
      match expResult with
      | none => none
      | some e =>
        let m := digitsValue (intPart ++ fracPart)
        some (decimalToFloat negative ⟨m, e - fracPart.length⟩)

end CorpusBench
