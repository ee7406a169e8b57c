/-!
# Shortest decimal digits of a double

A finite double `x` stands for every real that rounds to it: the interval halfway to its two
neighbours, ends included exactly when its significand is even.  The shortest decimal of `x`
is the decimal with the fewest significant digits in that interval, and of two such decimals
the one nearer to `x`.  Printing those digits and reading them back gives `x` again, and no
shorter digit string does.

All arithmetic here is exact, on `Nat`: the double is decoded from its bits into
`significand · 2^exponent`, and each candidate decimal is compared with the interval ends by
cross-multiplying powers of two and ten.

## Main definitions

* `Decimal` — a decimal `digits · 10^exponent`.
* `BinaryValue` — a finite double as sign, significand, exponent and interval
  shape, read off `Float.toBits`.
* `BinaryValue.shortest` — the shortest, nearest decimal of a positive double.

## Design

For `n = 1, 2, …, 17` the candidates with `n` significant digits nearest to `x` are the two
neighbours of `x` on the grid `10^(E - n + 1)`, where `10^E ≤ x < 10^(E+1)`.  The first `n` for
which a neighbour lies in the interval wins; seventeen digits always suffice for a double.  An
exact tie between the two neighbours goes to the even one or to the upper one, as the caller
asks.
-/

namespace CorpusBench

/-- A decimal number `digits · 10^exponent`. -/
structure Decimal where
  digits : Nat
  exponent : Int
  deriving Repr, DecidableEq

namespace Decimal

/-- Remove trailing zero digits, moving them into the exponent. -/
def normalize (d : Decimal) : Decimal :=
  go d.digits d.exponent d.digits
where
  /-- `fuel` bounds the number of zeros removed by the number itself. -/
  go (digits : Nat) (exponent : Int) : Nat → Decimal
    | 0 => ⟨digits, exponent⟩
    | fuel + 1 =>
      if digits ≠ 0 ∧ digits % 10 = 0 then go (digits / 10) (exponent + 1) fuel
      else ⟨digits, exponent⟩

/-- The decimal digits of the significand, most significant first (`[0]` for zero). -/
def digitList (d : Decimal) : List Nat :=
  (Nat.toDigits 10 d.digits).map (fun c => c.toNat - '0'.toNat)

/-- The number of significant digits. -/
def length (d : Decimal) : Nat := d.digitList.length

/-- The position of the decimal point relative to the first digit: the value lies in
`[10^(point - 1), 10^point)` for a nonzero significand without trailing zeros. -/
def point (d : Decimal) : Int := d.exponent + d.length

end Decimal

/-- A finite double as `significand · 2^exponent`, with the shape of the interval of reals
that round to it. -/
structure BinaryValue where
  negative : Bool
  significand : Nat
  exponent : Int
  /-- The gap to the lower neighbour is half the gap to the upper one (a power of two that
  is not the least normal exponent). -/
  narrowBelow : Bool
  deriving Repr

namespace BinaryValue

/-- Decode the bits of a double; `none` for infinities and NaN. -/
def ofFloat (x : Float) : Option BinaryValue :=
  let bits : Nat := x.toBits.toNat
  let negative : Bool := bits / Nat.pow 2 63 % 2 = 1
  let field : Nat := bits / Nat.pow 2 52 % Nat.pow 2 11
  let fraction : Nat := bits % Nat.pow 2 52
  if field = 2047 then none
  else if field = 0 then
    some ⟨negative, fraction, -1074, false⟩
  else
    some ⟨negative, fraction + Nat.pow 2 52, (field : Int) - 1075, fraction = 0 && field > 1⟩

/-- `2^k` as a pair of a numerator factor and a denominator factor. -/
def powTwo (k : Int) : Nat × Nat :=
  if 0 ≤ k then (Nat.pow 2 k.toNat, 1) else (1, Nat.pow 2 (-k).toNat)

/-- `10^k` as a pair of a numerator factor and a denominator factor. -/
def powTen (k : Int) : Nat × Nat :=
  if 0 ≤ k then (Nat.pow 10 k.toNat, 1) else (1, Nat.pow 10 (-k).toNat)

/-- Compare `a · 2^p` with `b · 10^q` exactly. -/
def compareScaled (a : Nat) (p : Int) (b : Nat) (q : Int) : Ordering :=
  let (tn, td) := powTwo p
  let (dn, dd) := powTen q
  compare (a * tn * dd) (b * dn * td)

/-- The exponent `E` with `10^E ≤ v.significand · 2^v.exponent < 10^(E+1)`, for a nonzero
significand. -/
def decimalExponent (v : BinaryValue) : Int :=
  -- an estimate from the bit length, corrected by at most two exact comparisons each way
  let bits : Int := (Nat.log2 v.significand : Int) + v.exponent
  let estimate : Int := (bits * 78913) / 262144
  let down (e : Int) : Int :=
    if compareScaled v.significand v.exponent 1 e = .lt then e - 1 else e
  let up (e : Int) : Int :=
    if compareScaled v.significand v.exponent 1 (e + 1) = .lt then e else e + 1
  up (up (down (down estimate)))

/-- Whether `c · 10^j` lies in the interval of reals that round to `v`. -/
def admits (v : BinaryValue) (c : Nat) (j : Int) : Bool :=
  -- interval ends in quarter units of the last place: `4m - 2 (or 4m - 1)` and `4m + 2`
  let q := v.exponent - 2
  let lo := 4 * v.significand - (if v.narrowBelow then 1 else 2)
  let hi := 4 * v.significand + 2
  let inclusive := v.significand % 2 = 0
  let above := compareScaled lo q c j
  let below := compareScaled hi q c j
  (above = .lt || (inclusive && above = .eq)) && (below = .gt || (inclusive && below = .eq))

/-- The nearest candidates on the grid `10^j`: the neighbour below (or the value itself when it
lies on the grid) and the one above, with whether the upper one is strictly nearer or tied. -/
def neighbours (v : BinaryValue) (j : Int) (tieToEven : Bool) : Nat × Nat × Bool :=
  let (tn, td) := powTwo v.exponent
  let (dn, dd) := powTen j
  -- v / 10^j = num / den
  let num := v.significand * tn * dd
  let den := td * dn
  let lowerC := num / den
  let rem := num % den
  -- the upper neighbour is nearer when `den - rem < rem`; at a tie it wins unless the tie goes
  -- to the even neighbour and the lower one is even
  let tie := den - rem = rem
  let upperWins := decide (den - rem < rem) || (tie && !(tieToEven && lowerC % 2 = 0))
  (lowerC, lowerC + 1, upperWins && rem ≠ 0)

/-- The decimal with `n` significant digits chosen for `v`, if one lies in its interval. -/
def candidate (v : BinaryValue) (tieToEven : Bool) (e : Int) (n : Nat) : Option Decimal :=
  let j := e - n + 1
  let (lowerC, upperC, upperNearer) := neighbours v j tieToEven
  let lowerOk := v.admits lowerC j
  let upperOk := v.admits upperC j
  if lowerOk && upperOk then
    some (if upperNearer then ⟨upperC, j⟩ else ⟨lowerC, j⟩)
  else if lowerOk then some ⟨lowerC, j⟩
  else if upperOk then some ⟨upperC, j⟩
  else none

/-- The shortest decimal in the interval of `v`, the nearer of two (a tie broken as
`tieToEven` says); `0` for zero. -/
def shortest (v : BinaryValue) (tieToEven : Bool) : Decimal :=
  if v.significand = 0 then ⟨0, 0⟩
  else
    let e := v.decimalExponent
    let found := (List.range 17).findSome? (fun i => v.candidate tieToEven e (i + 1))
    match found with
    | some d => d.normalize
    | none =>
      -- seventeen digits always fit; fall back to the lower seventeen-digit neighbour
      let (lowerC, _, _) := v.neighbours (e - 16) tieToEven
      (Decimal.mk lowerC (e - 16)).normalize

end BinaryValue

end CorpusBench
