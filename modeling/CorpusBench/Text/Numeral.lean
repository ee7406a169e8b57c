/-!
# Numerals

Reading a text as an unsigned machine word: an optional `+` followed by ASCII digits, with a
value that fits the word.  Nothing else is accepted: no blank, no `-`, no empty digit string.

Reading a text as a signed 64-bit integer reports why a text is refused.  The sign is read
first, then the digits from left to right, so the first fault met is the one reported: a
character that is no digit, or a value leaving the range.

## Main definitions

* `readWord?` — a numeral as a word of a given width.
* `readWord32?` — a numeral as an unsigned 32-bit word.
* `readInt64` — a numeral as a signed 64-bit integer, or the reason it is not one.
* `Width` — the widths, with `Width.max` and the name used in messages.
-/

namespace CorpusBench

/-! ### Unsigned word widths

The fields of the wire types and of commands are unsigned machine words of a fixed width; a
value outside the width is refused, never wrapped. -/

/-- An unsigned word width; `usize` is sixty-four bits wide. -/
inductive Width where
  | u8 | u16 | u32 | u64 | usize
  deriving DecidableEq, Repr

namespace Width

/-- The number of bits of a width. -/
def bits : Width → Nat
  | .u8 => 8
  | .u16 => 16
  | .u32 => 32
  | .u64 => 64
  | .usize => 64

/-- The largest value of the width. -/
def max (w : Width) : Nat := Nat.pow 2 w.bits - 1

/-- The name of the width in messages. -/
def name : Width → String
  | .u8 => "u8"
  | .u16 => "u16"
  | .u32 => "u32"
  | .u64 => "u64"
  | .usize => "usize"

/-- Whether `n` fits the width. -/
def fits (w : Width) (n : Nat) : Bool := n ≤ w.max

theorem fits_iff (w : Width) (n : Nat) : w.fits n = true ↔ n < Nat.pow 2 w.bits := by
  have h : 0 < Nat.pow 2 w.bits := Nat.two_pow_pos _
  unfold fits max
  rw [decide_eq_true_iff]
  omega

end Width

/-- A text read as an unsigned word of width `w`: an optional `+` and ASCII digits. -/
def readWord? (w : Width) (s : String) : Option Nat :=
  let digits := match s.toList with
    | '+' :: rest => rest
    | cs => cs
  if digits.isEmpty || !digits.all Char.isDigit then none
  else
    let v := digits.foldl (fun acc c => acc * 10 + (c.toNat - 48)) 0
    if v ≤ w.max then some v else none

/-- A text read as an unsigned 32-bit word. -/
def readWord32? (s : String) : Option Nat := readWord? .u32 s

/-- The digits of a signed 64-bit numeral after its sign, read from the left onto `acc`. -/
def readInt64Digits (negative : Bool) : List Char → Nat → Except String Int
  | [], acc => .ok (if negative then -(acc : Int) else acc)
  | c :: rest, acc =>
    if !c.isDigit then .error "invalid digit found in string"
    else
      let acc := acc * 10 + (c.toNat - 48)
      if negative && Nat.pow 2 63 < acc then .error "number too small to fit in target type"
      else if !negative && Nat.pow 2 63 - 1 < acc then .error "number too large to fit in target type"
      else readInt64Digits negative rest acc

/-- A text read as a signed 64-bit integer: an optional sign and ASCII digits; otherwise the
reason it is refused. -/
def readInt64 (s : String) : Except String Int :=
  match s.toList with
  | [] => .error "cannot parse integer from empty string"
  | ['+'] | ['-'] => .error "invalid digit found in string"
  | '-' :: ds => readInt64Digits true ds 0
  | '+' :: ds => readInt64Digits false ds 0
  | ds => readInt64Digits false ds 0

end CorpusBench
