/-!
# Punycode

Punycode writes a label of any code points in the letters, digits and hyphen of ASCII: the
ASCII code points of the label in order, a `-` when there are any, then the others as
variable-length numbers in base 36, each the distance, in steps of (code point, position), from
the last insertion to the next.  The threshold of each digit follows a bias adapted after every
insertion.

Decoding splits at the last `-`: what stands before it must be ASCII and is kept; when the
label begins with its only `-`, that `-` is read as a digit and refuses the label.  Decoding
refuses a digit that is not one, a number cut short, and an insertion beyond the last code
point or among the surrogates.

## Main definitions

* `Punycode.decode?`, `Punycode.encode`.

## Main results

* `Punycode.readNumber_shorter` — reading a number consumes input.
-/

namespace CorpusBench

namespace Punycode

/-- The value of a base-36 digit: `a`–`z` (either case) are 0–25, `0`–`9` are 26–35. -/
def digitValue? (c : Char) : Option Nat :=
  let n := c.toNat
  if 0x61 ≤ n && n ≤ 0x7A then some (n - 0x61)
  else if 0x41 ≤ n && n ≤ 0x5A then some (n - 0x41)
  else if 0x30 ≤ n && n ≤ 0x39 then some (n - 0x30 + 26)
  else none

/-- The threshold of the `k`-th digit for a bias. -/
def threshold (k bias : Nat) : Nat :=
  if k ≤ bias then 1 else if bias + 26 ≤ k then 26 else k - bias

/-- Shrink a delta until it is small, counting the steps by 36. -/
def shrink (delta k : Nat) : Nat × Nat :=
  if 455 < delta then shrink (delta / 35) (k + 36) else (delta, k)
termination_by delta
decreasing_by exact Nat.div_lt_self (by omega) (by omega)

/-- The bias after a delta. -/
def adapt (delta points : Nat) (first : Bool) : Nat :=
  let d := if first then delta / 700 else delta / 2
  let (d, k) := shrink (d + d / points) 0
  k + 36 * d / (d + 38)

/-- Read one variable-length number, adding it to `i`; the rest of the input. -/
def readNumber (bias : Nat) : List Char → Nat → Nat → Nat → Option (Nat × List Char)
  | [], _, _, _ => none
  | c :: rest, k, w, i =>
    match digitValue? c with
    | none => none
    | some d =>
      if d < threshold k bias then some (i + d * w, rest)
      else readNumber bias rest (k + 36) (w * (36 - threshold k bias)) (i + d * w)

theorem readNumber_shorter : ∀ (bias : Nat) (l : List Char) (k w i : Nat) (r : Nat × List Char),
    readNumber bias l k w i = some r → r.2.length < l.length
  | _, [], _, _, _, _, h => by simp [readNumber] at h
  | bias, c :: rest, k, w, i, r, h => by
    rw [readNumber] at h
    split at h
    · simp at h
    · split at h
      · rw [← Option.some.inj h]; simp
      · have := readNumber_shorter bias rest (k + 36) _ _ r h
        simp; omega

/-- Insert the code points the numbers stand for. -/
def insertAll (bias n i : Nat) (out : List Char) : List Char → Option (List Char)
  | [] => some out
  | c :: rest =>
    match _h : readNumber bias (c :: rest) 36 1 i with
    | none => none
    | some (i', rem) =>
      let points := out.length + 1
      let n' := n + i' / points
      if n' < 0xD800 || (0xDFFF < n' && n' < 0x110000) then
        insertAll (adapt (i' - i) points (i == 0)) n' (i' % points + 1)
          (out.insertIdx (i' % points) (Char.ofNat n')) rem
      else none
termination_by l => l.length
decreasing_by
  have := readNumber_shorter bias (c :: rest) 36 1 i (i', rem) _h
  simpa using this

/-- The code points an encoded label stands for: the plain ASCII part before the last `-`,
with the rest inserted. -/
def decode? (input : List Char) : Option (List Char) :=
  let (basic, ext) := match input.reverse.span (· != '-') with
    | (tail, []) => ([], tail.reverse)
    | (_, _ :: []) => ([], input)
    | (tail, _ :: head) => (head.reverse, tail.reverse)
  if basic.any (fun c => 0x80 ≤ c.toNat) then none
  else insertAll 72 128 0 basic ext

/-- The base-36 digit of a value below 36. -/
def encodeDigit (d : Nat) : Char :=
  if d < 26 then Char.ofNat (0x61 + d) else Char.ofNat (0x30 + d - 26)

theorem threshold_pos (k bias : Nat) : 1 ≤ threshold k bias := by
  unfold threshold
  split
  · exact Nat.le_refl 1
  · split <;> omega

theorem threshold_le (k bias : Nat) : threshold k bias ≤ 26 := by
  unfold threshold
  split
  · omega
  · split <;> omega

/-- The digits of one variable-length number `q`, the first at position `k`. -/
def writeNumber (bias q k : Nat) : List Char :=
  if q < threshold k bias then [encodeDigit q]
  else
    encodeDigit (threshold k bias + (q - threshold k bias) % (36 - threshold k bias)) ::
      writeNumber bias ((q - threshold k bias) / (36 - threshold k bias)) (k + 36)
termination_by q
decreasing_by
  have h1 := threshold_pos k bias
  have h2 := Nat.div_le_self (q - threshold k bias) (36 - threshold k bias)
  omega

/-- One round of the encoder for the code point `m`: walk the input, counting the smaller
code points into the delta and writing the delta at each occurrence of `m`.  The state is the
delta, the bias, the number of code points handled and the digits written. -/
def encodeRound (basicCount m : Nat) (st : Nat × Nat × Nat × List Char) (c : Nat) :
    Nat × Nat × Nat × List Char :=
  let (delta, bias, h, out) := st
  if c < m then (delta + 1, bias, h, out)
  else if c = m then (0, adapt delta (h + 1) (h == basicCount), h + 1, out ++ writeNumber bias delta 36)
  else st

/-- The rounds of the encoder, for the code points `ms` in increasing order from `n` on. -/
def encodeFrom (input : List Nat) (basicCount : Nat) :
    List Nat → Nat → Nat → Nat → Nat → List Char → List Char
  | [], _, _, _, _, out => out
  | m :: ms, n, delta, bias, h, out =>
    let (delta, bias, h, out) :=
      input.foldl (encodeRound basicCount m) (delta + (m - n) * (h + 1), bias, h, out)
    encodeFrom input basicCount ms (m + 1) (delta + 1) bias h out

/-- The encoding of a label: its ASCII code points, a `-` when there are any, then the
digits that insert the others. -/
def encode (input : List Char) : List Char :=
  let points := input.map Char.toNat
  let basic := input.filter (·.toNat < 0x80)
  let others := ((points.filter (0x80 ≤ ·)).mergeSort (· ≤ ·)).eraseDups
  let start := if basic.isEmpty then [] else basic ++ ['-']
  encodeFrom points basic.length others 128 0 72 basic.length start

end Punycode

end CorpusBench
