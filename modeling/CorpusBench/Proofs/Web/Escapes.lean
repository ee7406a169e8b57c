import Mathlib.Data.List.Basic
import CorpusBench.Web.Url

/-!
# Component encoding and its escapes read back

What a component encoder is documented to do (`Url.EncodesComponent`): every UTF-8 byte of a
text is written as it is when it is an ASCII letter or digit or one of `- . _ ~`, and as `%XX`
otherwise.  The encoder of the library, `Url.encodeComponent`, does that
(`Url.encodesComponent_encodeComponent`).  For every such encoder, percent-decoding gives the
text's bytes back (`Url.EncodesComponent.percentDecode_toUTF8`); what it writes are letters,
digits, `- . _ ~` and `%`; and a dot is never escaped, so the encodings that are dot segments, in
any spelling, are exactly those of `.` and `..` (`Url.EncodesComponent.isDot_iff`).

## Main definitions

* `Url.componentByte` — a byte as component encoding writes it.
* `Url.EncodesComponent` — the documented behaviour of a component encoder.
* `Text.caseVariants` — the texts that lower to a given text.

## Main results

* `Url.encodesComponent_encodeComponent`.
* `Url.EncodesComponent.percentDecode_toUTF8`, `Url.EncodesComponent.isDot_iff`.
-/

namespace CorpusBench

/-! ### The bytes of a text -/

theorem Char.toNat_ofNat_of_lt {n : Nat} (h : n < 0xd800) : (Char.ofNat n).toNat = n := by
  have hv : n.isValidChar := Or.inl h
  rw [Char.ofNat, dif_pos hv]
  rfl

/-- An ASCII character read back from its byte. -/
theorem Char.ofNat_toNat_byte {c : Char} (h : c.toNat < 128) :
    Char.ofNat (UInt8.ofNat c.toNat).toNat = c := by
  rw [show (UInt8.ofNat c.toNat).toNat = c.toNat by simp; omega]
  exact Char.ofNat_toNat c

theorem isAlphanum_toNat {c : Char} (h : c.isAlphanum = true) :
    (48 ≤ c.toNat ∧ c.toNat ≤ 57) ∨ (65 ≤ c.toNat ∧ c.toNat ≤ 90) ∨
      (97 ≤ c.toNat ∧ c.toNat ≤ 122) := by
  delta Char.isAlphanum Char.isAlpha Char.isUpper Char.isLower Char.isDigit at h
  simp only [Bool.or_eq_true, Bool.and_eq_true, decide_eq_true_eq, UInt32.le_iff_toNat_le,
    Char.toNat_val, Char.reduceToNat] at h
  omega

theorem ByteArray.toList_loop_eq (b : ByteArray) (i : Nat) (r : List UInt8) :
    ByteArray.toList.loop b i r = r.reverse ++ b.data.toList.drop i := by
  fun_induction ByteArray.toList.loop b i r with
  | case1 i r h ih =>
    rw [ih]
    have hi : i < b.data.toList.length := by simpa using h
    rw [List.drop_eq_getElem_cons hi]
    simp [ByteArray.get!, h]
  | case2 i r h =>
    have : b.data.toList.length ≤ i := by simpa using h
    simp [List.drop_eq_nil_of_le this]

theorem ByteArray.toList_eq (b : ByteArray) : b.toList = b.data.toList := by
  simp [ByteArray.toList, ByteArray.toList_loop_eq]

/-- The UTF-8 bytes of a text are those of its characters, one after another. -/
theorem toUTF8_toList (s : String) :
    s.toUTF8.toList = s.toList.flatMap String.utf8EncodeChar := by
  rw [ByteArray.toList_eq, String.toUTF8_eq_toByteArray, ← String.ofList_toList (s := s),
    String.toByteArray_ofList, String.toList_ofList, List.utf8Encode, List.toList_data_toByteArray]

theorem toUTF8_toList_inj {s t : String} (h : s.toUTF8.toList = t.toUTF8.toList) : s = t := by
  rw [ByteArray.toList_eq, ByteArray.toList_eq, Array.toList_inj] at h
  exact String.toByteArray_inj.1 (ByteArray.ext h)

theorem utf8EncodeChar_of_lt {c : Char} (h : c.toNat < 128) :
    String.utf8EncodeChar c = [UInt8.ofNat c.toNat] := by
  have hsize : c.utf8Size = 1 :=
    Char.utf8Size_eq_one_iff.2 (UInt32.le_iff_toNat_le.2 (by rw [Char.toNat_val]; simp; omega))
  rw [String.utf8EncodeChar_eq_singleton hsize]
  rfl

/-! ### Lowering ASCII letters -/

namespace Text

/-- Lowering is undone by raising: a character lowers to `d` only when it is `d` or `d`
raised. -/
theorem eq_or_eq_asciiUpper_of_asciiLower {c d : Char} (h : asciiLower c = d) :
    c = d ∨ c = asciiUpper d := by
  unfold asciiLower at h
  split at h
  · next hc =>
    right
    subst h
    simp only [Bool.and_eq_true, decide_eq_true_eq] at hc
    have h1 : 65 ≤ c.toNat ∧ c.toNat ≤ 90 := ⟨hc.1, hc.2⟩
    have hd : (Char.ofNat (c.toNat + 32)).toNat = c.toNat + 32 :=
      Char.toNat_ofNat_of_lt (by omega)
    have hl : ('a' ≤ Char.ofNat (c.toNat + 32) && Char.ofNat (c.toNat + 32) ≤ 'z') = true := by
      simp only [Bool.and_eq_true, decide_eq_true_eq]
      exact ⟨by show 97 ≤ (Char.ofNat (c.toNat + 32)).toNat; omega,
        by show (Char.ofNat (c.toNat + 32)).toNat ≤ 122; omega⟩
    rw [asciiUpper, if_pos hl, hd, Nat.add_sub_cancel, Char.ofNat_toNat]
  · exact .inl h

/-- The texts that lower to a text: each of its letters in either case. -/
def caseVariants : List Char → List (List Char)
  | [] => [[]]
  | d :: t => (caseVariants t).flatMap fun x => [d :: x, asciiUpper d :: x]

theorem mem_caseVariants_of_map {xs t : List Char} (h : xs.map asciiLower = t) :
    xs ∈ caseVariants t := by
  induction xs generalizing t with
  | nil =>
    subst h
    simp [caseVariants]
  | cons c xs ih =>
    subst h
    simp only [List.map_cons, caseVariants, List.mem_flatMap, List.mem_cons, List.not_mem_nil,
      or_false]
    refine ⟨xs, ih rfl, ?_⟩
    rcases eq_or_eq_asciiUpper_of_asciiLower (rfl : asciiLower c = _) with h | h
    · exact .inl (by rw [← h])
    · exact .inr (by rw [← h])

end Text

/-! ### Escapes of bytes -/

theorem Host.percentDecode_cons_of_ne {x : UInt8} (h : x ≠ 0x25) (rest : List UInt8) :
    Host.percentDecode (x :: rest) = x :: Host.percentDecode rest := by
  rcases rest with _ | ⟨a, _ | ⟨b, rest⟩⟩ <;> simp [Host.percentDecode, h]

namespace Url

/-- Each hex digit is a letter or a digit, and reads back as its value. -/
theorem hexDigit_spec : ∀ n : Fin 16,
    (hexDigit n).isAlphanum = true ∧ Host.hexValue? (hexDigit n) = some n := by
  decide

theorem hexDigit_isAlphanum {n : Nat} (h : n < 16) : (hexDigit n).isAlphanum = true :=
  (hexDigit_spec ⟨n, h⟩).1

theorem hexValue?_hexDigit {n : Nat} (h : n < 16) : Host.hexValue? (hexDigit n) = some n :=
  (hexDigit_spec ⟨n, h⟩).2

theorem hexDigit_lt {n : Nat} (h : n < 16) : (hexDigit n).toNat < 128 := by
  have := isAlphanum_toNat (hexDigit_isAlphanum h)
  omega

/-- An escaped byte is read back. -/
theorem percentDecode_escapeByte (b : UInt8) (rest : List UInt8) :
    Host.percentDecode ((escapeByte b).flatMap String.utf8EncodeChar ++ rest) =
      b :: Host.percentDecode rest := by
  have hhi : b.toNat / 16 < 16 := by
    have := b.toNat_lt
    omega
  have hlo : b.toNat % 16 < 16 := Nat.mod_lt _ (by omega)
  simp only [escapeByte, List.flatMap_cons, List.flatMap_nil,
    utf8EncodeChar_of_lt (hexDigit_lt hhi), utf8EncodeChar_of_lt (hexDigit_lt hlo),
    utf8EncodeChar_of_lt (show '%'.toNat < 128 by decide), List.cons_append, List.nil_append,
    List.append_nil]
  rw [show UInt8.ofNat '%'.toNat = 0x25 by decide, Host.percentDecode,
    Char.ofNat_toNat_byte (hexDigit_lt hhi), Char.ofNat_toNat_byte (hexDigit_lt hlo),
    hexValue?_hexDigit hhi, hexValue?_hexDigit hlo]
  -- the two digits make the byte again
  simp only [List.cons.injEq, and_true]
  rw [show b.toNat / 16 * 16 + b.toNat % 16 = b.toNat by omega]
  simp

theorem escapeChar_eq (c : Char) :
    escapeChar c = (String.utf8EncodeChar c).flatMap escapeByte := by
  rw [escapeChar, toUTF8_toList, String.toList_singleton, List.flatMap_cons, List.flatMap_nil,
    List.append_nil]


/-! ### The documented encoding -/

/-- What component encoding keeps: an ASCII letter or digit, or one of `- . _ ~`. -/
def keptChar (c : Char) : Bool := c.isAlphanum || "-._~".contains c

/-- A byte as component encoding writes it: an ASCII byte of a kept character as that
character, any other as `%XX`. -/
def componentByte (b : UInt8) : List Char :=
  if b.toNat < 128 && keptChar (Char.ofNat b.toNat) then [Char.ofNat b.toNat] else escapeByte b

/-- What a component encoder is documented to do: write every UTF-8 byte of the text as
`componentByte` writes it. -/
def EncodesComponent (enc : String → String) : Prop :=
  ∀ s, (enc s).toList = s.toUTF8.toList.flatMap componentByte

/-- What component encoding keeps is one ASCII byte, and no `%`. -/
theorem kept_ascii {c : Char} (h : keptChar c = true) : c.toNat < 128 ∧ c.toNat ≠ 0x25 := by
  rcases Bool.or_eq_true_iff.1 h with h | h
  · have := isAlphanum_toNat h
    omega
  · have : c = '-' ∨ c = '.' ∨ c = '_' ∨ c = '~' := by simpa [String.contains_char_eq] using h
    rcases this with rfl | rfl | rfl | rfl <;> decide

/-- Every byte of the UTF-8 form of a character of more than one byte has its top bit set. -/
theorem le_of_mem_utf8EncodeChar {c : Char} (hc : c.utf8Size ≠ 1) {b : UInt8}
    (hb : b ∈ String.utf8EncodeChar c) : 128 ≤ b.toNat := by
  have top : ∀ x m : UInt8, 128 ≤ m.toNat → 128 ≤ (x ||| m).toNat := fun x m hm =>
    Nat.le_trans hm (UInt8.le_iff_toNat_le.1 UInt8.right_le_or)
  rcases Char.utf8Size_eq c with h | h | h | h
  · exact absurd h hc
  all_goals
    first
      | rw [String.utf8EncodeChar_eq_cons_cons h] at hb
      | rw [String.utf8EncodeChar_eq_cons_cons_cons h] at hb
      | rw [String.utf8EncodeChar_eq_cons_cons_cons_cons h] at hb
    simp only [List.mem_cons, List.not_mem_nil, or_false] at hb
    rcases hb with rfl | rfl | rfl | rfl <;> exact top _ _ (by decide)

/-- A byte of the UTF-8 form of a character that is below 128 is the whole character. -/
theorem eq_of_mem_utf8EncodeChar {c : Char} {b : UInt8} (hb : b ∈ String.utf8EncodeChar c)
    (hlt : b.toNat < 128) : Char.ofNat b.toNat = c := by
  by_cases hc : c.utf8Size = 1
  · have hc' : c.toNat < 128 := by
      have := Char.utf8Size_eq_one_iff.1 hc
      simp only [UInt32.le_iff_toNat_le, Char.toNat_val, UInt32.reduceToNat] at this
      omega
    rw [String.utf8EncodeChar_eq_singleton hc, List.mem_singleton] at hb
    subst hb
    rw [show c.val.toUInt8.toNat = c.toNat by rw [UInt32.toNat_toUInt8, Char.toNat_val]; omega,
      Char.ofNat_toNat]
  · exact absurd (le_of_mem_utf8EncodeChar hc hb) (by omega)

/-- A kept character is written as itself. -/
theorem componentBytes_of_kept {c : Char} (h : keptChar c = true) :
    (String.utf8EncodeChar c).flatMap componentByte = [c] := by
  have hlt := (kept_ascii h).1
  have hb : (UInt8.ofNat c.toNat).toNat = c.toNat := by simp; omega
  rw [utf8EncodeChar_of_lt hlt, List.flatMap_singleton, componentByte, hb, Char.ofNat_toNat,
    if_pos (by simp [hlt, h])]

/-- Every byte of a character component encoding does not keep is escaped. -/
theorem componentBytes_of_not_kept {c : Char} (h : keptChar c = false) :
    (String.utf8EncodeChar c).flatMap componentByte =
      (String.utf8EncodeChar c).flatMap escapeByte := by
  refine List.flatMap_congr fun b hb => if_neg fun hk => ?_
  simp only [Bool.and_eq_true, decide_eq_true_eq] at hk
  rw [eq_of_mem_utf8EncodeChar hb hk.1, h] at hk
  exact Bool.false_ne_true hk.2

/-- **The library's encoder does what a component encoder is documented to do.** -/
theorem encodesComponent_encodeComponent : EncodesComponent encodeComponent := by
  intro s
  rw [encodeComponent, encodeWith, String.toList_ofList, toUTF8_toList, List.flatMap_assoc]
  refine List.flatMap_congr fun c _ => ?_
  show (if (!keptChar c) = true then escapeChar c else [c]) = _
  cases hk : keptChar c
  · rw [componentBytes_of_not_kept hk, ← escapeChar_eq]
    rfl
  · rw [componentBytes_of_kept hk]
    rfl

section Documented

variable {enc : String → String}

/-- Percent-decoding reads back what component encoding writes of some bytes. -/
theorem percentDecode_componentBytes (bs rest : List UInt8) :
    Host.percentDecode ((bs.flatMap componentByte).flatMap String.utf8EncodeChar ++ rest) =
      bs ++ Host.percentDecode rest := by
  induction bs with
  | nil => rfl
  | cons b bs ih =>
    rw [List.flatMap_cons, List.flatMap_append, List.append_assoc, componentByte]
    split
    · next hk =>
      -- a kept byte is one ASCII character, which starts no escape
      simp only [Bool.and_eq_true, decide_eq_true_eq] at hk
      have hpct : b ≠ 0x25 := by
        intro h
        have := (kept_ascii hk.2).2
        rw [Char.toNat_ofNat_of_lt (by omega), h] at this
        exact this rfl
      rw [List.flatMap_singleton,
        utf8EncodeChar_of_lt (by rw [Char.toNat_ofNat_of_lt (by omega)]; exact hk.1),
        Char.toNat_ofNat_of_lt (by omega), UInt8.ofNat_toNat, List.singleton_append,
        Host.percentDecode_cons_of_ne hpct, ih, List.cons_append]
    · rw [percentDecode_escapeByte, ih, List.cons_append]

/-- **Component encoding is read back**: percent-decoding what a component encoder writes gives
the bytes of the text. -/
theorem EncodesComponent.percentDecode_toUTF8 (henc : EncodesComponent enc) (s : String) :
    Host.percentDecode (enc s).toUTF8.toList = s.toUTF8.toList := by
  have h := percentDecode_componentBytes s.toUTF8.toList []
  rw [show Host.percentDecode [] = [] from rfl, List.append_nil, List.append_nil] at h
  rw [toUTF8_toList, henc, h]

/-- A component encoder writes letters, digits, `- . _ ~` and the `%` of its escapes. -/
theorem EncodesComponent.written_of_mem (henc : EncodesComponent enc) {s : String} {c : Char}
    (h : c ∈ (enc s).toList) : (c.isAlphanum || "-._~%".contains c) = true := by
  rw [henc, List.mem_flatMap] at h
  obtain ⟨b, -, hb⟩ := h
  rw [componentByte] at hb
  split at hb
  · next hk =>
    rw [List.mem_singleton] at hb
    subst hb
    simp only [Bool.and_eq_true] at hk
    rcases Bool.or_eq_true_iff.1 hk.2 with h | h
    · simp [h]
    · have : Char.ofNat b.toNat = '-' ∨ Char.ofNat b.toNat = '.' ∨ Char.ofNat b.toNat = '_' ∨
          Char.ofNat b.toNat = '~' := by simpa [String.contains_char_eq] using h
      rcases this with h | h | h | h <;> simp [h, String.contains_char_eq]
  · -- an escape: `%` and two hex digits
    have hhi : b.toNat / 16 < 16 := by
      have := b.toNat_lt
      omega
    have hlo : b.toNat % 16 < 16 := Nat.mod_lt _ (by omega)
    simp only [escapeByte, List.mem_cons, List.not_mem_nil, or_false] at hb
    rcases hb with rfl | rfl | rfl
    · simp [String.contains_char_eq]
    · simp [hexDigit_isAlphanum hhi]
    · simp [hexDigit_isAlphanum hlo]

/-- A text of kept characters is its own encoding. -/
theorem EncodesComponent.eq_self (henc : EncodesComponent enc) {s : String}
    (h : ∀ c ∈ s.toList, keptChar c = true) : enc s = s := by
  apply String.toList_injective
  rw [henc, toUTF8_toList, List.flatMap_assoc,
    List.flatMap_congr fun c hc => componentBytes_of_kept (h c hc), List.flatMap_singleton']

/-! ### Dot segments -/

/-- A dot segment lowers to one of the six spellings of `.` and `..`. -/
theorem lower_of_dot {seg : String} (h : (isSingleDot seg || isDoubleDot seg) = true) :
    seg.toList.map Text.asciiLower ∈ [['.'], ['%', '2', 'e'], ['.', '.'], ['.', '%', '2', 'e'],
      ['%', '2', 'e', '.'], ['%', '2', 'e', '%', '2', 'e']] := by
  have lowered : ∀ lit : String, Text.asciiLowerString seg = lit →
      seg.toList.map Text.asciiLower = lit.toList := by
    intro lit hl
    rw [← hl, Text.asciiLowerString, String.toList_ofList]
  simp only [isSingleDot, isDoubleDot, Bool.or_eq_true, beq_iff_eq] at h
  rcases h with (rfl | h) | ((h | h) | h) | h
  · decide
  all_goals simp [lowered _ h]

/-- Every spelling of `.` and `..`, in either case, decodes to one or two dots. -/
theorem percentDecode_dotForms : ∀ t ∈ [['.'], ['%', '2', 'e'], ['.', '.'], ['.', '%', '2', 'e'],
    ['%', '2', 'e', '.'], ['%', '2', 'e', '%', '2', 'e']], ∀ x ∈ Text.caseVariants t,
      Host.percentDecode (x.flatMap String.utf8EncodeChar) = [46] ∨
        Host.percentDecode (x.flatMap String.utf8EncodeChar) = [46, 46] := by
  decide

/-- **The encodings that are dot segments** are those of `.` and `..`, kept as they are: a dot
segment, in any spelling, decodes to one or two dots, and decoding gives the text back. -/
theorem EncodesComponent.isDot_iff (henc : EncodesComponent enc) (s : String) :
    (isSingleDot (enc s) || isDoubleDot (enc s)) = true ↔ s = "." ∨ s = ".." := by
  constructor
  · intro h
    have hdec := percentDecode_dotForms _ (lower_of_dot h) _ (Text.mem_caseVariants_of_map rfl)
    rw [← toUTF8_toList, henc.percentDecode_toUTF8] at hdec
    rcases hdec with h1 | h2
    · exact .inl (toUTF8_toList_inj (by rw [h1, toUTF8_toList]; rfl))
    · exact .inr (toUTF8_toList_inj (by rw [h2, toUTF8_toList]; rfl))
  · rintro (rfl | rfl)
    · rw [henc.eq_self (by simp [keptChar, String.contains_char_eq])]
      decide
    · rw [henc.eq_self (by simp [keptChar, String.contains_char_eq])]
      decide

end Documented

end Url

end CorpusBench
