import Mathlib.Data.Nat.Digits.Defs
import CorpusBench.Text.Entities

/-!
# Escaped text decodes back

Markup escapes text by writing characters as references: the five characters it reserves
(`&`, `<`, `>`, `"` and `'`) by name, and any other character, at the writer's choice, as
itself or by its code point in decimal (`&#N;`) or in hexadecimal (`&#xH;`, with digits of
either case), without leading zeros.  This file shows that decoding undoes every such escaping.

The argument goes one character at a time.  Every reference an escaping writes closes with its
only `;` within ten bytes of its `&` (`closeOffset`) and names the character it was written for
(`spell_cases`); so decoding reads the written character and goes on right after the `;`, never
reading again what it produced (`decodeList_spell`).  A character written as itself is never
`&`, so decoding passes it over.  Induction over the text then gives the whole text back, with
whatever follows it decoded on its own (`decodeList_escape`).

## Main definitions

* `Text.Spelling` — how a character that markup does not reserve is written.
* `Text.spell`, `Text.escape` — the written form of a character and of
  a text.
* `Text.closeOffset` — the byte offset of a reference's `;` from its `&`.

## Main results

* `Text.decodeEntities_escape` — decoding an escaped text followed by any text gives
  the text back followed by the decoding of the rest, and every reference an escaping writes
  fits the decoder's window of ten bytes.
-/

namespace CorpusBench

namespace Text

/-! ### Escaping -/

/-- How a character that markup does not reserve is written: as itself, or by its code point in
decimal, or in hexadecimal with upper- or lower-case digits. -/
inductive Spelling where
  | plain
  | decimal
  | hex (upper : Bool)
  deriving DecidableEq, Repr

/-- The name of the reference that writes a character markup reserves. -/
def reservedName? (c : Char) : Option (List Char) :=
  if c = '&' then some "amp".toList
  else if c = '<' then some "lt".toList
  else if c = '>' then some "gt".toList
  else if c = '"' then some "quot".toList
  else if c = '\'' then some "apos".toList
  else none

/-- The text of the reference named `name`. -/
def reference (name : List Char) : List Char := '&' :: (name ++ [';'])

/-- A digit in upper or lower case. -/
def withCase (upper : Bool) (c : Char) : Char := if upper then c.toUpper else c

/-- The hexadecimal digits of a number, in upper or lower case. -/
def hexDigits (upper : Bool) (n : Nat) : List Char := (Nat.toDigits 16 n).map (withCase upper)

/-- How a character is written: a reserved one by its name, any other as `how` says. -/
def spell (c : Char) (how : Spelling) : List Char :=
  match reservedName? c, how with
  | some name, _ => reference name
  | none, .plain => [c]
  | none, .decimal => reference ('#' :: Nat.toDigits 10 c.toNat)
  | none, .hex upper => reference ('#' :: 'x' :: hexDigits upper c.toNat)

/-- A text written with each character spelled as it is paired. -/
def escape (s : List (Char × Spelling)) : String :=
  String.ofList (s.flatMap fun p => spell p.1 p.2)

/-- The byte offset of the `;` that closes a reference named `name`, counted from its `&`. -/
def closeOffset (name : List Char) : Nat := 1 + (name.map Char.utf8Size).sum

/-! ### Reading a code point back -/

/-- Every character of the digits of a number is the digit of some value below the base. -/
lemma exists_digitChar_of_mem_toDigits {b : Nat} (hb : 1 < b) :
    ∀ (n : Nat) {c : Char}, c ∈ Nat.toDigits b n → ∃ d < b, Nat.digitChar d = c := by
  intro n
  induction n using Nat.strong_induction_on with
  | _ n ih =>
    intro c hc
    rw [Nat.toDigits_eq_if hb] at hc
    split at hc
    · next hn => exact ⟨n, hn, (List.mem_singleton.1 hc).symm⟩
    · next hn =>
      rcases List.mem_append.1 hc with hc | hc
      · exact ih (n / b) (Nat.div_lt_self (by omega) hb) hc
      · exact ⟨n % b, Nat.mod_lt n (by omega), (List.mem_singleton.1 hc).symm⟩

/-- One more digit of weight `d` after the value `a`, when the result fits in 32 bits. -/
lemma pushDigit_some {b a d : Nat} {c : Char} (hd : digitWeight c = d) (hdb : d < b)
    (hfit : a * b + d < 2 ^ 32) : pushDigit b (some a) c = some (a * b + d) := by
  have hv : digitValue b c = some d := by simp [digitValue, hd, hdb]
  have hfit' : a * b + d < Nat.pow 2 32 := hfit
  simp only [pushDigit, hv, hfit', if_true]

section Digits

variable {b : Nat} {f : Char → Char}

/-- Reading the digits of a number, each written through `f`, gives the number back when `f`
keeps the weight of every digit of the base and the number fits in 32 bits.

**Proof sketch.** Strong induction on the number: its digits are those of `n / b` followed by
the digit of `n % b`, and the value read so far is `n / b` by induction. -/
lemma foldl_pushDigit_toDigits (hb : 1 < b) (hf : ∀ d < b, digitWeight (f (Nat.digitChar d)) = d) :
    ∀ n, n < 2 ^ 32 → ((Nat.toDigits b n).map f).foldl (pushDigit b) (some 0) = some n := by
  intro n
  induction n using Nat.strong_induction_on with
  | _ n ih =>
    intro hn
    rw [Nat.toDigits_eq_if hb]
    split
    · next hlt =>
      simpa using pushDigit_some (a := 0) (hf n hlt) hlt (by omega)
    · next hge =>
      have hdiv : n / b < n := Nat.div_lt_self (by omega) hb
      have hmod : n % b < b := Nat.mod_lt n (by omega)
      have hsplit : n / b * b + n % b = n := Nat.div_add_mod' n b
      rw [List.map_append, List.foldl_append, ih (n / b) hdiv (by omega), List.map_singleton,
        List.foldl_cons, List.foldl_nil, pushDigit_some (hf _ hmod) hmod (by omega), hsplit]

/-- The digits of a number written through such an `f` read back as the number. -/
lemma readWord_toDigits (hb : 1 < b) (hb16 : b ≤ 16)
    (hf : ∀ d < b, digitWeight (f (Nat.digitChar d)) = d) {n : Nat} (hn : n < 2 ^ 32) :
    readWord b ((Nat.toDigits b n).map f) = some n := by
  obtain ⟨c, cs, hcs⟩ := List.exists_cons_of_ne_nil
    (List.map_eq_nil_iff.not.2 (Nat.toDigits_ne_nil (b := b) (n := n)))
  -- the first digit is no sign: its weight is below the base, the weight of `+` is 99
  have hplus : c ≠ '+' := by
    obtain ⟨c', hc', rfl⟩ := List.mem_map.1 (hcs ▸ List.mem_cons_self : c ∈ (Nat.toDigits b n).map f)
    obtain ⟨d, hd, rfl⟩ := exists_digitChar_of_mem_toDigits hb n hc'
    intro h
    have hw := hf d hd
    rw [h] at hw
    have : digitWeight '+' = 99 := by decide
    omega
  have hfold := foldl_pushDigit_toDigits hb hf n hn
  rw [hcs] at hfold ⊢
  simp [readWord, hplus, hfold]

end Digits

/-- A character's code point names it back. -/
lemma charOfCode?_toNat (c : Char) : charOfCode? c.toNat = some c := by
  have hv : c.toNat < 0xD800 ∨ (0xDFFF < c.toNat ∧ c.toNat < 0x110000) := c.valid
  have hcode : (c.toNat < 0xD800 || (0xDFFF < c.toNat && c.toNat ≤ 0x10FFFF)) = true := by
    simp only [Bool.or_eq_true, Bool.and_eq_true, decide_eq_true_eq]
    omega
  simp [charOfCode?, hcode, Char.ofNat_toNat]

/-- A code point fits in 32 bits. -/
lemma toNat_lt_two_pow (c : Char) : c.toNat < 2 ^ 32 := by
  have hv : c.toNat < 0xD800 ∨ (0xDFFF < c.toNat ∧ c.toNat < 0x110000) := c.valid
  omega

/-- A digit below sixteen keeps its weight in either case. -/
lemma digitWeight_withCase (upper : Bool) {d : Nat} (h : d < 16) :
    digitWeight (withCase upper (Nat.digitChar d)) = d :=
  (by decide : ∀ upper : Bool, ∀ d : Fin 16, digitWeight (withCase upper (Nat.digitChar d)) = d)
    upper ⟨d, h⟩

/-- A digit below sixteen, in either case, is one byte long. -/
lemma utf8Size_withCase (upper : Bool) {d : Nat} (h : d < 16) :
    (withCase upper (Nat.digitChar d)).utf8Size = 1 :=
  (by decide : ∀ upper : Bool, ∀ d : Fin 16, (withCase upper (Nat.digitChar d)).utf8Size = 1)
    upper ⟨d, h⟩

/-- No digit below sixteen, in either case, is a character of weight sixteen or more. -/
lemma withCase_digitChar_ne (upper : Bool) {d : Nat} (h : d < 16) {x : Char}
    (hx : 16 ≤ digitWeight x) : withCase upper (Nat.digitChar d) ≠ x := by
  intro hdx
  have hw := digitWeight_withCase upper h
  rw [hdx] at hw
  omega

/-- Text of one-byte characters is as many bytes long as it has characters. -/
lemma sum_utf8Size_eq_length {cs : List Char} (h : ∀ x ∈ cs, x.utf8Size = 1) :
    (cs.map Char.utf8Size).sum = cs.length := by
  induction cs with
  | nil => rfl
  | cons x cs ih =>
    rw [List.map_cons, List.sum_cons, h x List.mem_cons_self,
      ih fun y hy => h y (List.mem_cons_of_mem x hy), List.length_cons]
    omega

/-- The digits of a code point in a base up to sixteen, in either case, are one byte each. -/
lemma digits_code_bytes {b : Nat} (hb : 1 < b) (hb16 : b ≤ 16) (upper : Bool) (c : Char) :
    (((Nat.toDigits b c.toNat).map (withCase upper)).map Char.utf8Size).sum
      = (Nat.toDigits b c.toNat).length := by
  rw [sum_utf8Size_eq_length, List.length_map]
  intro x hx
  obtain ⟨y, hy, rfl⟩ := List.mem_map.1 hx
  obtain ⟨d, hd, rfl⟩ := exists_digitChar_of_mem_toDigits hb c.toNat hy
  exact utf8Size_withCase upper (by omega)

/-! ### The references an escaping writes -/

/-- A digit written in lower case is the digit itself. -/
lemma map_withCase_false (cs : List Char) : cs.map (withCase false) = cs := by
  have hid : withCase false = id := funext fun _ => rfl
  rw [hid, List.map_id]

/-- The decimal reference of a character names it. -/
lemma referenceChar?_decimal (c : Char) :
    referenceChar? ('#' :: Nat.toDigits 10 c.toNat) = some c := by
  have hread : readWord 10 (Nat.toDigits 10 c.toNat) = some c.toNat := by
    simpa [map_withCase_false] using readWord_toDigits (f := withCase false) (by decide)
      (by decide) (fun d hd => digitWeight_withCase false (by omega)) (toNat_lt_two_pow c)
  -- no decimal digit is an `x`, so the reference is read as decimal
  have hx : ∀ (x : Char) (hex : List Char), 16 ≤ digitWeight x →
      Nat.toDigits 10 c.toNat ≠ x :: hex := by
    intro x hex hw hcs
    obtain ⟨d, hd, hdx⟩ := exists_digitChar_of_mem_toDigits (by decide) c.toNat
      (hcs ▸ List.mem_cons_self : x ∈ Nat.toDigits 10 c.toNat)
    exact withCase_digitChar_ne false (by omega) hw hdx
  rw [referenceChar?.eq_3 _ (fun hex h => hx 'x' hex (by decide) h)
    (fun hex h => hx 'X' hex (by decide) h), hread, Option.bind_some, charOfCode?_toNat]

/-- The hexadecimal reference of a character, in either case, names it. -/
lemma referenceChar?_hex (c : Char) (upper : Bool) :
    referenceChar? ('#' :: 'x' :: hexDigits upper c.toNat) = some c := by
  rw [referenceChar?.eq_1, hexDigits, readWord_toDigits (by decide) le_rfl
    (fun d hd => digitWeight_withCase upper hd) (toNat_lt_two_pow c), Option.bind_some,
    charOfCode?_toNat]

/-- No digit of a number, in either case, is a `;`. -/
lemma semicolon_not_mem_digits {b : Nat} (hb : 1 < b) (hb16 : b ≤ 16) (upper : Bool) (n : Nat) :
    ';' ∉ (Nat.toDigits b n).map (withCase upper) := by
  intro h
  obtain ⟨y, hy, hyc⟩ := List.mem_map.1 h
  obtain ⟨d, hd, rfl⟩ := exists_digitChar_of_mem_toDigits hb n hy
  exact withCase_digitChar_ne upper (by omega) (by decide) hyc

/-- A code point has at most seven decimal and at most six hexadecimal digits. -/
lemma length_toDigits_code (c : Char) :
    (Nat.toDigits 10 c.toNat).length ≤ 7 ∧ (Nat.toDigits 16 c.toNat).length ≤ 6 := by
  have hv : c.toNat < 0xD800 ∨ (0xDFFF < c.toNat ∧ c.toNat < 0x110000) := c.valid
  exact ⟨Nat.toDigits_length 10 c.toNat 7 (by decide) (by omega),
    Nat.toDigits_length 16 c.toNat 6 (by decide) (by omega)⟩

/-- What an escaping writes for a character: the character itself, which is then not `&`, or a
reference whose only `;` closes it within ten bytes of its `&` and which names the character. -/
theorem spell_cases (c : Char) (how : Spelling) :
    (spell c how = [c] ∧ c ≠ '&') ∨
      ∃ name, spell c how = reference name ∧ ';' ∉ name ∧ closeOffset name ≤ 10 ∧
        referenceChar? name = some c := by
  obtain ⟨hdec, hhex⟩ := length_toDigits_code c
  rcases hres : reservedName? c with _ | name
  · cases how with
    | plain =>
      left
      refine ⟨by simp [spell, hres], fun h => ?_⟩
      simp [reservedName?, h] at hres
    | decimal =>
      right
      refine ⟨_, by simp [spell, hres], ?_, ?_, referenceChar?_decimal c⟩
      · simpa [map_withCase_false] using semicolon_not_mem_digits (by decide) (by decide) false c.toNat
      · have hbytes := digits_code_bytes (b := 10) (by decide) (by decide) false c
        rw [map_withCase_false] at hbytes
        have hhash : '#'.utf8Size = 1 := by decide
        simp only [closeOffset, List.map_cons, List.sum_cons, hbytes, hhash]
        omega
    | hex upper =>
      right
      refine ⟨_, by simp [spell, hres], ?_, ?_, referenceChar?_hex c upper⟩
      · simpa [hexDigits] using semicolon_not_mem_digits (by decide) le_rfl upper c.toNat
      · have hbytes := digits_code_bytes (b := 16) (by decide) le_rfl upper c
        have hhash : '#'.utf8Size = 1 := by decide
        have hx : 'x'.utf8Size = 1 := by decide
        simp only [closeOffset, hexDigits, List.map_cons, List.sum_cons, hbytes, hhash, hx]
        omega
  · right
    refine ⟨name, by simp [spell, hres], ?_⟩
    unfold reservedName? at hres
    split_ifs at hres <;> (cases hres; subst c; decide)

/-! ### Decoding what was written -/

/-- A character other than `&` is passed over. -/
lemma decodeList_plain {c : Char} (h : c ≠ '&') (rest : List Char) :
    decodeList (c :: rest) = c :: decodeList rest :=
  decodeList.eq_3 c rest h

/-- A reference that closes within the window, with no other `;`, is read as its character and
decoding goes on right after it. -/
lemma decodeList_reference {name : List Char} {c : Char} (hsemi : ';' ∉ name)
    (hfit : closeOffset name ≤ 10) (hc : referenceChar? name = some c) (rest : List Char) :
    decodeList (reference name ++ rest) = c :: decodeList rest := by
  have hname : ∀ x ∈ name, decide (x ≠ ';') = true := fun x hx => by
    simpa using fun h : x = ';' => hsemi (h ▸ hx)
  have htake : (name ++ ';' :: rest).takeWhile (fun x => decide (x ≠ ';')) = name := by
    rw [List.takeWhile_append_of_pos hname]
    simp
  have hdrop : (name ++ ';' :: rest).dropWhile (fun x => decide (x ≠ ';')) = ';' :: rest := by
    rw [List.dropWhile_append_of_pos hname]
    simp
  have hwin : 1 + (name.map Char.utf8Size).foldr (· + ·) 0 ≤ 10 := by
    simpa [closeOffset, List.sum_eq_foldr] using hfit
  rw [reference, List.cons_append, List.append_assoc, List.singleton_append, decodeList.eq_2]
  split
  · next after hsplit =>
    obtain ⟨-, rfl⟩ := List.cons.inj (hdrop.symm.trans hsplit)
    simp only [htake, hwin, if_true, hc]
  · next hne =>
    exact absurd hdrop (hne rest)

/-- Decoding reads a written character back and goes on right after it. -/
lemma decodeList_spell (c : Char) (how : Spelling) (rest : List Char) :
    decodeList (spell c how ++ rest) = c :: decodeList rest := by
  rcases spell_cases c how with ⟨hplain, hamp⟩ | ⟨name, hspell, hsemi, hfit, hc⟩
  · rw [hplain, List.singleton_append, decodeList_plain hamp]
  · rw [hspell, decodeList_reference hsemi hfit hc]

/-- Decoding an escaped text followed by anything gives the text back, followed by the decoding
of what follows: by induction over the text, one written character at a time. -/
lemma decodeList_escape (s : List (Char × Spelling)) (rest : List Char) :
    decodeList (s.flatMap (fun p => spell p.1 p.2) ++ rest) = s.map Prod.fst ++ decodeList rest := by
  induction s with
  | nil => rfl
  | cons p s ih =>
    rw [List.flatMap_cons, List.append_assoc, decodeList_spell, ih, List.map_cons,
      List.cons_append]

/-- **Escaped text decodes back.** Decoding a text escaped in any of the ways markup allows,
followed by any text, gives the text back followed by the decoding of the rest: what decoding
produces is never read again, so `&amp;` followed by `lt;` gives `&lt;`.  Every character is
written as itself (and is then not `&`) or as a reference whose only `;` lies within ten bytes of
its `&` and which names the character. -/
theorem decodeEntities_escape :
    (∀ (s : List (Char × Spelling)) (rest : String),
      decodeEntities (escape s ++ rest) = String.ofList (s.map Prod.fst) ++ decodeEntities rest) ∧
    ∀ (c : Char) (how : Spelling),
      (spell c how = [c] ∧ c ≠ '&') ∨
        ∃ name, spell c how = reference name ∧ ';' ∉ name ∧ closeOffset name ≤ 10 ∧
          referenceChar? name = some c := by
  refine ⟨fun s rest => ?_, spell_cases⟩
  rw [decodeEntities, escape, String.toList_append, String.toList_ofList, decodeList_escape,
    String.ofList_append, decodeEntities]

end Text

end CorpusBench
