import Mathlib.Data.String.Basic

/-!
# Cutting a text at a character

The library cuts texts at a separator character in two ways: `String.splitOn` with a separator
of one character, and `List.splitOn` on the characters of the text.  The two agree
(`Text.splitOn_singleton`), so every statement about the pieces of a text is one about lists of
characters.  There joining the pieces with the separator gives the text back
(`List.intercalate_splitOn`), and cutting pieces that hold no separator, once joined, gives the
pieces back (`List.splitOn_intercalate`).

## Main results

* `Text.splitOn_singleton` — cutting a string at a one-character string is cutting
  its characters.
* `Text.toList_eq_intercalate` — a text is its pieces joined by the separator.
* `Text.not_mem_of_mem_splitOn` — no piece holds the separator.
* `Text.exists_mem_of_mem_intercalate`, `Text.mem_intercalate_of_mem` —
  the characters of joined pieces, other than the separator, are those of the pieces, and the
  last piece ends them (`Text.getLast_suffix_intercalate`).
-/

namespace CorpusBench

namespace Text

open String

/-- The loop of `String.splitOn` at a one-character separator `c`, inside the text
`l ++ m ++ r`, after `l` and with `m` read since the last cut: it cuts `r` at `c`, its first piece
continuing `m`.

**Proof sketch.** Induction on `r`.  At the end of the text `m` is the last piece.  Otherwise the
next character is read: when it is `c`, the separator ends at once (it is one character long),
`m` is cut off and the loop starts again after `c`; when it is not, the loop goes on with the
character added to `m`. -/
lemma splitOnAux_singleton (c : Char) (r : List Char) :
    ∀ (l m : List Char) (acc : List String),
      splitOnAux (ofList (l ++ m ++ r)) (String.singleton c) ⟨utf8Len l⟩
          ⟨utf8Len l + utf8Len m⟩ 0 acc =
        acc.reverse ++ (List.splitOnPPrepend (· == c) r m.reverse).map ofList := by
  induction r with
  | nil =>
    intro l m acc
    unfold splitOnAux
    simp only [List.append_nil, atEnd_iff, rawEndPos_ofList, utf8Len_append, Pos.Raw.mk_le_mk,
      Nat.le_refl]
    simpa using extract_of_valid l m []
  | cons d r ih =>
    intro l m acc
    unfold splitOnAux
    have hget : Pos.Raw.get (ofList (l ++ m ++ d :: r)) ⟨utf8Len l + utf8Len m⟩ = d := by
      simpa using get_of_valid (l ++ m) (d :: r)
    have hnext : Pos.Raw.next (ofList (l ++ m ++ d :: r)) ⟨utf8Len l + utf8Len m⟩ =
        ⟨utf8Len l + utf8Len m + d.utf8Size⟩ := by
      simpa using next_of_valid (l ++ m) d r
    have hnotEnd : ¬ (Pos.Raw.atEnd (ofList (l ++ m ++ d :: r)) ⟨utf8Len l + utf8Len m⟩ = true) := by
      simp only [atEnd_iff, rawEndPos_ofList, utf8Len_append, utf8Len_cons, Pos.Raw.mk_le_mk]
      have := Char.utf8Size_pos d
      omega
    -- the separator is the one character `c`, and is read whole after it
    have hsep : Pos.Raw.get (String.singleton c) 0 = c := by
      simpa using get_of_valid [] [c]
    have hsepNext : Pos.Raw.next (String.singleton c) 0 = ⟨c.utf8Size⟩ := by
      simpa using next_of_valid [] c []
    have hsepEnd : (⟨c.utf8Size⟩ : Pos.Raw).atEnd (String.singleton c) = true := by
      simp only [atEnd_iff, Pos.Raw.le_iff, byteIdx_rawEndPos, String.utf8ByteSize_singleton]
      exact Nat.le_refl _
    rw [if_neg hnotEnd, hget, hsep]
    by_cases hdc : d = c
    · -- a cut: `m` is a piece, and the loop starts again after the separator
      subst hdc
      have hrest := ih (l ++ m ++ [d]) [] (ofList m :: acc)
      simp only [beq_self_eq_true, if_true, hnext, hsepNext, hsepEnd]
      have hback : (⟨utf8Len l + utf8Len m + d.utf8Size⟩ : Pos.Raw).unoffsetBy ⟨d.utf8Size⟩ =
          ⟨utf8Len l + utf8Len m⟩ := by
        simp [Pos.Raw.unoffsetBy]
      rw [hback, extract_of_valid]
      simp only [List.append_assoc, List.cons_append, List.nil_append] at hrest ⊢
      simp only [utf8Len_append, utf8Len_cons, utf8Len_nil, Nat.zero_add, Nat.add_zero,
        ← Nat.add_assoc] at hrest
      rw [hrest, List.splitOnPPrepend_cons_pos (by simp)]
      simp
    · -- no cut: the character joins the piece being read
      have hrest := ih l (m ++ [d]) acc
      have hdc' : (d == c) = false := by simpa using hdc
      simp only [hdc', Bool.false_eq_true, if_false, Pos.Raw.unoffsetBy_zero, hnext]
      simp only [List.append_assoc, List.cons_append, List.nil_append, utf8Len_append,
        utf8Len_cons, utf8Len_nil, Nat.zero_add, ← Nat.add_assoc] at hrest ⊢
      rw [hrest, List.splitOnPPrepend_cons_neg (p := (· == c)) hdc']
      simp

/-- Cutting a string at a one-character string is cutting its characters at that character. -/
theorem splitOn_singleton (s : String) (c : Char) :
    s.splitOn (String.singleton c) = (s.toList.splitOn c).map ofList := by
  have h := splitOnAux_singleton c s.toList [] [] []
  simp only [List.nil_append, ofList_toList, utf8Len_nil, Nat.add_zero, List.reverse_nil] at h
  rw [String.splitOn, if_neg (by simp [String.singleton_ne_empty]), List.splitOn_eq_splitOnP]
  exact h

/-- A text is its pieces joined by the separator. -/
lemma toList_eq_intercalate {s : String} {c : Char} {ps : List String}
    (h : s.splitOn (String.singleton c) = ps) : s.toList = [c].intercalate (ps.map String.toList) := by
  rw [← h, splitOn_singleton, List.map_map]
  have hid : (String.toList ∘ String.ofList) = id := funext fun _ => String.toList_ofList
  rw [hid, List.map_id, List.intercalate_splitOn]

/-- No piece of a list cut at `c` holds `c`. -/
lemma not_mem_of_mem_splitOn_list {c : Char} {xs w : List Char} (hw : w ∈ xs.splitOn c) :
    c ∉ w := by
  induction xs generalizing w with
  | nil =>
    rw [List.splitOn_nil, List.mem_singleton] at hw
    simp [hw]
  | cons x xs ih =>
    rw [List.splitOn_cons_eq_if_modifyHead] at hw
    split at hw
    · -- `x` is a separator: `w` is the empty piece before it, or a piece of the rest
      rcases List.mem_cons.1 hw with rfl | hw
      · simp
      · exact ih hw
    · -- `x` starts the first piece of the rest
      next hx =>
      obtain ⟨p, ps, hps⟩ := List.exists_cons_of_ne_nil (List.splitOn_ne_nil c xs)
      rw [hps, List.modifyHead_cons] at hw
      rcases List.mem_cons.1 hw with rfl | hw
      · have hp := ih (hps ▸ List.mem_cons_self (a := p) (l := ps))
        simp only [List.mem_cons, not_or]
        exact ⟨fun h => hx (by simp [h]), hp⟩
      · exact ih (hps ▸ List.mem_cons_of_mem _ hw)

/-- No piece of a string cut at a one-character string holds that character. -/
lemma not_mem_of_mem_splitOn {s p : String} {c : Char} (h : p ∈ s.splitOn (String.singleton c)) :
    c ∉ p.toList := by
  rw [splitOn_singleton, List.mem_map] at h
  obtain ⟨w, hw, rfl⟩ := h
  rw [String.toList_ofList]
  exact not_mem_of_mem_splitOn_list hw

/-- Pieces that hold no separator, joined by it, cut back into themselves. -/
lemma splitOn_intercalate {c : Char} {ps : List String} (hps : ps ≠ [])
    (h : ∀ p ∈ ps, c ∉ p.toList) :
    (String.ofList ([c].intercalate (ps.map String.toList))).splitOn (String.singleton c) = ps := by
  rw [splitOn_singleton, String.toList_ofList,
    List.splitOn_intercalate c (by simpa using h) (by simpa using hps), List.map_map]
  have hid : (String.ofList ∘ String.toList) = id := funext fun _ => String.ofList_toList
  rw [hid, List.map_id]

/-- A character of pieces joined by a separator, other than the separator, is in a piece. -/
lemma exists_mem_of_mem_intercalate {α : Type} {sep c : α} (hc : c ≠ sep) {ls : List (List α)}
    (h : c ∈ [sep].intercalate ls) : ∃ l ∈ ls, c ∈ l := by
  induction ls with
  | nil => simp at h
  | cons l ls ih =>
    cases ls with
    | nil => exact ⟨l, by simp, by simpa using h⟩
    | cons l' zs =>
      rw [List.intercalate_cons_cons, List.mem_append, List.mem_append, List.mem_singleton] at h
      rcases h with (h | h) | h
      · exact ⟨l, by simp, h⟩
      · exact absurd h hc
      · obtain ⟨m, hm, hcm⟩ := ih h
        exact ⟨m, List.mem_cons_of_mem _ hm, hcm⟩

/-- A character of a piece is in the pieces joined by a separator. -/
lemma mem_intercalate_of_mem {α : Type} {sep c : α} {l : List α} (hc : c ∈ l)
    {ls : List (List α)} (hl : l ∈ ls) : c ∈ [sep].intercalate ls := by
  induction ls with
  | nil => simp at hl
  | cons m ls ih =>
    cases ls with
    | nil =>
      rw [List.mem_singleton] at hl
      subst hl
      simpa using hc
    | cons m' zs =>
      rw [List.intercalate_cons_cons, List.mem_append, List.mem_append]
      rcases List.mem_cons.1 hl with rfl | hl
      · exact .inl (.inl hc)
      · exact .inr (ih hl)

/-- The last piece ends the pieces joined by a separator. -/
lemma getLast_suffix_intercalate {α : Type} (sep : α) {ls : List (List α)} (h : ls ≠ []) :
    ls.getLast h <:+ [sep].intercalate ls := by
  induction ls with
  | nil => exact absurd rfl h
  | cons l ls ih =>
    cases ls with
    | nil => simp
    | cons l' zs =>
      rw [List.getLast_cons_cons, List.intercalate_cons_cons]
      exact (ih (List.cons_ne_nil l' zs)).trans (List.suffix_append _ _)

end Text

end CorpusBench
