import CorpusBench.Text.Blank
import Mathlib.Data.List.DropRight
import Mathlib.Data.String.Basic

/-!
# Trimming blanks

Trimming drops the blanks at the front of a text, then those at its end.  On the characters it
is `List.dropWhile` then `List.rdropWhile` with `Text.isBlank`, so the library's lemmas on the
two apply: trimming twice is trimming once (`Text.trim_trim`), and a text trims to nothing
exactly when all its characters are blanks (`Text.trim_eq_empty_iff`).  A character that is no
blank survives trimming from the end (`Text.mem_rdropWhile_of_not`), which is what keeps the
words of a reflowed text.

## Main results

* `Text.trim_trim`, `Text.trimEnd_trimEnd` — trimming is idempotent.
* `Text.trim_eq_empty_iff` — the texts that trim to nothing.
-/

namespace CorpusBench

namespace Text

open List

/-- A member that fails the test survives dropping from the right while the test holds. -/
lemma mem_rdropWhile_of_not {α : Type} {p : α → Bool} {l : List α} {x : α} (hx : x ∈ l)
    (hp : p x = false) : x ∈ l.rdropWhile p := by
  have hsplit := rdropWhile_append_rtakeWhile (p := p) (l := l)
  rw [← hsplit, mem_append] at hx
  rcases hx with hx | hx
  · exact hx
  · simp [mem_rtakeWhile_imp hx] at hp

/-- A prefix of a list with no leading member passing the test has none either. -/
lemma dropWhile_prefix_eq_self {α : Type} {p : α → Bool} {l m : List α} (hm : m <+: l)
    (hl : l.dropWhile p = l) : m.dropWhile p = m := by
  rw [dropWhile_eq_self_iff] at hl ⊢
  intro hpos
  rw [hm.getElem hpos]
  exact hl (lt_of_lt_of_le hpos hm.length_le)

@[simp] lemma toList_trimStart (s : String) : (trimStart s).toList = s.toList.dropWhile isBlank := by
  simp [trimStart, dropBlanks]

@[simp] lemma toList_trimEnd (s : String) : (trimEnd s).toList = s.toList.rdropWhile isBlank := by
  simp [trimEnd, dropBlanks, rdropWhile]

lemma toList_trim (s : String) :
    (trim s).toList = (s.toList.dropWhile isBlank).rdropWhile isBlank := by
  simp [trim]

@[simp] lemma trimEnd_trimEnd (s : String) : trimEnd (trimEnd s) = trimEnd s := by
  apply String.toList_inj.1
  simp [rdropWhile_idempotent]

/-- Trimming twice is trimming once. -/
@[simp] lemma trim_trim (s : String) : trim (trim s) = trim s := by
  apply String.toList_inj.1
  rw [toList_trim, toList_trim]
  -- the trimmed front has no leading blank, nor has any prefix of it
  have hpre := rdropWhile_prefix isBlank (s.toList.dropWhile isBlank)
  have hfront := dropWhile_prefix_eq_self hpre (dropWhile_idempotent (p := isBlank) (l := s.toList))
  rw [hfront, rdropWhile_idempotent]

/-- A text trims to nothing exactly when all its characters are blanks. -/
lemma trim_eq_empty_iff (s : String) : trim s = "" ↔ ∀ c ∈ s.toList, isBlank c = true := by
  rw [← String.toList_inj, toList_trim, String.toList_empty, rdropWhile_eq_nil_iff]
  constructor
  · intro h
    have hnil : (s.toList.dropWhile isBlank).dropWhile isBlank = [] := dropWhile_eq_nil_iff.2 h
    rw [dropWhile_idempotent] at hnil
    exact dropWhile_eq_nil_iff.1 hnil
  · intro h c hc
    exact h c ((dropWhile_suffix isBlank).subset hc)

end Text

end CorpusBench
