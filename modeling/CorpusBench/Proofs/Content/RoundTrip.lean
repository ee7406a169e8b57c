import CorpusBench.Proofs.Text.Split
import CorpusBench.Proofs.Server.Neighbors
import CorpusBench.Content.Collapse

/-!
# Written URIs and collapses read back

Content URIs and collapses are written as texts everywhere: in requests, in saved graphs, in
job parameters and on the command line.  This file shows that what reading accepts is written
back in one canonical way, and that the canonical text reads back as the value.

* A text that reads as a URI is, without the slashes at its ends, `corpus/{corpus}/{type}/{id}`;
  so the URI's canonical text is that text with one leading slash, and reads back as the URI
  (`ContentUri.render_of_parse`, `ContentUri.parse_render_of_parse`).
* A text that reads as a collapse is its written form (`Collapse.wire_of_parse`), and a collapse
  whose three types are non-empty and hold no dot reads back from its written form, and its
  reverse from the reverse title (`Collapse.parse_wire`, `Collapse.parse_reverseWire`).

## Main definitions

* `Collapse.parts`, `Collapse.Plain` — the three types of a collapse,
  and collapses whose types are non-empty and hold no dot.

## Main results

* `uri_and_collapse_round_trip` — the four round trips together.
-/

namespace CorpusBench

namespace ContentUri

/-! ### Reading a URI -/

/-- A text is its segments joined by slashes. -/
lemma toList_eq_intercalate_segments (s : String) :
    s.toList = ['/'].intercalate ((segments s).map String.toList) := by
  rw [segments, List.map_map]
  have hid : (String.toList ∘ String.ofList) = id := funext fun _ => String.toList_ofList
  rw [hid, List.map_id, List.intercalate_splitOn]

/-- No segment of a text holds a slash. -/
lemma not_mem_of_mem_segments {s p : String} (h : p ∈ segments s) : '/' ∉ p.toList := by
  rw [segments, List.mem_map] at h
  obtain ⟨w, hw, rfl⟩ := h
  rw [String.toList_ofList]
  exact Text.not_mem_of_mem_splitOn_list hw

/-- A text reads as a URI only when, without the slashes at its ends, its segments are `corpus`
and the URI's three parts, none of them empty. -/
lemma segments_of_parse {s : String} {u : ContentUri} (h : parse s = .ok u) :
    segments (stripSlashes s) = ["corpus", u.corpusId, u.contentType, u.contentId] ∧
      u.corpusId ≠ "" ∧ u.contentType ≠ "" ∧ u.contentId ≠ "" := by
  unfold parse at h
  split at h
  · next c t i hseg =>
    split at h
    · next hne =>
      cases h
      exact ⟨hseg, hne⟩
    · cases h
  · cases h

/-- The parts of a URI read from a text hold no slash. -/
lemma plain_of_parse {s : String} {u : ContentUri} (h : parse s = .ok u) : u.Plain := by
  have hseg := (segments_of_parse h).1
  have hmem : ∀ p, p ∈ [u.corpusId, u.contentType, u.contentId] → '/' ∉ p.toList := fun p hp =>
    not_mem_of_mem_segments (hseg ▸ List.mem_cons_of_mem _ hp)
  exact ⟨hmem _ (by simp), hmem _ (by simp), hmem _ (by simp)⟩

/-- The canonical text of a URI read from a text is that text without the slashes at its ends,
after one slash. -/
theorem render_of_parse {s : String} {u : ContentUri} (h : parse s = .ok u) :
    u.render = "/" ++ stripSlashes s := by
  have hseg := (segments_of_parse h).1
  have hstrip := toList_eq_intercalate_segments (stripSlashes s)
  rw [hseg] at hstrip
  apply String.toList_inj.1
  rw [toList_render, String.toList_append, hstrip]
  simp [parts]

/-- A URI read from a text reads back from its canonical text. -/
theorem parse_render_of_parse {s : String} {u : ContentUri} (h : parse s = .ok u) :
    parse u.render = .ok u := by
  obtain ⟨-, hc, ht, hi⟩ := segments_of_parse h
  exact parse_render (plain_of_parse h) hc ht hi

end ContentUri

namespace Collapse

/-! ### Reading a collapse -/

/-- The three content types of a collapse, in its written order. -/
def parts (c : Collapse) : List String := [c.fromType, c.proxyType, c.toType]

/-- A collapse whose three types are non-empty and hold no dot. -/
def Plain (c : Collapse) : Prop := ∀ p ∈ c.parts, p ≠ "" ∧ '.' ∉ p.toList

/-- The separator of the written form, as a one-character text. -/
lemma dot_eq_singleton : "." = String.singleton '.' := rfl

/-- The written form of a collapse is its three types joined by dots. -/
lemma toList_wire (c : Collapse) :
    c.wire.toList = ['.'].intercalate (c.parts.map String.toList) := by
  simp [wire, parts, List.intercalate]

/-- Seen from the other end, a collapse is written as its reverse. -/
lemma reverseWire_eq_wire_reverse (c : Collapse) : c.reverseWire = c.reverse.wire := rfl

lemma Plain.reverse {c : Collapse} (h : c.Plain) : c.reverse.Plain := by
  intro p hp
  simp only [Collapse.reverse, parts, List.mem_cons, List.not_mem_nil, or_false] at hp
  rcases hp with rfl | rfl | rfl <;> exact h _ (by simp [parts])

/-- A text reads as a collapse only when it cuts at its dots into the three types, none of them
empty. -/
lemma splitOn_of_parse {s : String} {c : Collapse} (h : parse s = .ok c) :
    s.splitOn "." = c.parts ∧ c.fromType ≠ "" ∧ c.proxyType ≠ "" ∧ c.toType ≠ "" := by
  unfold parse at h
  split at h
  · next f p t hsplit =>
    split at h
    · next hne =>
      cases h
      exact ⟨hsplit, hne⟩
    · cases h
  · cases h

/-- A text that reads as a collapse is the collapse's written form. -/
theorem wire_of_parse {s : String} {c : Collapse} (h : parse s = .ok c) : c.wire = s := by
  have hsplit := (splitOn_of_parse h).1
  rw [dot_eq_singleton] at hsplit
  apply String.toList_inj.1
  rw [toList_wire, Text.toList_eq_intercalate hsplit]

/-- The written form of a collapse whose types are non-empty and hold no dot reads back as the
collapse. -/
theorem parse_wire {c : Collapse} (h : c.Plain) : parse c.wire = .ok c := by
  have hsplit : c.wire.splitOn "." = c.parts := by
    rw [dot_eq_singleton, ← String.ofList_toList (s := c.wire), toList_wire]
    exact Text.splitOn_intercalate (by simp [parts]) fun p hp => (h p hp).2
  have hne : c.fromType ≠ "" ∧ c.proxyType ≠ "" ∧ c.toType ≠ "" :=
    ⟨(h _ (by simp [parts])).1, (h _ (by simp [parts])).1, (h _ (by simp [parts])).1⟩
  unfold parse
  rw [hsplit]
  simp only [parts]
  rw [if_pos hne]

/-- The reverse title of such a collapse reads back as its reverse. -/
theorem parse_reverseWire {c : Collapse} (h : c.Plain) : parse c.reverseWire = .ok c.reverse := by
  rw [reverseWire_eq_wire_reverse]
  exact parse_wire h.reverse

end Collapse

/-- Texts of URIs and collapses read back.  A text that reads as a URI is written back
canonically as the text without its end slashes after one slash, and that canonical text reads
back as the URI; so does the canonical text of any URI whose parts are non-empty and hold no
slash.  A text that reads as a collapse is its written form, and a collapse whose types are
non-empty and hold no dot reads back from its written form, as does its reverse from its reverse
title. -/
theorem uri_and_collapse_round_trip :
    (∀ (s : String) (u : ContentUri), ContentUri.parse s = .ok u →
        u.render = "/" ++ ContentUri.stripSlashes s ∧ ContentUri.parse u.render = .ok u) ∧
    (∀ u : ContentUri, u.corpusId ≠ "" → u.contentType ≠ "" → u.contentId ≠ "" → u.Plain →
        ContentUri.parse u.render = .ok u) ∧
    (∀ (s : String) (c : Collapse), Collapse.parse s = .ok c → c.wire = s) ∧
    (∀ c : Collapse, c.Plain →
        Collapse.parse c.wire = .ok c ∧ Collapse.parse c.reverseWire = .ok c.reverse) :=
  ⟨fun _ _ h => ⟨ContentUri.render_of_parse h, ContentUri.parse_render_of_parse h⟩,
    fun _ hc ht hi hu => ContentUri.parse_render hu hc ht hi,
    fun _ _ h => Collapse.wire_of_parse h,
    fun _ h => ⟨Collapse.parse_wire h, Collapse.parse_reverseWire h⟩⟩

example : ContentUri.parse "corpus/42/Book/b1/" = .ok ⟨"42", "Book", "b1"⟩ ∧
    ContentUri.parse "/corpus/42/Book/b1" = .ok ⟨"42", "Book", "b1"⟩ := by decide +kernel

end CorpusBench
