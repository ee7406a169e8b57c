import CorpusBench.Text.Blank
import CorpusBench.Text.Category

/-!
# Rich text

Rich text is stored as markup.  Editors leave markup such as `<p><br></p>` behind when a field
is cleared, so markup is **normalized**: markup that embeds media (`<img`, `<iframe`, `<video`,
`<audio`, `<object`, `<embed`, in any case, as a whole word) is kept; otherwise, with every tag
and every blank entity (`&nbsp;`, `&#160;`, `&#xa0;`, `&#8203;`, `&zwsp;`, in any case) taken
out, markup with no text left is empty.  Kept markup is trimmed.

A **preview** of markup for a table cell replaces every tag and blank entity by a space,
collapses runs of blanks to one space, trims, and cuts the text to a number of characters,
marking the cut with an ellipsis.

A tag is a `<` with the first `>` after it; a `<` with no `>` after it is text.

## Main definitions

* `Html.replaceTags`, `Html.replaceBlankEntities`.
* `Html.normalize`, `Html.preview`.

## Main results

* `Html.replaceTags_plain` — text without `<` has no tags.
-/

namespace CorpusBench

namespace Html

/-- The text after the first `>`. -/
def afterClose : List Char → Option (List Char)
  | [] => none
  | c :: rest => if c = '>' then some rest else afterClose rest

theorem afterClose_shorter : ∀ (cs r : List Char), afterClose cs = some r → r.length < cs.length
  | [], _, h => by simp [afterClose] at h
  | c :: rest, r, h => by
    simp only [afterClose] at h
    split at h
    · cases h; simp
    · have := afterClose_shorter rest r h
      simp; omega

/-- Replace every tag by `by_`. -/
def replaceTags (by_ : List Char) : List Char → List Char
  | [] => []
  | c :: rest =>
    if c = '<' then
      match _h : afterClose rest with
      | some after => by_ ++ replaceTags by_ after
      | none => c :: replaceTags by_ rest
    else c :: replaceTags by_ rest
termination_by cs => cs.length
decreasing_by
  all_goals simp_wf
  have := afterClose_shorter rest after _h
  omega

theorem replaceTags_plain (by_ cs : List Char) (h : '<' ∉ cs) : replaceTags by_ cs = cs := by
  induction cs with
  | nil => simp [replaceTags]
  | cons c rest ih =>
    have hc : c ≠ '<' := fun e => h (e ▸ List.mem_cons_self)
    have hr : '<' ∉ rest := fun m => h (List.mem_cons_of_mem _ m)
    rw [replaceTags]
    simp [hc, ih hr]

/-- Whether a character matches a letter of a case-blind pattern: its case forms, and the long
s for `s`. -/
def matchesLetter (p c : Char) : Bool :=
  c.toLower == p || (p = 's' && c.toNat = 0x17F)

/-- The text after a case-blind pattern of lower-case ASCII it starts with. -/
def dropCaseBlind : List Char → List Char → Option (List Char)
  | [], cs => some cs
  | _ :: _, [] => none
  | p :: ps, c :: cs => if matchesLetter p c then dropCaseBlind ps cs else none

theorem dropCaseBlind_le : ∀ (ps cs r : List Char), dropCaseBlind ps cs = some r → r.length ≤ cs.length
  | [], cs, r, h => by simp [dropCaseBlind] at h; subst h; exact Nat.le_refl _
  | _ :: _, [], r, h => by simp [dropCaseBlind] at h
  | p :: ps, c :: cs, r, h => by
    unfold dropCaseBlind at h
    split at h
    · have := dropCaseBlind_le ps cs r h
      simp; omega
    · cases h

/-- Whether a text starts with a case-blind pattern. -/
def startsCaseBlind (ps cs : List Char) : Bool := (dropCaseBlind ps cs).isSome

/-- The names of the entities that stand for blank space, with their closing `;`. -/
def blankEntities : List (List Char) :=
  ["nbsp;", "#160;", "#xa0;", "#8203;", "zwsp;"].map String.toList

/-- The text after a blank entity it starts with. -/
def afterBlankEntity : List Char → Option (List Char)
  | '&' :: rest => blankEntities.findSome? (dropCaseBlind · rest)
  | _ => none

theorem afterBlankEntity_shorter (cs r : List Char) (h : afterBlankEntity cs = some r) :
    r.length < cs.length := by
  unfold afterBlankEntity at h
  split at h
  · obtain ⟨p, _, hp⟩ := List.exists_of_findSome?_eq_some h
    have := dropCaseBlind_le p _ r hp
    simp; omega
  · cases h

/-- Replace every blank entity by `by_`. -/
def replaceBlankEntities (by_ : List Char) : List Char → List Char
  | [] => []
  | c :: rest =>
    match _h : afterBlankEntity (c :: rest) with
    | some after => by_ ++ replaceBlankEntities by_ after
    | none => c :: replaceBlankEntities by_ rest
termination_by cs => cs.length
decreasing_by
  all_goals simp_wf
  have := afterBlankEntity_shorter (c :: rest) after _h
  simp at this
  omega

/-- The names of the tags that embed media. -/
def embedNames : List (List Char) :=
  ["img", "iframe", "video", "audio", "object", "embed"].map String.toList

/-- Whether markup embeds media: a `<` followed, case-blind, by the name of an embedding tag
that ends there as a word. -/
def embedsMedia : List Char → Bool
  | [] => false
  | c :: rest =>
    (c = '<' && embedNames.any fun name =>
      startsCaseBlind name rest &&
        match rest.drop name.length with
        | [] => true
        | d :: _ => !Text.isWordChar d) || embedsMedia rest

/-- Normalize rich text: empty when it shows nothing, else trimmed. -/
def normalize (raw : String) : String :=
  let trimmed := Text.trim raw
  if embedsMedia trimmed.toList then trimmed
  else
    let text := replaceBlankEntities [] (replaceTags [] trimmed.toList)
    if text.all Text.isBlank then "" else trimmed

/-- The plain text of markup for a table cell, at most `max` characters before an ellipsis. -/
def preview (html : String) (max : Nat) : String :=
  let text := replaceBlankEntities [' '] (replaceTags [' '] html.toList)
  let text := Text.collapseBlanksList (Text.dropBlanks (Text.dropBlanks text.reverse).reverse)
  if text.length ≤ max then String.ofList text
  else String.ofList (text.take max ++ ['…'])

end Html

end CorpusBench
