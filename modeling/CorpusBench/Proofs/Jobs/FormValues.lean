import CorpusBench.Proofs.Text.Trim
import CorpusBench.Proofs.Content.RoundTrip
import CorpusBench.Command.Tracking

/-!
# What a job form shows reads back

A field of a job form shows the value it holds as text (`FormField.displayValue`), and reads raw
text into a value by its parameter type (`FormField.readRaw`).  Reading what a field shows gives
its value back, for every type but a secret, which is masked: text and names read as themselves,
a flag shows `true` or `false`, a corpus path and a choice are already trimmed, reflowed text
reflows to itself (`reflowText_reflowText`), and a cross reference shows its URI, which reads
back as the URI (`ContentUri.parse_render_of_parse`) — once trimmed.  So setting a field to what
it shows, right after a value was set, leaves the form as it is (`JobForm.setValue_displayValue`).

## Design

Reading is described by the relation `FormField.ReadsAs`, one constructor per parameter type, with
the inversion `FormField.readRaw_eq_ok` and its converse `FormField.readRaw_of_readsAs`; each
round trip is then one case of `FormField.ReadsAs.displayValue`.

A cross reference is read from the trimmed text, but the id it keeps is the last segment of that
text as it is, so an id may end in a blank when the text ended in a blank and a slash
(`/corpus/42/Document/d1 /`).  The URI shown then ends in that blank, and reading it trims the
blank away: the round trip holds for cross references whose shown URI is trimmed, and only for
those.

Reflowing cuts a text into lines at its line feeds, trims the end of each and drops the empty
lines at the end; the lines it leaves are `Reflowed`, and joining such lines and reflowing again
gives them back.  Reflowing keeps every character that is no blank (`mem_reflowText`), so text
that is not blank stays so.

## Main results

* `reflowText_reflowText` — reflowing is idempotent.
* `FormField.readRaw_displayValue` — what a field shows reads back as its value.
* `JobForm.setValue_displayValue` — setting a field to what it shows keeps the form.
* `form_values_read_back` — the two, with a failed step keeping the form.
-/

namespace CorpusBench

open Text

/-! ### The lines of a text -/

/-- A line feed, as a one-character text. -/
lemma newline_eq_singleton : "\n" = String.singleton '\n' := rfl

/-- The pieces of a text cut at its line feeds, as lists of characters. -/
lemma splitOn_newline (s : String) : s.splitOn "\n" = (s.toList.splitOn '\n').map String.ofList := by
  rw [newline_eq_singleton, Text.splitOn_singleton]

lemma endsWith_newline_iff (s : String) : s.endsWith "\n" = true ↔ ['\n'] <:+ s.toList := by
  simp [← String.endsWith_toSlice]

/-- The lines of a text are the pieces of its characters cut at line feeds, a final line feed
ending the last line. -/
lemma textLines_eq (s : String) (hs : s ≠ "") :
    ∃ body : List Char, (s.toList = body ∨ s.toList = body ++ ['\n']) ∧
      textLines s = (body.splitOn '\n').map String.ofList := by
  have hne : s.isEmpty = false := by simpa using hs
  unfold textLines
  rw [hne, if_neg (by simp), splitOn_newline]
  dsimp only
  split
  · next hend =>
    obtain ⟨body, hbody⟩ := (endsWith_newline_iff s).1 hend
    refine ⟨body, .inr hbody.symm, ?_⟩
    rw [← hbody, List.splitOn_append_cons_self, List.splitOn_nil]
    simp
  · exact ⟨s.toList, .inl rfl, rfl⟩

/-- No line of a text holds a line feed. -/
lemma not_mem_of_mem_textLines {s l : String} (hl : l ∈ textLines s) : '\n' ∉ l.toList := by
  by_cases hs : s = ""
  · simp [hs, textLines] at hl
  obtain ⟨body, -, hlines⟩ := textLines_eq s hs
  rw [hlines, List.mem_map] at hl
  obtain ⟨w, hw, rfl⟩ := hl
  rw [String.toList_ofList]
  exact Text.not_mem_of_mem_splitOn_list hw

/-- Every character of a text other than a line feed is in one of its lines. -/
lemma exists_mem_textLines {s : String} {c : Char} (hc : c ∈ s.toList) (hnl : c ≠ '\n') :
    ∃ l ∈ textLines s, c ∈ l.toList := by
  have hs : s ≠ "" := by
    rintro rfl
    simp at hc
  obtain ⟨body, hbody, hlines⟩ := textLines_eq s hs
  have hcb : c ∈ body := by
    rcases hbody with h | h <;> rw [h] at hc
    · exact hc
    · simpa [hnl] using hc
  have hjoin : ['\n'].intercalate (body.splitOn '\n') = body := List.intercalate_splitOn '\n'
  rw [← hjoin] at hcb
  obtain ⟨w, hw, hcw⟩ := Text.exists_mem_of_mem_intercalate hnl hcb
  exact ⟨String.ofList w, by rw [hlines]; exact List.mem_map_of_mem hw, by simpa using hcw⟩

/-- Lines with no line feed and a last line that is not empty, joined by line feeds, are the
lines of the text they make. -/
lemma textLines_intercalate {ls : List String} (hnl : ∀ l ∈ ls, '\n' ∉ l.toList)
    (hlast : ∀ h : ls ≠ [], ls.getLast h ≠ "") : textLines ("\n".intercalate ls) = ls := by
  rcases eq_or_ne ls [] with rfl | hls
  · rfl
  have htext : ("\n".intercalate ls).toList = ['\n'].intercalate (ls.map String.toList) := by
    simp [String.toList_intercalate]
  -- the text ends with the last line, which is not empty and holds no line feed
  have hsuffix : (ls.getLast hls).toList <:+ ("\n".intercalate ls).toList := by
    rw [htext, ← List.getLast_map (f := String.toList) (by simpa using hls)]
    exact Text.getLast_suffix_intercalate _ _
  have hlastNe : (ls.getLast hls).toList ≠ [] := by simpa using hlast hls
  have hne : ("\n".intercalate ls).isEmpty = false := by
    rw [Bool.eq_false_iff, ne_eq, String.isEmpty_iff]
    intro hs
    rw [hs, String.toList_empty] at hsuffix
    exact hlastNe (List.eq_nil_of_suffix_nil hsuffix)
  have hend : ("\n".intercalate ls).endsWith "\n" = false := by
    rw [Bool.eq_false_iff, ne_eq, endsWith_newline_iff]
    intro hnlSuffix
    have hin : ['\n'] <:+ (ls.getLast hls).toList :=
      List.suffix_of_suffix_length_le hnlSuffix hsuffix (List.length_pos_of_ne_nil hlastNe)
    exact hnl _ (List.getLast_mem hls) (hin.subset (List.mem_singleton_self _))
  unfold textLines
  rw [hne, if_neg (by simp), hend, if_neg (by simp)]
  rw [← String.ofList_toList (s := "\n".intercalate ls), htext, newline_eq_singleton]
  exact Text.splitOn_intercalate hls hnl

/-! ### Reflowed text -/

/-- Lines as reflowing leaves them: none holds a line feed or ends in a blank, and the last is
not empty. -/
structure Reflowed (ls : List String) : Prop where
  no_newline : ∀ l ∈ ls, '\n' ∉ l.toList
  trimmed : ∀ l ∈ ls, trimEnd l = l
  last_ne : ls.rdropWhile String.isEmpty = ls

/-- Reflowing joins the lines of a text, trimmed at their ends, without the empty lines at the
end. -/
lemma reflowText_eq (s : String) :
    reflowText s = "\n".intercalate (((textLines s).map trimEnd).rdropWhile String.isEmpty) := rfl

lemma reflowed_lines (s : String) :
    Reflowed (((textLines s).map trimEnd).rdropWhile String.isEmpty) := by
  -- every line kept is a line of the text, trimmed at its end
  have hline : ∀ l ∈ ((textLines s).map trimEnd).rdropWhile String.isEmpty,
      ∃ p ∈ textLines s, trimEnd p = l := by
    intro l hl
    have hpre := List.rdropWhile_prefix String.isEmpty ((textLines s).map trimEnd)
    exact List.mem_map.1 (hpre.subset hl)
  refine ⟨fun l hl => ?_, fun l hl => ?_, List.rdropWhile_idempotent _ _⟩
  · obtain ⟨p, hp, rfl⟩ := hline l hl
    have hpre := List.rdropWhile_prefix isBlank p.toList
    rw [toList_trimEnd]
    exact fun h => not_mem_of_mem_textLines hp (hpre.subset h)
  · obtain ⟨p, -, rfl⟩ := hline l hl
    exact trimEnd_trimEnd p

/-- Reflowed lines, joined, reflow to themselves. -/
lemma reflowText_intercalate {ls : List String} (h : Reflowed ls) :
    reflowText ("\n".intercalate ls) = "\n".intercalate ls := by
  have hlast : ∀ hls : ls ≠ [], ls.getLast hls ≠ "" := fun hls => by
    have := List.rdropWhile_eq_self_iff.1 h.last_ne hls
    simpa using this
  have htrim : ls.map trimEnd = ls := by
    rw [List.map_congr_left h.trimmed, List.map_id']
  rw [reflowText_eq, textLines_intercalate h.no_newline hlast, htrim, h.last_ne]

/-- Reflowing twice is reflowing once. -/
theorem reflowText_reflowText (s : String) : reflowText (reflowText s) = reflowText s := by
  rw [reflowText_eq s]
  exact reflowText_intercalate (reflowed_lines s)

/-- Reflowing keeps every character that is no blank. -/
lemma mem_reflowText {s : String} {c : Char} (hc : c ∈ s.toList) (hb : isBlank c = false) :
    c ∈ (reflowText s).toList := by
  have hnl : c ≠ '\n' := by
    rintro rfl
    exact absurd hb (by decide)
  obtain ⟨p, hp, hcp⟩ := exists_mem_textLines hc hnl
  -- the character stays in its line trimmed, which is then not empty and stays a line
  have hct : c ∈ (trimEnd p).toList := by
    rw [toList_trimEnd]
    exact mem_rdropWhile_of_not hcp hb
  have hkept : trimEnd p ∈ ((textLines s).map trimEnd).rdropWhile String.isEmpty := by
    refine mem_rdropWhile_of_not (List.mem_map_of_mem hp) ?_
    rw [Bool.eq_false_iff, ne_eq, String.isEmpty_iff]
    intro he
    rw [he] at hct
    simp at hct
  rw [reflowText_eq, String.toList_intercalate]
  exact Text.mem_intercalate_of_mem hct (List.mem_map_of_mem hkept)

/-- A text with a character other than blanks reflows to one. -/
lemma trim_reflowText_ne_empty {s : String} (h : trim s ≠ "") : trim (reflowText s) ≠ "" := by
  rw [ne_eq, trim_eq_empty_iff] at h ⊢
  obtain ⟨c, hc, hb⟩ : ∃ c ∈ s.toList, isBlank c = false := by simpa using h
  intro hall
  simp [hall c (mem_reflowText hc hb)] at hb

/-! ### Reading back what a field shows -/

/-- The path read is the trimmed text. -/
lemma eq_trim_of_corpusPath {s p : String} (h : corpusPath s = .ok p) : p = trim s := by
  unfold corpusPath at h
  dsimp only at h
  split at h
  · exact absurd h (by simp)
  · split at h
    · exact absurd h (by simp)
    · exact (Except.ok.inj h).symm

namespace FormField

/-- The value a field reads from raw text, by the field's type, when the text is not blank or
the field is a flag. -/
inductive ReadsAs (fld : FormField) (raw : String) : Json → Prop
  | text (h : fld.paramType = .text) : ReadsAs fld raw (.str raw)
  | password (h : fld.paramType = .password) : ReadsAs fld raw (.str raw)
  | boolean (h : fld.paramType = .boolean) {b : Bool} (hb : parseFlag raw = .ok b) :
      ReadsAs fld raw (.bool b)
  | choice (h : fld.paramType = .choice) (hc : fld.choices.contains (trim raw) = true) :
      ReadsAs fld raw (.str (trim raw))
  | corpusFile (h : fld.paramType = .corpusFile) {p : String}
      (hp : corpusPath (trim raw) = .ok p) : ReadsAs fld raw (.str p)
  | name (h : fld.paramType = .corpusRepo ∨ fld.paramType = .contentTypeRef)
      (hb : (trim raw).any isBlank = false) : ReadsAs fld raw (.str (trim raw))
  | crossReference (h : fld.paramType = .crossReference) {u : ContentUri}
      (hu : ContentUri.parse (trim raw) = .ok u)
      (hct : ∀ e, fld.contentType = some e → u.contentType = e) :
      ReadsAs fld raw (crossReferenceValue u)
  | pep8Text (h : fld.paramType = .pep8Text) : ReadsAs fld raw (.str (reflowText raw))

/-- What reading raw text can give: no value from blank text, unless the field is a flag, and
otherwise a value the field's type reads. -/
lemma readRaw_eq_ok {fld : FormField} {raw : String} {v : Option Json}
    (h : fld.readRaw raw = .ok v) :
    (trim raw = "" ∧ fld.paramType ≠ .boolean ∧ v = none) ∨
      ((trim raw ≠ "" ∨ fld.paramType = .boolean) ∧ ∃ j, v = some j ∧ ReadsAs fld raw j) := by
  unfold readRaw at h
  dsimp only at h
  split at h
  · next hblank =>
    cases h
    simp only [Bool.and_eq_true, String.isEmpty_iff, bne_iff_ne, ne_eq] at hblank
    exact .inl ⟨hblank.1, hblank.2, rfl⟩
  · next hblank =>
    have hne : trim raw ≠ "" ∨ fld.paramType = .boolean := by
      simp only [Bool.and_eq_true, String.isEmpty_iff, bne_iff_ne, ne_eq, not_and_or,
        not_not] at hblank
      exact hblank
    refine .inr ⟨hne, ?_⟩
    cases hty : fld.paramType with
    | text =>
      simp only [hty] at h
      simp at h
      exact ⟨_, h.symm, .text hty⟩
    | password =>
      simp only [hty] at h
      simp at h
      exact ⟨_, h.symm, .password hty⟩
    | boolean =>
      simp only [hty] at h
      cases hb : parseFlag raw with
      | error e => simp [hb] at h
      | ok b =>
        simp [hb] at h
        exact ⟨_, h.symm, .boolean hty hb⟩
    | choice =>
      simp only [hty] at h
      split at h
      · next hc =>
        simp at h
        exact ⟨_, h.symm, .choice hty hc⟩
      · simp at h
    | corpusFile =>
      simp only [hty] at h
      cases hp : corpusPath (trim raw) with
      | error e => simp [hp] at h
      | ok p =>
        simp [hp] at h
        exact ⟨_, h.symm, .corpusFile hty hp⟩
    | corpusRepo =>
      simp only [hty] at h
      split at h
      · simp at h
      · next hb =>
        simp at h
        exact ⟨_, h.symm, .name (.inl hty) (by simpa using hb)⟩
    | contentTypeRef =>
      simp only [hty] at h
      split at h
      · simp at h
      · next hb =>
        simp at h
        exact ⟨_, h.symm, .name (.inr hty) (by simpa using hb)⟩
    | crossReference =>
      simp only [hty] at h
      cases hu : ContentUri.parse (trim raw) with
      | error e =>
        rw [hu] at h
        cases h
      | ok u =>
        simp only [hu, bind, Except.bind] at h
        -- the referenced type, when the field names one, must be the URI's
        cases hct : fld.contentType with
        | none =>
          simp only [hct, pure, Except.pure] at h
          simp at h
          exact ⟨_, h.symm, .crossReference hty hu (by simp [hct])⟩
        | some e =>
          simp only [hct] at h
          split at h
          · cases h
          · next heq =>
            simp only [pure, Except.pure] at h
            simp at h
            refine ⟨_, h.symm, .crossReference hty hu fun e' he' => ?_⟩
            rw [hct, Option.some.injEq] at he'
            subst he'
            simpa using heq
    | pep8Text =>
      simp only [hty] at h
      simp at h
      exact ⟨_, h.symm, .pep8Text hty⟩

/-- Blank text clears a field that is not a flag. -/
lemma readRaw_of_blank {fld : FormField} {raw : String} (hb : trim raw = "")
    (hty : fld.paramType ≠ .boolean) : fld.readRaw raw = .ok none := by
  unfold readRaw
  dsimp only
  rw [if_pos (by simp [hb, hty])]

/-- A value the field's type reads from text that is not blank, or from any text for a flag, is
what the field reads. -/
lemma readRaw_of_readsAs {fld : FormField} {raw : String} {j : Json} (hr : ReadsAs fld raw j)
    (hne : trim raw ≠ "" ∨ fld.paramType = .boolean) : fld.readRaw raw = .ok (some j) := by
  have hcond : ((trim raw).isEmpty && fld.paramType != .boolean) = false := by
    rcases hne with hne | hty
    · simp [hne]
    · simp [hty]
  unfold readRaw
  dsimp only
  rw [hcond, if_neg (by simp)]
  cases hr with
  | text h => simp [h]
  | password h => simp [h]
  | boolean h hb => simp [h, hb]
  | choice h hc =>
    have hmem : trim raw ∈ fld.choices := by simpa using hc
    simp [h, hmem]
  | corpusFile h hp => simp [h, hp]
  | name h hb => rcases h with h | h <;> simp [h, hb]
  | crossReference h hu hct =>
    cases hc : fld.contentType with
    | none => simp [h, hu, bind, Except.bind, pure, Except.pure]
    | some e => simp [h, hu, hct e hc, bind, Except.bind, pure, Except.pure]
  | pep8Text h => simp [h]

/-- A cross reference is an object of its URI, type and id, by key. -/
lemma crossReferenceValue_eq (u : ContentUri) :
    crossReferenceValue u = .obj [("content_type", .str u.contentType), ("id", .str u.contentId),
      ("uri", .str u.render)] := by
  -- the keys go in by their order: `content_type`, `id`, `uri`
  have h1 : ("content_type" : String) < "uri" := by decide
  have h2 : ¬ ("id" : String) < "content_type" := by decide
  have h3 : ("id" : String) ≠ "content_type" := by decide
  have h4 : ("id" : String) < "uri" := by decide
  simp only [crossReferenceValue, Json.mkObj, StrMap.ofList, List.foldl, StrMap.insert, h1, h2, h3,
    h4, if_true, if_false]

section Display

variable {fld : FormField} (hs : fld.paramType.isSecret = false)
include hs

/-- A field that is no secret shows a text as itself. -/
lemma displayValue_str (t : String) :
    ({ fld with value := some (.str t) } : FormField).displayValue = t := by
  simp [FormField.displayValue, hs]

lemma displayValue_bool (b : Bool) :
    ({ fld with value := some (.bool b) } : FormField).displayValue = (Json.bool b).compact := by
  simp [FormField.displayValue, hs]

/-- A field that is no secret shows a cross reference as its URI. -/
lemma displayValue_crossReferenceValue (u : ContentUri) :
    ({ fld with value := some (crossReferenceValue u) } : FormField).displayValue = u.render := by
  have huri : ([("content_type", Json.str u.contentType), ("id", .str u.contentId),
      ("uri", .str u.render)] : List (String × Json)).lookup "uri" = some (.str u.render) := by
    simp [List.lookup_cons]
  rw [crossReferenceValue_eq]
  simp [FormField.displayValue, hs, huri]

end Display

/-- What a field that is no secret shows of a value it read, it reads back as that value; for a
cross reference, when the URI it shows is trimmed. -/
lemma ReadsAs.displayValue {fld : FormField} {raw : String} {j : Json} (hr : ReadsAs fld raw j)
    (hne : trim raw ≠ "" ∨ fld.paramType = .boolean) (hs : fld.paramType.isSecret = false)
    (hfix : fld.paramType = .crossReference →
      trim ({ fld with value := some j } : FormField).displayValue =
        ({ fld with value := some j } : FormField).displayValue) :
    ReadsAs fld ({ fld with value := some j } : FormField).displayValue j ∧
      (trim ({ fld with value := some j } : FormField).displayValue ≠ "" ∨
        fld.paramType = .boolean) := by
  cases hr with
  | text h =>
    rw [displayValue_str hs]
    exact ⟨.text h, hne⟩
  | password h => simp [h, ParameterType.isSecret] at hs
  | @boolean h b hb =>
    rw [displayValue_bool hs]
    refine ⟨.boolean h ?_, .inr h⟩
    cases b <;> rfl
  | choice h hc =>
    have hne' : trim raw ≠ "" := hne.resolve_right (by simp [h])
    rw [displayValue_str hs]
    refine ⟨?_, .inl (by rwa [trim_trim])⟩
    have hr : ReadsAs fld (trim raw) (.str (trim (trim raw))) := .choice h (by rwa [trim_trim])
    simpa [trim_trim] using hr
  | @corpusFile h p hp =>
    have hne' : trim raw ≠ "" := hne.resolve_right (by simp [h])
    -- the path read is the trimmed text, which reads as itself
    have hpath : p = trim raw := by rw [eq_trim_of_corpusPath hp, trim_trim]
    subst hpath
    rw [displayValue_str hs]
    exact ⟨.corpusFile h (by rwa [trim_trim]), .inl (by rwa [trim_trim])⟩
  | name h hb =>
    have hne' : trim raw ≠ "" := hne.resolve_right (by rcases h with h | h <;> simp [h])
    rw [displayValue_str hs]
    refine ⟨?_, .inl (by rwa [trim_trim])⟩
    have hr : ReadsAs fld (trim raw) (.str (trim (trim raw))) := .name h (by rwa [trim_trim])
    simpa [trim_trim] using hr
  | @crossReference h u hu hct =>
    have htrim := hfix h
    rw [displayValue_crossReferenceValue hs] at htrim ⊢
    have hparse : ContentUri.parse (trim u.render) = .ok u := by
      rw [htrim]
      exact ContentUri.parse_render_of_parse hu
    refine ⟨.crossReference h hparse hct, .inl ?_⟩
    rw [htrim, ContentUri.render_of_parse hu]
    simp
  | pep8Text h =>
    have hne' : trim raw ≠ "" := hne.resolve_right (by simp [h])
    rw [displayValue_str hs]
    refine ⟨?_, .inl (trim_reflowText_ne_empty hne')⟩
    have hr : ReadsAs fld (reflowText raw) (.str (reflowText (reflowText raw))) := .pep8Text h
    simpa [reflowText_reflowText] using hr

/-- Reading what a field that is no secret shows of a value it read gives the value back; for a
cross reference, when the URI it shows is trimmed. -/
theorem readRaw_displayValue {fld : FormField} {raw : String} {v : Option Json}
    (h : fld.readRaw raw = .ok v) (hs : fld.paramType.isSecret = false)
    (hfix : fld.paramType = .crossReference →
      trim ({ fld with value := v } : FormField).displayValue =
        ({ fld with value := v } : FormField).displayValue) :
    fld.readRaw ({ fld with value := v } : FormField).displayValue = .ok v := by
  rcases readRaw_eq_ok h with ⟨-, hty, rfl⟩ | ⟨hne, j, rfl, hr⟩
  · -- a cleared field shows nothing, which clears it again
    have hshow : ({ fld with value := none } : FormField).displayValue = "" := rfl
    exact readRaw_of_blank ((trim_eq_empty_iff _).2 (by simp [hshow])) hty
  · obtain ⟨hr', hne'⟩ := hr.displayValue hne hs hfix
    exact readRaw_of_readsAs hr' hne'

end FormField

namespace JobForm

/-- Finding a field by name looks at the names alone, so setting a field to one of the same name
finds the same place. -/
lemma findIdx?_set_name {l : List FormField} {i : Nat} (hi : i < l.length) {x : FormField}
    (hx : x.name = l[i].name) (p : String → Bool) :
    (l.set i x).findIdx? (fun g => p g.name) = l.findIdx? (fun g => p g.name) := by
  have hmap : ∀ m : List FormField, m.findIdx? (fun g => p g.name) = (m.map (·.name)).findIdx? p :=
    fun m => by rw [List.findIdx?_map]; rfl
  have hi' : i < (l.map (·.name)).length := by simpa using hi
  have hget : (l.map (·.name))[i] = l[i].name := List.getElem_map ..
  rw [hmap, hmap, List.map_set, hx, ← hget, List.set_getElem_self]

/-- Setting a value reads the raw text into the first field of the name, and changes nothing
else. -/
lemma setValue_eq_ok {f f' : JobForm} {name raw : String} (h : f.setValue name raw = .ok f') :
    ∃ i fld v, f.fields.findIdx? (·.name == name) = some i ∧ f.fields[i]? = some fld ∧
      fld.readRaw raw = .ok v ∧ f' = { f with fields := f.fields.set i { fld with value := v } } := by
  unfold setValue at h
  split at h
  · cases h
  · next i hi =>
    split at h
    · cases h
    · next fld hfld =>
      cases hv : fld.readRaw raw with
      | error e =>
        rw [hv] at h
        cases h
      | ok v =>
        simp only [hv, bind, Except.bind, pure, Except.pure, Except.ok.injEq] at h
        exact ⟨i, fld, v, hi, hfld, hv, h.symm⟩

/-- Raw text the first field of the name reads sets that field. -/
lemma setValue_of_readRaw {f : JobForm} {name raw : String} {i : Nat} {fld : FormField}
    {v : Option Json} (hi : f.fields.findIdx? (·.name == name) = some i)
    (hfld : f.fields[i]? = some fld) (hv : fld.readRaw raw = .ok v) :
    f.setValue name raw = .ok { f with fields := f.fields.set i { fld with value := v } } := by
  unfold setValue
  simp only [hi, hfld, hv, bind, Except.bind, pure, Except.pure]

/-- Setting a field to what it shows, right after a value was set, leaves the form as it is, when
the field is no secret, and, for a cross reference, the URI it shows is trimmed. -/
theorem setValue_displayValue {f f' : JobForm} {name raw : String}
    (h : f.setValue name raw = .ok f') {fld : FormField} (hfld : f'.field? name = some fld)
    (hs : fld.paramType.isSecret = false)
    (hfix : fld.paramType = .crossReference → trim fld.displayValue = fld.displayValue) :
    f'.setValue name fld.displayValue = .ok f' := by
  obtain ⟨i, fld₀, v, hi, hget, hread, rfl⟩ := setValue_eq_ok h
  obtain ⟨hlt, hfld₀⟩ := List.getElem?_eq_some_iff.1 hget
  -- the field set is found where it was, and is the field shown
  have hi' : (f.fields.set i { fld₀ with value := v }).findIdx? (·.name == name) = some i := by
    rw [findIdx?_set_name hlt (by rw [hfld₀]) (· == name)]
    exact hi
  have hget' : (f.fields.set i { fld₀ with value := v })[i]? = some { fld₀ with value := v } :=
    List.getElem?_set_self hlt
  have hshown : fld = { fld₀ with value := v } := by
    unfold field? at hfld
    rw [List.find?_eq_bind_findIdx?_getElem?, hi', Option.bind_some, hget'] at hfld
    exact (Option.some.inj hfld).symm
  subst hshown
  -- what it shows reads back as the value it holds
  have hread' : ({ fld₀ with value := v } : FormField).readRaw
      ({ fld₀ with value := v } : FormField).displayValue = .ok v :=
    FormField.readRaw_displayValue hread hs hfix
  rw [setValue_of_readRaw hi' hget' hread']
  simp

end JobForm

namespace Command.Tracking

/-- A step of a form that fails leaves the form as it was. -/
lemma formStep_of_error {f : JobForm} {req : Json} {e : Halt} (h : (formStep f req).2 = .error e) :
    (formStep f req).1 = f := by
  unfold formStep at h ⊢
  dsimp only at h ⊢
  split
  · next heq =>
    rw [heq] at h
    cases h
  · rfl

end Command.Tracking


/-- Values set on a job form read back from what the form shows.  Right after a value is set,
setting the field to what it shows succeeds and leaves the form as it is, when the field is no
secret and, for a cross reference, the URI it shows is trimmed; reflowing text is idempotent; and
a step of the form that fails leaves the form as it was. -/
theorem form_values_read_back (f : JobForm) (name raw : String) :
    (∀ (f' : JobForm) (fld : FormField), f.setValue name raw = .ok f' →
        f'.field? name = some fld → fld.paramType.isSecret = false →
        (fld.paramType = .crossReference → trim fld.displayValue = fld.displayValue) →
        f'.setValue name fld.displayValue = .ok f') ∧
    reflowText (reflowText raw) = reflowText raw ∧
    (∀ (req : Json) (e : Command.Halt), (Command.Tracking.formStep f req).2 = .error e →
        (Command.Tracking.formStep f req).1 = f) :=
  ⟨fun _ _ h hfld hs hfix => JobForm.setValue_displayValue h hfld hs hfix,
    reflowText_reflowText raw,
    fun _ _ h => Command.Tracking.formStep_of_error h⟩

/-- A cross reference set from a URI shows its canonical text, and reads back from it. -/
example :
    let task : Task :=
      { id := "t1", name := "OCR", contentType := "Document",
        parameters := [{ name := "source", typeTag := "cross_reference" }] }
    let f := (JobForm.new task "local").bind (·.setValue "source" "corpus/42/Document/d1/")
    let shown := fun (f : Except ClientError JobForm) =>
      f.map fun f => (f.field? "source").map (·.displayValue)
    shown f = .ok (some "/corpus/42/Document/d1") ∧
      shown (f.bind (·.setValue "source" "/corpus/42/Document/d1")) = shown f := by decide +kernel

end CorpusBench
