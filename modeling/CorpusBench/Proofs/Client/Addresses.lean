import CorpusBench.Proofs.Web.Escapes
import CorpusBench.Client.Api

/-!
# The addresses of record requests

The requests for a type's records, a record, its neighbourhood and its jobs ask for the API's
origin followed by a path of words: `api`, `corpus` (or `jobs`, `corpus`), the corpus, the type
and the record, each written by the client's encoder and followed by a slash.  Whatever the
encoder and the URL parser, as long as each does what it is documented to do
(`Url.EncodesComponent`, `Url.ResolvesDotSegments`), the path segments of each request's URL
percent-decode to those words exactly when no identifier is `.` or `..`
(`HttpClient.record_requests_name_their_words`).  The encoding keeps those two, and the parser
resolves them: the record `..` of a type is asked for at the corpus path `/api/corpus/c/`, and
the jobs of the record `.` at the type's jobs path.

## Main definitions

* `Url.ResolvesDotSegments` — what a URL parser is documented to do with dot segments.
* `Url.decodedSegments` — the path segments of an address, percent-decoded.
* `Url.resolvedSegments` — the standard's reading of the path after an origin.

## Main results

* `Url.decodedSegments_encoded_iff`.
* `HttpClient.record_requests_name_their_words`.
-/

namespace CorpusBench

namespace Url

/-- A character a path segment holds as it is written: a letter, a digit or one of
`- . _ ~ %`. -/
def segmentChar (c : Char) : Bool := c.isAlphanum || "-._~%".contains c

/-- What a URL parser is documented to do with an address `base/seg₁/…/segₙ` whose segments hold
only segment characters, where `segmentsOf a` is the list of the path segments of the URL it
reads from `a`: without a dot segment, the path segments are those written; a dot segment before
the last takes at least one away. -/
structure ResolvesDotSegments (segmentsOf : String → Option (List String)) (base : String) :
    Prop where
  keeps : ∀ segs : List String, segs ≠ [] →
    (∀ seg ∈ segs, (∀ c ∈ seg.toList, segmentChar c = true) ∧
      (isSingleDot seg || isDoubleDot seg) = false) →
    segmentsOf (base ++ "/" ++ "/".intercalate segs) = some segs
  removes : ∀ segs : List String, (∀ seg ∈ segs, ∀ c ∈ seg.toList, segmentChar c = true) →
    (∃ seg ∈ segs.dropLast, (isSingleDot seg || isDoubleDot seg) = true) →
    ∀ r, segmentsOf (base ++ "/" ++ "/".intercalate segs) = some r → r.length < segs.length

/-- The words an address names: the path segments of the URL read from it, each percent-decoded
to the bytes it stands for. -/
def decodedSegments (segmentsOf : String → Option (List String)) (a : String) :
    Option (List (List UInt8)) :=
  (segmentsOf a).map (·.map fun seg => Host.percentDecode seg.toUTF8.toList)

section Documented

variable {enc : String → String} {segmentsOf : String → Option (List String)} {base : String}

/-- **A path of encoded words names its words exactly when none of them is `.` or `..`.**  After
the base, the path writes a slash and then each word as the encoder writes it, followed by a
slash; its words are those words and the empty word after the last slash.

**Proof sketch.** What the encoder writes are segment characters.  Without a dot word no
encoding is a dot segment, so the parser keeps every segment, and each decodes to its word
(`EncodesComponent.percentDecode_toUTF8`).  The encoder keeps a dot word as a dot segment before
the empty last one (`EncodesComponent.isDot_iff`), and fewer segments are read back than there
are words. -/
theorem decodedSegments_encoded_iff (henc : EncodesComponent enc)
    (hurl : ResolvesDotSegments segmentsOf base) (ws : List String) :
    decodedSegments segmentsOf (base ++ "/" ++ "/".intercalate ((ws ++ [""]).map enc)) =
        some ((ws ++ [""]).map (·.toUTF8.toList)) ↔
      ∀ w ∈ ws, w ≠ "." ∧ w ≠ ".." := by
  have hplain : ∀ seg ∈ (ws ++ [""]).map enc, ∀ c ∈ seg.toList, segmentChar c = true := by
    intro seg hseg c hc
    obtain ⟨w, -, rfl⟩ := List.mem_map.1 hseg
    exact henc.written_of_mem hc
  constructor
  · intro h w hw
    refine not_or.1 fun hdot => ?_
    obtain ⟨r, hr, hdec⟩ := Option.map_eq_some_iff.1 h
    -- a dot word is a dot segment before the last, so fewer segments are read than written
    have hmem : enc w ∈ ((ws ++ [""]).map enc).dropLast := by
      rw [List.map_append, List.map_singleton, List.dropLast_concat]
      exact List.mem_map_of_mem hw
    have hlt := hurl.removes _ hplain ⟨_, hmem, (henc.isDot_iff w).2 hdot⟩ r hr
    have hlen := congrArg List.length hdec
    simp only [List.length_map, List.length_append] at hlen hlt
    omega
  · intro hno
    have hnd : ∀ seg ∈ (ws ++ [""]).map enc, (isSingleDot seg || isDoubleDot seg) = false := by
      intro seg hseg
      obtain ⟨w, hw, rfl⟩ := List.mem_map.1 hseg
      refine Bool.eq_false_iff.2 fun hd => ?_
      rcases List.mem_append.1 hw with hw | hw
      · exact (not_or.2 (hno w hw)) ((henc.isDot_iff w).1 hd)
      · rw [List.mem_singleton] at hw
        subst hw
        simpa using (henc.isDot_iff "").1 hd
    rw [decodedSegments, hurl.keeps _ (by simp) fun seg hseg => ⟨hplain seg hseg, hnd seg hseg⟩,
      Option.map_some, List.map_map]
    exact congrArg some (List.map_congr_left fun w _ => henc.percentDecode_toUTF8 w)

end Documented

/-! ### The standard's reading of a path -/

theorem resolveDots_singleton (seg : String) (acc : List String) :
    resolveDots [seg] acc =
      if isDoubleDot seg then ("" :: acc.drop 1).reverse
      else if isSingleDot seg then ("" :: acc).reverse
      else (seg :: acc).reverse := rfl

theorem resolveDots_cons_cons (seg r : String) (rs acc : List String) :
    resolveDots (seg :: r :: rs) acc =
      if isDoubleDot seg then resolveDots (r :: rs) (acc.drop 1)
      else if isSingleDot seg then resolveDots (r :: rs) acc
      else resolveDots (r :: rs) (seg :: acc) := rfl

/-- Without dot segments, resolving keeps every segment. -/
theorem resolveDots_of_forall {segs : List String}
    (h : ∀ s ∈ segs, (isSingleDot s || isDoubleDot s) = false) (acc : List String) :
    resolveDots segs acc = acc.reverse ++ segs := by
  induction segs generalizing acc with
  | nil => simp [resolveDots]
  | cons seg rest ih =>
    have hseg := h seg List.mem_cons_self
    simp only [Bool.or_eq_false_iff] at hseg
    cases rest with
    | nil => simp [resolveDots_singleton, hseg.1, hseg.2]
    | cons r rs =>
      rw [resolveDots_cons_cons, if_neg (by simp [hseg.2]), if_neg (by simp [hseg.1]),
        ih fun s hs => h s (List.mem_cons_of_mem _ hs)]
      simp

theorem length_resolveDots_le (segs acc : List String) :
    (resolveDots segs acc).length ≤ acc.length + segs.length := by
  fun_induction resolveDots segs acc <;> simp_all <;> omega

/-- A dot segment before the last one takes at least one segment away. -/
theorem length_resolveDots_lt {segs : List String} (acc : List String)
    (h : ∃ s ∈ segs.dropLast, (isSingleDot s || isDoubleDot s) = true) :
    (resolveDots segs acc).length < acc.length + segs.length := by
  induction segs generalizing acc with
  | nil => simp at h
  | cons seg rest ih =>
    cases rest with
    | nil => simp at h
    | cons r rs =>
      rw [resolveDots_cons_cons]
      by_cases hd : isDoubleDot seg = true
      · -- `..` goes, and takes the kept segment before it
        have := length_resolveDots_le (r :: rs) (acc.drop 1)
        simp only [hd, if_true, List.length_drop, List.length_cons] at this ⊢
        omega
      by_cases hs : isSingleDot seg = true
      · have := length_resolveDots_le (r :: rs) acc
        simp only [hd, hs, if_true, if_false, Bool.false_eq_true, List.length_cons] at this ⊢
        omega
      · -- the dot segment is further on
        have hrest : ∃ s ∈ (r :: rs).dropLast, (isSingleDot s || isDoubleDot s) = true := by
          obtain ⟨s, hmem, hdot⟩ := h
          rw [List.dropLast_cons_cons, List.mem_cons] at hmem
          rcases hmem with rfl | hmem
          · simp [hd, hs] at hdot
          · exact ⟨s, hmem, hdot⟩
        have := ih (seg :: acc) hrest
        simp only [hd, hs, if_false, Bool.false_eq_true, List.length_cons] at this ⊢
        omega

/-- The path segments of an address after a base and a slash, dot segments resolved as the URL
standard resolves them. -/
def resolvedSegments (base a : String) : Option (List String) :=
  some (resolveDots (((a.toList.drop (base.length + 1)).splitOn '/').map String.ofList) [])

theorem resolvedSegments_join (base : String) {segs : List String} (hne : segs ≠ [])
    (h : ∀ seg ∈ segs, ∀ c ∈ seg.toList, segmentChar c = true) :
    resolvedSegments base (base ++ "/" ++ "/".intercalate segs) = some (resolveDots segs []) := by
  have hslash : ∀ seg ∈ segs.map String.toList, '/' ∉ seg := by
    intro seg hseg hc
    obtain ⟨s, hs, rfl⟩ := List.mem_map.1 hseg
    exact absurd (h s hs _ hc) (by simp [segmentChar, String.contains_char_eq])
  have hpath : (base ++ "/" ++ "/".intercalate segs).toList.drop (base.length + 1) =
      ['/'].intercalate (segs.map String.toList) := by
    rw [String.toList_append, String.toList_append, List.append_assoc, ← String.length_toList,
      List.drop_append]
    simp [String.toList_intercalate]
  rw [resolvedSegments, hpath, List.splitOn_intercalate '/' hslash (by simpa using hne),
    List.map_map]
  simp

/-- The standard's reading of a path does what a URL parser is documented to do. -/
theorem resolvesDotSegments_resolvedSegments (base : String) :
    ResolvesDotSegments (resolvedSegments base) base where
  keeps segs hne h := by
    rw [resolvedSegments_join base hne fun seg hs => (h seg hs).1,
      resolveDots_of_forall fun s hs => (h s hs).2]
    rfl
  removes segs hplain hdot r hr := by
    have hne : segs ≠ [] := by
      rintro rfl
      simp at hdot
    rw [resolvedSegments_join base hne hplain, Option.some.injEq] at hr
    subst hr
    simpa using length_resolveDots_lt [] hdot

end Url

namespace HttpClient

variable {enc : String → String} {segmentsOf : String → Option (List String)}

/-- The fixed words of the API's paths are written as they are. -/
theorem fixed_words (henc : Url.EncodesComponent enc) :
    enc "api" = "api" ∧ enc "corpus" = "corpus" ∧ enc "jobs" = "jobs" ∧
      enc "network-json" = "network-json" ∧ enc "" = "" :=
  ⟨henc.eq_self (by simp [Url.keptChar]), henc.eq_self (by simp [Url.keptChar]),
    henc.eq_self (by simp [Url.keptChar]),
    henc.eq_self (by simp [Url.keptChar, String.contains_char_eq]), henc.eq_self (by simp)⟩

/-! Each path is the slash-joined encoding of its words.  The joined form is reassociated to the
left and its literal words joined; the path is unfolded only then, since comparing a joined
literal with its pieces makes Lean compute through the texts. -/

theorem contentPath_eq (henc : Url.EncodesComponent enc) (corpus type : String) :
    contentPath enc corpus type =
      "/" ++ "/".intercalate ((["api", "corpus", corpus, type] ++ [""]).map enc) := by
  obtain ⟨hapi, hcorpus, -, -, hempty⟩ := fixed_words henc
  simp only [List.cons_append, List.nil_append, List.map_cons, List.map_nil, hapi, hcorpus, hempty,
    String.intercalate_cons_cons, String.intercalate_singleton, ← String.append_assoc,
    String.append_empty]
  unfold contentPath
  simp only [String.reduceAppend]

theorem recordPath_eq (henc : Url.EncodesComponent enc) (u : ContentUri) :
    recordPath enc u = "/" ++ "/".intercalate
      ((["api", "corpus", u.corpusId, u.contentType, u.contentId] ++ [""]).map enc) := by
  obtain ⟨hapi, hcorpus, -, -, hempty⟩ := fixed_words henc
  simp only [List.cons_append, List.nil_append, List.map_cons, List.map_nil, hapi, hcorpus, hempty,
    String.intercalate_cons_cons, String.intercalate_singleton, ← String.append_assoc,
    String.append_empty]
  unfold recordPath contentPath
  simp only [String.reduceAppend]

theorem networkPath_eq (henc : Url.EncodesComponent enc) (u : ContentUri) :
    recordPath enc u ++ "network-json/" = "/" ++ "/".intercalate
      ((["api", "corpus", u.corpusId, u.contentType, u.contentId, "network-json"] ++ [""]).map
        enc) := by
  obtain ⟨-, -, -, hnet, hempty⟩ := fixed_words henc
  -- both sides end in the record's encoding, a slash, and `network-json/`
  rw [recordPath_eq henc u]
  simp only [List.cons_append, List.nil_append, List.map_cons, List.map_nil, hnet, hempty,
    String.intercalate_cons_cons, String.intercalate_singleton, String.append_assoc,
    String.append_empty, String.reduceAppend]

theorem jobsPath_eq (henc : Url.EncodesComponent enc) (u : ContentUri) :
    jobsPath enc u = "/" ++ "/".intercalate
      ((["api", "jobs", "corpus", u.corpusId, u.contentType, u.contentId] ++ [""]).map enc) := by
  obtain ⟨hapi, hcorpus, hjobs, -, hempty⟩ := fixed_words henc
  simp only [List.cons_append, List.nil_append, List.map_cons, List.map_nil, hapi, hcorpus, hjobs,
    hempty, String.intercalate_cons_cons, String.intercalate_singleton, ← String.append_assoc,
    String.append_empty]
  unfold jobsPath
  simp only [String.reduceAppend]

/-- A request path of words, each written by a component encoder after the client's origin,
names them exactly when none of the identifiers among them is `.` or `..`. -/
theorem names_words_iff (henc : Url.EncodesComponent enc) {c : HttpClient}
    (hurl : Url.ResolvesDotSegments segmentsOf c.config.baseUrl) {path : String}
    (ws ids : List String)
    (hpath : path = "/" ++ "/".intercalate ((ws ++ [""]).map enc))
    (hids : (∀ w ∈ ws, w ≠ "." ∧ w ≠ "..") ↔ ∀ w ∈ ids, w ≠ "." ∧ w ≠ "..") :
    Url.decodedSegments segmentsOf (c.address path) = some ((ws ++ [""]).map (·.toUTF8.toList)) ↔
      ∀ w ∈ ids, w ≠ "." ∧ w ≠ ".." := by
  rw [address, hpath, ← String.append_assoc, ← hids]
  exact Url.decodedSegments_encoded_iff henc hurl ws

/-- The requests that name a type or a record of a corpus: whatever the encoder of identifiers
and the URL parser, as long as each does what it is documented to do, the path segments of each
request's URL percent-decode to its words (`api`, `corpus` or `jobs` and `corpus`, the corpus,
the type, the record, `network-json`) exactly when none of the identifiers is `.` or `..`: those
the parser resolves away.

**Proof sketch.** Each path is the slash-joined encoding of its words, since the fixed words
encode as themselves (`Url.EncodesComponent.eq_self`); `names_words_iff` then applies, and the
fixed words are neither `.` nor `..`. -/
theorem record_requests_name_their_words (enc : String → String)
    (henc : Url.EncodesComponent enc) (segmentsOf : String → Option (List String)) (c : HttpClient)
    (hurl : Url.ResolvesDotSegments segmentsOf c.config.baseUrl) (corpus type : String)
    (u : ContentUri) :
    (Url.decodedSegments segmentsOf (c.address (contentPath enc corpus type)) =
        some (["api", "corpus", corpus, type, ""].map (·.toUTF8.toList)) ↔
      ∀ w ∈ [corpus, type], w ≠ "." ∧ w ≠ "..") ∧
    (Url.decodedSegments segmentsOf (c.address (recordPath enc u)) =
        some (["api", "corpus", u.corpusId, u.contentType, u.contentId, ""].map
          (·.toUTF8.toList)) ↔
      ∀ w ∈ [u.corpusId, u.contentType, u.contentId], w ≠ "." ∧ w ≠ "..") ∧
    (Url.decodedSegments segmentsOf (c.address (recordPath enc u ++ "network-json/")) =
        some (["api", "corpus", u.corpusId, u.contentType, u.contentId, "network-json", ""].map
          (·.toUTF8.toList)) ↔
      ∀ w ∈ [u.corpusId, u.contentType, u.contentId], w ≠ "." ∧ w ≠ "..") ∧
    (Url.decodedSegments segmentsOf (c.address (jobsPath enc u)) =
        some (["api", "jobs", "corpus", u.corpusId, u.contentType, u.contentId, ""].map
          (·.toUTF8.toList)) ↔
      ∀ w ∈ [u.corpusId, u.contentType, u.contentId], w ≠ "." ∧ w ≠ "..") := by
  refine ⟨names_words_iff henc hurl ["api", "corpus", corpus, type] _ (contentPath_eq henc _ _)
    (by simp), names_words_iff henc hurl ["api", "corpus", u.corpusId, u.contentType, u.contentId] _
    (recordPath_eq henc u) (by simp), names_words_iff henc hurl
    ["api", "corpus", u.corpusId, u.contentType, u.contentId, "network-json"] _
    (networkPath_eq henc u) (by simp), names_words_iff henc hurl
    ["api", "jobs", "corpus", u.corpusId, u.contentType, u.contentId] _ (jobsPath_eq henc u)
    (by simp)⟩

/-- A client of the API at the loopback origin. -/
def loopback : HttpClient := ⟨{ baseUrl := "http://[::1]" }, .unreachable⟩

/-- From the loopback origin, with the library's encoder and the standard's reading of paths, the
record `..` of a type is asked for at a path that does not name it. -/
theorem record_requests_name_their_words_loopback :
    Url.EncodesComponent Url.encodeComponent ∧
    Url.ResolvesDotSegments (Url.resolvedSegments "http://[::1]") loopback.config.baseUrl ∧
    (Url.decodedSegments (Url.resolvedSegments "http://[::1]")
        (loopback.address (contentPath Url.encodeComponent "c1" "Book")) =
        some (["api", "corpus", "c1", "Book", ""].map (·.toUTF8.toList)) ↔
      ∀ w ∈ ["c1", "Book"], w ≠ "." ∧ w ≠ "..") ∧
    (Url.decodedSegments (Url.resolvedSegments "http://[::1]")
        (loopback.address (recordPath Url.encodeComponent ⟨"c1", "Book", ".."⟩)) =
        some (["api", "corpus", "c1", "Book", "..", ""].map (·.toUTF8.toList)) ↔
      ∀ w ∈ ["c1", "Book", ".."], w ≠ "." ∧ w ≠ "..") ∧
    (Url.decodedSegments (Url.resolvedSegments "http://[::1]")
        (loopback.address (recordPath Url.encodeComponent ⟨"c1", "Book", ".."⟩ ++
          "network-json/")) =
        some (["api", "corpus", "c1", "Book", "..", "network-json", ""].map (·.toUTF8.toList)) ↔
      ∀ w ∈ ["c1", "Book", ".."], w ≠ "." ∧ w ≠ "..") ∧
    (Url.decodedSegments (Url.resolvedSegments "http://[::1]")
        (loopback.address (jobsPath Url.encodeComponent ⟨"c1", "Book", ".."⟩)) =
        some (["api", "jobs", "corpus", "c1", "Book", "..", ""].map (·.toUTF8.toList)) ↔
      ∀ w ∈ ["c1", "Book", ".."], w ≠ "." ∧ w ≠ "..") :=
  ⟨Url.encodesComponent_encodeComponent, Url.resolvesDotSegments_resolvedSegments _,
    record_requests_name_their_words Url.encodeComponent Url.encodesComponent_encodeComponent _
      loopback (Url.resolvesDotSegments_resolvedSegments _) "c1" "Book" ⟨"c1", "Book", ".."⟩⟩

end HttpClient

end CorpusBench
