import CorpusBench.Proofs.Server.Listing
import CorpusBench.Proofs.Server.Requests

/-!
# Spooling a listing from the in-memory server

A spool asks for page `1` of a listing, then for each next page while the page before says
there is one, by the cursor the page handed out or else by number, and stops when the cap on
pages is used up.  Over the in-memory server nothing moves the listing while the spool runs, so
its pages are consecutive slices of one list, and the spool reads exactly the pages that list
has: it returns the whole listing, in the server's order and each record once, exactly when the
listing has no more pages than the cap, and otherwise fails with `InvalidInput` after asking for
as many pages as the cap allows, never answering with part of the listing.

A listing of `n` records with `size` to a page has `max 1 ⌈n / size⌉` pages: an empty listing
still takes one request to find out.  The server's page numbers and offsets are 32-bit words,
so this holds of listings that fit a word.

## Main definitions

* `Spool.searchPairs` — the caller's pairs without its own paging.
* `Spool.tokenAt` — the cursor a spool sends for a page.
* `Server.spoolPages` — the number of pages of a listing.
* `Server.spoolCall` — the request a spool makes for a page.

## Main results

* `Server.listing_searchPairs` — dropping the caller's paging lists the same records.
* `Server.yields_pagesFrom` — the loop of a spool, from any page of the listing.
* `Server.spool_yields_listing_within_cap` — what a spool returns, and the requests
  it makes.
-/

namespace CorpusBench

namespace Spool

/-- The caller's pairs, less its own `page` and `page-token`. -/
def searchPairs (params : QueryPairs) : QueryPairs :=
  params.filter fun (k, _) => k != "page" && k != "page-token"

/-- The cursor a spool sends for a page: the one the server hands out with the page before,
with cursor paging and from the second page on. -/
def tokenAt (cursor : Bool) (page : Nat) : Option String :=
  if cursor && decide (1 < page) then some ("tok-" ++ toString page) else none

end Spool

namespace Server

open Spool

/-! ### The pairs of a spool's requests -/

section Pairs

variable (params : QueryPairs)

lemma param?_searchPairs (key : String) (hkey : key ≠ "page" ∧ key ≠ "page-token") :
    param? (searchPairs params) key = param? params key := by
  unfold param? searchPairs
  rw [List.find?_filter]
  congr 2
  funext kv
  by_cases h : kv.1 = key
  · simp [h, hkey.1, hkey.2]
  · simp [h]

/-- The caller's paging lists nothing else: a page pair passes every filter, and is neither the
view nor the sort. -/
theorem listing_searchPairs (s : Server) (contentType : String) :
    s.listing contentType (searchPairs params) = s.listing contentType params := by
  have hmatch : ∀ r, recordMatches r (searchPairs params) = recordMatches r params := by
    intro r
    unfold recordMatches searchPairs
    rw [List.all_filter]
    congr 1
    funext kv
    by_cases hp : kv.1 = "page"
    · simp [hp]
    · by_cases ht : kv.1 = "page-token"
      · simp [ht]
      · simp [hp, ht]
  have hview := param?_searchPairs params "content_view" (by decide)
  have hsort : (searchPairs params).find? (·.1.startsWith "s_") =
      params.find? (·.1.startsWith "s_") := by
    unfold searchPairs
    rw [List.find?_filter]
    congr 1
    funext kv
    by_cases hp : kv.1 = "page"
    · simp [hp]
    · by_cases ht : kv.1 = "page-token"
      · simp [ht]
      · cases kv.1.startsWith "s_" <;> simp [hp, ht]
  unfold listing
  simp only [hmatch, hview, hsort]

lemma pageSizeOf_spool (page : Nat) (token : Option String) :
    pageSizeOf (searchPairs params ++ [pagePair page token]) = pageSizeOf params := by
  have hkey : "page-size" ∉ [pagePair page token].map Prod.fst := by
    cases token <;> simp [pagePair]
  unfold pageSizeOf
  rw [param?_append_of_not_mem hkey, param?_searchPairs params "page-size" (by decide)]

/-- The page a spool's request asks for, by number or by cursor. -/
lemma pageOf_spool {page : Nat} (hpos : 1 ≤ page) (hword : page ≤ u32Max) (cursor : Bool) :
    pageOf (searchPairs params ++ [pagePair page (tokenAt cursor page)]) = .ok page := by
  have hnone : ∀ key, key = "page" ∨ key = "page-token" →
      key ∉ (searchPairs params).map Prod.fst := by
    rintro key hkey hmem
    obtain ⟨⟨k, v⟩, hkv, rfl⟩ := List.mem_map.1 hmem
    have hkeep := (List.mem_filter.1 hkv).2
    rcases hkey with rfl | rfl <;> simp at hkeep
  have hmax : max page 1 = page := Nat.max_eq_left hpos
  unfold tokenAt
  split
  · -- by cursor: `tok-{page}`
    have hprefix : ("tok-" ++ toString page).startsWith "tok-" = true := by
      rw [String.startsWith_string_iff, String.toList_append]
      exact List.prefix_append _ _
    have hdigits : String.ofList (("tok-" ++ toString page).toList.drop 4) = toString page := by
      rw [String.toList_append, List.drop_append_of_le_length (by decide), List.drop_of_length_le
        (by decide), List.nil_append, String.ofList_toList]
    unfold pageOf
    rw [param?_append_of_not_mem_left (hnone "page-token" (.inr rfl))]
    simp only [pagePair, param?, List.find?_cons, beq_self_eq_true, Option.map_some]
    rw [if_pos hprefix, hdigits, readWord32_toString, if_pos hword]
    dsimp only
    rw [hmax]
  · -- by number
    unfold pageOf
    rw [param?_append_of_not_mem_left (hnone "page-token" (.inr rfl)),
      param?_append_of_not_mem_left (hnone "page" (.inl rfl))]
    simp only [pagePair, param?, List.find?_cons, List.find?_nil]
    rw [show (("page" == "page-token") = false) from rfl, beq_self_eq_true]
    simp only [Option.map_none, Option.map_some]
    rw [readWord32_toString, if_pos hword]
    dsimp only
    rw [hmax]

end Pairs

/-! ### One page after another -/

/-- The number of pages of a listing, `size` to a page: at least one. -/
def spoolPages (s : Server) (contentType : String) (params : QueryPairs) : Nat :=
  max 1 (pageCount (s.listing contentType params).length (pageSizeOf params))

/-- The request a spool makes for a page. -/
def spoolCall (corpusId contentType : String) (params : QueryPairs) (cursor : Bool) (page : Nat) :
    Call :=
  ⟨"list_content", typeTarget corpusId contentType,
    searchPairs params ++ [pagePair page (tokenAt cursor page)]⟩

lemma pageSizeOf_pos (params : QueryPairs) : 0 < pageSizeOf params :=
  Nat.lt_of_lt_of_le Nat.one_pos (Nat.le_max_right _ _)

/-- A listing has no more pages than records. -/
lemma pageCount_le (total : Nat) {size : Nat} (hsize : 0 < size) :
    pageCount total size ≤ total := by
  unfold pageCount
  rcases total with _ | t
  · exact Nat.le_of_eq (Nat.div_eq_of_lt (by omega))
  · refine Nat.div_le_of_le_mul ?_
    have : t ≤ size * t := Nat.le_mul_of_pos_left t hsize
    rw [Nat.mul_succ]
    omega

/-- The requests for pages `page` to `page + n`, and the one for `page + n + 1` after them. -/
lemma map_range_succ_add {β : Type} (f : Nat → β) (page n : Nat) :
    (List.range (n + 1)).map (fun i => f (page + i)) =
      f page :: (List.range n).map (fun i => f (page + 1 + i)) := by
  rw [List.range_succ_eq_map]
  simp [Nat.add_assoc, Nat.add_comm 1]

section Loop

variable {s : Server} {corpusId contentType : String} {params : QueryPairs} {cap : Nat}

/-- A page of the listing that a spool reaches is served as the slice at its place; it has a next
page exactly when the listing runs past it, and then hands out the cursor the spool sends next.

**Proof sketch.** The request asks for the page by number or cursor (`pageOf_spool`), with the
caller's size (`pageSizeOf_spool`), over the caller's listing (`listing_searchPairs`); its
offset lies within the listing, which fits a word, so the server serves it
(`pageWindow_eq_ok`). -/
lemma yields_spoolPage (hsize : (s.listing contentType params).length ≤ u32Max) {page : Nat}
    (hpos : 1 ≤ page) (hle : page ≤ s.spoolPages contentType params) (more : List Call) :
    ∃ lp, Proc.Yields (listContent corpusId contentType
        (searchPairs params ++ [pagePair page (tokenAt s.cursorPaging page)])) (s.record more)
        (.ok lp)
        (s.record (more ++ [spoolCall corpusId contentType params s.cursorPaging page])) ∧
      lp.records = ((s.listing contentType params).drop ((page - 1) * pageSizeOf params)).take
        (pageSizeOf params) ∧
      lp.pageMeta.hasNextPage =
        decide (page < pageCount (s.listing contentType params).length (pageSizeOf params)) ∧
      (lp.pageMeta.hasNextPage = true →
        lp.pageMeta.nextPageToken = tokenAt s.cursorPaging (page + 1)) := by
  set L := s.listing contentType params
  set S := pageSizeOf params
  have hS : 0 < S := pageSizeOf_pos params
  have hP : page ≤ max 1 (pageCount L.length S) := hle
  -- the page lies within the listing, whose length fits a word
  have hpage : page ≤ u32Max :=
    le_trans hP (max_le (by decide) (le_trans (pageCount_le _ hS) hsize))
  have hoffset : (page - 1) * S ≤ u32Max := by
    rcases Nat.eq_or_lt_of_le hpos with h | h
    · rw [← h, Nat.sub_self, Nat.zero_mul]
      exact Nat.zero_le _
    · have hprev : page - 1 < pageCount L.length S := by
        rcases le_max_iff.1 hP with h' | h' <;> omega
      exact le_trans (Nat.le_of_lt ((lt_pageCount_iff hS _ _).1 hprev)) hsize
  obtain ⟨lp, hwin⟩ := exists_pageWindow_eq_ok L s.cursorPaging hoffset
  obtain ⟨hrecords, -, hnext, htoken⟩ := pageWindow_eq_ok hwin
  refine ⟨lp, ?_, hrecords, hnext, fun hmore => ?_⟩
  · have hpaging :
        ∀ kv ∈ [pagePair page (tokenAt s.cursorPaging page)], kv.1 ∈ pagingKeys := by
      intro kv hkv
      cases htok : tokenAt s.cursorPaging page <;> simp_all [pagePair, pagingKeys]
    have h := @yields_listContent corpusId contentType _ page lp (s.record more)
      (pageOf_spool params hpos hpage s.cursorPaging) (by
        rw [listing_record, listing_append_paging _ _ _ hpaging, listing_searchPairs,
          pageSizeOf_spool, cursorPaging_record]
        exact hwin)
    rwa [record_record] at h
  · rw [htoken, ← hnext, hmore]
    simp [tokenAt, Nat.lt_add_of_pos_left hpos]

/-- The loop of a spool, from a page of the listing with the records of the pages before it:
it asks for the pages that are left, while the budget lasts, and returns the whole listing when
the last page is among them.

**Proof sketch.** Induction on the budget.  Each page is the slice at its place
(`yields_spoolPage`), so the records gathered are the listing up to the end of the page; a page
with a next one hands out the cursor for it, and the last page ends the loop with the whole
listing. -/
theorem yields_pagesFrom (hsize : (s.listing contentType params).length ≤ u32Max) :
    ∀ (budget page : Nat) (more : List Call), 1 ≤ page →
      page ≤ s.spoolPages contentType params →
      Proc.Yields (pagesFrom (listContent corpusId contentType) contentType (searchPairs params) cap
          budget page (tokenAt s.cursorPaging page)
          ((s.listing contentType params).take ((page - 1) * pageSizeOf params))) (s.record more)
        (if s.spoolPages contentType params < page + budget then .ok (s.listing contentType params)
          else .error (tooManyPages contentType cap))
        (s.record (more ++
          (List.range (min (s.spoolPages contentType params + 1 - page) budget)).map
            fun i => spoolCall corpusId contentType params s.cursorPaging (page + i))) := by
  set L := s.listing contentType params
  set S := pageSizeOf params
  set P := s.spoolPages contentType params
  have hS : 0 < S := pageSizeOf_pos params
  intro budget
  induction budget with
  | zero =>
    intro page more _ hle
    rw [if_neg (by omega), Nat.min_zero, List.range_zero, List.map_nil, List.append_nil]
    exact Proc.yields_pure _ _
  | succ budget ih =>
    intro page more hpos hle
    obtain ⟨lp, hyield, hrecords, hnext, htoken⟩ :=
      @yields_spoolPage _ corpusId _ _ hsize _ hpos hle more
    change lp.records = (L.drop ((page - 1) * S)).take S at hrecords
    change lp.pageMeta.hasNextPage = decide (page < pageCount L.length S) at hnext
    -- the records gathered so far, and this page's, are the listing up to the end of this page
    have hacc : L.take ((page - 1) * S) ++ lp.records = L.take (page * S) := by
      rw [hrecords, ← List.take_add]
      congr 1
      rcases page with _ | page
      · omega
      · simp [Nat.succ_mul]
    simp only [pagesFrom]
    refine hyield.bind ?_
    dsimp only
    rw [hacc]
    by_cases hmore : page < pageCount L.length S
    · -- another page: the spool asks for it with the cursor handed out
      have hnext' : lp.pageMeta.hasNextPage = true := by rw [hnext, decide_eq_true hmore]
      have hle' : page + 1 ≤ P := le_trans hmore (le_max_right _ _)
      have h := ih (page + 1) (more ++ [spoolCall corpusId contentType params s.cursorPaging page])
        (by omega) hle'
      rw [Nat.add_sub_cancel, ← htoken hnext',
        show page + 1 + budget = page + (budget + 1) by omega,
        List.append_assoc, List.singleton_append, ← map_range_succ_add,
        show min (P + 1 - (page + 1)) budget + 1 = min (P + 1 - page) (budget + 1) by omega] at h
      simpa [hnext'] using h
    · -- the last page: the whole listing is read
      have hnext' : lp.pageMeta.hasNextPage = false := by rw [hnext, decide_eq_false hmore]
      have hlast : P = page := le_antisymm (max_le hpos (Nat.le_of_not_lt hmore)) hle
      have hall : L.take (page * S) = L :=
        List.take_of_length_le (Nat.le_of_not_lt fun h => hmore ((lt_pageCount_iff hS _ _).2 h))
      rw [hnext', hall, if_pos (show P < page + (budget + 1) by omega),
        show min (P + 1 - page) (budget + 1) = 1 by omega]
      simpa using Proc.yields_pure _ _

end Loop

/-- Spooling a listing over the in-memory server, run alone: it returns the whole listing, in
the server's order and each record once, exactly when the listing's pages (at least one) fit
the cap, and otherwise fails with `InvalidInput`; either way it asks for pages `1, 2, …` in
order, as many as the listing has or the cap allows, whichever is fewer, and makes no other
request.  The caller's own page and cursor are ignored, and the listing must fit the server's
32-bit page arithmetic. -/
theorem spool_yields_listing_within_cap (s : Server) (corpusId contentType : String)
    (params : QueryPairs) (cap : Nat) (hsize : (s.listing contentType params).length ≤ u32Max) :
    Proc.Yields (spool corpusId contentType params cap) s
      (if s.spoolPages contentType params ≤ cap then .ok (s.listing contentType params)
        else .error (tooManyPages contentType cap))
      (s.record ((List.range (min (s.spoolPages contentType params) cap)).map fun i =>
        spoolCall corpusId contentType params s.cursorPaging (i + 1))) := by
  have h := @yields_pagesFrom s corpusId contentType params cap hsize cap 1 [] le_rfl
    (le_max_left _ _)
  have htok : tokenAt s.cursorPaging 1 = none := by simp [tokenAt]
  rw [htok, Nat.sub_self, Nat.zero_mul, List.take_zero, record_nil, List.nil_append,
    Nat.add_sub_cancel] at h
  have hcap :
      s.spoolPages contentType params < 1 + cap ↔ s.spoolPages contentType params ≤ cap := by
    omega
  simp only [hcap] at h
  simp only [Nat.add_comm 1] at h
  exact h

/-- A server holding two books, handing out cursors. -/
def twoBooksByCursor : Server :=
  { records := [("Book", [("b1", { id := "b1" }), ("b2", { id := "b2" })])], cursorPaging := true }

/-- Two books spooled a page at a time under a cap of three pages: both pages are read, the
second by the cursor the first hands out, and the spool returns the two books. -/
theorem spool_two_books_by_cursor :
    (twoBooksByCursor.listing "Book" [("page-size", "1")]).length ≤ u32Max ∧
      (twoBooksByCursor.listing "Book" [("page-size", "1")]).map (·.id) = ["b1", "b2"] ∧
      Proc.Yields (spool "42" "Book" [("page-size", "1")] 3) twoBooksByCursor
        (.ok (twoBooksByCursor.listing "Book" [("page-size", "1")]))
        (twoBooksByCursor.record
          [⟨"list_content", "42/Book", [("page-size", "1"), ("page", "1")]⟩,
            ⟨"list_content", "42/Book", [("page-size", "1"), ("page-token", "tok-2")]⟩]) := by
  have hsize : (twoBooksByCursor.listing "Book" [("page-size", "1")]).length ≤ u32Max := by
    decide +kernel
  have hpages : twoBooksByCursor.spoolPages "Book" [("page-size", "1")] = 2 := by decide +kernel
  have h :=
    spool_yields_listing_within_cap twoBooksByCursor "42" "Book" [("page-size", "1")] 3 hsize
  have hcalls : (List.range (min 2 3)).map (fun i =>
      spoolCall "42" "Book" [("page-size", "1")] twoBooksByCursor.cursorPaging (i + 1)) =
      [⟨"list_content", "42/Book", [("page-size", "1"), ("page", "1")]⟩,
        ⟨"list_content", "42/Book", [("page-size", "1"), ("page-token", "tok-2")]⟩] := rfl
  rw [hpages, if_pos (show 2 ≤ 3 by decide), hcalls] at h
  exact ⟨hsize, by decide +kernel, h⟩

end Server

end CorpusBench
