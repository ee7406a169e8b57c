import Mathlib.Data.List.Perm.Subperm
import Mathlib.Data.List.Sort
import Mathlib.Tactic.IntervalCases
import CorpusBench.Server.Api
import CorpusBench.Proofs.Data.StrMap

/-!
# How the server pages a listing

A list request is the search's pairs followed by the paging pairs: `page` or `page-token`, then
`page-size`.  The paging pairs are looked at by no filter, view or sort, so the records a request
lists are those of its search alone (`Server.listing_append_paging`), and a page is the slice of
that one list at the requested page and size (`Server.pageWindow_eq_ok`).  A page number or size
the client writes in decimal is read back as it was written (`readWord_toString`), so the server
pages exactly as asked.

The listing keeps a record's id once when the type stores it once (`Server.listing_ids_nodup`).
Logging a request, deleting a view the search does not name, and deleting records all leave
what a listing can be: the first two change no listing, the last keeps each remaining id once.

## Main results

* `readWord_toString` — a numeral written in decimal reads back.
* `Server.listing_append_paging` — paging pairs list nothing else.
* `Server.pageOf_paging`, `Server.pageSizeOf_paging` — the page and size
  a request's paging pairs ask for.
* `Server.pageWindow_eq_ok` — a page is a slice of the listing.
-/

namespace CorpusBench

/-! ### Decimal numerals -/

lemma digitChar_toNat {d : Nat} (hd : d < 10) : (Nat.digitChar d).toNat = 48 + d := by
  interval_cases d <;> rfl

/-- Reading the decimal digits of `n` from the left gives `n` back.

**Proof sketch.** Strong induction on `n`: the digits of `n` are those of `n / 10` followed by
the digit of `n % 10`. -/
lemma foldl_toDigits (n : Nat) :
    (Nat.toDigits 10 n).foldl (fun acc c => acc * 10 + (c.toNat - 48)) 0 = n := by
  induction n using Nat.strong_induction_on with
  | _ n ih =>
    rcases Nat.lt_or_ge n 10 with hn | hn
    · rw [Nat.toDigits_of_lt_base hn]
      simp [digitChar_toNat hn]
    · have hlast : n % 10 < 10 := Nat.mod_lt n (by norm_num)
      have hsplit := Nat.toDigits_append_toDigits (b := 10) (by norm_num)
        (Nat.div_pos hn (by norm_num)) hlast
      rw [Nat.div_add_mod] at hsplit
      rw [← hsplit, List.foldl_append, ih (n / 10) (Nat.div_lt_self (by omega) (by norm_num)),
        Nat.toDigits_of_lt_base hlast]
      simp [digitChar_toNat hlast]
      omega

/-- A number written in decimal reads back as itself when it fits the width, and not at all
when it does not. -/
lemma readWord_toString (w : Width) (n : Nat) :
    readWord? w (toString n) = if n ≤ w.max then some n else none := by
  have hdig : ∀ c ∈ Nat.toDigits 10 n, c.isDigit = true := fun c hc =>
    Nat.isDigit_of_mem_toDigits (by norm_num) (by norm_num) hc
  unfold readWord?
  simp only [Nat.toString_eq_repr, Nat.repr_eq_ofList_toDigits, String.toList_ofList]
  split
  · -- a sign would be a digit
    next rest heq => exact absurd (hdig '+' (by simp [heq])) (by decide)
  · simp [Nat.toDigits_ne_nil, List.all_eq_true.2 hdig, foldl_toDigits]

lemma readWord32_toString (n : Nat) :
    readWord32? (toString n) = if n ≤ u32Max then some n else none :=
  readWord_toString .u32 n

namespace Server

/-! ### Looking up a pair -/

lemma param?_eq_lookup (params : QueryPairs) (key : String) :
    param? params key = StrMap.lookup key params := by
  induction params with
  | nil => rfl
  | cons p ps ih =>
    obtain ⟨k, v⟩ := p
    unfold param? at ih ⊢
    by_cases h : key = k
    · subst h
      simp [StrMap.lookup]
    · have h' : (k == key) = false := beq_false_of_ne (Ne.symm h)
      rw [List.find?_cons, h', ih]
      simp [StrMap.lookup, h]

lemma param?_append_of_not_mem {ps es : QueryPairs} {key : String} (hes : key ∉ es.map Prod.fst) :
    param? (ps ++ es) key = param? ps key := by
  have hnone : es.find? (·.1 == key) = none := by
    rw [List.find?_eq_none]
    intro kv hkv heq
    exact hes (List.mem_map.2 ⟨kv, hkv, by simpa using heq⟩)
  simp [param?, List.find?_append, hnone]

/-! ### Paging pairs -/

/-- The keys of the pairs that page a list request. -/
def pagingKeys : List String := ["page-token", "page", "page-size"]

lemma not_startsWith_of_paging {k : String} (hk : k ∈ pagingKeys) :
    k.startsWith "f_" = false ∧ k.startsWith "s_" = false ∧ k ≠ "q" ∧ k ≠ "content_view" := by
  simp only [pagingKeys, List.mem_cons, List.not_mem_nil, or_false] at hk
  rcases hk with rfl | rfl | rfl <;> decide +kernel

/-- Paging pairs pass every filter of a listing: they are neither a query nor a field. -/
lemma recordMatches_append_paging (r : ContentRecord) (ps : QueryPairs) {es : QueryPairs}
    (hes : ∀ kv ∈ es, kv.1 ∈ pagingKeys) :
    recordMatches r (ps ++ es) = recordMatches r ps := by
  have hpass : recordMatches r es = true := by
    unfold recordMatches
    rw [List.all_eq_true]
    rintro ⟨k, v⟩ hkv
    obtain ⟨hf, -, hq, -⟩ := not_startsWith_of_paging (hes _ hkv)
    simp [hq, hf]
  unfold recordMatches at hpass ⊢
  rw [List.all_append, hpass, Bool.and_true]

/-- The records a request lists are those of its search: the paging pairs after it change
nothing.

**Proof sketch.** The paging pairs pass every filter (`recordMatches_append_paging`), and
neither the view nor the sort looked for can be among them. -/
theorem listing_append_paging (s : Server) (contentType : String) (ps : QueryPairs)
    {es : QueryPairs} (hes : ∀ kv ∈ es, kv.1 ∈ pagingKeys) :
    s.listing contentType (ps ++ es) = s.listing contentType ps := by
  have hview : param? (ps ++ es) "content_view" = param? ps "content_view" := by
    refine param?_append_of_not_mem fun hmem => ?_
    obtain ⟨kv, hkv, hk⟩ := List.mem_map.1 hmem
    exact (not_startsWith_of_paging (hes kv hkv)).2.2.2 hk
  have hsort : (ps ++ es).find? (·.1.startsWith "s_") = ps.find? (·.1.startsWith "s_") := by
    have hnone : es.find? (·.1.startsWith "s_") = none := by
      rw [List.find?_eq_none]
      intro kv hkv
      simp [(not_startsWith_of_paging (hes kv hkv)).2.1]
    simp [List.find?_append, hnone]
  unfold listing
  simp only [recordMatches_append_paging _ ps hes, hview, hsort]

lemma param?_append_of_not_mem_left {ps es : QueryPairs} {key : String}
    (hps : key ∉ ps.map Prod.fst) : param? (ps ++ es) key = param? es key := by
  have hnone : ps.find? (·.1 == key) = none := by
    rw [List.find?_eq_none]
    intro kv hkv heq
    exact hps (List.mem_map.2 ⟨kv, hkv, by simpa using heq⟩)
  simp [param?, List.find?_append, hnone]

variable {ps : QueryPairs} (hps : ∀ k ∈ pagingKeys, k ∉ ps.map Prod.fst)
include hps

/-- The page that paging pairs ask for by number, and the error for a number too large for a
word. -/
lemma pageOf_page (n size : Nat) :
    pageOf (ps ++ [("page", toString n), ("page-size", toString size)]) =
      if n ≤ u32Max then .ok (max n 1) else .error (.validation ("bad page " ++ toString n)) := by
  have htoken : param? (ps ++ [("page", toString n), ("page-size", toString size)]) "page-token"
      = none := by
    rw [param?_append_of_not_mem_left (hps _ (by simp [pagingKeys]))]
    simp [param?]
  have hpage : param? (ps ++ [("page", toString n), ("page-size", toString size)]) "page"
      = some (toString n) := by
    rw [param?_append_of_not_mem_left (hps _ (by simp [pagingKeys]))]
    simp [param?]
  unfold pageOf
  rw [htoken, hpage]
  dsimp only
  rw [readWord32_toString]
  by_cases hn : n ≤ u32Max <;> simp [hn]

/-- The page that paging pairs ask for by a cursor the server hands out, and the error for a
number too large for a word. -/
lemma pageOf_token (n size : Nat) :
    pageOf (ps ++ [("page-token", "tok-" ++ toString n), ("page-size", toString size)]) =
      if n ≤ u32Max then .ok (max n 1)
      else .error (.validation ("bad page token " ++ ("tok-" ++ toString n))) := by
  have htoken : param? (ps ++ [("page-token", "tok-" ++ toString n), ("page-size", toString size)])
      "page-token" = some ("tok-" ++ toString n) := by
    rw [param?_append_of_not_mem_left (hps _ (by simp [pagingKeys]))]
    simp [param?]
  have hprefix : ("tok-" ++ toString n).startsWith "tok-" = true := by
    rw [String.startsWith_string_iff, String.toList_append]
    exact List.prefix_append _ _
  have hdigits : String.ofList (("tok-" ++ toString n).toList.drop 4) = toString n := by
    rw [String.toList_append, List.drop_append_of_le_length (by decide), List.drop_of_length_le
      (by decide), List.nil_append, String.ofList_toList]
  unfold pageOf
  rw [htoken]
  dsimp only
  rw [if_pos hprefix, hdigits, readWord32_toString]
  by_cases hn : n ≤ u32Max <;> simp [hn]

/-- The page size that paging pairs ask for. -/
lemma pageSizeOf_paging {key value : String} (hkey : key ≠ "page-size") {size : Nat}
    (hsize : size ≤ u32Max) :
    pageSizeOf (ps ++ [(key, value), ("page-size", toString size)]) = max size 1 := by
  have hpair : param? (ps ++ [(key, value), ("page-size", toString size)]) "page-size" =
      some (toString size) := by
    rw [param?_append_of_not_mem_left (hps _ (by simp [pagingKeys]))]
    simp [param?, hkey]
  unfold pageSizeOf
  rw [hpair, Option.bind_some, readWord32_toString, if_pos hsize]
  rfl

omit hps

/-! ### Pages -/

/-- A page lies before the last one exactly when the records run past its end. -/
lemma lt_pageCount_iff {size : Nat} (hsize : 0 < size) (page total : Nat) :
    page < pageCount total size ↔ page * size < total := by
  unfold pageCount
  rw [← Nat.add_one_le_iff, Nat.le_div_iff_mul_le hsize, Nat.add_mul, one_mul]
  omega

/-- A page that the offset arithmetic lets through is the slice of the listing at its place,
and it has a next page exactly when the listing runs past its end; with cursor paging the next
page's cursor names its number. -/
theorem pageWindow_eq_ok {found : List ContentRecord} {page size : Nat} {cursor : Bool}
    {lp : ListPage} (h : pageWindow found page size cursor = .ok lp) :
    lp.records = (found.drop ((page - 1) * size)).take size ∧ lp.pageMeta.page = page ∧
      lp.pageMeta.hasNextPage = decide (page < pageCount found.length size) ∧
      lp.pageMeta.nextPageToken =
        if cursor && decide (page < pageCount found.length size) then
          some ("tok-" ++ toString (page + 1))
        else none := by
  unfold pageWindow mulWord at h
  split at h
  · cases h
    exact ⟨rfl, rfl, rfl, rfl⟩
  · cases h

/-- A page has a next one exactly when the listing runs past its end. -/
lemma hasNextPage_pageWindow {found : List ContentRecord} {page size : Nat} {cursor : Bool}
    {lp : ListPage} (h : pageWindow found page size cursor = .ok lp) (hsize : 0 < size) :
    lp.pageMeta.hasNextPage = true ↔ page * size < found.length := by
  rw [(pageWindow_eq_ok h).2.2.1, decide_eq_true_iff, lt_pageCount_iff hsize]

/-- A page whose offset fits a word is served. -/
lemma exists_pageWindow_eq_ok (found : List ContentRecord) {page size : Nat} (cursor : Bool)
    (h : (page - 1) * size ≤ u32Max) : ∃ lp, pageWindow found page size cursor = .ok lp := by
  unfold pageWindow mulWord
  rw [if_pos h]
  exact ⟨_, rfl⟩

/-! ### What a listing is made of -/

/-- A listing is some of the records of the type, in some order. -/
lemma listing_subperm (s : Server) (contentType : String) (params : QueryPairs) :
    (s.listing contentType params).Subperm (s.recordsOf contentType) := by
  unfold listing
  dsimp only
  -- a sort permutes the filtered records, and so does its reversal
  split
  on_goal 2 =>
    split
    on_goal 1 => refine ((List.reverse_perm _).trans (List.mergeSort_perm _ _)).subperm.trans ?_
    on_goal 2 => refine (List.mergeSort_perm _ _).subperm.trans ?_
  -- in each case what is left is the filters, which keep some of the records in order
  all_goals
    split
    · exact (List.filter_sublist.trans List.filter_sublist).subperm
    · exact List.filter_sublist.subperm

/-- A listing shows each id once when the type stores each id once. -/
theorem listing_ids_nodup {s : Server} {contentType : String}
    (h : ((s.recordsOf contentType).map (·.id)).Nodup) (params : QueryPairs) :
    ((s.listing contentType params).map (·.id)).Nodup := by
  obtain ⟨l, hperm, hsub⟩ := listing_subperm s contentType params
  exact (hperm.map _).nodup_iff.1 ((hsub.map _).nodup h)

/-- Deleting a view that the request does not name lists the same records. -/
lemma listing_eraseView {s : Server} {viewId : String} {params : QueryPairs}
    (h : param? params "content_view" ≠ some viewId) (contentType : String) :
    { s with views := s.views.erase viewId }.listing contentType params =
      s.listing contentType params := by
  have hview : (param? params "content_view").bind ((s.views.erase viewId).lookup ·) =
      (param? params "content_view").bind (s.views.lookup ·) := by
    cases hv : param? params "content_view" with
    | none => rfl
    | some v =>
      have hne : v ≠ viewId := fun heq => h (by rw [hv, heq])
      simp [StrMap.lookup_erase_of_ne hne]
  unfold listing recordsOf
  simp only [hview]

/-- Deleting records of a type keeps some of them, in order. -/
lemma recordsOf_deleteSelection (s : Server) (contentType : String) (sel : ContentSelection) :
    ((deleteSelection s contentType sel).recordsOf contentType).Sublist (s.recordsOf contentType) := by
  have hkeep : ∀ f : StrMap ContentRecord → StrMap ContentRecord, (∀ m, (f m).Sublist m) →
      ((s.modifyRecords contentType f).recordsOf contentType).Sublist (s.recordsOf contentType) := by
    intro f hf
    unfold modifyRecords recordsOf
    rw [StrMap.lookup_modify, if_pos rfl]
    cases s.records.lookup contentType with
    | none => exact List.Sublist.refl _
    | some m => exact (hf m).map _
  cases sel with
  | all => exact hkeep _ fun m => List.nil_sublist m
  | ids xs =>
    refine hkeep _ fun m => ?_
    induction xs generalizing m with
    | nil => exact List.Sublist.refl _
    | cons x xs ih => exact (ih _).trans (StrMap.erase_sublist x m)

end Server

end CorpusBench
