import CorpusBench.Proofs.Server.Listing
import CorpusBench.Table.Engine

/-!
# Paging a table through a listing

A table loads the records its search matches, `L`, page by page.  Before it accelerates, a page
starts exactly where the rows end and every record of it is shown; after, the page size has
grown and a page starts at or before the end of the rows, so it overlaps them, and the records
already shown are dropped.  Either way the rows stay a prefix of `L`, with no gap and no record
twice, when the records of `L` have distinct ids (`ContentTable.Follows.applyPage`).

`ContentTable.Follows L t` is the invariant: the rows are a prefix of `L` and their ids are the
set of shown ids; the page size is a positive 32-bit word; the next page `t.next` continues the
rows (`ContentTable.Continues`); and once a page has loaded with no next one, the rows are all
of `L`.

The search side: a table sends its search's pairs and then the paging pairs.  When the
search's parameters are all field parameters (`SearchState.FieldKeyed`), no search pair is a
paging pair, so the server lists the records of the search alone and reads the page and size
the table asked for (`SearchState.pageOf_pointAt`, `SearchState.pageSizeOf_pointAt`).

## Main definitions

* `SearchState.FieldKeyed` — every parameter key starts with a search type's prefix.
* `PageRequest.Asks` — a request asks for page `m`, by number or by cursor.
* `ContentTable.Continues`, `ContentTable.Follows`.

## Main results

* `ContentTable.rows_addRows_of_accelerated` — after acceleration a page adds only
  the records not shown yet.
* `ContentTable.applyPage_eq_ok` — what taking in a page can do.
* `ContentTable.Follows.applyPage` — a page that continues the rows keeps the
  invariant.
-/

namespace CorpusBench

/-! ### The search a table sends -/

namespace SearchState

/-- Every parameter key starts with the prefix of a search type, as `f_author` does. -/
def FieldKeyed (s : SearchState) : Prop :=
  ∀ k ∈ s.params.keys, ∃ ty : SearchType, ty.keyPrefix.toList <+: k.toList

/-- A search whose parameters are those of another, or new field parameters, is field-keyed
when the other is. -/
lemma FieldKeyed.of_params {s s' : SearchState} (h : s.FieldKeyed)
    (hs' : ∀ k ∈ s'.params.keys, k ∈ s.params.keys ∨ ∃ ty : SearchType, ty.keyPrefix.toList <+: k.toList) :
    s'.FieldKeyed := fun k hk => (hs' k hk).elim (h k) id

/-- The keys the server reads for paging and for the view are none of the search type
prefixes' keys. -/
lemma FieldKeyed.not_mem {s : SearchState} (h : s.FieldKeyed) {k : String}
    (hk : k ∈ Server.pagingKeys ∨ k = "content_view") : k ∉ s.params.keys := by
  intro hmem
  obtain ⟨ty, hty⟩ := h k hmem
  simp only [Server.pagingKeys, List.mem_cons, List.not_mem_nil, or_false] at hk
  rcases hk with (rfl | rfl | rfl) | rfl <;> cases ty <;> revert hty <;> decide +kernel

/-- A key that is neither a parameter, the query, a sort nor the view is not a search pair. -/
lemma not_mem_keys_searchParams {s : SearchState} {k : String} (hk : k ∉ s.params.keys)
    (hq : k ≠ "q") (hs : ∀ f, k ≠ "s_" ++ f) (hv : k ≠ "content_view") :
    k ∉ s.searchParams.keys := by
  unfold searchParams
  rcases s.query with _ | q <;> rcases s.sort with _ | ⟨f, d⟩ <;> rcases s.contentView with _ | v <;>
    simp [StrMap.mem_keys_insert, hk, hq, hs, hv]

/-- The sort key of a field starts with `s`, so no key starting otherwise is one. -/
lemma ne_sortKey {k : String} (hk : k.toList.head? ≠ some 's') (f : String) : k ≠ "s_" ++ f := by
  rintro rfl
  simp at hk

/-- No pair of a field-keyed search is a paging pair. -/
lemma FieldKeyed.paging_not_mem {s : SearchState} (h : s.FieldKeyed) :
    ∀ k ∈ Server.pagingKeys, k ∉ s.searchParams.map Prod.fst := by
  intro k hk
  have hparam := h.not_mem (.inl hk)
  simp only [Server.pagingKeys, List.mem_cons, List.not_mem_nil, or_false] at hk
  rcases hk with rfl | rfl | rfl <;>
    exact not_mem_keys_searchParams hparam (by decide) (ne_sortKey (by decide +kernel))
      (by decide)

/-- The view a field-keyed search asks the server for is its own. -/
lemma FieldKeyed.param?_contentView {s : SearchState} (h : s.FieldKeyed) :
    Server.param? s.searchParams "content_view" = s.contentView := by
  rw [Server.param?_eq_lookup]
  unfold searchParams
  cases hv : s.contentView with
  | some v => exact StrMap.lookup_insert_self _ _ _
  | none =>
    have hparam := h.not_mem (.inr rfl)
    rw [StrMap.lookup_eq_none_iff]
    rcases s.query with _ | q <;> rcases s.sort with _ | ⟨f, d⟩ <;>
      simp [StrMap.mem_keys_insert, hparam, ne_sortKey (k := "content_view") (by decide +kernel)]

/-! ### Changes of the search keep its parameters field parameters -/

@[simp] lemma params_setQuery (s : SearchState) (q : String) : (s.setQuery q).params = s.params := by
  simp only [SearchState.setQuery, resetPage]

@[simp] lemma params_setContentView (s : SearchState) (v : Option String) :
    (s.setContentView v).params = s.params := rfl

@[simp] lemma params_orderBy (s : SearchState) (field : String) :
    (s.orderBy field).1.params = s.params := rfl

lemma FieldKeyed.setQuery {s : SearchState} (h : s.FieldKeyed) (q : String) :
    (s.setQuery q).FieldKeyed :=
  h.of_params fun k hk => .inl (by simpa using hk)

lemma FieldKeyed.setContentView {s : SearchState} (h : s.FieldKeyed) (v : Option String) :
    (s.setContentView v).FieldKeyed :=
  h.of_params fun k hk => .inl (by simpa using hk)

lemma FieldKeyed.orderBy {s : SearchState} (h : s.FieldKeyed) (field : String) :
    (s.orderBy field).1.FieldKeyed :=
  h.of_params fun k hk => .inl (by simpa using hk)

/-- Setting a field parameter writes a key that starts with its type's prefix. -/
lemma FieldKeyed.setParam {s : SearchState} (h : s.FieldKeyed) (ty : SearchType)
    (field value : String) : (s.setParam ty field value).FieldKeyed := by
  refine h.of_params fun k hk => ?_
  unfold SearchState.setParam resetPage at hk
  dsimp only at hk
  split at hk
  · exact .inl ((StrMap.keys_erase_sublist _ _).subset hk)
  · rcases (StrMap.mem_keys_insert _ _ _ _).1 hk with rfl | hk
    · exact .inr ⟨ty, by rw [String.toList_append]; exact List.prefix_append _ _⟩
    · exact .inl hk

/-- Removing a parameter only removes keys. -/
lemma FieldKeyed.removeParam {s : SearchState} (h : s.FieldKeyed) (key : String) :
    (s.removeParam key).1.FieldKeyed := by
  refine h.of_params fun k hk => .inl ?_
  unfold SearchState.removeParam resetPage at hk
  dsimp only at hk
  split at hk
  · exact hk
  · split at hk
    · exact hk
    · split at hk
      · split at hk
        · split at hk
          · exact hk
          · exact hk
        · exact hk
      · exact (StrMap.keys_erase_sublist _ _).subset hk

end SearchState

/-! ### Requests and their pages -/

namespace PageRequest

/-- The request asks for page `m`: by its number, or by the cursor the server hands out for it. -/
def Asks (r : PageRequest) (m : Nat) : Prop := r = .number m ∨ r = .token ("tok-" ++ toString m)

/-- The pair that points a request at its page. -/
def pagingPair : PageRequest → String × String
  | .number n => ("page", toString n)
  | .token tok => ("page-token", tok)

end PageRequest

namespace SearchState

/-- The search pointed at a requested page, as a table sends it. -/
def pointAt (s : SearchState) : PageRequest → SearchState
  | .number n => { s with page := n, pageToken := none }
  | .token tok => { s with pageToken := some tok }

@[simp] lemma searchParams_pointAt (s : SearchState) (r : PageRequest) :
    (s.pointAt r).searchParams = s.searchParams := by
  cases r <;> rfl

@[simp] lemma params_pointAt (s : SearchState) (r : PageRequest) :
    (s.pointAt r).params = s.params := by
  cases r <;> rfl

@[simp] lemma fieldKeyed_pointAt (s : SearchState) (r : PageRequest) :
    (s.pointAt r).FieldKeyed ↔ s.FieldKeyed := by
  cases r <;> rfl

@[simp] lemma pageSize_pointAt (s : SearchState) (r : PageRequest) :
    (s.pointAt r).pageSize = s.pageSize := by
  cases r <;> rfl

lemma toPairs_pointAt (s : SearchState) (r : PageRequest) :
    (s.pointAt r).toPairs =
      s.searchParams ++ [r.pagingPair, ("page-size", toString s.pageSize)] := by
  unfold toPairs
  rw [searchParams_pointAt, pageSize_pointAt, List.append_assoc]
  cases r <;> rfl

/-- The server lists the records of the search a table sends, whatever page it points at. -/
lemma listing_pointAt (s : SearchState) (r : PageRequest) (srv : Server)
    (contentType : String) :
    srv.listing contentType (s.pointAt r).toPairs = srv.listing contentType s.searchParams := by
  rw [toPairs_pointAt]
  refine Server.listing_append_paging srv contentType _ fun kv hkv => ?_
  simp only [List.mem_cons, List.not_mem_nil, or_false] at hkv
  rcases hkv with rfl | rfl
  · cases r <;> simp [PageRequest.pagingPair, Server.pagingKeys]
  · simp [Server.pagingKeys]

/-- The server reads the page size a table sends. -/
lemma pageSizeOf_pointAt {s : SearchState} (h : s.FieldKeyed) (r : PageRequest)
    (hsize : s.pageSize ≤ u32Max) :
    Server.pageSizeOf (s.pointAt r).toPairs = max s.pageSize 1 := by
  rw [toPairs_pointAt]
  cases r <;> exact Server.pageSizeOf_paging h.paging_not_mem (by decide) hsize


/-- The server reads a request for page `m` as page `m`, or refuses it. -/
lemma pageOf_pointAt {s : SearchState} (h : s.FieldKeyed) {r : PageRequest} {m : Nat}
    (hr : r.Asks m) (hm : 0 < m) {page : Nat}
    (hpage : Server.pageOf (s.pointAt r).toPairs = .ok page) : page = m := by
  rw [toPairs_pointAt] at hpage
  rcases hr with rfl | rfl
  · rw [PageRequest.pagingPair, Server.pageOf_page h.paging_not_mem] at hpage
    split at hpage
    · cases hpage
      omega
    · cases hpage
  · rw [PageRequest.pagingPair, Server.pageOf_token h.paging_not_mem] at hpage
    split at hpage
    · cases hpage
      omega
    · cases hpage

end SearchState

/-! ### Taking in records -/

namespace ContentTable

variable {t : ContentTable}

lemma takeQueued_nil (h : t.queue = []) : t.takeQueued = none := by
  simp [takeQueued, h]

/-- The first queued page is sent with the search pointed at it. -/
lemma takeQueued_cons {r : PageRequest} {rest : List PageRequest} (h : t.queue = r :: rest) :
    t.takeQueued = some (r, (t.search.pointAt r).toPairs, t.generation,
      { t with queue := rest, search := t.search.pointAt r }) := by
  cases r <;> simp [takeQueued, h, SearchState.pointAt]

/-- One record taken in: its id is noted, and it is shown unless the table has accelerated and
shows it already. -/
lemma addRows_cons (t : ContentTable) (r : ContentRecord) (rs : List ContentRecord) :
    t.addRows (r :: rs) =
      (if !t.rowIds.contains r.id || !t.accelerated then
        { t with rowIds := t.rowIds.insert r.id, rows := t.rows ++ [r] }
      else { t with rowIds := t.rowIds.insert r.id }).addRows rs := rfl

/-- Taking in records changes the rows and the shown ids, nothing else. -/
lemma addRows_eq (t : ContentTable) (rs : List ContentRecord) :
    t.addRows rs = { t with rows := (t.addRows rs).rows, rowIds := (t.addRows rs).rowIds } := by
  induction rs generalizing t with
  | nil => rfl
  | cons r rs ih =>
    rw [addRows_cons]
    split <;> rw [ih]

/-- Before the table accelerates every record is shown. -/
lemma rows_addRows_of_not_accelerated (h : t.accelerated = false) (rs : List ContentRecord) :
    (t.addRows rs).rows = t.rows ++ rs := by
  induction rs generalizing t with
  | nil => simp [addRows]
  | cons r rs ih =>
    rw [addRows_cons, if_pos (by simp [h])]
    refine (ih ?_).trans ?_
    · exact h
    · simp

/-- After the table accelerates a record is shown only when its id is not shown yet; the ids
of the records taken in being distinct, that is when it is not among the rows' ids before. -/
theorem rows_addRows_of_accelerated (h : t.accelerated = true) {rs : List ContentRecord}
    (hrs : (rs.map (·.id)).Nodup) :
    (t.addRows rs).rows = t.rows ++ rs.filter (fun r => !t.rowIds.contains r.id) := by
  induction rs generalizing t with
  | nil => simp [addRows]
  | cons r rs ih =>
    obtain ⟨hr, hrs⟩ := List.nodup_cons.1 hrs
    -- the ids of the rest are not the new one, so noting it changes no later test
    have hrest : ∀ r' ∈ rs, (t.rowIds.insert r.id).contains r'.id = t.rowIds.contains r'.id := by
      intro r' hr'
      have hne : r'.id ≠ r.id := fun heq => hr (by simpa [heq] using List.mem_map_of_mem (f := (·.id)) hr')
      rw [Bool.eq_iff_iff, StrSet.contains_iff, StrSet.contains_iff, StrSet.mem_insert]
      simp [hne]
    rw [addRows_cons]
    split
    · next hfresh =>
      have hnew : t.rowIds.contains r.id = false := by simpa [h] using hfresh
      refine (ih ?_ hrs).trans ?_
      · exact h
      · rw [List.filter_congr fun r' hr' => by rw [hrest r' hr']]
        simp [hnew]
    · next hold =>
      have hseen : t.rowIds.contains r.id = true := by simpa [h] using hold
      refine (ih ?_ hrs).trans ?_
      · exact h
      · rw [List.filter_congr fun r' hr' => by rw [hrest r' hr']]
        simp [hseen]

/-- Taking in records keeps the noted ids the ids of the rows. -/
lemma rowIds_addRows (h : ∀ i, i ∈ t.rowIds ↔ i ∈ t.rows.map (·.id)) (rs : List ContentRecord) :
    ∀ i, i ∈ (t.addRows rs).rowIds ↔ i ∈ (t.addRows rs).rows.map (·.id) := by
  induction rs generalizing t with
  | nil => exact h
  | cons r rs ih =>
    rw [addRows_cons]
    split
    · refine ih fun i => ?_
      simp [StrSet.mem_insert, h, or_comm]
    · next hold =>
      have hseen : r.id ∈ t.rowIds := by
        have hboth : t.rowIds.contains r.id = true ∧ t.accelerated = true := by simpa using hold
        exact (StrSet.contains_iff _ _).1 hboth.1
      refine ih fun i => ?_
      rw [StrSet.mem_insert, ← h]
      constructor
      · rintro (rfl | hi)
        · exact hseen
        · exact hi
      · exact .inr

/-! ### Taking in a page -/

/-- The page after one taken in without accelerating: none on the last page, else the cursor
the server gave, else the next number. -/
lemma followingPage_eq_ok {m : PageMeta} {next : Option PageRequest}
    (h : followingPage m = .ok next) :
    (m.hasNextPage = false ∧ next = none) ∨
      (m.hasNextPage = true ∧ ∃ tok, m.nextPageToken = some tok ∧ next = some (.token tok)) ∨
      (m.hasNextPage = true ∧ m.nextPageToken = none ∧ next = some (.number (m.page + 1))) := by
  unfold followingPage at h
  split at h
  · next hlast =>
    cases h
    exact .inl ⟨by simpa using hlast, rfl⟩
  · next hmore =>
    have hn : m.hasNextPage = true := by simpa using hmore
    split at h
    · next tok htok =>
      cases h
      exact .inr (.inl ⟨hn, tok, htok, rfl⟩)
    · next htok =>
      obtain ⟨k, hk, rfl⟩ := Except.map_eq_ok.1 h
      unfold addWord at hk
      split at hk
      · cases hk
        exact .inr (.inr ⟨hn, htok, rfl⟩)
      · cases hk

/-- What taking in a page can do.  The rows and shown ids become those of the records taken in,
one more page is loaded, the page taken in becomes the current one, and the search keeps all but
its page size.  Then either the table accelerates — it had not, enough pages are loaded, the page
size grows by the factor (held at the largest word), and the next page is the one at the new
size holding the first row not shown — or the next page is the one that follows the page taken
in. -/
theorem applyPage_eq_ok {cfg : TableConfig} {page : ListPage} {t' : ContentTable}
    (h : t.applyPage cfg page = .ok t') :
    t' = { t with
        rows := (t.addRows page.records).rows, rowIds := (t.addRows page.records).rowIds,
        pagesLoaded := t.pagesLoaded + 1, currentPage := page.pageMeta.page, next := t'.next,
        pageMeta := some page.pageMeta, accelerated := t'.accelerated,
        search := { t.search with pageSize := t'.search.pageSize } } ∧
      ((t.accelerated = false ∧ cfg.accelerateAfterPages ≤ t.pagesLoaded + 1 ∧
          t'.accelerated = true ∧
          t'.search.pageSize = mulWordSaturating t.search.pageSize cfg.accelerationFactor ∧
          (page.pageMeta.hasNextPage = false ∧ t'.next = none ∨
            page.pageMeta.hasNextPage = true ∧ 0 < t'.search.pageSize ∧
              t'.next = some (.number
                (min (t.addRows page.records).rows.length u32Max / t'.search.pageSize + 1)))) ∨
        (t'.accelerated = t.accelerated ∧ t'.search.pageSize = t.search.pageSize ∧
          followingPage page.pageMeta = .ok t'.next)) := by
  unfold applyPage at h
  rw [addRows_eq t page.records] at h
  simp only at h
  split at h
  · -- the table accelerates
    next hcond =>
    have hacc : t.accelerated = false ∧ cfg.accelerateAfterPages ≤ t.pagesLoaded + 1 := by
      simpa using hcond
    split at h
    · next hmore =>
      split at h
      · cases h
      · next hsize =>
        obtain ⟨next, hnext, h⟩ := Except.bind_eq_ok.1 h
        obtain ⟨k, hk, rfl⟩ := Except.map_eq_ok.1 hnext
        unfold addWord at hk
        split at hk
        · cases hk
          cases h
          exact ⟨rfl, .inl ⟨hacc.1, hacc.2, rfl, rfl, .inr ⟨hmore, Nat.pos_of_ne_zero hsize, rfl⟩⟩⟩
        · cases hk
    · next hlast =>
      cases h
      exact ⟨rfl, .inl ⟨hacc.1, hacc.2, rfl, rfl, .inl ⟨by simpa using hlast, rfl⟩⟩⟩
  · -- the next page follows the one taken in
    obtain ⟨next, hnext, h⟩ := Except.bind_eq_ok.1 h
    cases h
    exact ⟨rfl, .inr ⟨rfl, rfl, hnext⟩⟩

/-- Reaching the last row of a page either queues the next page or changes nothing. -/
lemma requestNextAt_eq (t : ContentTable) (page : Nat) :
    t.requestNextAt page = (false, t) ∨
      ∃ r, t.next = some r ∧ t.requestNextAt page =
        (true, { t with requested := t.requested.insert (r.key t.search.pageSize),
                        queue := t.queue ++ [r] }) := by
  unfold requestNextAt enqueue
  split
  · exact .inl rfl
  · split
    · next r hr =>
      dsimp only
      split
      · exact .inl rfl
      · exact .inr ⟨r, hr, rfl⟩
    · exact .inl rfl

/-! ### The paging invariant -/

/-- Page `m` at the table's page size continues its rows: it starts within them, and exactly at
their end before the table accelerates. -/
structure Continues (t : ContentTable) (m : Nat) : Prop where
  pos : 0 < m
  start_le : (m - 1) * t.search.pageSize ≤ t.rows.length
  start_eq : t.accelerated = false → (m - 1) * t.search.pageSize = t.rows.length

/-- A table follows the list `L` of the records its search matches: its rows are a prefix of
`L` whose ids are the ids it notes as shown, its page size is a positive word, its next page
continues its rows, and once a page has loaded with no next one it shows all of `L`. -/
structure Follows (L : List ContentRecord) (t : ContentTable) : Prop where
  rows_prefix : t.rows <+: L
  rowIds_iff : ∀ i, i ∈ t.rowIds ↔ i ∈ t.rows.map (·.id)
  size_pos : 0 < t.search.pageSize
  size_le : t.search.pageSize ≤ u32Max
  next_continues : ∀ r, t.next = some r → ∃ m, r.Asks m ∧ t.Continues m
  rows_eq_of_last : t.next = none → 0 < t.pagesLoaded → t.rows = L

variable {L : List ContentRecord}

/-- The records of `L` after the first `n` have ids that none of the first `n` has. -/
lemma id_not_mem_take (hids : (L.map (·.id)).Nodup) {n : Nat} {r : ContentRecord}
    (hr : r ∈ L.drop n) : r.id ∉ (L.take n).map (·.id) := by
  rw [← List.take_append_drop n L, List.map_append, List.nodup_append] at hids
  exact fun hmem => hids.2.2 _ hmem _ (List.mem_map_of_mem hr) rfl

/-- Taking in the slice of `L` from `start`, `size` records long, when the rows are the first
`n` records of `L` and the slice starts within them — exactly at their end before the table
accelerates — shows the first `max n (start + size)` records of `L`.

**Proof sketch.** Before acceleration the slice is appended whole.  After, the part of the slice
before `n` is shown already and dropped, and the part from `n` on has ids that no row has, so it
is appended whole. -/
theorem rows_addRows_slice (hf : t.Follows L) (hids : (L.map (·.id)).Nodup) {start : Nat}
    (hstart : start ≤ t.rows.length) (hexact : t.accelerated = false → start = t.rows.length)
    (size : Nat) :
    (t.addRows ((L.drop start).take size)).rows = L.take (max t.rows.length (start + size)) := by
  have hrows : t.rows = L.take t.rows.length := List.prefix_iff_eq_take.1 hf.rows_prefix
  cases hacc : t.accelerated
  · -- before acceleration the slice starts at the end of the rows and is shown whole
    have hs := hexact hacc
    rw [rows_addRows_of_not_accelerated hacc, hrows, List.length_take, ← hs,
      Nat.min_eq_left (hs ▸ hf.rows_prefix.length_le), ← List.take_add, Nat.max_eq_right (by omega)]
  · -- after, a record of the slice is shown exactly when it lies past the rows
    have hslice : (((L.drop start).take size).map (·.id)).Nodup :=
      hids.sublist (((List.take_sublist _ _).trans (List.drop_sublist _ _)).map _)
    have hshown : ∀ k, start + k ≤ t.rows.length → ∀ r ∈ (L.drop start).take k,
        t.rowIds.contains r.id = true := by
      intro k hk r hr
      rw [StrSet.contains_iff, hf.rowIds_iff, hrows, show t.rows.length = start + (t.rows.length - start) by omega,
        List.take_add]
      exact List.mem_map_of_mem (List.mem_append_right _ ((List.take_sublist_take_left (by omega)).subset hr))
    rw [rows_addRows_of_accelerated hacc hslice]
    by_cases hin : start + size ≤ t.rows.length
    · -- the whole slice is shown already
      rw [List.filter_eq_nil_iff.2 fun r hr => by simp [hshown size hin r hr], List.append_nil,
        Nat.max_eq_left hin, ← hrows]
    · -- the slice is the rows' tail from `start`, then new records
      have hsplit : (L.drop start).take size =
          (L.drop start).take (t.rows.length - start) ++ (L.drop t.rows.length).take (start + size - t.rows.length) := by
        rw [show size = (t.rows.length - start) + (start + size - t.rows.length) by omega, List.take_add,
          List.drop_drop, show start + (t.rows.length - start) = t.rows.length by omega]
        congr 3
        omega
      have hnew : ∀ r ∈ (L.drop t.rows.length).take (start + size - t.rows.length),
          (!t.rowIds.contains r.id) = true := by
        intro r hr
        have hout := id_not_mem_take hids (List.mem_of_mem_take hr)
        rw [← hrows, ← hf.rowIds_iff, ← StrSet.contains_eq_false] at hout
        simp [hout]
      rw [hsplit, List.filter_append,
        List.filter_eq_nil_iff.2 fun r hr => by simp [hshown _ (by omega) r hr],
        List.filter_eq_self.2 hnew, List.nil_append, hrows, List.length_take,
        Nat.min_eq_left (hrows ▸ hf.rows_prefix.length_le), ← List.take_add, Nat.max_eq_right (by omega)]
      congr 1
      omega

/-- A positive page size grown by a positive factor is positive, held at the largest word. -/
lemma mulWordSaturating_pos {a b : Nat} (ha : 0 < a) (hb : 0 < b) : 0 < mulWordSaturating a b :=
  Nat.lt_min.2 ⟨Nat.mul_pos ha hb, by decide⟩

/-- A page is taken in without an abort when, if it has a next page, its number and the rows it
leaves shown lie below the largest word. -/
lemma exists_applyPage_eq_ok {cfg : TableConfig} (hF : 0 < cfg.accelerationFactor)
    (hsize : 0 < t.search.pageSize) {page : ListPage}
    (hfit : page.pageMeta.hasNextPage = true →
      page.pageMeta.page < u32Max ∧ (t.addRows page.records).rows.length < u32Max) :
    ∃ t', t.applyPage cfg page = .ok t' := by
  have hpos := mulWordSaturating_pos hsize hF
  unfold applyPage followingPage addWord
  rw [addRows_eq t page.records]
  cases hmore : page.pageMeta.hasNextPage
  · simp only [hmore]
    split <;> exact ⟨_, rfl⟩
  · obtain ⟨hpage, hrows⟩ := hfit hmore
    -- the next page counted at the grown size lies below the word, whichever way it is found
    have hshown : min (t.addRows page.records).rows.length u32Max /
        mulWordSaturating t.search.pageSize cfg.accelerationFactor + 1 ≤ u32Max := by
      have := Nat.div_le_self (min (t.addRows page.records).rows.length u32Max)
        (mulWordSaturating t.search.pageSize cfg.accelerationFactor)
      omega
    cases htok : page.pageMeta.nextPageToken <;>
      simp only [hmore, htok, Nat.pos_iff_ne_zero.1 hpos, hshown, Nat.succ_le_of_lt hpage] <;>
      split <;> exact ⟨_, rfl⟩

/-- The records of the page that continue the rows show `L` up to the end of that page, or as
far as the rows already reached when they ran past it. -/
lemma rows_addRows_page (hf : t.Follows L) (hids : (L.map (·.id)).Nodup) {m : Nat}
    (hm : t.Continues m) {cursor : Bool} {page : ListPage}
    (hpage : Server.pageWindow L m t.search.pageSize cursor = .ok page) :
    (t.addRows page.records).rows = L.take (max t.rows.length (m * t.search.pageSize)) := by
  obtain ⟨hrecords, -⟩ := Server.pageWindow_eq_ok hpage
  obtain ⟨k, rfl⟩ : ∃ k, m = k + 1 := ⟨m - 1, by have := hm.pos; omega⟩
  have hend : k * t.search.pageSize + t.search.pageSize = (k + 1) * t.search.pageSize := by
    rw [Nat.add_mul, one_mul]
  have hslice := rows_addRows_slice hf hids hm.start_le hm.start_eq t.search.pageSize
  rw [Nat.add_sub_cancel, hend] at hslice
  rw [← hslice, ← Nat.add_sub_cancel (n := k) (m := 1), ← hrecords]

/-- Taking in the page that continues the rows shows `L` up to the end of that page, or as far
as the rows already reached when they ran past it. -/
lemma rows_applyPage (hf : t.Follows L) (hids : (L.map (·.id)).Nodup) {m : Nat}
    (hm : t.Continues m) {cursor : Bool} {page : ListPage}
    (hpage : Server.pageWindow L m t.search.pageSize cursor = .ok page) {cfg : TableConfig}
    {t' : ContentTable} (happly : t.applyPage cfg page = .ok t') :
    t'.rows = L.take (max t.rows.length (m * t.search.pageSize)) := by
  rw [← rows_addRows_page hf hids hm hpage, (applyPage_eq_ok happly).1]

/-- Taking in the page that continues the rows keeps the invariant.

**Proof sketch.** The page is the slice of `L` at its place (`Server.pageWindow_eq_ok`), so the
rows become the first `max n (m * size)` records of `L` (`rows_addRows_slice`), and the server
has a next page exactly when `L` runs past the page.  When the table accelerates, the next page
at the new size starts at or before the end of the rows, by the floor division; otherwise the
next page is `m + 1`, by number or by the server's cursor, and it starts at the end of the page
taken in, which before acceleration is the end of the rows. -/
theorem Follows.applyPage (hf : t.Follows L) (hids : (L.map (·.id)).Nodup) {cfg : TableConfig}
    (hF : 0 < cfg.accelerationFactor) {m : Nat} (hm : t.Continues m) {cursor : Bool}
    {page : ListPage} (hpage : Server.pageWindow L m t.search.pageSize cursor = .ok page)
    {t' : ContentTable} (happly : t.applyPage cfg page = .ok t') : t'.Follows L := by
  obtain ⟨-, hpageNo, -, htoken⟩ := Server.pageWindow_eq_ok hpage
  obtain ⟨ht', hbranch⟩ := applyPage_eq_ok happly
  -- the rows run on to the end of the page taken in
  have hrows := rows_applyPage hf hids hm hpage happly
  have hnext_iff := Server.hasNextPage_pageWindow hpage hf.size_pos
  obtain ⟨k, rfl⟩ : ∃ k, m = k + 1 := ⟨m - 1, by have := hm.pos; omega⟩
  have hlen := hf.rows_prefix.length_le
  -- on the last page they are all of `L`; before it, exactly as many as the page reaches
  have hall : page.pageMeta.hasNextPage = false → t'.rows = L := by
    intro hlast
    have : L.length ≤ (k + 1) * t.search.pageSize := by
      by_contra hlt
      simp [hnext_iff.2 (by omega)] at hlast
    rw [hrows, List.take_of_length_le (by omega)]
  have hcount : page.pageMeta.hasNextPage = true →
      t'.rows.length = max t.rows.length ((k + 1) * t.search.pageSize) := by
    intro hmore'
    have := hnext_iff.1 hmore'
    rw [hrows, List.length_take]
    omega
  -- page `k + 2` starts where page `k + 1` ends, which before acceleration is the end of the rows
  have hstep : (k + 1) * t.search.pageSize = k * t.search.pageSize + t.search.pageSize :=
    Nat.succ_mul _ _
  have hexact : t.accelerated = false → k * t.search.pageSize = t.rows.length := by
    simpa using hm.start_eq
  refine ⟨hrows ▸ List.take_prefix _ _, ?_, ?_, ?_, ?_, fun hnone _ => ?_⟩
  · -- the noted ids are still those of the rows
    have hids' : t'.rowIds = (t.addRows page.records).rowIds := by rw [ht']
    have hrows' : t'.rows = (t.addRows page.records).rows := by rw [ht']
    rw [hids', hrows']
    exact rowIds_addRows hf.rowIds_iff _
  · rcases hbranch with ⟨-, -, -, hsize, -⟩ | ⟨-, hsize, -⟩
    · exact hsize ▸ mulWordSaturating_pos hf.size_pos hF
    · exact hsize ▸ hf.size_pos
  · rcases hbranch with ⟨-, -, -, hsize, -⟩ | ⟨-, hsize, -⟩
    · exact hsize ▸ Nat.min_le_right _ _
    · exact hsize ▸ hf.size_le
  · intro r hr
    rcases hbranch with ⟨-, -, hacc, -, hnext⟩ | ⟨hacc, hsize, hfollow⟩
    · -- accelerated: the page at the new size holding the first row not shown
      rcases hnext with ⟨-, hnone⟩ | ⟨hmore', hpos, hsome⟩
      · simp [hnone] at hr
      · rw [hr] at hsome
        cases hsome
        refine ⟨_, .inl rfl, ⟨Nat.succ_pos _, ?_, fun h => by simp [hacc] at h⟩⟩
        have hrows' : t'.rows = (t.addRows page.records).rows := by rw [ht']
        rw [Nat.add_sub_cancel, hrows']
        calc _ ≤ min (t.addRows page.records).rows.length u32Max := Nat.div_mul_le_self _ _
          _ ≤ _ := Nat.min_le_left _ _
    · -- not accelerating: the page after the one taken in, `k + 2`, continues the rows
      have hcont : page.pageMeta.hasNextPage = true → t'.Continues (k + 1 + 1) := fun hmore' =>
        ⟨Nat.succ_pos _, by
          rw [hsize, hcount hmore', Nat.add_sub_cancel]
          exact Nat.le_max_right _ _, fun h => by
          rw [hsize, hcount hmore', Nat.add_sub_cancel]
          have := hexact (hacc ▸ h)
          omega⟩
      rcases followingPage_eq_ok hfollow with ⟨-, hnone⟩ | ⟨hmore', tok, htok', hsome⟩ |
        ⟨hmore', -, hsome⟩
      · simp [hnone] at hr
      · -- the cursor the server gave names page `k + 2`
        rw [hr] at hsome
        cases hsome
        have htok : tok = "tok-" ++ toString (k + 1 + 1) := by
          rw [htoken] at htok'
          split at htok'
          · exact (Option.some.inj htok').symm
          · cases htok'
        exact ⟨k + 1 + 1, .inr (htok ▸ rfl), hcont hmore'⟩
      · rw [hr] at hsome
        cases hsome
        exact ⟨k + 1 + 1, .inl (by rw [hpageNo]), hcont hmore'⟩
  · -- with no next page, the page taken in was the last
    rcases hbranch with ⟨-, -, -, -, hnext⟩ | ⟨-, -, hfollow⟩
    · rcases hnext with ⟨hlast, -⟩ | ⟨-, -, hsome⟩
      · exact hall hlast
      · simp [hnone] at hsome
    · rcases followingPage_eq_ok hfollow with ⟨hlast, -⟩ | ⟨-, _, -, hsome⟩ | ⟨-, -, hsome⟩
      · exact hall hlast
      · simp [hnone] at hsome
      · simp [hnone] at hsome

/-! ### Operations that keep the invariant -/

/-- The invariant looks only at the rows, the noted ids, the page size, the next page, whether
the table has accelerated and how many pages it loaded. -/
lemma Follows.congr {t' : ContentTable} (hf : t.Follows L) (hrows : t'.rows = t.rows)
    (hids : t'.rowIds = t.rowIds) (hsize : t'.search.pageSize = t.search.pageSize)
    (hnext : t'.next = t.next) (hacc : t'.accelerated = t.accelerated)
    (hloaded : t'.pagesLoaded = t.pagesLoaded) : t'.Follows L where
  rows_prefix := hrows ▸ hf.rows_prefix
  rowIds_iff := hrows ▸ hids ▸ hf.rowIds_iff
  size_pos := hsize ▸ hf.size_pos
  size_le := hsize ▸ hf.size_le
  next_continues r hr := by
    obtain ⟨m, hasks, hm⟩ := hf.next_continues r (hnext ▸ hr)
    exact ⟨m, hasks, ⟨hm.pos, hrows ▸ hsize ▸ hm.start_le, hrows ▸ hsize ▸ hacc ▸ hm.start_eq⟩⟩
  rows_eq_of_last hnone hpos := hrows ▸ hf.rows_eq_of_last (hnext ▸ hnone) (hloaded ▸ hpos)

lemma Follows.enqueue (hf : t.Follows L) (r : PageRequest) : (t.enqueue r).2.Follows L := by
  unfold ContentTable.enqueue
  dsimp only
  split <;> exact hf.congr rfl rfl rfl rfl rfl rfl

lemma Continues.enqueue {m : Nat} (h : t.Continues m) (r : PageRequest) :
    (t.enqueue r).2.Continues m := by
  unfold ContentTable.enqueue
  dsimp only
  split <;> exact ⟨h.pos, h.start_le, h.start_eq⟩

lemma Follows.forgetRequest (hf : t.Follows L) (r : PageRequest) : (t.forgetRequest r).Follows L :=
  hf.congr rfl rfl rfl rfl rfl rfl

/-- Taking a queued page points the search at it and keeps the invariant. -/
lemma Follows.pointAt (hf : t.Follows L) (r : PageRequest) (rest : List PageRequest) :
    ({ t with queue := rest, search := t.search.pointAt r } : ContentTable).Follows L :=
  hf.congr rfl rfl (SearchState.pageSize_pointAt _ _) rfl rfl rfl

/-- A cleared table follows any list: it shows nothing and has no next page. -/
lemma follows_clearRows {size : Nat} (hpos : 0 < size) (hle : size ≤ u32Max) (L : List ContentRecord) :
    (t.clearRows size).Follows L where
  rows_prefix := List.nil_prefix
  rowIds_iff _ := by simp [clearRows]
  size_pos := hpos
  size_le := hle
  next_continues _ h := by simp [clearRows] at h
  rows_eq_of_last _ h := by simp [clearRows] at h

/-- The first page continues the rows of a cleared table. -/
lemma continues_clearRows_one (size : Nat) : (t.clearRows size).Continues 1 :=
  ⟨Nat.one_pos, by simp [clearRows], fun _ => by simp [clearRows]⟩

end ContentTable

end CorpusBench
