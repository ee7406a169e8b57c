import CorpusBench.Proofs.Table.Paging

/-!
# The pages a table asks for

A table asks for a page at most once while its rows stay: it notes the key of every page it
asks for, and does not queue a page whose key is noted.  The key of a page number names the page
size together with the number (`PageRequest.key_number_inj`); the key of a cursor names the
cursor alone.

When the server pages by number, the next page is never one asked for already, so the table
queues it whenever the last row of the current page comes into view
(`ContentTable.Advances.requestNextAt`).  The invariant `ContentTable.Advances` says why: every
page asked for, at its size and number, has been shown as far as it reaches, while the next page
runs past the rows.  Taking in the page that continues the rows keeps it
(`ContentTable.Pending.applyPage`), acceleration included: the page at the new size that holds
the first row not shown still runs past the rows.

## Main definitions

* `ContentTable.Shown` — a page asked for has been shown as far as it reaches.
* `ContentTable.Advances` — the invariant of a table paging by number.
* `ContentTable.Pending` — a page asked for and about to be taken in.

## Main results

* `PageRequest.key_number_inj` — a page number's key names its size and number.
* `ContentTable.Advances.requestNextAt` — the next page is always queued.
* `ContentTable.Pending.applyPage` — taking in the page keeps the invariant.
-/

namespace CorpusBench

/-! ### Keys -/

namespace PageRequest

/-- The characters of a page number's key: the digits of the size, a colon, the digits of the
number. -/
lemma toList_key_number (size n : Nat) :
    ((number n).key size).toList = Nat.toDigits 10 size ++ ':' :: Nat.toDigits 10 n := by
  simp [key, Nat.toString_eq_repr, Nat.repr_eq_ofList_toDigits]

/-- The digits a page number's key starts with are those of the size; the rest is a colon and
the digits of the number. -/
lemma takeWhile_key_number (size n : Nat) :
    ((number n).key size).toList.takeWhile Char.isDigit = Nat.toDigits 10 size ∧
      ((number n).key size).toList.dropWhile Char.isDigit = ':' :: Nat.toDigits 10 n := by
  have hdigits : ∀ c ∈ Nat.toDigits 10 size, c.isDigit = true := fun c hc =>
    Nat.isDigit_of_mem_toDigits (by norm_num) (by norm_num) hc
  have hcolon : Char.isDigit ':' = false := by decide
  rw [toList_key_number, List.takeWhile_append_of_pos hdigits, List.dropWhile_append_of_pos hdigits]
  exact ⟨by simp [hcolon], by simp [hcolon]⟩

/-- Two page numbers share a key only at one size and one number.

**Proof sketch.** The size is read back from the digits before the colon, the number from those
after it (`foldl_toDigits`). -/
lemma key_number_inj {size size' n n' : Nat} (h : (number n).key size = (number n').key size') :
    size = size' ∧ n = n' := by
  obtain ⟨hsize, hn⟩ := takeWhile_key_number size n
  obtain ⟨hsize', hn'⟩ := takeWhile_key_number size' n'
  rw [h] at hsize hn
  constructor
  · rw [← foldl_toDigits size, ← foldl_toDigits size', ← hsize, hsize']
  · rw [← foldl_toDigits n, ← foldl_toDigits n', (List.cons.inj (hn.symm.trans hn')).2]

end PageRequest

namespace ContentTable

variable {L : List ContentRecord} {t : ContentTable}

/-! ### The invariant -/

/-- The key of a page number whose page has been shown as far as it reaches in `L`. -/
def Shown (t : ContentTable) (L : List ContentRecord) (key : String) : Prop :=
  ∃ size n, key = (PageRequest.number n).key size ∧ min L.length (size * n) ≤ t.rows.length

/-- A table paging by number advances through `L`: a next page, once a page has loaded, is a
number whose page runs past the rows, which are not yet all of `L`; and every page asked for has
been shown as far as it reaches. -/
structure Advances (L : List ContentRecord) (t : ContentTable) : Prop where
  next_past : ∀ r, t.next = some r → ∃ m, r = .number m ∧ t.rows.length < m * t.search.pageSize
  rows_lt : ∀ r, t.next = some r → t.rows.length < L.length
  loaded_pos : ∀ r, t.next = some r → 0 < t.pagesLoaded
  requested_shown : ∀ key ∈ t.requested, t.Shown L key

/-- The next page has not been asked for: it runs past the rows, while every page asked for is
shown as far as it reaches.

**Proof sketch.** A key asked for that equals the next page's key is that page, at its size and
number (`PageRequest.key_number_inj`); shown as far as it reaches, and with `L` longer than the
rows, it would end within them. -/
lemma Advances.not_mem_requested (ha : t.Advances L) {r : PageRequest} (hr : t.next = some r) :
    r.key t.search.pageSize ∉ t.requested := by
  intro hmem
  obtain ⟨m, rfl, hend⟩ := ha.next_past _ hr
  have hlt := ha.rows_lt _ hr
  obtain ⟨size, n, hkey, hshown⟩ := ha.requested_shown _ hmem
  obtain ⟨rfl, rfl⟩ := PageRequest.key_number_inj hkey
  rw [Nat.mul_comm] at hshown
  generalize m * t.search.pageSize = reach at hend hshown
  omega

/-- A page not asked for is queued, and its key noted. -/
lemma enqueue_of_not_mem {r : PageRequest} (h : r.key t.search.pageSize ∉ t.requested) :
    t.enqueue r = (true, { t with requested := t.requested.insert (r.key t.search.pageSize),
                                  queue := t.queue ++ [r] }) := by
  simp [enqueue, (StrSet.contains_eq_false _ _).2 h]

/-- Reaching the last row of the current page queues the next page. -/
lemma Advances.requestNextAt (ha : t.Advances L) {r : PageRequest} (hr : t.next = some r) :
    t.requestNextAt t.currentPage =
      (true, { t with requested := t.requested.insert (r.key t.search.pageSize),
                      queue := t.queue ++ [r] }) := by
  have hloaded := Nat.pos_iff_ne_zero.1 (ha.loaded_pos r hr)
  simp [ContentTable.requestNextAt, hr, hloaded, enqueue_of_not_mem (ha.not_mem_requested hr)]

/-- The invariant looks only at the rows, the page size, the next page and the pages loaded, and
holds with fewer pages asked for. -/
lemma Advances.congr {t' : ContentTable} (ha : t.Advances L) (hrows : t'.rows = t.rows)
    (hsize : t'.search.pageSize = t.search.pageSize) (hnext : t'.next = t.next)
    (hloaded : t'.pagesLoaded = t.pagesLoaded) (hreq : ∀ key ∈ t'.requested, key ∈ t.requested) :
    t'.Advances L where
  next_past r hr := hrows ▸ hsize ▸ ha.next_past r (hnext ▸ hr)
  rows_lt r hr := hrows ▸ ha.rows_lt r (hnext ▸ hr)
  loaded_pos r hr := hloaded ▸ ha.loaded_pos r (hnext ▸ hr)
  requested_shown key hkey := by
    obtain ⟨size, n, hkey', hshown⟩ := ha.requested_shown key (hreq key hkey)
    exact ⟨size, n, hkey', hrows ▸ hshown⟩

/-! ### Taking in a page asked for -/

/-- A page `r`, number `m`, asked for and about to be taken in: with its key forgotten the table
advances, and the page runs past the rows. -/
structure Pending (L : List ContentRecord) (t : ContentTable) (r : PageRequest) (m : Nat) :
    Prop where
  forgotten : (t.forgetRequest r).Advances L
  number : r = .number m
  end_gt : t.rows.length < m * t.search.pageSize

/-- Taking a queued page points the search at it, which keeps the page pending. -/
lemma Pending.pointAt (hp : t.Pending L r m) (rest : List PageRequest) :
    ({ t with queue := rest, search := t.search.pointAt r } : ContentTable).Pending L r m where
  forgotten := hp.forgotten.congr rfl (SearchState.pageSize_pointAt _ _) rfl rfl
    (fun key hkey => by simpa [forgetRequest] using hkey)
  number := hp.number
  end_gt := by simpa using hp.end_gt

/-- Queueing the next page of a table that advances leaves it pending: with its key forgotten
the table asks for no page it did not ask for before, and the page runs past the rows. -/
lemma Advances.pending (ha : t.Advances L) {r : PageRequest} (hr : t.next = some r) :
    ∃ m, r.Asks m ∧
      ({ t with requested := t.requested.insert (r.key t.search.pageSize),
                queue := t.queue ++ [r] } : ContentTable).Pending L r m := by
  obtain ⟨m, hnum, hend⟩ := ha.next_past r hr
  refine ⟨m, .inl hnum, ⟨ha.congr rfl rfl rfl rfl fun key hkey => ?_, hnum, hend⟩⟩
  simp only [forgetRequest, StrSet.mem_erase, StrSet.mem_insert] at hkey
  exact hkey.1.resolve_left hkey.2

/-- A pending page is asked for by its own number. -/
lemma Pending.eq_of_asks {m' : Nat} (hp : t.Pending L r m) (h : r.Asks m') : m = m' := by
  rw [hp.number] at h
  rcases h with h | h
  · exact PageRequest.number.inj h
  · cases h

/-- A reload asks for the first page of a cleared table, which runs past its empty rows. -/
lemma pending_clearRows {size : Nat} (hpos : 0 < size) (L : List ContentRecord) :
    ((t.clearRows size).enqueue (.number 1)).2.Pending L (.number 1) 1 := by
  rw [enqueue_of_not_mem (by simp [clearRows])]
  refine ⟨⟨?_, ?_, ?_, fun key hkey => ?_⟩, rfl, by simpa [clearRows, SearchState.resetPage] using hpos⟩
  all_goals simp [clearRows, forgetRequest, StrSet.mem_erase, StrSet.mem_insert] at *

/-- Taking in a page that runs past the rows shows `L` up to the end of the page, or all of it. -/
lemma length_rows_applyPage (hf : t.Follows L) (hids : (L.map (·.id)).Nodup) {m : Nat}
    (hm : t.Continues m) (hend : t.rows.length < m * t.search.pageSize) {cursor : Bool}
    {page : ListPage} (hpage : Server.pageWindow L m t.search.pageSize cursor = .ok page)
    {cfg : TableConfig} {t' : ContentTable} (happly : t.applyPage cfg page = .ok t') :
    t'.rows.length = min L.length (m * t.search.pageSize) := by
  rw [rows_applyPage hf hids hm hpage happly, List.length_take]
  generalize m * t.search.pageSize = reach at hend ⊢
  omega

/-- Taking in the page that continues the rows, asked for by number from a server that pages by
number, leaves a table that advances.

**Proof sketch.** The rows become `L` up to the end of the page (`length_rows_applyPage`).  The
page asked for is then shown as far as it reaches, and every other page asked for was already.
The server gives no cursor, so a next page is a number: `m + 1` at the same size, or after
acceleration the page at the new size holding the first row not shown, which by the floor
division runs past the rows (`Nat.lt_mul_of_div_lt`); the number of rows fits a word, so the
count the table divides is the true one. -/
theorem Pending.applyPage (hp : t.Pending L r m) (hf : t.Follows L) (hids : (L.map (·.id)).Nodup)
    (hbound : L.length ≤ u32Max) (hm : t.Continues m) {page : ListPage}
    (hpage : Server.pageWindow L m t.search.pageSize false = .ok page) {cfg : TableConfig}
    {t' : ContentTable} (happly : t.applyPage cfg page = .ok t') : t'.Advances L := by
  obtain ⟨ht', hbranch⟩ := applyPage_eq_ok happly
  obtain ⟨-, hpageNo, -, htoken⟩ := Server.pageWindow_eq_ok hpage
  have hnext_iff := Server.hasNextPage_pageWindow hpage hf.size_pos
  have hcount := length_rows_applyPage hf hids hm hp.end_gt hpage happly
  have hlen := hf.rows_prefix.length_le
  have hend := hp.end_gt
  have hrows' : (t.addRows page.records).rows = t'.rows := by rw [ht']
  -- with a next page the rows reach exactly the end of the page taken in
  have hnext : ∀ r', t'.next = some r' →
      m * t.search.pageSize < L.length ∧ t'.rows.length = m * t.search.pageSize := by
    intro r' hr'
    have hmore : page.pageMeta.hasNextPage = true := by
      rcases hbranch with ⟨-, -, -, -, ⟨-, hnone⟩ | ⟨hmore, -⟩⟩ | ⟨-, -, hfollow⟩
      · simp [hnone] at hr'
      · exact hmore
      · rcases followingPage_eq_ok hfollow with ⟨-, hnone⟩ | ⟨hmore, -⟩ | ⟨hmore, -⟩
        · simp [hnone] at hr'
        · exact hmore
        · exact hmore
    have hlt := hnext_iff.1 hmore
    exact ⟨hlt, by rw [hcount]; omega⟩
  refine ⟨fun r' hr' => ?_, fun r' hr' => ?_, fun _ _ => ?_, fun key hkey => ?_⟩
  · -- the next page is a number whose page runs past the rows
    obtain ⟨-, hreach⟩ := hnext r' hr'
    rcases hbranch with ⟨-, -, -, hsize, ⟨-, hnone⟩ | ⟨-, hpos, hsome⟩⟩ | ⟨-, hsize, hfollow⟩
    · simp [hnone] at hr'
    · -- after acceleration: the page at the new size holding the first row not shown
      rw [hr'] at hsome
      cases hsome
      refine ⟨_, rfl, ?_⟩
      have hfits : t'.rows.length ≤ u32Max := by omega
      rw [hrows', Nat.min_eq_left hfits]
      exact Nat.lt_mul_of_div_lt (Nat.lt_succ_self _) hpos
    · rcases followingPage_eq_ok hfollow with ⟨-, hnone⟩ | ⟨-, tok, htok, -⟩ | ⟨-, -, hsome⟩
      · simp [hnone] at hr'
      · -- a server paging by number gives no cursor
        simp [htoken] at htok
      · -- the page after the one taken in, at the same size
        rw [hr'] at hsome
        cases hsome
        refine ⟨m + 1, by rw [hpageNo], ?_⟩
        rw [hreach, hsize, Nat.succ_mul]
        exact Nat.lt_add_of_pos_right hf.size_pos
  · -- with a next page, `L` runs past the rows
    obtain ⟨hlt, hreach⟩ := hnext r' hr'
    omega
  · -- a page has loaded
    rw [ht']
    exact Nat.succ_pos _
  · -- a page asked for is the page taken in, or one shown already
    have hreq : t'.requested = t.requested := by rw [ht']
    rw [hreq] at hkey
    by_cases hk : key = r.key t.search.pageSize
    · refine ⟨t.search.pageSize, m, by rw [hk, hp.number], ?_⟩
      rw [hcount, Nat.mul_comm]
    · obtain ⟨size, n, hkey', hshown⟩ :=
        hp.forgotten.requested_shown key ((StrSet.mem_erase _ _ _).2 ⟨hkey, hk⟩)
      refine ⟨size, n, hkey', Nat.le_trans hshown ?_⟩
      show t.rows.length ≤ t'.rows.length
      rw [hcount]
      generalize m * t.search.pageSize = reach at hend ⊢
      omega

end ContentTable

end CorpusBench
