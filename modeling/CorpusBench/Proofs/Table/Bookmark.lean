import CorpusBench.Proofs.Table.Paging

/-!
# Bookmarked searches read back

A table's search is kept in the address bar as query pairs: the search's own pairs (the
field parameters, the query, the sort and the view), then the cursor or the page number, then
the page size (`SearchState.toPairs`).  Reading the pairs back starts from the default state and
reads them in order (`SearchState.ofPairs`): the named keys set the query, the paging and the
view, a key starting with `s_` sets the sort, a typed key sets a field parameter, and any other
key is dropped.

Reading one pair is described by the relation `SearchState.Reads`, and reading a list by the
pairs that touch each field (`SearchState.foldlM_part`): each field ends as its last pair set
it.  A state's pairs touch each field only through that field's own pairs when its parameter
keys are typed, for no typed key is a named key or a sort key.  So a state reads back from its
pairs, except that the page number and size read at least one and a cursor stands in for the
page number, which then reads back as the first page.

Every state read from pairs is `SearchState.Restored`: its numbers are words of at least one,
its parameters are sorted by key and their keys are typed.  Reading one pair keeps this
(`SearchState.Reads.restored`), hence so does reading a list; so a state restored from a
bookmark without a cursor reads back from its own pairs.

## Main definitions

* `SearchState.Reads` — what reading one pair does to a state.
* `SearchState.TypedKeys`, `SearchState.WellFormed`,
  `SearchState.Restored` — the states that read back.

## Main results

* `SearchState.ofPairs_toPairs_eq` — what a state's pairs read back as.
* `SearchState.restored_of_ofPairs` — states read from pairs are restored.
* `search_pairs_read_back` — bookmarked searches read back.
-/

namespace CorpusBench

/-- A word read from a text fits the word. -/
lemma le_of_readWord {w : Width} {v : String} {n : Nat} (h : readWord? w v = some n) :
    n ≤ w.max := by
  unfold readWord? at h
  dsimp only at h
  split_ifs at h with hbad hfits
  exact Option.some.inj h ▸ hfits

namespace StrMap

variable {α : Type}

/-- Inserting a key a test fails leaves what the test picks as it was. -/
lemma filter_insert_of_false {p : String → Bool} {k : String} (hk : p k = false) (v : α)
    (m : StrMap α) : (m.insert k v).filter (fun kv => p kv.1) = m.filter (fun kv => p kv.1) := by
  induction m with
  | nil => simp [insert, hk]
  | cons e rest ih =>
    obtain ⟨k', v'⟩ := e
    unfold insert
    split_ifs with h1 h2
    · simp [hk]
    · subst h2
      simp [hk]
    · rw [List.filter_cons, List.filter_cons, ih]

/-- Inserting a key a test passes, into a map where it picks nothing, makes the test pick just
the new entry. -/
lemma filter_insert_of_true {p : String → Bool} {k : String} (hk : p k = true) (v : α)
    {m : StrMap α} (hm : m.filter (fun kv => p kv.1) = []) :
    (m.insert k v).filter (fun kv => p kv.1) = [(k, v)] := by
  induction m with
  | nil => simp [insert, hk]
  | cons e rest ih =>
    obtain ⟨k', v'⟩ := e
    have hk' : p k' = false := by
      cases h : p k'
      · rfl
      · simp [h] at hm
    have hrest : rest.filter (fun kv => p kv.1) = [] := by
      simpa [List.filter_cons, hk'] using hm
    unfold insert
    split_ifs with h1 h2
    · simp [hk, hk', hrest]
    · simp [hk, hrest]
    · simp [hk', ih hrest]

/-- A key above every key of a map is written at its end. -/
lemma insert_of_forall_lt {k : String} (v : α) {m : StrMap α} (h : ∀ j ∈ m.keys, j < k) :
    m.insert k v = m ++ [(k, v)] := by
  induction m with
  | nil => rfl
  | cons e rest ih =>
    obtain ⟨k', v'⟩ := e
    have hk' : k' < k := h k' (by simp)
    unfold insert
    rw [if_neg (not_lt.2 hk'.le), if_neg (ne_of_gt hk'),
      ih fun j hj => h j (by simp [hj])]
    rfl

/-- Writing the entries of a sorted list one after the other, after entries with smaller keys,
appends them. -/
lemma foldl_insert_of_sorted {acc m : StrMap α} (h : Sorted (acc ++ m)) :
    m.foldl (fun acc kv => StrMap.insert kv.1 kv.2 acc) acc = acc ++ m := by
  induction m generalizing acc with
  | nil => simp
  | cons e rest ih =>
    obtain ⟨k, v⟩ := e
    have hlt : ∀ j ∈ acc.keys, j < k := by
      intro j hj
      have hkeys : (keys acc ++ k :: keys rest).Pairwise (· < ·) := by simpa [Sorted, keys] using h
      exact (List.pairwise_append.1 hkeys).2.2 j hj k (by simp)
    rw [List.foldl_cons, insert_of_forall_lt v hlt, ih (by simpa using h)]
    simp

/-- Writing the entries of a sorted map into the empty map gives the map. -/
lemma foldl_insert_self {m : StrMap α} (h : Sorted m) :
    m.foldl (fun acc kv => StrMap.insert kv.1 kv.2 acc) [] = m :=
  foldl_insert_of_sorted (show Sorted ([] ++ m) from h)

end StrMap

namespace SortDirection

/-- A direction reads back from its name. -/
lemma ofText_name (d : SortDirection) : ofText d.name = .ok d := by
  cases d <;> rfl

end SortDirection

namespace SearchType

/-- A key with a search type starts with that type's prefix. -/
lemma prefix_of_splitKey {k : String} (h : (splitKey k).isSome = true) :
    ∃ ty : SearchType, ty.keyPrefix.toList <+: k.toList := by
  unfold splitKey at h
  rw [List.findSome?_isSome_iff] at h
  obtain ⟨ty, -, hty⟩ := h
  refine ⟨ty, ?_⟩
  split at hty
  · next hs => exact String.startsWith_string_iff.1 hs
  · simp at hty

end SearchType

namespace SearchState

/-! ### Reading one pair -/

/-- The keys that set the query, the paging and the view. -/
def namedKeys : List String := ["q", "page", "page-size", "page-token", "content_view"]

/-- What reading one query pair does to a state. -/
inductive Reads (st : SearchState) : String × String → SearchState → Prop
  | query (v : String) : Reads st ("q", v) { st with query := some v }
  | page (v : String) (n : Nat) (hn : readWord32? v = some n) :
      Reads st ("page", v) { st with page := max n 1 }
  | pageSize (v : String) (n : Nat) (hn : readWord32? v = some n) :
      Reads st ("page-size", v) { st with pageSize := max n 1 }
  | pageToken (v : String) : Reads st ("page-token", v) { st with pageToken := some v }
  | contentView (v : String) : Reads st ("content_view", v) { st with contentView := some v }
  | sort (k v : String) (d : SortDirection) (hk : k ∉ namedKeys) (hs : k.startsWith "s_" = true)
      (hd : SortDirection.ofText v = .ok d) :
      Reads st (k, v) { st with sort := some (String.ofList (k.toList.drop 2), d) }
  | param (k v : String) (hk : k ∉ namedKeys) (hs : k.startsWith "s_" = false)
      (ht : (SearchType.splitKey k).isSome = true) :
      Reads st (k, v) { st with params := st.params.insert k v }
  | ignored (k v : String) (hk : k ∉ namedKeys) (hs : k.startsWith "s_" = false)
      (ht : (SearchType.splitKey k).isSome = false) : Reads st (k, v) st

/-- A pair whose key is none of the named keys sets the sort, a field parameter, or nothing. -/
lemma applyPair_of_not_mem {k : String} (hk : k ∉ namedKeys) (st : SearchState) (v : String) :
    applyPair st (k, v) =
      if k.startsWith "s_" then do
        let d ← SortDirection.ofText v
        return { st with sort := some (String.ofList (k.toList.drop 2), d) }
      else if (SearchType.splitKey k).isSome then .ok { st with params := st.params.insert k v }
      else .ok st := by
  simp only [namedKeys, List.mem_cons, List.not_mem_nil, or_false, not_or] at hk
  obtain ⟨h1, h2, h3, h4, h5⟩ := hk
  simp only [applyPair]

/-- Reading a pair succeeds exactly as `Reads` says. -/
lemma applyPair_eq_ok_iff {st st' : SearchState} {kv : String × String} :
    applyPair st kv = .ok st' ↔ Reads st kv st' := by
  obtain ⟨k, v⟩ := kv
  constructor
  · intro h
    simp only [applyPair] at h
    split at h
    · cases h; exact .query v
    · split at h
      · next n hn => cases h; exact .page v n hn
      · cases h
    · split at h
      · next n hn => cases h; exact .pageSize v n hn
      · cases h
    · cases h; exact .pageToken v
    · cases h; exact .contentView v
    · next h1 h2 h3 h4 h5 =>
      have hk : k ∉ namedKeys := by simp [namedKeys]; exact ⟨h1, h2, h3, h4, h5⟩
      split at h
      · next hs =>
        rcases hd : SortDirection.ofText v with e | d <;> rw [hd] at h
        · cases h
        · cases h; exact .sort k v d hk hs hd
      · next hs =>
        split at h
        · next ht => cases h; exact .param k v hk (by simpa using hs) ht
        · next ht => cases h; exact .ignored k v hk (by simpa using hs) (by simpa using ht)
  · intro h
    cases h with
    | query => rfl
    | page v n hn => simp [applyPair, hn]
    | pageSize v n hn => simp [applyPair, hn]
    | pageToken => rfl
    | contentView => rfl
    | sort k v d hk hs hd =>
      rw [applyPair_of_not_mem hk]
      simp [hs, hd]
    | param k v hk hs ht =>
      rw [applyPair_of_not_mem hk]
      simp [hs, ht]
    | ignored k v hk hs ht =>
      rw [applyPair_of_not_mem hk]
      simp [hs, ht]

/-- No named key has a search type. -/
lemma not_mem_namedKeys_of_splitKey {k : String} (h : (SearchType.splitKey k).isSome = true) :
    k ∉ namedKeys := by
  obtain ⟨ty, hty⟩ := SearchType.prefix_of_splitKey h
  intro hk
  simp only [namedKeys, List.mem_cons, List.not_mem_nil, or_false] at hk
  rcases hk with rfl | rfl | rfl | rfl | rfl <;> cases ty <;> simp [SearchType.keyPrefix] at hty

/-- No key with a search type is a sort key. -/
lemma startsWith_sort_of_splitKey {k : String} (h : (SearchType.splitKey k).isSome = true) :
    k.startsWith "s_" = false := by
  obtain ⟨ty, hty⟩ := SearchType.prefix_of_splitKey h
  rw [String.startsWith_string_eq_false_iff]
  rintro ⟨t, ht⟩
  -- the key would start with `s_` and with the type's prefix, whose first letter is not `s`
  rw [← ht] at hty
  cases ty <;> simp [SearchType.keyPrefix] at hty

/-- So a named key has no search type. -/
lemma splitKey_eq_none_of_mem_namedKeys {k : String} (hk : k ∈ namedKeys) :
    SearchType.splitKey k = none := by
  cases h : SearchType.splitKey k
  · rfl
  · exact absurd hk (not_mem_namedKeys_of_splitKey (by simp [h]))

/-- A pair reads from every state when a page number or size in it is a word and a sort in it
names a direction. -/
lemma exists_reads (st : SearchState) {k v : String}
    (hpage : k = "page" → (readWord32? v).isSome = true)
    (hsize : k = "page-size" → (readWord32? v).isSome = true)
    (hsort : k.startsWith "s_" = true → k ∉ namedKeys → ∃ d, SortDirection.ofText v = .ok d) :
    ∃ st', Reads st (k, v) st' := by
  by_cases hk : k ∈ namedKeys
  · simp only [namedKeys, List.mem_cons, List.not_mem_nil, or_false] at hk
    rcases hk with rfl | rfl | rfl | rfl | rfl
    · exact ⟨_, .query v⟩
    · obtain ⟨n, hn⟩ := Option.isSome_iff_exists.1 (hpage rfl)
      exact ⟨_, .page v n hn⟩
    · obtain ⟨n, hn⟩ := Option.isSome_iff_exists.1 (hsize rfl)
      exact ⟨_, .pageSize v n hn⟩
    · exact ⟨_, .pageToken v⟩
    · exact ⟨_, .contentView v⟩
  · cases hs : k.startsWith "s_"
    · cases ht : (SearchType.splitKey k).isSome
      · exact ⟨_, .ignored k v hk hs ht⟩
      · exact ⟨_, .param k v hk hs ht⟩
    · obtain ⟨d, hd⟩ := hsort hs hk
      exact ⟨_, .sort k v d hk hs hd⟩

/-! ### Reading pairs -/

/-- Reading pairs is reading the first, then the rest. -/
lemma foldlM_cons_eq_ok {kv : String × String} {ps : QueryPairs} {base st : SearchState} :
    (kv :: ps).foldlM applyPair base = .ok st ↔
      ∃ b, Reads base kv b ∧ ps.foldlM applyPair b = .ok st := by
  rw [List.foldlM_cons]
  exact Except.bind_eq_ok.trans (by simp only [applyPair_eq_ok_iff])

/-- A part of the state that each pair either changes, by a rule of its own, or leaves: after
reading pairs it is the rule applied for each pair that changes it, in order. -/
lemma foldlM_part {β : Type} (proj : SearchState → β) (sets : String → Bool)
    (upd : β → String × String → β)
    (hset : ∀ {st kv st'}, Reads st kv st' → sets kv.1 = true → proj st' = upd (proj st) kv)
    (hkeep : ∀ {st kv st'}, Reads st kv st' → sets kv.1 = false → proj st' = proj st)
    {ps : QueryPairs} {base st : SearchState} (h : ps.foldlM applyPair base = .ok st) :
    proj st = (ps.filter fun kv => sets kv.1).foldl upd (proj base) := by
  induction ps generalizing base with
  | nil =>
    cases h
    rfl
  | cons kv ps ih =>
    obtain ⟨b, hb, hrest⟩ := foldlM_cons_eq_ok.1 h
    rw [ih hrest, List.filter_cons]
    cases hs : sets kv.1
    · rw [hkeep hb hs]
      rfl
    · rw [hset hb hs]
      rfl

/-- Reading pairs succeeds when every pair reads from every state. -/
lemma foldlM_ok {ps : QueryPairs} (h : ∀ kv ∈ ps, ∀ st, ∃ st', Reads st kv st') (base : SearchState) :
    ∃ st, ps.foldlM applyPair base = .ok st := by
  induction ps generalizing base with
  | nil => exact ⟨base, rfl⟩
  | cons kv ps ih =>
    obtain ⟨b, hb⟩ := h kv (List.mem_cons_self ..) base
    obtain ⟨st, hst⟩ := ih (fun kv' hkv' => h kv' (List.mem_cons_of_mem _ hkv')) b
    exact ⟨st, foldlM_cons_eq_ok.2 ⟨b, hb, hst⟩⟩

section Fields

variable {ps : QueryPairs} {base st : SearchState}

/-- The query is the value of the last `q` pair. -/
lemma query_of_foldlM (h : ps.foldlM applyPair base = .ok st) :
    st.query = (ps.filter fun kv => kv.1 == "q").foldl (fun _ kv => some kv.2) base.query :=
  foldlM_part query (· == "q") _ (fun hr hs => by cases hr <;> simp_all [namedKeys])
    (fun hr hs => by cases hr <;> simp_all [namedKeys]) h

lemma contentView_of_foldlM (h : ps.foldlM applyPair base = .ok st) :
    st.contentView =
      (ps.filter fun kv => kv.1 == "content_view").foldl (fun _ kv => some kv.2) base.contentView :=
  foldlM_part contentView (· == "content_view") _ (fun hr hs => by cases hr <;> simp_all [namedKeys])
    (fun hr hs => by cases hr <;> simp_all [namedKeys]) h

lemma pageToken_of_foldlM (h : ps.foldlM applyPair base = .ok st) :
    st.pageToken =
      (ps.filter fun kv => kv.1 == "page-token").foldl (fun _ kv => some kv.2) base.pageToken :=
  foldlM_part pageToken (· == "page-token") _ (fun hr hs => by cases hr <;> simp_all [namedKeys])
    (fun hr hs => by cases hr <;> simp_all [namedKeys]) h

/-- The page number is the last `page` pair's word, at least one. -/
lemma page_of_foldlM (h : ps.foldlM applyPair base = .ok st) :
    st.page = (ps.filter fun kv => kv.1 == "page").foldl
      (fun _ kv => max ((readWord32? kv.2).getD 0) 1) base.page :=
  foldlM_part page (· == "page") _ (fun hr hs => by cases hr <;> simp_all [namedKeys])
    (fun hr hs => by cases hr <;> simp_all [namedKeys]) h

lemma pageSize_of_foldlM (h : ps.foldlM applyPair base = .ok st) :
    st.pageSize = (ps.filter fun kv => kv.1 == "page-size").foldl
      (fun _ kv => max ((readWord32? kv.2).getD 0) 1) base.pageSize :=
  foldlM_part pageSize (· == "page-size") _ (fun hr hs => by cases hr <;> simp_all [namedKeys])
    (fun hr hs => by cases hr <;> simp_all [namedKeys]) h

/-- The sort is that of the last sort pair. -/
lemma sort_of_foldlM (h : ps.foldlM applyPair base = .ok st) :
    st.sort = (ps.filter fun kv => kv.1.startsWith "s_").foldl
      (fun _ kv => (SortDirection.ofText kv.2).toOption.map
        fun d => (String.ofList (kv.1.toList.drop 2), d)) base.sort :=
  foldlM_part sort (·.startsWith "s_") _ (fun hr hs => by cases hr <;> simp_all [namedKeys, Except.toOption])
    (fun hr hs => by cases hr <;> simp_all [namedKeys]) h

/-- The field parameters are the typed pairs, inserted one after the other. -/
lemma params_of_foldlM (h : ps.foldlM applyPair base = .ok st) :
    st.params = (ps.filter fun kv => (SearchType.splitKey kv.1).isSome).foldl
      (fun m kv => StrMap.insert kv.1 kv.2 m) base.params :=
  foldlM_part params (fun k => (SearchType.splitKey k).isSome) _
    (fun hr hs => by
      -- a key with a search type is neither a named key nor a sort key
      cases hr with
      | param => rfl
      | ignored => simp_all
      | sort k v d hk hsort => simp [startsWith_sort_of_splitKey hs] at hsort
      | _ => exact absurd (by simp [namedKeys]) (not_mem_namedKeys_of_splitKey hs))
    (fun hr hs => by cases hr <;> simp_all) h

end Fields

/-! ### The states that read back -/

/-- Every field parameter's key has a search type and a non-empty field, as `f_author` has. -/
def TypedKeys (s : SearchState) : Prop :=
  ∀ k ∈ s.params.keys, (SearchType.splitKey k).isSome = true

/-- A search state as a table holds it: the page number and size are 32-bit words, and the field
parameters are a map, sorted by key with no key twice. -/
structure WellFormed (s : SearchState) : Prop where
  page_le : s.page ≤ u32Max
  pageSize_le : s.pageSize ≤ u32Max
  sorted : StrMap.Sorted s.params

/-- The states a table restores from a bookmark: well formed, with typed keys, and with a page
number and size of at least one. -/
structure Restored (s : SearchState) : Prop extends s.WellFormed where
  typedKeys : s.TypedKeys
  page_pos : 0 < s.page
  pageSize_pos : 0 < s.pageSize

/-- Reading one pair keeps a state restored. -/
lemma Reads.restored {st st' : SearchState} {kv : String × String} (h : Reads st kv st')
    (hst : st.Restored) : st'.Restored := by
  cases h with
  | page v n hn =>
    have hn := le_of_readWord hn
    exact { hst with page_le := max_le hn (by decide), page_pos := by simp }
  | pageSize v n hn =>
    have hn := le_of_readWord hn
    exact { hst with pageSize_le := max_le hn (by decide), pageSize_pos := by simp }
  | param k v hk hs ht =>
    -- the one map change: a typed key is inserted
    refine { hst with sorted := hst.sorted.insert k v, typedKeys := fun j hj => ?_ }
    rcases (StrMap.mem_keys_insert k j v st.params).1 hj with rfl | hj
    · exact ht
    · exact hst.typedKeys j hj
  | _ => exact { hst with }

/-- Reading pairs keeps a state restored. -/
lemma foldlM_restored {ps : QueryPairs} {base st : SearchState}
    (h : ps.foldlM applyPair base = .ok st) (hbase : base.Restored) : st.Restored := by
  induction ps generalizing base with
  | nil =>
    cases h
    exact hbase
  | cons kv ps ih =>
    obtain ⟨b, hb, hrest⟩ := foldlM_cons_eq_ok.1 h
    exact ih hrest (hb.restored hbase)

/-- Every state read from query pairs is restored. -/
lemma restored_of_ofPairs {ps : QueryPairs} {st : SearchState} (h : ofPairs ps = .ok st) :
    st.Restored :=
  foldlM_restored h
    { page_le := by decide, pageSize_le := by decide, sorted := StrMap.sorted_nil,
      typedKeys := by simp [TypedKeys, new], page_pos := by decide, pageSize_pos := by decide }

/-! ### The pairs a state writes -/

section Writing

variable {s : SearchState}

/-- A test on keys that passes no typed key passes no field parameter. -/
lemma filter_params_eq_nil (hkeys : s.TypedKeys) {p : String → Bool}
    (hp : ∀ k, (SearchType.splitKey k).isSome = true → p k = false) :
    s.params.filter (fun kv => p kv.1) = [] := by
  rw [List.filter_eq_nil_iff]
  intro kv hkv
  simpa using hp kv.1 (hkeys kv.1 (List.mem_map_of_mem hkv))

/-- The key of a sort is none of the named keys. -/
lemma sortKey_not_mem_namedKeys (f : String) : "s_" ++ f ∉ namedKeys := by
  simp only [namedKeys, List.mem_cons, List.not_mem_nil, or_false, not_or]
  refine ⟨?_, ?_, ?_, ?_, ?_⟩ <;> exact (ne_sortKey (by decide +kernel) f).symm

lemma startsWith_sortKey (f : String) : ("s_" ++ f).startsWith "s_" = true := by
  simp [String.startsWith_string_iff]

/-- A key test that passes no typed key picks, among the search pairs, the query, the sort or
the view it passes; here one that passes only the query. -/
lemma filter_searchParams_query (hkeys : s.TypedKeys) :
    s.searchParams.filter (fun kv => kv.1 == "q") = s.query.toList.map fun q => ("q", q) := by
  have hparams := filter_params_eq_nil hkeys (p := (· == "q")) fun k hk => by
    have := not_mem_namedKeys_of_splitKey hk
    simp_all [namedKeys]
  have hsort : ∀ f, (("s_" ++ f) == "q") = false := fun f => by
    have := sortKey_not_mem_namedKeys f
    simp_all [namedKeys]
  obtain ⟨q, params, sort, page, size, tok, view⟩ := s
  change params.filter _ = [] at hparams
  unfold searchParams
  cases q <;> cases sort <;> cases view <;>
    simp only [StrMap.filter_insert_of_false (p := (· == "q")) (k := "content_view") rfl,
      StrMap.filter_insert_of_false (p := (· == "q")) (hsort _),
      StrMap.filter_insert_of_true (p := (· == "q")) (k := "q") rfl, hparams] <;>
    simp

lemma filter_searchParams_contentView (hkeys : s.TypedKeys) :
    s.searchParams.filter (fun kv => kv.1 == "content_view") =
      s.contentView.toList.map fun v => ("content_view", v) := by
  have hparams := filter_params_eq_nil hkeys (p := (· == "content_view")) fun k hk => by
    have := not_mem_namedKeys_of_splitKey hk
    simp_all [namedKeys]
  have hsort : ∀ f, (("s_" ++ f) == "content_view") = false := fun f => by
    have := sortKey_not_mem_namedKeys f
    simp_all [namedKeys]
  obtain ⟨q, params, sort, page, size, tok, view⟩ := s
  change params.filter _ = [] at hparams
  unfold searchParams
  cases q <;> cases sort <;> cases view <;>
    simp only [StrMap.filter_insert_of_false (p := (· == "content_view")) (k := "q") rfl,
      StrMap.filter_insert_of_false (p := (· == "content_view")) (hsort _),
      StrMap.filter_insert_of_true (p := (· == "content_view")) (k := "content_view") rfl,
      hparams] <;>
    simp

lemma filter_searchParams_sort (hkeys : s.TypedKeys) :
    s.searchParams.filter (fun kv => kv.1.startsWith "s_") =
      s.sort.toList.map fun fd => ("s_" ++ fd.1, fd.2.name) := by
  have hparams := filter_params_eq_nil hkeys (p := (·.startsWith "s_")) fun _ hk =>
    startsWith_sort_of_splitKey hk
  obtain ⟨q, params, sort, page, size, tok, view⟩ := s
  change params.filter _ = [] at hparams
  unfold searchParams
  cases q <;> cases sort <;> cases view <;>
    simp only [StrMap.filter_insert_of_false (p := (·.startsWith "s_")) (k := "q") (by decide +kernel),
      StrMap.filter_insert_of_false (p := (·.startsWith "s_")) (k := "content_view") (by decide +kernel),
      StrMap.filter_insert_of_true (p := (·.startsWith "s_")) (startsWith_sortKey _), hparams] <;>
    simp

/-- A key test that passes no typed key, neither the query nor the view nor any sort key picks
no search pair. -/
lemma filter_searchParams_eq_nil (hkeys : s.TypedKeys) {p : String → Bool}
    (hp : ∀ k, (SearchType.splitKey k).isSome = true → p k = false) (hq : p "q" = false)
    (hsort : ∀ f, p ("s_" ++ f) = false) (hview : p "content_view" = false) :
    s.searchParams.filter (fun kv => p kv.1) = [] := by
  have hparams := filter_params_eq_nil hkeys hp
  obtain ⟨q, params, sort, page, size, tok, view⟩ := s
  change params.filter _ = [] at hparams
  unfold searchParams
  cases q <;> cases sort <;> cases view <;>
    simp only [StrMap.filter_insert_of_false hq, StrMap.filter_insert_of_false hview,
      StrMap.filter_insert_of_false (hsort _), hparams]

/-- The field parameters are exactly the search pairs with a typed key. -/
lemma filter_searchParams_typed (hkeys : s.TypedKeys) :
    s.searchParams.filter (fun kv => (SearchType.splitKey kv.1).isSome) = s.params := by
  have hparams : s.params.filter (fun kv => (SearchType.splitKey kv.1).isSome) = s.params :=
    List.filter_eq_self.2 fun kv hkv => hkeys kv.1 (List.mem_map_of_mem hkv)
  have hsort : ∀ f, (SearchType.splitKey ("s_" ++ f)).isSome = false := fun f => by
    cases h : (SearchType.splitKey ("s_" ++ f)).isSome
    · rfl
    · exact absurd (startsWith_sort_of_splitKey h) (by simp [startsWith_sortKey])
  have hq : SearchType.splitKey "q" = none := splitKey_eq_none_of_mem_namedKeys (by simp [namedKeys])
  have hview : SearchType.splitKey "content_view" = none :=
    splitKey_eq_none_of_mem_namedKeys (by simp [namedKeys])
  obtain ⟨q, params, sort, page, size, tok, view⟩ := s
  change params.filter _ = params at hparams
  unfold searchParams
  cases q <;> cases sort <;> cases view <;>
    simp only [StrMap.filter_insert_of_false (p := fun k => (SearchType.splitKey k).isSome)
        (k := "q") (by simp [hq]),
      StrMap.filter_insert_of_false (p := fun k => (SearchType.splitKey k).isSome)
        (k := "content_view") (by simp [hview]),
      StrMap.filter_insert_of_false (p := fun k => (SearchType.splitKey k).isSome) (hsort _),
      hparams]

/-- The written pairs of a named paging key are those of the paging alone. -/
lemma filter_searchParams_paging (hkeys : s.TypedKeys) {key : String}
    (hkey : key ∈ ["page", "page-size", "page-token"]) :
    s.searchParams.filter (fun kv => kv.1 == key) = [] := by
  have hnamed : key ∈ namedKeys := by
    simp only [List.mem_cons, List.not_mem_nil, or_false] at hkey
    rcases hkey with rfl | rfl | rfl <;> simp [namedKeys]
  refine filter_searchParams_eq_nil hkeys (p := (· == key)) (fun k hk => ?_) ?_ (fun f => ?_) ?_
  · have := not_mem_namedKeys_of_splitKey hk
    simp only [beq_eq_false_iff_ne]
    rintro rfl
    exact this hnamed
  · simp only [List.mem_cons, List.not_mem_nil, or_false] at hkey
    rcases hkey with rfl | rfl | rfl <;> decide
  · simp only [beq_eq_false_iff_ne]
    rintro rfl
    exact sortKey_not_mem_namedKeys f hnamed
  · simp only [List.mem_cons, List.not_mem_nil, or_false] at hkey
    rcases hkey with rfl | rfl | rfl <;> decide

/-- The page pair is written only without a cursor. -/
lemma filter_toPairs_page (hkeys : s.TypedKeys) :
    s.toPairs.filter (fun kv => kv.1 == "page") =
      if s.pageToken.isNone then [("page", toString s.page)] else [] := by
  rw [toPairs, List.filter_append, List.filter_append,
    filter_searchParams_paging hkeys (by simp)]
  cases s.pageToken <;> simp

lemma filter_toPairs_pageSize (hkeys : s.TypedKeys) :
    s.toPairs.filter (fun kv => kv.1 == "page-size") = [("page-size", toString s.pageSize)] := by
  rw [toPairs, List.filter_append, List.filter_append,
    filter_searchParams_paging hkeys (by simp)]
  cases s.pageToken <;> simp

lemma filter_toPairs_pageToken (hkeys : s.TypedKeys) :
    s.toPairs.filter (fun kv => kv.1 == "page-token") =
      s.pageToken.toList.map fun t => ("page-token", t) := by
  rw [toPairs, List.filter_append, List.filter_append,
    filter_searchParams_paging hkeys (by simp)]
  cases s.pageToken <;> simp

lemma filter_toPairs_query (hkeys : s.TypedKeys) :
    s.toPairs.filter (fun kv => kv.1 == "q") = s.query.toList.map fun q => ("q", q) := by
  rw [toPairs, List.filter_append, List.filter_append, filter_searchParams_query hkeys]
  cases s.pageToken <;> simp

lemma filter_toPairs_contentView (hkeys : s.TypedKeys) :
    s.toPairs.filter (fun kv => kv.1 == "content_view") =
      s.contentView.toList.map fun v => ("content_view", v) := by
  rw [toPairs, List.filter_append, List.filter_append, filter_searchParams_contentView hkeys]
  cases s.pageToken <;> simp

lemma filter_toPairs_sort (hkeys : s.TypedKeys) :
    s.toPairs.filter (fun kv => kv.1.startsWith "s_") =
      s.sort.toList.map fun fd => ("s_" ++ fd.1, fd.2.name) := by
  rw [toPairs, List.filter_append, List.filter_append, filter_searchParams_sort hkeys]
  cases s.pageToken <;> simp

/-- The typed pairs written are the field parameters. -/
lemma filter_toPairs_typed (hkeys : s.TypedKeys) :
    s.toPairs.filter (fun kv => (SearchType.splitKey kv.1).isSome) = s.params := by
  rw [toPairs, List.filter_append, List.filter_append, filter_searchParams_typed hkeys]
  have hpaging : ∀ k ∈ ["page", "page-size", "page-token"], SearchType.splitKey k = none := by
    intro k hk
    apply splitKey_eq_none_of_mem_namedKeys
    simp only [List.mem_cons, List.not_mem_nil, or_false] at hk
    rcases hk with rfl | rfl | rfl <;> simp [namedKeys]
  cases s.pageToken <;> simp [hpaging]

/-! ### Reading back -/

/-- Every pair a well-formed state with typed keys writes reads from any state. -/
lemma reads_of_mem_toPairs (hw : s.WellFormed) (hkeys : s.TypedKeys) {kv : String × String}
    (hkv : kv ∈ s.toPairs) (st : SearchState) : ∃ st', Reads st kv st' := by
  obtain ⟨k, v⟩ := kv
  refine exists_reads st (fun hk => ?_) (fun hk => ?_) (fun hs _ => ?_)
  · -- the page pair writes the page number
    subst hk
    have hmem : ("page", v) ∈ s.toPairs.filter (fun kv => kv.1 == "page") :=
      List.mem_filter.2 ⟨hkv, by simp⟩
    rw [filter_toPairs_page hkeys] at hmem
    split at hmem
    · obtain rfl : v = toString s.page := by simpa using hmem
      rw [readWord32_toString, if_pos hw.page_le]
      rfl
    · simp at hmem
  · subst hk
    have hmem : ("page-size", v) ∈ s.toPairs.filter (fun kv => kv.1 == "page-size") :=
      List.mem_filter.2 ⟨hkv, by simp⟩
    rw [filter_toPairs_pageSize hkeys] at hmem
    obtain rfl : v = toString s.pageSize := by simpa using hmem
    rw [readWord32_toString, if_pos hw.pageSize_le]
    rfl
  · -- the only sort pair is the sort's, whose value names its direction
    have hmem : (k, v) ∈ s.toPairs.filter (fun kv => kv.1.startsWith "s_") :=
      List.mem_filter.2 ⟨hkv, hs⟩
    rw [filter_toPairs_sort hkeys] at hmem
    obtain ⟨fd, -, hfd⟩ := List.mem_map.1 hmem
    exact ⟨fd.2, by rw [← (Prod.mk.inj hfd).2, SortDirection.ofText_name]⟩

/-- A part written as at most one pair, the last of which sets it, reads back. -/
lemma foldl_last_toList (key : String) (o : Option String) :
    (o.toList.map fun x => (key, x)).foldl (fun _ kv => some kv.2) none = o := by
  cases o <;> rfl

/-- The sort, written as at most one pair, reads back. -/
lemma foldl_sort_toList (o : Option (String × SortDirection)) :
    (o.toList.map fun fd => ("s_" ++ fd.1, fd.2.name)).foldl
      (fun _ kv => (SortDirection.ofText kv.2).toOption.map
        fun d => (String.ofList (kv.1.toList.drop 2), d)) none = o := by
  cases o with
  | none => rfl
  | some fd => simp [SortDirection.ofText_name, Except.toOption]

/-- The pairs a well-formed state with typed keys writes read back as the state, except that
the page number and size read at least one, and that a cursor stands in for the page number,
which then reads back as the first page. -/
lemma ofPairs_toPairs_eq (hw : s.WellFormed) (hkeys : s.TypedKeys) :
    ofPairs s.toPairs =
      .ok { s with page := if s.pageToken.isNone then max s.page 1 else 1,
                   pageSize := max s.pageSize 1 } := by
  obtain ⟨st, hst⟩ := foldlM_ok (fun _ hkv st => reads_of_mem_toPairs hw hkeys hkv st)
    (new standardPageSize)
  -- each field of the result is read from the pairs that set it
  have hquery := query_of_foldlM hst
  have hparams := params_of_foldlM hst
  have hsort := sort_of_foldlM hst
  have hpage := page_of_foldlM hst
  have hsize := pageSize_of_foldlM hst
  have htoken := pageToken_of_foldlM hst
  have hview := contentView_of_foldlM hst
  rw [filter_toPairs_query hkeys] at hquery
  rw [filter_toPairs_typed hkeys] at hparams
  rw [filter_toPairs_sort hkeys] at hsort
  rw [filter_toPairs_page hkeys] at hpage
  rw [filter_toPairs_pageSize hkeys] at hsize
  rw [filter_toPairs_pageToken hkeys] at htoken
  rw [filter_toPairs_contentView hkeys] at hview
  simp only [new] at hquery hparams hsort hpage hsize htoken hview
  rw [StrMap.foldl_insert_self hw.sorted] at hparams
  -- the page number and size are read back through their digits
  have hpage' : st.page = if s.pageToken.isNone then max s.page 1 else 1 := by
    rw [hpage]
    split
    · rw [List.foldl_cons, List.foldl_nil, readWord32_toString, if_pos hw.page_le]
      rfl
    · rfl
  have hsize' : st.pageSize = max s.pageSize 1 := by
    rw [hsize, List.foldl_cons, List.foldl_nil, readWord32_toString, if_pos hw.pageSize_le]
    rfl
  -- the query, the cursor, the view and the sort are written as at most one pair each
  rw [foldl_last_toList] at hquery htoken hview
  rw [foldl_sort_toList] at hsort
  rw [ofPairs, hst]
  obtain ⟨q', params', sort', page', size', tok', view'⟩ := st
  simp only at hquery hparams hsort hpage' hsize' htoken hview
  subst hquery hparams hsort hpage' hsize' htoken hview
  rfl

/-- Without a cursor, a restored state reads back from its pairs as itself. -/
lemma ofPairs_toPairs_of_restored (hs : s.Restored) (htok : s.pageToken = none) :
    ofPairs s.toPairs = .ok s := by
  have hpage : max s.page 1 = s.page := by have := hs.page_pos; omega
  have hsize : max s.pageSize 1 = s.pageSize := by have := hs.pageSize_pos; omega
  have hnone : s.pageToken.isNone = true := Option.isNone_iff_eq_none.2 htok
  rw [ofPairs_toPairs_eq hs.toWellFormed hs.typedKeys, hnone, if_pos rfl, hpage, hsize]

/-- With a cursor, a state reads back from its pairs on the first page, for the cursor stands in
for the page number. -/
lemma ofPairs_toPairs_of_cursor (hw : s.WellFormed) (hkeys : s.TypedKeys)
    (hsize : 0 < s.pageSize) (htok : s.pageToken ≠ none) :
    ofPairs s.toPairs = .ok { s with page := 1 } := by
  have hsize : max s.pageSize 1 = s.pageSize := by omega
  have hcursor : s.pageToken.isNone = false := Bool.eq_false_iff.2 (mt Option.isNone_iff_eq_none.1 htok)
  rw [ofPairs_toPairs_eq hw hkeys, hcursor, hsize]
  rfl

end Writing

end SearchState

/-- Bookmarked searches read back.  A search state whose page number and size are words of at
least one and whose field parameters have typed keys reads back from the query pairs it writes:
as itself without a cursor, and on the first page with one.  So every state read from query pairs
that carries no cursor reads back from its own pairs. -/
theorem search_pairs_read_back :
    (∀ s : SearchState, s.WellFormed → s.TypedKeys → 0 < s.pageSize →
        (s.pageToken = none → 0 < s.page → SearchState.ofPairs s.toPairs = .ok s) ∧
        (s.pageToken ≠ none → SearchState.ofPairs s.toPairs = .ok { s with page := 1 })) ∧
    (∀ (ps : QueryPairs) (st : SearchState), SearchState.ofPairs ps = .ok st →
        st.pageToken = none → SearchState.ofPairs st.toPairs = .ok st) := by
  refine ⟨fun s hw hkeys hsize => ⟨fun htok hpage => ?_, SearchState.ofPairs_toPairs_of_cursor hw hkeys hsize⟩,
    fun ps st h htok => SearchState.ofPairs_toPairs_of_restored (SearchState.restored_of_ofPairs h) htok⟩
  exact SearchState.ofPairs_toPairs_of_restored ⟨hw, hkeys, hpage, hsize⟩ htok

example :
    let s : SearchState := { query := some "emma", page := 2, pageSize := 10 }
    (SearchState.ofPairs s.toPairs).map SearchState.toPairs = .ok s.toPairs := by decide +kernel

end CorpusBench
