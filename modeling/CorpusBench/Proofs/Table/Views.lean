import CorpusBench.Proofs.Table.Browsing

/-!
# Views saved from a table

A table saves its search as a named view: the server stores, under a new id, the ids of the
records of the table's type that pass the search's pairs.  The server reads a search's pairs in
two ways.  Listing records, it keeps those that pass every pair and then, when the pairs name a
view, those that are members of that view.  Creating a view, it keeps those that pass every pair
and does not look at the view the pairs name: the view pair passes every record
(`Server.recordMatches_filter_view`).

So saving always succeeds, and the new view, the search cleared and filtered by it alone, lists
the records that the search lists with its view pair left out
(`TableWorld.saveView_lists_search_without_view`).  For a search that names no view these are
the records it lists; for one that does, they can be more.

## Main results

* `StrSet.mem_ofList` — the set of a list has the list's members.
* `Server.listing_perm_of_no_view` — a search that names no view lists the records
  that pass it, in some order.
* `Server.listing_view` — a search of a view alone lists the view's members.
* `TableWorld.saveView_lists_search_without_view`.
-/

namespace CorpusBench

namespace StrSet

lemma mem_foldl_insert (xs : List String) (acc : StrSet) (x : String) :
    x ∈ xs.foldl (fun acc k => insert k acc) acc ↔ x ∈ acc ∨ x ∈ xs := by
  induction xs generalizing acc with
  | nil => simp
  | cons k ks ih =>
    rw [List.foldl_cons, ih, mem_insert, List.mem_cons]
    tauto

lemma mem_ofList (xs : List String) (x : String) : x ∈ ofList xs ↔ x ∈ xs := by
  unfold ofList
  simpa using mem_foldl_insert xs [] x

end StrSet

namespace Server

/-! ### How the server reads a search -/

/-- The view pair passes every record: it is neither the query nor a field. -/
lemma recordMatches_filter_view (r : ContentRecord) (ps : QueryPairs) :
    recordMatches r (ps.filter (·.1 != "content_view")) = recordMatches r ps := by
  unfold recordMatches
  rw [List.all_filter]
  congr 1
  funext kv
  by_cases hk : kv.1 = "content_view"
  · obtain ⟨k, v⟩ := kv
    simp only at hk
    subst hk
    have hq : ("content_view" == "q") = false := by decide
    have hf : "content_view".startsWith "f_" = false := by decide +kernel
    simp [hq, hf]
  · simp [hk]

lemma param?_filter_view (ps : QueryPairs) :
    param? (ps.filter (·.1 != "content_view")) "content_view" = none := by
  simp [param?, List.find?_filter]

/-- A search that names no view lists the records of the type that pass its pairs, in some
order. -/
lemma listing_perm_of_no_view {params : QueryPairs} (h : param? params "content_view" = none)
    (s : Server) (contentType : String) :
    (s.listing contentType params).Perm
      ((s.recordsOf contentType).filter (recordMatches · params)) := by
  unfold listing
  simp only [h, Option.bind_none]
  -- a sort permutes the filtered records, and so does its reversal
  split
  · exact List.Perm.refl _
  · split
    · exact (List.reverse_perm _).trans (List.mergeSort_perm _ _)
    · exact List.mergeSort_perm _ _

/-- A search of a view alone lists the records of the type that are its members. -/
lemma listing_view {s : Server} {viewId : String} {v : StoredView}
    (hv : s.views.lookup viewId = some v) (contentType : String) :
    s.listing contentType [("content_view", viewId)] =
      (s.recordsOf contentType).filter (fun r => v.members.contains r.id) := by
  have hpass : ∀ r, recordMatches r [("content_view", viewId)] = true := by
    intro r
    simp [recordMatches]
  have hsort : "content_view".startsWith "s_" = false := by decide +kernel
  unfold listing
  simp [hpass, param?, hv, hsort]

/-- With its view pair left out, a search lists the records of the type that pass its pairs. -/
lemma mem_ids_listing_without_view (s : Server) (contentType : String) (ps : QueryPairs)
    (x : String) :
    x ∈ (s.listing contentType (ps.filter (·.1 != "content_view"))).map (·.id) ↔
      x ∈ ((s.recordsOf contentType).filter (recordMatches · ps)).map (·.id) := by
  rw [((listing_perm_of_no_view (param?_filter_view ps) s contentType).map _).mem_iff]
  simp only [recordMatches_filter_view]

/-! ### Creating a view -/

/-- Creating a view stores, under a new id, the ids of the records of its type that pass its
search's pairs, and answers the view. -/
lemma applyViewRequest_create (s : Server) (name contentType : String) (search : StrMap String) :
    applyViewRequest s (ViewRequest.create name contentType search) =
      (.ok (some ⟨(s.mintId "view").1, name, contentType, some "populated"⟩),
        { (s.mintId "view").2 with
          views := (s.mintId "view").2.views.insert (s.mintId "view").1
            (StoredView.mk contentType (StrSet.ofList
              (((s.recordsOf contentType).filter (recordMatches · search)).map (·.id)))) }) := rfl

/-- The records whose ids are among the ids of some of them are those. -/
lemma mem_ids_filter_ofList {recs : List ContentRecord} {p : ContentRecord → Bool} (x : String) :
    x ∈ (recs.filter fun r => (StrSet.ofList ((recs.filter p).map (·.id))).contains r.id).map
        (·.id) ↔
      x ∈ (recs.filter p).map (·.id) := by
  simp only [List.mem_map, List.mem_filter, StrSet.contains_iff, StrSet.mem_ofList]
  constructor
  · rintro ⟨r, ⟨-, a, ha, hid⟩, rfl⟩
    exact ⟨a, ha, hid⟩
  · rintro ⟨a, ha, rfl⟩
    exact ⟨a, ⟨ha.1, a, ha, rfl⟩, rfl⟩

/-- A new view, searched alone, lists the records its search's pairs pass. -/
lemma mem_ids_listing_createView (s : Server) (name contentType : String)
    (search : StrMap String) (x : String) :
    x ∈ ((applyViewRequest s (ViewRequest.create name contentType search)).2.listing contentType
        [("content_view", (s.mintId "view").1)]).map (·.id) ↔
      x ∈ ((s.recordsOf contentType).filter (recordMatches · search)).map (·.id) := by
  rw [applyViewRequest_create, listing_view (by rw [StrMap.lookup_insert, if_pos rfl])]
  exact mem_ids_filter_ofList x

end Server

namespace TableWorld

open Proc

lemma total_ask {α : Type} {p : Proc Server α} {Q : α → TableWorld → Prop} {w : TableWorld}
    (h : Total p (fun a s => Q a { w with server := s }) w.server) : Total (ask p) Q w :=
  ⟨(finishes_zoom (fun _ _ => rfl) p w).2 h.1, (wp_ask p Q w).2 h.2⟩

/-- Saving a table's search as a view always succeeds, and the view, searched alone, lists the
records the table's search lists with its view pair left out: with no view pair, the records the
search lists.

**Proof sketch.** The server creates the view from the records that pass the search's pairs
(`Server.applyViewRequest_create`), and a search of the view alone lists exactly those
(`Server.mem_ids_listing_createView`).  Listing, the server reads the same pairs the same way
once the view pair is left out, which passes every record anyway
(`Server.mem_ids_listing_without_view`). -/
theorem saveView_lists_search_without_view (site : TableSite) (name : String) (w : TableWorld) :
    Total (saveView site name) (fun res w' => ∃ v : ContentView, res = .ok v ∧
      ∀ x, x ∈ (w'.server.listing site.contentType
          ((SearchState.new site.config.pageSize).setContentView (some v.id)).searchParams).map
            (·.id) ↔
        x ∈ (w.server.listing site.contentType
          (w.table.search.searchParams.filter (·.1 != "content_view"))).map (·.id)) w := by
  unfold saveView
  refine Total.bind ⟨trivial, ?_⟩
  simp only [wp_tableNow]
  refine Total.bind (total_ask ⟨by simp [Server.contentView, Server.logged, finishes_bind], ?_⟩)
  refine Server.wp_contentView ?_
  refine total_pure _ ?_
  refine ⟨_, rfl, fun x => ?_⟩
  -- the cleared search filtered by the new view is that view's pair alone
  show x ∈ ((Server.applyViewRequest (w.server.log "content_view" site.corpusId [])
      (ViewRequest.create name site.contentType w.table.search.searchParams)).2.listing
        site.contentType
        [("content_view", ((w.server.log "content_view" site.corpusId []).mintId "view").1)]).map
      (·.id) ↔ _
  rw [Server.mem_ids_listing_createView, Server.mem_ids_listing_without_view,
    Server.recordsOf_log]

end TableWorld

end CorpusBench
