import CorpusBench.Proofs.Graph.Directions

/-!
# Edge ids and refused edges

The id of an edge is the text `{from}-{to}`.  A dash may stand inside any part of a URI, so
between arbitrary texts two ordered pairs of ends can share an id.  Between the canonical texts
of URIs whose parts hold no slash they cannot (`ContentUri.edgeId_injective`): cut at its
slashes, an id gives back the parts of both ends.

Adding an edge is refused when its id is taken, by an edge on screen or a folded one, or when
an end is not a node.  On a well-formed model whose nodes are such texts, an edge on screen
under the id of the new edge has the new edge's ends, so an edge is refused only when the same
ordered pair is on screen, that pair's id was folded, or an end is missing: no relationship is
lost to another pair's id (`GraphModel.addEdge_refused_iff_same_pair`).

## Main results

* `GraphModel.addEdge_refused_iff` — when adding an edge is refused, from the
  definition.
* `GraphModel.IdsNameEnds.edge?_id_isSome_iff` — where ids name their ends, the id
  of an edge between nodes is taken on screen exactly by an edge with the same ends.
* `GraphModel.addEdge_refused_iff_same_pair`.
-/

namespace CorpusBench

namespace GraphModel

open ContentUri (IsPlainText)

variable {g : GraphModel}

lemma containsEdge_eq_true {i : String} :
    g.containsEdge i = true ↔ (g.edge? i).isSome ∨ i ∈ g.folded := by
  simp [containsEdge, edge?, StrMap.containsKey, StrSet.contains_iff]

/-- Adding an edge is refused when its id is taken or one of its ends is not a node. -/
lemma addEdge_refused_iff (e : Edge) :
    (g.addEdge e).1 = false ↔
      g.containsEdge e.id = true ∨ g.containsNode e.source = false ∨
        g.containsNode e.target = false := by
  unfold addEdge
  split
  · next h => simpa [Bool.or_eq_true, or_assoc] using h
  · next h => simpa [Bool.or_eq_true, and_assoc] using h

/-- An edge on screen with the ends of `e` is stored under the id of `e`. -/
lemma WellFormed.edge?_id_of_ends (hw : g.WellFormed) {i : String} {x : Edge}
    (hx : g.edge? i = some x) {e : Edge} (hends : x.ends = e.ends) : g.edge? e.id = some x := by
  have hid : x.id = i := hw.edge_id i x hx
  simp only [Edge.ends, Prod.mk.injEq] at hends
  have he : e.id = i := by rw [← hid, Edge.id, Edge.id, hends.1, hends.2]
  rw [he]
  exact hx

/-- Where ids name their ends, the id of an edge between two nodes is taken on screen exactly
when an edge with the same ordered pair of ends is on screen. -/
lemma IdsNameEnds.edge?_id_isSome_iff (hu : g.IdsNameEnds) (hw : g.WellFormed) {e : Edge}
    (hs : g.containsNode e.source = true) (ht : g.containsNode e.target = true) :
    (g.edge? e.id).isSome ↔ ∃ i x, g.edge? i = some x ∧ x.ends = e.ends := by
  constructor
  · intro h
    obtain ⟨x, hx⟩ := Option.isSome_iff_exists.1 h
    obtain ⟨h₁, h₂⟩ := hu.ends_of_edge? hw hx hs ht rfl
    exact ⟨e.id, x, hx, by simp [Edge.ends, h₁, h₂]⟩
  · rintro ⟨i, x, hx, hends⟩
    simp [hw.edge?_id_of_ends hx hends]

/-- Between texts of plain URIs an edge id names its ends, so on a well-formed model whose
nodes are such texts an edge is refused only when an edge with the same ordered pair of ends is
on screen, the id of that pair was folded, or one of its ends is not a node.

**Proof sketch.** Cut at its slashes, an id between plain URIs gives back the parts of both ends
(`ContentUri.edgeId_injective`).  Adding is refused when the id is taken or an end is missing
(`addEdge_refused_iff`); with both ends on screen, an edge stored under the id has the same ends
(`IdsNameEnds.edge?_id_isSome_iff`). -/
theorem addEdge_refused_iff_same_pair (hw : g.WellFormed)
    (hp : ∀ u, g.containsNode u = true → IsPlainText u) (e : Edge) :
    (∀ a b c d : String, IsPlainText a → IsPlainText b → IsPlainText c → IsPlainText d →
        edgeId a b = edgeId c d → a = c ∧ b = d) ∧
      ((g.addEdge e).1 = false ↔
        (∃ i x, g.edge? i = some x ∧ x.ends = e.ends) ∨ e.id ∈ g.folded ∨
          g.containsNode e.source = false ∨ g.containsNode e.target = false) := by
  refine ⟨fun a b c d ha hb hc hd h => ContentUri.edgeId_injective ha hb hc hd h, ?_⟩
  rw [addEdge_refused_iff, containsEdge_eq_true]
  -- with an end missing both sides hold; with both ends plotted, ids name their ends
  cases hs : g.containsNode e.source
  · simp
  cases ht : g.containsNode e.target
  · simp
  rw [(IdsNameEnds.of_plain hp).edge?_id_isSome_iff hw hs ht]
  simp

/-- A book and one of its chapters, joined from the book. -/
def bookChapter : GraphModel :=
  let book := Node.new "/corpus/42/Book/b1" "Emma" "Book" .full
  let chapter := Node.new "/corpus/42/Chapter/c1" "One" "Chapter" .full
  (((({} : GraphModel).addNode book).2.addNode chapter).2.addEdge
    ⟨book.uri, chapter.uri, "Book.chapters", 1.0, 1.0⟩).2

lemma wellFormed_bookChapter : bookChapter.WellFormed :=
  ((WellFormed.empty.addNode _).addNode _).addEdge _

lemma plain_bookChapter (u : String) (hu : bookChapter.containsNode u = true) : IsPlainText u := by
  have hnodes : bookChapter.nodes.keys = ["/corpus/42/Book/b1", "/corpus/42/Chapter/c1"] := by
    decide +kernel
  have hmem : u ∈ bookChapter.nodes.keys := (StrMap.containsKey_iff _ _).1 hu
  rw [hnodes] at hmem
  simp only [List.mem_cons, List.not_mem_nil, or_false] at hmem
  rcases hmem with rfl | rfl
  · exact ⟨⟨"42", "Book", "b1"⟩, by decide, rfl⟩
  · exact ⟨⟨"42", "Chapter", "c1"⟩, by decide, rfl⟩

/-- The book and its chapter meet the hypotheses, and the theorem says when the chapter's edge
back to the book is refused. -/
theorem addEdge_refused_iff_same_pair_bookChapter :
    bookChapter.WellFormed ∧ (∀ u, bookChapter.containsNode u = true → IsPlainText u) ∧
      ((∀ a b c d : String, IsPlainText a → IsPlainText b → IsPlainText c → IsPlainText d →
          edgeId a b = edgeId c d → a = c ∧ b = d) ∧
        ((bookChapter.addEdge ⟨"/corpus/42/Chapter/c1", "/corpus/42/Book/b1", "Chapter.book",
            1.0, 1.0⟩).1 = false ↔
          (∃ i x, bookChapter.edge? i = some x ∧
              x.ends = ("/corpus/42/Chapter/c1", "/corpus/42/Book/b1")) ∨
            edgeId "/corpus/42/Chapter/c1" "/corpus/42/Book/b1" ∈ bookChapter.folded ∨
            bookChapter.containsNode "/corpus/42/Chapter/c1" = false ∨
            bookChapter.containsNode "/corpus/42/Book/b1" = false)) :=
  ⟨wellFormed_bookChapter, plain_bookChapter,
    addEdge_refused_iff_same_pair wellFormed_bookChapter plain_bookChapter _⟩

end GraphModel

end CorpusBench
