import CorpusBench.Proofs.Graph.EdgeIds
import CorpusBench.Proofs.Graph.Extrusion
import CorpusBench.Proofs.Graph.Provenance

/-!
# Plain ids through the settle pass and extrusions

On a well-formed model whose nodes are plain URIs, an edge joins plain URIs and its id names
its ends.  The settle pass folds the reverse edges of the collapses into their forward ids, and
an extrusion removes nodes with their edges; both keep what `GraphModel.PlainIds` asks of the
ids a model has taken, that the reverse of a folded id stays on screen unless one of its ends
is excluded.  A pass cannot turn the reverse of an id folded before it, since that edge would
land on the folded id (`GraphModel.Turning`); an edge an extrusion removes touches the node
removed, and that node is excluded at once.

## Main definitions

* `Explorer.PlainGraph` — the model is well formed, its nodes are plain URIs and its ids are
  plain.

## Main results

* `GraphModel.PlainIds.normalizeDirections` — a pass over the collapses keeps the ids plain.
* `Explorer.PlainGraph.settle`, `Explorer.PlainGraph.extrude` — so do the settle pass and an
  extrusion.
-/

namespace CorpusBench

open ContentUri (IsPlainText)

namespace GraphModel

variable {g : GraphModel} {X : StrSet}

/-- On a well-formed model whose nodes are plain URIs, every edge joins plain URIs. -/
lemma WellFormed.plain_ends (hw : g.WellFormed) (hn : ∀ u, g.containsNode u = true → IsPlainText u)
    {i : String} {e : Edge} (he : g.edge? i = some e) : IsPlainText e.source ∧ IsPlainText e.target :=
  ⟨hn _ (hw.ends_plotted i e he).1, hn _ (hw.ends_plotted i e he).2⟩

/-- An edge on screen under the id of two plain URIs joins them, that way round. -/
lemma WellFormed.ends_of_plain_id (hw : g.WellFormed)
    (hn : ∀ u, g.containsNode u = true → IsPlainText u) {a b : String} (ha : IsPlainText a)
    (hb : IsPlainText b) {e : Edge} (he : g.edge? (edgeId a b) = some e) :
    e.source = a ∧ e.target = b :=
  ContentUri.edgeId_injective (hw.plain_ends hn he).1 (hw.plain_ends hn he).2 ha hb
    (hw.edge_id _ e he)

/-- Models of the same shape take the same ids. -/
lemma PlainIds.of_sameShape {g' : GraphModel} (hp : g.PlainIds X) (h : SameShape g g') :
    g'.PlainIds X where
  edges i e' he' := by
    obtain ⟨e, he, hs, ht⟩ := h.edge? he'
    rw [← hs, ← ht]
    exact hp.edges i e he
  folded f hf := by
    rw [h.folded] at hf
    obtain ⟨a, b, ha, hb, hf, hrev⟩ := hp.folded f hf
    refine ⟨a, b, ha, hb, hf, hrev.imp_left fun hr => ?_⟩
    simpa [hr] using congrArg Option.isSome (h.edge_ends (edgeId b a))

/-- A pass over the collapses keeps the ids plain.

**Proof sketch.** Follow the pass against the model it started from (`turning_normalizeDirections`).
An id folded before the pass had its reverse on screen; had the pass folded that reverse, it
would have landed on the folded id, which stays off screen; so the reverse is kept or something
landed on it.  An id the pass folds is that of an edge of the model, which landed on its
forward id, the reverse. -/
lemma PlainIds.normalizeDirections (hw : g.WellFormed)
    (hn : ∀ u, g.containsNode u = true → IsPlainText u) (hp : g.PlainIds X) (cs : List Collapse) :
    (g.normalizeDirections cs).2.PlainIds X := by
  have ht := turning_normalizeDirections hw (IdsNameEnds.of_plain hn) cs
  have hnh : ∀ u, (g.normalizeDirections cs).2.containsNode u = true → IsPlainText u :=
    fun u hu => hn u (by simpa [containsNode, ht.nodes] using hu)
  refine ⟨fun i e he => ht.wf.plain_ends hnh he, fun f hf => ?_⟩
  have hfold : (g.normalizeDirections cs).2.isFolded f = true := (StrSet.contains_iff _ _).2 hf
  rcases ht.folded_new f hfold with hg | hg
  · obtain ⟨a, b, ha, hb, rfl, hrev⟩ := hp.folded _ ((StrSet.contains_iff _ _).1 hg)
    refine ⟨a, b, ha, hb, rfl, hrev.imp_left fun hr => ?_⟩
    obtain ⟨x, hx⟩ := Option.isSome_iff_exists.1 hr
    obtain ⟨hxs, hxt⟩ := hw.ends_of_plain_id hn hb ha hx
    by_cases hj : (g.normalizeDirections cs).2.isFolded (edgeId b a) = true
    · -- the reverse would have landed on the folded id, which is off screen
      obtain ⟨c, -, -, hland⟩ := ht.landed _ x hx hj
      rw [forwardId, hxs, hxt] at hland
      rw [ht.wf.isFolded_of_edge? hland] at hfold
      cases hfold
    by_cases hl : ∃ k y, g.edge? k = some y ∧ (g.normalizeDirections cs).2.isFolded k = true ∧
        forwardId y = edgeId b a
    · obtain ⟨k, y, hy, hk, hfy⟩ := hl
      obtain ⟨c, -, -, hland⟩ := ht.landed k y hy hk
      rw [hfy] at hland
      simp [hland]
    · rw [ht.kept _ (Bool.eq_false_iff.2 hj) fun k y hy hk hfy => hl ⟨k, y, hy, hk, hfy⟩, hx]
      rfl
  · obtain ⟨x, hx⟩ := Option.isSome_iff_exists.1 hg
    obtain ⟨c, -, -, hland⟩ := ht.landed f x hx hfold
    obtain ⟨hs, ht'⟩ := hw.plain_ends hn hx
    rw [forwardId] at hland
    exact ⟨x.source, x.target, hs, ht', (hw.edge_id f x hx).symm, .inl (by simp [hland])⟩

/-- Removing a node and excluding it keeps the ids plain: an edge that goes with the node touches
it. -/
lemma PlainIds.removeNode (hw : g.WellFormed) (hn : ∀ u, g.containsNode u = true → IsPlainText u)
    (hp : g.PlainIds X) (u : String) : (g.removeNode u).2.PlainIds (StrSet.insert u X) where
  edges i e he := hp.edges i e ((edge?_removeNode hw u i e).1 he).1
  folded f hf := by
    rw [folded_removeNode] at hf
    obtain ⟨a, b, ha, hb, rfl, hrev⟩ := hp.folded _ hf
    have hins : ∀ v ∈ X, v ∈ StrSet.insert u X := fun v hv => (StrSet.mem_insert _ _ _).2 (.inr hv)
    refine ⟨a, b, ha, hb, rfl, ?_⟩
    rcases hrev with hrev | hx | hx
    · obtain ⟨x, hx⟩ := Option.isSome_iff_exists.1 hrev
      by_cases htouch : x.Touches u
      · -- the reverse edge went with the node, which is excluded now
        obtain ⟨hxs, hxt⟩ := hw.ends_of_plain_id hn hb ha hx
        have hu : ∀ v, v = u → v ∈ StrSet.insert u X := fun v hv =>
          (StrSet.mem_insert _ _ _).2 (.inl hv)
        rcases htouch with h | h
        · exact .inr (.inr (hu b (hxs ▸ h)))
        · exact .inr (.inl (hu a (hxt ▸ h)))
      · exact .inl (by rw [(edge?_removeNode hw u _ x).2 ⟨hx, htouch⟩]; rfl)
    · exact .inr (.inl (hins a hx))
    · exact .inr (.inr (hins b hx))

end GraphModel

namespace Explorer

variable {e e' : Explorer} {s : LinkScale}

/-- The model is well formed, its nodes are plain URIs, and the ids it has taken are plain. -/
structure PlainGraph (e : Explorer) : Prop where
  wellFormed : e.model.WellFormed
  nodes : ∀ u, e.model.containsNode u = true → IsPlainText u
  ids : e.model.PlainIds e.excluded

/-- A relayout keeps the graph plain: thickness and mass change neither ends nor folded ids. -/
lemma PlainGraph.relayout (h : e.PlainGraph) {n : Nat} (hr : e.relayout s = .ok (n, e')) :
    e'.PlainGraph := by
  unfold Explorer.relayout at hr
  rcases hnd : e.model.normalizeDirections e.collapses with ⟨k, m0⟩
  have hw0 := h.wellFormed.normalizeDirections e.collapses
  have hn0 := GraphModel.nodes_normalizeDirections (g := e.model) e.collapses
  have h0 := h.ids.normalizeDirections h.wellFormed h.nodes e.collapses
  rw [hnd] at hr hw0 hn0 h0
  dsimp only at hr hw0 hn0 h0
  obtain ⟨m1, hm1, hr⟩ := Except.bind_eq_ok.1 hr
  cases hr
  obtain ⟨edges, rfl, hk, hends⟩ := GraphModel.applyThickness_ok hm1
  refine ⟨(hw0.withEdges hk hends).applyMass _ _, fun u hu => h.nodes u ?_,
    (h0.of_sameShape (show GraphModel.SameShape m0 { m0 with edges := edges } from
      ⟨rfl, hk, fun _ => rfl, hends, rfl, rfl⟩)).of_edges rfl rfl⟩
  unfold GraphModel.applyMass at hu
  rw [GraphModel.containsNode_mapNodes] at hu
  simpa [GraphModel.containsNode, hn0] using hu

/-- The settle pass keeps the graph plain. -/
lemma PlainGraph.settle (h : e.PlainGraph) {r : SettleReport} (hs : e.settle s = .ok (r, e')) :
    e'.PlainGraph := by
  unfold Explorer.settle at hs
  obtain ⟨⟨k, e1⟩, h1, hs⟩ := Except.bind_eq_ok.1 hs
  have he1 := h.relayout h1
  cases hs
  split
  · -- pinning the seeds changes records of nodes only
    have hpin := List.foldlRecOn (motive := fun m : GraphModel => PlainGraph { e1 with model := m })
      e1.seeds (fun m u => m.modifyNode u fun n => { n with pinned := true }) he1
      fun m hm u _ => ⟨hm.wellFormed.modifyNode u fun _ => rfl,
        fun v hv => hm.nodes v ((GraphModel.containsNode_modifyNode u _ v).symm.trans hv),
        hm.ids.of_edges rfl rfl⟩
    exact ⟨hpin.wellFormed, hpin.nodes, hpin.ids⟩
  · exact he1

/-- The loop of an extrusion keeps the graph plain. -/
lemma PlainGraph.extrudeLoop (isolated : Bool) : ∀ (fuel : Nat) (work removed : List String)
    (e : Explorer), e.PlainGraph → (extrudeLoop isolated fuel work removed e).2.PlainGraph
  | 0, _, _, _, h => h
  | _ + 1, [], _, _, h => h
  | fuel + 1, current :: rest, removed, e, h => by
    rw [Explorer.extrudeLoop]
    split
    · exact PlainGraph.extrudeLoop isolated fuel rest removed e h
    · next ns m hr =>
      have hwf := h.wellFormed.removeNode current
      have hids := h.ids.removeNode h.wellFormed h.nodes current
      have hwithin := GraphModel.within_removeNode (g := e.model) current
      rw [hr] at hwf hids hwithin
      exact PlainGraph.extrudeLoop isolated fuel _ _ _
        ⟨hwf, fun u hu => h.nodes u (hwithin.node u hu), hids⟩

/-- An extrusion keeps the graph plain: the URI is excluded first, which only widens what
excuses a folded id, and the loop and the relayout keep it plain. -/
lemma PlainGraph.extrude (h : e.PlainGraph) {uri : String} {isolated : Bool}
    {removed : List String} (hx : e.extrude uri isolated s = .ok (removed, e')) : e'.PlainGraph := by
  unfold Explorer.extrude at hx
  dsimp only at hx
  generalize hres : Explorer.extrudeLoop isolated _ _ _ _ = res at hx
  obtain ⟨⟨k, e3⟩, hr, hx⟩ := Except.bind_eq_ok.1 hx
  cases hx
  refine PlainGraph.relayout ?_ hr
  rw [← hres]
  refine PlainGraph.extrudeLoop isolated _ _ _ _ ⟨h.wellFormed, h.nodes, h.ids.edges, fun f hf => ?_⟩
  have hwider : ∀ v ∈ e.excluded, v ∈ StrSet.insert uri e.excluded :=
    fun v hv => (StrSet.mem_insert _ _ _).2 (.inr hv)
  obtain ⟨a, b, ha, hb, hf, hrev⟩ := h.ids.folded f hf
  exact ⟨a, b, ha, hb, hf, hrev.imp_right (Or.imp (hwider a) (hwider b))⟩

end Explorer

end CorpusBench
