import Mathlib.Data.List.Nodup
import CorpusBench.Graph.Layout
import CorpusBench.Proofs.Data.StrMap

/-!
# The representation invariant of the plotted graph

The model keeps four coupled tables: nodes by URI, edges by id, the incidence of every node and
the folded edge ids.  They are *well formed* when

* the tables are sorted by key, so that no key is stored twice;
* every node is stored under its own URI and every edge under its id `{from}-{to}`;
* both ends of every edge are nodes;
* the incidence has exactly the nodes as keys, and the incidence of a node is a sorted set of
  exactly the ids of the edges touching it;
* no folded id is the id of an edge on screen.

Every operation of the model keeps this invariant, and so do the layout passes of a settle.
Removing a node is the delicate one: it first drops the node and its incidence and then its
edges one by one, and in between the edges still to go have an end that is no node.  Its proof
goes through `Coherent`, the invariant without the condition on ends, and `Detaching`, which
names the edges still to go.

## Main definitions

* `GraphModel.Coherent`, `GraphModel.WellFormed`.
* `GraphModel.SameShape` — two models that differ only in what nodes and edges
  carry besides their names.

## Main results

* `GraphModel.WellFormed.addNode`, `.addEdge`, `.removeEdge`, `.foldEdge`,
  `.removeNode` — the operations keep the invariant.
* `GraphModel.WellFormed.normalizeDirections`, `.applyThickness`, `.applyMass` —
  so do the layout passes.
* `GraphModel.WellFormed.degree_eq` — the degree of a node is the number of edges
  touching it.
* `GraphModel.WellFormed.nodup_uris`, `.nodup_ends` — no URI and no ordered pair of
  ends is on screen twice.
-/

namespace CorpusBench

namespace Edge

/-- The ordered pair of ends of an edge. -/
def ends (e : Edge) : String × String := (e.source, e.target)

/-- Whether a node is an end of an edge. -/
def Touches (e : Edge) (u : String) : Prop := e.source = u ∨ e.target = u

end Edge

namespace GraphModel

/-- The invariant without the condition that the ends of edges are nodes. -/
structure Coherent (g : GraphModel) : Prop where
  nodes_sorted : StrMap.Sorted g.nodes
  edges_sorted : StrMap.Sorted g.edges
  incidence_sorted : StrMap.Sorted g.incidence
  /-- Every node is stored under its URI. -/
  node_uri : ∀ u n, g.node? u = some n → n.uri = u
  /-- Every edge is stored under its id `{from}-{to}`. -/
  edge_id : ∀ i e, g.edge? i = some e → e.id = i
  /-- The incidence has exactly the nodes as keys. -/
  incidence_keys : ∀ u, g.incidence.containsKey u = g.containsNode u
  /-- The incidence of a node is a sorted set... -/
  incidence_sorted_ids : ∀ u ids, g.incidence.lookup u = some ids → StrSet.Sorted ids
  /-- ...of exactly the ids of the edges touching it. -/
  incidence_ids : ∀ u ids, g.incidence.lookup u = some ids →
    ∀ i, i ∈ ids ↔ ∃ e, g.edge? i = some e ∧ e.Touches u
  /-- A folded id is the id of no edge on screen. -/
  folded_unplotted : ∀ i ∈ g.folded, g.edge? i = none

/-- The representation invariant of the model. -/
structure WellFormed (g : GraphModel) : Prop extends Coherent g where
  /-- Both ends of every edge are nodes. -/
  ends_plotted : ∀ i e, g.edge? i = some e → g.containsNode e.source ∧ g.containsNode e.target

lemma containsNode_iff (g : GraphModel) (u : String) :
    g.containsNode u = true ↔ (g.node? u).isSome := Iff.rfl

lemma containsEdge_eq_false {g : GraphModel} {i : String} :
    g.containsEdge i = false ↔ g.edge? i = none ∧ i ∉ g.folded := by
  simp [containsEdge, edge?, StrMap.containsKey, StrSet.contains_eq_false]

lemma WellFormed.empty : WellFormed ({} : GraphModel) where
  nodes_sorted := StrMap.sorted_nil
  edges_sorted := StrMap.sorted_nil
  incidence_sorted := StrMap.sorted_nil
  node_uri := by simp [node?]
  edge_id := by simp [edge?]
  incidence_keys := by simp [containsNode, StrMap.containsKey]
  incidence_sorted_ids := by simp
  incidence_ids := by simp
  folded_unplotted := by simp
  ends_plotted := by simp [edge?]

/-! ### Models of the same shape -/

/-- Two models differ only in what their nodes and edges carry besides URIs and ends: the same
keys in the same order, the same URIs and ends under each key, the same incidence and folded
ids. -/
structure SameShape (g g' : GraphModel) : Prop where
  node_keys : g'.nodes.keys = g.nodes.keys
  edge_keys : g'.edges.keys = g.edges.keys
  node_uri : ∀ u, (g'.node? u).map Node.uri = (g.node? u).map Node.uri
  edge_ends : ∀ i, (g'.edge? i).map Edge.ends = (g.edge? i).map Edge.ends
  incidence : g'.incidence = g.incidence
  folded : g'.folded = g.folded

namespace SameShape

variable {g g' : GraphModel}

lemma containsNode (h : SameShape g g') (u : String) : g'.containsNode u = g.containsNode u := by
  have := congrArg Option.isSome (h.node_uri u)
  simpa [GraphModel.containsNode, StrMap.containsKey, node?] using this

/-- An edge of the new model has the ends of the edge under its key in the old one. -/
lemma edge? (h : SameShape g g') {i : String} {e' : Edge} (he : g'.edge? i = some e') :
    ∃ e, g.edge? i = some e ∧ e.source = e'.source ∧ e.target = e'.target := by
  have := h.edge_ends i
  rw [he] at this
  cases hg : g.edge? i with
  | none => simp [hg] at this
  | some e =>
    simp only [hg, Option.map_some, Option.some.injEq, Edge.ends, Prod.mk.injEq] at this
    exact ⟨e, rfl, this.1.symm, this.2.symm⟩

lemma edge?_eq_none (h : SameShape g g') {i : String} (he : g.edge? i = none) : g'.edge? i = none := by
  have := h.edge_ends i
  rw [he] at this
  simpa using this

/-- An edge of the old model has an edge with its ends in the new one. -/
lemma edge?_symm (h : SameShape g g') {i : String} {e : Edge} (he : g.edge? i = some e) :
    ∃ e', g'.edge? i = some e' ∧ e'.source = e.source ∧ e'.target = e.target := by
  have := h.edge_ends i
  rw [he] at this
  cases hg : g'.edge? i with
  | none => simp [hg] at this
  | some e' =>
    simp only [hg, Option.map_some, Option.some.injEq, Edge.ends, Prod.mk.injEq] at this
    exact ⟨e', rfl, this.1, this.2⟩

end SameShape

/-- The invariant looks only at the shape of a model.

**Proof sketch.** Each field is a statement about keys, URIs, ends, incidence and folded ids,
and a model of the same shape has the same of each; an edge is stored under its id because its
id is made of its ends. -/
lemma WellFormed.of_sameShape {g g' : GraphModel} (hg : WellFormed g) (h : SameShape g g') :
    WellFormed g' where
  nodes_sorted := by rw [StrMap.Sorted, h.node_keys]; exact hg.nodes_sorted
  edges_sorted := by rw [StrMap.Sorted, h.edge_keys]; exact hg.edges_sorted
  incidence_sorted := by rw [h.incidence]; exact hg.incidence_sorted
  node_uri := by
    intro u n' hn'
    have := h.node_uri u
    rw [hn'] at this
    cases hn : g.node? u with
    | none => simp [hn] at this
    | some n => simp only [hn, Option.map_some, Option.some.injEq] at this; rw [this]; exact hg.node_uri u n hn
  edge_id := by
    intro i e' he'
    obtain ⟨e, he, hs, ht⟩ := h.edge? he'
    rw [← hg.edge_id i e he]
    simp [Edge.id, hs, ht]
  incidence_keys := by intro u; rw [h.incidence, h.containsNode]; exact hg.incidence_keys u
  incidence_sorted_ids := by rw [h.incidence]; exact hg.incidence_sorted_ids
  incidence_ids := by
    intro u ids hids i
    rw [h.incidence] at hids
    rw [hg.incidence_ids u ids hids i]
    constructor
    · rintro ⟨e, he, htouch⟩
      obtain ⟨e', he', hs, ht⟩ := h.edge?_symm he
      exact ⟨e', he', by simpa [Edge.Touches, hs, ht] using htouch⟩
    · rintro ⟨e', he', htouch⟩
      obtain ⟨e, he, hs, ht⟩ := h.edge? he'
      exact ⟨e, he, by simpa [Edge.Touches, hs, ht] using htouch⟩
  folded_unplotted := by
    intro i hi
    rw [h.folded] at hi
    exact h.edge?_eq_none (hg.folded_unplotted i hi)
  ends_plotted := by
    intro i e' he'
    obtain ⟨e, he, hs, ht⟩ := h.edge? he'
    rw [h.containsNode, h.containsNode, ← hs, ← ht]
    exact hg.ends_plotted i e he

/-! ### Adding nodes and edges -/

section Add

variable {g : GraphModel}

@[simp] lemma nodes_addEdge (e : Edge) : (g.addEdge e).2.nodes = g.nodes := by
  unfold GraphModel.addEdge
  split <;> rfl

/-- No edge touches a URI that is not a node. -/
lemma WellFormed.not_touches (hg : WellFormed g) {u : String} (hu : g.containsNode u = false)
    {i : String} {e : Edge} (he : g.edge? i = some e) : ¬ e.Touches u := by
  rintro (rfl | rfl)
  · simp [(hg.ends_plotted i e he).1] at hu
  · simp [(hg.ends_plotted i e he).2] at hu

/-- The incidence of any URI, taken as empty when it has none, holds the ids of the edges
touching it. -/
lemma WellFormed.mem_incidence (hg : WellFormed g) (u j : String) :
    j ∈ (g.incidence.lookup u).getD [] ↔ ∃ e, g.edge? j = some e ∧ e.Touches u := by
  cases hids : g.incidence.lookup u with
  | some ids => exact hg.incidence_ids u ids hids j
  | none =>
    have hu : g.containsNode u = false := by
      rw [← hg.incidence_keys]; simp [StrMap.containsKey, hids]
    simp only [Option.getD_none, List.not_mem_nil, false_iff]
    rintro ⟨e, he, htouch⟩
    exact hg.not_touches hu he htouch

lemma WellFormed.sorted_incidence (hg : WellFormed g) (u : String) :
    StrSet.Sorted ((g.incidence.lookup u).getD []) := by
  cases hids : g.incidence.lookup u with
  | some ids => exact hg.incidence_sorted_ids u ids hids
  | none => exact List.Pairwise.nil

/-- Adding a node keeps the invariant: a new URI gets an empty incidence, which is right
since no edge touches a URI that was no node. -/
lemma WellFormed.addNode (hg : WellFormed g) (n : Node) : WellFormed (g.addNode n).2 := by
  unfold GraphModel.addNode
  by_cases hn : g.containsNode n.uri = true
  · simpa [hn] using hg
  have hn' : g.containsNode n.uri = false := by simpa using hn
  have hinc : g.incidence.containsKey n.uri = false := by rw [hg.incidence_keys]; exact hn'
  simp only [hn, hinc, Bool.false_eq_true, if_false]
  exact {
    nodes_sorted := hg.nodes_sorted.insert _ _
    edges_sorted := hg.edges_sorted
    incidence_sorted := hg.incidence_sorted.insert _ _
    node_uri := by
      intro u m hm
      simp only [node?, StrMap.lookup_insert] at hm
      split at hm
      · next h => cases hm; exact h.symm
      · exact hg.node_uri u m hm
    edge_id := hg.edge_id
    incidence_keys := by
      intro u
      simp only [containsNode, StrMap.containsKey, StrMap.lookup_insert]
      split
      · rfl
      · exact hg.incidence_keys u
    incidence_sorted_ids := by
      intro u ids hids
      simp only [StrMap.lookup_insert] at hids
      split at hids
      · cases hids; exact List.Pairwise.nil
      · exact hg.incidence_sorted_ids u ids hids
    incidence_ids := by
      intro u ids hids j
      simp only [StrMap.lookup_insert] at hids
      split at hids
      · next h =>
        cases hids
        subst h
        simp only [List.not_mem_nil, false_iff]
        rintro ⟨e, he, htouch⟩
        exact hg.not_touches hn' he htouch
      · exact hg.incidence_ids u ids hids j
    folded_unplotted := hg.folded_unplotted
    ends_plotted := by
      intro i e he
      obtain ⟨hs, ht⟩ := hg.ends_plotted i e he
      simp only [containsNode, StrMap.containsKey, StrMap.lookup_insert] at hs ht ⊢
      constructor
      · split <;> simp_all
      · split <;> simp_all }

/-- Recording an edge id in the incidence of a node. -/
lemma lookup_touch (inc : StrMap StrSet) (w i u : String) :
    (touch inc w i).lookup u =
      if u = w then some (StrSet.insert i ((inc.lookup w).getD [])) else inc.lookup u := by
  simp [touch, StrMap.lookup_insert]

lemma mem_lookup_touch (inc : StrMap StrSet) (w i u j : String) :
    j ∈ ((touch inc w i).lookup u).getD [] ↔ j ∈ (inc.lookup u).getD [] ∨ (u = w ∧ j = i) := by
  rw [lookup_touch]
  by_cases hu : u = w
  · subst hu; simp [StrSet.mem_insert, or_comm]
  · simp [hu]

lemma sorted_lookup_touch {inc : StrMap StrSet}
    (h : ∀ u, StrSet.Sorted ((inc.lookup u).getD [])) (w i u : String) :
    StrSet.Sorted (((touch inc w i).lookup u).getD []) := by
  rw [lookup_touch]
  split
  · next hu => subst hu; exact (h u).insert i
  · exact h u

lemma containsKey_touch (inc : StrMap StrSet) (w i u : String) :
    (touch inc w i).containsKey u = (u == w || inc.containsKey u) := by
  simp only [StrMap.containsKey, lookup_touch]
  by_cases hu : u = w <;> simp [hu]

/-- Adding an edge keeps the invariant: its id is fresh, also among the folded ids, and its
ends are nodes, whose incidence gains the id. -/
lemma WellFormed.addEdge (hg : WellFormed g) (e : Edge) : WellFormed (g.addEdge e).2 := by
  unfold GraphModel.addEdge
  by_cases hc : (g.containsEdge e.id || !g.containsNode e.source || !g.containsNode e.target) = true
  · simpa [hc] using hg
  simp only [Bool.or_eq_true, Bool.not_eq_true', not_or, Bool.not_eq_false] at hc
  obtain ⟨⟨hfresh, hs⟩, ht⟩ := hc
  have hfresh' := containsEdge_eq_false.1 (by simpa using hfresh)
  simp only [hfresh, hs, ht, Bool.not_true, Bool.or_false, Bool.false_eq_true, if_false]
  -- the edges after the insertion, seen from one id
  have hedge : ∀ j, StrMap.lookup j (g.edges.insert e.id e) =
      if j = e.id then some e else g.edge? j := fun j => StrMap.lookup_insert _ _ _ _
  exact {
    nodes_sorted := hg.nodes_sorted
    edges_sorted := hg.edges_sorted.insert _ _
    incidence_sorted := (hg.incidence_sorted.insert _ _).insert _ _
    node_uri := hg.node_uri
    edge_id := by
      intro j e' he'
      simp only [edge?, hedge] at he'
      split at he'
      · next h => cases he'; exact h.symm
      · exact hg.edge_id j e' he'
    incidence_keys := by
      intro u
      show (touch (touch g.incidence e.source e.id) e.target e.id).containsKey u = g.containsNode u
      simp only [containsKey_touch, hg.incidence_keys]
      by_cases hus : u = e.source
      · subst hus; simp [hs]
      · by_cases hut : u = e.target
        · subst hut; simp [ht]
        · have h1 : (u == e.target) = false := by simpa using hut
          have h2 : (u == e.source) = false := by simpa using hus
          rw [h1, h2, Bool.false_or, Bool.false_or]
    incidence_sorted_ids := by
      intro u ids hids
      have := sorted_lookup_touch (sorted_lookup_touch hg.sorted_incidence e.source e.id)
        e.target e.id u
      rwa [hids] at this
    incidence_ids := by
      intro u ids hids j
      have hmem := mem_lookup_touch (touch g.incidence e.source e.id) e.target e.id u j
      rw [mem_lookup_touch g.incidence e.source e.id u j, hg.mem_incidence, hids,
        Option.getD_some] at hmem
      rw [hmem]
      simp only [edge?, hedge]
      constructor
      · rintro ((⟨e', he', htouch⟩ | ⟨rfl, rfl⟩) | ⟨rfl, rfl⟩)
        · have hne : j ≠ e.id := by
            rintro rfl
            have hnone : g.edges.lookup e.id = none := hfresh'.1
            rw [hnone] at he'
            cases he'
          exact ⟨e', by simp [hne, he'], htouch⟩
        · exact ⟨e, by simp, Or.inl rfl⟩
        · exact ⟨e, by simp, Or.inr rfl⟩
      · rintro ⟨e', he', htouch⟩
        split at he'
        · next h =>
          cases he'
          rcases htouch with rfl | rfl
          · exact Or.inl (Or.inr ⟨rfl, h⟩)
          · exact Or.inr ⟨rfl, h⟩
        · exact Or.inl (Or.inl ⟨e', he', htouch⟩)
    folded_unplotted := by
      intro j hj
      simp only [edge?, hedge]
      split
      · next h => subst h; exact absurd hj hfresh'.2
      · exact hg.folded_unplotted j hj
    ends_plotted := by
      intro j e' he'
      simp only [edge?, hedge] at he'
      split at he'
      · cases he'; exact ⟨hs, ht⟩
      · exact hg.ends_plotted j e' he' }

end Add

/-! ### Removing edges and nodes -/

section Remove

variable {g : GraphModel}

lemma removeEdge_of_none {i : String} (he : g.edge? i = none) : g.removeEdge i = (none, g) := by
  have he' : g.edges.lookup i = none := he
  simp [removeEdge, he']

lemma removeEdge_of_some {i : String} {e : Edge} (he : g.edge? i = some e) :
    g.removeEdge i = (some e,
      { g with
        edges := g.edges.erase i
        incidence := (g.incidence.modify e.source (StrSet.erase i)).modify e.target
          (StrSet.erase i) }) := by
  have he' : g.edges.lookup i = some e := he
  simp [removeEdge, he']

@[simp] lemma removeEdge_nodes (i : String) : (g.removeEdge i).2.nodes = g.nodes := by
  cases he : g.edge? i with
  | none => rw [removeEdge_of_none he]
  | some e => rw [removeEdge_of_some he]

lemma foldl_removeEdge_nodes (ids : List String) (g' : GraphModel) :
    (ids.foldl (fun g i => (g.removeEdge i).2) g').nodes = g'.nodes :=
  List.foldlRecOn (motive := fun g'' : GraphModel => g''.nodes = g'.nodes) ids _ rfl
    fun _ h i _ => (removeEdge_nodes i).trans h

/-- The incidence after an edge is removed: the id leaves the incidence of its two ends. -/
lemma lookup_incidence_erase (inc : StrMap StrSet) (s t i u : String) :
    ((inc.modify s (StrSet.erase i)).modify t (StrSet.erase i)).lookup u =
      (inc.lookup u).map fun ids => if u = s ∨ u = t then StrSet.erase i ids else ids := by
  rw [StrMap.lookup_modify, StrMap.lookup_modify]
  by_cases ht : u = t
  · by_cases hs : u = s
    · subst ht; subst hs
      simp only [if_true, or_self, Option.map_map]
      congr 1
      funext ids
      exact StrSet.erase_erase i ids
    · subst ht; simp [hs]
  · by_cases hs : u = s
    · subst hs; simp [ht]
    · simp [hs, ht]

/-- Removing an edge keeps every part of the invariant but the one on ends, whatever the ends
are: the id leaves the incidence of exactly the nodes it touched. -/
lemma Coherent.removeEdge (hg : Coherent g) (i : String) : Coherent (g.removeEdge i).2 := by
  cases he : g.edge? i with
  | none => rw [removeEdge_of_none he]; exact hg
  | some e =>
    rw [removeEdge_of_some he]
    have hedge : ∀ j, StrMap.lookup j (g.edges.erase i) = if j = i then none else g.edge? j :=
      StrMap.lookup_erase hg.edges_sorted i
    exact {
      nodes_sorted := hg.nodes_sorted
      edges_sorted := hg.edges_sorted.erase i
      incidence_sorted := (hg.incidence_sorted.modify _ _).modify _ _
      node_uri := hg.node_uri
      edge_id := by
        intro j e' he'
        simp only [edge?, hedge] at he'
        split at he'
        · cases he'
        · exact hg.edge_id j e' he'
      incidence_keys := by
        intro u
        show StrMap.containsKey u ((g.incidence.modify e.source (StrSet.erase i)).modify
          e.target (StrSet.erase i)) = g.containsNode u
        rw [← hg.incidence_keys u]
        simp only [StrMap.containsKey, lookup_incidence_erase, Option.isSome_map]
      incidence_sorted_ids := by
        intro u ids hids
        simp only [lookup_incidence_erase, Option.map_eq_some_iff] at hids
        obtain ⟨ids0, hids0, rfl⟩ := hids
        have := hg.incidence_sorted_ids u ids0 hids0
        split
        · exact this.erase i
        · exact this
      incidence_ids := by
        intro u ids hids j
        simp only [lookup_incidence_erase, Option.map_eq_some_iff] at hids
        obtain ⟨ids0, hids0, rfl⟩ := hids
        simp only [edge?, hedge]
        split
        · next hu =>
          rw [StrSet.mem_erase, hg.incidence_ids u ids0 hids0 j]
          by_cases hj : j = i <;> simp [hj, edge?]
        · next hu =>
          rw [hg.incidence_ids u ids0 hids0 j]
          by_cases hj : j = i
          · subst hj
            simp only [if_true, reduceCtorEq, false_and, exists_false, iff_false]
            rintro ⟨e', he', htouch⟩
            rw [he] at he'
            cases he'
            exact hu (htouch.imp Eq.symm Eq.symm)
          · simp [hj, edge?]
      folded_unplotted := by
        intro j hj
        simp only [edge?, hedge]
        split
        · rfl
        · exact hg.folded_unplotted j hj }

/-- Removing an edge keeps the invariant. -/
lemma WellFormed.removeEdge (hg : WellFormed g) (i : String) : WellFormed (g.removeEdge i).2 where
  toCoherent := hg.toCoherent.removeEdge i
  ends_plotted := by
    intro j e' he'
    have hcn : ∀ u, (g.removeEdge i).2.containsNode u = g.containsNode u := fun u => by
      simp [containsNode]
    rw [hcn, hcn]
    cases he : g.edge? i with
    | none => rw [removeEdge_of_none he] at he'; exact hg.ends_plotted j e' he'
    | some e =>
      rw [removeEdge_of_some he] at he'
      have hedge : StrMap.lookup j (g.edges.erase i) = if j = i then none else g.edge? j :=
        StrMap.lookup_erase hg.edges_sorted i j
      simp only [edge?, hedge] at he'
      split at he'
      · cases he'
      · exact hg.ends_plotted j e' he'

/-- Folding an edge keeps the invariant: its id becomes folded just as it leaves the edges. -/
lemma WellFormed.foldEdge (hg : WellFormed g) (i : String) : WellFormed (g.foldEdge i).2 := by
  have h1 := hg.removeEdge i
  cases he : g.edge? i with
  | none =>
    have : g.foldEdge i = (none, g) := by rw [GraphModel.foldEdge, removeEdge_of_none he]
    rw [this]; exact hg
  | some e =>
    have hfold : g.foldEdge i = (some e, { (g.removeEdge i).2 with
        folded := StrSet.insert e.id (g.removeEdge i).2.folded }) := by
      rw [GraphModel.foldEdge, removeEdge_of_some he]
    have hid : e.id = i := hg.edge_id i e he
    rw [hfold]
    exact { h1 with
      folded_unplotted := by
        intro j hj
        rcases (StrSet.mem_insert _ _ _).1 hj with rfl | hj
        · rw [hid]
          show (g.removeEdge i).2.edge? i = none
          rw [removeEdge_of_some he]
          exact (StrMap.lookup_erase hg.edges_sorted i i).trans (if_pos rfl)
        · exact h1.folded_unplotted j hj }

@[simp] lemma nodes_foldEdge (g : GraphModel) (i : String) : (g.foldEdge i).2.nodes = g.nodes := by
  rw [GraphModel.foldEdge]
  split
  all_goals
    next h =>
      have := removeEdge_nodes (g := g) i
      rw [h] at this
      exact this

lemma edge?_removeEdge (hs : StrMap.Sorted g.edges) (i j : String) :
    (g.removeEdge i).2.edge? j = if j = i then none else g.edge? j := by
  cases he : g.edge? i with
  | none =>
    rw [removeEdge_of_none he]
    split
    · next hj => rw [hj, he]
    · rfl
  | some e => rw [removeEdge_of_some he]; exact StrMap.lookup_erase hs i j

@[simp] lemma containsNode_removeEdge (i u : String) :
    (g.removeEdge i).2.containsNode u = g.containsNode u := by
  simp [containsNode]

/-- While a node is being removed, every edge whose ends are not both nodes is among `rest`,
the edges still to go. -/
def Detaching (g : GraphModel) (rest : List String) : Prop :=
  ∀ i e, g.edge? i = some e → i ∈ rest ∨ (g.containsNode e.source ∧ g.containsNode e.target)

lemma Detaching.removeEdge (hg : Coherent g) {i : String} {rest : List String}
    (hd : Detaching g (i :: rest)) : Detaching (g.removeEdge i).2 rest := by
  intro j e he
  rw [edge?_removeEdge hg.edges_sorted] at he
  split at he
  · cases he
  · next hj =>
    simp only [containsNode_removeEdge]
    rcases hd j e he with hmem | hends
    · exact .inl ((List.mem_cons.1 hmem).resolve_left hj)
    · exact .inr hends

/-- Removing, one by one, all the edges whose ends may be missing leaves a well-formed model.

**Proof sketch.** Induction on the edges still to go: each removal keeps `Coherent`
(`Coherent.removeEdge`) and shortens the list in `Detaching`; with none left, `Detaching` is
the condition on ends. -/
lemma Coherent.removeEdges : ∀ (ids : List String) (g : GraphModel), Coherent g →
    Detaching g ids → WellFormed (ids.foldl (fun g i => (g.removeEdge i).2) g)
  | [], _, hg, hd => ⟨hg, fun i e he => (hd i e he).resolve_left List.not_mem_nil⟩
  | _ :: ids, _, hg, hd => Coherent.removeEdges ids _ (hg.removeEdge _) (hd.removeEdge hg)

/-- Threading other data through the removal of edges does not change the model it leaves. -/
lemma foldl_removeEdge_snd {β : Type} (F : β × GraphModel → String → β × GraphModel)
    (hF : ∀ acc i, (F acc i).2 = (acc.2.removeEdge i).2) :
    ∀ (ids : List String) (acc : β × GraphModel),
      (ids.foldl F acc).2 = ids.foldl (fun g i => (g.removeEdge i).2) acc.2
  | [], _ => rfl
  | i :: ids, acc => by
    rw [List.foldl_cons, List.foldl_cons, foldl_removeEdge_snd F hF ids, hF]

/-- Removing a node drops it and its incidence, then each edge touching it. -/
lemma removeNode_snd {u : String} (hu : g.containsNode u = true) :
    (g.removeNode u).2 = ((g.incidence.lookup u).getD []).foldl (fun g i => (g.removeEdge i).2)
      { g with nodes := g.nodes.erase u, incidence := g.incidence.erase u } := by
  simp only [removeNode, hu, Bool.not_true, Bool.false_eq_true, if_false]
  apply foldl_removeEdge_snd
  rintro ⟨others, g'⟩ i
  dsimp only
  split
  · next e g'' h => rw [h]; split <;> rfl
  · next g'' h => rw [h]

/-- Removing a node fails only when it is not plotted, and then changes nothing. -/
lemma removeNode_none {u : String} {m : GraphModel} (h : g.removeNode u = (none, m)) :
    g.containsNode u = false ∧ m = g := by
  unfold GraphModel.removeNode at h
  split at h
  · next hu =>
    cases h
    simpa using hu
  · cases h

/-- The model just after a node and its incidence are dropped, before its edges go. -/
lemma WellFormed.coherent_dropNode (hg : WellFormed g) (u : String) :
    Coherent { g with nodes := g.nodes.erase u, incidence := g.incidence.erase u } := by
  have hnode := StrMap.lookup_erase hg.nodes_sorted u
  have hinc := StrMap.lookup_erase hg.incidence_sorted u
  exact {
    nodes_sorted := hg.nodes_sorted.erase u
    edges_sorted := hg.edges_sorted
    incidence_sorted := hg.incidence_sorted.erase u
    node_uri := by
      intro v n hn
      simp only [node?, hnode] at hn
      split at hn
      · cases hn
      · exact hg.node_uri v n hn
    edge_id := hg.edge_id
    incidence_keys := by
      intro v
      simp only [containsNode, StrMap.containsKey, hnode, hinc]
      split
      · rfl
      · exact hg.incidence_keys v
    incidence_sorted_ids := by
      intro v ids hids
      simp only [hinc] at hids
      split at hids
      · cases hids
      · exact hg.incidence_sorted_ids v ids hids
    incidence_ids := by
      intro v ids hids
      simp only [hinc] at hids
      split at hids
      · cases hids
      · exact hg.incidence_ids v ids hids
    folded_unplotted := hg.folded_unplotted }

/-- Removing a node keeps the invariant.

**Proof sketch.** Once the node and its incidence are dropped, the edges without both ends are
exactly those touching the node, that is, those of its incidence; `Coherent.removeEdges` then
removes them. -/
lemma WellFormed.removeNode (hg : WellFormed g) (u : String) : WellFormed (g.removeNode u).2 := by
  cases hu : g.containsNode u with
  | false => simpa [GraphModel.removeNode, hu] using hg
  | true =>
    rw [removeNode_snd hu]
    refine Coherent.removeEdges _ _ (hg.coherent_dropNode u) ?_
    intro i e he
    have hends := hg.ends_plotted i e he
    by_cases htouch : e.Touches u
    · exact .inl ((hg.mem_incidence u i).2 ⟨e, he, htouch⟩)
    · have hnode := StrMap.lookup_erase hg.nodes_sorted u
      simp only [Edge.Touches, not_or] at htouch
      refine .inr ⟨?_, ?_⟩ <;>
        simp only [containsNode, StrMap.containsKey, hnode] at hends ⊢
      · rw [if_neg htouch.1]; exact hends.1
      · rw [if_neg htouch.2]; exact hends.2

end Remove

/-! ### Changing what nodes and edges carry -/

section Carry

variable {g : GraphModel}

/-- New node records with the old keys and URIs. -/
lemma WellFormed.withNodes (hg : WellFormed g) {nodes : StrMap Node}
    (hk : nodes.keys = g.nodes.keys)
    (hu : ∀ u, (nodes.lookup u).map Node.uri = (g.node? u).map Node.uri) :
    WellFormed { g with nodes := nodes } :=
  hg.of_sameShape
    { node_keys := hk, edge_keys := rfl, node_uri := hu, edge_ends := fun _ => rfl,
      incidence := rfl, folded := rfl }

/-- New edge records with the old keys and ends. -/
lemma WellFormed.withEdges (hg : WellFormed g) {edges : StrMap Edge}
    (hk : edges.keys = g.edges.keys)
    (he : ∀ i, (edges.lookup i).map Edge.ends = (g.edge? i).map Edge.ends) :
    WellFormed { g with edges := edges } :=
  hg.of_sameShape
    { node_keys := rfl, edge_keys := hk, node_uri := fun _ => rfl, edge_ends := he,
      incidence := rfl, folded := rfl }

lemma WellFormed.modifyNode (hg : WellFormed g) (u : String) {f : Node → Node}
    (hf : ∀ n, (f n).uri = n.uri) : WellFormed (g.modifyNode u f) := by
  refine hg.withNodes (StrMap.keys_modify u f g.nodes) fun v => ?_
  rw [StrMap.lookup_modify]
  split
  · simp [node?, Option.map_map, Function.comp_def, hf]
  · rfl

lemma mapNodes_eq (f : Node → Node) :
    g.mapNodes f = { g with nodes := g.nodes.map fun p => (p.1, f p.2) } := rfl

lemma WellFormed.mapNodes (hg : WellFormed g) {f : Node → Node} (hf : ∀ n, (f n).uri = n.uri) :
    WellFormed (g.mapNodes f) := by
  let F := fun p : String × Node => (p.1, f p.2)
  rw [mapNodes_eq]
  refine hg.withNodes (StrMap.keys_map F (fun _ => rfl) g.nodes) fun v => ?_
  rw [StrMap.lookup_map F (fun _ => rfl)]
  simp [node?, Option.map_map, Function.comp_def, F, hf]

/-- Replacing a node by a record with its URI. -/
lemma WellFormed.setNode (hg : WellFormed g) {u : String} {n : Node} (hn : g.node? u = some n)
    (n' : Node) (h : n'.uri = n.uri) : WellFormed { g with nodes := g.nodes.insert u n' } := by
  have hmem : u ∈ g.nodes.keys := (StrMap.isSome_lookup_iff u g.nodes).1 (Option.isSome_iff_exists.2 ⟨n, hn⟩)
  refine hg.withNodes (StrMap.keys_insert_of_mem hg.nodes_sorted hmem n') fun v => ?_
  rw [StrMap.lookup_insert]
  split
  · next hv => subst hv; simp [hn, h]
  · rfl

/-- Replacing an edge by a record with its ends. -/
lemma WellFormed.setEdge (hg : WellFormed g) {i : String} {e : Edge} (he : g.edge? i = some e)
    (e' : Edge) (h : e'.ends = e.ends) : WellFormed { g with edges := g.edges.insert i e' } := by
  have hmem : i ∈ g.edges.keys := (StrMap.isSome_lookup_iff i g.edges).1 (Option.isSome_iff_exists.2 ⟨e, he⟩)
  refine hg.withEdges (StrMap.keys_insert_of_mem hg.edges_sorted hmem e') fun j => ?_
  rw [StrMap.lookup_insert]
  split
  · next hj => subst hj; simp [he, h]
  · rfl

end Carry

/-! ### The layout passes -/

section Layout

variable {g : GraphModel}

/-- Folding a reverse edge into its forward edge, or turning it round, keeps the invariant. -/
lemma WellFormed.turnEdge {acc : Nat × GraphModel} (hg : WellFormed acc.2) (c : Collapse)
    (i : String) : WellFormed (GraphModel.turnEdge c acc i).2 := by
  obtain ⟨n, g⟩ := acc
  have h1 := hg.foldEdge i
  simp only [GraphModel.turnEdge]
  split
  · next g' hfold => rw [hfold] at h1; exact h1
  · next e g' hfold =>
    rw [hfold] at h1
    split
    · next ex hex => exact h1.setEdge hex _ rfl
    · exact h1.addEdge _

lemma WellFormed.normalizeDirections (hg : WellFormed g) (cs : List Collapse) :
    WellFormed (g.normalizeDirections cs).2 :=
  List.foldlRecOn (motive := fun acc : Nat × GraphModel => WellFormed acc.2) cs normalizeCollapse hg
    fun _ hacc c _ => List.foldlRecOn (motive := fun acc : Nat × GraphModel => WellFormed acc.2)
      _ _ hacc fun _ hacc' i _ => hacc'.turnEdge c i

@[simp] lemma nodes_turnEdge (c : Collapse) (acc : Nat × GraphModel) (i : String) :
    (GraphModel.turnEdge c acc i).2.nodes = acc.2.nodes := by
  obtain ⟨n, g⟩ := acc
  have h1 := nodes_foldEdge g i
  simp only [GraphModel.turnEdge]
  split
  · next g' hfold => rw [hfold] at h1; exact h1
  · next e g' hfold =>
    rw [hfold] at h1
    split
    · exact h1
    · rw [nodes_addEdge]; exact h1

@[simp] lemma nodes_normalizeDirections (cs : List Collapse) :
    (g.normalizeDirections cs).2.nodes = g.nodes :=
  List.foldlRecOn (motive := fun acc : Nat × GraphModel => acc.2.nodes = g.nodes) cs
    normalizeCollapse rfl fun _ hacc c _ =>
      List.foldlRecOn (motive := fun acc : Nat × GraphModel => acc.2.nodes = g.nodes)
        _ _ hacc fun _ hacc' i _ => (nodes_turnEdge c _ i).trans hacc'

/-- Setting the thickness of the edges keeps their keys and ends. -/
lemma applyThickness_ok {cs : List Collapse} {s : LinkScale} {g' : GraphModel}
    (h : g.applyThickness cs s = .ok g') :
    ∃ edges : StrMap Edge, g' = { g with edges := edges } ∧ edges.keys = g.edges.keys ∧
      ∀ i, (edges.lookup i).map Edge.ends = (g.edge? i).map Edge.ends := by
  unfold GraphModel.applyThickness at h
  simp only [bind, Except.bind] at h
  split at h
  · cases h
  · next edges hm =>
    cases h
    refine ⟨edges, rfl, StrMap.mapM_ok ?_ hm⟩
    -- each entry gets a thickness or the pass fails; nothing else changes
    rintro ⟨k, e⟩ q hq
    split at hq <;> split at hq
    · cases hq
    · cases hq; exact ⟨rfl, rfl⟩
    · cases hq
    · cases hq; exact ⟨rfl, rfl⟩

lemma WellFormed.applyThickness (hg : WellFormed g) {cs : List Collapse} {s : LinkScale}
    {g' : GraphModel} (h : g.applyThickness cs s = .ok g') : WellFormed g' := by
  obtain ⟨edges, rfl, hk, he⟩ := applyThickness_ok h
  exact hg.withEdges hk he

lemma nodes_applyThickness {cs : List Collapse} {s : LinkScale} {g' : GraphModel}
    (h : g.applyThickness cs s = .ok g') : g'.nodes = g.nodes := by
  obtain ⟨edges, rfl, -, -⟩ := applyThickness_ok h
  rfl

lemma WellFormed.applyMass (hg : WellFormed g) (cs : List Collapse) (s : LinkScale) :
    WellFormed (g.applyMass cs s) := by
  unfold GraphModel.applyMass
  exact hg.mapNodes fun _ => rfl

end Layout

/-! ### Which nodes are plotted -/

section Plotted

variable {g : GraphModel}

@[simp] lemma containsNode_mapNodes (f : Node → Node) (u : String) :
    (g.mapNodes f).containsNode u = g.containsNode u := by
  simp [containsNode, mapNodes_eq, StrMap.containsKey,
    StrMap.lookup_map (fun p : String × Node => (p.1, f p.2)) (fun _ => rfl)]

@[simp] lemma containsNode_modifyNode (v : String) (f : Node → Node) (u : String) :
    (g.modifyNode v f).containsNode u = g.containsNode u := by
  simp only [containsNode, modifyNode, StrMap.containsKey, StrMap.lookup_modify]
  split <;> simp

lemma containsNode_addNode (n : Node) (u : String) :
    (g.addNode n).2.containsNode u = true → u = n.uri ∨ g.containsNode u = true := by
  unfold GraphModel.addNode
  split
  · exact Or.inr
  · simp only [containsNode, StrMap.containsKey, StrMap.lookup_insert]
    split
    · next hu => exact fun _ => .inl hu
    · exact Or.inr

@[simp] lemma containsNode_addEdge (e : Edge) (u : String) :
    (g.addEdge e).2.containsNode u = g.containsNode u := by
  simp [containsNode]

/-- Replacing the record of a node changes no node's presence. -/
lemma containsNode_setNode {u : String} {n : Node} (hn : g.node? u = some n) (n' : Node)
    (v : String) : ({ g with nodes := g.nodes.insert u n' } : GraphModel).containsNode v =
      g.containsNode v := by
  simp only [containsNode, StrMap.containsKey, StrMap.lookup_insert]
  split
  · next hv => subst hv; rw [show StrMap.lookup v g.nodes = some n from hn]; rfl
  · rfl

/-- Removing a node removes that node and no other. -/
lemma WellFormed.containsNode_removeNode (hg : WellFormed g) (u v : String) :
    (g.removeNode u).2.containsNode v = (v != u && g.containsNode v) := by
  cases hu : g.containsNode u with
  | false =>
    have hrm : g.removeNode u = (none, g) := by simp [GraphModel.removeNode, hu]
    rw [hrm]
    by_cases hv : v = u
    · subst hv; simp [hu]
    · simp [hv]
  | true =>
    rw [removeNode_snd hu]
    simp only [containsNode, foldl_removeEdge_nodes, StrMap.containsKey, StrMap.lookup_erase hg.nodes_sorted]
    by_cases hv : v = u <;> simp [hv]

end Plotted

/-! ### Consequences of the invariant -/

section Consequences

variable {g : GraphModel}

lemma WellFormed.map_uri_nodeList (hg : WellFormed g) : g.nodeList.map Node.uri = g.nodes.keys := by
  simp only [nodeList, List.map_map, StrMap.keys]
  apply List.map_congr_left
  rintro ⟨k, n⟩ hkn
  exact hg.node_uri k n (hg.nodes_sorted.lookup_of_mem hkn)

lemma WellFormed.map_id_edgeList (hg : WellFormed g) : g.edgeList.map Edge.id = g.edges.keys := by
  simp only [edgeList, List.map_map, StrMap.keys]
  apply List.map_congr_left
  rintro ⟨k, e⟩ hke
  exact hg.edge_id k e (hg.edges_sorted.lookup_of_mem hke)

/-- No URI is plotted twice. -/
lemma WellFormed.nodup_uris (hg : WellFormed g) : (g.nodeList.map Node.uri).Nodup := by
  rw [hg.map_uri_nodeList]
  exact hg.nodes_sorted.nodup

/-- No ordered pair of ends is plotted twice: the id of an edge is made of its ends. -/
lemma WellFormed.nodup_ends (hg : WellFormed g) : (g.edgeList.map Edge.ends).Nodup := by
  have hid : (g.edgeList.map Edge.ends).map (fun p => edgeId p.1 p.2) = g.edges.keys := by
    rw [List.map_map, ← hg.map_id_edgeList]
    rfl
  have hnodup : ((g.edgeList.map Edge.ends).map (fun p => edgeId p.1 p.2)).Nodup :=
    hid ▸ hg.edges_sorted.nodup
  exact List.Nodup.of_map _ hnodup

/-- The degree of a node is the number of plotted edges touching it.

**Proof sketch.** The degree is the length of the incidence, a list without repeats whose
members are the ids of the edges touching the node.  The ids of those edges, in key order,
are another such list, and two lists without repeats with the same members have the same
length. -/
lemma WellFormed.degree_eq (hg : WellFormed g) (u : String) :
    g.degree u = g.edgeList.countP (fun e => e.source == u || e.target == u) := by
  let touching : String × Edge → Bool := fun p => p.2.source == u || p.2.target == u
  let ids := (g.incidence.lookup u).getD []
  let L := (g.edges.filter touching).map Prod.fst
  have hids : ids.Nodup := (hg.sorted_incidence u).nodup
  have hL : L.Nodup := hg.edges_sorted.nodup.sublist (List.filter_sublist.map _)
  have hmem : ∀ i, i ∈ ids ↔ i ∈ L := by
    intro i
    rw [hg.mem_incidence u i]
    simp only [L, List.mem_map, List.mem_filter, touching, Prod.exists, exists_and_right,
      exists_eq_right, Bool.or_eq_true, beq_iff_eq, Edge.Touches]
    constructor
    · rintro ⟨e, he, htouch⟩
      exact ⟨e, StrMap.mem_of_lookup he, htouch⟩
    · rintro ⟨e, he, htouch⟩
      exact ⟨e, hg.edges_sorted.lookup_of_mem he, htouch⟩
  calc g.degree u = ids.length := rfl
    _ = L.length := ((List.perm_ext_iff_of_nodup hids hL).2 hmem).length_eq
    _ = g.edgeList.countP (fun e => e.source == u || e.target == u) := by
      simp [L, edgeList, List.countP_eq_length_filter, List.filter_map, touching, Function.comp_def]

end Consequences

end GraphModel

end CorpusBench
