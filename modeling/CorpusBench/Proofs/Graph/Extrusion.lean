import CorpusBench.Proofs.Graph.Explorer

/-!
# An extrusion removes exactly the nodes it strands

Extruding a node removes it for the rest of the session.  When asked to, the extrusion also
removes the nodes the removal leaves without edges, seeds apart, and the nodes those removals
strand in turn: a worklist, popped last in first out, of nodes whose degree has just dropped to
zero.  The graph changes while the worklist runs, a node may be pushed twice (once per edge it
had to a removed node) and nodes on a cycle keep each other.

What the loop removes does not depend on the order of the worklist: it is the *cascade* of the
node, the least set that holds the node when it is plotted, and every plotted node that is no
seed, has a neighbour in the set, and has all its edges leading to other nodes of the set
(`GraphModel.Cascade`).  The proof follows a marking algorithm: one invariant says that every
node removed, and every plotted node waiting, is in the cascade; another that every node of
the cascade not yet removed waits or still has an edge.  When the worklist is empty an
induction on the cascade shows that all of it is removed.

## Main definitions

* `GraphModel.Cascade` — the nodes an extrusion strands.
* `Explorer.Pruned` — the state of an extrusion after a set of nodes was removed.
* `Explorer.Cascading` — the invariant of the worklist.
* `Explorer.Extruded` — what an extrusion removes, excludes and keeps.

## Main results

* `GraphModel.removeNode_of_plotted` — removing a node returns the other ends of
  its edges, no more of them than the edges it removes.
* `Explorer.Cascading.mem_removed_iff` — once the worklist is empty, the nodes
  removed are the cascade.
* `Explorer.extrude_eq` — an extrusion is `Extruded` followed by a relayout.
-/

namespace CorpusBench

namespace StrMap

variable {α : Type}

/-- Erasing a key that has a value removes one entry. -/
lemma length_erase_of_lookup {m : StrMap α} {k : String} {v : α} (h : lookup k m = some v) :
    (erase k m).length + 1 = m.length := by
  induction m with
  | nil => simp at h
  | cons p m ih =>
    obtain ⟨k', v'⟩ := p
    by_cases hk : k = k'
    · simp [erase, hk]
    · simp only [lookup_cons, hk, if_false] at h
      simp [erase, hk, ih h]

end StrMap

namespace Edge

variable {e : Edge} {u w : String}

/-- The other end of an edge seen from `u`: its target when `u` is its source, else its source
when `u` is its target. -/
lemma other_eq_some :
    e.other u = some w ↔ (e.source = u ∧ e.target = w) ∨ (e.source ≠ u ∧ e.target = u ∧ e.source = w) := by
  unfold other
  by_cases hs : e.source = u <;> by_cases ht : e.target = u <;> simp [hs, ht]

lemma Touches.of_other (h : e.other u = some w) : e.Touches u ∧ e.Touches w := by
  rcases other_eq_some.1 h with ⟨hs, ht⟩ | ⟨-, ht, hs⟩
  · exact ⟨.inl hs, .inr ht⟩
  · exact ⟨.inr ht, .inl hs⟩

/-- An edge touching a node has an other end seen from it. -/
lemma Touches.exists_other (h : e.Touches u) : ∃ w, e.other u = some w := by
  by_cases hs : e.source = u
  · exact ⟨e.target, other_eq_some.2 (.inl ⟨hs, rfl⟩)⟩
  · exact ⟨e.source, other_eq_some.2 (.inr ⟨hs, h.resolve_left hs, rfl⟩)⟩

/-- Seen from its other end, an edge that is no loop leads back. -/
lemma other_symm (h : e.other u = some w) (hw : w ≠ u) : e.other w = some u := by
  rcases other_eq_some.1 h with ⟨hs, ht⟩ | ⟨-, ht, hs⟩
  · exact other_eq_some.2 (.inr ⟨fun h' => hw (h'.symm.trans hs), ht, hs⟩)
  · exact other_eq_some.2 (.inl ⟨hs, ht⟩)

/-- An edge between two distinct nodes leads from each to the other. -/
lemma other_of_touches (hu : e.Touches u) (hw : e.Touches w) (hne : w ≠ u) :
    e.other u = some w := by
  obtain ⟨x, hx⟩ := hu.exists_other
  rcases other_eq_some.1 hx with ⟨hs, ht⟩ | ⟨hs, ht, hx'⟩
  · rcases hw with hw | hw
    · exact absurd (hw.symm.trans hs) hne
    · rw [hx, ← ht, hw]
  · rcases hw with hw | hw
    · rw [hx, ← hx', hw]
    · exact absurd (hw.symm.trans ht) hne

end Edge

namespace GraphModel

variable {g : GraphModel}

/-! ### Removing a node -/

section Remove

/-- The neighbour a node finds across the edge of an id, the node itself apart. -/
def across (g : GraphModel) (u i : String) : Option String :=
  (g.edge? i).bind fun e => (e.other u).filter (· != u)

lemma across_eq_some {u i o : String} :
    g.across u i = some o ↔ ∃ e, g.edge? i = some e ∧ e.other u = some o ∧ o ≠ u := by
  simp [across, Option.bind_eq_some_iff, Option.filter_eq_some_iff]

lemma sorted_removeEdge (hs : StrMap.Sorted g.edges) (i : String) :
    StrMap.Sorted (g.removeEdge i).2.edges := by
  cases he : g.edge? i with
  | none => rw [removeEdge_of_none he]; exact hs
  | some e => rw [removeEdge_of_some he]; exact hs.erase i

/-- The edges of ids outside a list are left alone while the edges of the list go. -/
lemma edge?_foldl_removeEdge : ∀ (ids : List String) (g : GraphModel), StrMap.Sorted g.edges →
    ∀ j, (ids.foldl (fun g i => (g.removeEdge i).2) g).edge? j = if j ∈ ids then none else g.edge? j
  | [], _, _, j => by simp
  | i :: ids, g, hs, j => by
    rw [List.foldl_cons, edge?_foldl_removeEdge ids _ (sorted_removeEdge hs i) j,
      edge?_removeEdge hs]
    by_cases hj : j = i
    · simp [hj]
    · simp [hj]

/-- Removing an edge leaves the neighbours across the edges of other ids as they are. -/
lemma filterMap_across_removeEdge {u i : String} {ids : List String} (hs : StrMap.Sorted g.edges)
    (hi : i ∉ ids) : ids.filterMap ((g.removeEdge i).2.across u) = ids.filterMap (g.across u) :=
  List.filterMap_congr fun j hj => by
    simp only [across, edge?_removeEdge hs, if_neg (fun h : j = i => hi (h ▸ hj))]

/-- The edges of the ids of a list go one by one, and each step collects the neighbour across
the edge it removes: the neighbours collected are those across the edges of the list. -/
lemma foldl_collect {u : String} {F : List String × GraphModel → String → List String × GraphModel}
    (hF : ∀ others g i, F (others, g) i = (others ++ (g.across u i).toList, (g.removeEdge i).2)) :
    ∀ (ids others : List String) (g : GraphModel), ids.Nodup → StrMap.Sorted g.edges →
      ids.foldl F (others, g) =
        (others ++ ids.filterMap (g.across u), ids.foldl (fun g i => (g.removeEdge i).2) g)
  | [], others, g, _, _ => by simp
  | i :: ids, others, g, hnd, hs => by
    obtain ⟨hi, hnd⟩ := List.nodup_cons.1 hnd
    rw [List.foldl_cons, hF, foldl_collect hF ids _ _ hnd (sorted_removeEdge hs i),
      List.foldl_cons, List.filterMap_cons]
    -- the edges still to go are those the first removal leaves alone
    rw [filterMap_across_removeEdge hs hi]
    cases g.across u i <;> simp

/-- Removing the edges of the ids of a list removes at least as many edges as there are
neighbours across them. -/
lemma edgeCount_foldl_removeEdge (u : String) : ∀ (ids : List String) (g : GraphModel),
    ids.Nodup → StrMap.Sorted g.edges →
      (ids.foldl (fun g i => (g.removeEdge i).2) g).edgeCount + (ids.filterMap (g.across u)).length ≤
        g.edgeCount
  | [], _, _, _ => by simp
  | i :: ids, g, hnd, hs => by
    obtain ⟨hi, hnd⟩ := List.nodup_cons.1 hnd
    have ih := edgeCount_foldl_removeEdge u ids _ hnd (sorted_removeEdge hs i)
    rw [filterMap_across_removeEdge hs hi] at ih
    rw [List.foldl_cons, List.filterMap_cons]
    cases he : g.edge? i with
    | none =>
      rw [removeEdge_of_none he] at ih ⊢
      simpa [across, he] using ih
    | some e =>
      -- the first removal takes one edge, and collects at most one neighbour
      have hcount : (g.removeEdge i).2.edgeCount + 1 = g.edgeCount := by
        rw [removeEdge_of_some he]
        exact StrMap.length_erase_of_lookup he
      cases g.across u i <;> simp <;> omega

/-- Removing a plotted node returns the other ends of its edges, loops apart, and removes at
least as many edges as it returns ends. -/
lemma removeNode_of_plotted (hg : WellFormed g) {u : String} (hu : g.containsNode u = true) :
    ∃ g', g.removeNode u = (some (((g.incidence.lookup u).getD []).filterMap (g.across u)), g') ∧
      g'.edgeCount + (((g.incidence.lookup u).getD []).filterMap (g.across u)).length ≤
        g.edgeCount := by
  let g1 : GraphModel := { g with nodes := g.nodes.erase u, incidence := g.incidence.erase u }
  refine ⟨_, ?_, edgeCount_foldl_removeEdge u _ g1 (hg.sorted_incidence u).nodup hg.edges_sorted⟩
  simp only [removeNode, hu, Bool.not_true, Bool.false_eq_true, if_false]
  -- the step of the definition's fold is the one `foldl_collect` describes
  rw [foldl_collect (u := u) ?step _ [] g1 (hg.sorted_incidence u).nodup hg.edges_sorted]
  case step =>
    intro others g' i
    cases he : g'.edge? i with
    | none => simp [removeEdge_of_none he, across, he]
    | some e =>
      simp only [removeEdge_of_some he, across, he, Option.bind_some]
      cases e.other u with
      | none => simp
      | some o => by_cases ho : o = u <;> simp [ho, Option.filter]
  -- removing the node's own entries leaves its edges, so the neighbours across are the same
  rfl

/-- The other ends a removed node returns are its neighbours across its edges. -/
lemma mem_neighbors_iff (hg : WellFormed g) (u o : String) :
    o ∈ ((g.incidence.lookup u).getD []).filterMap (g.across u) ↔
      ∃ i e, g.edge? i = some e ∧ e.other u = some o ∧ o ≠ u := by
  simp only [List.mem_filterMap, across_eq_some, hg.mem_incidence]
  constructor
  · rintro ⟨i, -, e, he, ho, hne⟩
    exact ⟨i, e, he, ho, hne⟩
  · rintro ⟨i, e, he, ho, hne⟩
    exact ⟨i, ⟨e, he, (Edge.Touches.of_other ho).1⟩, e, he, ho, hne⟩

/-- Removing a node removes its record and no other. -/
lemma node?_removeNode (hg : WellFormed g) (u v : String) :
    (g.removeNode u).2.node? v = if v = u then none else g.node? v := by
  cases hu : g.containsNode u with
  | false =>
    have hrm : g.removeNode u = (none, g) := by simp [GraphModel.removeNode, hu]
    rw [hrm]
    split
    · next hv =>
      subst hv
      simpa [containsNode, StrMap.containsKey, node?] using hu
    · rfl
  | true =>
    rw [removeNode_snd hu]
    simp only [node?, foldl_removeEdge_nodes, StrMap.lookup_erase hg.nodes_sorted]

/-- Removing a node removes exactly the edges touching it. -/
lemma edge?_removeNode (hg : WellFormed g) (u i : String) (e : Edge) :
    (g.removeNode u).2.edge? i = some e ↔ g.edge? i = some e ∧ ¬ e.Touches u := by
  cases hu : g.containsNode u with
  | false =>
    have hrm : g.removeNode u = (none, g) := by simp [GraphModel.removeNode, hu]
    rw [hrm]
    exact ⟨fun he => ⟨he, hg.not_touches hu he⟩, And.left⟩
  | true =>
    rw [removeNode_snd hu, edge?_foldl_removeEdge _
      { g with nodes := g.nodes.erase u, incidence := g.incidence.erase u } hg.edges_sorted i]
    change (if i ∈ (g.incidence.lookup u).getD [] then none else g.edge? i) = some e ↔ _
    constructor
    · intro h
      split at h
      · cases h
      · next hno => exact ⟨h, fun ht => hno ((hg.mem_incidence u i).2 ⟨e, h, ht⟩)⟩
    · rintro ⟨he, hno⟩
      -- the id is no edge of the node: its edge does not touch it
      have hi : i ∉ (g.incidence.lookup u).getD [] := fun hi => by
        obtain ⟨e', he', ht⟩ := (hg.mem_incidence u i).1 hi
        rw [he] at he'
        cases he'
        exact hno ht
      rw [if_neg hi, he]

/-- Removing a node folds no edge. -/
lemma folded_removeNode (u : String) : (g.removeNode u).2.folded = g.folded := by
  cases hu : g.containsNode u with
  | false => simp [GraphModel.removeNode, hu]
  | true =>
    rw [removeNode_snd hu]
    exact List.foldlRecOn (motive := fun g'' : GraphModel => g''.folded = g.folded) _ _ rfl
      fun g' h i _ => by
        cases he : g'.edge? i with
        | none => rw [removeEdge_of_none he]; exact h
        | some e => rw [removeEdge_of_some he]; exact h

/-- A node without edges has degree zero, and conversely. -/
lemma WellFormed.degree_eq_zero_iff (hg : WellFormed g) (u : String) :
    g.degree u = 0 ↔ ∀ i e, g.edge? i = some e → ¬ e.Touches u := by
  rw [degree, List.length_eq_zero_iff, List.eq_nil_iff_forall_not_mem]
  simp only [hg.mem_incidence, not_exists, not_and]

/-- A node removed by `removeNode` was plotted. -/
lemma plotted_of_removeNode {u : String} {ns : List String} {m : GraphModel}
    (h : g.removeNode u = (some ns, m)) : g.containsNode u = true := by
  cases hu : g.containsNode u with
  | false => simp [GraphModel.removeNode, hu] at h
  | true => rfl

end Remove

/-! ### The cascade of an extrusion -/

/-- The nodes an extrusion of `uri` removes when it also removes the nodes it strands, with
`seeds` the seeds once `uri` is no longer one: the least set that holds `uri` when it is
plotted, and every plotted node that is no seed, is adjacent to a node of the set, and all of
whose edges, loops included, lead to nodes of the set other than itself. -/
inductive Cascade (g : GraphModel) (seeds : List String) (uri : String) : String → Prop
  | root : g.containsNode uri = true → Cascade g seeds uri uri
  | stranded {n m i : String} {e : Edge} : g.containsNode n = true → n ∉ seeds →
      g.edge? i = some e → e.other n = some m → Cascade g seeds uri m →
      (∀ j f k, g.edge? j = some f → f.other n = some k → k ≠ n) →
      (∀ j f k, g.edge? j = some f → f.other n = some k → Cascade g seeds uri k) →
      Cascade g seeds uri n

namespace Cascade

variable {seeds : List String} {uri n : String}

/-- A node of the cascade is plotted. -/
lemma plotted (h : Cascade g seeds uri n) : g.containsNode n = true := by
  cases h with
  | root hu => exact hu
  | stranded hn => exact hn

/-- A node of the cascade is its root or no seed. -/
lemma not_seed (h : Cascade g seeds uri n) : n = uri ∨ n ∉ seeds := by
  cases h with
  | root => exact .inl rfl
  | stranded _ hs => exact .inr hs

/-- A cascade is empty unless its node is plotted. -/
lemma root_plotted (h : Cascade g seeds uri n) : g.containsNode uri = true := by
  induction h with
  | root hu => exact hu
  | stranded _ _ _ _ _ _ _ ih => exact ih

end Cascade

end GraphModel

namespace Explorer

open GraphModel

variable {g₀ : GraphModel} {e₀ e : Explorer} {removed : List String}

/-! ### The loop of an extrusion -/

/-- An extrusion started on `e₀`, whose model is `g₀`, once it removed the nodes `removed`: its
model is `g₀` without them and without their edges, they are excluded, and nothing but the
model, the exclusions and the panes changed. -/
structure Pruned (g₀ : GraphModel) (e₀ : Explorer) (removed : List String) (e : Explorer) :
    Prop where
  wellFormed : e.model.WellFormed
  node : ∀ u, e.model.node? u = if u ∈ removed then none else g₀.node? u
  edge : ∀ i ed, e.model.edge? i = some ed ↔
    g₀.edge? i = some ed ∧ ed.source ∉ removed ∧ ed.target ∉ removed
  folded : e.model.folded = g₀.folded
  nodup : removed.Nodup
  excluded : ∀ u, u ∈ e.excluded ↔ u ∈ removed ∨ u ∈ e₀.excluded
  frame : { e with model := e₀.model, excluded := e₀.excluded, panes := e₀.panes } = e₀

lemma Pruned.start (hg : e₀.model.WellFormed) : Pruned e₀.model e₀ [] e₀ where
  wellFormed := hg
  node _ := rfl
  edge _ _ := by simp
  folded := rfl
  nodup := List.nodup_nil
  excluded _ := by simp
  frame := rfl

lemma Pruned.seeds (h : Pruned g₀ e₀ removed e) : e.seeds = e₀.seeds := by
  have := congrArg Explorer.seeds h.frame
  exact this

/-- A node is plotted once some nodes are removed exactly when it was and is not one of them. -/
lemma Pruned.containsNode (h : Pruned g₀ e₀ removed e) (u : String) :
    e.model.containsNode u = true ↔ u ∉ removed ∧ g₀.containsNode u = true := by
  rw [containsNode_iff, containsNode_iff, h.node]
  split <;> simp_all

/-- One more node removed, excluded, with its pane closed. -/
lemma Pruned.remove (h : Pruned g₀ e₀ removed e) {c : String} {ns : List String} {m : GraphModel}
    (hr : e.model.removeNode c = (some ns, m)) (panes : DetailPanes) :
    Pruned g₀ e₀ (removed ++ [c])
      { e with model := m, excluded := StrSet.insert c e.excluded, panes := panes } := by
  have hc : c ∉ removed := ((h.containsNode c).1 (plotted_of_removeNode hr)).1
  have hnode := node?_removeNode h.wellFormed c
  have hedge := edge?_removeNode h.wellFormed c
  have hwf := h.wellFormed.removeNode c
  have hfolded := folded_removeNode (g := e.model) c
  rw [hr] at hnode hedge hwf hfolded
  refine ⟨hwf, fun u => ?_, fun i ed => ?_, hfolded.trans h.folded,
    List.nodup_append.2 ⟨h.nodup, List.nodup_singleton c, by simpa using fun a (ha : a ∈ removed) (hac : a = c) => hc (hac ▸ ha)⟩, fun u => ?_, h.frame⟩
  · rw [hnode, h.node]
    by_cases huc : u = c <;> simp [huc]
  · rw [hedge, h.edge]
    simp only [Edge.Touches, List.mem_append, List.mem_singleton, not_or]
    tauto
  · rw [StrSet.mem_insert, h.excluded, List.mem_append, List.mem_singleton]
    tauto

/-- The invariant of the worklist of an extrusion of `uri` that removes the nodes it strands,
`seeds` being the seeds it spares: every node removed, and every plotted node waiting, is in the
cascade; every node of the cascade not yet removed waits or still has an edge; and `uri`, when
plotted at the start, is removed or waits. -/
structure Cascading (g₀ : GraphModel) (seeds : List String) (uri : String)
    (work removed : List String) (e : Explorer) : Prop where
  removed_mem : ∀ u ∈ removed, g₀.Cascade seeds uri u
  work_mem : ∀ u ∈ work, e.model.containsNode u = true → g₀.Cascade seeds uri u
  pending : ∀ n, g₀.Cascade seeds uri n → n ∉ removed →
    n ∈ work ∨ ∃ i ed, e.model.edge? i = some ed ∧ ed.Touches n
  root : g₀.containsNode uri = true → uri ∈ removed ∨ uri ∈ work

variable {seeds work : List String} {uri : String}

lemma Cascading.start (hg : e₀.model = g₀) : Cascading g₀ seeds uri [uri] [] e₀ where
  removed_mem _ h := (List.not_mem_nil h).elim
  work_mem u hu hplot := by
    rw [List.mem_singleton.1 hu, hg] at *
    exact .root hplot
  pending n hn _ := by
    cases hn with
    | root => exact .inl (List.mem_singleton_self _)
    | stranded _ _ he ho => exact .inr ⟨_, _, hg ▸ he, (Edge.Touches.of_other ho).1⟩
  root _ := .inr (List.mem_singleton_self _)

/-- A round that pops a node no longer plotted drops it. -/
lemma Cascading.skip (hp : Pruned g₀ e₀ removed e) {c : String} {rest : List String}
    (h : Cascading g₀ seeds uri (c :: rest) removed e) (hc : e.model.containsNode c = false) :
    Cascading g₀ seeds uri rest removed e where
  removed_mem := h.removed_mem
  work_mem u hu := h.work_mem u (List.mem_cons_of_mem c hu)
  pending n hn hnr := by
    rcases h.pending n hn hnr with hw | hedge
    · rcases List.mem_cons.1 hw with rfl | hw
      · -- a node of the cascade not removed is still plotted
        simp [(hp.containsNode n).2 ⟨hnr, hn.plotted⟩] at hc
      · exact .inl hw
    · exact .inr hedge
  root hu := by
    rcases h.root hu with hr | hw
    · exact .inl hr
    rcases List.mem_cons.1 hw with rfl | hw
    · by_contra hnr
      simp [(hp.containsNode uri).2 ⟨fun h' => hnr (.inl h'), hu⟩] at hc
    · exact .inr hw

/-- The nodes a round pushes: the neighbours of the node removed that are left plotted without
edges and are no seeds, last pushed first popped. -/
def pushed (m : GraphModel) (seeds ns : List String) : List String :=
  (ns.filter fun n => m.containsNode n && m.degree n == 0 && !seeds.contains n).reverse

lemma mem_pushed {m : GraphModel} {seeds ns : List String} {n : String} :
    n ∈ pushed m seeds ns ↔
      n ∈ ns ∧ m.containsNode n = true ∧ m.degree n = 0 ∧ n ∉ seeds := by
  simp [pushed, and_assoc]

/-- A round that removes a plotted node keeps the invariant: the nodes it pushes are stranded
by the nodes removed so far, and a node of the cascade that loses its last edge is pushed.

**Proof sketch.** A pushed node `n` lost an edge to the node removed, and has no edge left:
every edge it had in the first model leads to a node removed, each of the cascade, and none is
a loop.  Conversely a node of the cascade whose edges are all gone, and which had one to the
node removed, is among the neighbours returned, plotted, without edges and no seed, so it is
pushed. -/
lemma Cascading.remove (hp : Pruned g₀ e₀ removed e) (hseeds : e₀.seeds = seeds) {c : String}
    {rest ns : List String} {m : GraphModel} (h : Cascading g₀ seeds uri (c :: rest) removed e)
    (hr : e.model.removeNode c = (some ns, m)) (panes : DetailPanes) :
    Cascading g₀ seeds uri (pushed m e.seeds ns ++ rest) (removed ++ [c])
      { e with model := m, excluded := StrSet.insert c e.excluded, panes := panes } := by
  have hp' := hp.remove hr panes
  have hcplot := plotted_of_removeNode hr
  have hcc : g₀.Cascade seeds uri c := h.work_mem c List.mem_cons_self hcplot
  obtain ⟨m', hr', -⟩ := removeNode_of_plotted hp.wellFormed hcplot
  rw [hr] at hr'
  obtain ⟨hns, -⟩ := Prod.mk.inj hr'
  -- the neighbours returned are the other ends of the edges of the removed node
  have hns' : ∀ o, o ∈ ns ↔ ∃ i ed, e.model.edge? i = some ed ∧ ed.other c = some o ∧ o ≠ c := by
    rw [Option.some.inj hns]
    exact mem_neighbors_iff hp.wellFormed c
  have hedge := edge?_removeNode hp.wellFormed c
  rw [hr] at hedge
  -- a node has degree zero in the new model when no edge there touches it
  have hbare : ∀ n, m.degree n = 0 ↔ ∀ i ed, m.edge? i = some ed → ¬ ed.Touches n :=
    fun n => hp'.wellFormed.degree_eq_zero_iff n
  refine ⟨fun u hu => ?_, fun u hu hplot => ?_, fun n hn hnr => ?_, fun hu => ?_⟩
  · rcases List.mem_append.1 hu with hu | hu
    · exact h.removed_mem u hu
    · rw [List.mem_singleton.1 hu]; exact hcc
  · rcases List.mem_append.1 hu with hu | hu
    · -- a pushed node is stranded by the nodes removed
      obtain ⟨hn, -, hdeg, hseed⟩ := mem_pushed.1 hu
      rw [hp.seeds, hseeds] at hseed
      obtain ⟨i, ed, hed, hother, hne⟩ := (hns' u).1 hn
      obtain ⟨hur, hu0⟩ := (hp'.containsNode u).1 hplot
      -- every edge of `u` in the first model is gone, so its other end is removed
      have hgone : ∀ j f k, g₀.edge? j = some f → f.other u = some k → k ∈ removed ++ [c] := by
        intro j f k hf hk
        by_contra hkr
        refine (hbare u).1 hdeg j f ((hp'.edge j f).2 ⟨hf, ?_⟩) (Edge.Touches.of_other hk).1
        rcases Edge.other_eq_some.1 hk with ⟨hs, ht⟩ | ⟨-, ht, hs⟩
        · rw [hs, ht]; exact ⟨hur, hkr⟩
        · rw [hs, ht]; exact ⟨hkr, hur⟩
      refine .stranded hu0 hseed ((hp.edge i ed).1 hed).1 (Edge.other_symm hother hne) hcc
        (fun j f k hf hk hku => hur (hku ▸ hgone j f k hf hk)) (fun j f k hf hk => ?_)
      rcases List.mem_append.1 (hgone j f k hf hk) with hk' | hk'
      · exact h.removed_mem k hk'
      · rw [List.mem_singleton.1 hk']; exact hcc
    · -- a node waiting before was plotted before
      obtain ⟨hur, hu0⟩ := (hp'.containsNode u).1 hplot
      exact h.work_mem u (List.mem_cons_of_mem c hu)
        ((hp.containsNode u).2 ⟨fun h' => hur (List.mem_append_left _ h'), hu0⟩)
  · have hnr' : n ∉ removed := fun h' => hnr (List.mem_append_left _ h')
    have hnc : n ≠ c := fun h' => hnr (List.mem_append_right _ (List.mem_singleton.2 h'))
    by_cases hrest : n ∈ rest
    · exact .inl (List.mem_append_right _ hrest)
    by_cases hleft : ∃ j f, m.edge? j = some f ∧ f.Touches n
    · exact .inr hleft
    -- `n` is not waiting, so it had an edge, and the last of its edges went with `c`
    obtain ⟨i, ed, hed, htouch⟩ : ∃ i ed, e.model.edge? i = some ed ∧ ed.Touches n := by
      rcases h.pending n hn hnr' with hw | hedge'
      · rcases List.mem_cons.1 hw with hw | hw
        · exact absurd hw hnc
        · exact absurd hw hrest
      · exact hedge'
    have hgone : ed.Touches c := by
      by_contra hno
      exact hleft ⟨i, ed, (hedge i ed).2 ⟨hed, hno⟩, htouch⟩
    refine .inl (List.mem_append_left _ (mem_pushed.2 ⟨?_, ?_, ?_, hp.seeds.trans hseeds ▸ ?_⟩))
    · exact (hns' n).2 ⟨i, ed, hed, Edge.other_of_touches hgone htouch hnc, hnc⟩
    · exact (hp'.containsNode n).2 ⟨hnr, hn.plotted⟩
    · exact (hbare n).2 fun j f hf ht => hleft ⟨j, f, hf, ht⟩
    · rcases hn.not_seed with rfl | hs
      · -- `uri` itself, not removed, waits; but it is not among the rest
        rcases h.root hn.root_plotted with hr' | hw
        · exact absurd hr' hnr'
        · rcases List.mem_cons.1 hw with hw | hw
          · exact absurd hw hnc
          · exact absurd hw hrest
      · exact hs
  · rcases h.root hu with hr' | hw
    · exact .inl (List.mem_append_left _ hr')
    rcases List.mem_cons.1 hw with rfl | hw
    · exact .inl (List.mem_append_right _ (List.mem_singleton_self _))
    · exact .inr (List.mem_append_right _ hw)

/-- The whole worklist: from a state of the invariant with fuel for every node waiting and every
edge left, the loop empties the worklist and keeps the invariant.

**Proof sketch.** Induction on the fuel.  A round either drops a node no longer plotted or
removes one; removing it removes at least as many edges as it pushes nodes, so the fuel still
covers the nodes waiting and the edges left. -/
lemma Cascading.loop (hseeds : e₀.seeds = seeds) : ∀ (fuel : Nat) (work removed : List String)
    (e : Explorer), Pruned g₀ e₀ removed e → Cascading g₀ seeds uri work removed e →
      work.length + e.model.edgeCount ≤ fuel →
      Pruned g₀ e₀ (extrudeLoop true fuel work removed e).1 (extrudeLoop true fuel work removed e).2 ∧
        Cascading g₀ seeds uri [] (extrudeLoop true fuel work removed e).1
          (extrudeLoop true fuel work removed e).2
  | 0, work, removed, e, hp, h, hfuel => by
    obtain rfl : work = [] := List.eq_nil_of_length_eq_zero (by omega)
    exact ⟨hp, h⟩
  | _ + 1, [], removed, e, hp, h, _ => ⟨hp, h⟩
  | fuel + 1, c :: rest, removed, e, hp, h, hfuel => by
    rw [extrudeLoop]
    split
    · next m hr =>
      exact Cascading.loop hseeds fuel rest removed e hp (h.skip hp (removeNode_none hr).1)
        (by simp only [List.length_cons] at hfuel; omega)
    · next ns m hr =>
      -- removing `c` removes at least as many edges as it pushes nodes
      obtain ⟨m', hr', hcount⟩ := removeNode_of_plotted hp.wellFormed (plotted_of_removeNode hr)
      rw [hr] at hr'
      obtain ⟨hns, rfl⟩ := Prod.mk.inj hr'
      have hlen : (pushed m e.seeds ns).length ≤ ns.length := by
        simpa [pushed] using List.length_filter_le _ ns
      rw [← Option.some.inj hns] at hcount
      exact Cascading.loop hseeds fuel (pushed m e.seeds ns ++ rest) (removed ++ [c]) _
        (hp.remove hr _) (h.remove hp hseeds hr _)
        (by simp only [List.length_append, List.length_cons] at hfuel ⊢; omega)

/-- Once the worklist is empty, the nodes removed are the cascade.

**Proof sketch.** Every node removed is in the cascade.  Conversely, by induction on the
cascade: a stranded node whose neighbours are all removed has no edge left, so, waiting
nowhere, it was removed. -/
lemma Cascading.mem_removed_iff (hp : Pruned g₀ e₀ removed e)
    (h : Cascading g₀ seeds uri [] removed e) (n : String) :
    n ∈ removed ↔ g₀.Cascade seeds uri n := by
  refine ⟨h.removed_mem n, fun hn => ?_⟩
  induction hn with
  | root hu => simpa using h.root hu
  | stranded hplot hseed hedge hother hm hne hall _ ih =>
    by_contra hnr
    obtain ⟨i, ed, hed, htouch⟩ :=
      (h.pending _ (.stranded hplot hseed hedge hother hm hne hall) hnr).resolve_left
        List.not_mem_nil
    -- the edge left leads to a neighbour, which is removed: the edge cannot be left
    obtain ⟨k, hk⟩ := htouch.exists_other
    obtain ⟨hed0, hs, ht⟩ := (hp.edge i ed).1 hed
    have hkr := ih i ed k hed0 hk
    rcases (Edge.Touches.of_other hk).2 with hk' | hk'
    · exact hs (hk' ▸ hkr)
    · exact ht (hk' ▸ hkr)

/-- The loop of an extrusion that removes the nodes it strands removes exactly the cascade. -/
lemma extrudeLoop_cascade (hg : e₀.model.WellFormed) {fuel : Nat}
    (hfuel : 1 + e₀.model.edgeCount ≤ fuel) :
    Pruned e₀.model e₀ (extrudeLoop true fuel [uri] [] e₀).1 (extrudeLoop true fuel [uri] [] e₀).2 ∧
      ∀ u, u ∈ (extrudeLoop true fuel [uri] [] e₀).1 ↔ e₀.model.Cascade e₀.seeds uri u := by
  obtain ⟨hp, h⟩ := Cascading.loop rfl fuel [uri] [] e₀ (Pruned.start hg) (Cascading.start rfl)
    (by simpa using hfuel)
  exact ⟨hp, h.mem_removed_iff hp⟩

/-- The loop of an extrusion that spares the nodes it strands removes the node, when plotted. -/
lemma extrudeLoop_single (hg : e₀.model.WellFormed) (fuel : Nat) :
    Pruned e₀.model e₀ (extrudeLoop false (fuel + 2) [uri] [] e₀).1
        (extrudeLoop false (fuel + 2) [uri] [] e₀).2 ∧
      (extrudeLoop false (fuel + 2) [uri] [] e₀).1 =
        if e₀.model.containsNode uri then [uri] else [] := by
  rw [extrudeLoop]
  split
  · next m hr =>
    rw [extrudeLoop]
    simp only [(removeNode_none hr).1]
    exact ⟨Pruned.start hg, rfl⟩
  · next ns m hr =>
    -- nothing is pushed: the worklist is empty after the first round
    simp only [Bool.false_eq_true, if_false, List.nil_append, List.append_nil]
    rw [extrudeLoop]
    simp only [plotted_of_removeNode hr]
    exact ⟨(Pruned.start hg).remove hr _, rfl⟩

/-! ### An extrusion -/

/-- An extrusion is its loop followed by a relayout, the loop's list of removed nodes being the
answer. -/
lemma extrude_eq_relayout (e : Explorer) (uri : String) (isolated : Bool) (s : LinkScale) :
    let e₀ := { e with excluded := StrSet.insert uri e.excluded, seeds := e.seeds.filter (· != uri) }
    let r := extrudeLoop isolated (e.model.nodeCount + e.model.edgeCount + 2) [uri] [] e₀
    e.extrude uri isolated s = (fun p => (r.1, p.2)) <$> r.2.relayout s := by
  intro e₀ r
  unfold extrude
  dsimp only
  exact bind_pure_comp _ _

/-- What an extrusion of `uri` from `e` does before its relayout: `removed` lists the nodes it
removes, each once, and `e₁` is the explorer it leaves. -/
structure Extruded (e : Explorer) (uri : String) (isolated : Bool) (removed : List String)
    (e₁ : Explorer) : Prop where
  nodup : removed.Nodup
  /-- Without the cascade, the node alone is removed, when plotted. -/
  single : isolated = false → removed = if e.model.containsNode uri then [uri] else []
  /-- With it, the cascade of the node, the seeds other than the node spared. -/
  cascade : isolated = true → ∀ u, u ∈ removed ↔ e.model.Cascade (e.seeds.filter (· != uri)) uri u
  node : ∀ u, e₁.model.node? u = if u ∈ removed then none else e.model.node? u
  edge : ∀ i ed, e₁.model.edge? i = some ed ↔
    e.model.edge? i = some ed ∧ ed.source ∉ removed ∧ ed.target ∉ removed
  folded : e₁.model.folded = e.model.folded
  excluded : ∀ u, u ∈ e₁.excluded ↔ u = uri ∨ u ∈ removed ∨ u ∈ e.excluded
  seeds : e₁.seeds = e.seeds.filter (· != uri)
  /-- Nothing else changes but the panes. -/
  frame : { e₁ with model := e.model, excluded := e.excluded, panes := e.panes, seeds := e.seeds } = e

/-- What an extrusion does, for a well-formed explorer: it removes the nodes and edges
`Extruded` says, each node once, and ends with a relayout. -/
theorem extrude_eq (h : e.WellFormed) (uri : String) (isolated : Bool) (s : LinkScale) :
    ∃ (removed : List String) (e₁ : Explorer), e.Extruded uri isolated removed e₁ ∧
      e.extrude uri isolated s = (fun p => (removed, p.2)) <$> e₁.relayout s := by
  let e₀ : Explorer :=
    { e with excluded := StrSet.insert uri e.excluded, seeds := e.seeds.filter (· != uri) }
  let r := extrudeLoop isolated (e.model.nodeCount + e.model.edgeCount + 2) [uri] [] e₀
  -- the loop leaves a pruned state, whichever nodes it removes
  have hloop : Pruned e.model e₀ r.1 r.2 ∧
      (isolated = false → r.1 = if e.model.containsNode uri then [uri] else []) ∧
      (isolated = true → ∀ u, u ∈ r.1 ↔ e.model.Cascade (e.seeds.filter (· != uri)) uri u) := by
    cases isolated with
    | false =>
      have hsingle : Pruned e₀.model e₀ r.1 r.2 ∧
          r.1 = if e₀.model.containsNode uri then [uri] else [] :=
        extrudeLoop_single (show e₀.model.WellFormed from h.model)
          (e.model.nodeCount + e.model.edgeCount)
      exact ⟨hsingle.1, fun _ => hsingle.2, by simp⟩
    | true =>
      have hcascade : Pruned e₀.model e₀ r.1 r.2 ∧
          ∀ u, u ∈ r.1 ↔ e₀.model.Cascade e₀.seeds uri u :=
        extrudeLoop_cascade (show e₀.model.WellFormed from h.model)
          (show 1 + e.model.edgeCount ≤ e.model.nodeCount + e.model.edgeCount + 2 by omega)
      exact ⟨hcascade.1, by simp, fun _ => hcascade.2⟩
  obtain ⟨hp, hfalse, htrue⟩ := hloop
  refine ⟨r.1, r.2, ⟨hp.nodup, hfalse, htrue, hp.node, hp.edge, hp.folded, fun u => ?_,
    hp.seeds, ?_⟩, extrude_eq_relayout e uri isolated s⟩
  · rw [hp.excluded, StrSet.mem_insert]
    tauto
  · calc { r.2 with model := e.model, excluded := e.excluded, panes := e.panes, seeds := e.seeds }
        = { { r.2 with model := e₀.model, excluded := e₀.excluded, panes := e₀.panes } with
            model := e.model, excluded := e.excluded, panes := e.panes, seeds := e.seeds } := rfl
      _ = { e₀ with model := e.model, excluded := e.excluded, panes := e.panes, seeds := e.seeds } := by
          rw [hp.frame]
      _ = e := rfl

end Explorer

end CorpusBench
