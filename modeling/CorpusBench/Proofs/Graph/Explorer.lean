import CorpusBench.Proofs.Graph.WellFormed
import CorpusBench.Graph.Explorer.State

/-!
# The invariant of an exploration

An exploration is *well formed* when its plotted model is (`GraphModel.WellFormed`) and no
excluded URI is plotted.  Every change to the explorer keeps this: merging an answer adds only
nodes and edges that are not excluded, the settle pass changes what nodes and edges carry and
turns edges round, and an extrusion excludes a node exactly as it removes it.

The operations that may fail have an inversion lemma (`merge_ok`, `relayout_ok`, `settle_ok`,
`extrude_ok`): from an `.ok` result it gives the new state as the old one with a few fields
replaced, so that what they keep (the invariant, the pending count, the generation) is read off
the shape.

## Main definitions

* `Explorer.WellFormed`.

## Main results

* `Explorer.WellFormed.merge`, `.settle`, `.extrude`, `.setLabelMode`,
  `.withNode`, `.select`, `.clearSelection` — the operations keep the invariant.
-/

namespace CorpusBench

namespace Explorer

/-- The invariant of an exploration. -/
structure WellFormed (e : Explorer) : Prop where
  model : e.model.WellFormed
  /-- An excluded URI is never plotted. -/
  excluded_unplotted : ∀ u ∈ e.excluded, e.model.containsNode u = false

lemma WellFormed.start (cfg : ExplorerConfig) : (start cfg).WellFormed where
  model := GraphModel.WellFormed.empty
  excluded_unplotted := fun _ hu => (List.not_mem_nil hu).elim

variable {e e' : Explorer}

/-! ### Merging an answer -/

section Merge

variable {uri : String}

/-- Adding the nodes of an answer skips the excluded ones. -/
lemma WellFormed.addNodes {m : GraphModel} (h : WellFormed { e with model := m })
    (nodes : List NetworkNode) : WellFormed { e with model := (e.addNodes uri nodes m).2.2 } :=
  List.foldlRecOn (motive := fun acc : Nat × List String × GraphModel =>
      WellFormed { e with model := acc.2.2 }) nodes _ h
    fun ⟨added, fresh, m⟩ hm n _ => by
      dsimp only
      split
      · exact hm
      · have hadd := hm.model.addNode (Node.new n.id (Text.decodeEntities n.label) n.group e.labelMode)
        -- the node added is not excluded, and no other node comes
        have hkeep : ∀ u ∈ e.excluded, (m.addNode (Node.new n.id (Text.decodeEntities n.label)
            n.group e.labelMode)).2.containsNode u = false := by
          intro u hu
          cases hc : (m.addNode _).2.containsNode u with
          | false => rfl
          | true =>
            rcases GraphModel.containsNode_addNode _ u hc with rfl | hc'
            · simp_all [StrSet.contains_iff, Node.new]
            · simp [hm.excluded_unplotted u hu] at hc'
        split
        · next m' hm' => rw [hm'] at hadd hkeep; exact ⟨hadd, hkeep⟩
        · next m' hm' => rw [hm'] at hadd hkeep; exact ⟨hadd, hkeep⟩

/-- Adding the edges of an answer never adds a node. -/
lemma WellFormed.addEdges {m : GraphModel} (h : WellFormed { e with model := m })
    (edges : List NetworkEdge) : WellFormed { e with model := (e.addEdges edges m).2 } :=
  List.foldlRecOn (motive := fun acc : Nat × GraphModel => WellFormed { e with model := acc.2 })
    edges _ h
    fun ⟨added, m⟩ hm ed _ => by
      dsimp only
      split
      · exact hm
      · have hadd := hm.model.addEdge
          { source := ed.source, target := ed.target, title := ed.title, freq := ed.freq }
        have hkeep := hm.excluded_unplotted
        have hnodes := fun u => GraphModel.containsNode_addEdge (g := m)
          { source := ed.source, target := ed.target, title := ed.title, freq := ed.freq } u
        split
        · next m' hm' =>
          rw [hm'] at hadd hnodes
          exact ⟨hadd, fun u hu => (hnodes u).trans (hkeep u hu)⟩
        · next m' hm' =>
          rw [hm'] at hadd hnodes
          exact ⟨hadd, fun u hu => (hnodes u).trans (hkeep u hu)⟩

/-- A merge adds the nodes and edges of the answer and then, when the node merged for is
plotted, replaces its record by one with its URI; nothing but the model and the panes
changes. -/
lemma merge_ok {answer : Neighborhood} {skip : Nat} {o : SprawlOptions} {maxR : Nat} {r : Merged}
    (hm : e.merge uri answer skip o maxR = .ok (r, e')) :
    let m := (e.addEdges answer.edges (e.addNodes uri answer.nodes e.model).2.2).2
    ∃ model panes, e' = { e with model := model, panes := panes } ∧
      (model = m ∨ ∃ nd nd', m.node? uri = some nd ∧ nd'.uri = nd.uri ∧
        model = { m with nodes := m.nodes.insert uri nd' }) := by
  intro m
  unfold merge at hm
  rcases h1 : e.addNodes uri answer.nodes e.model with ⟨nodesAdded, fresh, m1⟩
  rcases h2 : e.addEdges answer.edges m1 with ⟨edgesAdded, m2⟩
  have hm2 : m = m2 := by simp only [m, h1, h2]
  rw [h1] at hm
  dsimp only at hm
  rw [h2] at hm
  dsimp only at hm
  rw [hm2]
  cases hnd : m2.node? uri with
  | none =>
    rw [hnd] at hm
    cases hm
    exact ⟨_, _, rfl, .inl rfl⟩
  | some nd =>
    rw [hnd] at hm
    dsimp only at hm
    -- the cursor moves on, or not; either way the record keeps its URI
    split at hm
    · obtain ⟨next, -, hm⟩ := Except.bind_eq_ok.1 hm
      cases hm
      refine ⟨_, _, rfl, .inr ⟨nd, _, rfl, ?_, rfl⟩⟩
      split <;> split <;> rfl
    · cases hm
      refine ⟨_, _, rfl, .inr ⟨nd, _, rfl, ?_, rfl⟩⟩
      split <;> split <;> rfl

/-- A merge asks for a resprawl only below the bound on resprawls. -/
lemma resprawl_lt_of_merge {answer : Neighborhood} {skip : Nat} {o : SprawlOptions} {maxR : Nat}
    {r : Merged} (hm : e.merge uri answer skip o maxR = .ok (r, e')) (hr : r.resprawl = true) :
    o.resprawl < maxR := by
  unfold merge at hm
  simp only [bind, Except.bind, pure, Except.pure] at hm
  -- every way through the merge returns the same flag, whose fourth conjunct is the bound
  repeat' split at hm
  all_goals cases hm
  all_goals
    simp only [Bool.and_eq_true, decide_eq_true_eq] at hr
    exact hr.1.2

/-- Merging an answer keeps the invariant. -/
lemma WellFormed.merge (h : e.WellFormed) {answer : Neighborhood} {skip : Nat}
    {o : SprawlOptions} {maxR : Nat} {r : Merged}
    (hm : e.merge uri answer skip o maxR = .ok (r, e')) : e'.WellFormed := by
  obtain ⟨model, panes, rfl, hmodel⟩ := merge_ok hm
  have h2 : WellFormed { e with model :=
      (e.addEdges answer.edges (e.addNodes uri answer.nodes e.model).2.2).2 } :=
    (WellFormed.addNodes h answer.nodes).addEdges answer.edges
  rcases hmodel with rfl | ⟨nd, nd', hnd, huri, rfl⟩
  · exact ⟨h2.model, h2.excluded_unplotted⟩
  · exact ⟨h2.model.setNode hnd nd' huri, fun u hu =>
      (GraphModel.containsNode_setNode hnd nd' u).trans (h2.excluded_unplotted u hu)⟩

end Merge

/-! ### The settle pass -/

section Settle

variable {s : LinkScale}

/-- A relayout changes the model and the legend only; the new model plots the same nodes. -/
lemma relayout_ok {n : Nat} (h : e.relayout s = .ok (n, e')) :
    ∃ m : GraphModel, e' = { e with model := m, legend := m.legend } ∧
      (e.model.WellFormed → m.WellFormed) ∧ ∀ u, m.containsNode u = e.model.containsNode u := by
  unfold relayout at h
  rcases hn : e.model.normalizeDirections e.collapses with ⟨k, m0⟩
  rw [hn] at h
  dsimp only at h
  obtain ⟨m1, hm1, h⟩ := Except.bind_eq_ok.1 h
  cases h
  refine ⟨_, rfl, fun hg => ?_, fun u => ?_⟩
  · have h0 := hg.normalizeDirections e.collapses
    rw [hn] at h0
    exact (h0.applyThickness hm1).applyMass _ _
  · have h0 := GraphModel.nodes_normalizeDirections (g := e.model) e.collapses
    rw [hn] at h0
    show (m1.applyMass e.collapses s).containsNode u = _
    unfold GraphModel.applyMass
    rw [GraphModel.containsNode_mapNodes]
    simp only [GraphModel.containsNode, GraphModel.nodes_applyThickness hm1]
    rw [h0]

lemma WellFormed.relayout (h : e.WellFormed) {n : Nat} (hr : e.relayout s = .ok (n, e')) :
    e'.WellFormed := by
  obtain ⟨m, rfl, hm, hnodes⟩ := relayout_ok hr
  exact ⟨hm h.model, fun u hu => (hnodes u).trans (h.excluded_unplotted u hu)⟩

/-- Pinning nodes, whichever they are, keeps the invariant. -/
lemma WellFormed.pinAll (h : e.WellFormed) (uris : List String) :
    WellFormed { e with model := uris.foldl (fun m u =>
      m.modifyNode u (fun n => { n with pinned := true })) e.model } :=
  List.foldlRecOn (motive := fun m : GraphModel => WellFormed { e with model := m }) uris _ h
    fun _ hm u _ => ⟨hm.model.modifyNode u fun _ => rfl, fun v hv =>
      (GraphModel.containsNode_modifyNode u _ v).trans (hm.excluded_unplotted v hv)⟩

/-- The settle pass keeps the invariant. -/
lemma WellFormed.settle (h : e.WellFormed) {r : SettleReport} (hs : e.settle s = .ok (r, e')) :
    e'.WellFormed := by
  unfold Explorer.settle at hs
  obtain ⟨⟨k, e1⟩, h1, hs⟩ := Except.bind_eq_ok.1 hs
  have he1 := h.relayout h1
  cases hs
  split
  · have hpin := he1.pinAll e1.seeds
    exact ⟨hpin.model, hpin.excluded_unplotted⟩
  · exact he1

end Settle

/-! ### Extrusion -/

section Extrude

/-- One round of an extrusion: the node removed is excluded at once.  Before the round, an
excluded URI other than the node is not plotted. -/
lemma WellFormed.removeAndExclude {u : String} (hg : e.model.WellFormed)
    (hx : ∀ v ∈ e.excluded, v ≠ u → e.model.containsNode v = false) {ns : List String}
    {m : GraphModel} (hr : e.model.removeNode u = (some ns, m)) (panes : DetailPanes) :
    WellFormed { e with model := m, excluded := StrSet.insert u e.excluded, panes := panes } := by
  have hm := hg.removeNode u
  have hc := hg.containsNode_removeNode u
  rw [hr] at hm hc
  refine ⟨hm, fun v hv => ?_⟩
  dsimp only
  rw [hc v]
  by_cases hvu : v = u
  · simp [hvu]
  · have hv' := ((StrSet.mem_insert u v e.excluded).1 hv).resolve_left hvu
    simp [hx v hv' hvu]

/-- The loop of an extrusion keeps the invariant, for any fuel and any worklist. -/
lemma WellFormed.extrudeLoop (isolated : Bool) : ∀ (fuel : Nat) (work removed : List String)
    (e : Explorer), e.WellFormed → (extrudeLoop isolated fuel work removed e).2.WellFormed
  | 0, _, _, _, h => h
  | _ + 1, [], _, _, h => h
  | fuel + 1, current :: rest, removed, e, h => by
    rw [Explorer.extrudeLoop]
    split
    · exact WellFormed.extrudeLoop isolated fuel rest removed e h
    · next ns m hr =>
      exact WellFormed.extrudeLoop isolated fuel _ _ _
        (WellFormed.removeAndExclude h.model (fun v hv _ => h.excluded_unplotted v hv) hr _)

/-- A loop that starts on a URI already excluded but maybe still plotted ends well formed:
its first round removes the URI, if plotted, and the rest is `WellFormed.extrudeLoop`. -/
lemma WellFormed.extrudeLoop_cons {isolated : Bool} {fuel : Nat} {u : String}
    {rest removed : List String} {res : List String × Explorer}
    (hres : Explorer.extrudeLoop isolated (fuel + 1) (u :: rest) removed e = res)
    (hg : e.model.WellFormed)
    (hx : ∀ v ∈ e.excluded, v ≠ u → e.model.containsNode v = false) : res.2.WellFormed := by
  subst hres
  rw [Explorer.extrudeLoop]
  split
  · next m hr =>
    obtain ⟨hu, -⟩ := GraphModel.removeNode_none hr
    refine WellFormed.extrudeLoop isolated _ _ _ _ ⟨hg, fun v hv => ?_⟩
    by_cases hvu : v = u
    · rw [hvu]; exact hu
    · exact hx v hv hvu
  · next ns m hr =>
    exact WellFormed.extrudeLoop isolated _ _ _ _ (WellFormed.removeAndExclude hg hx hr _)

/-- An extrusion keeps the invariant.

**Proof sketch.** The URI is excluded before the loop starts and removed in its first round;
`WellFormed.extrudeLoop_cons` covers the loop and `WellFormed.relayout` the relayout after it. -/
lemma WellFormed.extrude (h : e.WellFormed) {uri : String} {isolated : Bool} {s : LinkScale}
    {removed : List String} (hx : e.extrude uri isolated s = .ok (removed, e')) :
    e'.WellFormed := by
  unfold Explorer.extrude at hx
  dsimp only at hx
  generalize hres : Explorer.extrudeLoop isolated _ _ _ _ = res at hx
  have he2 : res.2.WellFormed := WellFormed.extrudeLoop_cons hres h.model
    fun v hv hvu => h.excluded_unplotted v (((StrSet.mem_insert _ _ _).1 hv).resolve_left hvu)
  obtain ⟨⟨k, e3⟩, hr, hx⟩ := Except.bind_eq_ok.1 hx
  cases hx
  exact he2.relayout hr

end Extrude

/-! ### Changes to the records of nodes -/

section Nodes

/-- A change of every record that keeps URIs keeps the invariant. -/
lemma WellFormed.mapNodes (h : e.WellFormed) {f : Node → Node} (hf : ∀ n, (f n).uri = n.uri) :
    WellFormed { e with model := e.model.mapNodes f } :=
  ⟨h.model.mapNodes hf, fun u hu =>
    (GraphModel.containsNode_mapNodes f u).trans (h.excluded_unplotted u hu)⟩

lemma WellFormed.setLabelMode (h : e.WellFormed) (mode : LabelMode) :
    (e.setLabelMode mode).WellFormed :=
  have hm := h.mapNodes (f := fun n => { n with label := mode.format n.rawLabel }) fun _ => rfl
  ⟨hm.model, hm.excluded_unplotted⟩

lemma WellFormed.clearSelection (h : e.WellFormed) : e.clearSelection.WellFormed :=
  h.mapNodes fun _ => rfl

lemma WellFormed.select (h : e.WellFormed) {uri : String} (hs : e.select uri = .ok e') :
    e'.WellFormed := by
  unfold Explorer.select at hs
  split at hs
  · cases hs
    exact h.mapNodes fun _ => rfl
  · cases hs

/-- A change of one record that keeps its URI keeps the invariant. -/
lemma WellFormed.withNode (h : e.WellFormed) {uri : String} {f : Node → Node}
    (hf : ∀ n, (f n).uri = n.uri) (hs : e.withNode uri f = .ok e') : e'.WellFormed := by
  unfold Explorer.withNode at hs
  split at hs
  · cases hs
    exact ⟨h.model.modifyNode uri hf, fun u hu =>
      (GraphModel.containsNode_modifyNode uri f u).trans (h.excluded_unplotted u hu)⟩
  · cases hs

end Nodes

end Explorer

end CorpusBench
