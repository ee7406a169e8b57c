import CorpusBench.Proofs.Graph.Convergence

/-!
# What the plot is drawn from

The explorer plots only what the server answered.  A merge adds the nodes of an answer and the
edges between them; every other change of the model removes nodes or edges, turns an edge
round, or changes what nodes and edges carry besides their ends.  This module says so once for
models (`GraphModel.Within`: a model draws nothing that an earlier one does not), states what
it means for a model to be drawn from a set of answers (`GraphModel.Sourced`), and goes through
the changes of the explorer.

A neighbourhood request carries four settings of the explorer: its hidden types, its
collapses, its view filters and its page size (`Settings`).  A change of the first three
reports whether it changed anything, and when it reports no change, it changes none of them
(`Explorer.SettingsChange`).

## Main definitions

* `GraphModel.Within` — every node of a model is a node of another, and every edge
  joins the ends of one of the other's edges.
* `GraphModel.Sourced` — every node and every edge of a model is in an answer of a
  given set.
* `Settings`, `Server.AnswersUnder` — the settings a request carries,
  and a server's answers to the logged requests about plain URIs that carry them.
* `Explorer.Within` — a change of the explorer that plots nothing new and keeps the
  generation and the settings.

## Main results

* `Explorer.sourced_merge` — merging an answer of the set keeps the model drawn
  from it.
* `Explorer.Within.settle`, `Explorer.Within.extrude` — the settle
  pass and an extrusion plot nothing new.
* `Explorer.settingsChange_of_edit` — the changes of settings a step asks for.
-/

namespace CorpusBench

namespace StrMap

variable {α : Type}

/-- Writing the value a key already has changes nothing, the keys being sorted. -/
lemma insert_of_lookup {m : StrMap α} (h : Sorted m) {k : String} {v : α}
    (hk : lookup k m = some v) : insert k v m = m := by
  induction m with
  | nil => simp at hk
  | cons p m ih =>
    obtain ⟨k', v'⟩ := p
    obtain ⟨hhead, htail⟩ := sorted_cons.1 h
    unfold insert
    by_cases heq : k = k'
    · subst heq
      simp only [lookup_cons, if_true, Option.some.injEq] at hk
      simp [hk]
    · have hk' : lookup k m = some v := by simpa [lookup_cons, heq] using hk
      -- a key below `k'` would have no entry after it
      have hlt : ¬ k < k' := fun hlt =>
        lt_asymm hlt (hhead k ((isSome_lookup_iff k m).1 (by rw [hk']; rfl)))
      simp [hlt, heq, ih htail hk']

/-- Erasing a key that has no value changes nothing. -/
lemma erase_of_lookup_eq_none {m : StrMap α} {k : String} (hk : lookup k m = none) :
    erase k m = m := by
  induction m with
  | nil => rfl
  | cons p m ih =>
    obtain ⟨k', v'⟩ := p
    by_cases heq : k = k'
    · subst heq
      simp [lookup_cons] at hk
    · simp only [lookup_cons, heq, if_false] at hk
      simp [erase, heq, ih hk]

end StrMap

namespace Edge

variable {e e' : Edge} {a b : String}

lemma joins_self (e : Edge) : e.Joins e.source e.target := Or.inl ⟨rfl, rfl⟩

/-- Edges joining the same two nodes join the same pairs. -/
lemma Joins.joins_iff (h : e'.Joins e.source e.target) : e.Joins a b ↔ e'.Joins a b := by
  unfold Joins at *
  rcases h with ⟨h1, h2⟩ | ⟨h1, h2⟩ <;> rw [h1, h2]
  tauto

end Edge

namespace GraphModel

variable {g g' g'' : GraphModel}

/-! ### Drawing nothing new -/

/-- `g'` draws nothing that `g` does not: every node of `g'` is a node of `g`, and every edge of
`g'` joins the ends of an edge of `g`, one way or the other. -/
structure Within (g' g : GraphModel) : Prop where
  node : ∀ x, g'.containsNode x = true → g.containsNode x = true
  edge : ∀ p ∈ g'.edges, ∃ q ∈ g.edges, q.2.Joins p.2.source p.2.target

namespace Within

lemma refl (g : GraphModel) : Within g g :=
  ⟨fun _ h => h, fun p hp => ⟨p, hp, Edge.joins_self _⟩⟩

lemma trans (h₁ : Within g'' g') (h₂ : Within g' g) : Within g'' g where
  node x hx := h₂.node x (h₁.node x hx)
  edge p hp := by
    obtain ⟨q, hq, hpq⟩ := h₁.edge p hp
    obtain ⟨r, hr, hqr⟩ := h₂.edge q hq
    exact ⟨r, hr, (Edge.Joins.joins_iff hqr).1 hpq⟩

/-- Keeping some of the nodes and some of the edges. -/
lemma of_subset (hn : ∀ x, g'.containsNode x = true → g.containsNode x = true)
    (he : ∀ p ∈ g'.edges, p ∈ g.edges) : Within g' g :=
  ⟨hn, fun p hp => ⟨p, he p hp, Edge.joins_self _⟩⟩

/-- Writing, into a model within `g`, an edge that joins the ends of an edge of `g`. -/
lemma insertEdge (h : Within g' g) {k : String} {ed : Edge}
    (hq : ∃ q ∈ g.edges, q.2.Joins ed.source ed.target) (inc : StrMap StrSet) :
    Within { g' with edges := g'.edges.insert k ed, incidence := inc } g where
  node := h.node
  edge p hp := by
    rcases StrMap.mem_insert_cases hp with rfl | hp
    · exact hq
    · exact h.edge p hp

lemma addEdge (h : Within g' g) {ed : Edge} (hq : ∃ q ∈ g.edges, q.2.Joins ed.source ed.target) :
    Within (g'.addEdge ed).2 g := by
  unfold GraphModel.addEdge
  split
  · exact h
  · exact h.insertEdge hq _

end Within

lemma within_modifyNode (u : String) (f : Node → Node) : Within (g.modifyNode u f) g :=
  Within.of_subset (fun x hx => by rwa [containsNode_modifyNode] at hx) fun _ hp => hp

lemma within_mapNodes (f : Node → Node) : Within (g.mapNodes f) g :=
  Within.of_subset (fun x hx => by rwa [containsNode_mapNodes] at hx) fun _ hp => hp

lemma within_removeEdge (i : String) : Within (g.removeEdge i).2 g := by
  refine Within.of_subset (fun x hx => by rwa [containsNode_removeEdge] at hx) fun p hp => ?_
  unfold removeEdge at hp
  split at hp
  · exact hp
  · exact (StrMap.erase_sublist i g.edges).subset hp

lemma within_foldEdge (i : String) : Within (g.foldEdge i).2 g := by
  have h := within_removeEdge (g := g) i
  unfold foldEdge
  split
  · next g' hr => rw [hr] at h; exact h
  · next e g' hr => rw [hr] at h; exact ⟨h.node, h.edge⟩

/-- The edge a fold takes away was an edge of the model. -/
lemma mem_edges_of_foldEdge {i : String} {e : Edge} (h : g.foldEdge i = (some e, g')) :
    (i, e) ∈ g.edges := by
  cases he : g.edge? i with
  | none => simp [foldEdge, removeEdge_of_none he] at h
  | some e' =>
    simp only [foldEdge, removeEdge_of_some he, Prod.mk.injEq, Option.some.injEq] at h
    rw [← h.1]
    exact StrMap.mem_of_lookup he

lemma within_removeNode (u : String) : Within (g.removeNode u).2 g := by
  cases hu : g.containsNode u with
  | false =>
    have hnone : g.removeNode u = (none, g) := by simp [removeNode, hu]
    rw [hnone]
    exact Within.refl g
  | true =>
    rw [removeNode_snd hu]
    -- the node and its incidence go first, then its edges one by one
    have h0 : Within { g with nodes := g.nodes.erase u, incidence := g.incidence.erase u } g := by
      refine Within.of_subset (fun x hx => ?_) fun _ hp => hp
      rw [containsNode, StrMap.containsKey_iff] at hx ⊢
      exact (StrMap.keys_erase_sublist u g.nodes).subset hx
    exact List.foldlRecOn (motive := fun m : GraphModel => Within m g) _ _ h0
      fun m hm i _ => (within_removeEdge i).trans hm

/-- Folding a reverse edge into its forward edge, or turning it round, draws nothing new: the
edge written is the forward edge with a new frequency, or the folded edge turned round. -/
lemma within_turnEdge (c : Collapse) (acc : Nat × GraphModel) (i : String) :
    Within (turnEdge c acc i).2 acc.2 := by
  obtain ⟨n, g⟩ := acc
  have h1 := within_foldEdge (g := g) i
  simp only [turnEdge]
  split
  · next g' hfold => rw [hfold] at h1; exact h1
  · next e g' hfold =>
    rw [hfold] at h1
    split
    · next ex hex =>
      refine h1.insertEdge ?_ g'.incidence
      exact h1.edge _ (StrMap.mem_of_lookup hex)
    · exact h1.addEdge ⟨_, mem_edges_of_foldEdge hfold, Or.inr ⟨rfl, rfl⟩⟩

lemma within_normalizeDirections (cs : List Collapse) : Within (g.normalizeDirections cs).2 g :=
  List.foldlRecOn (motive := fun acc : Nat × GraphModel => Within acc.2 g) cs normalizeCollapse
    (Within.refl g) fun _ hacc c _ =>
      List.foldlRecOn (motive := fun acc : Nat × GraphModel => Within acc.2 g) _ _ hacc
        fun _ hacc' i _ => (within_turnEdge c _ i).trans hacc'

/-- The thickness pass keeps the ends of every edge. -/
lemma within_applyThickness {cs : List Collapse} {s : LinkScale}
    (h : g.applyThickness cs s = .ok g') : Within g' g := by
  refine ⟨fun x hx => ?_, fun p hp => ?_⟩
  · simpa only [containsNode, nodes_applyThickness h] using hx
  have hmem : bareEntry p ∈ g.edges.map bareEntry :=
    (sameInputs_applyThickness h).edges ▸ List.mem_map_of_mem hp
  obtain ⟨q, hq, hqp⟩ := List.mem_map.1 hmem
  simp only [bareEntry, Prod.mk.injEq] at hqp
  refine ⟨q, hq, Or.inl ⟨?_, ?_⟩⟩
  · simpa using congrArg Edge.source hqp.2
  · simpa using congrArg Edge.target hqp.2

lemma within_applyMass (cs : List Collapse) (s : LinkScale) : Within (g.applyMass cs s) g := by
  rw [applyMass_eq]
  exact within_mapNodes _

/-! ### Drawn from answers -/

/-- Every node of the model is a node of an answer `A` admits, and every edge joins the ends of
an edge of one. -/
structure Sourced (A : Neighborhood → Prop) (g : GraphModel) : Prop where
  node : ∀ x, g.containsNode x = true → ∃ n, A n ∧ ∃ nd ∈ n.nodes, nd.id = x
  edge : ∀ p ∈ g.edges, ∃ n, A n ∧ ∃ ne ∈ n.edges, p.2.Joins ne.source ne.target

variable {A : Neighborhood → Prop}

lemma Sourced.empty (A : Neighborhood → Prop) : Sourced A {} :=
  ⟨fun _ h => by simp [containsNode, StrMap.containsKey] at h, fun _ h => by simp at h⟩

/-- A model within one drawn from `A` is drawn from `A`. -/
lemma Sourced.within (hs : Sourced A g) (h : Within g' g) : Sourced A g' where
  node x hx := hs.node x (h.node x hx)
  edge p hp := by
    obtain ⟨q, hq, hqp⟩ := h.edge p hp
    obtain ⟨n, hn, ne, hne, hjoin⟩ := hs.edge q hq
    exact ⟨n, hn, ne, hne, (Edge.Joins.joins_iff hqp).2 hjoin⟩

/-- A model drawn from `A` is drawn from any larger set of answers. -/
lemma Sourced.mono {A' : Neighborhood → Prop} (hs : Sourced A g) (h : ∀ n, A n → A' n) :
    Sourced A' g where
  node x hx := by
    obtain ⟨n, hn, hnd⟩ := hs.node x hx
    exact ⟨n, h n hn, hnd⟩
  edge p hp := by
    obtain ⟨n, hn, hne⟩ := hs.edge p hp
    exact ⟨n, h n hn, hne⟩

end GraphModel

/-! ### Settings -/

/-- The settings of the explorer that a neighbourhood request carries: the hidden types, the
collapses, the view filters and the page size. -/
structure Settings where
  hidden : StrSet
  collapses : List Collapse
  filters : StrMap String
  limit : Nat

/-- The settings of the explorer. -/
def Explorer.settings (e : Explorer) : Settings :=
  ⟨e.hiddenTypes, e.collapses, e.filterViews, e.perTypeLimit⟩

/-- The settings a request carries. -/
def NetworkQuery.settings (q : NetworkQuery) : Settings := ⟨q.hidden, q.collapses, q.filters, q.limit⟩

/-- A sprawl's request carries the explorer's settings. -/
@[simp] lemma Explorer.settings_query (e : Explorer) (skip : Nat) (o : SprawlOptions) :
    (e.query skip o).settings = e.settings := rfl

/-- An answer of the server to a request in the log `calls`, about a plain URI, that carries
the settings `S`. -/
def Server.AnswersUnder (s : Server) (S : Settings) (calls : List Call) (n : Neighborhood) : Prop :=
  ∃ u q, u.Plain ∧ q.settings = S ∧ ⟨"network_json", u.render, q.toPairs⟩ ∈ calls ∧
    s.neighborhood u q = n

namespace Explorer

variable {e e' e'' : Explorer} {A : Neighborhood → Prop}

/-! ### Merging an answer -/

section Merge

variable {uri : String}

/-- A node after adding the nodes of an answer was there before or is a node of the answer. -/
lemma containsNode_of_addNodes {nodes : List NetworkNode} {m : GraphModel} {x : String}
    (h : (e.addNodes uri nodes m).2.2.containsNode x = true) :
    m.containsNode x = true ∨ ∃ nd ∈ nodes, nd.id = x := by
  rw [addNodes_eq] at h
  refine List.foldlRecOn (motive := fun acc : Nat × List String × GraphModel =>
    ∀ x, acc.2.2.containsNode x = true → m.containsNode x = true ∨ ∃ nd ∈ nodes, nd.id = x)
    nodes _ (fun _ hx => .inl hx) (fun acc hacc nd hnd x hx => ?_) x h
  rw [model_addNodeStep] at hx
  split at hx
  · exact hacc x hx
  · rcases GraphModel.containsNode_addNode _ x hx with rfl | hx
    · exact .inr ⟨nd, hnd, rfl⟩
    · exact hacc x hx

/-- Adding the edges of an answer adds no node. -/
lemma containsNode_of_addEdges {edges : List NetworkEdge} {m : GraphModel} (x : String) :
    (e.addEdges edges m).2.containsNode x = m.containsNode x := by
  rw [addEdges_eq]
  refine List.foldlRecOn (motive := fun acc : Nat × GraphModel =>
    acc.2.containsNode x = m.containsNode x) edges _ rfl fun acc hacc ne _ => ?_
  rw [model_addEdgeStep]
  split
  · exact hacc
  · rw [GraphModel.containsNode_addEdge, hacc]

/-- An edge after adding the edges of an answer was there before or is an edge of the answer. -/
lemma mem_edges_of_addEdges {edges : List NetworkEdge} {m : GraphModel} {p : String × Edge}
    (h : p ∈ (e.addEdges edges m).2.edges) : p ∈ m.edges ∨ ∃ ne ∈ edges, p.2 = edgeOf ne := by
  rw [addEdges_eq] at h
  refine List.foldlRecOn (motive := fun acc : Nat × GraphModel =>
    ∀ p ∈ acc.2.edges, p ∈ m.edges ∨ ∃ ne ∈ edges, p.2 = edgeOf ne)
    edges _ (fun _ hp => .inl hp) (fun acc hacc ne hne p hp => ?_) p h
  rw [model_addEdgeStep] at hp
  split at hp
  · exact hacc p hp
  · unfold GraphModel.addEdge at hp
    split at hp
    · exact hacc p hp
    · rcases StrMap.mem_insert_cases hp with rfl | hp
      · exact .inr ⟨ne, hne, rfl⟩
      · exact hacc p hp

/-- Merging an answer that `A` admits into a model drawn from `A` keeps it drawn from `A`: what
the merge adds are the answer's nodes and edges. -/
lemma sourced_merge {answer : Neighborhood} {skip : Nat} {o : SprawlOptions} {maxR : Nat}
    {r : Merged} (hm : e.merge uri answer skip o maxR = .ok (r, e'))
    (hs : e.model.Sourced A) (hA : A answer) : e'.model.Sourced A := by
  obtain ⟨model, panes, rfl, hedges, -, hnodes, -⟩ := merge_inv hm
  refine ⟨fun x hx => ?_, fun p hp => ?_⟩
  · rw [hnodes, containsNode_of_addEdges] at hx
    rcases containsNode_of_addNodes hx with hx | ⟨nd, hnd, rfl⟩
    · exact hs.node _ hx
    · exact ⟨answer, hA, nd, hnd, rfl⟩
  · rw [show model.edges = _ from hedges] at hp
    rcases mem_edges_of_addEdges hp with hp | ⟨ne, hne, hpe⟩
    · rw [(addNodes_frame _ _).2.1] at hp
      exact hs.edge p hp
    · exact ⟨answer, hA, ne, hne, by rw [hpe]; exact Edge.joins_self _⟩

/-- A merge changes neither the generation nor the settings. -/
lemma merge_keeps {answer : Neighborhood} {skip : Nat} {o : SprawlOptions} {maxR : Nat}
    {r : Merged} (hm : e.merge uri answer skip o maxR = .ok (r, e')) :
    e'.generation = e.generation ∧ e'.settings = e.settings := by
  obtain ⟨model, panes, rfl, -⟩ := merge_inv hm
  exact ⟨rfl, rfl⟩

end Merge

/-! ### Changes that plot nothing new -/

/-- `e'` plots nothing that `e` does not, and has the generation and the settings of `e`. -/
structure Within (e' e : Explorer) : Prop where
  model : e'.model.Within e.model
  generation : e'.generation = e.generation
  settings : e'.settings = e.settings

namespace Within

lemma refl (e : Explorer) : e.Within e := ⟨.refl _, rfl, rfl⟩

lemma trans (h₁ : e''.Within e') (h₂ : e'.Within e) : e''.Within e :=
  ⟨h₁.model.trans h₂.model, h₁.generation.trans h₂.generation, h₁.settings.trans h₂.settings⟩

variable {s : LinkScale}

lemma relayout {n : Nat} (h : e.relayout s = .ok (n, e')) : e'.Within e := by
  unfold Explorer.relayout at h
  rcases hn : e.model.normalizeDirections e.collapses with ⟨k, m0⟩
  rw [hn] at h
  dsimp only at h
  obtain ⟨m1, hm1, h⟩ := Except.bind_eq_ok.1 h
  cases h
  have h0 := GraphModel.within_normalizeDirections (g := e.model) e.collapses
  rw [hn] at h0
  exact ⟨(GraphModel.within_applyMass _ _).trans
    ((GraphModel.within_applyThickness hm1).trans h0), rfl, rfl⟩

/-- The settle pass: a relayout, and on the first load the seeds pinned. -/
lemma settle {r : SettleReport} (hs : e.settle s = .ok (r, e')) : e'.Within e := by
  unfold Explorer.settle at hs
  obtain ⟨⟨k, e1⟩, h1, hs⟩ := Except.bind_eq_ok.1 hs
  have he1 := Within.relayout h1
  cases hs
  split
  · refine Within.trans ?_ he1
    refine ⟨?_, rfl, rfl⟩
    exact List.foldlRecOn (motive := fun m : GraphModel => m.Within e1.model) _ _
      (.refl _) fun m hm u _ => (GraphModel.within_modifyNode u _).trans hm
  · exact he1

/-- The loop of an extrusion only removes nodes and edges. -/
lemma extrudeLoop (isolated : Bool) : ∀ (fuel : Nat) (work removed : List String) (e : Explorer),
    (Explorer.extrudeLoop isolated fuel work removed e).2.Within e
  | 0, _, _, e => .refl e
  | _ + 1, [], _, e => .refl e
  | fuel + 1, current :: rest, removed, e => by
    rw [Explorer.extrudeLoop]
    split
    · exact Within.extrudeLoop isolated fuel rest removed e
    · next ns m hr =>
      have hm := GraphModel.within_removeNode (g := e.model) current
      rw [hr] at hm
      exact (Within.extrudeLoop isolated fuel _ _ _).trans ⟨hm, rfl, rfl⟩

lemma extrude {uri : String} {isolated : Bool} {removed : List String}
    (hx : e.extrude uri isolated s = .ok (removed, e')) : e'.Within e := by
  unfold Explorer.extrude at hx
  dsimp only at hx
  generalize hres : Explorer.extrudeLoop isolated _ _ _ _ = res at hx
  obtain ⟨⟨k, e3⟩, hr, hx⟩ := Except.bind_eq_ok.1 hx
  cases hx
  refine (Within.relayout hr).trans ?_
  rw [← hres]
  exact (Within.extrudeLoop isolated _ _ _ _).trans ⟨.refl _, rfl, rfl⟩

end Within

/-! ### Changes of settings -/

/-- The hidden types and the view filters are sorted, as the changes of settings keep them. -/
structure SettingsSorted (e : Explorer) : Prop where
  hidden : StrSet.Sorted e.hiddenTypes
  filters : StrMap.Sorted e.filterViews

/-- A change of settings: it leaves the plot, the exclusions and the generation alone and keeps
the settings sorted; when it reports no change, it changes no setting. -/
structure SettingsChange (change : Explorer → Bool × Explorer) : Prop where
  model : ∀ e, (change e).2.model = e.model
  excluded : ∀ e, (change e).2.excluded = e.excluded
  generation : ∀ e, (change e).2.generation = e.generation
  sorted : ∀ e, e.SettingsSorted → (change e).2.SettingsSorted
  unchanged : ∀ e, e.SettingsSorted → (change e).1 = false → (change e).2.settings = e.settings

/-- Every change of settings a step asks for is a `SettingsChange`: when it reports no change,
the setting was already as asked. -/
lemma settingsChange_of_edit {change : Explorer → Bool × Explorer}
    (hc : Command.Explore.SettingsEdit change) : SettingsChange change where
  model e := by
    obtain ⟨_, _, _, h⟩ := hc.frame e
    rw [h]
  excluded e := by
    obtain ⟨_, _, _, h⟩ := hc.frame e
    rw [h]
  generation e := by
    obtain ⟨_, _, _, h⟩ := hc.frame e
    rw [h]
  sorted e h := by
    cases hc with
    | addCollapse c =>
      unfold addCollapse
      split
      · exact h
      · exact ⟨h.hidden, h.filters⟩
    | dropCollapse c => exact ⟨h.hidden, h.filters⟩
    | hideType t => exact ⟨h.hidden.insert t, h.filters⟩
    | unhideType t => exact ⟨h.hidden.erase t, h.filters⟩
    | setFilterView t v => exact ⟨h.hidden, h.filters.insert t v⟩
    | clearFilterView t => exact ⟨h.hidden, h.filters.erase t⟩
  unchanged e h hb := by
    cases hc with
    | addCollapse c =>
      unfold addCollapse at hb ⊢
      split
      · rfl
      · next hin => rw [if_neg hin] at hb; cases hb
    | dropCollapse c =>
      -- nothing was removed, so every collapse was kept
      simp only [dropCollapse, bne_eq_false_iff_eq] at hb
      have hkept := List.filter_eq_self.2 (List.length_filter_eq_length_iff.1 hb)
      simp only [dropCollapse, settings, hkept]
    | hideType t =>
      -- the type was hidden already, and the hidden types are sorted
      simp only [hideType, Bool.not_eq_false'] at hb
      simp only [hideType, settings, StrSet.insert_of_mem h.hidden ((StrSet.contains_iff _ _).1 hb)]
    | unhideType t =>
      have ht := (StrSet.contains_eq_false _ _).1 hb
      have hsame : StrSet.erase t e.hiddenTypes = e.hiddenTypes :=
        List.filter_eq_self.2 fun a ha => bne_iff_ne.2 fun hat => ht (hat ▸ ha)
      simp only [unhideType, settings, hsame]
    | setFilterView t v =>
      -- the type had that filter already, and the filters are sorted
      simp only [setFilterView, bne_eq_false_iff_eq] at hb
      simp only [setFilterView, settings, StrMap.insert_of_lookup h.filters hb]
    | clearFilterView t =>
      have hnone : e.filterViews.lookup t = none := by
        simpa [clearFilterView, StrMap.containsKey] using hb
      simp only [clearFilterView, settings, StrMap.erase_of_lookup_eq_none hnone]

end Explorer

end CorpusBench
