import CorpusBench.Proofs.Graph.Settle
import CorpusBench.Proofs.Server.Neighbors

/-!
# Repeated sprawls plot a node's neighbourhood page by page

A sprawl of a node asks the server for the page of its neighbours that starts at the node's
cursor, `limit` neighbours from each group, merges it, and moves the cursor one page on.  Made
again and again with nothing in between, sprawls of one node read the groups page after page:
after `k` of them every neighbour the server shows below position `k * limit` of its group is
plotted and joined to the node by an edge, unless it is excluded
(`World.sprawlRepeatedly_plots_first_pages`).

This needs the request to reach the server and its answer to come back in time, the node to be
asked for by the canonical text of its URI (the cursor is looked up under the text asked for,
while the answer plots the node under its canonical text), and room for the cursor in its 32-bit
word.  The edge of a new neighbour can be refused because its id is taken, by an edge with the
same id or by a folded one.  Between URIs whose parts hold no slash an id names one pair of
ends, so an edge with the same id is the same edge, and a folded edge was turned into its
reverse, which stays on screen while neither end is excluded (`GraphModel.PlainIds`).

## Main definitions

* `Edge.Joins`, `GraphModel.Joined` — an edge between two nodes, one
  way or the other.
* `GraphModel.PlainIds` — the ids a model has taken name plain URIs, and a folded
  edge's reverse is on screen.
* `World.PagesPlotted` — the cursor, and the pages below it plotted.
* `World.sprawlRepeatedly` — sprawls of one node, one after another.

## Main results

* `GraphModel.joined_addEdge` — adding an edge between plain URIs on screen leaves
  them joined, whether the edge is added or its id is taken.
* `Explorer.merge_cursor_uses_limit_at_merge` — a merge moves the cursor by the
  limit in force when the answer comes, not by the one its request carried.
* `World.total_sprawl` — a sprawl whose pages below the cursor are plotted plots
  the next page too, and finishes.
* `World.sprawlRepeatedly_plots_first_pages`.
-/

namespace CorpusBench

open ContentUri (IsPlainText)

/-- What every step of a fold keeps holds at its end, and so does what one step makes true
when every later step keeps it. -/
lemma List.foldl_induction_of_mem {α β : Type} {f : β → α → β} (P Q : β → Prop) :
    ∀ (l : List α) (b : β) {a : α}, a ∈ l → P b → (∀ b x, x ∈ l → P b → P (f b x)) →
      (∀ b, P b → Q (f b a)) → (∀ b x, x ∈ l → P b → Q b → Q (f b x)) → Q (l.foldl f b)
  | [], _, _, ha, _, _, _, _ => (List.not_mem_nil ha).elim
  | x :: l, b, a, ha, hb, hP, hQa, hQ => by
    rw [List.foldl_cons]
    have hPx : P (f b x) := hP b x (List.mem_cons_self ..) hb
    have hPl : ∀ b y, y ∈ l → P b → P (f b y) := fun b y hy => hP b y (List.mem_cons_of_mem _ hy)
    have hQl : ∀ b y, y ∈ l → P b → Q b → Q (f b y) := fun b y hy =>
      hQ b y (List.mem_cons_of_mem _ hy)
    rcases List.mem_cons.1 ha with rfl | ha
    · -- the step of `a` comes first; the later steps keep what it made true
      have hQx : Q (f b a) := hQa b hb
      refine List.foldlRecOn (motive := fun b => P b ∧ Q b) l _ ⟨hPx, hQx⟩ ?_ |>.2
      exact fun b hb y hy => ⟨hPl b y hy hb.1, hQl b y hy hb.1 hb.2⟩
    · exact foldl_induction_of_mem P Q l _ ha hPx hPl hQa hQl

namespace Edge

/-- The edge joins `a` and `b`, one way or the other. -/
def Joins (e : Edge) (a b : String) : Prop :=
  (e.source = a ∧ e.target = b) ∨ (e.source = b ∧ e.target = a)

end Edge

namespace GraphModel

variable {g : GraphModel} {excluded : StrSet}

/-- An edge on screen joins `a` and `b`, one way or the other. -/
def Joined (g : GraphModel) (a b : String) : Prop := ∃ i e, g.edge? i = some e ∧ e.Joins a b

/-- The edge ids the model has taken are those of plain URIs, and the reverse of a folded edge
is on screen unless one of its ends is excluded. -/
structure PlainIds (g : GraphModel) (excluded : StrSet) : Prop where
  edges : ∀ i e, g.edge? i = some e → IsPlainText e.source ∧ IsPlainText e.target
  folded : ∀ f ∈ g.folded, ∃ a b, IsPlainText a ∧ IsPlainText b ∧ f = edgeId a b ∧
    ((g.edge? (edgeId b a)).isSome ∨ a ∈ excluded ∨ b ∈ excluded)

lemma PlainIds.empty (excluded : StrSet) : PlainIds {} excluded where
  edges _ _ h := nomatch h
  folded _ h := nomatch h

/-! ### Adding a node -/

section AddNode

variable (n : Node)

@[simp] lemma edges_addNode : (g.addNode n).2.edges = g.edges := by
  unfold addNode
  split <;> rfl

@[simp] lemma folded_addNode : (g.addNode n).2.folded = g.folded := by
  unfold addNode
  split <;> rfl

lemma containsNode_addNode_self : (g.addNode n).2.containsNode n.uri = true := by
  unfold addNode
  split
  · next h => exact h
  · simp [containsNode, StrMap.containsKey, StrMap.lookup_insert]

lemma containsNode_addNode_of {u : String} (hu : g.containsNode u = true) :
    (g.addNode n).2.containsNode u = true := by
  unfold addNode
  split
  · exact hu
  · simp only [containsNode, StrMap.containsKey, StrMap.lookup_insert]
    split
    · rfl
    · exact hu

lemma Joined.addNode {a b : String} (h : g.Joined a b) : (g.addNode n).2.Joined a b := by
  obtain ⟨i, e, he, hj⟩ := h
  exact ⟨i, e, by simpa [edge?] using he, hj⟩

lemma PlainIds.addNode (h : g.PlainIds excluded) : (g.addNode n).2.PlainIds excluded where
  edges i e he := h.edges i e (by simpa [edge?] using he)
  folded f hf := by simpa [edge?] using h.folded f (by simpa using hf)

end AddNode

/-! ### Adding an edge -/

section AddEdge

variable (e : Edge)

lemma edge?_addEdge_of {i : String} {x : Edge} (hx : g.edge? i = some x) :
    (g.addEdge e).2.edge? i = some x := by
  rcases addEdge_cases (h := g) e with heq | ⟨hfree, hlook⟩
  · rw [heq]
    exact hx
  · rw [hlook]
    -- the id of the new edge was free, so it is not `i`
    have hne : i ≠ e.id := by
      rintro rfl
      rw [containsEdge_eq_false] at hfree
      rw [hfree.1] at hx
      cases hx
    rw [if_neg hne, hx]

lemma Joined.addEdge {a b : String} (h : g.Joined a b) : (g.addEdge e).2.Joined a b := by
  obtain ⟨i, x, hx, hj⟩ := h
  exact ⟨i, x, edge?_addEdge_of e hx, hj⟩

lemma PlainIds.addEdge (h : g.PlainIds excluded) (hs : IsPlainText e.source)
    (ht : IsPlainText e.target) : (g.addEdge e).2.PlainIds excluded where
  edges i x hx := by
    rcases addEdge_cases (h := g) e with heq | ⟨-, hlook⟩
    · rw [heq] at hx
      exact h.edges i x hx
    · rw [hlook] at hx
      split at hx
      · cases hx
        exact ⟨hs, ht⟩
      · exact h.edges i x hx
  folded f hf := by
    rw [folded_addEdge] at hf
    obtain ⟨a, b, ha, hb, rfl, hrev⟩ := h.folded _ hf
    refine ⟨a, b, ha, hb, rfl, ?_⟩
    rcases hrev with hrev | hrev
    · obtain ⟨x, hx⟩ := Option.isSome_iff_exists.1 hrev
      exact .inl (by rw [edge?_addEdge_of e hx]; rfl)
    · exact .inr hrev

/-- Adding an edge between plain URIs on screen, neither of them excluded, leaves them joined:
the edge is added, or an edge with its id is on screen and has the same ends, or its id is
folded and the reverse edge is on screen.

**Proof sketch.** The three cases of `addEdge`; in the last two, the id of the edge on screen
is that of the edge added, or of its reverse, and between plain URIs an id names its ends
(`ContentUri.edgeId_injective`). -/
theorem joined_addEdge (hg : g.WellFormed) (hp : g.PlainIds excluded) (hs : IsPlainText e.source)
    (ht : IsPlainText e.target) (hsn : g.containsNode e.source = true)
    (htn : g.containsNode e.target = true) (hse : e.source ∉ excluded) (hte : e.target ∉ excluded) :
    (g.addEdge e).2.Joined e.source e.target := by
  unfold addEdge
  split
  · next hc =>
    -- refused while both ends are nodes: the id is taken
    have htaken : g.containsEdge e.id = true := by simpa [hsn, htn] using hc
    simp only [containsEdge, Bool.or_eq_true, StrMap.containsKey, StrSet.contains_iff] at htaken
    rcases htaken with hon | hfold
    · -- an edge with the same id is on screen: it has the same ends
      obtain ⟨x, hx⟩ := Option.isSome_iff_exists.1 hon
      obtain ⟨hxs, hxt⟩ := hp.edges _ x hx
      have hid : edgeId x.source x.target = edgeId e.source e.target := hg.edge_id _ x hx
      obtain ⟨h1, h2⟩ := ContentUri.edgeId_injective hxs hxt hs ht hid
      exact ⟨_, x, hx, .inl ⟨h1, h2⟩⟩
    · -- the id is folded: its reverse is on screen, since neither end is excluded
      obtain ⟨a, b, ha, hb, hf, hrev⟩ := hp.folded _ hfold
      obtain ⟨rfl, rfl⟩ := ContentUri.edgeId_injective hs ht ha hb hf
      rcases hrev with hrev | hrev | hrev
      · obtain ⟨x, hx⟩ := Option.isSome_iff_exists.1 hrev
        obtain ⟨hxs, hxt⟩ := hp.edges _ x hx
        have hid : edgeId x.source x.target = edgeId e.target e.source := hg.edge_id _ x hx
        obtain ⟨h1, h2⟩ := ContentUri.edgeId_injective hxs hxt ht hs hid
        exact ⟨_, x, hx, .inr ⟨h1, h2⟩⟩
      · exact (hse hrev).elim
      · exact (hte hrev).elim
  · exact ⟨e.id, e, by simp [edge?, StrMap.lookup_insert], .inl ⟨rfl, rfl⟩⟩

end AddEdge

/-! ### Replacing the record of a node -/

section SetNode

variable {u : String} {n : Node}

lemma Joined.setNode {a b : String} (h : g.Joined a b) :
    ({ g with nodes := g.nodes.insert u n } : GraphModel).Joined a b := h

lemma PlainIds.setNode (h : g.PlainIds excluded) :
    ({ g with nodes := g.nodes.insert u n } : GraphModel).PlainIds excluded := ⟨h.edges, h.folded⟩

end SetNode

/-- Whether an edge is joined depends only on the edges on screen. -/
lemma joined_of_edges {g' : GraphModel} (h : g'.edges = g.edges) {a b : String}
    (hj : g.Joined a b) : g'.Joined a b := by
  obtain ⟨i, x, hx, hj⟩ := hj
  exact ⟨i, x, by rw [edge?, h]; exact hx, hj⟩

lemma PlainIds.of_edges {g' : GraphModel} (h : g.PlainIds excluded) (he : g'.edges = g.edges)
    (hf : g'.folded = g.folded) : g'.PlainIds excluded where
  edges i x hx := h.edges i x (by rw [edge?, ← he]; exact hx)
  folded f hfo := by
    rw [hf] at hfo
    simpa only [edge?, he] using h.folded f hfo

/-- Everything on screen in `g` is on screen in `g'`: its nodes, and its nodes joined. -/
structure Grows (g g' : GraphModel) : Prop where
  nodes : ∀ x, g.containsNode x = true → g'.containsNode x = true
  joined : ∀ a b, g.Joined a b → g'.Joined a b

lemma Grows.refl (g : GraphModel) : Grows g g := ⟨fun _ h => h, fun _ _ h => h⟩

lemma Grows.trans {g' g'' : GraphModel} (h : Grows g g') (h' : Grows g' g'') : Grows g g'' :=
  ⟨fun x hx => h'.nodes x (h.nodes x hx), fun a b hab => h'.joined a b (h.joined a b hab)⟩

lemma Joined.symm {a b : String} (h : g.Joined a b) : g.Joined b a := by
  obtain ⟨i, x, hx, hj⟩ := h
  exact ⟨i, x, hx, hj.symm⟩

end GraphModel

namespace Explorer

variable {e e' : Explorer} {uri : String} {m : GraphModel}

/-! ### Merging an answer -/

section Merge

/-- One step of adding the nodes of an answer, as `addNodes` takes it. -/
def addNodeStep (e : Explorer) (uri : String) (acc : Nat × List String × GraphModel)
    (n : NetworkNode) : Nat × List String × GraphModel :=
  let (added, fresh, m) := acc
  if e.excluded.contains n.id then acc
  else
    match m.addNode (Node.new n.id (Text.decodeEntities n.label) n.group e.labelMode) with
    | (true, m) => (added + 1, if n.id != uri then fresh ++ [n.id] else fresh, m)
    | (false, m) => (added, fresh, m)

lemma addNodes_eq (nodes : List NetworkNode) (m : GraphModel) :
    e.addNodes uri nodes m = nodes.foldl (addNodeStep e uri) (0, [], m) := rfl

/-- The model after a step: the node added, unless it is excluded. -/
lemma model_addNodeStep (acc : Nat × List String × GraphModel) (n : NetworkNode) :
    (addNodeStep e uri acc n).2.2 =
      if e.excluded.contains n.id then acc.2.2
      else (acc.2.2.addNode (Node.new n.id (Text.decodeEntities n.label) n.group e.labelMode)).2 := by
  obtain ⟨added, fresh, m⟩ := acc
  unfold addNodeStep
  dsimp only
  split
  · rfl
  · split <;> next h => rw [h]

/-- Adding the nodes of an answer plots every one of them that is not excluded. -/
lemma containsNode_addNodes {nodes : List NetworkNode} {n : NetworkNode} (hn : n ∈ nodes)
    (hex : n.id ∉ e.excluded) : (e.addNodes uri nodes m).2.2.containsNode n.id = true := by
  rw [addNodes_eq]
  refine List.foldl_induction_of_mem (fun _ => True)
    (fun acc : Nat × List String × GraphModel => acc.2.2.containsNode n.id = true) nodes _ hn
    trivial (fun _ _ _ _ => trivial) (fun acc _ => ?_) (fun acc x _ _ hacc => ?_)
  · rw [model_addNodeStep, if_neg (by rwa [StrSet.contains_iff])]
    exact GraphModel.containsNode_addNode_self (g := acc.2.2)
      (Node.new n.id (Text.decodeEntities n.label) n.group e.labelMode)
  · rw [model_addNodeStep]
    split
    · exact hacc
    · exact GraphModel.containsNode_addNode_of _ hacc

/-- Adding the nodes of an answer keeps the nodes there, and leaves the edges alone. -/
lemma addNodes_frame (nodes : List NetworkNode) (m : GraphModel) :
    (∀ x, m.containsNode x = true → (e.addNodes uri nodes m).2.2.containsNode x = true) ∧
      (e.addNodes uri nodes m).2.2.edges = m.edges ∧
      (e.addNodes uri nodes m).2.2.folded = m.folded := by
  rw [addNodes_eq]
  refine List.foldlRecOn (motive := fun acc : Nat × List String × GraphModel =>
    (∀ x, m.containsNode x = true → acc.2.2.containsNode x = true) ∧ acc.2.2.edges = m.edges ∧
      acc.2.2.folded = m.folded) nodes _ ⟨fun _ h => h, rfl, rfl⟩ ?_
  intro acc ⟨hnodes, hedges, hfolded⟩ n _
  rw [model_addNodeStep]
  split
  · exact ⟨hnodes, hedges, hfolded⟩
  · exact ⟨fun x hx => GraphModel.containsNode_addNode_of _ (hnodes x hx),
      by rw [GraphModel.edges_addNode, hedges], by rw [GraphModel.folded_addNode, hfolded]⟩

/-- The edge on screen for an edge of an answer. -/
def edgeOf (ed : NetworkEdge) : Edge :=
  { source := ed.source, target := ed.target, title := ed.title, freq := ed.freq }

/-- One step of adding the edges of an answer, as `addEdges` takes it. -/
def addEdgeStep (e : Explorer) (acc : Nat × GraphModel) (ed : NetworkEdge) : Nat × GraphModel :=
  let (added, m) := acc
  if e.excluded.contains ed.source || e.excluded.contains ed.target then acc
  else
    match m.addEdge (edgeOf ed) with
    | (true, m) => (added + 1, m)
    | (false, m) => (added, m)

lemma addEdges_eq (edges : List NetworkEdge) (m : GraphModel) :
    e.addEdges edges m = edges.foldl (addEdgeStep e) (0, m) := rfl

/-- The model after a step: the edge added, unless an end is excluded. -/
lemma model_addEdgeStep (acc : Nat × GraphModel) (ed : NetworkEdge) :
    (addEdgeStep e acc ed).2 =
      if e.excluded.contains ed.source || e.excluded.contains ed.target then acc.2
      else (acc.2.addEdge (edgeOf ed)).2 := by
  obtain ⟨added, m⟩ := acc
  unfold addEdgeStep
  dsimp only
  split
  · rfl
  · split <;> next h => rw [h]

/-- What adding edges with plain ends keeps: the nodes, the edges joined, the model well
formed, and its ids plain. -/
def EdgesKept (e : Explorer) (m m' : GraphModel) : Prop :=
  (∀ x, m'.containsNode x = m.containsNode x) ∧ (∀ a b, m.Joined a b → m'.Joined a b) ∧
    m'.WellFormed ∧ m'.PlainIds e.excluded

lemma EdgesKept.step {edges : List NetworkEdge}
    (hplain : ∀ ed ∈ edges, IsPlainText ed.source ∧ IsPlainText ed.target)
    {acc : Nat × GraphModel} (hacc : EdgesKept e m acc.2) {ed : NetworkEdge} (hed : ed ∈ edges) :
    EdgesKept e m (addEdgeStep e acc ed).2 := by
  obtain ⟨hnodes, hjoined, hwf, hids⟩ := hacc
  rw [model_addEdgeStep]
  split
  · exact ⟨hnodes, hjoined, hwf, hids⟩
  · obtain ⟨hs, ht⟩ := hplain ed hed
    exact ⟨fun x => (GraphModel.containsNode_addEdge _ x).trans (hnodes x),
      fun a b h => (hjoined a b h).addEdge _, hwf.addEdge _, hids.addEdge _ hs ht⟩

/-- Adding the edges of an answer with plain ends keeps what was there. -/
lemma addEdges_kept {edges : List NetworkEdge}
    (hplain : ∀ ed ∈ edges, IsPlainText ed.source ∧ IsPlainText ed.target)
    (hw : m.WellFormed) (hp : m.PlainIds e.excluded) : EdgesKept e m (e.addEdges edges m).2 := by
  rw [addEdges_eq]
  exact List.foldlRecOn (motive := fun acc : Nat × GraphModel => EdgesKept e m acc.2) edges _
    ⟨fun _ => rfl, fun _ _ h => h, hw, hp⟩ fun acc hacc ed hed => hacc.step hplain hed

/-- Adding the edges of an answer joins the ends of every one of them between plain URIs on
screen, neither excluded. -/
lemma joined_addEdges {edges : List NetworkEdge}
    (hplain : ∀ ed ∈ edges, IsPlainText ed.source ∧ IsPlainText ed.target)
    (hw : m.WellFormed) (hp : m.PlainIds e.excluded) {ed : NetworkEdge} (hed : ed ∈ edges)
    (hsn : m.containsNode ed.source = true) (htn : m.containsNode ed.target = true)
    (hse : ed.source ∉ e.excluded) (hte : ed.target ∉ e.excluded) :
    (e.addEdges edges m).2.Joined ed.source ed.target := by
  rw [addEdges_eq]
  refine List.foldl_induction_of_mem (fun acc : Nat × GraphModel => EdgesKept e m acc.2)
    (fun acc => acc.2.Joined ed.source ed.target) edges _ hed ⟨fun _ => rfl, fun _ _ h => h, hw, hp⟩
    (fun acc x hx hacc => hacc.step hplain hx) (fun acc hacc => ?_) (fun acc x _ _ hj => ?_)
  · obtain ⟨hnodes, -, hwf, hids⟩ := hacc
    have hfree : (e.excluded.contains ed.source || e.excluded.contains ed.target) = false := by
      simp [StrSet.contains_eq_false, hse, hte]
    rw [model_addEdgeStep, hfree, if_neg Bool.false_ne_true]
    exact GraphModel.joined_addEdge _ hwf hids (hplain ed hed).1 (hplain ed hed).2
      ((hnodes _).trans hsn) ((hnodes _).trans htn) hse hte
  · rw [model_addEdgeStep]
    split
    · exact hj
    · exact hj.addEdge _

/-- What a merge does, said once: the model becomes the answer's nodes and edges added, with at
most the record of the merged node replaced, so that the nodes, edges and folded ids are those
of the additions; nothing else changes but the panes; it asks for a resprawl only below the
bound; and when the merged node is plotted and the sprawl moves the cursor, the node's cursor
is one page past the start of the answer. -/
lemma merge_inv {answer : Neighborhood} {skip : Nat} {o : SprawlOptions} {maxR : Nat} {r : Merged}
    (hm : e.merge uri answer skip o maxR = .ok (r, e')) :
    let m := (e.addEdges answer.edges (e.addNodes uri answer.nodes e.model).2.2).2
    ∃ model panes, e' = { e with model := model, panes := panes } ∧ model.edges = m.edges ∧
      model.folded = m.folded ∧ (∀ x, model.containsNode x = m.containsNode x) ∧
      (r.resprawl = true → o.resprawl < maxR) ∧
      (m.containsNode uri = true → o.advancesCursor = true →
        ∃ nd, model.node? uri = some nd ∧ nd.skip = skip + e.perTypeLimit) := by
  intro m
  unfold merge at hm
  rcases h1 : e.addNodes uri answer.nodes e.model with ⟨nodesAdded, fresh, m1⟩
  rcases h2 : e.addEdges answer.edges m1 with ⟨edgesAdded, m2⟩
  have hm2 : m = m2 := by simp only [m, h1, h2]
  rw [h1] at hm
  dsimp only at hm
  rw [h2] at hm
  dsimp only at hm
  rw [hm2]
  cases hnd : m2.node? uri with
  | none =>
    rw [hnd] at hm
    cases hm
    refine ⟨m2, _, rfl, rfl, rfl, fun _ => rfl, fun h => by simp at h; omega, fun hu _ => ?_⟩
    -- a plotted node has a record
    have hnone : StrMap.lookup uri m2.nodes = none := hnd
    simp [GraphModel.containsNode, StrMap.containsKey, hnone] at hu
  | some nd =>
    rw [hnd] at hm
    dsimp only at hm
    split at hm
    · obtain ⟨next, hnext, hm⟩ := Except.bind_eq_ok.1 hm
      cases hm
      have hnext' : next = skip + e.perTypeLimit := by
        unfold addWord at hnext
        split at hnext
        · cases hnext
          rfl
        · cases hnext
      exact ⟨_, _, rfl, rfl, rfl, fun x => GraphModel.containsNode_setNode hnd _ x,
        fun h => by simp at h; omega, fun _ _ => ⟨_, StrMap.lookup_insert_self _ _ _, hnext'⟩⟩
    · next hadv =>
      cases hm
      exact ⟨_, _, rfl, rfl, rfl, fun x => GraphModel.containsNode_setNode hnd _ x,
        fun h => by simp at h; omega, fun _ h => absurd h hadv⟩

/-- A merge fails only when the cursor leaves its 32-bit word. -/
lemma merge_isOk {answer : Neighborhood} {skip : Nat} {o : SprawlOptions} {maxR : Nat}
    (hroom : skip + e.perTypeLimit ≤ u32Max) :
    ∃ r e', e.merge uri answer skip o maxR = .ok (r, e') := by
  unfold merge
  rcases h1 : e.addNodes uri answer.nodes e.model with ⟨nodesAdded, fresh, m1⟩
  dsimp only
  rcases h2 : e.addEdges answer.edges m1 with ⟨edgesAdded, m2⟩
  dsimp only
  cases m2.node? uri with
  | none => exact ⟨_, _, rfl⟩
  | some nd =>
    dsimp only
    split
    · simp only [addWord, if_pos hroom]
      exact ⟨_, _, rfl⟩
    · exact ⟨_, _, rfl⟩

/-- A merge reads the limit in force when the answer comes, not the one the request carried:
a merge that moves a plotted node's cursor moves it one page of the current limit past the skip
the request was sent from.  So the cursor lands at the end of the window asked for exactly when
the limit did not change while the request was in flight; a limit raised meanwhile makes the
next sprawl skip neighbours, and a limit lowered makes it ask for some again.  The merge is one
step of the run, so this holds however the sprawls and the changes of the limit interleave. -/
theorem merge_cursor_uses_limit_at_merge (e₀ : Explorer) {answer : Neighborhood} {skip : Nat}
    {o : SprawlOptions} {maxR : Nat} {r : Merged}
    (hm : e.merge uri answer skip o maxR = .ok (r, e')) (hadv : o.advancesCursor = true)
    (hplotted : e'.model.containsNode uri = true) :
    ∃ nd, e'.model.node? uri = some nd ∧ nd.skip = (e₀.query skip o).skip + e.perTypeLimit ∧
      (nd.skip = (e₀.query skip o).skip + (e₀.query skip o).limit ↔
        (e₀.query skip o).limit = e.perTypeLimit) := by
  obtain ⟨model, panes, rfl, -, -, hnodes, -, hcursor⟩ := merge_inv hm
  -- the node was plotted before its record was replaced
  have hbefore := (hnodes uri).symm.trans hplotted
  obtain ⟨nd, hnd, hskip⟩ := hcursor hbefore hadv
  refine ⟨nd, hnd, hskip, ?_⟩
  simp only [query, hskip]
  omega

/-- A book's answer merged after the limit was raised from five to ten while its request, sent
with five, was in flight: the cursor moves to ten, past the window of five asked for. -/
theorem merge_cursor_past_window_after_raised_limit :
    ∃ r e', ({ Explorer.start { perTypeLimit := 5 } with perTypeLimit := 10 }).merge "b1"
        { nodes := [{ id := "b1", group := "Book" }] } 0 {} 3 = .ok (r, e') ∧
      e'.model.containsNode "b1" = true ∧
      ∃ nd, e'.model.node? "b1" = some nd ∧ nd.skip = 10 ∧
        nd.skip ≠ ((Explorer.start { perTypeLimit := 5 }).query 0 {}).skip +
          ((Explorer.start { perTypeLimit := 5 }).query 0 {}).limit := by
  obtain ⟨r, e', hm, hplotted⟩ : ∃ r e', ({ Explorer.start { perTypeLimit := 5 } with
      perTypeLimit := 10 }).merge "b1" { nodes := [{ id := "b1", group := "Book" }] } 0 {} 3 =
        .ok (r, e') ∧ e'.model.containsNode "b1" = true :=
    ⟨_, _, rfl, by decide⟩
  obtain ⟨nd, hnd, hskip, hwindow⟩ :=
    merge_cursor_uses_limit_at_merge (Explorer.start { perTypeLimit := 5 }) hm rfl hplotted
  exact ⟨r, e', hm, hplotted, nd, hnd, hskip, fun h => absurd (hwindow.1 h) (by decide)⟩

/-- What merging an answer leaves on screen: the ids stay plain, everything that was on screen
stays, every node of the answer that is not excluded is plotted, and the ends of every edge of
the answer between its nodes, neither excluded, are joined. -/
structure MergedInto (answer : Neighborhood) (e e' : Explorer) : Prop where
  plainIds : e'.model.PlainIds e'.excluded
  grows : e.model.Grows e'.model
  nodes : ∀ n ∈ answer.nodes, n.id ∉ e.excluded → e'.model.containsNode n.id = true
  edges : ∀ ed ∈ answer.edges, (∃ n ∈ answer.nodes, n.id = ed.source) →
    (∃ n ∈ answer.nodes, n.id = ed.target) → ed.source ∉ e.excluded → ed.target ∉ e.excluded →
    e'.model.Joined ed.source ed.target

/-- A merge of an answer whose edges join plain URIs leaves it on screen.

**Proof sketch.** Adding the nodes plots those not excluded and leaves the edges alone;
adding the edges joins the ends of each (`joined_addEdges`); the node's record, replaced last,
changes no node's presence and no edge (`merge_inv`). -/
theorem mergedInto_of_merge (hw : e.WellFormed) (hp : e.model.PlainIds e.excluded)
    {answer : Neighborhood} {skip : Nat} {o : SprawlOptions} {maxR : Nat} {r : Merged}
    (hplain : ∀ ed ∈ answer.edges, IsPlainText ed.source ∧ IsPlainText ed.target)
    (hm : e.merge uri answer skip o maxR = .ok (r, e')) : MergedInto answer e e' := by
  obtain ⟨model, panes, rfl, hedges, hfolded, hnodes, -, -⟩ := merge_inv hm
  set m1 := (e.addNodes uri answer.nodes e.model).2.2 with hm1
  obtain ⟨hgrow1, hedges1, hfolded1⟩ := @addNodes_frame e uri answer.nodes e.model
  have hw1 : m1.WellFormed := (WellFormed.addNodes (e := e) (m := e.model) hw answer.nodes).model
  have hp1 : m1.PlainIds e.excluded := hp.of_edges hedges1 hfolded1
  obtain ⟨hnodes2, hjoined2, -, hp2⟩ := addEdges_kept (e := e) hplain hw1 hp1
  -- from `e.model` through the added nodes and edges to the model merged
  have hgrow : e.model.Grows model :=
    ⟨fun x hx => (hnodes x).trans ((hnodes2 x).trans (hgrow1 x hx)),
      fun a b hab => GraphModel.joined_of_edges hedges
        (hjoined2 a b (GraphModel.joined_of_edges hedges1 hab))⟩
  have hplot : ∀ n ∈ answer.nodes, n.id ∉ e.excluded → m1.containsNode n.id = true :=
    fun n hn hex => containsNode_addNodes hn hex
  refine ⟨hp2.of_edges hedges hfolded, hgrow, fun n hn hex => ?_, fun ed hed hs ht hse hte => ?_⟩
  · rw [hnodes, hnodes2]
    exact hplot n hn hex
  · obtain ⟨ns, hns, hsid⟩ := hs
    obtain ⟨nt, hnt, htid⟩ := ht
    refine GraphModel.joined_of_edges hedges (joined_addEdges hplain hw1 hp1 hed ?_ ?_ hse hte)
    · rw [← hsid]
      exact hplot ns hns (hsid ▸ hse)
    · rw [← htid]
      exact hplot nt hnt (htid ▸ hte)

end Merge

end Explorer

namespace SprawlOptions

/-- The options of a sprawl that reads the page at the node's cursor, of every type, and
sprawls no children. -/
def Paged (o : SprawlOptions) : Prop :=
  o.sprawlChildren = false ∧ o.targetType = none ∧ o.skip = none ∧ o.metaOnly = false

lemma paged_default : ({} : SprawlOptions).Paged := ⟨rfl, rfl, rfl, rfl⟩

/-- A resprawl of a sprawl that reads the next page reads the next page too. -/
lemma Paged.resprawl {o : SprawlOptions} (h : o.Paged) :
    ({ isSeed := o.isSeed, sprawlChildren := o.sprawlChildren, targetType := o.targetType,
       resprawl := o.resprawl + 1, metaOnly := o.metaOnly } : SprawlOptions).Paged :=
  ⟨h.1, h.2.1, rfl, h.2.2.2⟩

lemma Paged.advancesCursor {o : SprawlOptions} (h : o.Paged) : o.advancesCursor = true := by
  simp [SprawlOptions.advancesCursor, h.2.1, h.2.2.2]

end SprawlOptions

namespace World

variable {σ : Type}

/-! ### Programs over the explorer and a source -/

lemma total_ask {α : Type} {p : Proc σ α} {Q : α → World σ → Prop} {w : World σ}
    (h : Proc.Total p (fun a s => Q a { w with source := s }) w.source) :
    Proc.Total (ask p) Q w := by
  unfold ask
  refine ⟨(Proc.finishes_zoom (fun _ _ => rfl) p w).2 h.1, ?_⟩
  refine (Proc.wp_zoom ?_ ?_ ?_ p Q w).2 h.2 <;> intros <;> rfl

lemma total_onExplorer {α : Type} {f : Explorer → α × Explorer} {Q : α → World σ → Prop}
    {w : World σ} (h : Q (f w.explorer).1 { w with explorer := (f w.explorer).2 }) :
    Proc.Total (onExplorer f) Q w :=
  ⟨trivial, h⟩

lemma total_onExplorerOrAbort {α : Type} {f : Explorer → Except Abort (α × Explorer)} {a : α}
    {e : Explorer} {Q : α → World σ → Prop} {w : World σ} (hf : f w.explorer = .ok (a, e))
    (h : Q a { w with explorer := e }) : Proc.Total (onExplorerOrAbort f) Q w := by
  unfold onExplorerOrAbort
  refine Proc.Total.bind ⟨trivial, ?_⟩
  rw [Proc.wp_get, hf]
  exact ⟨trivial, h⟩

/-! ### The in-memory server as the source -/

/-- A neighbourhood request for a URI that does not fail is logged and answered from the
server. -/
lemma total_networkAnswer {s : Server} (u : ContentUri) (q : NetworkQuery)
    (hfail : u.render ∉ s.failing) :
    Proc.Total (Server.networkAnswer u q) (fun r s' =>
      r = (.ok (s.neighborhood u q), s.networkDelay) ∧
        s' = s.log "network_json" u.render q.toPairs) s := by
  have hc : (s.log "network_json" u.render q.toPairs).failing.contains u.render = false :=
    (StrSet.contains_eq_false _ _).2 hfail
  unfold Server.networkAnswer Server.logged
  refine ⟨?_, ?_⟩ <;>
    simp only [Proc.finishes_bind, Proc.wp_bind, Proc.wp_modify, Proc.finishes_modify,
      Proc.wp_get, hc, Bool.false_eq_true, if_false]
  · trivial
  · exact ⟨rfl, rfl⟩

/-- A neighbourhood request for a URI that does not fail, whose answer comes within the sprawl
deadline, is answered from the server. -/
lemma total_fetchNeighborhood {w : World Server} (cfg : ExplorerConfig) (uri : String)
    (target : ContentUri) (q : NetworkQuery) (hfail : target.render ∉ w.source.failing)
    (hdelay : ∀ d, w.source.networkDelay = some d → d ≤ cfg.sprawlTimeout) :
    Proc.Total (fetchNeighborhood Server.networkAnswer cfg uri target q) (fun r w' =>
      r = .ok (w.source.neighborhood target q) ∧
        w' = { w with source := w.source.log "network_json" target.render q.toPairs }) w := by
  unfold fetchNeighborhood
  refine Proc.Total.bind (total_ask ((total_networkAnswer target q hfail).mono ?_))
  rintro ⟨answer, delay⟩ s ⟨hr, rfl⟩
  simp only [Prod.mk.injEq] at hr
  obtain ⟨rfl, rfl⟩ := hr
  dsimp only
  cases hd : w.source.networkDelay with
  | none => exact Proc.total_pure _ ⟨rfl, rfl⟩
  | some d =>
    dsimp only
    rw [if_neg (Nat.not_lt.2 (hdelay d hd))]
    split
    · exact Proc.total_pure _ ⟨rfl, rfl⟩
    · exact Proc.Total.bind (Proc.total_pause d (Proc.total_pure _ ⟨rfl, rfl⟩))

/-! ### Pages plotted -/

/-- Where repeated sprawls of `u` from `w₀` stand, with the cursor at `c`: the explorer is that
of `w₀` but for its model, panes and count in flight; the server is that of `w₀` with more
requests logged; the model is well formed with plain ids; `u`'s cursor is at `c`, or `u` is
not plotted and `c` is `0`; and every neighbour `w₀`'s server shows at a position below `c`
of its group is plotted and joined to `u`, unless it is excluded. -/
structure PagesPlotted (w₀ : World Server) (u : ContentUri) (c : Nat) (w : World Server) : Prop
    where
  explorer : ∃ model panes pending, w.explorer =
    { w₀.explorer with model := model, panes := panes, pending := pending }
  server : ∃ more, w.source = w₀.source.record more
  wellFormed : w.explorer.WellFormed
  plainIds : w.explorer.model.PlainIds w.explorer.excluded
  cursor : (w.explorer.model.node? u.render).map Node.skip = some c ∨
    (c = 0 ∧ w.explorer.model.node? u.render = none)
  plotted : ∀ ct xs, (ct, xs) ∈ w₀.source.visibleNeighbors u (w₀.explorer.query 0 {}) →
    ∀ i (hi : i < xs.length), i < c → xs[i].1.render ∉ w₀.explorer.excluded →
      w.explorer.model.containsNode xs[i].1.render = true ∧
        w.explorer.model.Joined u.render xs[i].1.render

variable {w₀ w : World Server} {u : ContentUri} {c : Nat}

lemma PagesPlotted.start (hwf : w₀.explorer.WellFormed)
    (hids : w₀.explorer.model.PlainIds w₀.explorer.excluded)
    (hstart : ∀ n, w₀.explorer.model.node? u.render = some n → n.skip = 0) :
    PagesPlotted w₀ u 0 w₀ where
  explorer := ⟨_, _, _, rfl⟩
  server := ⟨[], (Server.record_nil _).symm⟩
  wellFormed := hwf
  plainIds := hids
  cursor := by
    cases hn : w₀.explorer.model.node? u.render with
    | none => exact .inr ⟨rfl, rfl⟩
    | some n => exact .inl (by simp [hstart n hn])
  plotted := fun _ _ _ _ _ hi => absurd hi (Nat.not_lt_zero _)

/-- Counting operations in flight changes nothing that repeated sprawls read. -/
lemma PagesPlotted.pending (h : PagesPlotted w₀ u c w) (p : PendingOps) :
    PagesPlotted w₀ u c { w with explorer := { w.explorer with pending := p } } where
  explorer := by
    obtain ⟨model, panes, _, hw⟩ := h.explorer
    exact ⟨model, panes, p, by rw [hw]⟩
  server := h.server
  wellFormed := ⟨h.wellFormed.model, h.wellFormed.excluded_unplotted⟩
  plainIds := h.plainIds
  cursor := h.cursor
  plotted := h.plotted

/-- Logging a request changes nothing that repeated sprawls read. -/
lemma PagesPlotted.log (h : PagesPlotted w₀ u c w) (op target : String) (ps : QueryPairs) :
    PagesPlotted w₀ u c { w with source := w.source.log op target ps } where
  explorer := h.explorer
  server := by
    obtain ⟨more, hs⟩ := h.server
    exact ⟨more ++ [⟨op, target, ps⟩], by rw [hs, Server.log_eq_record, Server.record_record]⟩
  wellFormed := h.wellFormed
  plainIds := h.plainIds
  cursor := h.cursor
  plotted := h.plotted

/-- The cursor a sprawl with no skip of its own reads from. -/
lemma PagesPlotted.cursor_eq (h : PagesPlotted w₀ u c w) :
    ((w.explorer.model.node? u.render).map Node.skip).getD 0 = c := by
  rcases h.cursor with hc | ⟨rfl, hn⟩
  · rw [hc]
    rfl
  · rw [hn]
    rfl

lemma PagesPlotted.excluded_eq (h : PagesPlotted w₀ u c w) :
    w.explorer.excluded = w₀.explorer.excluded := by
  obtain ⟨_, _, _, hw⟩ := h.explorer
  rw [hw]

lemma PagesPlotted.perTypeLimit_eq (h : PagesPlotted w₀ u c w) :
    w.explorer.perTypeLimit = w₀.explorer.perTypeLimit := by
  obtain ⟨_, _, _, hw⟩ := h.explorer
  rw [hw]

/-- The server shows, to every query a paged sprawl asks on the way, the neighbours it showed to
the first. -/
lemma PagesPlotted.visibleNeighbors_eq (h : PagesPlotted w₀ u c w) {o : SprawlOptions}
    (ho : o.Paged) (skip : Nat) :
    w.source.visibleNeighbors u (w.explorer.query skip o) =
      w₀.source.visibleNeighbors u (w₀.explorer.query 0 {}) := by
  obtain ⟨_, _, _, hw⟩ := h.explorer
  obtain ⟨more, hs⟩ := h.server
  rw [hs, Server.visibleNeighbors_record, hw]
  exact Server.visibleNeighbors_congr rfl rfl rfl ho.2.1

/-- Merging the page at the cursor moves the cursor one page on and plots that page.

**Proof sketch.** The answer holds `u` and, from every group, the neighbours at the positions
`c` to `c + limit` with their edges to `u` (`Server.mem_window`); the merge plots them and joins
their ends (`mergedInto_of_merge`), keeps what was on screen, and moves `u`'s cursor by the
limit (`Explorer.merge_inv`). -/
lemma PagesPlotted.merge (h : PagesPlotted w₀ u c w) (hsrv : w₀.source.PlainLinks)
    (hu : u.Plain) (hex : u.render ∉ w₀.explorer.excluded) {o : SprawlOptions} (ho : o.Paged)
    {maxR : Nat} {r : Merged} {e' : Explorer}
    (hm : w.explorer.merge u.render (w.source.neighborhood u (w.explorer.query c o)) c o maxR =
      .ok (r, e')) :
    PagesPlotted w₀ u (c + w₀.explorer.perTypeLimit) { w with explorer := e' } := by
  set q := w.explorer.query c o with hq
  have hmeta : q.metaOnly = false := ho.2.2.2
  have hlinks : w.source.PlainLinks := by
    obtain ⟨more, hs⟩ := h.server
    rwa [hs, Server.PlainLinks, Server.links_record]
  -- every node and edge of the answer is about `u` or a neighbour in the window
  obtain ⟨hnodeU, hnodeR⟩ := Server.nodeOf_mem_neighborhood (s := w.source) (u := u) hmeta
  have hmi := Explorer.mergedInto_of_merge h.wellFormed h.plainIds
    (Server.plain_edges_neighborhood hlinks hu q) hm
  have hexcl := h.excluded_eq
  obtain ⟨model', panes', rfl, -, -, hcont, -, hcur⟩ := Explorer.merge_inv hm
  have huPlotted : model'.containsNode u.render = true :=
    hmi.nodes _ hnodeU (hexcl ▸ hex)
  refine ⟨?_, h.server, h.wellFormed.merge hm, hmi.plainIds, ?_, ?_⟩
  · obtain ⟨_, _, pending, hw⟩ := h.explorer
    exact ⟨model', panes', pending, by rw [hw]⟩
  · obtain ⟨nd, hnd, hskip⟩ := hcur ((hcont _).symm.trans huPlotted) ho.advancesCursor
    refine .inl ?_
    simp only [hnd, Option.map_some, hskip, h.perTypeLimit_eq]
  · intro ct xs hgroup i hi hic hxex
    by_cases hlt : i < c
    · obtain ⟨hn, hj⟩ := h.plotted ct xs hgroup i hi hlt hxex
      exact ⟨hmi.grows.nodes _ hn, hmi.grows.joined _ _ hj⟩
    -- a neighbour past the cursor is in the page just read
    have hwin : xs[i] ∈ w.source.window u q := by
      rw [← h.visibleNeighbors_eq ho c] at hgroup
      refine Server.mem_window hgroup hi (Nat.le_of_not_lt hlt) ?_
      simpa [hq, Explorer.query, h.perTypeLimit_eq] using hic
    have hxPlotted : model'.containsNode xs[i].1.render = true :=
      hmi.nodes _ (hnodeR _ hwin) (hexcl ▸ hxex)
    refine ⟨hxPlotted, ?_⟩
    have hedge : xs[i].2 ∈ (w.source.neighborhood u q).edges := by
      rw [Server.edges_neighborhood q hmeta]
      exact List.mem_map_of_mem hwin
    obtain ⟨hends, -⟩ := Server.reaching_window q _ hwin
    have hjoin := hmi.edges _ hedge
    rcases hends with ⟨hs, ht⟩ | ⟨hs, ht⟩
    · rw [hs, ht] at hjoin
      exact hjoin ⟨_, hnodeU, rfl⟩ ⟨_, hnodeR _ hwin, rfl⟩ (hexcl ▸ hex) (hexcl ▸ hxex)
    · rw [hs, ht] at hjoin
      exact (hjoin ⟨_, hnodeR _ hwin, rfl⟩ ⟨_, hnodeU, rfl⟩ (hexcl ▸ hxex)
        (hexcl ▸ hex)).symm

/-! ### Paged sprawls -/

/-- `k` sprawls of a node one after the other, with the default options. -/
def sprawlRepeatedly {σ : Type} (src : NeighborSource σ) (cfg : ExplorerConfig) (uri : String) :
    Nat → Proc (World σ) Unit
  | 0 => pure ()
  | k + 1 => do
    let _ ← sprawlTop src cfg uri {}
    sprawlRepeatedly src cfg uri k

section Sprawl

variable (cfg : ExplorerConfig) (hsrv : w₀.source.PlainLinks) (hu : u.Plain)
  (hparse : ContentUri.parse u.render = .ok u) (hfail : u.render ∉ w₀.source.failing)
  (hdelay : ∀ d, w₀.source.networkDelay = some d → d ≤ cfg.sprawlTimeout)
  (hex : u.render ∉ w₀.explorer.excluded)

include hsrv hu hfail hdelay hex

/-- The body of a paged sprawl of `u` finishes and moves the cursor by one page for itself and
one for each resprawl, given that sprawls one level down do.

**Proof sketch.** The request is answered from the server, within the deadline; the generation
has not moved, so the answer is merged, which moves the cursor one page on
(`PagesPlotted.merge`); a resprawl, at most one for each count below `maxResprawls`, starts
over from there. -/
lemma total_sprawlCounted (depth : Nat)
    (ih : ∀ o c w, o.Paged → PagesPlotted w₀ u c w →
      c + (cfg.maxResprawls - o.resprawl + 1) * w₀.explorer.perTypeLimit ≤ u32Max →
      Proc.Total (sprawl Server.networkAnswer cfg depth u.render o) (fun _ w' => ∃ c',
        PagesPlotted w₀ u c' w' ∧ c ≤ c' ∧
          c' ≤ c + (cfg.maxResprawls - o.resprawl + 1) * w₀.explorer.perTypeLimit) w)
    (o : SprawlOptions) (c : Nat) (w : World Server) (ho : o.Paged) (h : PagesPlotted w₀ u c w)
    (hroom : c + (cfg.maxResprawls - o.resprawl + 1) * w₀.explorer.perTypeLimit ≤ u32Max) :
    Proc.Total (sprawlCounted Server.networkAnswer cfg depth u.render u o) (fun _ w' => ∃ c',
      PagesPlotted w₀ u c' w' ∧ c + w₀.explorer.perTypeLimit ≤ c' ∧
        c' ≤ c + (cfg.maxResprawls - o.resprawl + 1) * w₀.explorer.perTypeLimit) w := by
  set L := w₀.explorer.perTypeLimit
  obtain ⟨more, hs⟩ := h.server
  have hnotex : StrSet.contains u.render w.explorer.excluded = false := by
    rw [StrSet.contains_eq_false, h.excluded_eq]
    exact hex
  unfold sprawlCounted
  refine Proc.Total.bind (Proc.total_gets ?_)
  dsimp only
  rw [if_neg (by simp [hnotex]), ho.2.2.1, Option.getD_none, h.cursor_eq]
  refine Proc.Total.bind ((total_fetchNeighborhood cfg u.render u _ (by rwa [hs])
    (by rwa [hs])).mono ?_)
  rintro _ w1 ⟨rfl, rfl⟩
  refine Proc.Total.bind (Proc.total_gets ?_)
  dsimp only
  rw [if_neg (by simp)]
  have hroom1 : c + w.explorer.perTypeLimit ≤ u32Max := by
    rw [h.perTypeLimit_eq]
    have : L ≤ (cfg.maxResprawls - o.resprawl + 1) * L := Nat.le_mul_of_pos_left L (by omega)
    omega
  obtain ⟨m, e', hm⟩ := @Explorer.merge_isOk w.explorer u.render
    (w.source.neighborhood u (w.explorer.query c o)) c o cfg.maxResprawls hroom1
  have h1 := (h.log "network_json" u.render (w.explorer.query c o).toPairs).merge hsrv hu hex ho hm
  obtain ⟨-, -, -, -, -, -, hρ, -⟩ := Explorer.merge_inv hm
  refine Proc.Total.bind (total_onExplorerOrAbort hm ?_)
  split
  · rename_i hresprawl
    have hlt := hρ hresprawl
    have hsplit : (cfg.maxResprawls - o.resprawl + 1) * L =
        L + (cfg.maxResprawls - (o.resprawl + 1) + 1) * L := by
      rw [show cfg.maxResprawls - o.resprawl = cfg.maxResprawls - (o.resprawl + 1) + 1 by omega,
        Nat.add_mul (cfg.maxResprawls - (o.resprawl + 1) + 1) 1 L, Nat.one_mul, Nat.add_comm]
    have hroom2 : c + L + (cfg.maxResprawls - (o.resprawl + 1) + 1) * L ≤ u32Max := by omega
    refine Proc.Total.bind ((ih _ (c + L) _ ho.resprawl h1 hroom2).mono ?_)
    rintro r w3 ⟨c', h3, hlo, hhi⟩
    dsimp only at hhi
    -- the children of a paged sprawl are not sprawled
    cases r <;> simp only [ho.1, Bool.false_and, Bool.false_eq_true, if_false] <;>
      exact Proc.total_pure _ ⟨c', h3, hlo, by omega⟩
  · simp only [ho.1, Bool.false_and, Bool.false_eq_true, if_false]
    exact Proc.total_pure _ ⟨c + L, h1, le_rfl, Nat.add_le_add_left
      (Nat.le_mul_of_pos_left L (by omega)) c⟩

include hparse in
/-- A paged sprawl of `u` finishes. It moves the cursor on by at least one page when it has
depth left, and by at most one page for itself and one for each resprawl it may still make.

**Proof sketch.** Induction on the depth, which each resprawl uses one unit of: the sprawl
counts itself in flight around its body (`total_sprawlCounted`), which the count leaves alone
(`PagesPlotted.pending`). -/
theorem total_sprawl : ∀ (depth : Nat) (o : SprawlOptions) (c : Nat) (w : World Server),
    o.Paged → PagesPlotted w₀ u c w →
    c + (cfg.maxResprawls - o.resprawl + 1) * w₀.explorer.perTypeLimit ≤ u32Max →
    Proc.Total (sprawl Server.networkAnswer cfg depth u.render o) (fun _ w' => ∃ c',
      PagesPlotted w₀ u c' w' ∧ (0 < depth → c + w₀.explorer.perTypeLimit ≤ c') ∧ c ≤ c' ∧
        c' ≤ c + (cfg.maxResprawls - o.resprawl + 1) * w₀.explorer.perTypeLimit) w
  | 0, _, c, _, _, h, _ => by
    simp only [sprawl]
    exact Proc.total_pure _ ⟨c, h, fun h0 => absurd h0 (Nat.lt_irrefl 0), le_rfl,
      Nat.le_add_right _ _⟩
  | depth + 1, o, c, w, ho, h, hroom => by
    have ih : ∀ o c w, SprawlOptions.Paged o → PagesPlotted w₀ u c w →
        c + (cfg.maxResprawls - o.resprawl + 1) * w₀.explorer.perTypeLimit ≤ u32Max →
        Proc.Total (sprawl Server.networkAnswer cfg depth u.render o) (fun _ w' => ∃ c',
          PagesPlotted w₀ u c' w' ∧ c ≤ c' ∧
            c' ≤ c + (cfg.maxResprawls - o.resprawl + 1) * w₀.explorer.perTypeLimit) w :=
      fun o c w ho h hroom => (total_sprawl depth o c w ho h hroom).mono <| by
        rintro _ _ ⟨c', h', -, hlo, hhi⟩
        exact ⟨c', h', hlo, hhi⟩
    simp only [sprawl, hparse]
    refine Proc.Total.bind (total_onExplorer ?_)
    refine Proc.Total.bind ((total_sprawlCounted cfg hsrv hu hfail hdelay hex depth ih o c _ ho
      (h.pending _) hroom).mono ?_)
    rintro _ w2 ⟨c', h2, hlo, hhi⟩
    refine Proc.Total.bind (total_onExplorer ?_)
    exact Proc.total_pure _ ⟨c', h2.pending _, fun _ => hlo, by omega, hhi⟩

include hparse in
/-- `k` sprawls of `u` from the cursor `c` finish and move it on by at least `k` pages, as long
as the cursor stays within its word.

**Proof sketch.** Induction on `k`: each sprawl moves the cursor on by one page at least and by
one page for each resprawl at most (`total_sprawl`). -/
lemma total_sprawlRepeatedly : ∀ (k c : Nat) (w : World Server), PagesPlotted w₀ u c w →
    c + k * ((cfg.maxResprawls + 1) * w₀.explorer.perTypeLimit) ≤ u32Max →
    Proc.Total (sprawlRepeatedly Server.networkAnswer cfg u.render k)
      (fun _ w' => ∃ c', PagesPlotted w₀ u c' w' ∧ c + k * w₀.explorer.perTypeLimit ≤ c') w
  | 0, c, _, h, _ => by
    simp only [sprawlRepeatedly]
    exact Proc.total_pure _ ⟨c, h, by simp⟩
  | k + 1, c, w, h, hroom => by
    have hroomM := Nat.add_one_mul k ((cfg.maxResprawls + 1) * w₀.explorer.perTypeLimit)
    have hdepth : 0 < sprawlDepth cfg := by simp [sprawlDepth]
    simp only [sprawlRepeatedly, sprawlTop]
    refine Proc.Total.bind ((total_sprawl cfg hsrv hu hparse hfail hdelay hex (sprawlDepth cfg) {}
      c w SprawlOptions.paged_default h (by simp only [Nat.sub_zero]; omega)).mono ?_)
    rintro _ w1 ⟨c1, h1, hlo, -, hhi⟩
    simp only [Nat.sub_zero] at hhi
    refine (total_sprawlRepeatedly k c1 w1 h1 (by omega)).mono ?_
    rintro _ w2 ⟨c2, h2, hc2⟩
    have := hlo hdepth
    exact ⟨c2, h2, by rw [Nat.add_one_mul]; omega⟩

end Sprawl

/-- Sprawling a node `k` times, one sprawl after the other with nothing in between, finishes and
plots the first `k` pages of its neighbourhood: every neighbour the server shows it at a
position below `k` pages in its group is plotted and joined to it, one way or the other, unless
it is excluded.

The node is a plain URI with no empty part, sprawled by its canonical text; the server's
relationships join plain URIs, and it neither fails the node's requests nor answers them after
the sprawl deadline; the explorer is well formed with plain ids, and the node is not excluded
and is unplotted or has its cursor at `0`; the cursor stays within its word.

**Proof sketch.** `PagesPlotted` holds at the start with the cursor at `0`, and each sprawl
moves the cursor on by a page at least, plotting the pages it passes
(`total_sprawlRepeatedly`). -/
theorem sprawlRepeatedly_plots_first_pages (cfg : ExplorerConfig) (w : World Server) (u : ContentUri)
    (k : Nat) (hsrv : w.source.PlainLinks) (hu : u.Plain)
    (hparts : u.corpusId ≠ "" ∧ u.contentType ≠ "" ∧ u.contentId ≠ "")
    (hfail : u.render ∉ w.source.failing)
    (hdelay : ∀ d, w.source.networkDelay = some d → d ≤ cfg.sprawlTimeout)
    (hwf : w.explorer.WellFormed) (hids : w.explorer.model.PlainIds w.explorer.excluded)
    (hex : u.render ∉ w.explorer.excluded)
    (hstart : ∀ n, w.explorer.model.node? u.render = some n → n.skip = 0)
    (hroom : k * ((cfg.maxResprawls + 1) * w.explorer.perTypeLimit) ≤ u32Max) :
    Proc.Total (sprawlRepeatedly Server.networkAnswer cfg u.render k) (fun _ w' =>
      ∀ ct xs, (ct, xs) ∈ w.source.visibleNeighbors u (w.explorer.query 0 {}) →
        ∀ i (hi : i < xs.length), i < k * w.explorer.perTypeLimit →
          xs[i].1.render ∉ w.explorer.excluded →
          w'.explorer.model.containsNode xs[i].1.render = true ∧
            w'.explorer.model.Joined u.render xs[i].1.render) w := by
  have hparse := ContentUri.parse_render hu hparts.1 hparts.2.1 hparts.2.2
  refine (total_sprawlRepeatedly cfg hsrv hu hparse hfail hdelay hex k 0 w
    (PagesPlotted.start hwf hids hstart) (by omega)).mono ?_
  rintro _ w' ⟨c', h', hc'⟩ ct xs hgroup i hi hik hxex
  exact h'.plotted ct xs hgroup i hi (by omega) hxex

end World

end CorpusBench
