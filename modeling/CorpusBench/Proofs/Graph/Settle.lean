import CorpusBench.Proofs.Command.Explorer

/-!
# A second settle pass changes nothing

A settle pass turns the edges of every collapse into the collapse's direction, then sets the
thickness of every edge and the mass of every node from what the model holds.  Run again at
once, it finds no edge to turn and computes the same thickness and mass again: it reports no
turned edge and leaves the explorer exactly as it was.

The heart of it is that turning edges is idempotent.  An edge is *turnable* by a collapse when
it is a reverse edge of the collapse whose forward edge is on screen or was never folded: these
are exactly the edges a pass of the collapse picks.  A pass of one collapse leaves no edge
turnable by it (`turned_normalizeCollapse`), and no later turn, by any collapse, makes an edge
turnable again (`TurnStep.turned`): the edges a turn keeps keep their ends and titles, and the
edge a turn adds points back at the id it has just folded, which stays folded and off screen.
This holds for symmetric collapses and for a list holding a collapse next to its reverse alike.

## Main definitions

* `GraphModel.turnable`, `GraphModel.Turned`.
* `GraphModel.TurnStep` — what one turn does, as later passes see it.
* `GraphModel.LaidOut` — the model as a settle pass leaves it.

## Main results

* `GraphModel.normalizeDirections_idem` — turning edges twice turns nothing the
  second time.
* `Explorer.settle_settle` — a settle pass right after one reports no turned edge
  and changes nothing.
* `Command.Explore.reachable_settle_idempotent` — both, in every reachable
  configuration of the explorer.
-/

namespace CorpusBench

namespace StrMap

variable {α β : Type}

/-- Changing one value in place is invisible to a view of the entries that does not see the
change. -/
lemma map_modify {F : String × α → β} {f : α → α} (hF : ∀ p, F (p.1, f p.2) = F p)
    (k : String) : ∀ m : StrMap α, (modify k f m).map F = m.map F
  | [] => rfl
  | (k', v) :: m => by
    by_cases hk : k = k'
    · simp only [modify, hk, if_true, List.map_cons, hF (k', v)]
    · simp only [modify, hk, if_false, List.map_cons, map_modify hF k m]

/-- An entry after a change in place is an entry before it, or one changed. -/
lemma mem_modify {k : String} {f : α → α} {p : String × α} :
    ∀ {m : StrMap α}, p ∈ modify k f m → ∃ q ∈ m, p = q ∨ p = (q.1, f q.2)
  | [], hp => absurd hp List.not_mem_nil
  | (k', v) :: m, hp => by
    unfold modify at hp
    split at hp
    · rcases List.mem_cons.1 hp with rfl | hp
      · exact ⟨(k', v), List.mem_cons_self .., .inr rfl⟩
      · exact ⟨p, List.mem_cons_of_mem _ hp, .inl rfl⟩
    · rcases List.mem_cons.1 hp with rfl | hp
      · exact ⟨(k', v), List.mem_cons_self .., .inl rfl⟩
      · obtain ⟨q, hq, hpq⟩ := mem_modify hp
        exact ⟨q, List.mem_cons_of_mem _ hq, hpq⟩

/-- A pass over the entries that may fail, and that keeps a view of each entry, keeps the view
of the whole map. -/
lemma map_of_mapM_ok {ε : Type} {F : String × α → Except ε (String × α)} {V : String × α → β}
    (hF : ∀ p q, F p = .ok q → V q = V p) :
    ∀ {m m' : StrMap α}, m.mapM F = .ok m' → m'.map V = m.map V
  | [], _, h => by cases h; rfl
  | p :: m, m', h => by
    rw [List.mapM_cons] at h
    obtain ⟨q, hq, h⟩ := Except.bind_eq_ok.1 h
    obtain ⟨qs, hqs, h⟩ := Except.bind_eq_ok.1 h
    cases h
    rw [List.map_cons, List.map_cons, hF p q hq, map_of_mapM_ok hF hqs]

/-- A pass that reads only a view of each entry runs alike on entries with the same view. -/
lemma mapM_map_of_view {ε : Type} {F : String × α → Except ε (String × α)}
    {G : String × α → String × α} (hF : ∀ p, F (G p) = F p) :
    ∀ m : StrMap α, (m.map G).mapM F = m.mapM F
  | [] => rfl
  | p :: m => by rw [List.map_cons, List.mapM_cons, List.mapM_cons, hF, mapM_map_of_view hF m]

end StrMap

namespace GraphModel

variable {g h h' : GraphModel} {c c' : Collapse}

/-! ### Edges a pass turns -/

/-- The id of the edge between the ends of `e` the other way round. -/
def forwardId (e : Edge) : String := edgeId e.target e.source

/-- Whether a pass of the collapse `c` turns the edge `e`: it is a reverse edge of `c`, and its
forward edge is on screen or was never folded. -/
def turnable (g : GraphModel) (c : Collapse) (e : Edge) : Bool :=
  g.isReverse c e && ((g.edge? (forwardId e)).isSome || !g.isFolded (forwardId e))

/-- The pass of one collapse folds or turns, in id order, the edges turnable when it starts. -/
lemma normalizeCollapse_eq (acc : Nat × GraphModel) (c : Collapse) :
    normalizeCollapse acc c =
      ((acc.2.edgeList.filter (acc.2.turnable c)).map Edge.id).foldl (turnEdge c) acc := rfl

/-- No edge on screen is turnable by `c`. -/
def Turned (g : GraphModel) (c : Collapse) : Prop :=
  ∀ i e, g.edge? i = some e → g.turnable c e = false

lemma mem_edgeList_of_edge? {i : String} {e : Edge} (he : g.edge? i = some e) : e ∈ g.edgeList :=
  List.mem_map.2 ⟨(i, e), StrMap.mem_of_lookup he, rfl⟩

lemma exists_edge?_of_mem (hs : StrMap.Sorted g.edges) {e : Edge} (he : e ∈ g.edgeList) :
    ∃ i, g.edge? i = some e := by
  obtain ⟨⟨i, e'⟩, hmem, rfl⟩ := List.mem_map.1 he
  exact ⟨i, hs.lookup_of_mem hmem⟩

/-- A pass of a collapse that has nothing to turn changes nothing. -/
lemma normalizeCollapse_of_turned (hs : StrMap.Sorted g.edges) (ht : g.Turned c) (n : Nat) :
    normalizeCollapse (n, g) c = (n, g) := by
  have hnil : g.edgeList.filter (g.turnable c) = [] := List.filter_eq_nil_iff.2 fun e he => by
    obtain ⟨i, hi⟩ := exists_edge?_of_mem hs he
    simp [ht i e hi]
  rw [normalizeCollapse_eq]
  simp only [hnil, List.map_nil, List.foldl_nil]

/-- Passes of collapses that have nothing to turn change nothing. -/
lemma foldl_normalizeCollapse_of_turned (hs : StrMap.Sorted g.edges) (n : Nat) :
    ∀ cs : List Collapse, (∀ c ∈ cs, g.Turned c) → cs.foldl normalizeCollapse (n, g) = (n, g)
  | [], _ => rfl
  | c :: cs, ht => by
    rw [List.foldl_cons, normalizeCollapse_of_turned hs (ht c (List.mem_cons_self ..))]
    exact foldl_normalizeCollapse_of_turned hs n cs fun c' hc' => ht c' (List.mem_cons_of_mem _ hc')

/-! ### One turn -/

/-- What one turn does to a model, as a later pass sees it: the nodes stay, a folded id stays
folded, an id that is on screen afterwards was on screen or was never folded, and an edge on
screen afterwards either was there under its key with its ends and title, or points back at an
id that is folded and off screen. -/
structure TurnStep (h h' : GraphModel) : Prop where
  nodes : h'.nodes = h.nodes
  folded : ∀ f, h.isFolded f = true → h'.isFolded f = true
  plotted : ∀ f, (h'.edge? f).isSome = true → (h.edge? f).isSome = true ∨ h.isFolded f = false
  edges : ∀ k e', h'.edge? k = some e' →
    (∃ e, h.edge? k = some e ∧ e.source = e'.source ∧ e.target = e'.target ∧ e.title = e'.title) ∨
    (h'.isFolded (forwardId e') = true ∧ h'.edge? (forwardId e') = none)

lemma TurnStep.refl (h : GraphModel) : TurnStep h h where
  nodes := rfl
  folded := fun _ hf => hf
  plotted := fun _ hf => .inl hf
  edges := fun _ e' he' => .inl ⟨e', he', rfl, rfl, rfl⟩

@[simp] lemma folded_removeEdge (i : String) : (h.removeEdge i).2.folded = h.folded := by
  cases he : h.edge? i with
  | none => rw [removeEdge_of_none he]
  | some e => rw [removeEdge_of_some he]

@[simp] lemma folded_addEdge (e : Edge) : (h.addEdge e).2.folded = h.folded := by
  unfold GraphModel.addEdge
  split <;> rfl

/-- An edge is added exactly when its id is free and its ends are nodes; it then shows under
its id. -/
lemma addEdge_cases (e : Edge) :
    (h.addEdge e).2 = h ∨
      (h.containsEdge e.id = false ∧
        ∀ j, (h.addEdge e).2.edge? j = if j = e.id then some e else h.edge? j) := by
  unfold GraphModel.addEdge
  split
  · exact .inl rfl
  · next hc =>
    simp only [Bool.or_eq_true, Bool.not_eq_true', not_or, Bool.not_eq_false] at hc
    exact .inr ⟨by simpa using hc.1.1, fun j => StrMap.lookup_insert _ _ _ _⟩

/-- Folding an edge on screen: the edge leaves, its id joins the folded ids. -/
lemma foldEdge_of_some (hs : StrMap.Sorted h.edges) {i : String} {e : Edge}
    (he : h.edge? i = some e) (hid : e.id = i) :
    ∃ hf : GraphModel, h.foldEdge i = (some e, hf) ∧ hf.nodes = h.nodes ∧
      (∀ j, hf.edge? j = if j = i then none else h.edge? j) ∧
      ∀ f, hf.isFolded f = (f == i || h.isFolded f) := by
  refine ⟨{ (h.removeEdge i).2 with folded := StrSet.insert e.id (h.removeEdge i).2.folded },
    by rw [GraphModel.foldEdge, removeEdge_of_some he], removeEdge_nodes i,
    fun j => edge?_removeEdge hs i j, fun f => ?_⟩
  simp only [isFolded, folded_removeEdge, hid]
  rw [Bool.eq_iff_iff]
  simp only [Bool.or_eq_true, beq_iff_eq, StrSet.contains_iff, StrSet.mem_insert]

/-- One turn of a well-formed model, by any collapse, is a `TurnStep`; the id it turns is off
screen afterwards.

**Proof sketch.** An id not on screen is left alone.  Otherwise the edge is folded; then either
its forward edge is on screen and only its frequency grows, or the edge comes back the other
way round under the forward id, which was free, and points back at the id just folded. -/
lemma WellFormed.turnStep (hw : h.WellFormed) (c : Collapse) (n : Nat) (i : String) :
    TurnStep h (GraphModel.turnEdge c (n, h) i).2 ∧
      (GraphModel.turnEdge c (n, h) i).2.edge? i = none := by
  cases he : h.edge? i with
  | none =>
    have hfold : h.foldEdge i = (none, h) := by rw [GraphModel.foldEdge, removeEdge_of_none he]
    simp only [GraphModel.turnEdge, hfold]
    exact ⟨TurnStep.refl h, he⟩
  | some e =>
    have hid := hw.edge_id i e he
    obtain ⟨hf, hfold, hfn, hfe, hff⟩ := foldEdge_of_some hw.edges_sorted he hid
    have hfi : hf.edge? i = none := by rw [hfe]; simp
    have hkeep : ∀ k e', hf.edge? k = some e' → h.edge? k = some e' := fun k e' he' => by
      rw [hfe] at he'
      split at he'
      · cases he'
      · exact he'
    have hif : hf.isFolded i = true := by rw [hff]; simp
    have hmono : ∀ f, h.isFolded f = true → hf.isFolded f = true := fun f hf' => by
      rw [hff]; simp [hf']
    simp only [GraphModel.turnEdge, hfold]
    split
    · -- the forward edge is on screen: only its frequency changes
      next ex hex =>
      have hne : edgeId e.target e.source ≠ i := fun h' => by rw [h', hfi] at hex; cases hex
      have hlook : ∀ j, StrMap.lookup j (hf.edges.insert (edgeId e.target e.source)
          { ex with freq := ex.freq + e.freq }) = if j = edgeId e.target e.source
            then some { ex with freq := ex.freq + e.freq } else hf.edge? j :=
        fun j => StrMap.lookup_insert _ _ _ _
      refine ⟨{ nodes := hfn, folded := hmono, plotted := ?_, edges := ?_ }, ?_⟩
      · intro f hf'
        simp only [edge?, hlook] at hf'
        split at hf'
        · next hfw => subst hfw; exact .inl (by simp [hkeep _ _ hex])
        · exact .inl (by
            obtain ⟨e', he'⟩ := Option.isSome_iff_exists.1 hf'
            simp [hkeep _ _ he'])
      · intro k e' he'
        simp only [edge?, hlook] at he'
        split at he'
        · next hk =>
          cases he'
          exact .inl ⟨ex, hkeep _ _ (hk ▸ hex), rfl, rfl, rfl⟩
        · exact .inl ⟨e', hkeep _ _ he', rfl, rfl, rfl⟩
      · simp only [edge?, hlook, if_neg hne.symm]
        exact hfi
    · -- no forward edge: the edge comes back the other way round
      let z : Edge := { source := e.target, target := e.source, title := c.wire, freq := e.freq }
      rcases addEdge_cases (h := hf) z with hsame | ⟨hfresh, hlook⟩
      · rw [hsame]
        exact ⟨{ nodes := hfn, folded := hmono,
                 plotted := fun f hf' => by
                   obtain ⟨e', he'⟩ := Option.isSome_iff_exists.1 hf'
                   exact .inl (by simp [hkeep _ _ he'])
                 edges := fun k e' he' => .inl ⟨e', hkeep _ _ he', rfl, rfl, rfl⟩ }, hfi⟩
      · have hzfree : hf.isFolded z.id = false :=
          (StrSet.contains_eq_false _ _).2 (containsEdge_eq_false.1 hfresh).2
        have hzi : z.id ≠ i := fun hzi => by rw [hzi, hif] at hzfree; cases hzfree
        refine ⟨{ nodes := by rw [nodes_addEdge]; exact hfn
                  folded := fun f hf' => by rw [isFolded, folded_addEdge]; exact hmono f hf'
                  plotted := ?_, edges := ?_ }, ?_⟩
        · intro f hf'
          rw [hlook] at hf'
          split at hf'
          · -- the id the turned edge takes was free, so it was never folded
            next hfz =>
            right
            subst hfz
            cases hcf : h.isFolded z.id
            · rfl
            · rw [hmono _ hcf] at hzfree; cases hzfree
          · obtain ⟨e', he'⟩ := Option.isSome_iff_exists.1 hf'
            exact .inl (by simp [hkeep _ _ he'])
        · intro k e' he'
          rw [hlook] at he'
          split at he'
          · -- the turned edge points back at the id just folded
            cases he'
            right
            have hback : forwardId z = i := by rw [← hid]; rfl
            rw [hback, isFolded, folded_addEdge, hlook, if_neg hzi.symm]
            exact ⟨hif, hfi⟩
          · exact .inl ⟨e', hkeep _ _ he', rfl, rfl, rfl⟩
        · rw [hlook, if_neg hzi.symm]
          exact hfi

/-- The groups of the ends of an edge read only the groups of the nodes. -/
lemma endGroups_eq_map (g : GraphModel) (e : Edge) :
    g.endGroups e = ((g.node? e.source).map Node.group).bind fun a =>
      ((g.node? e.target).map Node.group).map (a, ·) := by
  unfold endGroups
  cases g.node? e.source <;> cases g.node? e.target <;> rfl

/-- The groups of the ends of an edge, in two models whose nodes have the same groups. -/
lemma endGroups_congr {e e' : Edge}
    (hn : ∀ u, (h'.node? u).map Node.group = (h.node? u).map Node.group)
    (hs : e.source = e'.source) (ht : e.target = e'.target) : h'.endGroups e' = h.endGroups e := by
  rw [endGroups_eq_map, endGroups_eq_map, hn, hn, hs, ht]

lemma groups_of_nodes (hn : h'.nodes = h.nodes) (u : String) :
    (h'.node? u).map Node.group = (h.node? u).map Node.group := by
  simp only [node?, hn]

lemma isReverse_congr {e e' : Edge}
    (hn : ∀ u, (h'.node? u).map Node.group = (h.node? u).map Node.group)
    (hs : e.source = e'.source) (ht : e.target = e'.target) (htl : e.title = e'.title) :
    h'.isReverse c e' = h.isReverse c e := by
  unfold isReverse
  rw [endGroups_congr hn hs ht, ← hs, ← ht, ← htl]

/-- An edge turnable after a turn was turnable before it, under the same key. -/
lemma TurnStep.exists_turnable (hst : TurnStep h h') {k : String} {e' : Edge} (he' : h'.edge? k = some e')
    (ht' : h'.turnable c e' = true) : ∃ e, h.edge? k = some e ∧ h.turnable c e = true := by
  rcases hst.edges k e' he' with ⟨e, he, hs, ht, htl⟩ | ⟨hfold, hoff⟩
  · refine ⟨e, he, ?_⟩
    have hfw : forwardId e' = forwardId e := by simp [forwardId, hs, ht]
    simp only [turnable, Bool.and_eq_true, Bool.or_eq_true, Bool.not_eq_true'] at ht' ⊢
    rw [isReverse_congr (groups_of_nodes hst.nodes) hs ht htl, hfw] at ht'
    refine ⟨ht'.1, ?_⟩
    rcases ht'.2 with hp | hnf
    · exact hst.plotted _ hp
    · right
      cases hfe : h.isFolded (forwardId e)
      · rfl
      · rw [hst.folded _ hfe] at hnf; cases hnf
  · simp [turnable, hfold, hoff] at ht'

/-- A turn never makes an edge turnable again. -/
lemma TurnStep.turned (hst : TurnStep h h') (ht : h.Turned c) : h'.Turned c := by
  intro k e' he'
  cases ht' : h'.turnable c e'
  · rfl
  · obtain ⟨e, he, hte⟩ := hst.exists_turnable he' ht'
    rw [ht k e he] at hte
    cases hte

/-! ### Whole passes -/

lemma WellFormed.foldl_turnEdge (c : Collapse) :
    ∀ (ids : List String) (acc : Nat × GraphModel), acc.2.WellFormed →
      (ids.foldl (GraphModel.turnEdge c) acc).2.WellFormed
  | [], _, hw => hw
  | i :: ids, _, hw => WellFormed.foldl_turnEdge c ids _ (hw.turnEdge c i)

lemma WellFormed.normalizeCollapse {acc : Nat × GraphModel} (hw : acc.2.WellFormed)
    (c : Collapse) : (GraphModel.normalizeCollapse acc c).2.WellFormed := by
  rw [normalizeCollapse_eq]
  exact WellFormed.foldl_turnEdge c _ acc hw

/-- Turns by any collapse keep an edge of another collapse untouched by them turned. -/
lemma Turned.foldl_turnEdge (c' : Collapse) :
    ∀ (ids : List String) (acc : Nat × GraphModel), acc.2.WellFormed → acc.2.Turned c →
      (ids.foldl (turnEdge c') acc).2.Turned c
  | [], _, _, ht => ht
  | i :: ids, ⟨n, _⟩, hw, ht =>
    Turned.foldl_turnEdge c' ids _ (hw.turnEdge c' i) ((hw.turnStep c' n i).1.turned ht)

lemma Turned.normalizeCollapse {acc : Nat × GraphModel} (hw : acc.2.WellFormed)
    (ht : acc.2.Turned c) (c' : Collapse) : (GraphModel.normalizeCollapse acc c').2.Turned c := by
  rw [normalizeCollapse_eq]
  exact Turned.foldl_turnEdge c' _ acc hw ht

/-- Turning, one after another, ids that include every turnable edge leaves none.

**Proof sketch.** Induction on the ids still to turn.  An edge turnable after a turn was
turnable before it under the same key (`TurnStep.exists_turnable`), and that key is not the id just
turned, which is off screen; so it is among the ids left. -/
lemma turned_foldl_turnEdge (c : Collapse) :
    ∀ (rest : List String) (acc : Nat × GraphModel), acc.2.WellFormed →
      (∀ k e, acc.2.edge? k = some e → acc.2.turnable c e = true → k ∈ rest) →
      (rest.foldl (turnEdge c) acc).2.Turned c
  | [], _, _, hrest => fun k e he =>
    Bool.eq_false_iff.2 fun ht => absurd (hrest k e he ht) List.not_mem_nil
  | i :: rest, ⟨n, h⟩, hw, hrest => by
    obtain ⟨hst, hoff⟩ := hw.turnStep c n i
    refine turned_foldl_turnEdge c rest _ (hw.turnEdge c i) fun k e' he' ht' => ?_
    obtain ⟨e, he, hte⟩ := hst.exists_turnable he' ht'
    have hki : k ≠ i := by rintro rfl; rw [hoff] at he'; cases he'
    exact (List.mem_cons.1 (hrest k e he hte)).resolve_left hki

/-- A pass of a collapse leaves no edge turnable by it. -/
lemma turned_normalizeCollapse {acc : Nat × GraphModel} (hw : acc.2.WellFormed) (c : Collapse) :
    (normalizeCollapse acc c).2.Turned c := by
  rw [normalizeCollapse_eq]
  refine turned_foldl_turnEdge c _ acc hw fun k e he ht => ?_
  exact List.mem_map.2 ⟨e, List.mem_filter.2 ⟨mem_edgeList_of_edge? he, ht⟩, hw.edge_id k e he⟩

/-- After the passes of a list of collapses, no edge is turnable by any of them.

**Proof sketch.** Induction on the list: the pass of the first collapse leaves nothing turnable
by it, and the passes after it keep that (`Turned.normalizeCollapse`). -/
lemma turned_foldl_normalizeCollapse :
    ∀ (cs : List Collapse) (acc : Nat × GraphModel), acc.2.WellFormed →
      ∀ c ∈ cs, (cs.foldl normalizeCollapse acc).2.Turned c
  | [], _, _ => fun _ hc => absurd hc List.not_mem_nil
  | c :: cs, acc, hw => by
    intro c' hc'
    rw [List.foldl_cons]
    rcases List.mem_cons.1 hc' with rfl | hc'
    · -- the first collapse's pass leaves it turned, and the later passes keep that
      have hkeep : ∀ (ds : List Collapse) (acc : Nat × GraphModel), acc.2.WellFormed →
          acc.2.Turned c' → (ds.foldl normalizeCollapse acc).2.Turned c' := by
        intro ds
        induction ds with
        | nil => exact fun _ _ ht => ht
        | cons d ds ih =>
          exact fun acc hw ht => ih _ (hw.normalizeCollapse d) (ht.normalizeCollapse hw d)
      exact hkeep cs _ (hw.normalizeCollapse c') (turned_normalizeCollapse hw c')
    · exact turned_foldl_normalizeCollapse cs _ (hw.normalizeCollapse c) c' hc'

/-- Turning the edges of a well-formed model into the direction of its collapses is idempotent:
a second pass turns nothing and changes nothing. -/
theorem normalizeDirections_idem (hw : g.WellFormed) (cs : List Collapse) :
    (g.normalizeDirections cs).2.normalizeDirections cs = (0, (g.normalizeDirections cs).2) :=
  foldl_normalizeCollapse_of_turned (hw.normalizeDirections cs).edges_sorted 0 cs
    (turned_foldl_normalizeCollapse cs (0, g) hw)


/-! ### What the layout passes read -/

section Layout

variable {cs : List Collapse} {s : LinkScale}

/-- An edge with its thickness set aside: what the layout reads of it. -/
def bare (e : Edge) : Edge := { e with thickness := standardThickness }

@[simp] lemma bare_source (e : Edge) : (bare e).source = e.source := rfl
@[simp] lemma bare_target (e : Edge) : (bare e).target = e.target := rfl
@[simp] lemma bare_title (e : Edge) : (bare e).title = e.title := rfl

/-- An entry of the edges with its thickness set aside. -/
def bareEntry (p : String × Edge) : String × Edge := (p.1, bare p.2)

/-- Two models the layout passes read alike: nodes of the same groups, the same edges under
the same ids but for their thickness, and the same folded ids. -/
structure SameInputs (g h : GraphModel) : Prop where
  groups : ∀ u, (h.node? u).map Node.group = (g.node? u).map Node.group
  edges : h.edges.map bareEntry = g.edges.map bareEntry
  folded : h.folded = g.folded

lemma SameInputs.trans (h₁ : SameInputs g h) (h₂ : SameInputs h h') : SameInputs g h' :=
  ⟨fun u => (h₂.groups u).trans (h₁.groups u), h₂.edges.trans h₁.edges, h₂.folded.trans h₁.folded⟩

/-- Changing the nodes and keeping their groups keeps what the layout reads. -/
lemma sameInputs_withNodes {nodes : StrMap Node}
    (hn : ∀ u, (nodes.lookup u).map Node.group = (g.nodes.lookup u).map Node.group) :
    SameInputs g { g with nodes := nodes } :=
  ⟨hn, rfl, rfl⟩

lemma sameInputs_mapNodes {f : Node → Node} (hf : ∀ n, (f n).group = n.group) :
    SameInputs g (g.mapNodes f) := by
  rw [mapNodes_eq]
  refine sameInputs_withNodes fun u => ?_
  rw [StrMap.lookup_map (fun p : String × Node => (p.1, f p.2)) (fun _ => rfl), Option.map_map]
  exact congrArg (Option.map · _) (funext hf)

lemma sameInputs_modifyNode (u : String) {f : Node → Node} (hf : ∀ n, (f n).group = n.group) :
    SameInputs g (g.modifyNode u f) := by
  refine sameInputs_withNodes fun v => ?_
  rw [StrMap.lookup_modify]
  split
  · rw [Option.map_map]
    exact congrArg (Option.map · _) (funext hf)
  · rfl

lemma SameInputs.map_edge? (hs : SameInputs g h) (i : String) :
    (h.edge? i).map bare = (g.edge? i).map bare := by
  have := congrArg (StrMap.lookup i) hs.edges
  rwa [StrMap.lookup_map bareEntry (fun _ => rfl), StrMap.lookup_map bareEntry (fun _ => rfl)] at this

lemma SameInputs.map_edgeList (hs : SameInputs g h) : h.edgeList.map bare = g.edgeList.map bare := by
  have := congrArg (List.map Prod.snd) hs.edges
  simpa only [GraphModel.edgeList, bareEntry, List.map_map, Function.comp_def] using this

/-- An edge is turnable in one model exactly when its counterpart is in the other. -/
lemma SameInputs.turned (hs : SameInputs g h) (ht : g.Turned c) : h.Turned c := by
  intro k e' he'
  obtain ⟨e, he, hb⟩ : ∃ e, g.edge? k = some e ∧ bare e = bare e' := by
    have := hs.map_edge? k
    rw [he', Option.map_some] at this
    obtain ⟨e, he, hb⟩ := Option.map_eq_some_iff.1 this.symm
    exact ⟨e, he, hb⟩
  have hsrc : e.source = e'.source := by simpa using congrArg Edge.source hb
  have htgt : e.target = e'.target := by simpa using congrArg Edge.target hb
  have hfw : forwardId e' = forwardId e := by simp only [forwardId, hsrc, htgt]
  have hsome : (h.edge? (forwardId e)).isSome = (g.edge? (forwardId e)).isSome := by
    simpa only [Option.isSome_map] using congrArg Option.isSome (hs.map_edge? (forwardId e))
  have hrev := isReverse_congr (c := c) hs.groups hsrc htgt (by simpa using congrArg Edge.title hb)
  rw [← ht k e he]
  simp only [turnable, isFolded, hrev, hfw, hsome, hs.folded]

lemma membership_congr (hn : ∀ u, (h.node? u).map Node.group = (g.node? u).map Node.group) :
    h.membership cs = g.membership cs := by
  funext e
  unfold membership
  rw [endGroups_congr hn rfl rfl]

/-- A fold that reads the edges but for their thickness gives the same on two lists of edges
alike but for their thickness. -/
lemma foldl_congr_bare {β : Type} (F : β → Edge → β) (hF : ∀ acc e, F acc (bare e) = F acc e)
    (init : β) {l l' : List Edge} (hl : l.map bare = l'.map bare) :
    l.foldl F init = l'.foldl F init := by
  have hmap : ∀ l : List Edge, (l.map bare).foldl F init = l.foldl F init := fun l => by
    simp only [List.foldl_map, hF]
  rw [← hmap l, hl, hmap]

/-- The frequency ranges read the edges but for their thickness. -/
lemma freqRanges_congr (hs : SameInputs g h) : h.freqRanges cs = g.freqRanges cs := by
  unfold freqRanges
  rw [membership_congr hs.groups]
  exact foldl_congr_bare _ (fun _ _ => rfl) [] hs.map_edgeList

/-! ### The thickness pass -/

/-- The thickness the pass gives an edge: its frequency scaled within the range of its
collapse, or the default outside every collapse. -/
def thicknessOf (g : GraphModel) (cs : List Collapse) (s : LinkScale) (e : Edge) :
    Except Abort Float :=
  match (g.membership cs e).bind (fun i => (g.freqRanges cs).lookup i) with
  | some (lo, hi) => scaleThickness e.freq lo hi s
  | none => pure s.defaultThickness

/-- The thickness pass on one entry of the edges. -/
def thicknessEntry (g : GraphModel) (cs : List Collapse) (s : LinkScale) (p : String × Edge) :
    Except Abort (String × Edge) := do
  let t ← g.thicknessOf cs s p.2
  return (p.1, { p.2 with thickness := t })

lemma applyThickness_eq (g : GraphModel) (cs : List Collapse) (s : LinkScale) :
    g.applyThickness cs s =
      g.edges.mapM (g.thicknessEntry cs s) >>= fun edges => pure { g with edges := edges } := by
  unfold GraphModel.applyThickness
  dsimp only
  congr 2
  funext p
  obtain ⟨k, e⟩ := p
  simp only [thicknessEntry, thicknessOf]
  -- the pass matches on the range of the edge's collapse before it binds the thickness
  cases (g.membership cs e).bind fun i => (g.freqRanges cs).lookup i <;> rfl

/-- The thickness pass reads an entry but for its thickness. -/
lemma thicknessEntry_bareEntry (p : String × Edge) :
    g.thicknessEntry cs s (bareEntry p) = g.thicknessEntry cs s p := rfl

/-- The thickness pass changes the thickness of an entry only. -/
lemma bareEntry_of_thicknessEntry {p q : String × Edge} (h : g.thicknessEntry cs s p = .ok q) :
    bareEntry q = bareEntry p := by
  unfold thicknessEntry at h
  obtain ⟨t, -, h⟩ := Except.bind_eq_ok.1 h
  cases h
  rfl

lemma SameInputs.thicknessEntry (hs : SameInputs g h) :
    h.thicknessEntry cs s = g.thicknessEntry cs s := by
  funext p
  simp only [GraphModel.thicknessEntry, thicknessOf, membership_congr hs.groups,
    freqRanges_congr hs]

/-- On a model the pass reads alike, the thickness pass runs as on the first one. -/
lemma SameInputs.applyThickness (hs : SameInputs g h) :
    h.applyThickness cs s =
      g.edges.mapM (g.thicknessEntry cs s) >>= fun edges => pure { h with edges := edges } := by
  rw [applyThickness_eq, hs.thicknessEntry, ← StrMap.mapM_map_of_view thicknessEntry_bareEntry,
    hs.edges, StrMap.mapM_map_of_view thicknessEntry_bareEntry]

lemma sameInputs_applyThickness {g' : GraphModel} (h : g.applyThickness cs s = .ok g') :
    SameInputs g g' := by
  rw [applyThickness_eq] at h
  obtain ⟨edges, he, h⟩ := Except.bind_eq_ok.1 h
  cases h
  exact ⟨fun _ => rfl, StrMap.map_of_mapM_ok (fun _ _ => bareEntry_of_thicknessEntry) he, rfl⟩

/-- The thickness pass is idempotent: it reads nothing it writes. -/
lemma applyThickness_idem {g' : GraphModel} (h : g.applyThickness cs s = .ok g') :
    g'.applyThickness cs s = .ok g' := by
  rw [(sameInputs_applyThickness h).applyThickness]
  rw [applyThickness_eq] at h
  obtain ⟨edges, hm, h⟩ := Except.bind_eq_ok.1 h
  cases h
  rw [hm]
  rfl

/-- A model the thickness pass keeps stays so under changes the pass does not read. -/
lemma applyThickness_of_sameInputs (hg : g.applyThickness cs s = .ok g) (hs : SameInputs g h)
    (he : h.edges = g.edges) : h.applyThickness cs s = .ok h := by
  have hg' := hg
  rw [applyThickness_eq] at hg'
  obtain ⟨edges, hm, hge⟩ := Except.bind_eq_ok.1 hg'
  have hedges : edges = g.edges := congrArg GraphModel.edges (Except.ok.inj hge)
  rw [hs.applyThickness, hm, hedges, ← he]
  rfl

/-! ### The mass pass -/

/-- The mass the pass gives a node: the summed frequency of its edges for a node of an end group
of a collapse, its degree otherwise, clamped to between one and the cap. -/
def massOf (g : GraphModel) (cs : List Collapse) (s : LinkScale) (n : Node) : Float :=
  let ends := cs.flatMap fun c => [c.fromType, c.toType]
  let cap := if s.maxNodeMass ≥ 1.0 then s.maxNodeMass else 1.0
  let raw := if ends.contains n.group then
      (g.incidentEdges n.uri).foldl (fun acc e => acc + e.freq) 0.0
    else (g.degree n.uri).toFloat
  clampFloat raw 1.0 cap

lemma applyMass_eq (g : GraphModel) (cs : List Collapse) (s : LinkScale) :
    g.applyMass cs s = g.mapNodes fun n => { n with mass := g.massOf cs s n } := rfl

/-- The mass of a node reads the edges and the incidence of the model, and the URI and the group
of the node. -/
lemma massOf_congr {n n' : Node} (hi : h.incidence = g.incidence) (he : h.edges = g.edges)
    (hu : n'.uri = n.uri) (hg : n'.group = n.group) : h.massOf cs s n' = g.massOf cs s n := by
  unfold massOf incidentEdges degree GraphModel.edge?
  rw [hi, he, hu, hg]

lemma sameInputs_applyMass (g : GraphModel) (cs : List Collapse) (s : LinkScale) :
    SameInputs g (g.applyMass cs s) := by
  rw [applyMass_eq]
  exact sameInputs_mapNodes fun _ => rfl

end Layout


/-! ### A laid-out model -/

section LaidOut

variable {cs : List Collapse} {s : LinkScale}

/-- The model as a settle pass leaves it: well formed, with no edge any of the collapses would
turn, and every edge as thick and every node as heavy as the layout makes them. -/
structure LaidOut (g : GraphModel) (cs : List Collapse) (s : LinkScale) : Prop where
  wellFormed : g.WellFormed
  turned : ∀ c ∈ cs, g.Turned c
  thickness : g.applyThickness cs s = .ok g
  mass : ∀ p ∈ g.nodes, p.2.mass = g.massOf cs s p.2

/-- After the edges are turned, the thickness and the mass passes leave the model laid out. -/
lemma laidOut_layout {g₀ g₁ : GraphModel} (hw : g₀.WellFormed) (ht : ∀ c ∈ cs, g₀.Turned c)
    (h₁ : g₀.applyThickness cs s = .ok g₁) : (g₁.applyMass cs s).LaidOut cs s := by
  have hs₀₁ := sameInputs_applyThickness h₁
  have hs₁₂ := sameInputs_applyMass g₁ cs s
  refine ⟨(hw.applyThickness h₁).applyMass cs s, fun c hc => hs₁₂.turned (hs₀₁.turned (ht c hc)),
    applyThickness_of_sameInputs (applyThickness_idem h₁) hs₁₂ rfl, fun p hp => ?_⟩
  -- the mass pass reads the edges and the incidence, which it keeps
  rw [applyMass_eq, mapNodes_eq] at hp
  obtain ⟨q, -, rfl⟩ := List.mem_map.1 hp
  exact (massOf_congr rfl rfl rfl rfl).symm

/-- The mass pass keeps a laid-out model. -/
lemma LaidOut.applyMass (hl : g.LaidOut cs s) : g.applyMass cs s = g := by
  rw [applyMass_eq, mapNodes_eq]
  have hnodes : g.nodes.map (fun p => (p.1, { p.2 with mass := g.massOf cs s p.2 })) = g.nodes := by
    conv_rhs => rw [← List.map_id g.nodes]
    exact List.map_congr_left fun p hp => by rw [← hl.mass p hp]; rfl
  rw [hnodes]

/-- Pinning a node keeps the model laid out. -/
lemma LaidOut.pin (hl : g.LaidOut cs s) (u : String) :
    (g.modifyNode u fun n => { n with pinned := true }).LaidOut cs s := by
  have hs := sameInputs_modifyNode (g := g) u (f := fun n => { n with pinned := true }) fun _ => rfl
  refine ⟨hl.wellFormed.modifyNode u fun _ => rfl, fun c hc => hs.turned (hl.turned c hc),
    applyThickness_of_sameInputs hl.thickness hs rfl, fun p hp => ?_⟩
  -- a pinned node keeps its URI, group and mass, and the model its edges
  obtain ⟨q, hq, hpq | hpq⟩ := StrMap.mem_modify hp <;> rw [hpq] <;>
    exact (hl.mass q hq).trans (massOf_congr rfl rfl rfl rfl).symm

/-- Pinning nodes, whichever they are, keeps the model laid out. -/
lemma LaidOut.pinAll (hl : g.LaidOut cs s) (uris : List String) :
    (uris.foldl (fun m u => m.modifyNode u fun n => { n with pinned := true }) g).LaidOut cs s :=
  List.foldlRecOn (motive := fun m : GraphModel => m.LaidOut cs s) uris _ hl
    fun _ hm u _ => hm.pin u

/-- Pinning nodes keeps the legend, which reads the groups only. -/
lemma legend_pinAll (uris : List String) :
    (uris.foldl (fun m u => m.modifyNode u fun n => { n with pinned := true }) g).legend =
      g.legend := by
  refine List.foldlRecOn (motive := fun m : GraphModel => m.legend = g.legend) uris _ rfl
    fun m hm u _ => ?_
  have hgroups := StrMap.map_modify (F := fun p : String × Node => p.2.group)
    (f := fun n => { n with pinned := true }) (fun _ => rfl) u m.nodes
  rw [← hm]
  simp only [legend, nodeList, modifyNode, List.map_map, Function.comp_def] at hgroups ⊢
  rw [hgroups]

end LaidOut

end GraphModel

namespace Explorer

variable {e e' : Explorer} {s : LinkScale}

/-- A relayout leaves the model laid out, and the legend that of the model. -/
lemma relayout_laidOut (hw : e.model.WellFormed) {k : Nat} (h : e.relayout s = .ok (k, e')) :
    e'.model.LaidOut e'.collapses s ∧ e'.legend = e'.model.legend := by
  have ht : ∀ c ∈ e.collapses, (e.model.normalizeDirections e.collapses).2.Turned c :=
    GraphModel.turned_foldl_normalizeCollapse _ (0, e.model) hw
  have hw₀ := hw.normalizeDirections e.collapses
  unfold relayout at h
  rcases hn : e.model.normalizeDirections e.collapses with ⟨k₀, m₀⟩
  rw [hn] at h ht hw₀
  dsimp only at h
  obtain ⟨m₁, hm₁, h⟩ := Except.bind_eq_ok.1 h
  cases h
  exact ⟨GraphModel.laidOut_layout hw₀ ht hm₁, rfl⟩

/-- A relayout of an explorer whose model is laid out and whose legend is that of the model
turns nothing and changes nothing. -/
lemma relayout_of_laidOut (hl : e.model.LaidOut e.collapses s) (hleg : e.legend = e.model.legend) :
    e.relayout s = .ok (0, e) := by
  unfold relayout
  rw [GraphModel.normalizeDirections, GraphModel.foldl_normalizeCollapse_of_turned
    hl.wellFormed.edges_sorted 0 _ hl.turned]
  dsimp only
  rw [hl.thickness]
  simp only [bind, Except.bind, pure, Except.pure]
  rw [hl.applyMass, ← hleg]

/-- A settle pass right after a settle pass turns no edge, pins nothing and leaves the explorer
exactly as the first left it: the same nodes and edges, with the same thickness and mass.

**Proof sketch.** The first pass leaves the model laid out and the legend that of the model
(`relayout_laidOut`); pinning the seeds keeps both.  The relayout of the second pass then
changes nothing (`relayout_of_laidOut`), and it finds no first load pending: the first pass
either ended it or found it not to apply, on the same model. -/
theorem settle_settle (hw : e.model.WellFormed) {r : SettleReport} (h : e.settle s = .ok (r, e')) :
    e'.settle s = .ok ({ r with normalizedEdges := 0, firstLoad := false }, e') := by
  unfold settle at h
  obtain ⟨⟨k, e₁⟩, h₁, h⟩ := Except.bind_eq_ok.1 h
  obtain ⟨hl, hleg⟩ := relayout_laidOut hw h₁
  cases h
  split
  · -- the first pass pinned the seeds and ended the first load
    have hl' := hl.pinAll e₁.seeds
    have hleg' := (GraphModel.legend_pinAll (g := e₁.model) e₁.seeds).trans hleg.symm
    unfold settle
    rw [relayout_of_laidOut hl' hleg'.symm]
    simp only [bind, Except.bind, Bool.false_and, Bool.false_eq_true, ↓reduceIte]
    rfl
  · -- the first pass found no first load to end, and the second finds the same
    next hfirst =>
    have hf := Bool.eq_false_iff.2 hfirst
    unfold settle
    rw [relayout_of_laidOut hl hleg]
    simp only [bind, Except.bind, hf, Bool.false_eq_true, ↓reduceIte]
    rfl

end Explorer

namespace Command

namespace Explore

variable {cfg : ExplorerConfig} {w : World Server} {ps : List (Proc (World Server) Json)}

/-- In every configuration an explorer over the in-memory server can reach, turning the edges of
the plotted graph into the direction of any list of collapses turns nothing the second time, and
a settle pass right after a settle pass reports no turned edge and leaves the explorer exactly as
the first left it: the same nodes and edges, with the same ids, titles, frequencies, thickness
and mass. -/
theorem reachable_settle_idempotent (h : Reachable cfg w ps) (cs : List Collapse) (s : LinkScale) :
    (w.explorer.model.normalizeDirections cs).2.normalizeDirections cs =
        (0, (w.explorer.model.normalizeDirections cs).2) ∧
      ∀ r e', w.explorer.settle s = .ok (r, e') →
        e'.settle s = .ok ({ r with normalizedEdges := 0, firstLoad := false }, e') := by
  have hw := h.keeps.1.model
  exact ⟨GraphModel.normalizeDirections_idem hw cs, fun _ _ hs => Explorer.settle_settle hw hs⟩

/-- A symmetric collapse through letters, and a collapse through authors next to its reverse. -/
def lettersCollapses : List Collapse :=
  [⟨"Person", "Letter", "Person"⟩, ⟨"Book", "Author", "Person"⟩, ⟨"Person", "Author", "Book"⟩]

/-- After a sprawl of a person with a correspondent and a book, turning the edges into the
direction of `lettersCollapses` turns both edges, the letter by the symmetric collapse and the
authorship by the collapse whose reverse comes next; a second time it turns nothing, and a
settle pass right after a settle pass changes nothing. -/
theorem reachable_settle_idempotent_letters :
    (lettersWorld.explorer.model.normalizeDirections lettersCollapses).1 = 2 ∧
      ∃ ps, Reachable {} lettersWorld ps ∧
        (lettersWorld.explorer.model.normalizeDirections lettersCollapses).2.normalizeDirections
            lettersCollapses =
          (0, (lettersWorld.explorer.model.normalizeDirections lettersCollapses).2) ∧
        ∀ r e', lettersWorld.explorer.settle {} = .ok (r, e') →
          e'.settle {} = .ok ({ r with normalizedEdges := 0, firstLoad := false }, e') := by
  obtain ⟨ps, h⟩ := reachable_lettersWorld
  exact ⟨by decide +kernel, ps, h, reachable_settle_idempotent h lettersCollapses {}⟩

end Explore

end Command

end CorpusBench
