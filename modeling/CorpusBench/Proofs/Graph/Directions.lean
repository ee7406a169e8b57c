import Mathlib.Data.Finset.Card
import CorpusBench.Proofs.Graph.Convergence

/-!
# Bringing edges into the directions of the collapses

A collapse `From.Proxy.To` has a direction: its edges run from a `From` node to a `To` node and
are titled `c.wire`.  An edge titled `c.reverseWire` from a `To` node to a `From` node is a
*reverse* edge of it; for a symmetric collapse, one that runs down the order of URIs.  A pass of
`normalizeDirections` folds the reverse edges it finds: the frequency of each is added to the
edge under its id the other way (its *forward* edge), or, where there is none, the edge comes
back turned round under that id.

Edge ids are `{from}-{to}`.  Where they name their ends (`GraphModel.IdsNameEnds`, as between
plain content URIs), the passes keep the nodes and the joined pairs, lose no frequency, count
their folds, and leave every reverse edge with its forward id folded and off screen.  The passes
are followed against the model they started from (`GraphModel.Turning`): an edge that may be
turned is still that model's edge under its id, and nothing has landed on its forward id.  Where
ids do not name their ends, the forward id can be that of an edge between other nodes, and a
fold lands there.

## Main definitions

* `GraphModel.IdsNameEnds` — two ordered pairs of nodes with one edge id are one.
* `GraphModel.landing` — what a fold leaves under the forward id.
* `GraphModel.Turning` — where the passes stand, seen from the model they started from.
* `GraphModel.Normalized` — what the passes promise.

## Main results

* `GraphModel.turnEdge_of_some` — one turn.
* `GraphModel.Turning.turnEdge`, `GraphModel.Turning.foldl_turnEdge` — a turn, and a pass, keep
  `Turning`.
* `GraphModel.normalizeDirections_normalized`.
* `GraphModel.normalizeDirections_parts_clashing_ends` — where ids do not name their ends, a
  fold can part two nodes.
-/

namespace CorpusBench

namespace GraphModel

variable {g h h' : GraphModel} {c : Collapse}

/-! ### Ids that name their ends -/

/-- Edge ids name their ends: two ordered pairs of nodes with the same id are the same pair. -/
def IdsNameEnds (g : GraphModel) : Prop :=
  ∀ a b a' b', g.containsNode a = true → g.containsNode b = true → g.containsNode a' = true →
    g.containsNode b' = true → edgeId a b = edgeId a' b' → a = a' ∧ b = b'

lemma IdsNameEnds.of_nodes (hu : g.IdsNameEnds) (hn : h.nodes = g.nodes) : h.IdsNameEnds := by
  have hc : ∀ u, h.containsNode u = g.containsNode u := fun u => by simp [containsNode, hn]
  intro a b a' b' ha hb ha' hb'
  rw [hc] at ha hb ha' hb'
  exact hu a b a' b' ha hb ha' hb'

/-- Between plain URIs an edge id names its ends. -/
lemma IdsNameEnds.of_plain (hp : ∀ u, g.containsNode u = true → ContentUri.IsPlainText u) :
    g.IdsNameEnds := fun a b a' b' ha hb ha' hb' hid =>
  ContentUri.edgeId_injective (hp a ha) (hp b hb) (hp a' ha') (hp b' hb') hid

/-- An edge on screen under the id of a pair of nodes joins that pair, that way round. -/
lemma IdsNameEnds.ends_of_edge? (hu : g.IdsNameEnds) (hw : g.WellFormed) {k : String} {e : Edge}
    (he : g.edge? k = some e) {a b : String} (ha : g.containsNode a = true)
    (hb : g.containsNode b = true) (hk : k = edgeId a b) : e.source = a ∧ e.target = b := by
  obtain ⟨hs, ht⟩ := hw.ends_plotted k e he
  exact hu _ _ _ _ hs ht ha hb ((hw.edge_id k e he).trans hk)

/-- No edge and the edge between the same ends the other way are both reverse edges of one
collapse: a collapse with two end groups picks one way, and a symmetric one the way down the
order of URIs. -/
lemma not_isReverse_both {e e' : Edge} (h₁ : g.isReverse c e = true)
    (h₂ : g.isReverse c e' = true) (hs : e'.source = e.target) (ht : e'.target = e.source) :
    False := by
  unfold isReverse endGroups at h₁ h₂
  rw [hs, ht] at h₂
  cases ha : g.node? e.source <;> cases hb : g.node? e.target <;>
    simp only [ha, hb, Bool.and_eq_true, Bool.and_false, Bool.false_eq_true,
      beq_iff_eq, Bool.or_eq_true, Bool.not_eq_true', decide_eq_true_eq] at h₁ h₂
  obtain ⟨-, ⟨ha₁, hb₁⟩, hsym₁⟩ := h₁
  obtain ⟨-, ⟨hb₂, ha₂⟩, hsym₂⟩ := h₂
  have hsym : c.isSymmetric = true := by
    simp only [Collapse.isSymmetric, beq_iff_eq]
    rw [← ha₂, ha₁]
  rw [hsym] at hsym₁ hsym₂
  simp only [Bool.true_eq_false, false_or] at hsym₁ hsym₂
  exact lt_asymm hsym₁ hsym₂

/-! ### One turn -/

/-- The edge `e` turned round into the direction of `c`. -/
def turnedRound (c : Collapse) (e : Edge) : Edge :=
  { source := e.target, target := e.source, title := c.wire, freq := e.freq }

@[simp] lemma id_turnedRound (e : Edge) : (turnedRound c e).id = forwardId e := rfl

/-- What a turn of the edge `e` by `c` leaves under the id the other way: the edge there, grown
by the frequency of `e`, or else `e` turned round. -/
def landing (c : Collapse) (h : GraphModel) (e : Edge) : Edge :=
  match h.edge? (forwardId e) with
  | some ex => { ex with freq := ex.freq + e.freq }
  | none => turnedRound c e

@[simp] lemma edge?_insertEdge (i j : String) (x : Edge) :
    ({ h with edges := h.edges.insert i x } : GraphModel).edge? j =
      if j = i then some x else h.edge? j :=
  StrMap.lookup_insert i j x h.edges

/-- An edge whose id is free and whose ends are nodes is added, under its id. -/
lemma addEdge_of_free (e : Edge) (hfree : h.containsEdge e.id = false)
    (hs : h.containsNode e.source = true) (ht : h.containsNode e.target = true) (j : String) :
    (h.addEdge e).2.edge? j = if j = e.id then some e else h.edge? j := by
  unfold addEdge
  rw [if_neg (by simp [hfree, hs, ht])]
  exact StrMap.lookup_insert _ _ _ _

/-- Turning an edge on screen whose id the other way is on screen or free: the edge's id is
folded and leaves the screen, the id the other way shows what lands there, and nothing else
moves. -/
lemma turnEdge_of_some (hw : h.WellFormed) {k : String} {e : Edge} (he : h.edge? k = some e)
    (hne : forwardId e ≠ k)
    (hfree : h.edge? (forwardId e) = none → h.isFolded (forwardId e) = false) (n : Nat) :
    ∃ h', turnEdge c (n, h) k = (n + 1, h') ∧ h'.nodes = h.nodes ∧
      (∀ f, h'.isFolded f = (f == k || h.isFolded f)) ∧
      ∀ j, h'.edge? j =
        if j = k then none else if j = forwardId e then some (h.landing c e) else h.edge? j := by
  obtain ⟨hf, hfold, hfn, hfe, hff⟩ := foldEdge_of_some hw.edges_sorted he (hw.edge_id k e he)
  have hfwd : hf.edge? (forwardId e) = h.edge? (forwardId e) := by rw [hfe, if_neg hne]
  -- both ways of turning write the landing under the id the other way over the fold
  have hland : ∀ j, (if j = forwardId e then some (h.landing c e) else hf.edge? j) =
      if j = k then none else if j = forwardId e then some (h.landing c e) else h.edge? j := by
    intro j
    by_cases hj : j = forwardId e
    · subst hj
      simp [hne]
    · rw [if_neg hj, hfe, if_neg hj]
  simp only [turnEdge, hfold]
  rw [show edgeId e.target e.source = forwardId e from rfl, hfwd]
  cases hex : h.edge? (forwardId e) with
  | some ex =>
    refine ⟨_, rfl, hfn, hff, fun j => ?_⟩
    rw [edge?_insertEdge, ← hland]
    simp only [landing, hex]
  | none =>
    -- the id the other way is free: the edge comes back turned round under it
    have hnode : ∀ u, hf.containsNode u = h.containsNode u := fun u => by
      simp [containsNode, hfn]
    obtain ⟨hs, ht⟩ := hw.ends_plotted k e he
    have hfresh : hf.containsEdge (turnedRound c e).id = false := by
      rw [id_turnedRound, containsEdge_eq_false, hfwd, hex]
      refine ⟨rfl, (StrSet.contains_eq_false _ _).1 ?_⟩
      rw [← isFolded, hff, hfree hex, beq_eq_false_iff_ne.2 hne, Bool.or_false]
    refine ⟨_, rfl, by rw [nodes_addEdge, hfn],
      fun f => by rw [isFolded, folded_addEdge]; exact hff f,
      fun j => (addEdge_of_free (turnedRound c e) hfresh (by rw [hnode]; exact ht)
        (by rw [hnode]; exact hs) j).trans ?_⟩
    rw [id_turnedRound, ← hland]
    simp only [landing, hex]

/-! ### Passes seen from the model they started from -/

/-- Whether the edge under `k` has its edge the other way on screen. -/
def hasForward (g : GraphModel) (k : String) : Bool :=
  match g.edge? k with
  | some e => (g.edge? (forwardId e)).isSome
  | none => false

lemma hasForward_of_edge? {k : String} {e : Edge} (he : g.edge? k = some e) :
    g.hasForward k = (g.edge? (forwardId e)).isSome := by
  simp [hasForward, he]

lemma WellFormed.isFolded_of_edge? (hw : g.WellFormed) {k : String} {e : Edge}
    (he : g.edge? k = some e) : g.isFolded k = false :=
  (StrSet.contains_eq_false _ _).2 fun hk => by rw [hw.folded_unplotted k hk] at he; cases he

lemma mem_keys_of_edge? {k : String} {e : Edge} (he : g.edge? k = some e) : k ∈ g.edges.keys :=
  (StrMap.isSome_lookup_iff k g.edges).1 (by rw [show StrMap.lookup k g.edges = g.edge? k from rfl, he]; rfl)

/-- An edge on screen under the id the other way of another joins the same ends the other way
round. -/
lemma IdsNameEnds.reverse_of_forwardId (hu : g.IdsNameEnds) (hw : g.WellFormed) {k k' : String}
    {e e' : Edge} (he : g.edge? k = some e) (he' : g.edge? k' = some e') (hk : k' = forwardId e) :
    e'.source = e.target ∧ e'.target = e.source := by
  obtain ⟨hs, ht⟩ := hw.ends_plotted k e he
  exact hu.ends_of_edge? hw he' ht hs hk

/-- Two edges on screen with the same id the other way are one. -/
lemma IdsNameEnds.eq_of_forwardId (hu : g.IdsNameEnds) (hw : g.WellFormed) {k k' : String}
    {e e' : Edge} (he : g.edge? k = some e) (he' : g.edge? k' = some e')
    (hf : forwardId e' = forwardId e) : k' = k := by
  obtain ⟨hs, ht⟩ := hw.ends_plotted k e he
  obtain ⟨hs', ht'⟩ := hw.ends_plotted k' e' he'
  obtain ⟨h₁, h₂⟩ := hu _ _ _ _ ht' hs' ht hs hf
  rw [← hw.edge_id k' e' he', ← hw.edge_id k e he, Edge.id, Edge.id, h₁, h₂]

/-- A reverse edge is not its own edge the other way. -/
lemma IdsNameEnds.forwardId_ne (hu : g.IdsNameEnds) (hw : g.WellFormed) {k : String} {e : Edge}
    (he : g.edge? k = some e) (hr : g.isReverse c e = true) : forwardId e ≠ k := fun hk => by
  obtain ⟨hs, ht⟩ := hu.reverse_of_forwardId hw he he hk.symm
  exact not_isReverse_both hr hr hs ht

/-- What lands under the id the other way of an edge joins its ends the other way round. -/
lemma landing_ends (hu : g.IdsNameEnds) (hw : g.WellFormed) {k : String} {e : Edge}
    (he : g.edge? k = some e) (c : Collapse) :
    (g.landing c e).source = e.target ∧ (g.landing c e).target = e.source := by
  unfold landing
  split
  · next ex hex =>
    obtain ⟨hs, ht⟩ := hu.reverse_of_forwardId hw he hex rfl
    exact ⟨hs, ht⟩
  · exact ⟨rfl, rfl⟩

/-- The passes of the collapses `cs` so far, seen from the model `g` they started from: the
nodes stay; the folded ids are those of `g` and ids of edges of `g`; every edge of `g` folded so
far is a reverse edge of one of the collapses, and what `landing` gives stands under its id the
other way; every other id shows what `g` showed; the count is the number of folds, and the
edges on screen are those of `g` less the folds that landed on an edge there. -/
structure Turning (g : GraphModel) (cs : List Collapse) (acc : Nat × GraphModel) : Prop where
  wf : acc.2.WellFormed
  nodes : acc.2.nodes = g.nodes
  folded_mono : ∀ f, g.isFolded f = true → acc.2.isFolded f = true
  folded_new : ∀ f, acc.2.isFolded f = true → g.isFolded f = true ∨ (g.edge? f).isSome = true
  landed : ∀ k e, g.edge? k = some e → acc.2.isFolded k = true →
    ∃ c ∈ cs, g.isReverse c e = true ∧ acc.2.edge? (forwardId e) = some (g.landing c e)
  kept : ∀ j, acc.2.isFolded j = false →
    (∀ k e, g.edge? k = some e → acc.2.isFolded k = true → forwardId e ≠ j) →
    acc.2.edge? j = g.edge? j
  turns : acc.1 = (g.edges.keys.filter acc.2.isFolded).length
  count : acc.2.edgeCount +
    (g.edges.keys.filter fun k => acc.2.isFolded k && g.hasForward k).length = g.edgeCount

/-! ### Counting -/

lemma edgeCount_eq_card (hs : StrMap.Sorted h.edges) : h.edgeCount = h.edges.keys.toFinset.card := by
  rw [List.toFinset_card_of_nodup hs.nodup, StrMap.keys, List.length_map, edgeCount]

lemma mem_keys_toFinset {j : String} : j ∈ h.edges.keys.toFinset ↔ (h.edge? j).isSome = true := by
  rw [List.mem_toFinset, ← StrMap.isSome_lookup_iff]
  rfl

/-- A turn takes one edge off the screen and brings one back, unless it lands on an edge that is
there. -/
lemma edgeCount_of_turn (hs : StrMap.Sorted h.edges) (hs' : StrMap.Sorted h'.edges) {k f : String}
    {x : Edge} (hk : (h.edge? k).isSome = true) (hne : f ≠ k)
    (he' : ∀ j, h'.edge? j = if j = k then none else if j = f then some x else h.edge? j) :
    h'.edgeCount + (if (h.edge? f).isSome then 1 else 0) = h.edgeCount := by
  have hkeys : h'.edges.keys.toFinset = insert f (h.edges.keys.toFinset.erase k) := by
    ext j
    rw [mem_keys_toFinset, he', Finset.mem_insert, Finset.mem_erase, mem_keys_toFinset]
    by_cases hj : j = k
    · subst hj
      simp [hne.symm]
    · by_cases hjf : j = f <;> simp [hj, hjf, hne]
  have hk' : k ∈ h.edges.keys.toFinset := mem_keys_toFinset.2 hk
  have hpos : 0 < h.edges.keys.toFinset.card := Finset.card_pos.2 ⟨k, hk'⟩
  rw [edgeCount_eq_card hs', edgeCount_eq_card hs, hkeys]
  by_cases hf : (h.edge? f).isSome = true
  · rw [Finset.insert_eq_of_mem (Finset.mem_erase.2 ⟨hne, mem_keys_toFinset.2 hf⟩), if_pos hf,
      Finset.card_erase_of_mem hk']
    omega
  · rw [Finset.card_insert_of_notMem (fun hm => hf (mem_keys_toFinset.1 (Finset.mem_of_mem_erase hm))),
      if_neg hf, Finset.card_erase_of_mem hk']
    omega

/-- Counting the ids of a list without repeats that pass a test, when one more id `k` of the list
is let through. -/
lemma length_filter_of_insert {l : List String} (hl : l.Nodup) {k : String} (hk : k ∈ l)
    {p : String → Bool} (hpk : p k = false) (p' r : String → Bool)
    (hp' : ∀ j, p' j = ((j == k || p j) && r j)) :
    (l.filter p').length = (l.filter fun j => p j && r j).length + if r k then 1 else 0 := by
  have hcard : ∀ q : String → Bool, (l.filter q).length = (l.toFinset.filter fun j => q j).card :=
    fun q => by rw [← List.toFinset_filter, List.toFinset_card_of_nodup (hl.filter q)]
  rw [hcard, hcard]
  by_cases hr : r k = true
  · have hins : l.toFinset.filter (fun j => p' j) =
        insert k (l.toFinset.filter fun j => p j && r j) := by
      ext j
      by_cases hj : j = k
      · subst hj
        simp [hp', hk, hr]
      · simp [hp', hj]
    rw [hins, Finset.card_insert_of_notMem (by simp [hpk]), if_pos hr]
  · have hsame : l.toFinset.filter (fun j => p' j) = l.toFinset.filter fun j => p j && r j := by
      ext j
      by_cases hj : j = k
      · subst hj
        simp [hp', hr, hpk]
      · simp [hp', hj]
    rw [hsame, if_neg hr, Nat.add_zero]

/-! ### A turn keeps the invariant -/

section Turning

variable {cs : List Collapse} {n : Nat} {k : String} {e : Edge}

/-- Before the first pass nothing is folded that was not. -/
lemma Turning.start (hg : g.WellFormed) (cs : List Collapse) : Turning g cs (0, g) := by
  -- no edge of `g` is folded in `g`, so both counts of folds are empty
  have hnil : ∀ r : String → Bool, (g.edges.keys.filter fun k => g.isFolded k && r k) = [] :=
    fun r => List.filter_eq_nil_iff.2 fun k hk => by
      obtain ⟨e, he⟩ := Option.isSome_iff_exists.1 ((StrMap.isSome_lookup_iff k g.edges).2 hk)
      simp [hg.isFolded_of_edge? he]
  refine { wf := hg, nodes := rfl, folded_mono := fun _ hf => hf, folded_new := fun _ hf => .inl hf,
           landed := fun k e he hf => ?_, kept := fun _ _ _ => rfl, turns := ?_, count := ?_ }
  · rw [hg.isFolded_of_edge? he] at hf
    cases hf
  · simpa using (congrArg List.length (hnil fun _ => true)).symm
  · simp [hnil]

/-- In the passes so far, an edge on screen that a collapse may turn is the edge of `g` under
its id, and the id the other way is not folded and shows what `g` showed. No edge of `g` folded
so far lands on either id: what landed points back at a folded id and cannot be turned. -/
lemma Turning.of_turnable (hg : g.WellFormed) (hu : g.IdsNameEnds) (ht : Turning g cs (n, h))
    (he : h.edge? k = some e) (hte : h.turnable c e = true) :
    g.edge? k = some e ∧ h.edge? (forwardId e) = g.edge? (forwardId e) ∧
      h.isFolded (forwardId e) = false ∧
      ∀ k' e', g.edge? k' = some e' → h.isFolded k' = true →
        forwardId e' ≠ k ∧ forwardId e' ≠ forwardId e := by
  have hw : h.WellFormed := ht.wf
  have hfk : h.isFolded k = false := hw.isFolded_of_edge? he
  have hfoff : h.isFolded (forwardId e) = false := by
    simp only [turnable, Bool.and_eq_true, Bool.or_eq_true, Bool.not_eq_true'] at hte
    rcases hte.2 with hon | hoff
    · obtain ⟨x, hx⟩ := Option.isSome_iff_exists.1 hon
      exact hw.isFolded_of_edge? hx
    · exact hoff
  have hland : ∀ k' e', g.edge? k' = some e' → h.isFolded k' = true →
      forwardId e' ≠ k ∧ forwardId e' ≠ forwardId e := by
    intro k' e' he' hf'
    refine ⟨fun hk => ?_, fun hf => ?_⟩
    · -- `e` would be what landed from `e'`, so its id the other way would be the folded `k'`
      obtain ⟨c', -, -, hl⟩ := ht.landed k' e' he' hf'
      rw [hk, he] at hl
      obtain ⟨hs, ht'⟩ := landing_ends hu hg he' c'
      have hback : forwardId e = k' := by
        rw [Option.some.inj hl, ← hg.edge_id k' e' he']
        simp only [forwardId, Edge.id, hs, ht']
      rw [hback, hf'] at hfoff
      cases hfoff
    · -- `e'` and `e` would join the same ends, so `k'` would be `k`, which is not folded
      have hn : h.nodes = g.nodes := ht.nodes
      have hnodes : ∀ u, h.containsNode u = g.containsNode u := fun u => by
        simp [containsNode, hn]
      obtain ⟨hs, ht'⟩ := hw.ends_plotted k e he
      obtain ⟨hs', ht''⟩ := hg.ends_plotted k' e' he'
      rw [hnodes] at hs ht'
      obtain ⟨h₁, h₂⟩ := hu _ _ _ _ ht'' hs' ht' hs hf
      have hkk : k' = k := by
        rw [← hg.edge_id k' e' he', ← hw.edge_id k e he, Edge.id, Edge.id, h₁, h₂]
      rw [hkk, hfk] at hf'
      cases hf'
  refine ⟨?_, ht.kept _ hfoff fun k' e' he' hf' => (hland k' e' he' hf').2, hfoff, hland⟩
  rw [← ht.kept k hfk fun k' e' he' hf' => (hland k' e' he' hf').1, he]

/-- A turn of an edge that a collapse of `cs` may turn keeps the invariant; it changes only the
id it folds and the id the other way.

**Proof sketch.** The edge is the edge of `g` under its id and the id the other way shows what
`g` showed (`Turning.of_turnable`), so what lands there is `g.landing c e`.  The ids of the
earlier folds and the places they landed are neither of the two ids the turn touches. -/
lemma Turning.turnEdge (hg : g.WellFormed) (hu : g.IdsNameEnds) (ht : Turning g cs (n, h))
    (hc : c ∈ cs) (he : h.edge? k = some e) (hte : h.turnable c e = true) :
    ∃ h', GraphModel.turnEdge c (n, h) k = (n + 1, h') ∧ Turning g cs (n + 1, h') ∧
      ∀ j, j ≠ k → j ≠ forwardId e → h'.edge? j = h.edge? j ∧ h'.isFolded j = h.isFolded j := by
  obtain ⟨hgk, hfwd, hfoff, hland⟩ := ht.of_turnable hg hu he hte
  have hn : h.nodes = g.nodes := ht.nodes
  have hrev : g.isReverse c e = true := by
    rw [← isReverse_congr (groups_of_nodes hn) rfl rfl rfl]
    exact (Bool.and_eq_true_iff.1 hte).1
  have hne : forwardId e ≠ k := hu.forwardId_ne hg hgk hrev
  obtain ⟨h', hstep, hn', hf', he'⟩ := turnEdge_of_some ht.wf he hne (fun _ => hfoff) n
  have hw' := ht.wf.turnEdge c k
  rw [hstep] at hw'
  have hlanding : h.landing c e = g.landing c e := by simp only [landing, hfwd]
  have hfk : h.isFolded k = false := ht.wf.isFolded_of_edge? he
  refine ⟨h', hstep, ?_, fun j hjk hjf => ⟨by rw [he', if_neg hjk, if_neg hjf], by simp [hf', hjk]⟩⟩
  refine { wf := hw', nodes := hn'.trans hn, folded_mono := fun f hf => ?_,
           folded_new := fun f hf => ?_, landed := fun k' e' he₁ hf₁ => ?_,
           kept := fun j hj hnot => ?_, turns := ?_, count := ?_ }
  · simp [hf', ht.folded_mono f hf]
  · rw [hf', Bool.or_eq_true, beq_iff_eq] at hf
    rcases hf with rfl | hf
    · exact .inr (by simp [hgk])
    · exact ht.folded_new f hf
  · by_cases hk' : k' = k
    · -- the edge just folded lands under the id the other way
      subst hk'
      rw [hgk, Option.some_inj] at he₁
      subst he₁
      exact ⟨c, hc, hrev, by rw [he', if_neg hne, if_pos rfl, hlanding]⟩
    · -- an earlier fold, whose landing the turn does not touch
      have hfh : h.isFolded k' = true := by simpa [hf', hk'] using hf₁
      obtain ⟨c', hc', hrev', hl⟩ := ht.landed k' e' he₁ hfh
      obtain ⟨hnk, hnf⟩ := hland k' e' he₁ hfh
      exact ⟨c', hc', hrev', by rw [he', if_neg hnk, if_neg hnf, hl]⟩
  · have hjk : j ≠ k := fun hjk => by simp [hf', hjk] at hj
    have hjf : j ≠ forwardId e := fun hjf => hnot k e hgk (by simp [hf']) hjf.symm
    rw [he', if_neg hjk, if_neg hjf]
    exact ht.kept j (by simpa [hf', hjk] using hj)
      fun k' e' he₁ hf₁ => hnot k' e' he₁ (by simp [hf', hf₁])
  · have hcount := length_filter_of_insert (StrMap.Sorted.nodup hg.edges_sorted)
      (mem_keys_of_edge? hgk) hfk h'.isFolded (fun _ => true) fun j => by simp [hf']
    simp only [Bool.and_true, ↓reduceIte] at hcount
    rw [hcount, ← ht.turns]
  · have hmerged := length_filter_of_insert (StrMap.Sorted.nodup hg.edges_sorted)
      (mem_keys_of_edge? hgk) hfk (fun j => h'.isFolded j && g.hasForward j) g.hasForward
      fun j => by simp [hf']
    have hedges := edgeCount_of_turn ht.wf.edges_sorted hw'.edges_sorted (by simp [he]) hne he'
    rw [hasForward_of_edge? hgk, ← hfwd] at hmerged
    have hc₀ := ht.count
    simp only at hc₀ hmerged hedges ⊢
    omega

/-! ### Whole passes -/

/-- Turning, one after another, distinct ids of edges that `c` may turn keeps the invariant.

**Proof sketch.** Induction on the ids.  The edges still to turn stay as they were and stay
turnable: the turn touches only its own id and the id the other way, and neither is the id of
another reverse edge of `c` or that edge's id the other way (`not_isReverse_both`). -/
lemma Turning.foldl_turnEdge (hg : g.WellFormed) (hu : g.IdsNameEnds) (hc : c ∈ cs) :
    ∀ (rest : List String) (acc : Nat × GraphModel), Turning g cs acc → rest.Nodup →
      (∀ k ∈ rest, ∃ e, acc.2.edge? k = some e ∧ acc.2.turnable c e = true) →
      Turning g cs (rest.foldl (GraphModel.turnEdge c) acc)
  | [], _, ht, _, _ => ht
  | k :: rest, (n, h), ht, hnd, hall => by
    obtain ⟨e, he, hte⟩ := hall k List.mem_cons_self
    obtain ⟨h', hstep, ht', hframe⟩ := ht.turnEdge hg hu hc he hte
    obtain ⟨hk, hnd⟩ := List.nodup_cons.1 hnd
    rw [List.foldl_cons, hstep]
    refine Turning.foldl_turnEdge hg hu hc rest _ ht' hnd fun k₂ hk₂ => ?_
    obtain ⟨e₂, he₂, hte₂⟩ := hall k₂ (List.mem_cons_of_mem _ hk₂)
    have hw : h.WellFormed := ht.wf
    have hn : h'.nodes = h.nodes := ht'.nodes.trans ht.nodes.symm
    have hu' : h.IdsNameEnds := hu.of_nodes ht.nodes
    have hr : h.isReverse c e = true := (Bool.and_eq_true_iff.1 hte).1
    have hr₂ : h.isReverse c e₂ = true := (Bool.and_eq_true_iff.1 hte₂).1
    have hkk : k₂ ≠ k := fun h => hk (h ▸ hk₂)
    have hkf : k₂ ≠ forwardId e := fun hkf => by
      obtain ⟨hs, ht⟩ := hu'.reverse_of_forwardId hw he he₂ hkf
      exact not_isReverse_both hr hr₂ hs ht
    have hfk : forwardId e₂ ≠ k := fun hfk => by
      obtain ⟨hs, ht⟩ := hu'.reverse_of_forwardId hw he₂ he hfk.symm
      exact not_isReverse_both hr₂ hr hs ht
    have hff : forwardId e₂ ≠ forwardId e := fun hff => hkk (hu'.eq_of_forwardId hw he he₂ hff)
    obtain ⟨hek, -⟩ := hframe k₂ hkk hkf
    obtain ⟨hef, hff'⟩ := hframe (forwardId e₂) hfk hff
    refine ⟨e₂, by rw [hek, he₂], ?_⟩
    have hr' : h'.isReverse c e₂ = h.isReverse c e₂ := isReverse_congr (groups_of_nodes hn) rfl rfl rfl
    simp only [turnable, hr', hef, hff']
    exact hte₂

/-- The ids a pass turns are distinct, and each is the id of an edge the pass may turn. -/
lemma turnList_spec (hw : h.WellFormed) (c : Collapse) :
    ((h.edgeList.filter (h.turnable c)).map Edge.id).Nodup ∧
      ∀ k ∈ (h.edgeList.filter (h.turnable c)).map Edge.id,
        ∃ e, h.edge? k = some e ∧ h.turnable c e = true := by
  refine ⟨?_, fun k hk => ?_⟩
  · -- the ids are the keys of the entries the filter keeps
    have hids : (h.edgeList.filter (h.turnable c)).map Edge.id =
        (h.edges.filter fun p => h.turnable c p.2).map Prod.fst := by
      rw [edgeList, List.filter_map, List.map_map]
      refine List.map_congr_left fun p hp => ?_
      exact hw.edge_id p.1 p.2 (hw.edges_sorted.lookup_of_mem (List.mem_filter.1 hp).1)
    rw [hids]
    exact (StrMap.Sorted.nodup hw.edges_sorted).sublist ((List.filter_sublist).map Prod.fst)
  · obtain ⟨e, hmem, rfl⟩ := List.mem_map.1 hk
    obtain ⟨hmem, hte⟩ := List.mem_filter.1 hmem
    obtain ⟨i, hi⟩ := exists_edge?_of_mem hw.edges_sorted hmem
    exact ⟨e, by rw [hw.edge_id i e hi]; exact hi, hte⟩

lemma Turning.normalizeCollapse (hg : g.WellFormed) (hu : g.IdsNameEnds) (hc : c ∈ cs)
    {acc : Nat × GraphModel} (ht : Turning g cs acc) : Turning g cs (normalizeCollapse acc c) := by
  rw [normalizeCollapse_eq]
  obtain ⟨hnd, hall⟩ := turnList_spec ht.wf c
  exact Turning.foldl_turnEdge hg hu hc _ acc ht hnd hall

/-- The passes of any of the collapses `cs`, one after another, keep the invariant. -/
lemma Turning.foldl_normalizeCollapse (hg : g.WellFormed) (hu : g.IdsNameEnds) :
    ∀ ds : List Collapse, (∀ c ∈ ds, c ∈ cs) → ∀ acc : Nat × GraphModel, Turning g cs acc →
      Turning g cs (ds.foldl GraphModel.normalizeCollapse acc)
  | [], _, _, ht => ht
  | d :: ds, hds, acc, ht => by
    rw [List.foldl_cons]
    exact Turning.foldl_normalizeCollapse hg hu ds (fun c hc => hds c (List.mem_cons_of_mem _ hc)) _
      (ht.normalizeCollapse hg hu (hds d List.mem_cons_self))

lemma turning_normalizeDirections (hg : g.WellFormed) (hu : g.IdsNameEnds) (cs : List Collapse) :
    Turning g cs (g.normalizeDirections cs) :=
  Turning.foldl_normalizeCollapse hg hu cs (fun _ hc => hc) _ (Turning.start hg cs)

/-! ### What the passes leave -/

lemma Edge.joins_iff_of_reverse {x e : Edge} {a b : String} (hs : x.source = e.target)
    (ht : x.target = e.source) : x.Joins a b ↔ e.Joins a b := by
  simp only [Edge.Joins, hs, ht]
  tauto

/-- The passes join the same pairs of nodes: a fold lands between the same two nodes, and what
stands where a fold landed joins the ends of the edge that stood there. -/
lemma Turning.joined (hg : g.WellFormed) (hu : g.IdsNameEnds) {acc : Nat × GraphModel}
    (ht : Turning g cs acc) (a b : String) : acc.2.Joined a b ↔ g.Joined a b := by
  constructor
  · rintro ⟨i, x, hx, hj⟩
    have hfi : acc.2.isFolded i = false := ht.wf.isFolded_of_edge? hx
    by_cases hl : ∃ k e, g.edge? k = some e ∧ acc.2.isFolded k = true ∧ forwardId e = i
    · obtain ⟨k, e, he, hf, rfl⟩ := hl
      obtain ⟨c, -, -, hland⟩ := ht.landed k e he hf
      rw [hland, Option.some_inj] at hx
      subst hx
      obtain ⟨hs, ht'⟩ := landing_ends hu hg he c
      exact ⟨k, e, he, (Edge.joins_iff_of_reverse hs ht').1 hj⟩
    · simp only [not_exists, not_and] at hl
      exact ⟨i, x, by rw [← ht.kept i hfi hl, hx], hj⟩
  · rintro ⟨k, e, he, hj⟩
    by_cases hf : acc.2.isFolded k = true
    · -- the edge was folded: what landed the other way joins its ends
      obtain ⟨c, -, -, hland⟩ := ht.landed k e he hf
      obtain ⟨hs, ht'⟩ := landing_ends hu hg he c
      exact ⟨_, _, hland, (Edge.joins_iff_of_reverse hs ht').2 hj⟩
    · rw [Bool.not_eq_true] at hf
      by_cases hl : ∃ k' e', g.edge? k' = some e' ∧ acc.2.isFolded k' = true ∧ forwardId e' = k
      · -- a fold landed on the edge: it still joins the ends of the edge
        obtain ⟨k', e', he', hf', rfl⟩ := hl
        obtain ⟨c, -, -, hland⟩ := ht.landed k' e' he' hf'
        obtain ⟨hs, ht'⟩ := landing_ends hu hg he' c
        obtain ⟨hs₁, ht₁⟩ := hu.reverse_of_forwardId hg he' he rfl
        have hsrc : (g.landing c e').source = e.source := hs.trans hs₁.symm
        have htgt : (g.landing c e').target = e.target := ht'.trans ht₁.symm
        exact ⟨_, _, hland, by simpa only [Edge.Joins, hsrc, htgt] using hj⟩
      · simp only [not_exists, not_and] at hl
        exact ⟨k, e, by rw [ht.kept k hf hl, he], hj⟩

end Turning

/-- A collapse has left nothing to turn: each reverse edge of it on screen has its id the other
way folded and off screen. -/
lemma Turned.reverse (ht : g.Turned c) {k : String} {e : Edge} (he : g.edge? k = some e)
    (hr : g.isReverse c e = true) :
    g.isFolded (forwardId e) = true ∧ g.edge? (forwardId e) = none := by
  have h := ht k e he
  simp only [turnable, hr, Bool.true_and, Bool.or_eq_false_iff, Bool.not_eq_false',
    Option.isSome_eq_false_iff, Option.isNone_iff_eq_none] at h
  exact ⟨h.2, h.1⟩

/-- An edge titled `c.wire` between two nodes of the one end group of a symmetric collapse `c`
is a reverse edge of `c` exactly when it runs down the order of URIs. -/
lemma isReverse_of_symmetric (hc : c.isSymmetric = true) {e : Edge} (hw : e.title = c.wire)
    (hgr : g.endGroups e = some (c.fromType, c.fromType)) :
    g.isReverse c e = decide (e.target < e.source) := by
  have hft : c.toType = c.fromType := (beq_iff_eq.1 hc).symm
  have hwire : c.reverseWire = c.wire := by simp [Collapse.reverseWire, Collapse.wire, hft]
  simp [isReverse, hgr, hw, hwire, hft, hc]

/-- What bringing the edges of `g` into the directions of the collapses `cs` promises of the
count `n` it returns and the model `r` it leaves.  The edges that stand under the id the other
way of a reverse edge are its *forward* edges. -/
structure Normalized (g : GraphModel) (cs : List Collapse) (n : Nat) (r : GraphModel) : Prop where
  nodes : r.nodes = g.nodes
  /-- Two nodes are joined by an edge afterwards exactly when they were before. -/
  joined : ∀ a b, r.Joined a b ↔ g.Joined a b
  /-- What was folded stays folded, and only edges of `g` are folded besides. -/
  folded_mono : ∀ f, g.isFolded f = true → r.isFolded f = true
  folded_new : ∀ f, r.isFolded f = true → g.isFolded f = true ∨ (g.edge? f).isSome = true
  /-- An edge of `g` that is folded was a reverse edge of a collapse of `cs`; it is off screen,
  and its frequency is added to the edge under its id the other way, which joins the same nodes:
  the forward edge of `g` there, or else the edge turned round and titled as `c`. -/
  landed : ∀ k e, g.edge? k = some e → r.isFolded k = true →
    r.edge? k = none ∧ ∃ c ∈ cs, g.isReverse c e = true ∧
      r.edge? (forwardId e) = some (g.landing c e) ∧
      (g.landing c e).source = e.target ∧ (g.landing c e).target = e.source
  /-- Every id where no fold landed and that is not folded shows what it showed, frequency
  included. -/
  kept : ∀ j, r.isFolded j = false →
    (∀ k e, g.edge? k = some e → r.isFolded k = true → forwardId e ≠ j) → r.edge? j = g.edge? j
  /-- The count is the number of folds. -/
  turns : n = (g.edges.keys.filter r.isFolded).length
  /-- The edges on screen are those of `g` less the folds that landed on a forward edge. -/
  count : r.edgeCount + (g.edges.keys.filter fun k => r.isFolded k && g.hasForward k).length =
    g.edgeCount
  /-- Every reverse edge of a collapse of `cs` left on screen has its forward id folded and off
  screen. -/
  reverse : ∀ c ∈ cs, ∀ k e, r.edge? k = some e → r.isReverse c e = true →
    r.isFolded (forwardId e) = true ∧ r.edge? (forwardId e) = none
  /-- So for a symmetric collapse, an edge titled as it between two nodes of its type runs up
  the order of URIs, or its forward id is folded and off screen. -/
  symmetric : ∀ c ∈ cs, c.isSymmetric = true → ∀ k e, r.edge? k = some e → e.title = c.wire →
    r.endGroups e = some (c.fromType, c.fromType) →
    e.source ≤ e.target ∨ (r.isFolded (forwardId e) = true ∧ r.edge? (forwardId e) = none)

/-- Bringing the edges of a well-formed model into the directions of any collapses, where edge
ids name their ends, keeps its nodes and the pairs of nodes it joins, loses no frequency, counts
its folds, and leaves every reverse edge with its forward id folded.

**Proof sketch.** The passes keep `Turning` (`turning_normalizeDirections`), which gives all but
the last two parts; those follow from `turned_foldl_normalizeCollapse`. -/
theorem normalizeDirections_normalized (hg : g.WellFormed) (hu : g.IdsNameEnds)
    (cs : List Collapse) :
    Normalized g cs (g.normalizeDirections cs).1 (g.normalizeDirections cs).2 := by
  have ht := turning_normalizeDirections hg hu cs
  have hturned : ∀ c ∈ cs, (g.normalizeDirections cs).2.Turned c :=
    turned_foldl_normalizeCollapse cs (0, g) hg
  refine { nodes := ht.nodes, joined := ht.joined hg hu, folded_mono := ht.folded_mono,
           folded_new := ht.folded_new, landed := fun k e he hf => ?_, kept := ht.kept,
           turns := ht.turns, count := ht.count,
           reverse := fun c hc k e he hr => (hturned c hc).reverse he hr,
           symmetric := fun c hc hsym k e he hw hgr => ?_ }
  · obtain ⟨c, hc, hr, hl⟩ := ht.landed k e he hf
    have hoff : (g.normalizeDirections cs).2.edge? k = none := by
      cases hk : (g.normalizeDirections cs).2.edge? k with
      | none => rfl
      | some x => rw [ht.wf.isFolded_of_edge? hk] at hf; cases hf
    exact ⟨hoff, c, hc, hr, hl, landing_ends hu hg he c⟩
  · by_cases hlt : e.target < e.source
    · exact .inr ((hturned c hc).reverse he (by rw [isReverse_of_symmetric hsym hw hgr]; simp [hlt]))
    · exact .inl hlt


/-- A person who wrote two books, with the edges of both books seen from the person, and the
edge of the first book seen from the book. -/
def authorsModel : GraphModel :=
  let p := (ContentUri.mk "42" "Person" "p1").render
  let b₁ := (ContentUri.mk "42" "Book" "b1").render
  let b₂ := (ContentUri.mk "42" "Book" "b2").render
  let g := ((({} : GraphModel).addNode { uri := p, rawLabel := "Ada", label := "Ada", group := "Person" }).2.addNode
    { uri := b₁, rawLabel := "Notes", label := "Notes", group := "Book" }).2.addNode
    { uri := b₂, rawLabel := "Sketch", label := "Sketch", group := "Book" }
  (((g.2.addEdge { source := p, target := b₁, title := "Person.Author.Book", freq := 1.0 }).2.addEdge
    { source := b₁, target := p, title := "Book.Author.Person", freq := 1.0 }).2.addEdge
    { source := p, target := b₂, title := "Person.Author.Book", freq := 1.0 }).2

/-- Turning the edges of the authors by the collapse of books to their authors: the edge to the
first book folds into the edge from it, the edge to the second comes back turned round. -/
theorem normalizeDirections_normalized_authors :
    authorsModel.WellFormed ∧ authorsModel.IdsNameEnds ∧
      Normalized authorsModel [⟨"Book", "Author", "Person"⟩]
        (authorsModel.normalizeDirections [⟨"Book", "Author", "Person"⟩]).1
        (authorsModel.normalizeDirections [⟨"Book", "Author", "Person"⟩]).2 := by
  have hw : authorsModel.WellFormed :=
    ((((((WellFormed.empty.addNode _).addNode _).addNode _).addEdge _).addEdge _).addEdge _)
  have hkeys : authorsModel.nodes.keys =
      ["/corpus/42/Book/b1", "/corpus/42/Book/b2", "/corpus/42/Person/p1"] := by decide
  have hu : authorsModel.IdsNameEnds := IdsNameEnds.of_plain fun u hu => by
    rw [containsNode, StrMap.containsKey_iff, hkeys] at hu
    simp only [List.mem_cons, List.not_mem_nil, or_false] at hu
    rcases hu with rfl | rfl | rfl
    · exact ContentUri.isPlainText_render (by decide : ContentUri.Plain ⟨"42", "Book", "b1"⟩)
    · exact ContentUri.isPlainText_render (by decide : ContentUri.Plain ⟨"42", "Book", "b2"⟩)
    · exact ContentUri.isPlainText_render (by decide : ContentUri.Plain ⟨"42", "Person", "p1"⟩)
  exact ⟨hw, hu, normalizeDirections_normalized hw hu _⟩

instance (e : Edge) (a b : String) : Decidable (e.Joins a b) :=
  inferInstanceAs (Decidable (_ ∨ _))

lemma joined_iff_mem_edgeList (hs : StrMap.Sorted g.edges) {a b : String} :
    g.Joined a b ↔ ∃ e ∈ g.edgeList, e.Joins a b := by
  constructor
  · rintro ⟨i, e, he, hj⟩
    exact ⟨e, mem_edgeList_of_edge? he, hj⟩
  · rintro ⟨e, he, hj⟩
    obtain ⟨i, hi⟩ := exists_edge?_of_mem hs he
    exact ⟨i, e, hi, hj⟩

/-- Four nodes whose URIs hold dashes, so that the edge from `B-C` to `A` and the edge from `A-B`
to `C` read `B-C-A` and `A-B-C`: the id the other way of the first is the id of the second. -/
def clashingModel : GraphModel :=
  let g := (((({} : GraphModel).addNode { uri := "A", rawLabel := "A", label := "A", group := "X" }).2.addNode
    { uri := "B-C", rawLabel := "B-C", label := "B-C", group := "Y" }).2.addNode
    { uri := "A-B", rawLabel := "A-B", label := "A-B", group := "X" }).2.addNode
    { uri := "C", rawLabel := "C", label := "C", group := "Y" }
  ((g.2.addEdge { source := "B-C", target := "A", title := "Y.P.X", freq := 1.0 }).2.addEdge
    { source := "A-B", target := "C", title := "X.P.Y", freq := 1.0 }).2

/-- Where ids do not name their ends, a fold lands between other nodes: the reverse edge from
`B-C` to `A` is folded into the edge from `A-B` to `C`, and `A` and `B-C` are no longer joined. -/
theorem normalizeDirections_parts_clashing_ends :
    clashingModel.WellFormed ∧ clashingModel.Joined "A" "B-C" ∧
      ¬ (clashingModel.normalizeDirections [⟨"X", "P", "Y"⟩]).2.Joined "A" "B-C" := by
  have hw : clashingModel.WellFormed :=
    (((((WellFormed.empty.addNode _).addNode _).addNode _).addNode _).addEdge _).addEdge _
  have hw' := hw.normalizeDirections [⟨"X", "P", "Y"⟩]
  refine ⟨hw, (joined_iff_mem_edgeList hw.edges_sorted).2 (by decide), fun hj => ?_⟩
  rw [joined_iff_mem_edgeList hw'.edges_sorted] at hj
  revert hj
  decide

end GraphModel

end CorpusBench
