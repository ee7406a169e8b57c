import Mathlib.Tactic.Lemma
import CorpusBench.Server.Neighbors
import CorpusBench.Graph.Model
import CorpusBench.Proofs.Data.StrMap
import CorpusBench.Proofs.Server.Requests

/-!
# What a neighbourhood answer holds

The server answers a neighbourhood request for a node `u` from its relationships: the direct
neighbours, the far ends of the collapses, filtered, grouped by type and cut into windows.
This file states what such an answer holds, whatever the relationships are.

* Every neighbour a query shows is an end of a relationship, and comes with an edge between it
  and `u`, one way or the other (`Server.reaching_visibleNeighbors`).
* The answer from `skip` holds, from each group, the neighbours at the positions `skip` to
  `skip + limit`, with their edges (`Server.mem_window`, `Server.nodes_neighborhood`).
* Only the hidden types, the target type, the view filters and the collapses of a query choose
  which neighbours it shows (`Server.visibleNeighbors_congr`), and logging requests changes no
  answer (`Server.neighborhood_record`).

The text of a plain URI with no empty part reads back as the URI (`ContentUri.parse_render`).

Edge ids are the text `{from}-{to}`, which two different pairs of texts may share.  Between
URIs whose parts hold no slash (`ContentUri.Plain`) they may not: cut at its slashes, the id
gives back the parts of both ends (`ContentUri.edgeId_injective`).

## Main definitions

* `ContentUri.Plain`, `ContentUri.IsPlainText` — URIs and texts of URIs
  whose parts hold no slash.
* `Server.PlainLinks` — every relationship of a server joins plain URIs.
* `Server.Reaching` — a neighbour with an edge between it and the node asked for.
* `Server.window` — the neighbours an answer holds.
-/

namespace CorpusBench

namespace ContentUri

/-- A URI whose corpus id, content type and content id hold no slash. -/
def Plain (u : ContentUri) : Prop :=
  '/' ∉ u.corpusId.toList ∧ '/' ∉ u.contentType.toList ∧ '/' ∉ u.contentId.toList

instance : DecidablePred Plain := fun u => by unfold Plain; infer_instance

/-- A text that is the canonical form of a plain URI. -/
def IsPlainText (s : String) : Prop := ∃ u : ContentUri, u.Plain ∧ u.render = s

lemma isPlainText_render {u : ContentUri} (hu : u.Plain) : IsPlainText u.render := ⟨u, hu, rfl⟩

/-! ### Reading a URI back -/

/-- The text of a URI, without its leading slash, cut at its slashes. -/
def parts (u : ContentUri) : List (List Char) :=
  ["corpus".toList, u.corpusId.toList, u.contentType.toList, u.contentId.toList]

lemma toList_render (u : ContentUri) : u.render.toList = '/' :: ['/'].intercalate u.parts := by
  simp [render, parts, List.intercalate]

/-- Only the leading slash of the text of a plain URI is stripped: its content id ends in
something else. -/
lemma stripSlashes_render {u : ContentUri} (hu : u.Plain) (hi : u.contentId ≠ "") :
    stripSlashes u.render = String.ofList (['/'].intercalate u.parts) := by
  obtain ⟨init, x, hx⟩ : ∃ init x, u.contentId.toList = init ++ [x] := by
    rcases List.eq_nil_or_concat u.contentId.toList with h | ⟨init, x, h⟩
    · exact absurd (String.toList_eq_nil_iff.1 h) hi
    · exact ⟨init, x, by simpa using h⟩
  have hx' : x ≠ '/' := fun h => hu.2.2 (by simp [hx, h])
  unfold stripSlashes
  rw [toList_render]
  simp [parts, List.intercalate, hx, hx']

/-- Reading the text of a plain URI with no empty part gives the URI back. -/
theorem parse_render {u : ContentUri} (hu : u.Plain) (hc : u.corpusId ≠ "")
    (ht : u.contentType ≠ "") (hi : u.contentId ≠ "") : parse u.render = .ok u := by
  have hseg : segments (stripSlashes u.render) =
      ["corpus", u.corpusId, u.contentType, u.contentId] := by
    rw [stripSlashes_render hu hi, segments, String.toList_ofList,
      List.splitOn_intercalate '/' ?_ (by simp [parts])]
    · simp [parts]
    · obtain ⟨h₁, h₂, h₃⟩ := hu
      simp [parts, h₁, h₂, h₃]
  unfold parse
  rw [hseg]
  simp [hc, ht, hi]

/-- The text of the id of an edge between two URIs, cut at its slashes. -/
def edgeParts (a b : ContentUri) : List (List Char) :=
  [[], "corpus".toList, a.corpusId.toList, a.contentType.toList, a.contentId.toList ++ ['-'],
    "corpus".toList, b.corpusId.toList, b.contentType.toList, b.contentId.toList]

lemma toList_edgeId_render (a b : ContentUri) :
    (edgeId a.render b.render).toList = ['/'].intercalate (edgeParts a b) := by
  simp [edgeId, render, edgeParts, List.intercalate]

lemma splitOn_edgeId_render {a b : ContentUri} (ha : a.Plain) (hb : b.Plain) :
    (edgeId a.render b.render).toList.splitOn '/' = edgeParts a b := by
  rw [toList_edgeId_render]
  refine List.splitOn_intercalate '/' ?_ (by simp [edgeParts])
  obtain ⟨ha₁, ha₂, ha₃⟩ := ha
  obtain ⟨hb₁, hb₂, hb₃⟩ := hb
  intro l hl
  simp only [edgeParts, List.mem_cons, List.not_mem_nil, or_false] at hl
  rcases hl with rfl | rfl | rfl | rfl | rfl | rfl | rfl | rfl | rfl
  · simp
  · simp
  · exact ha₁
  · exact ha₂
  · simpa using ha₃
  · simp
  · exact hb₁
  · exact hb₂
  · exact hb₃

/-- Between plain URIs, the id of an edge determines its ends. -/
theorem edgeId_render_inj {a b c d : ContentUri} (ha : a.Plain) (hb : b.Plain) (hc : c.Plain)
    (hd : d.Plain) (h : edgeId a.render b.render = edgeId c.render d.render) : a = c ∧ b = d := by
  have hparts := splitOn_edgeId_render ha hb
  rw [h, splitOn_edgeId_render hc hd] at hparts
  simp only [edgeParts, List.cons.injEq, List.append_cancel_right_eq, String.toList_inj,
    true_and, and_true] at hparts
  obtain ⟨h₁, h₂, h₃, h₄, h₅, h₆⟩ := hparts
  cases a
  cases b
  cases c
  cases d
  simp_all

/-- Between texts of plain URIs, the id of an edge determines its ends. -/
theorem edgeId_injective {a b c d : String} (ha : IsPlainText a) (hb : IsPlainText b)
    (hc : IsPlainText c) (hd : IsPlainText d) (h : edgeId a b = edgeId c d) : a = c ∧ b = d := by
  obtain ⟨a', ha', rfl⟩ := ha
  obtain ⟨b', hb', rfl⟩ := hb
  obtain ⟨c', hc', rfl⟩ := hc
  obtain ⟨d', hd', rfl⟩ := hd
  obtain ⟨rfl, rfl⟩ := edgeId_render_inj ha' hb' hc' hd' h
  exact ⟨rfl, rfl⟩

end ContentUri

namespace Server

variable {s : Server} {u : ContentUri}

/-- Every relationship of the server joins two plain URIs. -/
def PlainLinks (s : Server) : Prop := ∀ l ∈ s.links, l.source.Plain ∧ l.target.Plain

instance : DecidablePred PlainLinks := fun s => by unfold PlainLinks; infer_instance

/-- A neighbour of `u` that is an end of a relationship, with an edge between it and `u`, one
way or the other. -/
def Reaching (s : Server) (u : ContentUri) (r : Reach) : Prop :=
  ((r.2.source = u.render ∧ r.2.target = r.1.render) ∨
    (r.2.source = r.1.render ∧ r.2.target = u.render)) ∧
  ∃ l ∈ s.links, l.source = r.1 ∨ l.target = r.1

lemma Reaching.plain {r : Reach} (h : s.Reaching u r) (hs : s.PlainLinks) : r.1.Plain := by
  obtain ⟨-, l, hl, hend⟩ := h
  rcases hend with hend | hend
  · exact hend ▸ (hs l hl).1
  · exact hend ▸ (hs l hl).2

/-! ### Where neighbours come from -/

lemma reaching_directNeighbors : ∀ r ∈ s.directNeighbors u, s.Reaching u r := by
  intro r hr
  obtain ⟨l, hl, hr⟩ := List.mem_filterMap.1 hr
  dsimp only at hr
  by_cases hsrc : l.source = u
  · simp only [hsrc, if_true, Option.map_some, Option.some.injEq] at hr
    subst hr
    exact ⟨.inl ⟨rfl, rfl⟩, l, hl, .inr rfl⟩
  · by_cases htgt : l.target = u
    · simp only [hsrc, htgt, if_true, if_false, Option.map_some, Option.some.injEq] at hr
      subst hr
      exact ⟨.inr ⟨rfl, rfl⟩, l, hl, .inl rfl⟩
    · simp [hsrc, htgt] at hr

/-- A tally of paths counts only the ends it was given. -/
lemma mem_tallyPath {v x : ContentUri} :
    ∀ {acc : List (ContentUri × Nat)}, x ∈ (tallyPath v acc).map Prod.fst →
      x = v ∨ x ∈ acc.map Prod.fst
  | [], h => by simpa [tallyPath] using h
  | (y, n) :: rest, h => by
    unfold tallyPath at h
    split at h
    · simpa using h
    · exact .inr (by simpa using h)
    · simp only [List.map_cons, List.mem_cons] at h
      rcases h with rfl | h
      · simp
      · rcases mem_tallyPath h with rfl | h
        · exact .inl rfl
        · exact .inr (by simp [h])

/-- A collapse replaces proxies by far ends of relationships, reached by an edge from `u`. -/
lemma reaching_applyCollapse {found : List Reach} (hfound : ∀ r ∈ found, s.Reaching u r)
    (c : Collapse) : ∀ r ∈ s.applyCollapse u found c, s.Reaching u r := by
  unfold applyCollapse
  dsimp only
  split
  · exact hfound
  · intro r hr
    rcases List.mem_append.1 hr with hr | hr
    · exact hfound r (List.mem_filter.1 hr).1
    obtain ⟨⟨far, n⟩, hfn, rfl⟩ := List.mem_map.1 hr
    refine ⟨.inl ⟨rfl, rfl⟩, ?_⟩
    -- the far ends are ends of the proxies' relationships: a fold over the proxies, each a
    -- fold over the proxy's direct neighbours
    refine List.foldlRecOn (motive := fun acc : List (ContentUri × Nat) =>
      ∀ x ∈ acc.map Prod.fst, ∃ l ∈ s.links, l.source = x ∨ l.target = x) _ _ (by simp) ?_
      far (List.mem_map_of_mem (f := Prod.fst) hfn)
    intro acc hacc p _
    refine List.foldlRecOn (motive := fun acc : List (ContentUri × Nat) =>
      ∀ x ∈ acc.map Prod.fst, ∃ l ∈ s.links, l.source = x ∨ l.target = x) _ _ hacc ?_
    rintro acc' hacc' ⟨far', e⟩ hfe x hx
    dsimp only at hx
    split at hx
    · rcases mem_tallyPath hx with rfl | hx
      · exact (reaching_directNeighbors _ hfe).2
      · exact hacc' x hx
    · exact hacc' x hx

/-- Every neighbour a query shows is an end of a relationship, with an edge between it and
`u`.

**Proof sketch.** The direct neighbours are; each collapse keeps some of them and adds far
ends with an edge from `u`; grouping, filtering and sorting only choose among them. -/
theorem reaching_visibleNeighbors (q : NetworkQuery) :
    ∀ p ∈ s.visibleNeighbors u q, ∀ r ∈ p.2, s.Reaching u r := by
  have hall : ∀ r ∈ q.collapses.foldl (s.applyCollapse u) (s.directNeighbors u),
      s.Reaching u r :=
    List.foldlRecOn (motive := fun found : List Reach => ∀ r ∈ found, s.Reaching u r) _ _
      (fun r hr => reaching_directNeighbors r hr) fun found hfound c _ =>
        reaching_applyCollapse hfound c
  intro p hp r hr
  unfold visibleNeighbors at hp
  obtain ⟨⟨ct, xs⟩, hxs, rfl⟩ := List.mem_map.1 hp
  -- the groups only ever take neighbours of the list they are built from
  refine List.foldlRecOn (motive := fun acc : StrMap (List Reach) × List ContentUri =>
    ∀ p ∈ acc.1, ∀ r ∈ p.2, s.Reaching u r) _ _ (by simp) ?_ _ hxs r (List.mem_mergeSort.1 hr)
  rintro ⟨g, seen⟩ hg ⟨n, e⟩ hne p hp r hr
  dsimp only at hp
  split at hp
  · exact hg p hp r hr
  · rcases StrMap.mem_insert_cases hp with rfl | hp
    · rcases List.mem_append.1 hr with hr | hr
      · cases hlook : g.lookup n.contentType with
        | none => simp [hlook] at hr
        | some xs =>
          rw [hlook, Option.getD_some] at hr
          exact hg _ (StrMap.mem_of_lookup hlook) r hr
      · rw [List.mem_singleton.1 hr]
        exact hall _ hne
    · exact hg p hp r hr

/-- Only the hidden types, the target type, the view filters and the collapses of a query
choose which neighbours it shows. -/
lemma visibleNeighbors_congr {q q' : NetworkQuery} (hc : q.collapses = q'.collapses)
    (hh : q.hidden = q'.hidden) (hf : q.filters = q'.filters) (ht : q.targetType = q'.targetType) :
    s.visibleNeighbors u q = s.visibleNeighbors u q' := by
  have hadmits : s.admits q = s.admits q' := by
    funext n
    simp only [admits, hh, hf, ht]
  simp only [visibleNeighbors, hc, hadmits]

/-! ### The answer -/

/-- The neighbours an answer from `skip` holds: from each group, the positions `skip` to
`skip + limit`. -/
def window (s : Server) (u : ContentUri) (q : NetworkQuery) : List Reach :=
  (s.visibleNeighbors u q).flatMap fun (_, xs) => (xs.drop q.skip).take q.limit

lemma nodes_neighborhood (q : NetworkQuery) (hq : q.metaOnly = false) :
    (s.neighborhood u q).nodes = s.nodeOf u :: (s.window u q).map fun r => s.nodeOf r.1 := by
  simp [neighborhood, hq, window]

lemma edges_neighborhood (q : NetworkQuery) (hq : q.metaOnly = false) :
    (s.neighborhood u q).edges = (s.window u q).map Prod.snd := by
  simp [neighborhood, hq, window]

/-- The neighbour at a position in its group from `skip` to `skip + limit` is in the answer. -/
lemma mem_window {q : NetworkQuery} {ct : String} {xs : List Reach}
    (hp : (ct, xs) ∈ s.visibleNeighbors u q) {i : Nat} (hi : i < xs.length) (hlo : q.skip ≤ i)
    (hhi : i < q.skip + q.limit) : xs[i] ∈ s.window u q := by
  refine List.mem_flatMap.2 ⟨(ct, xs), hp, ?_⟩
  have hlen : i - q.skip < ((xs.drop q.skip).take q.limit).length := by
    simp only [List.length_take, List.length_drop]
    omega
  have hget : ((xs.drop q.skip).take q.limit)[i - q.skip] = xs[i] := by
    simp only [List.getElem_take, List.getElem_drop]
    congr 1
    omega
  rw [← hget]
  exact List.getElem_mem hlen

lemma reaching_window (q : NetworkQuery) : ∀ r ∈ s.window u q, s.Reaching u r := by
  intro r hr
  obtain ⟨⟨ct, xs⟩, hp, hr⟩ := List.mem_flatMap.1 hr
  exact reaching_visibleNeighbors q _ hp r (List.mem_of_mem_drop (List.mem_of_mem_take hr))

/-- An answer holds the node asked about and the node of every neighbour in its window. -/
lemma nodeOf_mem_neighborhood {q : NetworkQuery} (hq : q.metaOnly = false) :
    s.nodeOf u ∈ (s.neighborhood u q).nodes ∧
      ∀ r ∈ s.window u q, s.nodeOf r.1 ∈ (s.neighborhood u q).nodes := by
  rw [nodes_neighborhood q hq]
  exact ⟨List.mem_cons_self, fun r hr => List.mem_cons_of_mem _ (List.mem_map_of_mem hr)⟩

/-- On a server whose relationships join plain URIs, every node of an answer about a plain URI
is a plain URI. -/
lemma plain_nodes_neighborhood (hs : s.PlainLinks) (hu : u.Plain) (q : NetworkQuery) :
    ∀ nd ∈ (s.neighborhood u q).nodes, ContentUri.IsPlainText nd.id := by
  cases hq : q.metaOnly
  · rw [nodes_neighborhood q hq]
    intro nd hnd
    rcases List.mem_cons.1 hnd with rfl | hnd
    · exact ContentUri.isPlainText_render hu
    · obtain ⟨r, hr, rfl⟩ := List.mem_map.1 hnd
      exact ContentUri.isPlainText_render ((reaching_window q r hr).plain hs)
  · simp [neighborhood, hq]

/-- On a server whose relationships join plain URIs, every edge of an answer about a plain URI
joins two plain URIs. -/
lemma plain_edges_neighborhood (hs : s.PlainLinks) (hu : u.Plain) (q : NetworkQuery) :
    ∀ ed ∈ (s.neighborhood u q).edges,
      ContentUri.IsPlainText ed.source ∧ ContentUri.IsPlainText ed.target := by
  cases hq : q.metaOnly
  case true => simp [neighborhood, hq]
  rw [edges_neighborhood q hq]
  intro ed hed
  obtain ⟨r, hr, rfl⟩ := List.mem_map.1 hed
  have hreach := reaching_window q r hr
  have hr1 := ContentUri.isPlainText_render (hreach.plain hs)
  rcases hreach.1 with ⟨hsrc, htgt⟩ | ⟨hsrc, htgt⟩
  · exact ⟨hsrc ▸ ContentUri.isPlainText_render hu, htgt ▸ hr1⟩
  · exact ⟨hsrc ▸ hr1, htgt ▸ ContentUri.isPlainText_render hu⟩

/-! ### Logging changes no answer -/

@[simp] lemma neighborhood_record (more : List Call) (q : NetworkQuery) :
    (s.record more).neighborhood u q = s.neighborhood u q := rfl

@[simp] lemma visibleNeighbors_record (more : List Call) (q : NetworkQuery) :
    (s.record more).visibleNeighbors u q = s.visibleNeighbors u q := rfl

@[simp] lemma failing_record (more : List Call) : (s.record more).failing = s.failing := rfl

@[simp] lemma networkDelay_record (more : List Call) :
    (s.record more).networkDelay = s.networkDelay := rfl

@[simp] lemma links_record (more : List Call) : (s.record more).links = s.links := rfl

end Server

end CorpusBench
