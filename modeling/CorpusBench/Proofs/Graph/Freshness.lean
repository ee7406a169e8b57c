import CorpusBench.Proofs.Graph.PlainIds
import CorpusBench.Proofs.Content.RoundTrip
import CorpusBench.Proofs.Concurrent.Rely

/-!
# A reset drops the answers asked for before it

A sprawl reads the explorer, builds its request from the settings it finds, and waits for the
answer; other programs run meanwhile, and one of them may reset the explorer and change its
settings.  When the answer comes, the sprawl reads the generation again and merges only if it
has not moved, and a dropped answer leads to no resprawl and no child sprawl
(`World.poll_mergeAnswer_stale`).  So the plot is always drawn from answers to logged requests
carrying the settings in force (`World.DrawnFrom`); and since every answer is about a plain URI,
on a server whose relationships join plain URIs the ids the model takes stay plain.

The argument is one of rely and guarantee (`Proc.Steps`).  Between two points where
the scheduler may switch, every program leaves the plot drawn from such answers, and moves the
explorer on by `World.Later`: the generation does not go back, while it stays the settings
stay, and the server's log only grows.  A change of settings guarantees this because it resets in the same stretch.  A
sprawl relies on it: what it read of the settings before its wait still holds after the wait
whenever the generation is the same.

## Main definitions

* `Explorer.Later` — the explorer moved on, changing its settings only with its
  generation.
* `World.DrawnFrom` — the plot is drawn from the answers a server gives to logged requests
  carrying the explorer's settings.
* `World.mergeAnswer` — what the body of a sprawl does with an answer.

## Main results

* `World.sprawlCounted_eq` — the body of a sprawl hands the answer on with the generation it
  read when it built the request.
* `World.poll_mergeAnswer_stale` — a stale answer ends the sprawl at once, leaving the world as
  it is.
* `World.steps_sprawlCounted` — the body of a sprawl drops a stale answer and
  merges a fresh one.
* `World.stepsRules`, `World.steps_changeAndReset` — every program of the explorer keeps its
  promises.
-/

namespace CorpusBench

namespace Explorer

variable {e e' e'' : Explorer}

/-- `e'` is `e` or a later state of it: its generation is not lower, and in the same generation
it has the same settings. -/
def Later (e e' : Explorer) : Prop :=
  e.generation ≤ e'.generation ∧ (e'.generation = e.generation → e'.settings = e.settings)

lemma Later.refl (e : Explorer) : e.Later e := ⟨le_rfl, fun _ => rfl⟩

lemma Later.trans (h₁ : e.Later e') (h₂ : e'.Later e'') : e.Later e'' := by
  refine ⟨h₁.1.trans h₂.1, fun hg => ?_⟩
  -- the generation did not move in between, so neither did the settings
  have hg' : e'.generation = e.generation := le_antisymm (hg ▸ h₂.1) h₁.1
  exact (h₂.2 (hg.trans hg'.symm)).trans (h₁.2 hg')

lemma Within.later (h : e'.Within e) : e.Later e' :=
  ⟨h.generation.ge, fun _ => h.settings⟩

lemma SettingsSorted.of_settings (hs : e.SettingsSorted) (h : e'.settings = e.settings) :
    e'.SettingsSorted := by
  have hh : e'.hiddenTypes = e.hiddenTypes := congrArg Settings.hidden h
  have hf : e'.filterViews = e.filterViews := congrArg Settings.filters h
  exact ⟨hh ▸ hs.hidden, hf ▸ hs.filters⟩

/-- `e'` plots nothing that `e` does not, has its generation and settings, is well formed when
`e` is, and has a plain graph when `e` is well formed with a plain graph. -/
structure Narrows (e' e : Explorer) : Prop where
  within : e'.Within e
  wellFormed : e.WellFormed → e'.WellFormed
  plain : e.WellFormed → e.PlainGraph → e'.PlainGraph

/-- A change of what the plot does not show narrows nothing. -/
lemma Narrows.of_eq (hm : e'.model = e.model) (hx : e'.excluded = e.excluded)
    (hg : e'.generation = e.generation) (hs : e'.settings = e.settings) : e'.Narrows e where
  within := ⟨hm ▸ .refl _, hg, hs⟩
  wellFormed h := ⟨hm ▸ h.model, hm ▸ hx ▸ h.excluded_unplotted⟩
  plain _ h := ⟨hm ▸ h.wellFormed, hm ▸ h.nodes, hm ▸ hx ▸ h.ids⟩

lemma Narrows.settle {s : LinkScale} {r : SettleReport} (h : e.settle s = .ok (r, e')) :
    e'.Narrows e :=
  ⟨Within.settle h, fun hw => hw.settle h, fun _ hp => hp.settle h⟩

lemma Narrows.extrude {uri : String} {isolated : Bool} {s : LinkScale} {removed : List String}
    (h : e.extrude uri isolated s = .ok (removed, e')) : e'.Narrows e :=
  ⟨Within.extrude h, fun hw => hw.extrude h, fun _ hp => hp.extrude h⟩

end Explorer

namespace World

/-- The explorer of `w'` is that of `w` or a later state of it, and the log of `w'`'s server
holds every request logged by `w`'s. -/
def Later (w w' : World Server) : Prop :=
  w.explorer.Later w'.explorer ∧ w.source.calls ⊆ w'.source.calls

lemma Later.trans {w w' w'' : World Server} (h₁ : Later w w') (h₂ : Later w' w'') : Later w w'' :=
  ⟨h₁.1.trans h₂.1, List.Subset.trans h₁.2 h₂.2⟩

instance : IsPreorder (World Server) Later where
  refl w := ⟨Explorer.Later.refl w.explorer, List.Subset.refl _⟩
  trans _ _ _ := Later.trans

/-- The plot of `w` is drawn from the answers `s` gives to requests in the log of `w`'s server,
about plain URIs and carrying the explorer's settings; the server of `w` answers as `s` does;
the settings are sorted; the explorer is well formed, and when the relationships of `s` join
plain URIs, the ids its model has taken are plain. -/
structure DrawnFrom (s : Server) (w : World Server) : Prop where
  answers : w.source.neighborhood = s.neighborhood
  sorted : w.explorer.SettingsSorted
  sourced : w.explorer.model.Sourced (s.AnswersUnder w.explorer.settings w.source.calls)
  wellFormed : w.explorer.WellFormed
  plainIds : s.PlainLinks → w.explorer.model.PlainIds w.explorer.excluded

/-! ### What a sprawl does with an answer -/

section Answer

variable {σ : Type} (src : NeighborSource σ) (cfg : ExplorerConfig)

/-- What the body of a sprawl does with an answer to the request it built, from the page at
`skip`, when the explorer was in generation `generation`: it drops the answer when the
generation has moved since, and otherwise merges it, resprawls when the merge asks for it, and
sprawls the new nodes of a sprawl with children. -/
def mergeAnswer (depth : Nat) (uri : String) (o : SprawlOptions) (skip generation : Nat)
    (answer : Neighborhood) : Proc (World σ) (Except ClientError SprawlOutcome) := do
  let e ← explorerNow
  if e.generation != generation then return .ok {}
  let m ← onExplorerOrAbort (·.merge uri answer skip o cfg.maxResprawls)
  let mut outcome : SprawlOutcome := { nodesAdded := m.nodesAdded, edgesAdded := m.edgesAdded }
  if m.resprawl then
    match ← sprawl src cfg depth uri { o with skip := none, resprawl := o.resprawl + 1 } with
    | .ok more => outcome := { outcome.absorb more with resprawls := (outcome.absorb more).resprawls + 1 }
    | .error _ => pure ()
  if o.sprawlChildren && !m.newUris.isEmpty then
    let results ← Proc.joinAll (m.newUris.map fun c => sprawl src cfg depth c {})
    outcome := absorbChildren outcome results
  return .ok outcome

/-- The body of a sprawl reads the explorer, builds its request from it, and hands the answer on
with the generation it read then. -/
lemma sprawlCounted_eq (depth : Nat) (uri : String) (target : ContentUri) (o : SprawlOptions) :
    sprawlCounted src cfg depth uri target o = (do
      let e ← explorerNow
      if e.excluded.contains uri then return .ok {}
      let skip := o.skip.getD (((e.model.node? uri).map (·.skip)).getD 0)
      match ← fetchNeighborhood src cfg uri target (e.query skip o) with
      | .error err => return .error err
      | .ok answer => mergeAnswer src cfg depth uri o skip e.generation answer) := by
  rw [sprawlCounted]
  rfl

/-- An answer that comes after the generation has moved ends the sprawl at once, with nothing
merged, no resprawl and no child, and leaves the world as it is. -/
lemma poll_mergeAnswer_stale (depth : Nat) (uri : String) (o : SprawlOptions)
    (skip generation : Nat) (answer : Neighborhood) (now : Nat) {w : World σ}
    (h : w.explorer.generation ≠ generation) :
    Proc.poll now (mergeAnswer src cfg depth uri o skip generation answer) w =
      (.done (.ok {}), w, true) := by
  simp [mergeAnswer, explorerNow, Proc.gets, bind, Proc.bind, pure, Proc.poll, h]

end Answer

variable {s : Server} {w : World Server}

/-! ### Atomic steps -/

namespace DrawnFrom

/-- On a server whose relationships join plain URIs, the graph is plain: its nodes are nodes of
answers about plain URIs. -/
lemma plainGraph (hw : DrawnFrom s w) (hs : s.PlainLinks) : w.explorer.PlainGraph := by
  refine ⟨hw.wellFormed.model, fun x hx => ?_, hw.plainIds hs⟩
  obtain ⟨_, ⟨u, q, hu, -, -, rfl⟩, nd, hnd, rfl⟩ := hw.sourced.node x hx
  exact Server.plain_nodes_neighborhood hs hu q nd hnd

/-- A change of the explorer that plots nothing new. -/
lemma narrows (hw : DrawnFrom s w) {e : Explorer} (he : e.Narrows w.explorer) :
    DrawnFrom s { w with explorer := e } ∧ Later w { w with explorer := e } := by
  refine ⟨⟨hw.answers, hw.sorted.of_settings he.within.settings, ?_, he.wellFormed hw.wellFormed,
    fun hs => (he.plain hw.wellFormed (hw.plainGraph hs)).ids⟩, he.within.later, List.Subset.refl _⟩
  show e.model.Sourced (s.AnswersUnder e.settings w.source.calls)
  rw [he.within.settings]
  exact hw.sourced.within he.within.model

/-- A change of the server that keeps its answers and its log. -/
lemma source (hw : DrawnFrom s w) {server : Server}
    (h : server.neighborhood = s.neighborhood) (hcalls : w.source.calls ⊆ server.calls) :
    DrawnFrom s { w with source := server } :=
  ⟨h, hw.sorted, hw.sourced.mono fun _ ⟨u, q, hu, hq, hc, hn⟩ => ⟨u, q, hu, hq, hcalls hc, hn⟩,
    hw.wellFormed, hw.plainIds⟩

/-- Merging an answer `s` gives to a request carrying the settings in force. -/
lemma merge (hw : DrawnFrom s w) {uri : String} {answer : Neighborhood} {skip : Nat}
    {o : SprawlOptions} {maxR : Nat} {r : Merged} {e : Explorer}
    (hm : w.explorer.merge uri answer skip o maxR = .ok (r, e))
    (hA : s.AnswersUnder w.explorer.settings w.source.calls answer) :
    DrawnFrom s { w with explorer := e } ∧ Later w { w with explorer := e } := by
  obtain ⟨hg, hset⟩ := Explorer.merge_keeps hm
  -- an answer about a plain URI joins plain URIs, so the ids stay plain
  have hplain : s.PlainLinks → e.model.PlainIds e.excluded := fun hs => by
    obtain ⟨u, q, hu, -, -, rfl⟩ := hA
    exact (Explorer.mergedInto_of_merge hw.wellFormed (hw.plainIds hs)
      (Server.plain_edges_neighborhood hs hu q) hm).plainIds
  refine ⟨⟨hw.answers, hw.sorted.of_settings hset, ?_, hw.wellFormed.merge hm, hplain⟩,
    ⟨hg.ge, fun _ => hset⟩, List.Subset.refl _⟩
  show e.model.Sourced (s.AnswersUnder e.settings w.source.calls)
  rw [hset]
  exact Explorer.sourced_merge hm hw.sourced hA

/-- Clearing the plot for a new generation, with settings that are sorted. -/
lemma clear (hw : DrawnFrom s w) {e : Explorer} (hs : e.SettingsSorted)
    (hg : e.generation = w.explorer.generation) :
    DrawnFrom s { w with explorer :=
      { e with model := {}, legend := {}, generation := e.generation + 1 } } ∧
    Later w { w with explorer :=
      { e with model := {}, legend := {}, generation := e.generation + 1 } } := by
  refine ⟨⟨hw.answers, ⟨hs.hidden, hs.filters⟩, GraphModel.Sourced.empty _,
    ⟨GraphModel.WellFormed.empty, fun _ _ => rfl⟩, fun _ => GraphModel.PlainIds.empty _⟩,
    ⟨?_, ?_⟩, List.Subset.refl _⟩
  · show w.explorer.generation ≤ e.generation + 1
    omega
  · intro h
    change e.generation + 1 = w.explorer.generation at h
    omega

end DrawnFrom

/-- A neighbourhood request to the in-memory server is answered within the poll that asks it:
it is logged, and the answer is the server's neighbourhood unless the URI fails. -/
lemma instant_ask_networkAnswer (u : ContentUri) (q : NetworkQuery) :
    Proc.Instant (ask (Server.networkAnswer u q)) w := by
  unfold ask
  refine (Proc.instant_zoom (fun _ _ => rfl) _ w).2 ?_
  unfold Server.networkAnswer Server.logged
  refine Proc.Instant.bind (Proc.instant_modify _ _) fun _ _ =>
    Proc.Instant.bind (Proc.instant_get _) fun _ _ => ?_
  split <;> trivial

lemma wp_ask_networkAnswer (u : ContentUri) (q : NetworkQuery) :
    Proc.wp (ask (Server.networkAnswer u q)) (fun r w' =>
      w' = { w with source := w.source.log "network_json" u.render q.toPairs } ∧
        ∀ n, r.1 = .ok n → n = w.source.neighborhood u q) w := by
  unfold ask
  refine (Proc.wp_zoom ?_ ?_ ?_ _ _ w).2 ?_
  · intros; rfl
  · intros; rfl
  · intros; rfl
  unfold Server.networkAnswer Server.logged
  simp only [Proc.wp_bind, Proc.wp_modify, Proc.wp_get]
  split
  · exact ⟨rfl, fun _ h => by cases h⟩
  · exact ⟨rfl, fun _ h => by cases h; rfl⟩

/-! ### Programs keep their promises -/

/-- Keeping promises holds of answers and survives sequencing and running side by side. -/
lemma steps_closed {σ : Type} {I : World σ → Prop} {R : World σ → World σ → Prop}
    [IsPreorder (World σ) R] : Closed (Proc.Steps I R) where
  pure := .pure
  bind hp hk := hp.bind hk
  joinAll := Proc.Steps.joinAll

section Steps

variable (s)

lemma steps_onExplorer {α : Type} {f : Explorer → α × Explorer}
    (hf : ∀ e, (f e).2.Narrows e) :
    Proc.Steps (DrawnFrom s) Later (onExplorer f : Proc (World Server) α) :=
  Proc.Steps.modifyGet fun w hw => hw.narrows (hf w.explorer)

variable {s}

/-- A change that may abort, from a settled point of a stretch. -/
lemma stepsFrom_onExplorerOrAbort {α : Type} {f : Explorer → Except Abort (α × Explorer)}
    {w₀ : World Server} (settles : Proc.Settles (DrawnFrom s) Later w₀ w)
    (hf : ∀ a e, f w.explorer = .ok (a, e) →
      DrawnFrom s { w with explorer := e } ∧ Later w { w with explorer := e }) :
    Proc.StepsFrom (DrawnFrom s) Later (fun _ => Proc.Settles (DrawnFrom s) Later) w₀ w
      (onExplorerOrAbort f) := by
  unfold onExplorerOrAbort
  refine .read ?_
  dsimp only [Proc.bind]
  split
  · next a e he => exact .write (.done a (settles.trans (hf a e he)))
  · next h _ => exact .halt h settles

variable (s)

lemma steps_onExplorerOrAbort {α : Type} {f : Explorer → Except Abort (α × Explorer)}
    (hf : ∀ e a e', f e = .ok (a, e') → e'.Narrows e) :
    Proc.Steps (DrawnFrom s) Later (onExplorerOrAbort f : Proc (World Server) α) :=
  fun w hw => stepsFrom_onExplorerOrAbort (Proc.Settles.refl hw) fun a e he =>
    hw.narrows (hf w.explorer a e he)

variable (cfg : ExplorerConfig)

/-- Where a request for the neighbourhood of `target`, asked at `w`, ends with `r`: at a
settled point of the stretch from `w₁` to `w₂`, reached by `Later` from `w`, and with the answer
`s` gives, if it returns one, to a request in the log. -/
def Fetched (w : World Server) (target : ContentUri) (q : NetworkQuery)
    (r : Except ClientError Neighborhood) (w₁ w₂ : World Server) : Prop :=
  Proc.Settles (DrawnFrom s) Later w₁ w₂ ∧ Later w w₂ ∧ ∀ n, r = .ok n →
    n = s.neighborhood target q ∧ ⟨"network_json", target.render, q.toPairs⟩ ∈ w₂.source.calls

variable {s} in
/-- A neighbourhood request, asked at a settled point of the stretch that started at `w₀`, ends
as `Fetched` says, whether its answer came at once or after a wait. -/
lemma stepsFrom_fetchNeighborhood {w₀ : World Server}
    (settles : Proc.Settles (DrawnFrom s) Later w₀ w) (uri : String) (target : ContentUri)
    (q : NetworkQuery) :
    Proc.StepsFrom (DrawnFrom s) Later (Fetched s w target q) w₀ w
      (fetchNeighborhood Server.networkAnswer cfg uri target q) := by
  unfold fetchNeighborhood
  refine Proc.StepsFrom.instant_bind (instant_ask_networkAnswer target q) ?_
  refine Proc.wp_mono ?_ _ _ (wp_ask_networkAnswer target q)
  rintro ⟨answer, delay⟩ w₁ ⟨hw₁, hans⟩
  -- logging the request keeps the server's answers and adds the request to its log
  have hlater : Later w w₁ := by
    rw [hw₁]
    exact ⟨Explorer.Later.refl _, List.subset_append_left _ _⟩
  have hlogged : ⟨"network_json", target.render, q.toPairs⟩ ∈ w₁.source.calls := by
    rw [hw₁]
    exact List.mem_append_right _ (List.mem_singleton_self _)
  have h₁ : Proc.Settles (DrawnFrom s) Later w₀ w₁ := by
    refine ⟨?_, Later.trans settles.2 hlater⟩
    rw [hw₁]
    exact settles.1.source settles.1.answers (List.subset_append_left _ _)
  have hs : ∀ n, answer = .ok n → n = s.neighborhood target q := fun n hn =>
    (hans n hn).trans (congrFun (congrFun settles.1.answers target) q)
  -- the answer, if any, comes from a request in the log, however long the wait
  have hfrom : ∀ {w'} (r : Except ClientError Neighborhood), Later w₁ w' →
      (∀ n, r = .ok n → n = s.neighborhood target q) → ∀ n, r = .ok n →
        n = s.neighborhood target q ∧ ⟨"network_json", target.render, q.toPairs⟩ ∈ w'.source.calls :=
    fun r hR hr n hn => ⟨hr n hn, hR.2 hlogged⟩
  have hwait : ∀ (ms : Nat) (r : Except ClientError Neighborhood),
      (∀ n, r = .ok n → n = s.neighborhood target q) →
      Proc.StepsFrom (DrawnFrom s) Later (Fetched s w target q) w₀ w₁
        (Proc.pause ms >>= fun _ => pure r) := fun ms r hr =>
    .sleep h₁ fun w' hw' hR => .done r ⟨Proc.Settles.refl hw', Later.trans hlater hR, hfrom r hR hr⟩
  have hnow : ∀ (r : Except ClientError Neighborhood), (∀ n, r = .ok n → n = s.neighborhood target q) →
      Proc.StepsFrom (DrawnFrom s) Later (Fetched s w target q) w₀ w₁ (.done r) := fun r hr =>
    .done r ⟨h₁, hlater, hfrom r (refl _) hr⟩
  dsimp only
  split
  · exact hnow _ fun _ h => by cases h
  · next n d =>
    split
    · exact hwait _ _ fun _ h => by cases h
    · split
      · exact hnow _ fun n' h => by cases h; exact hs n rfl
      · exact hwait _ _ fun n' h => by cases h; exact hs n rfl
  · next n => exact hnow _ fun n' h => by cases h; exact hs n rfl

/-- The body of a sprawl keeps its promises when the sprawls it starts do.

**Proof sketch.** The request carries the settings of the explorer as read before it.  After
the answer, the generation is read again.  A stale answer is dropped, and the body ends there.
If the generation is the same, `Later` says the settings are the same too, so the answer is one
`s` gives to a request carrying the settings in force, and merging it keeps the plot drawn from
such answers (`DrawnFrom.merge`).  The resprawl and the children are sprawls. -/
lemma steps_sprawlCounted {depth : Nat}
    (ih : ∀ uri o, Proc.Steps (DrawnFrom s) Later (sprawl Server.networkAnswer cfg depth uri o))
    (uri : String) (target : ContentUri) (o : SprawlOptions)
    (htarget : ContentUri.parse uri = .ok target) :
    Proc.Steps (DrawnFrom s) Later (sprawlCounted Server.networkAnswer cfg depth uri target o) := by
  intro w hw
  unfold sprawlCounted
  dsimp only
  refine Proc.StepsFrom.gets_bind ?_
  split
  · -- an excluded node is not asked for
    exact .done _ (Proc.Settles.refl hw)
  refine Proc.StepsFrom.bind ?_ _ w w
    (stepsFrom_fetchNeighborhood cfg (Proc.Settles.refl hw) uri target _)
  rintro r w₁ w₂ ⟨settles, hlater, hans⟩
  split
  · -- the request failed or timed out
    exact .done _ settles
  next answer =>
  refine Proc.StepsFrom.gets_bind ?_
  split
  · -- the answer is stale: it is dropped, with no resprawl and no child
    exact .done _ settles
  next hgen =>
  -- the generation has not moved since the request, so neither have the settings
  have hset : w₂.explorer.settings = w.explorer.settings :=
    hlater.1.2 (by simpa using hgen)
  obtain ⟨hn, hlogged⟩ := hans answer rfl
  refine Proc.StepsFrom.bind (fun m _ _ h => Proc.StepsFrom.of_steps ?_ h) _ w₁ w₂
    (stepsFrom_onExplorerOrAbort settles fun _ e he => settles.1.merge he
      ⟨target, _, ContentUri.plain_of_parse htarget, by rw [Explorer.settings_query, hset],
        hlogged, hn.symm⟩)
  have hchildren := steps_closed.children_of ih m.newUris
  split
  · refine (ih uri _).bind fun r => ?_
    split
    · exact hchildren _ _ _
    · exact hchildren _ _ _
  · exact hchildren _ _ _

/-- Every program of the explorer keeps its promises: the changes of the pending count and the
seeds plot nothing new, the settle pass plots within the plot, and clearing the plot moves the
generation on. -/
lemma stepsRules : Rules Server.networkAnswer cfg (Proc.Steps (DrawnFrom s) Later) where
  toClosed := steps_closed
  counted hp hk := (steps_onExplorer s fun _ => .of_eq rfl rfl rfl rfl).bind fun _ =>
    hp.bind fun a => (steps_onExplorer s fun _ => .of_eq rfl rfl rfl rfl).bind (hk a)
  body ih uri target o htarget := steps_sprawlCounted s cfg ih uri target o htarget
  settlePass := steps_onExplorerOrAbort s fun _ _ _ h => Explorer.Narrows.settle h
  quiescence := Proc.Steps.waitFor _
  addSeeds _ := steps_onExplorer s fun _ => .of_eq rfl rfl rfl rfl
  clear := Proc.Steps.modifyGet fun _ hw => hw.clear hw.sorted rfl

variable {s} in
/-- A reset, started in the middle of a stretch: the plot is cleared in the same stretch, and
the rest starts from there. -/
lemma stepsFrom_resetGraph {w₀ : World Server}
    (hclear : Proc.Settles (DrawnFrom s) Later w₀ { w with explorer :=
      { w.explorer with model := {}, legend := {}, generation := w.explorer.generation + 1 } }) :
    Proc.StepsFrom (DrawnFrom s) Later (fun _ => Proc.Settles (DrawnFrom s) Later) w₀ w
      (resetGraph Server.networkAnswer cfg) := by
  unfold resetGraph
  exact Proc.StepsFrom.modifyGet_bind
    (Proc.StepsFrom.of_steps ((stepsRules s cfg).sprawlAndSettle_of _) hclear)

/-- A change of settings keeps its promises: when it changes anything, the reset clears the
plot and moves the generation on in the same stretch; when it changes nothing, the settings
stay. -/
lemma steps_changeAndReset {change : Explorer → Bool × Explorer}
    (hc : Explorer.SettingsChange change) :
    Proc.Steps (DrawnFrom s) Later (changeAndReset Server.networkAnswer cfg change) := by
  intro w hw
  unfold changeAndReset
  refine Proc.StepsFrom.modifyGet_bind ?_
  dsimp only
  split
  · -- the change and the clearing of the plot make one stretch
    have hclear := hw.clear (hc.sorted _ hw.sorted) (hc.generation _)
    refine Proc.StepsFrom.bind (fun r _ _ h => ?_) _ w _ (stepsFrom_resetGraph cfg hclear)
    split <;> exact .done _ h
  · next hchanged =>
    have hsame := hc.unchanged _ hw.sorted (by simpa using hchanged)
    exact .done _ (hw.narrows (.of_eq (hc.model _) (hc.excluded _) (hc.generation _) hsame))

end Steps

end World

end CorpusBench
