import CorpusBench.Proofs.Graph.Freshness
import CorpusBench.Proofs.Command.Explorer

/-!
# The explorer command plots only answers to requests under the settings in force

A sprawl builds its request from the explorer it reads and remembers the generation; when the
answer comes, it merges it only if the generation has not moved, and a stale answer ends the
sprawl at once, with no resprawl and no child (`World.sprawlCounted_eq`,
`World.poll_mergeAnswer_stale`).  Every step of the `explorer` command but the change of the
page size keeps the promises the programs of the explorer keep (`World.stepsRules`): between
two switches of the scheduler it leaves the plot drawn from the server's answers to logged
requests carrying the settings in force, and it changes the settings only together with the
generation.  So in every configuration the command reaches over a server whose answers stay the
same, whatever the interleaving of sprawls, expansions, resets and changes of collapses, hidden
types and filters, every node and every edge on screen lies in the answer to a request the
server logged, which carried the hidden types, collapses, view filters and page size in force.

## Main definitions

* `Command.Explore.ReachableOver` — the configurations over a server whose answers
  stay those of a given server, with the page size fixed.

## Main results

* `Command.Explore.steps_plainStep` — every step but the change of the page size keeps its
  promises.
* `Command.Explore.ReachableOver.relied` — every reachable configuration is relied.
* `Command.Explore.plot_from_settings_in_force`.
-/

namespace CorpusBench

namespace Command

namespace Explore

/-! ### Steps -/

/-- A change without the server plots nothing new, keeps the generation and the settings, and
keeps the graph well formed and plain. -/
lemma LocalChange.narrows {e e' : Explorer} (h : LocalChange e e') : e'.Narrows e := by
  obtain ⟨_, _, _, _, rfl⟩ := h.frame
  refine ⟨⟨.of_subset h.nodes fun _ hp => h.edges ▸ hp, rfl, rfl⟩, h.wellFormed, fun hw hp => ?_⟩
  exact ⟨(h.wellFormed hw).model, fun u hu => hp.nodes u (h.nodes u hu),
    hp.ids.of_edges h.edges h.folded⟩

section Steps

variable (s : Server) (cfg : ExplorerConfig)

/-- Every step but the change of the page size keeps its promises: the server-side operations
are the programs of `World`, the six changes of settings are `Explorer.SettingsChange`s that
reset, and the others change the records of nodes, the panes or nothing. -/
lemma stepsRules : StepRules cfg (Proc.Steps (World.DrawnFrom s) World.Later) where
  toRules := World.stepsRules s cfg
  gets := Proc.Steps.gets
  changing_of hf := by
    refine Proc.Steps.modifyGet fun w hw => ?_
    split
    · next v e he => exact hw.narrows (hf _ _ _ he).narrows
    · exact ⟨hw, refl _⟩
  resets hc := World.steps_changeAndReset s cfg (Explorer.settingsChange_of_edit hc)
  extrude _ _ := World.steps_onExplorerOrAbort s fun _ _ _ hx => Explorer.Narrows.extrude hx

/-- Every step that does not change the page size keeps its promises. -/
lemma steps_plainStep (req : Json) (hop : Args.str req "op" ≠ .ok "set_per_type_limit") :
    Proc.Steps (World.DrawnFrom s) World.Later (stepProgram cfg 0 req) := by
  unfold stepProgram
  split
  · contradiction
  · exact (stepsRules s cfg).map _ ((stepsRules s cfg).plainStep_of req fun h => absurd h hop)

end Steps

/-! ### Reachable configurations over a server -/

/-- The configurations of an explorer over a server that answers every neighbourhood request
as `s` does: from a fresh explorer, any step but a change of the page size may start at any
time, any step in flight may take its next atomic step at any instant, and the server may
change in between in every way that keeps its answers and its log of requests (which URIs fail,
how long answers take, the requests it logs besides). -/
inductive ReachableOver (cfg : ExplorerConfig) (s : Server) :
    World Server → List (Proc (World Server) Json) → Prop
  /-- A fresh explorer. -/
  | start (server : Server) (h : server.neighborhood = s.neighborhood) :
      ReachableOver cfg s ⟨Explorer.start cfg, server⟩ []
  /-- The server changes, keeping its answers and its log. -/
  | serve {w : World Server} {ps : List (Proc (World Server) Json)} (server : Server)
      (h : server.neighborhood = s.neighborhood) (hcalls : w.source.calls ⊆ server.calls) :
      ReachableOver cfg s w ps → ReachableOver cfg s { w with source := server } ps
  /-- A step starts. -/
  | begin {w : World Server} {ps : List (Proc (World Server) Json)} (req : Json)
      (hop : Args.str req "op" ≠ .ok "set_per_type_limit") :
      ReachableOver cfg s w ps → ReachableOver cfg s w (stepProgram cfg 0 req :: ps)
  /-- A step in flight takes its next atomic step, at any instant. -/
  | poll {w : World Server} {pre post : List (Proc (World Server) Json)}
      {p : Proc (World Server) Json} (now : Nat) :
      ReachableOver cfg s w (pre ++ p :: post) →
      ReachableOver cfg s (Proc.poll now p w).2.1 (pre ++ (Proc.poll now p w).1 :: post)

variable {cfg : ExplorerConfig} {s : Server} {w : World Server}
  {ps : List (Proc (World Server) Json)}

/-- These are configurations the command can reach. -/
lemma ReachableOver.reachable (h : ReachableOver cfg s w ps) : Reachable cfg w ps := by
  induction h with
  | start server _ => exact .start server
  | serve server _ _ _ ih => exact .serve server ih
  | begin req _ _ ih => exact .begin 0 req ih
  | poll now _ ih => exact .poll now ih

/-- In every configuration the plot is drawn from `s`'s answers to logged requests carrying the
settings in force, and every step in flight keeps it so from wherever the others leave it.

**Proof sketch.** Induction on reachability: a fresh explorer plots nothing; a change of the
server that keeps its answers and its log moves nothing the invariant reads; a new step keeps
its promises (`steps_plainStep`); and a poll keeps the configuration relied
(`Proc.Relied.poll`). -/
lemma ReachableOver.relied (h : ReachableOver cfg s w ps) :
    Proc.Relied (World.DrawnFrom s) World.Later w ps := by
  induction h with
  | start server hs =>
    refine ⟨⟨hs, ⟨List.Pairwise.nil, StrMap.sorted_nil⟩, GraphModel.Sourced.empty _,
      Explorer.WellFormed.start cfg, fun _ => GraphModel.PlainIds.empty _⟩, ?_⟩
    simp
  | serve server hs hcalls _ ih =>
    exact ih.step (ih.1.source hs hcalls) ⟨Explorer.Later.refl _, hcalls⟩
  | begin req hop _ ih => exact ih.cons (steps_plainStep s cfg req hop)
  | poll now _ ih => exact ih.poll now

/-- A sprawl builds its request from the explorer it reads and hands the answer on with the
generation it read then; an answer that comes after the generation has moved ends the sprawl
at once, merging nothing and starting no resprawl and no child; and so, whatever the
interleaving of steps (the change of the page size apart) over a server whose answers stay
fixed, every node and every edge on screen lies in the answer the server gives to a request it
logged, about a plain URI and carrying the hidden types, collapses, view filters and page size
in force. -/
theorem plot_from_settings_in_force :
    (∀ {σ : Type} (src : NeighborSource σ) (cfg : ExplorerConfig) (depth : Nat) (uri : String)
        (target : ContentUri) (o : SprawlOptions),
      World.sprawlCounted src cfg depth uri target o = (do
        let e ← World.explorerNow
        if e.excluded.contains uri then return .ok {}
        let skip := o.skip.getD (((e.model.node? uri).map (·.skip)).getD 0)
        match ← World.fetchNeighborhood src cfg uri target (e.query skip o) with
        | .error err => return .error err
        | .ok answer => World.mergeAnswer src cfg depth uri o skip e.generation answer)) ∧
    (∀ {σ : Type} (src : NeighborSource σ) (cfg : ExplorerConfig) (depth : Nat) (uri : String)
        (o : SprawlOptions) (skip generation : Nat) (answer : Neighborhood) (now : Nat)
        (w : World σ), w.explorer.generation ≠ generation →
      Proc.poll now (World.mergeAnswer src cfg depth uri o skip generation answer) w =
        (.done (.ok {}), w, true)) ∧
    (∀ (cfg : ExplorerConfig) (s : Server) (w : World Server)
        (ps : List (Proc (World Server) Json)), ReachableOver cfg s w ps →
      (∀ x, w.explorer.model.containsNode x = true →
        ∃ u q, u.Plain ∧ q.settings = w.explorer.settings ∧
          ⟨"network_json", u.render, q.toPairs⟩ ∈ w.source.calls ∧
          ∃ nd ∈ (s.neighborhood u q).nodes, nd.id = x) ∧
      (∀ i ed, w.explorer.model.edge? i = some ed →
        ∃ u q, u.Plain ∧ q.settings = w.explorer.settings ∧
          ⟨"network_json", u.render, q.toPairs⟩ ∈ w.source.calls ∧
          ∃ ne ∈ (s.neighborhood u q).edges, ed.Joins ne.source ne.target)) := by
  refine ⟨fun src cfg depth uri target o => World.sprawlCounted_eq src cfg depth uri target o,
    fun src cfg depth uri o skip generation answer now w h =>
      World.poll_mergeAnswer_stale src cfg depth uri o skip generation answer now h,
    fun cfg s w ps h => ⟨fun x hx => ?_, fun i ed he => ?_⟩⟩
  · obtain ⟨n, ⟨u, q, hu, hq, hc, rfl⟩, hn⟩ := h.relied.1.sourced.node x hx
    exact ⟨u, q, hu, hq, hc, hn⟩
  · obtain ⟨n, ⟨u, q, hu, hq, hc, rfl⟩, hn⟩ :=
      h.relied.1.sourced.edge (i, ed) (StrMap.mem_of_lookup he)
    exact ⟨u, q, hu, hq, hc, hn⟩

/-- A fresh explorer over `lettersServer` after a sprawl of `p1`, started as a step of the
command and polled once: the sprawl runs to its end. -/
def lettersSprawled : World Server :=
  (Proc.poll 0 (stepProgram {} 0 (.obj [("op", .str "sprawl"), ("uri", .str "/corpus/42/Person/p1")]))
    ⟨Explorer.start {}, lettersServer⟩).2.1

/-- After the sprawl of `p1`, three nodes and two edges are on screen, each from an answer to a
logged request under the settings in force; and an answer to a request of generation `1`,
coming now, in generation `0`, is dropped. -/
theorem letters_plot_from_settings_in_force :
    lettersSprawled.explorer.model.nodeCount = 3 ∧ lettersSprawled.explorer.model.edgeCount = 2 ∧
    (∃ ps, ReachableOver {} lettersServer lettersSprawled ps ∧
      (∀ x, lettersSprawled.explorer.model.containsNode x = true →
        ∃ u q, u.Plain ∧ q.settings = lettersSprawled.explorer.settings ∧
          ⟨"network_json", u.render, q.toPairs⟩ ∈ lettersSprawled.source.calls ∧
          ∃ nd ∈ (lettersServer.neighborhood u q).nodes, nd.id = x) ∧
      (∀ i ed, lettersSprawled.explorer.model.edge? i = some ed →
        ∃ u q, u.Plain ∧ q.settings = lettersSprawled.explorer.settings ∧
          ⟨"network_json", u.render, q.toPairs⟩ ∈ lettersSprawled.source.calls ∧
          ∃ ne ∈ (lettersServer.neighborhood u q).edges, ed.Joins ne.source ne.target)) ∧
    lettersSprawled.explorer.generation ≠ 1 ∧
    Proc.poll 0 (World.mergeAnswer Server.networkAnswer {} 1 "/corpus/42/Person/p1" {} 0 1 {})
      lettersSprawled = (.done (.ok {}), lettersSprawled, true) := by
  obtain ⟨-, hstale, hplot⟩ := plot_from_settings_in_force
  have hgen : lettersSprawled.explorer.generation ≠ 1 := by decide +kernel
  have h : ReachableOver {} lettersServer lettersSprawled _ :=
    @ReachableOver.poll _ _ _ [] [] _ 0 (.begin _
      (fun h => absurd (congrArg Except.toOption h) (by decide +kernel)) (.start lettersServer rfl))
  exact ⟨by decide +kernel, by decide +kernel, ⟨_, h, hplot _ _ _ _ h⟩, hgen,
    hstale _ _ _ _ _ _ _ _ _ _ hgen⟩

end Explore

end Command

end CorpusBench
