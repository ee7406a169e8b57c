import CorpusBench.Proofs.Graph.Exploring
import CorpusBench.Command.Explorer
import CorpusBench.Proofs.Concurrent.Sequential

/-!
# The explorer command keeps its graph well formed

Every step of the `explorer` command is a program over the explorer and the in-memory server,
and every such program keeps the explorer well formed (`Proc.Keeps`).  The configurations the
command can reach are described by `Reachable`: from a fresh explorer over any server, any step
may start at any time, any step in flight may take its next atomic step at any instant, and the
server may change in between (which covers every answer, failure and delay of the network).
The command itself is one schedule among these (`Reachable.explorerStep`).

In every reachable configuration the explorer is well formed, and hence no URI and no ordered
pair of ends is plotted twice, and the degree of a node is the number of edges touching it.

## Main definitions

* `Command.Explore.StepRules` — what a property of programs needs for every step to have it.
* `Command.Explore.Reachable`.

## Main results

* `Command.Explore.keeps_stepProgram` — every step keeps the invariant.
* `Command.Explore.Reachable.explorerStep` — a step of the command stays among
  the reachable configurations.
* `Command.Explore.reachable_wellFormed`.
-/

namespace CorpusBench

namespace Command

namespace Explore

/-! ### Rules for the programs of steps -/

/-- A change a step makes to the explorer without the server: the records of nodes change,
keeping their URIs, and with them at most the label mode, the fit request and the panes; the
edges, the folded ids, the exclusions, the settings, the page size, the generation and the
requests pending stay. -/
structure LocalChange (e e' : Explorer) : Prop where
  wellFormed : e.WellFormed → e'.WellFormed
  nodes : ∀ x, e'.model.containsNode x = true → e.model.containsNode x = true
  edges : e'.model.edges = e.model.edges
  folded : e'.model.folded = e.model.folded
  frame : ∃ (g : GraphModel) (mode : LabelMode) (fit : Bool) (ps : DetailPanes),
    e' = { e with model := g, labelMode := mode, fitRequested := fit, panes := ps }

namespace LocalChange

variable {e e' : Explorer}

lemma of_panes (fit : Bool) (ps : DetailPanes) :
    LocalChange e { e with fitRequested := fit, panes := ps } :=
  ⟨fun he => ⟨he.model, he.excluded_unplotted⟩, fun _ hx => hx, rfl, rfl, ⟨_, _, _, _, rfl⟩⟩

lemma of_mapNodes {f : Node → Node} (hf : ∀ n, (f n).uri = n.uri) (mode : LabelMode) :
    LocalChange e { e with model := e.model.mapNodes f, labelMode := mode } :=
  ⟨fun he => ⟨(he.mapNodes hf).model, (he.mapNodes hf).excluded_unplotted⟩,
    fun x hx => by rwa [GraphModel.containsNode_mapNodes] at hx, rfl, rfl, ⟨_, _, _, _, rfl⟩⟩

lemma of_withNode {uri : String} {f : Node → Node} (hf : ∀ n, (f n).uri = n.uri)
    (h : e.withNode uri f = .ok e') : LocalChange e e' := by
  have hwf : e.WellFormed → e'.WellFormed := fun he => he.withNode hf h
  unfold Explorer.withNode at h
  split at h
  · cases h
    exact ⟨hwf, fun x hx => by rwa [GraphModel.containsNode_modifyNode] at hx, rfl, rfl,
      ⟨_, _, _, _, rfl⟩⟩
  · cases h

lemma of_select {uri : String} (h : e.select uri = .ok e') : LocalChange e e' := by
  unfold Explorer.select at h
  split at h
  · cases h
    exact of_mapNodes (fun _ => by rfl) e.labelMode
  · cases h

end LocalChange

/-- Setting the page size changes it and nothing else. -/
lemma setPageSize_ok {limit : Nat} {e e' : Explorer} {v : Json}
    (h : (fun e => (Json.ofNat limit, e)) <$> e.setPerTypeLimit limit = .ok (v, e')) :
    e' = { e with perTypeLimit := limit } := by
  obtain ⟨e'', h1, h2⟩ := Except.map_eq_ok.1 h
  cases h2
  obtain ⟨_, -, h1⟩ := Except.bind_eq_ok.1 h1
  cases h1
  rfl

/-- The changes of settings a step can ask for; each resets the graph when it changes
anything. -/
inductive SettingsEdit : (Explorer → Bool × Explorer) → Prop
  | addCollapse (c : Collapse) : SettingsEdit (Explorer.addCollapse c)
  | dropCollapse (c : Collapse) : SettingsEdit (Explorer.dropCollapse c)
  | hideType (t : String) : SettingsEdit (Explorer.hideType t)
  | unhideType (t : String) : SettingsEdit (Explorer.unhideType t)
  | setFilterView (t v : String) : SettingsEdit (Explorer.setFilterView t v)
  | clearFilterView (t : String) : SettingsEdit (Explorer.clearFilterView t)

/-- A change of settings changes the settings and nothing else. -/
lemma SettingsEdit.frame {change : Explorer → Bool × Explorer} (h : SettingsEdit change)
    (e : Explorer) : ∃ (hidden : StrSet) (cs : List Collapse) (filters : StrMap String),
      (change e).2 = { e with hiddenTypes := hidden, collapses := cs, filterViews := filters } := by
  cases h with
  | addCollapse c =>
    unfold Explorer.addCollapse
    split <;> exact ⟨_, _, _, rfl⟩
  | _ => exact ⟨_, _, _, rfl⟩

/-- What a property of the programs over the explorer and the server needs for every step
but the change of the page size to have it: the rules of the programs of the explorer
(`World.Rules`), and that it holds of reads, of every `LocalChange`, of a reset after every
`SettingsEdit`, and of an extrusion. -/
structure StepRules (cfg : ExplorerConfig) (P : {α : Type} → Proc (World Server) α → Prop) :
    Prop extends World.Rules Server.networkAnswer cfg P where
  gets {α : Type} (f : World Server → α) : P (Proc.gets f)
  changing_of {f : Explorer → Except ClientError (Json × Explorer)} :
    (∀ e v e', f e = .ok (v, e') → LocalChange e e') → P (changing f)
  resets {change : Explorer → Bool × Explorer} :
    SettingsEdit change → P (World.changeAndReset Server.networkAnswer cfg change)
  extrude (uri : String) (isolated : Bool) :
    P (World.onExplorerOrAbort (·.extrude uri isolated cfg.linkScale))

namespace StepRules

variable {cfg : ExplorerConfig} {P : {α : Type} → Proc (World Server) α → Prop}
  (rules : StepRules cfg P)

include rules

lemma withArgs_of {α : Type} {args : Step α} {k : α → Proc (World Server) (Step Json)}
    (hk : ∀ a, P (k a)) : P (withArgs args k) := by
  cases args with
  | ok a => exact hk a
  | error h => exact rules.pure _

lemma reading_of (f : Explorer → Json) : P (reading f) := rules.gets _

lemma changing_of_map {v : Json} {op : Explorer → Except ClientError Explorer}
    (hop : ∀ e e', op e = .ok e' → LocalChange e e') :
    P (changing fun e => (fun e' => (v, e')) <$> op e) :=
  rules.changing_of fun e _ e' h => by
    obtain ⟨e'', h1, h2⟩ := Except.map_eq_ok.1 h
    cases h2
    exact hop e e' h1

lemma resetting_of {args : Step (Explorer → Bool × Explorer)}
    (hargs : ∀ change, args = .ok change → SettingsEdit change) : P (resetting cfg args) := by
  unfold resetting withArgs
  split
  · next _ change => exact rules.map _ (rules.resets (hargs change rfl))
  · exact rules.pure _

/-- Every step but `parallel` follows the rules, the change of the page size when `P` holds
of it.

**Proof sketch.** One case per operation: the server-side operations are the programs the rules
name; the six changes of collapses, hidden types and filters are `SettingsEdit`s that reset;
the others read, or are `LocalChange`s of the records of nodes or the panes. -/
lemma plainStep_of (req : Json)
    (hsize : Args.str req "op" = .ok "set_per_type_limit" → ∀ limit, P (setPageSize limit)) :
    P (plainStep cfg req) := by
  unfold plainStep
  cases hop : Args.str req "op" with
  | error h => exact rules.pure _
  | ok op =>
  dsimp only [withArgs]
  split
  · exact rules.withArgs_of fun seeds => rules.map _ (rules.explore_of seeds)
  · exact rules.withArgs_of fun ⟨uri, o⟩ => rules.map _ (rules.sprawl_of _ uri o)
  · exact rules.withArgs_of fun ⟨uri, o⟩ => rules.map _ (rules.expand_of uri o)
  · exact rules.map _ rules.settlePass
  · exact rules.map _ rules.resetGraph_of
  · exact rules.withArgs_of fun ⟨uri, iso⟩ => rules.map _ (rules.extrude uri iso)
  · refine rules.resetting_of fun change h => ?_
    obtain ⟨_, -, h⟩ := Except.bind_eq_ok.1 h
    obtain ⟨c, -, h⟩ := Except.bind_eq_ok.1 h
    cases h
    exact .addCollapse c
  · refine rules.resetting_of fun change h => ?_
    obtain ⟨_, -, h⟩ := Except.bind_eq_ok.1 h
    obtain ⟨c, -, h⟩ := Except.bind_eq_ok.1 h
    cases h
    exact .dropCollapse c
  · refine rules.resetting_of fun change h => ?_
    obtain ⟨t, -, h⟩ := Except.bind_eq_ok.1 h
    cases h
    exact .hideType t
  · refine rules.resetting_of fun change h => ?_
    obtain ⟨t, -, h⟩ := Except.bind_eq_ok.1 h
    cases h
    exact .unhideType t
  · refine rules.resetting_of fun change h => ?_
    obtain ⟨t, -, h⟩ := Except.bind_eq_ok.1 h
    obtain ⟨v, -, h⟩ := Except.bind_eq_ok.1 h
    cases h
    exact .setFilterView t v
  · refine rules.resetting_of fun change h => ?_
    obtain ⟨t, -, h⟩ := Except.bind_eq_ok.1 h
    cases h
    exact .clearFilterView t
  · exact rules.withArgs_of (hsize hop)
  · exact rules.withArgs_of fun mode => rules.changing_of fun _ _ _ h => by
      cases h
      exact .of_mapNodes (fun _ => by rfl) mode
  · exact rules.withArgs_of fun _ => rules.changing_of_map fun _ _ => .of_withNode fun _ => rfl
  · exact rules.withArgs_of fun _ => rules.changing_of_map fun _ _ => .of_withNode fun _ => rfl
  · exact rules.withArgs_of fun _ => rules.changing_of_map fun _ _ => .of_select
  · exact rules.changing_of fun _ _ _ h => by
      cases h
      exact .of_mapNodes (fun _ => by rfl) _
  · refine rules.withArgs_of fun uri => rules.changing_of fun e _ _ h => ?_
    obtain ⟨⟨p, e''⟩, h1, h2⟩ := Except.map_eq_ok.1 h
    cases h2
    unfold Explorer.openPane at h1
    split at h1
    · cases h1
      exact .of_panes _ _
    · cases h1
  · exact rules.withArgs_of fun _ => rules.changing_of fun _ _ _ h => by
      cases h
      exact .of_panes _ _
  · exact rules.withArgs_of fun _ => rules.reading_of _
  · exact rules.changing_of fun _ _ _ h => by
      cases h
      exact .of_panes _ _
  · exact rules.changing_of fun _ _ _ h => by
      cases h
      exact .of_panes _ _
  · exact rules.withArgs_of fun _ => rules.reading_of _
  · exact rules.reading_of _
  · exact rules.bind rules.quiescence fun _ => rules.reading_of _
  · exact rules.reading_of _
  · exact rules.reading_of _
  · exact rules.pure _

/-- Every step follows the rules, `parallel` ones included, whatever their nesting, when `P`
holds of the change of the page size. -/
lemma stepProgram_of (depth : Nat) (hsize : ∀ limit, P (setPageSize limit)) :
    ∀ req, P (stepProgram cfg depth req) := by
  induction depth with
  | zero =>
    intro req
    unfold stepProgram
    split
    · contradiction
    · exact rules.map _ (rules.plainStep_of req fun _ => hsize)
  | succ d ih =>
    intro req
    unfold stepProgram
    split
    · -- a `parallel` step runs its steps side by side, one level less deep
      next _ _ d' _ hd =>
      cases Nat.succ.inj hd
      split
      · refine rules.bind (rules.joinAll fun p hp => ?_) fun _ => rules.pure _
        obtain ⟨step, -, rfl⟩ := List.mem_map.1 hp
        exact ih step
      · exact rules.pure _
    · exact rules.map _ (rules.plainStep_of req fun _ => hsize)

end StepRules

/-! ### Steps keep the explorer well formed -/

lemma keepsRules (cfg : ExplorerConfig) : StepRules cfg (Proc.Keeps World.WellFormed) where
  toRules := World.wellFormedRules _ cfg
  gets := Proc.Keeps.gets
  changing_of hf := by
    refine Proc.Keeps.modifyGet fun w hw => ?_
    split
    · next v e he => exact (hf _ _ _ he).wellFormed hw
    · exact hw
  resets hc := (World.wellFormedRules _ cfg).changeAndReset_of <|
    World.keeps_onExplorer fun w hw => by
      obtain ⟨_, _, _, h⟩ := hc.frame w.explorer
      rw [h]
      exact ⟨hw.model, hw.excluded_unplotted⟩
  extrude _ _ := World.keeps_onExplorerOrAbort fun _ _ _ he hx => he.extrude hx

/-- Setting the page size keeps the invariant. -/
lemma keeps_setPageSize (limit : Nat) : Proc.Keeps World.WellFormed (setPageSize limit) :=
  Proc.Keeps.modifyGet fun w hw => by
    split
    · next v e he =>
      rw [setPageSize_ok he]
      exact ⟨hw.model, hw.excluded_unplotted⟩
    · exact hw

/-- Every step keeps the invariant, `parallel` ones included, whatever their nesting. -/
lemma keeps_stepProgram (cfg : ExplorerConfig) (depth : Nat) :
    ∀ req, Proc.Keeps World.WellFormed (stepProgram cfg depth req) :=
  (keepsRules cfg).stepProgram_of depth keeps_setPageSize

/-! ### Reachable configurations -/

/-- The configurations of an explorer over the in-memory server: its state and the steps in
flight, a finished step staying as `.done`. -/
inductive Reachable (cfg : ExplorerConfig) :
    World Server → List (Proc (World Server) Json) → Prop
  /-- A fresh explorer, over any server. -/
  | start (server : Server) : Reachable cfg ⟨Explorer.start cfg, server⟩ []
  /-- The server changes in any way. -/
  | serve {w : World Server} {ps : List (Proc (World Server) Json)} (server : Server) :
      Reachable cfg w ps → Reachable cfg { w with source := server } ps
  /-- A step starts. -/
  | begin {w : World Server} {ps : List (Proc (World Server) Json)} (depth : Nat) (req : Json) :
      Reachable cfg w ps → Reachable cfg w (stepProgram cfg depth req :: ps)
  /-- A step in flight takes its next atomic step, at any instant. -/
  | poll {w : World Server} {pre post : List (Proc (World Server) Json)}
      {p : Proc (World Server) Json} (now : Nat) :
      Reachable cfg w (pre ++ p :: post) →
      Reachable cfg (Proc.poll now p w).2.1 (pre ++ (Proc.poll now p w).1 :: post)

variable {cfg : ExplorerConfig} {w : World Server} {ps : List (Proc (World Server) Json)}

/-- In a reachable configuration the explorer is well formed and every step in flight keeps it
so.

**Proof sketch.** Induction on reachability: a fresh explorer is well formed, a change of the
server leaves the explorer alone, a new step keeps the invariant (`keeps_stepProgram`), and a
poll of a step that keeps it leaves a well-formed state and a step that still keeps it
(`Proc.Keeps.poll`). -/
lemma Reachable.keeps (h : Reachable cfg w ps) :
    w.explorer.WellFormed ∧ ∀ p ∈ ps, Proc.Keeps World.WellFormed p := by
  induction h with
  | start server => exact ⟨Explorer.WellFormed.start cfg, by simp⟩
  | serve server _ ih => exact ih
  | begin depth req _ ih =>
    refine ⟨ih.1, fun p hp => ?_⟩
    rcases List.mem_cons.1 hp with rfl | hp
    · exact keeps_stepProgram cfg depth req
    · exact ih.2 p hp
  | @poll w pre post p now _ ih =>
    obtain ⟨hw, hps⟩ := ih
    have hpoll := (hps p (by simp)).poll now w hw
    refine ⟨hpoll.2, fun q hq => ?_⟩
    simp only [List.mem_append, List.mem_cons] at hq
    rcases hq with hq | rfl | hq
    · exact hps q (by simp [hq])
    · exact hpoll.1
    · exact hps q (by simp [hq])

/-- A run of a step in flight to its end, as the command makes it, is a sequence of polls. -/
lemma Reachable.runFrom {pre post : List (Proc (World Server) Json)} {a : Json}
    {w' : World Server} {clock : Nat} :
    ∀ {fuel now : Nat} {w : World Server} {p : Proc (World Server) Json},
      Reachable cfg w (pre ++ p :: post) → Proc.runFrom fuel now p w = .finished a w' clock →
      Reachable cfg w' (pre ++ .done a :: post) := by
  intro fuel
  induction fuel with
  | zero => intro now w p _ hrun; simp [Proc.runFrom] at hrun
  | succ fuel ih =>
    intro now w p h hrun
    have hpoll := Reachable.poll now h
    simp only [Proc.runFrom] at hrun
    split at hrun
    · next heq =>
      rw [heq] at hpoll
      cases hrun
      exact hpoll
    · cases hrun
    · next heq =>
      rw [heq] at hpoll
      exact ih hpoll hrun
    · next heq =>
      rw [heq] at hpoll
      split at hrun
      · exact ih hpoll hrun
      · cases hrun

/-- A step of the command leads from a reachable configuration to a reachable one. -/
lemma Reachable.explorerStep {s : Session} (h : Reachable cfg s.world ps) (req : Json) :
    ∃ ps', Reachable cfg (explorerStep cfg s req).1.world ps' := by
  unfold Explore.explorerStep
  split
  · exact ⟨ps, h⟩
  · split
    · exact ⟨ps, .serve _ h⟩
    · split
      · next r w' clock hrun =>
        have hbegin : Reachable cfg s.world ([] ++ stepProgram cfg parallelDepth req :: ps) :=
          .begin parallelDepth req h
        exact ⟨_, hbegin.runFrom hrun⟩
      · exact ⟨ps, h⟩
      · exact ⟨ps, h⟩

/-- The world a step leaves, run alone from `w` for a hundred rounds (`w` itself if it does not
finish in them). -/
def runStep (cfg : ExplorerConfig) (req : Json) (w : World Server) : World Server :=
  (Proc.runFrom 100 0 (stepProgram cfg parallelDepth req) w).state?.getD w

/-- A step started in a reachable configuration and run alone to its end leads to a reachable
one; whether it finishes is computed. -/
lemma Reachable.runStep (h : Reachable cfg w ps) (req : Json)
    (hfin : (Proc.runFrom 100 0 (stepProgram cfg parallelDepth req) w).state?.isSome = true) :
    ∃ ps', Reachable cfg (runStep cfg req w) ps' := by
  revert hfin
  unfold Explore.runStep
  cases hrun : Proc.runFrom 100 0 (stepProgram cfg parallelDepth req) w with
  | finished a w' clock =>
    have hbegin : Reachable cfg w ([] ++ stepProgram cfg parallelDepth req :: ps) :=
      .begin parallelDepth req h
    exact fun _ => ⟨_, hbegin.runFrom hrun⟩
  | halted _ => simp [Ending.state?]
  | stalled => simp [Ending.state?]

/-! ### A small exploration -/

/-- Two people and a book: a letter from `p2` to `p1`, and `p1` the author of `b1`, linked under
the titles a collapse through letters and one through authors give their edges. -/
def lettersServer : Server :=
  { records := [("Book", [("b1", { id := "b1" })]),
      ("Person", [("p1", { id := "p1" }), ("p2", { id := "p2" })])],
    links := [⟨⟨"42", "Person", "p2"⟩, ⟨"42", "Person", "p1"⟩, "Person.Letter.Person"⟩,
      ⟨⟨"42", "Person", "p1"⟩, ⟨"42", "Book", "b1"⟩, "Person.Author.Book"⟩] }

/-- A fresh explorer over `lettersServer` after a sprawl of `p1`: its correspondent and its book
are plotted, with the two edges. -/
def lettersWorld : World Server :=
  runStep {} (.obj [("op", .str "sprawl"), ("uri", .str "/corpus/42/Person/p1")])
    ⟨Explorer.start {}, lettersServer⟩

lemma reachable_lettersWorld : ∃ ps, Reachable {} lettersWorld ps :=
  (Reachable.start lettersServer).runStep _ (by decide +kernel)

/-! ### The invariant of every reachable configuration -/

/-- In every configuration an explorer over the in-memory server can reach, through any
interleaving of its steps and any answers of the server, the plotted graph is well formed and
no excluded URI is plotted; hence no URI and no ordered pair of ends is plotted twice, and the
degree of a node is the number of plotted edges touching it. -/
theorem reachable_wellFormed (h : Reachable cfg w ps) :
    w.explorer.WellFormed ∧ (w.explorer.model.nodeList.map Node.uri).Nodup ∧
      (w.explorer.model.edgeList.map Edge.ends).Nodup ∧
      ∀ u, w.explorer.model.degree u =
        w.explorer.model.edgeList.countP fun e => e.source == u || e.target == u := by
  have hw := h.keeps.1
  exact ⟨hw, hw.model.nodup_uris, hw.model.nodup_ends, hw.model.degree_eq⟩

/-- After a sprawl of a person with a correspondent and a book, three nodes and two edges are
plotted in a reachable configuration, and the graph there is well formed. -/
theorem reachable_wellFormed_letters :
    lettersWorld.explorer.model.nodeList.length = 3 ∧
      lettersWorld.explorer.model.edgeList.length = 2 ∧
      ∃ ps, Reachable {} lettersWorld ps ∧ lettersWorld.explorer.WellFormed ∧
        (lettersWorld.explorer.model.nodeList.map Node.uri).Nodup ∧
        (lettersWorld.explorer.model.edgeList.map Edge.ends).Nodup ∧
        ∀ u, lettersWorld.explorer.model.degree u =
          lettersWorld.explorer.model.edgeList.countP fun e => e.source == u || e.target == u := by
  obtain ⟨ps, h⟩ := reachable_lettersWorld
  exact ⟨by decide +kernel, by decide +kernel, ps, h, reachable_wellFormed h⟩

end Explore

end Command

end CorpusBench
