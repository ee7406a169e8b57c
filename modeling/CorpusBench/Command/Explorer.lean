import CorpusBench.Command.Graph
import CorpusBench.Command.Server
import CorpusBench.Graph.Explorer.Run

/-!
# The explorer command

`explorer` runs steps on an explorer over the in-memory server.  Every step is a program over
the explorer and the server; a step runs to its end before the next one starts, except inside
`parallel`, whose steps run side by side on one virtual clock and answer in list order.  The
server steps shared by stateful commands (`calls`, `add_link`, …) are accepted between steps.

## Main definitions

* `Command.Explore.configOf`, `Command.Explore.optionsOf`.
* `Command.Explore.stepProgram` — the program of one step.
* `Command.Explore.explorerCmd`.
-/

namespace CorpusBench

namespace Command

namespace Explore

/-- The settings of the member `config`; a page size outside the allowed ones fails the whole
command. -/
def configOf (req : Json) : Step ExplorerConfig := do
  let c := (Args.get? req "config").getD (.obj [])
  let limit ← Args.natOr c "per_type_limit" .u32 20
  let maxResprawls ← Args.natOr c "max_resprawls" .u32 10
  let mode ← match Args.get? c "label_mode" with
    | some j => Args.decodeWith "label_mode" LabelMode.decoder j
    | none => pure LabelMode.standard
  let scale ← Graph.linkScaleOf c
  liftClient (validatePerTypeLimit limit)
  return { perTypeLimit := limit, maxResprawls := maxResprawls, linkScale := scale, labelMode := mode }

/-- The options of a sprawl: a preset (`default`, `seed`, `meta_only`) or an object. -/
def optionsOf (req : Json) : Step SprawlOptions :=
  match Args.get? req "options" with
  | none | some (.str "default") => .ok {}
  | some (.str "seed") => .ok SprawlOptions.seed
  | some (.str "meta_only") => .ok { metaOnly := true }
  | some (.str other) => bad ("unknown sprawl preset " ++ other)
  | some (.obj fs) => do
    let o := Json.obj fs
    return { isSeed := (← Args.boolOr o "is_seed" false),
             sprawlChildren := (← Args.boolOr o "sprawl_children" false),
             targetType := (← Args.strOpt o "target_content_type"),
             skip := (← Args.natOpt o "skip" .u32),
             resprawl := (← Args.natOr o "resprawl" .u32 0),
             metaOnly := (← Args.boolOr o "meta_only" false) }
  | some _ => bad "options are a preset name or an object"

/-- An operation's result as a step's answer. -/
def answerOf {α : Type} (enc : α → Json) : Except ClientError α → Step Json
  | .ok a => .ok (enc a)
  | .error e => fail e

/-- A step that reads the explorer. -/
def reading (f : Explorer → Json) : Proc (World Server) (Step Json) := Proc.gets fun w => .ok (f w.explorer)

/-- A step that changes the explorer and may fail. -/
def changing (f : Explorer → Except ClientError (Json × Explorer)) : Proc (World Server) (Step Json) :=
  Proc.modifyGet fun w =>
    match f w.explorer with
    | .ok (v, e) => (.ok v, { w with explorer := e })
    | .error err => (fail err, w)

/-- A node or `null`. -/
def nodeJson (e : Explorer) (uri : String) : Json := Json.ofOption Node.toJson (e.model.node? uri)

/-- Read the arguments of a step, then run its program; malformed arguments answer at once. -/
def withArgs {α : Type} (args : Step α) (k : α → Proc (World Server) (Step Json)) : Proc (World Server) (Step Json) :=
  match args with
  | .ok a => k a
  | .error h => pure (.error h)

/-- A node's URI and the options of a sprawl. -/
def uriAndOptions (req : Json) : Step (String × SprawlOptions) := do
  return (← Args.str req "uri", ← optionsOf req)

/-- A change of the collapses, hidden types or view filters, resetting when it changes
anything. -/
def resetting (cfg : ExplorerConfig) (args : Step (Explorer → Bool × Explorer)) :
    Proc (World Server) (Step Json) :=
  withArgs args fun change => answerOf .bool <$> World.changeAndReset Server.networkAnswer cfg change

/-- A step that sets the page size of later sprawls. -/
def setPageSize (limit : Nat) : Proc (World Server) (Step Json) :=
  changing fun e => (fun e => (Json.ofNat limit, e)) <$> e.setPerTypeLimit limit

/-- A step that changes one node. -/
def onNode (req : Json) (f : Node → Node) : Proc (World Server) (Step Json) :=
  withArgs (Args.str req "uri") fun uri =>
    changing fun e => (fun e => (Json.null, e)) <$> e.withNode uri f

/-- The program of a step other than `parallel`. -/
def plainStep (cfg : ExplorerConfig) (req : Json) : Proc (World Server) (Step Json) :=
  withArgs (Args.str req "op") fun op =>
    match op with
    | "explore" =>
      withArgs (Args.strListOr req "seeds") fun seeds =>
        answerOf SettleReport.toJson <$> World.explore Server.networkAnswer cfg seeds
    | "sprawl" =>
      withArgs (uriAndOptions req) fun (uri, o) =>
        answerOf SprawlOutcome.toJson <$> World.sprawlTop Server.networkAnswer cfg uri o
    | "expand" =>
      withArgs (uriAndOptions req) fun (uri, o) =>
        answerOf (fun (out, settled) => Json.mkObj [("outcome", out.toJson),
          ("settled", Json.ofOption SettleReport.toJson settled)]) <$> World.expand Server.networkAnswer cfg uri o
    | "settle" => (fun r => .ok r.toJson) <$> World.settle cfg
    | "reset" => answerOf SettleReport.toJson <$> World.resetGraph Server.networkAnswer cfg
    | "extrude" =>
      withArgs (do return (← Args.str req "uri", ← Args.boolOr req "remove_isolated" false))
        fun (uri, isolated) =>
          (fun xs => .ok (.arr (xs.map .str))) <$>
            World.onExplorerOrAbort (·.extrude uri isolated cfg.linkScale)
    | "collapse" =>
      resetting cfg do return Explorer.addCollapse (← liftClient (Collapse.parse (← Args.str req "rel")))
    | "uncollapse" =>
      resetting cfg do return Explorer.dropCollapse (← liftClient (Collapse.parse (← Args.str req "rel")))
    | "hide_type" => resetting cfg do return Explorer.hideType (← Args.str req "content_type")
    | "unhide_type" => resetting cfg do return Explorer.unhideType (← Args.str req "content_type")
    | "set_filter_view" =>
      resetting cfg do return Explorer.setFilterView (← Args.str req "content_type") (← Args.str req "view_id")
    | "clear_filter_view" => resetting cfg do return Explorer.clearFilterView (← Args.str req "content_type")
    | "set_per_type_limit" => withArgs (Args.nat req "limit" .u32) setPageSize
    | "set_label_mode" =>
      withArgs (do Args.decodeWith "mode" LabelMode.decoder (← Args.value req "mode")) fun mode =>
        changing fun e => .ok (.null, e.setLabelMode mode)
    | "pin" => onNode req fun n => { n with pinned := true }
    | "unpin" => onNode req fun n => { n with pinned := false }
    | "select" =>
      withArgs (Args.str req "uri") fun uri => changing fun e => (fun e => (Json.null, e)) <$> e.select uri
    | "clear_selection" => changing fun e => .ok (.null, e.clearSelection)
    | "open_pane" =>
      withArgs (Args.str req "uri") fun uri =>
        changing fun e => (fun (p, e) => (p.toJson, e)) <$> e.openPane uri
    | "close_pane" =>
      withArgs (Args.str req "uri") fun uri =>
        changing fun e =>
          let (was, panes) := e.panes.closePane uri
          .ok (.bool was, { e with panes := panes })
    | "pane_summary" =>
      withArgs (Args.str req "uri") fun uri =>
        reading fun e => Json.ofOption PaneSummary.toJson (PaneSummary.ofNode e.model uri)
    | "take_dirty_panes" =>
      changing fun e => let (ps, e) := e.takeDirtyPanes; .ok (.arr (ps.map PaneSummary.toJson), e)
    | "take_fit_request" => changing fun e => let (b, e) := e.takeFitRequest; .ok (.bool b, e)
    | "node" => withArgs (Args.str req "uri") fun uri => reading (nodeJson · uri)
    | "counts" =>
      reading fun e => Json.mkObj [("nodes", Json.ofNat e.model.nodeCount),
        ("edges", Json.ofNat e.model.edgeCount), ("pending", Json.ofNat e.pending.count)]
    | "await_quiescence" => do
      World.awaitQuiescence
      reading fun e => Json.ofNat e.pending.count
    | "legend" => reading (·.legend.toJson)
    | "snapshot" => reading Explorer.snapshot
    | other => pure (bad ("unknown explorer op " ++ other))

/-- The program of the step `req`, answering with the step's answer object.  The steps of
`parallel` run side by side and its answer is `{"results": [...]}`, their answers in list order;
`parallel` may nest `depth` times. -/
def stepProgram (cfg : ExplorerConfig) : Nat → Json → Proc (World Server) Json
  | depth, req =>
    match Args.str req "op", depth with
    | .ok "parallel", d + 1 =>
      match Args.arrayOr req "steps" with
      | .ok steps => do
        let answers ← Proc.joinAll (steps.map (stepProgram cfg d))
        pure (Json.mkObj [("results", .arr answers)])
      | .error h => pure (Step.toJson (.error h))
    | _, _ => Step.toJson <$> plainStep cfg req

/-- How deeply `parallel` steps may nest. -/
def parallelDepth : Nat := 8

/-- An explorer session: the explorer and the server, the calls already reported, and the
virtual clock. -/
structure Session where
  world : World Server
  reported : Nat := 0
  clock : Nat := 0

/-- One step of an `explorer` command. -/
def explorerStep (cfg : ExplorerConfig) (s : Session) (req : Json) : Session × Step Json :=
  match Args.str req "op" with
  | .error e => (s, .error e)
  | .ok op =>
    match Mock.deskStep? { server := s.world.source, reported := s.reported } op req with
    | some (d, r) =>
      ({ s with world := { s.world with source := d.server }, reported := d.reported }, r.settle)
    | none =>
      match Proc.runFrom Proc.standardFuel s.clock (stepProgram cfg parallelDepth req) s.world with
      | .finished r w clock => ({ s with world := w, clock := clock }, .ok r)
      | .halted h => (s, .error (.aborted h))
      | .stalled => (s, bad "the explorer stalled")

/-- `explorer`: steps on an explorer over the in-memory server. -/
def explorerCmd (req : Json) : Step Json := do
  let server ← Mock.serverOf req
  let cfg ← configOf req
  let ops ← Args.arrayOr req "ops"
  return .arr (← runAnswered (explorerStep cfg) { world := ⟨Explorer.start cfg, server⟩ } ops)

end Explore

end Command

end CorpusBench
