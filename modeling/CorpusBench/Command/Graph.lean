import CorpusBench.Command.Core
import CorpusBench.Graph.Layout
import CorpusBench.Graph.Panes
import CorpusBench.Graph.Explorer.State

/-!
# Graph commands

Commands on the pieces of the plotted graph: `scale_thickness`, `graph_model` (steps on a model),
`panes` (steps on the open detail panes) and `pending_ops` (steps on a count of pending
operations, with numbered guards).

## Main definitions

* `Command.Graph.linkScaleOf` — thickness bounds and mass cap from a request.
* `Command.Graph.scaleThicknessCmd`, `graphModelCmd`, `panesCmd`, `pendingOpsCmd`.
-/

namespace CorpusBench

namespace Command

namespace Graph

/-- The thickness bounds and mass cap of the member `link_scale`, each defaulted. -/
def linkScaleOf (req : Json) : Step LinkScale := do
  match Args.get? req "link_scale" with
  | none => return {}
  | some ls =>
    let d : LinkScale := {}
    return {
      minThickness := (← Args.floatOpt ls "min_thickness").getD d.minThickness,
      maxThickness := (← Args.floatOpt ls "max_thickness").getD d.maxThickness,
      defaultThickness := (← Args.floatOpt ls "default_thickness").getD d.defaultThickness,
      maxNodeMass := (← Args.floatOpt ls "max_node_mass").getD d.maxNodeMass }

/-- `scale_thickness`: one frequency onto the thickness bounds. -/
def scaleThicknessCmd (req : Json) : Step Json := do
  let freq ← Args.float req "freq"
  let lo ← Args.float req "min"
  let hi ← Args.float req "max"
  let s ← linkScaleOf req
  return Json.ofFloat (← liftAbort (scaleThickness freq lo hi s))

/-- The collapses of a step, each read from `From.Proxy.To`. -/
def collapsesOf (req : Json) : Step (List Collapse) := do
  liftClient ((← Args.strListOr req "collapses").mapM Collapse.parse)

/-- Decode a library value of a step, a failure being a serialization error. -/
def decodeValue {α : Type} (d : Decoder α) (j : Json) : Step α := liftClient (d.run j)

/-- An edge or `null`. -/
def edgeOrNull : Option Edge → Json
  | some e => e.toJson
  | none => .null

/-- Counts by group as a document. -/
def countsJson (m : StrMap Nat) : Json := .obj (m.map fun (k, v) => (k, Json.ofNat v))

/-- One step of a `graph_model` command. -/
def modelStep (scale : LinkScale) (g : GraphModel) (req : Json) : GraphModel × Step Json :=
  let r : Step (GraphModel × Json) := do
    match ← Args.str req "op" with
    | "add_node" =>
      let uri ← Args.str req "uri"
      let label ← Args.str req "label"
      let group ← Args.str req "group"
      let mode ← match Args.get? req "mode" with
        | some j => decodeValue LabelMode.decoder j
        | none => pure .full
      let totals ← match Args.get? req "meta" with
        | some j => some <$> decodeValue (Decoder.strMap (Decoder.word .u64)) j
        | none => pure none
      let (ok, g) := g.addNode { Node.new uri label group mode with pathTotals := totals }
      return (g, .bool ok)
    | "add_edge" =>
      let e : Edge :=
        { source := (← Args.str req "from"), target := (← Args.str req "to"),
          title := (← Args.str req "title"), freq := (← Args.float req "freq") }
      let (ok, g) := g.addEdge e
      return (g, .bool ok)
    | "remove_edge" =>
      let (e, g) := g.removeEdge (← Args.str req "id")
      return (g, edgeOrNull e)
    | "fold_edge" =>
      let (e, g) := g.foldEdge (← Args.str req "id")
      return (g, edgeOrNull e)
    | "remove_node" =>
      let (ns, g) := g.removeNode (← Args.str req "uri")
      return (g, Json.ofOption (fun xs => .arr (xs.map .str)) ns)
    | "degree" => return (g, Json.ofNat (g.degree (← Args.str req "uri")))
    | "neighbor_counts" => return (g, countsJson (g.neighborCounts (← Args.str req "uri")))
    | "contains_edge" => return (g, .bool (g.containsEdge (← Args.str req "id")))
    | "is_folded" => return (g, .bool (g.isFolded (← Args.str req "id")))
    | "edge_other" =>
      let i ← Args.str req "id"
      let uri ← Args.str req "uri"
      return (g, Json.ofOption .str ((g.edge? i).bind (·.other uri)))
    | "normalize" =>
      let (n, g) := g.normalizeDirections (← collapsesOf req)
      return (g, Json.ofNat n)
    | "thickness" =>
      let cs ← collapsesOf req
      return (← liftAbort (g.applyThickness cs scale), .null)
    | "mass" => return (g.applyMass (← collapsesOf req) scale, .null)
    | "legend" =>
      let l := g.legend
      let pairs ← Args.pairsOr req "color_for"
      return (g, Json.mkObj [("legend", l.toJson),
        ("color_for", .arr (pairs.map fun (grp, kind) => .str (l.colorFor grp (kind == "seed"))))])
    | "pane_summary" =>
      return (g, Json.ofOption PaneSummary.toJson (PaneSummary.ofNode g (← Args.str req "uri")))
    | "dump" =>
      return (g, Json.mkObj [("nodes", .arr (g.nodeList.map Node.toJson)),
        ("edges", .arr (g.edgeList.map Edge.toJson))])
    | "counts" => return (g, Json.mkObj [("nodes", Json.ofNat g.nodeCount), ("edges", Json.ofNat g.edgeCount)])
    | "clear" => return ({}, .null)
    | op => bad ("unknown graph_model op " ++ op)
  match r with
  | .ok (g', v) => (g', .ok v)
  | .error e => (g, .error e)

/-- `graph_model`: steps on a model. -/
def graphModelCmd (req : Json) : Step Json := do
  let scale ← linkScaleOf req
  return .arr (← runSteps (modelStep scale) {} (← Args.arrayOr req "ops"))

/-- One step of a `panes` command. -/
def panesStep (d : DetailPanes) (req : Json) : DetailPanes × Step Json :=
  let r : Step (DetailPanes × Json) := do
    match ← Args.str req "op" with
    | "open" => return (d.openPane (← Args.str req "uri"), .null)
    | "close" =>
      let (was, d) := d.closePane (← Args.str req "uri")
      return (d, .bool was)
    | "is_open" => return (d, .bool (d.isOpen (← Args.str req "uri")))
    | "open_uris" => return (d, .arr (d.openUris.map .str))
    | "mark_dirty" =>
      let (ok, d) := d.markDirty (← Args.str req "uri")
      return (d, .bool ok)
    | "take_dirty" =>
      let (xs, d) := d.takeDirty
      return (d, .arr (xs.map .str))
    | "has_more" =>
      let p : PanePath :=
        { path := (← Args.str req "path"), plotted := (← Args.nat req "plotted" .u64),
          total := (← Args.nat req "total" .u64) }
      return (d, .bool p.hasMore)
    | op => bad ("unknown panes op " ++ op)
  match r with
  | .ok (d', v) => (d', .ok v)
  | .error e => (d, .error e)

/-- `panes`: steps on the open detail panes. -/
def panesCmd (req : Json) : Step Json := do
  return .arr (← runSteps panesStep {} (← Args.arrayOr req "ops"))

/-- A count of pending operations with the guards handed out, by number, and which of them
are live. -/
structure Guards where
  ops : PendingOps := {}
  issued : Nat := 0
  live : List Nat := []

/-- Take a live guard out of the set, or refuse the step. -/
def takeGuard (g : Guards) (n : Nat) : Step Guards :=
  if g.live.contains n then .ok { g with live := g.live.filter (· != n) }
  else bad "no such live guard"

/-- One step of a `pending_ops` command. -/
def pendingStep (g : Guards) (req : Json) : Guards × Step Json :=
  let r : Step (Guards × Json) := do
    match ← Args.str req "op" with
    | "begin" =>
      return ({ ops := g.ops.begin, issued := g.issued + 1, live := g.live ++ [g.issued] },
        Json.ofNat g.issued)
    | "release" =>
      let g ← takeGuard g (← Args.nat req "guard" .usize)
      let (last, ops) := g.ops.release
      return ({ g with ops := ops }, .bool last)
    | "drop" =>
      let g ← takeGuard g (← Args.nat req "guard" .usize)
      return ({ g with ops := g.ops.release.2 }, .null)
    | "pending" =>
      return (g, Json.mkObj [("pending", Json.ofNat g.ops.count), ("quiescent", .bool g.ops.isQuiescent)])
    | op => bad ("unknown pending_ops op " ++ op)
  match r with
  | .ok (g', v) => (g', .ok v)
  | .error e => (g, .error e)

/-- `pending_ops`: steps on a count of pending operations. -/
def pendingOpsCmd (req : Json) : Step Json := do
  return .arr (← runSteps pendingStep {} (← Args.arrayOr req "ops"))

end Graph

end Command

end CorpusBench
