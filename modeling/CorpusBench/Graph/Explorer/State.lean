import CorpusBench.Graph.Layout
import CorpusBench.Graph.Panes
import CorpusBench.Content.Neighborhood
import CorpusBench.Content.Query
import CorpusBench.Text.Entities

/-!
# The explorer's state

The state of an exploration of the content graph around a set of seeds, and every change to it
that does not wait on the server:

* the plotted model, the seeds, the excluded URIs (never plotted again), the hidden types, the
  collapses and the view filters in force, the page size per type, the label mode;
* whether the first settle pass is still to come, whether a view fit was requested, the legend,
  the open detail panes;
* a generation number, raised on every reset, so that answers asked for before a reset are
  dropped;
* the count of sprawls in flight.

*Merging* an answer for a node adds the nodes and edges not excluded, marks a seed, stores the
relationship totals, and moves the node's cursor one page on.  When a page brought no new node
while the totals still report unplotted neighbours, the sprawl asks for the next page
(a *resprawl*), up to a bound.

## Main definitions

* `ExplorerConfig`, `SprawlOptions`, `SprawlOutcome`,
  `SettleReport`.
* `Explorer` — the state.
* `Explorer.merge`, `Explorer.settle`, `Explorer.extrude`.
* `PendingOps` — the count, with `begin`, `release` and `isQuiescent`.
-/

namespace CorpusBench

/-! ### Pending operations

The count of operations in flight that a batch waits for: every sprawl is counted from its
start to its end, whatever the way it ends.  The batch is over when the count is back to zero,
and exactly one operation, the one whose end brings it there, learns that it ended the batch. -/

/-- The number of operations in flight. -/
structure PendingOps where
  count : Nat := 0
  deriving DecidableEq, Repr

namespace PendingOps

/-- Count one more operation. -/
def begin (p : PendingOps) : PendingOps := ⟨p.count + 1⟩

/-- End one operation (never below zero); whether it was the last one. -/
def release (p : PendingOps) : Bool × PendingOps :=
  let c := p.count - 1
  (c == 0, ⟨c⟩)

/-- Whether nothing is in flight. -/
def isQuiescent (p : PendingOps) : Bool := p.count == 0

end PendingOps

/-- The page sizes a sprawl may ask for per type. -/
def perTypeLimits : List Nat := [5, 10, 20, 40, 80]

/-- Refuse a page size outside `perTypeLimits`. -/
def validatePerTypeLimit (limit : Nat) : Except ClientError Unit :=
  if perTypeLimits.contains limit then .ok ()
  else .error (.invalidInput ("per_type_limit must be one of [5, 10, 20, 40, 80], got " ++
    toString limit))

/-- A duration in milliseconds as diagnostics write it: `1s`, `1.5s`, `250ms`. -/
def durationText (ms : Nat) : String :=
  if ms < 1000 then toString ms ++ "ms"
  else if ms % 1000 = 0 then toString (ms / 1000) ++ "s"
  else
    let r := ms % 1000
    let digits := [r / 100, r / 10 % 10, r % 10].map fun d => Char.ofNat (48 + d)
    let frac := String.ofList (digits.reverse.dropWhile (· = '0')).reverse
    toString (ms / 1000) ++ "." ++ frac ++ "s"

/-- The settings of an exploration. -/
structure ExplorerConfig where
  perTypeLimit : Nat := 20
  /-- The deadline of one neighbourhood request, in milliseconds. -/
  sprawlTimeout : Nat := 1000
  /-- How many times an empty page may lead to asking for the next one. -/
  maxResprawls : Nat := 10
  linkScale : LinkScale := {}
  labelMode : LabelMode := .standard

/-- The options of one sprawl. -/
structure SprawlOptions where
  /-- Pin the node and ask for its relationship totals. -/
  isSeed : Bool := false
  /-- Sprawl every node the sprawl adds, once. -/
  sprawlChildren : Bool := false
  /-- Only neighbours of this type. -/
  targetType : Option String := none
  /-- Start here instead of the node's cursor. -/
  skip : Option Nat := none
  /-- How many resprawls led to this one. -/
  resprawl : Nat := 0
  /-- Ask for the relationship totals only. -/
  metaOnly : Bool := false

namespace SprawlOptions

/-- The options of a seed: pinned, with totals, its new neighbours sprawled in turn. -/
def seed : SprawlOptions := { isSeed := true, sprawlChildren := true }

/-- Whether a sprawl moves the node's cursor: not for totals only, nor for one type. -/
def advancesCursor (o : SprawlOptions) : Bool := !o.metaOnly && o.targetType.isNone

end SprawlOptions

/-- What a sprawl added, with its resprawls and children. -/
structure SprawlOutcome where
  nodesAdded : Nat := 0
  edgesAdded : Nat := 0
  resprawls : Nat := 0
  childrenFailed : Nat := 0

namespace SprawlOutcome

/-- Add another outcome to this one. -/
def absorb (a b : SprawlOutcome) : SprawlOutcome :=
  ⟨a.nodesAdded + b.nodesAdded, a.edgesAdded + b.edgesAdded, a.resprawls + b.resprawls,
    a.childrenFailed + b.childrenFailed⟩

def toJson (o : SprawlOutcome) : Json :=
  Json.mkObj [("nodes_added", Json.ofNat o.nodesAdded), ("edges_added", Json.ofNat o.edgesAdded),
    ("resprawls", Json.ofNat o.resprawls), ("children_failed", Json.ofNat o.childrenFailed)]

end SprawlOutcome

/-- The result of a settle pass. -/
structure SettleReport where
  nodes : Nat
  edges : Nat
  /-- Collapsed edges turned into their direction. -/
  normalizedEdges : Nat
  /-- Whether this pass pinned the seeds and asked for a view fit. -/
  firstLoad : Bool

def SettleReport.toJson (r : SettleReport) : Json :=
  Json.mkObj [("nodes", Json.ofNat r.nodes), ("edges", Json.ofNat r.edges),
    ("normalized_edges", Json.ofNat r.normalizedEdges), ("first_load", .bool r.firstLoad)]

/-- What merging one answer did. -/
structure Merged where
  nodesAdded : Nat
  edgesAdded : Nat
  /-- The nodes added, other than the sprawled one, in the answer's order. -/
  newUris : List String
  /-- Whether to ask for the next page. -/
  resprawl : Bool

/-- The state of an exploration. -/
structure Explorer where
  model : GraphModel := {}
  seeds : List String := []
  excluded : StrSet := []
  hiddenTypes : StrSet := []
  collapses : List Collapse := []
  filterViews : StrMap String := []
  perTypeLimit : Nat
  labelMode : LabelMode
  firstLoad : Bool := true
  fitRequested : Bool := false
  legend : Legend := {}
  panes : DetailPanes := {}
  generation : Nat := 0
  pending : PendingOps := {}

namespace Explorer

/-- A fresh exploration. -/
def start (cfg : ExplorerConfig) : Explorer :=
  { perTypeLimit := cfg.perTypeLimit, labelMode := cfg.labelMode }

/-- The neighbourhood request of a sprawl starting at `skip`. -/
def query (e : Explorer) (skip : Nat) (o : SprawlOptions) : NetworkQuery :=
  { skip := skip, limit := e.perTypeLimit, collapses := e.collapses, hidden := e.hiddenTypes,
    filters := e.filterViews, isSeed := o.isSeed, metaOnly := o.metaOnly, targetType := o.targetType }

/-- Directions, thickness, mass and legend for the current model; the number of edges turned. -/
def relayout (e : Explorer) (scale : LinkScale) : Except Abort (Nat × Explorer) := do
  let (n, m) := e.model.normalizeDirections e.collapses
  let m ← m.applyThickness e.collapses scale
  let m := m.applyMass e.collapses scale
  return (n, { e with model := m, legend := m.legend })

/-- Whether the totals stored for a node report neighbours not plotted yet. -/
def hasUnplotted (e : Explorer) (uri : String) : Bool :=
  match (e.model.node? uri).bind (·.pathTotals) with
  | none => false
  | some totals =>
    let plotted := e.model.neighborCounts uri
    totals.any fun (path, total) => decide ((plotted.lookup path).getD 0 < total)

/-- Add the nodes of an answer that are not excluded, labels decoded; the number added and the
new URIs other than `uri`. -/
def addNodes (e : Explorer) (uri : String) (nodes : List NetworkNode) (m : GraphModel) :
    Nat × List String × GraphModel :=
  nodes.foldl (fun (acc : Nat × List String × GraphModel) n =>
    let (added, fresh, m) := acc
    if e.excluded.contains n.id then acc
    else
      match m.addNode (Node.new n.id (Text.decodeEntities n.label) n.group e.labelMode) with
      | (true, m) => (added + 1, if n.id != uri then fresh ++ [n.id] else fresh, m)
      | (false, m) => (added, fresh, m)) (0, [], m)

/-- Add the edges of an answer whose ends are not excluded; the number added. -/
def addEdges (e : Explorer) (edges : List NetworkEdge) (m : GraphModel) : Nat × GraphModel :=
  edges.foldl (fun (acc : Nat × GraphModel) ed =>
    let (added, m) := acc
    if e.excluded.contains ed.source || e.excluded.contains ed.target then acc
    else
      match m.addEdge { source := ed.source, target := ed.target, title := ed.title, freq := ed.freq } with
      | (true, m) => (added + 1, m)
      | (false, m) => (added, m)) (0, m)

/-- Merge the answer for `uri` asked for from `skip`.  The node's cursor moves one page on in
the 32-bit word, which aborts when it overflows. -/
def merge (e : Explorer) (uri : String) (answer : Neighborhood) (skip : Nat) (o : SprawlOptions)
    (maxResprawls : Nat) : Except Abort (Merged × Explorer) := do
  let (nodesAdded, fresh, m) := e.addNodes uri answer.nodes e.model
  let (edgesAdded, m) := e.addEdges answer.edges m
  let (m, refreshed) ← match m.node? uri with
    | none => pure (m, false)
    | some nd =>
      let nd := if o.isSeed then { nd with isSeed := true, pinned := true } else nd
      let (nd, refreshed) := match answer.pathTotals with
        | some t => ({ nd with pathTotals := some t }, true)
        | none => (nd, false)
      let nd ← if o.advancesCursor then do
          let next ← addWord skip e.perTypeLimit
          pure { nd with skip := next }
        else pure nd
      pure ({ m with nodes := m.nodes.insert uri nd }, refreshed)
  let panes := if refreshed then (e.panes.markDirty uri).2 else e.panes
  let e := { e with model := m, panes := panes }
  let resprawl := nodesAdded == 0 && !o.metaOnly && o.targetType.isNone &&
    decide (o.resprawl < maxResprawls) && e.hasUnplotted uri
  return (⟨nodesAdded, edgesAdded, fresh, resprawl⟩, e)

/-- The settle pass: relayout, and on the first load with something plotted, pin the seeds and
ask for a view fit. -/
def settle (e : Explorer) (scale : LinkScale) : Except Abort (SettleReport × Explorer) := do
  let (normalized, e) ← e.relayout scale
  let firstLoad := e.firstLoad && decide (0 < e.model.nodeCount)
  let e := if firstLoad then
      { e with
        model := e.seeds.foldl (fun m s => m.modifyNode s (fun n => { n with pinned := true })) e.model,
        fitRequested := true, firstLoad := false }
    else e
  return (⟨e.model.nodeCount, e.model.edgeCount, normalized, firstLoad⟩, e)

/-- Remove the nodes of a worklist, last in first out, each one excluded with its pane closed;
with `isolated`, neighbours left without edges (seeds apart) join the worklist.  Each round
uses one unit of fuel. -/
def extrudeLoop (isolated : Bool) : Nat → List String → List String → Explorer → List String × Explorer
  | 0, _, removed, e => (removed, e)
  | _ + 1, [], removed, e => (removed, e)
  | fuel + 1, current :: rest, removed, e =>
    match e.model.removeNode current with
    | (none, _) => extrudeLoop isolated fuel rest removed e
    | (some neighbors, m) =>
      let excluded := StrSet.insert current e.excluded
      let panes := (e.panes.closePane current).2
      let e := { e with model := m, excluded := excluded, panes := panes }
      let pushed := if isolated then
          (neighbors.filter fun n => m.containsNode n && m.degree n == 0 && !e.seeds.contains n).reverse
        else []
      extrudeLoop isolated fuel (pushed ++ rest) (removed ++ [current]) e

/-- Remove a node for the rest of the session, with, under `isolated`, the nodes it leaves
without edges (not seeds), and relayout; the removed URIs in order of removal. -/
def extrude (e : Explorer) (uri : String) (isolated : Bool) (scale : LinkScale) :
    Except Abort (List String × Explorer) := do
  let e := { e with excluded := StrSet.insert uri e.excluded, seeds := e.seeds.filter (· != uri) }
  let (removed, e) := extrudeLoop isolated (e.model.nodeCount + e.model.edgeCount + 2) [uri] [] e
  let (_, e) ← e.relayout scale
  return (removed, e)

/-- Change the page size of later sprawls. -/
def setPerTypeLimit (e : Explorer) (limit : Nat) : Except ClientError Explorer := do
  validatePerTypeLimit limit
  return { e with perTypeLimit := limit }

/-- Display every label under a new mode. -/
def setLabelMode (e : Explorer) (mode : LabelMode) : Explorer :=
  { e with labelMode := mode,
           model := e.model.mapNodes (fun n => { n with label := mode.format n.rawLabel }) }

/-- Change a node on screen, or fail with `node {uri}`. -/
def withNode (e : Explorer) (uri : String) (f : Node → Node) : Except ClientError Explorer :=
  if e.model.containsNode uri then .ok { e with model := e.model.modifyNode uri f }
  else .error (.notFound ("node " ++ uri))

/-- Select one node, and no other. -/
def select (e : Explorer) (uri : String) : Except ClientError Explorer :=
  if e.model.containsNode uri then
    .ok { e with model := e.model.mapNodes (fun n => { n with selected := n.uri == uri }) }
  else .error (.notFound ("node " ++ uri))

/-- Select no node. -/
def clearSelection (e : Explorer) : Explorer :=
  { e with model := e.model.mapNodes (fun n => { n with selected := false }) }

/-- Open the pane of a node on screen. -/
def openPane (e : Explorer) (uri : String) : Except ClientError (PaneSummary × Explorer) :=
  match PaneSummary.ofNode e.model uri with
  | some p => .ok (p, { e with panes := e.panes.openPane uri })
  | none => .error (.notFound ("node " ++ uri))

/-- The panes to refresh, now clean; a pane whose node is gone is left out. -/
def takeDirtyPanes (e : Explorer) : List PaneSummary × Explorer :=
  let (dirty, panes) := e.panes.takeDirty
  (dirty.filterMap (PaneSummary.ofNode e.model), { e with panes := panes })

/-- Take the request for a view fit. -/
def takeFitRequest (e : Explorer) : Bool × Explorer := (e.fitRequested, { e with fitRequested := false })

/-- Add a collapse; whether it is new. -/
def addCollapse (c : Collapse) (e : Explorer) : Bool × Explorer :=
  if e.collapses.contains c then (false, e) else (true, { e with collapses := e.collapses ++ [c] })

/-- Remove a collapse; whether it was there. -/
def dropCollapse (c : Collapse) (e : Explorer) : Bool × Explorer :=
  let kept := e.collapses.filter (· != c)
  (kept.length != e.collapses.length, { e with collapses := kept })

/-- Hide a type; whether it was shown. -/
def hideType (t : String) (e : Explorer) : Bool × Explorer :=
  (!e.hiddenTypes.contains t, { e with hiddenTypes := StrSet.insert t e.hiddenTypes })

/-- Show a hidden type again; whether it was hidden. -/
def unhideType (t : String) (e : Explorer) : Bool × Explorer :=
  (e.hiddenTypes.contains t, { e with hiddenTypes := e.hiddenTypes.erase t })

/-- Restrict a type to the members of a view; whether the filter changed. -/
def setFilterView (t v : String) (e : Explorer) : Bool × Explorer :=
  (e.filterViews.lookup t != some v, { e with filterViews := e.filterViews.insert t v })

/-- Lift the view filter of a type; whether there was one. -/
def clearFilterView (t : String) (e : Explorer) : Bool × Explorer :=
  (e.filterViews.containsKey t, { e with filterViews := e.filterViews.erase t })

/-- The whole state as a document. -/
def snapshot (e : Explorer) : Json :=
  Json.mkObj [("nodes", .arr (e.model.nodeList.map Node.toJson)),
    ("edges", .arr (e.model.edgeList.map Edge.toJson)),
    ("seeds", .arr (e.seeds.map .str)), ("excluded", .arr (e.excluded.map .str)),
    ("hidden_types", .arr (e.hiddenTypes.map .str)),
    ("collapses", .arr (e.collapses.map fun c => .str c.wire)),
    ("filter_views", .obj (e.filterViews.map fun (k, v) => (k, .str v))),
    ("per_type_limit", Json.ofNat e.perTypeLimit), ("label_mode", e.labelMode.toJson),
    ("legend", e.legend.toJson)]

end Explorer

end CorpusBench
