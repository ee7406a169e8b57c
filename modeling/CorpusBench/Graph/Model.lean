import CorpusBench.Graph.Label
import CorpusBench.Json.Write

/-!
# The plotted graph

The nodes and edges on screen.  A node is named by its content URI and carries its label (raw
and as displayed), its group (the content type), the cursor of its next page of neighbours,
the relationship totals the server reported for it, and its display flags.  An edge joins
two nodes in one direction; its id `{from}-{to}` is determined by its ends, so there is at most
one edge each way between two nodes.

Besides nodes and edges the model keeps

* the incidence of every node: the ids of the edges touching it, so that a degree is a lookup;
* the *folded* edge ids: edges merged into their reverse, which may not come back.

## Main definitions

* `Node`, `Edge`, `GraphModel`.
* `GraphModel.addNode`, `addEdge`, `removeEdge`, `foldEdge`, `removeNode`.
* `GraphModel.degree`, `GraphModel.neighborCounts`.

## Main results

* `GraphModel.addNode_present` — adding a node that is there changes nothing.
-/

namespace CorpusBench

/-- A node on screen. -/
structure Node where
  uri : String
  rawLabel : String
  label : String
  group : String
  /-- Where the next page of neighbours starts. -/
  skip : Nat := 0
  /-- Relationship path to the number of related items, as last reported. -/
  pathTotals : Option (StrMap Nat) := none
  pinned : Bool := false
  selected : Bool := false
  isSeed : Bool := false
  mass : Float := 1.0

namespace Node

/-- A new node, its label displayed under `mode`. -/
def new (uri rawLabel group : String) (mode : LabelMode) : Node :=
  { uri := uri, rawLabel := rawLabel, label := mode.format rawLabel, group := group }

/-- Relationship totals as a document. -/
def totalsJson (m : StrMap Nat) : Json := .obj (m.map fun (k, v) => (k, Json.ofNat v))

def toJson (n : Node) : Json :=
  Json.mkObj [("uri", .str n.uri), ("raw_label", .str n.rawLabel), ("label", .str n.label),
    ("group", .str n.group), ("skip", Json.ofNat n.skip),
    ("meta", Json.ofOption totalsJson n.pathTotals), ("pinned", .bool n.pinned),
    ("selected", .bool n.selected), ("is_seed", .bool n.isSeed), ("mass", Json.ofFloat n.mass)]

end Node

/-- The id of the edge from `a` to `b`. -/
def edgeId (a b : String) : String := a ++ "-" ++ b

/-- The standard thickness of an edge. -/
def standardThickness : Float := 1.0

/-- A directed edge on screen. -/
structure Edge where
  source : String
  target : String
  title : String
  freq : Float
  thickness : Float := standardThickness

namespace Edge

/-- The id of an edge, from its ends. -/
def id (e : Edge) : String := edgeId e.source e.target

/-- The other end of an edge seen from `uri`, if `uri` is an end. -/
def other (e : Edge) (uri : String) : Option String :=
  if e.source == uri then some e.target
  else if e.target == uri then some e.source
  else none

def toJson (e : Edge) : Json :=
  Json.mkObj [("id", .str e.id), ("from", .str e.source), ("to", .str e.target),
    ("title", .str e.title), ("freq", Json.ofFloat e.freq), ("thickness", Json.ofFloat e.thickness)]

end Edge

/-- The nodes and edges on screen, with incidence and folded edges. -/
structure GraphModel where
  nodes : StrMap Node := []
  edges : StrMap Edge := []
  /-- Node to the ids of the edges touching it. -/
  incidence : StrMap StrSet := []
  folded : StrSet := []

namespace GraphModel

/-- The node of a URI. -/
def node? (g : GraphModel) (uri : String) : Option Node := g.nodes.lookup uri

/-- The edge of an id. -/
def edge? (g : GraphModel) (i : String) : Option Edge := g.edges.lookup i

def containsNode (g : GraphModel) (uri : String) : Bool := g.nodes.containsKey uri

/-- Whether an id is taken: by an edge on screen or by a folded one. -/
def containsEdge (g : GraphModel) (i : String) : Bool := g.edges.containsKey i || g.folded.contains i

def isFolded (g : GraphModel) (i : String) : Bool := g.folded.contains i

def nodeCount (g : GraphModel) : Nat := g.nodes.length

def edgeCount (g : GraphModel) : Nat := g.edges.length

/-- Change the node of a URI, if present. -/
def modifyNode (g : GraphModel) (uri : String) (f : Node → Node) : GraphModel :=
  { g with nodes := g.nodes.modify uri f }

/-- Change every node. -/
def mapNodes (g : GraphModel) (f : Node → Node) : GraphModel :=
  { g with nodes := g.nodes.map fun (k, n) => (k, f n) }

/-- Change every edge. -/
def mapEdges (g : GraphModel) (f : Edge → Edge) : GraphModel :=
  { g with edges := g.edges.map fun (k, e) => (k, f e) }

/-- Add a node, unless its URI is taken; whether it was added. -/
def addNode (g : GraphModel) (n : Node) : Bool × GraphModel :=
  if g.containsNode n.uri then (false, g)
  else
    let inc := if g.incidence.containsKey n.uri then g.incidence else g.incidence.insert n.uri []
    (true, { g with nodes := g.nodes.insert n.uri n, incidence := inc })

/-- Record an edge id in the incidence of a node. -/
def touch (inc : StrMap StrSet) (uri i : String) : StrMap StrSet :=
  inc.insert uri (StrSet.insert i ((inc.lookup uri).getD []))

/-- Add an edge, unless its id is taken (also by a folded edge) or an end is missing; whether
it was added. -/
def addEdge (g : GraphModel) (e : Edge) : Bool × GraphModel :=
  if g.containsEdge e.id || !g.containsNode e.source || !g.containsNode e.target then (false, g)
  else
    let inc := touch (touch g.incidence e.source e.id) e.target e.id
    (true, { g with edges := g.edges.insert e.id e, incidence := inc })

/-- Remove an edge; the removed edge. -/
def removeEdge (g : GraphModel) (i : String) : Option Edge × GraphModel :=
  match g.edges.lookup i with
  | none => (none, g)
  | some e =>
    let inc := [e.source, e.target].foldl (fun inc uri => inc.modify uri (StrSet.erase i)) g.incidence
    (some e, { g with edges := g.edges.erase i, incidence := inc })

/-- Remove an edge and keep its id folded, so that it cannot be added again. -/
def foldEdge (g : GraphModel) (i : String) : Option Edge × GraphModel :=
  match g.removeEdge i with
  | (none, g) => (none, g)
  | (some e, g) => (some e, { g with folded := StrSet.insert e.id g.folded })

/-- Remove a node and its edges; the other ends of those edges in edge-id order (a loop does
not count), or `none` when the node is absent. -/
def removeNode (g : GraphModel) (uri : String) : Option (List String) × GraphModel :=
  if !g.containsNode uri then (none, g)
  else
    let ids := (g.incidence.lookup uri).getD []
    let g := { g with nodes := g.nodes.erase uri, incidence := g.incidence.erase uri }
    let (others, g) := ids.foldl (fun (acc : List String × GraphModel) i =>
        let (others, g) := acc
        match g.removeEdge i with
        | (some e, g) =>
          match e.other uri with
          | some o => (if o != uri then others ++ [o] else others, g)
          | none => (others, g)
        | (none, g) => (others, g))
      ([], g)
    (some others, g)

/-- The edges touching a node, in id order. -/
def incidentEdges (g : GraphModel) (uri : String) : List Edge :=
  ((g.incidence.lookup uri).getD []).filterMap g.edge?

/-- The number of edges touching a node. -/
def degree (g : GraphModel) (uri : String) : Nat := ((g.incidence.lookup uri).getD []).length

/-- The number of distinct neighbours of a node in each group; a loop makes the node its own
neighbour. -/
def neighborCounts (g : GraphModel) (uri : String) : StrMap Nat :=
  let neighbors := StrSet.ofList ((g.incidentEdges uri).filterMap (·.other uri))
  neighbors.foldl (fun acc n =>
    match g.node? n with
    | some nd => acc.insert nd.group ((acc.lookup nd.group).getD 0 + 1)
    | none => acc) []

/-- The nodes in URI order. -/
def nodeList (g : GraphModel) : List Node := g.nodes.map Prod.snd

/-- The edges in id order. -/
def edgeList (g : GraphModel) : List Edge := g.edges.map Prod.snd

theorem addNode_present (g : GraphModel) (n : Node) (h : g.containsNode n.uri = true) :
    g.addNode n = (false, g) := by
  simp [addNode, h]

end GraphModel

end CorpusBench
