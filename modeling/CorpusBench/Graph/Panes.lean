import CorpusBench.Graph.Model

/-!
# Detail panes

A detail pane shows one node with, for each relationship path the server reported, how many
related items are plotted and how many exist.  Open panes are kept by URI with a *dirty* flag,
raised when new totals arrive for the node, so that the view refreshes exactly those panes.

## Main definitions

* `PanePath`, `PaneSummary` — the contents of a pane.
* `DetailPanes` — the open panes and their dirty flags.

## Main results

* `DetailPanes.markDirty_closed` — a closed pane never becomes dirty.
-/

namespace CorpusBench

/-- One relationship path of a pane: its plotted and total items. -/
structure PanePath where
  path : String
  plotted : Nat
  total : Nat

namespace PanePath

/-- Whether some related items are not plotted yet. -/
def hasMore (p : PanePath) : Bool := decide (p.plotted < p.total)

def toJson (p : PanePath) : Json :=
  Json.mkObj [("path", .str p.path), ("plotted", Json.ofNat p.plotted), ("total", Json.ofNat p.total)]

end PanePath

/-- The contents of a pane. -/
structure PaneSummary where
  uri : String
  label : String
  group : String
  paths : List PanePath

namespace PaneSummary

/-- The pane of a node on screen: its raw label, and one path per reported total, counting
the plotted neighbours of that group. -/
def ofNode (g : GraphModel) (uri : String) : Option PaneSummary :=
  (g.node? uri).map fun n =>
    let plotted := g.neighborCounts uri
    { uri := n.uri, label := n.rawLabel, group := n.group,
      paths := (n.pathTotals.getD []).map fun (path, total) =>
        { path := path, plotted := (plotted.lookup path).getD 0, total := total } }

def toJson (p : PaneSummary) : Json :=
  Json.mkObj [("uri", .str p.uri), ("label", .str p.label), ("group", .str p.group),
    ("paths", .arr (p.paths.map PanePath.toJson))]

end PaneSummary

/-- The open panes by URI, each with its dirty flag. -/
structure DetailPanes where
  panes : StrMap Bool := []

namespace DetailPanes

/-- Open a pane, clean; opening an open pane cleans it. -/
def openPane (d : DetailPanes) (uri : String) : DetailPanes := ⟨d.panes.insert uri false⟩

/-- Close a pane; whether it was open. -/
def closePane (d : DetailPanes) (uri : String) : Bool × DetailPanes :=
  (d.panes.containsKey uri, ⟨d.panes.erase uri⟩)

def isOpen (d : DetailPanes) (uri : String) : Bool := d.panes.containsKey uri

/-- The open panes in URI order. -/
def openUris (d : DetailPanes) : List String := d.panes.keys

/-- Mark an open pane dirty; whether it is open. -/
def markDirty (d : DetailPanes) (uri : String) : Bool × DetailPanes :=
  if d.isOpen uri then (true, ⟨d.panes.insert uri true⟩) else (false, d)

/-- The dirty panes in URI order, all made clean. -/
def takeDirty (d : DetailPanes) : List String × DetailPanes :=
  ((d.panes.filter (·.2)).map Prod.fst, ⟨d.panes.map fun (k, _) => (k, false)⟩)

theorem markDirty_closed (d : DetailPanes) (uri : String) (h : d.isOpen uri = false) :
    d.markDirty uri = (false, d) := by
  simp [markDirty, h]

end DetailPanes

end CorpusBench
