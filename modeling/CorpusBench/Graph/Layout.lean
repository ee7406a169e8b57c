import CorpusBench.Graph.Model
import CorpusBench.Graph.Legend
import CorpusBench.Content.Collapse
import CorpusBench.Decimal.Text
import CorpusBench.Error

/-!
# Layout of the plotted graph

What a settle pass computes from the model, given the collapses in force:

* **Directions.**  A collapse `A.P.B` is drawn from `A` to `B`.  An edge titled `B.P.A` from a
  `B` node to an `A` node is the same relationship seen from the other end: it is folded (so
  that it cannot come back) and merged into the edge the other way, whose frequency grows by
  its own, or turned round when there is none.  For a symmetric collapse (`A.P.A`) only the
  edge whose source sorts after its target is turned.  A reverse edge whose forward edge was
  folded and is gone is left alone.
* **Thickness.**  The edges of a collapse (joining its end groups, titled by it either way)
  are scaled linearly from their least to their greatest frequency onto the thickness bounds;
  every other edge, and every edge of a collapse whose frequencies are all equal, gets the
  standard thickness.
* **Mass.**  A node of a collapse's end group weighs the sum of the frequencies of its edges,
  any other node its degree, within `1` and the mass cap.

Scaling onto bounds whose lower end exceeds the upper end aborts the run.

## Main definitions

* `LinkScale` — the thickness bounds and the mass cap.
* `scaleThickness` — one frequency onto the thickness bounds.
* `GraphModel.normalizeDirections`, `GraphModel.applyThickness`,
  `GraphModel.applyMass`.

## Main results

* `scaleThickness_flat` — a flat range of frequencies gives the standard
  thickness.
-/

namespace CorpusBench

/-- The thickness bounds of edges and the cap on node mass. -/
structure LinkScale where
  minThickness : Float := 1.0
  maxThickness : Float := 8.0
  defaultThickness : Float := 1.0
  maxNodeMass : Float := 10.0

/-- The gap between `1` and the next double, `2^-52`. -/
def doubleEpsilon : Float := 1.0 / 4503599627370496.0

/-- `x` within `[lo, hi]`; bounds out of order (or not numbers) abort the run. -/
def clampWithin (x lo hi : Float) : Except Abort Float :=
  if lo ≤ hi then .ok (if x < lo then lo else if x > hi then hi else x)
  else .error (.emptyClamp (Float.diagnosticText lo) (Float.diagnosticText hi))

/-- A frequency in the range `[lo, hi]` scaled linearly onto the thickness bounds; a range
that is empty, too narrow or infinite gives the standard thickness. -/
def scaleThickness (freq lo hi : Float) (s : LinkScale) : Except Abort Float :=
  let range := hi - lo
  if !range.isFinite || range ≤ doubleEpsilon then .ok s.defaultThickness
  else
    clampWithin (s.minThickness + (freq - lo) / range * (s.maxThickness - s.minThickness))
      s.minThickness s.maxThickness

theorem scaleThickness_flat (freq x : Float) (s : LinkScale) (h : (x - x ≤ doubleEpsilon) = true) :
    scaleThickness freq x x s = .ok s.defaultThickness := by
  unfold scaleThickness
  simp only at h ⊢
  simp [h]

namespace GraphModel

/-- The groups of the two ends of an edge, when both are on screen. -/
def endGroups (g : GraphModel) (e : Edge) : Option (String × String) :=
  match g.node? e.source, g.node? e.target with
  | some a, some b => some (a.group, b.group)
  | _, _ => none

/-- Whether an edge is a collapse seen from its far end. -/
def isReverse (g : GraphModel) (c : Collapse) (e : Edge) : Bool :=
  e.title == c.reverseWire &&
  match g.endGroups e with
  | some (a, b) => a == c.toType && b == c.fromType && (!c.isSymmetric || decide (e.target < e.source))
  | none => false

/-- Fold one reverse edge into its forward edge, or turn it round. -/
def turnEdge (c : Collapse) (acc : Nat × GraphModel) (i : String) : Nat × GraphModel :=
  let (n, g) := acc
  match g.foldEdge i with
  | (none, g) => (n, g)
  | (some e, g) =>
    let fwd := edgeId e.target e.source
    match g.edge? fwd with
    | some ex => (n + 1, { g with edges := g.edges.insert fwd { ex with freq := ex.freq + e.freq } })
    | none =>
      (n + 1, (g.addEdge { source := e.target, target := e.source, title := c.wire, freq := e.freq }).2)

/-- Bring the edges of one collapse into its direction. -/
def normalizeCollapse (acc : Nat × GraphModel) (c : Collapse) : Nat × GraphModel :=
  let g := acc.2
  let reversed := (g.edgeList.filter fun e =>
      let fwd := edgeId e.target e.source
      g.isReverse c e && ((g.edge? fwd).isSome || !g.isFolded fwd)).map Edge.id
  reversed.foldl (turnEdge c) acc

/-- Bring the edges of every collapse into its direction; the number of edges rewritten. -/
def normalizeDirections (g : GraphModel) (collapses : List Collapse) : Nat × GraphModel :=
  collapses.foldl normalizeCollapse (0, g)

/-- The index of the first collapse an edge belongs to. -/
def membership (g : GraphModel) (collapses : List Collapse) (e : Edge) : Option Nat :=
  match g.endGroups e with
  | none => none
  | some (a, b) =>
    collapses.findIdx? fun c => c.joins a b && (e.title == c.wire || e.title == c.reverseWire)

/-- The least and greatest frequency of the edges of each collapse, by index. -/
def freqRanges (g : GraphModel) (collapses : List Collapse) : List (Nat × Float × Float) :=
  g.edgeList.foldl (fun acc e =>
    match g.membership collapses e with
    | none => acc
    | some i =>
      match acc.lookup i with
      | none => acc ++ [(i, e.freq, e.freq)]
      | some (lo, hi) => acc.map fun (j, r) =>
        if j == i then (j, (min lo e.freq, max hi e.freq)) else (j, r)) []

/-- Set the thickness of every edge. -/
def applyThickness (g : GraphModel) (collapses : List Collapse) (s : LinkScale) :
    Except Abort GraphModel := do
  let ranges := g.freqRanges collapses
  let edges ← g.edges.mapM fun (k, e) => do
    let t ← match (g.membership collapses e).bind (fun i => ranges.lookup i) with
      | some (lo, hi) => scaleThickness e.freq lo hi s
      | none => pure s.defaultThickness
    return (k, { e with thickness := t })
  return { g with edges := edges }

/-- `x` within `[lo, hi]`, for bounds in order. -/
def clampFloat (x lo hi : Float) : Float := if x < lo then lo else if x > hi then hi else x

/-- Set the mass of every node. -/
def applyMass (g : GraphModel) (collapses : List Collapse) (s : LinkScale) : GraphModel :=
  let ends := collapses.flatMap fun c => [c.fromType, c.toType]
  let cap := if s.maxNodeMass ≥ 1.0 then s.maxNodeMass else 1.0
  g.mapNodes fun n =>
    let raw := if ends.contains n.group then
        (g.incidentEdges n.uri).foldl (fun acc e => acc + e.freq) 0.0
      else (g.degree n.uri).toFloat
    { n with mass := clampFloat raw 1.0 cap }

/-- The legend of the groups on screen. -/
def legend (g : GraphModel) : Legend := Legend.ofGroups (g.nodeList.map (·.group))

end GraphModel

end CorpusBench
