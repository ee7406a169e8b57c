import CorpusBench.Server.State
import CorpusBench.Content.Neighborhood

/-!
# Neighbourhoods on the server

How the server answers a neighbourhood request for one node.

1. The *direct* neighbours are the other ends of the relationships that touch the node, in the
   order the relationships were made; each comes with its relationship as an edge of
   frequency 1 in the relationship's own direction.
2. Each collapse `A.P.B` that starts or ends at the node's type replaces the neighbours of the
   proxy type `P` by the far ends: the records of the far type next to those proxies, other
   than the node.  A far end met through `n` paths becomes one edge from the node, of
   frequency `n`, titled by the collapse (reversed when the node is at its far end).  Far ends
   come in URI order.
3. Neighbours of a hidden type, of a type other than the target type, or outside the view
   that filters their type, are dropped, and so is every neighbour seen before.
4. The rest are grouped by type, in type order, and sorted by id within a group.

The answer holds the node itself and, from each group, the neighbours `skip` to
`skip + limit`; a metadata-only request holds no nodes.  Seed and metadata-only requests also
report the size of every group.

## Main definitions

* `Server.directNeighbors`, `Server.visibleNeighbors`.
* `Server.neighborhood` — the answer to a request.
-/

namespace CorpusBench

namespace Server

/-- A neighbour together with the edge that reaches it. -/
abbrev Reach := ContentUri × NetworkEdge

/-- The other ends of the relationships touching `u`, in the order of the relationships. -/
def directNeighbors (s : Server) (u : ContentUri) : List Reach :=
  s.links.filterMap fun l =>
    let other := if l.source = u then some l.target else if l.target = u then some l.source else none
    other.map fun o => (o, { source := l.source.render, target := l.target.render, title := l.title })

/-- Count one more path to `u` in a tally kept in URI order. -/
def tallyPath (u : ContentUri) : List (ContentUri × Nat) → List (ContentUri × Nat)
  | [] => [(u, 1)]
  | (v, n) :: rest =>
    match ContentUri.compareUri u v with
    | .lt => (u, 1) :: (v, n) :: rest
    | .eq => (v, n + 1) :: rest
    | .gt => (v, n) :: tallyPath u rest

/-- Replace the proxies of a collapse among the neighbours of `u` by the far ends they lead
to, weighted by the number of paths; a collapse not touching the type of `u` changes
nothing. -/
def applyCollapse (s : Server) (u : ContentUri) (found : List Reach) (c : Collapse) : List Reach :=
  let far? : Option (String × Bool) :=
    if u.contentType == c.fromType then some (c.toType, false)
    else if u.contentType == c.toType then some (c.fromType, true)
    else none
  match far? with
  | none => found
  | some (farType, reversed) =>
    let proxies := (found.filter (·.1.contentType == c.proxyType)).map Prod.fst
    let kept := found.filter (·.1.contentType != c.proxyType)
    let paths := proxies.foldl (fun acc p =>
      (s.directNeighbors p).foldl (fun acc (far, _) =>
        if far.contentType == farType && far != u then tallyPath far acc else acc) acc) []
    let title := if reversed then c.reverseWire else c.wire
    kept ++ paths.map fun (far, n) =>
      (far, { source := u.render, target := far.render, title := title, freq := n.toFloat })

/-- Whether a neighbour of type `ct` may be shown under the query's hidden types, target type
and view filters. -/
def admits (s : Server) (q : NetworkQuery) (n : ContentUri) : Bool :=
  let ct := n.contentType
  !q.hidden.contains ct &&
  (match q.targetType with
   | some t => ct == t
   | none => true) &&
  (match q.filters.lookup ct with
   | some viewId =>
     match s.views.lookup viewId with
     | some v => v.members.contains n.contentId
     | none => false
   | none => true)

/-- The neighbours of `u` that a query shows, grouped by type in type order, each group sorted
by id. -/
def visibleNeighbors (s : Server) (u : ContentUri) (q : NetworkQuery) : StrMap (List Reach) :=
  let all := q.collapses.foldl (applyCollapse s u) (s.directNeighbors u)
  let (grouped, _) := all.foldl (fun (acc : StrMap (List Reach) × List ContentUri) (n, e) =>
      let (g, seen) := acc
      if !admits s q n || seen.contains n then (g, seen)
      else (g.insert n.contentType ((g.lookup n.contentType).getD [] ++ [(n, e)]), n :: seen))
    ([], [])
  grouped.map fun (ct, xs) =>
    (ct, xs.mergeSort fun a b => compare a.1.contentId b.1.contentId != .gt)

/-- The node of a URI in an answer, labelled from its record. -/
def nodeOf (s : Server) (u : ContentUri) : NetworkNode := ⟨u.render, s.labelOf u, u.contentType⟩

/-- The answer to a neighbourhood request for `u`. -/
def neighborhood (s : Server) (u : ContentUri) (q : NetworkQuery) : Neighborhood :=
  let grouped := visibleNeighbors s u q
  let totals := if q.isSeed || q.metaOnly then some (grouped.map fun (ct, xs) => (ct, xs.length))
    else none
  if q.metaOnly then { pathTotals := totals }
  else
    let window := grouped.flatMap fun (_, xs) => (xs.drop q.skip).take q.limit
    { nodes := s.nodeOf u :: window.map (fun (n, _) => s.nodeOf n),
      edges := window.map Prod.snd,
      pathTotals := totals }

end Server

end CorpusBench
