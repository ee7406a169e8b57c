import CorpusBench.Content.Collapse
import CorpusBench.Data.StrMap

/-!
# Neighbourhood queries

The parameters of one request for a node's neighbourhood: a window (`per_type_skip` and
`per_type_limit`) into each group of neighbours of one type, the collapses and hidden types in
force, view filters per content type, and three switches (a seed request, metadata only, one
target type).  On the wire they become query pairs in a fixed order; empty lists and unset
switches are left out.

## Main definitions

* `NetworkQuery` — the parameters.
* `NetworkQuery.toPairs` — the query pairs.
-/

namespace CorpusBench

/-- The parameters of a neighbourhood request. -/
structure NetworkQuery where
  skip : Nat := 0
  limit : Nat := 0
  collapses : List Collapse := []
  hidden : List String := []
  /-- Content type to the id of the view its neighbours must belong to. -/
  filters : StrMap String := []
  isSeed : Bool := false
  metaOnly : Bool := false
  targetType : Option String := none
  deriving Repr, Inhabited

/-- Query parameters as ordered key/value pairs. -/
abbrev QueryPairs := List (String × String)

namespace NetworkQuery

/-- The wire pairs: window first, then collapses, hidden types, filters (`type:view`) and the
switches, lists joined by commas. -/
def toPairs (q : NetworkQuery) : QueryPairs :=
  [("per_type_skip", toString q.skip), ("per_type_limit", toString q.limit)] ++
  (if q.collapses.isEmpty then []
   else [("collapses", ",".intercalate (q.collapses.map Collapse.wire))]) ++
  (if q.hidden.isEmpty then [] else [("hidden", ",".intercalate q.hidden)]) ++
  (if q.filters.isEmpty then []
   else [("filters", ",".intercalate (q.filters.map (fun (t, v) => t ++ ":" ++ v)))]) ++
  (if q.isSeed then [("is-seed", "y")] else []) ++
  (if q.metaOnly then [("meta-only", "y")] else []) ++
  (match q.targetType with
   | some t => [("target-ct", t)]
   | none => [])

end NetworkQuery

end CorpusBench
