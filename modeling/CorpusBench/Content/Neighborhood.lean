import CorpusBench.Content.Collapse

/-!
# Neighbourhoods

The answer to a neighbourhood request: the nodes (each named by its content URI, with a label
and the group of its content type), the edges between them with a title and a frequency, and,
for seed and metadata requests, the number of related items the server knows for each
relationship path of the requested node.

## Main definitions

* `NetworkNode`, `NetworkEdge`, `Neighborhood`.
-/

namespace CorpusBench

open RecordReader

/-- A node of a neighbourhood; `id` is its content URI. -/
structure NetworkNode where
  id : String
  label : String := ""
  group : String

namespace NetworkNode

def toJson (n : NetworkNode) : Json :=
  Json.mkObj [("id", .str n.id), ("label", .str n.label), ("group", .str n.group)]

def decoder : Decoder NetworkNode := Decoder.record "NetworkNode" <|
  NetworkNode.mk <$> field "id" Decoder.string <*> fieldOr "label" Decoder.string ""
    <*> field "group" Decoder.string

end NetworkNode

/-- An edge of a neighbourhood. -/
structure NetworkEdge where
  source : String
  target : String
  title : String := ""
  freq : Float := 1.0

namespace NetworkEdge

def toJson (e : NetworkEdge) : Json :=
  Json.mkObj [("from", .str e.source), ("to", .str e.target), ("title", .str e.title),
    ("freq", Json.ofFloat e.freq)]

def decoder : Decoder NetworkEdge := Decoder.record "NetworkEdge" <|
  NetworkEdge.mk <$> field "from" Decoder.string <*> field "to" Decoder.string
    <*> fieldOr "title" Decoder.string "" <*> fieldOr "freq" Decoder.float 1.0

end NetworkEdge

/-- The answer to a neighbourhood request. -/
structure Neighborhood where
  nodes : List NetworkNode := []
  edges : List NetworkEdge := []
  /-- Relationship path to the number of related items. -/
  pathTotals : Option (StrMap Nat) := none

namespace Neighborhood

def toJson (n : Neighborhood) : Json :=
  Json.mkObj ([("nodes", .arr (n.nodes.map NetworkNode.toJson)),
    ("edges", .arr (n.edges.map NetworkEdge.toJson))] ++
    (match n.pathTotals with
     | some m => [("meta", .obj (m.map (fun (k, v) => (k, Json.ofNat v))))]
     | none => []))

def decoder : Decoder Neighborhood := Decoder.record "NetworkNeighborhood" <|
  Neighborhood.mk <$> fieldOr "nodes" (Decoder.list NetworkNode.decoder) []
    <*> fieldOr "edges" (Decoder.list NetworkEdge.decoder) []
    <*> optFieldOr "meta" (Decoder.strMap (Decoder.word .u64))

end Neighborhood

end CorpusBench
