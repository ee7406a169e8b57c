import CorpusBench.Command.Args
import CorpusBench.Content.Query
import CorpusBench.Content.Uri
import CorpusBench.Text.Entities

/-!
# Commands on the core vocabulary

Entity decoding, content URIs, collapses, neighbourhood queries and the status mapping, each as
one command from a request object to a result.

## Main definitions

* `Command.Core.networkQuery` — a `NetworkQuery` read from the members of a
  request, shared by every command that asks for a neighbourhood.
-/

namespace CorpusBench

namespace Command

namespace Core

/-- A content URI with its parts and its canonical text. -/
def uriJson (u : ContentUri) : Json :=
  Json.mkObj [("corpus_id", .str u.corpusId), ("content_type", .str u.contentType),
    ("content_id", .str u.contentId), ("display", .str u.render)]

/-- A pair of type names as a JSON array. -/
def pairJson (p : String × String) : Json := .arr [.str p.1, .str p.2]

/-- The parameters of a neighbourhood request, read from the members of `req`. -/
def networkQuery (req : Json) : Step NetworkQuery := do
  let skip ← Args.natOr req "per_type_skip" .u32 0
  let limit ← Args.natOr req "per_type_limit" .u32 0
  let collapseTexts ← Args.strListOr req "collapses"
  let hidden ← Args.strListOr req "hidden"
  let filterFields ← Args.objectOr req "filters"
  let filters ← filterFields.mapM (fun (k, v) => do return (k, ← Args.asStr "filters" v))
  let isSeed ← Args.boolOr req "is_seed" false
  let metaOnly ← Args.boolOr req "meta_only" false
  let targetType ← Args.strOpt req "target_ct"
  let collapses ← liftClient (collapseTexts.mapM Collapse.parse)
  return { skip, limit, collapses, hidden, filters, isSeed, metaOnly, targetType }

/-- `decode_entities`. -/
def decodeEntitiesCmd (req : Json) : Step Json := do
  return .str (Text.decodeEntities (← Args.str req "s"))

/-- `content_uri`. -/
def contentUriCmd (req : Json) : Step Json := do
  return uriJson (← liftClient (ContentUri.parse (← Args.str req "s")))

/-- `collapse_parse`. -/
def collapseParseCmd (req : Json) : Step Json := do
  let s ← Args.str req "s"
  let pairs ← Args.pairsOr req "pairs"
  let c ← liftClient (Collapse.parse s)
  return Json.mkObj [("from_ct", .str c.fromType), ("proxy_ct", .str c.proxyType),
    ("to_ct", .str c.toType), ("wire", .str c.wire), ("reverse_wire", .str c.reverseWire),
    ("symmetric", .bool c.isSymmetric),
    ("joins", .arr (pairs.map (fun (a, b) => .bool (c.joins a b))))]

/-- `network_query`. -/
def networkQueryCmd (req : Json) : Step Json := do
  let q ← networkQuery req
  return Json.mkObj [("pairs", .arr (q.toPairs.map pairJson))]

/-- `error_from_status`. -/
def errorFromStatusCmd (req : Json) : Step Json := do
  let status ← Args.nat req "status" .u16
  let body ← Args.str req "body"
  let e := ClientError.ofStatus status body
  return Json.mkObj [("kind", .str e.kind), ("message", .str e.message),
    ("retryable", .bool e.isRetryable), ("auth", .bool e.isAuth)]

end Core

end Command

end CorpusBench
