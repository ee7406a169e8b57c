import CorpusBench.Error
import CorpusBench.Json.Decode

/-!
# Collapsed relationships

A collapse elides the nodes of a proxy content type that sit between two other types: written
`From.Proxy.To`, it turns every path `From – Proxy – To` into one edge `From – To` whose weight
counts the paths.  Seen from the `To` side the same edges carry the reverse title
`To.Proxy.From`.

## Main definitions

* `Collapse` — the three content types.
* `Collapse.wire`, `reverseWire`, `parse` — the written forms.
* `Collapse.joins` — whether an edge between two groups is the collapse's edge.
-/

namespace CorpusBench

/-- An elided proxy type between two content types. -/
structure Collapse where
  fromType : String
  proxyType : String
  toType : String
  deriving DecidableEq, Repr, Inhabited

namespace Collapse

/-- The written form `from.proxy.to`. -/
def wire (c : Collapse) : String := c.fromType ++ "." ++ c.proxyType ++ "." ++ c.toType

/-- The title of edges seen from the `to` side: `to.proxy.from`. -/
def reverseWire (c : Collapse) : String := c.toType ++ "." ++ c.proxyType ++ "." ++ c.fromType

/-- The collapse read backwards. -/
def reverse (c : Collapse) : Collapse := ⟨c.toType, c.proxyType, c.fromType⟩

/-- Both ends are the same content type. -/
def isSymmetric (c : Collapse) : Bool := c.fromType == c.toType

/-- Whether an edge between groups `a` and `b` joins the two ends, in either direction. -/
def joins (c : Collapse) (a b : String) : Bool :=
  (a == c.fromType && b == c.toType) || (a == c.toType && b == c.fromType)

/-- Read `From.Proxy.To`: three non-empty parts between two dots. -/
def parse (s : String) : Except ClientError Collapse :=
  match s.splitOn "." with
  | [f, p, t] =>
    if f ≠ "" ∧ p ≠ "" ∧ t ≠ "" then .ok ⟨f, p, t⟩
    else .error (.invalidInput ("collapse must look like From.Proxy.To, got: " ++ s))
  | _ => .error (.invalidInput ("collapse must look like From.Proxy.To, got: " ++ s))

end Collapse

namespace Collapse

/-- A collapse as a document: its three types by name. -/
def toJson (c : Collapse) : Json :=
  Json.mkObj [("from_ct", .str c.fromType), ("proxy_ct", .str c.proxyType),
    ("to_ct", .str c.toType)]

def decoder : Decoder Collapse := Decoder.record "CollapsedRelationship" <|
  Collapse.mk <$> RecordReader.field "from_ct" Decoder.string
    <*> RecordReader.field "proxy_ct" Decoder.string <*> RecordReader.field "to_ct" Decoder.string

end Collapse

end CorpusBench
