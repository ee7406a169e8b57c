import CorpusBench.Json.Value

/-!
# Group colours and the legend

Each group (content type) is drawn in a colour of a fixed palette of twelve, chosen by the
FNV-1a hash of the group's UTF-8 bytes, so a group keeps its colour across pages and sessions.
Seed nodes are drawn in one colour of their own.  The legend lists every plotted group in name
order with its colour and its number of nodes.

## Main definitions

* `groupColor` — the colour of a group.
* `Legend` — the legend, with `ofGroups` and `colorFor`.
-/

namespace CorpusBench

/-- The colour of seed nodes. -/
def seedNodeColor : String := "#f5c518"

/-- The palette groups are hashed into. -/
def palette : List String :=
  ["#1f77b4", "#ff7f0e", "#2ca02c", "#d62728", "#9467bd", "#8c564b", "#e377c2", "#7f7f7f",
   "#bcbd22", "#17becf", "#393b79", "#637939"]

/-- The 64-bit FNV-1a hash of a byte sequence. -/
def fnv1a (bytes : List UInt8) : UInt64 :=
  bytes.foldl (fun h b => (h ^^^ b.toUInt64) * 0x100000001b3) 0xcbf29ce484222325

/-- The colour of a group: the palette entry its hash selects. -/
def groupColor (group : String) : String :=
  palette.getD ((fnv1a group.toUTF8.toList).toNat % palette.length) "#1f77b4"

/-- One line of the legend. -/
structure LegendEntry where
  group : String
  color : String
  count : Nat
  deriving DecidableEq, Repr

/-- The legend of a graph. -/
structure Legend where
  entries : List LegendEntry := []
  seedColor : String := ""
  deriving DecidableEq, Repr

namespace Legend

/-- Count the occurrences of each name, in name order. -/
def tally : List String → StrMap Nat → StrMap Nat
  | [], m => m
  | g :: gs, m => tally gs (StrMap.insert g ((StrMap.lookup g m).getD 0 + 1) m)

/-- The legend of the plotted nodes' groups. -/
def ofGroups (groups : List String) : Legend :=
  { entries := (tally groups []).map (fun (g, n) => ⟨g, groupColor g, n⟩), seedColor := seedNodeColor }

/-- The colour a node is drawn with: the seed colour for seeds, else its group's entry, else
its group's palette colour. -/
def colorFor (l : Legend) (group : String) (isSeed : Bool) : String :=
  if isSeed then l.seedColor
  else
    match l.entries.find? (fun e => e.group == group) with
    | some e => e.color
    | none => groupColor group

def toJson (l : Legend) : Json :=
  Json.mkObj [("entries", .arr (l.entries.map (fun e =>
      Json.mkObj [("group", .str e.group), ("color", .str e.color), ("count", Json.ofNat e.count)]))),
    ("seed_color", .str l.seedColor)]

end Legend

end CorpusBench
