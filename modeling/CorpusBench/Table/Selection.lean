import CorpusBench.Content.Bulk

/-!
# Row selection

The rows a bulk action applies to: every record matching the search, or an explicit set of
ids.  The two exclude each other: while every record is selected, single rows cannot be
toggled.

## Main definitions

* `Selection`, with `toggle`, `isSelected` and `toBulk`.

## Main results

* `Selection.toggle_all` — toggling a row of the whole selection changes nothing.
-/

namespace CorpusBench

/-- Every record, or a set of ids. -/
inductive Selection where
  | all
  | ids (set : StrSet)
  deriving DecidableEq, Repr

namespace Selection

/-- No row selected. -/
def none : Selection := .ids []

def isAll : Selection → Bool
  | .all => true
  | _ => false

def isEmpty : Selection → Bool
  | .ids [] => true
  | _ => false

def isSelected (s : Selection) (id : String) : Bool :=
  match s with
  | .all => true
  | .ids set => set.contains id

/-- Toggle one row, giving its new state; while every record is selected nothing changes and
there is no state to give. -/
def toggle (s : Selection) (id : String) : Selection × Option Bool :=
  match s with
  | .all => (.all, Option.none)
  | .ids set =>
    if set.contains id then (.ids (set.erase id), some false)
    else (.ids (set.insert id), some true)

theorem toggle_all (id : String) : Selection.all.toggle id = (.all, Option.none) := rfl

/-- The selection a bulk request carries. -/
def toBulk : Selection → ContentSelection
  | .all => .all
  | .ids set => .ids set

def toJson : Selection → Json
  | .all => .str "all"
  | .ids set => Json.mkObj [("ids", .arr (set.map .str))]

def decoder : Decoder Selection := fun j => do
  let (name, payload) ← Decoder.externalTag ["all", "ids"] j
  if name = "all" then do
    Decoder.unitPayload payload
    return .all
  else Selection.ids <$> Decoder.newtypePayload Decoder.strSet payload

end Selection

/-- A page the table asks for: by number, or by the cursor the server gave. -/
inductive PageRequest where
  | number (n : Nat)
  | token (t : String)
  deriving DecidableEq, Repr

namespace PageRequest

/-- The key under which a request is not asked twice; page numbers are only comparable at the
same page size. -/
def key (p : PageRequest) (pageSize : Nat) : String :=
  match p with
  | .number n => toString pageSize ++ ":" ++ toString n
  | .token t => "token:" ++ t

def toJson : PageRequest → Json
  | .number n => Json.mkObj [("number", Json.ofNat n)]
  | .token t => Json.mkObj [("token", .str t)]

def decoder : Decoder PageRequest := fun j => do
  let (name, payload) ← Decoder.externalTag ["number", "token"] j
  if name = "number" then PageRequest.number <$> Decoder.newtypePayload (Decoder.word .u32) payload
  else PageRequest.token <$> Decoder.newtypePayload Decoder.string payload

end PageRequest

end CorpusBench
