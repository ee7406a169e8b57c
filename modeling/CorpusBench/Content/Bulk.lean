import CorpusBench.Json.Decode

/-!
# Bulk actions

A bulk action applies to a selection of records: every record matching the current search
(written `"all"`) or an explicit list of ids.  The actions are deleting (destructive, and
confirmed before it is sent), saving the selection as a named view, and exporting it in a
format.  The request carries the action's members, the selection and the search in force.

## Main definitions

* `ContentSelection`, `BulkAction`, `BulkRequest`.
-/

namespace CorpusBench

open RecordReader

/-- The records a bulk action applies to. -/
inductive ContentSelection where
  | all
  | ids (ids : List String)
  deriving DecidableEq, Repr

namespace ContentSelection

/-- Whether the selection is an empty list of ids. -/
def isEmpty : ContentSelection → Bool
  | .ids [] => true
  | _ => false

def toJson : ContentSelection → Json
  | .all => .str "all"
  | .ids xs => .arr (xs.map .str)

/-- `"all"` or an array of ids; any other text is an unknown sentinel. -/
def decoder : Decoder ContentSelection := fun j => do
  let raw ← Decoder.firstOf "Raw"
    [fun j => Sum.inl <$> Decoder.string j, fun j => Sum.inr <$> Decoder.list Decoder.string j] j
  match raw with
  | .inl "all" => .ok .all
  | .inl s => .error (.custom ("unknown selection sentinel: " ++ s))
  | .inr xs => .ok (.ids xs)

end ContentSelection

/-- A bulk operation on a selection. -/
inductive BulkAction where
  /-- Destructive: confirmed before it is sent. -/
  | delete
  | createView (name : String)
  | export (format : String)
  deriving DecidableEq, Repr

namespace BulkAction

def isDestructive : BulkAction → Bool
  | .delete => true
  | _ => false

/-- The members of an action: its name under `action`, and its data. -/
def members : BulkAction → List (String × Json)
  | .delete => [("action", .str "delete")]
  | .createView n => [("action", .str "create_view"), ("name", .str n)]
  | .export f => [("action", .str "export"), ("format", .str f)]

def toJson (a : BulkAction) : Json := Json.mkObj a.members

/-- The names of the actions. -/
def names : List String := ["delete", "create_view", "export"]

def decoder : Decoder BulkAction :=
  Decoder.internalTag "BulkAction" "action" names fun name payload =>
    match name with
    | "create_view" =>
      Decoder.record "variant BulkAction::CreateView" (BulkAction.createView <$> field "name" Decoder.string) payload
    | "export" =>
      Decoder.record "variant BulkAction::Export" (BulkAction.export <$> field "format" Decoder.string) payload
    | _ => .ok .delete

end BulkAction

/-- The body of a bulk-action request. -/
structure BulkRequest where
  action : BulkAction
  selection : ContentSelection
  /-- The search in force, so that `"all"` means the records the user saw. -/
  search : StrMap String := []

namespace BulkRequest

def toJson (r : BulkRequest) : Json :=
  Json.mkObj (r.action.members ++ [("selection", r.selection.toJson)] ++
    (if r.search.isEmpty then [] else [("search", .obj (r.search.map (fun (k, v) => (k, .str v))))]))

def decoder : Decoder BulkRequest := Decoder.recordMap "BulkActionRequest" <|
  (fun s search a => BulkRequest.mk a s search) <$> field "selection" ContentSelection.decoder
    <*> fieldOr "search" (Decoder.strMap Decoder.string) [] <*> flatten BulkAction.decoder

end BulkRequest

end CorpusBench
