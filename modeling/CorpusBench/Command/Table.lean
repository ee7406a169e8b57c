import CorpusBench.Command.Args
import CorpusBench.Table.Search
import CorpusBench.Table.Selection

/-!
# Commands on search state and selection

Search keys and directions, and sessions of steps on a search state or a selection.
-/

namespace CorpusBench

namespace Command

namespace Table

/-- A search type by name. -/
def searchTypeArg (req : Json) : Step SearchType := do
  let name ← Args.str req "type"
  match SearchType.all.find? (fun t => t.name == name) with
  | some t => return t
  | none => bad ("unknown search type " ++ name)

/-- Query pairs as an array of `[key, value]`. -/
def pairsJson (pairs : QueryPairs) : Json := .arr (pairs.map (fun (k, v) => .arr [.str k, .str v]))

/-- A map of strings as an object. -/
def strMapJson (m : StrMap String) : Json := .obj (m.map (fun (k, v) => (k, .str v)))

/-- A search state with its query pairs. -/
def searchJson (s : SearchState) : Json :=
  Json.mkObj [("state", s.toJson), ("pairs", pairsJson s.toPairs)]

/-- `split_key`. -/
def splitKeyCmd (req : Json) : Step Json := do
  match SearchType.splitKey (← Args.str req "key") with
  | some (t, field) => return .arr [.str t.name, .str field, .str t.keyPrefix]
  | none => return .null

/-- `sort_direction`. -/
def sortDirectionCmd (req : Json) : Step Json := do
  let d ← liftClient (SortDirection.ofText (← Args.str req "s"))
  return Json.mkObj [("value", d.toJson), ("toggled", d.toggled.toJson)]

/-- The search-state steps shared by tables: they change the state and answer `null`, a flag
or a direction. -/
def searchStep (s : SearchState) (op : Json) (name : String) : Option (Step (SearchState × Json)) :=
  match name with
  | "set_query" => some do return ((s.setQuery (← Args.str op "q")), .null)
  | "set_param" => some do
    let t ← searchTypeArg op
    return (s.setParam t (← Args.str op "field") (← Args.str op "value"), .null)
  | "set_content_view" => some do return (s.setContentView (← Args.strOpt op "view_id"), .null)
  | "remove_param" => some do
    let (s', removed) := s.removeParam (← Args.str op "key")
    return (s', .bool removed)
  | "order_by" => some do
    let (s', d) := s.orderBy (← Args.str op "field")
    return (s', d.toJson)
  | _ => none

/-- One step of a search-state session. -/
def searchStateStep (s : SearchState) (op : Json) : SearchState × Step Json :=
  let r : Step (SearchState × Json) := do
    let name ← Args.str op "op"
    match searchStep s op name with
    | some r => r
    | none =>
      match name with
      | "reset_page" => return (s.resetPage, .null)
      | "set_page" => return ({ s with page := ← Args.nat op "page" .u32 }, .null)
      | "set_token" => return ({ s with pageToken := ← Args.strOpt op "token" }, .null)
      | "search_params" => return (s, strMapJson s.searchParams)
      | "state" => return (s, searchJson s)
      | other => bad ("unknown search_state op " ++ other)
  match r with
  | .ok (s', v) => (s', .ok v)
  | .error e => (s, .error e)

/-- `search_state`. -/
def searchStateCmd (req : Json) : Step Json := do
  let init ← match ← Args.natOpt req "page_size" .u32 with
    | some n => pure (SearchState.new n)
    | none =>
      match Args.get? req "from_pairs" with
      | some _ => liftClient (SearchState.ofPairs (← Args.pairsOr req "from_pairs"))
      | none => pure (SearchState.new SearchState.standardPageSize)
  return .arr (← runSteps searchStateStep init (← Args.arrayOr req "ops"))

/-- The facts of a selection. -/
def selectionJson (s : Selection) : Json :=
  Json.mkObj [("selection", s.toJson), ("is_all", .bool s.isAll), ("is_empty", .bool s.isEmpty),
    ("bulk", s.toBulk.toJson)]

/-- One step of a selection session. -/
def selectionStep (s : Selection) (op : Json) : Selection × Step Json :=
  let r : Step (Selection × Json) := do
    match ← Args.str op "op" with
    | "toggle" =>
      let (s', state) := s.toggle (← Args.str op "id")
      return (s', Json.ofOption .bool state)
    | "select_all" => return (.all, .null)
    | "clear" => return (Selection.none, .null)
    | "is_selected" => return (s, .bool (s.isSelected (← Args.str op "id")))
    | "state" => return (s, selectionJson s)
    | other => bad ("unknown selection op " ++ other)
  match r with
  | .ok (s', v) => (s', .ok v)
  | .error e => (s, .error e)

/-- `selection`. -/
def selectionCmd (req : Json) : Step Json := do
  return .arr (← runSteps selectionStep Selection.none (← Args.arrayOr req "ops"))

end Table

end Command

end CorpusBench
