import CorpusBench.Command.Server
import CorpusBench.Command.Table
import CorpusBench.Command.Graph
import CorpusBench.Table.Run

/-!
# The table command

`table` runs steps on a content table over the in-memory server.  Every step is a program over
the table and the server; a step runs to its end before the next one starts, except inside
`parallel`, whose steps run side by side on one virtual clock and answer in list order.  A
destructive bulk action waits, outside the table, for the next `confirm`.

## Main definitions

* `Command.Browse.configOf` — the paging settings of a request.
* `Command.Browse.stepProgram` — the program of one step.
* `Command.Browse.tableCmd`.
-/

namespace CorpusBench

namespace Command

namespace Browse

/-- The table and the server, with the bulk action waiting for confirmation. -/
structure Bench where
  world : TableWorld
  pending : Option PendingConfirmation := none

/-- A program over the table and the server. -/
def inWorld {α : Type} (p : Proc TableWorld α) : Proc Bench α :=
  Proc.zoom (·.world) (fun w b => { b with world := w }) p

/-- The paging settings of the member `config`; a page size is at least one. -/
def configOf (req : Json) : Step TableConfig := do
  let c := (Args.get? req "config").getD (.obj [])
  let d : TableConfig := {}
  let size ← Args.natOr c "page_size" .u32 d.pageSize
  return { pageSize := max size 1,
           accelerateAfterPages := ← Args.natOr c "accelerate_after_pages" .usize d.accelerateAfterPages,
           accelerationFactor := ← Args.natOr c "acceleration_factor" .u32 d.accelerationFactor }

/-- An operation's result as a step's answer. -/
def answerOf {α : Type} (enc : α → Json) : Except ClientError α → Step Json
  | .ok a => .ok (enc a)
  | .error e => fail e

/-- Read the arguments of a step, then run its program; malformed arguments answer at once. -/
def withArgs {α : Type} (args : Step α) (k : α → Proc Bench (Step Json)) : Proc Bench (Step Json) :=
  match args with
  | .ok a => k a
  | .error h => pure (.error h)

/-- A step that reads the table. -/
def reading (f : ContentTable → Json) : Proc Bench (Step Json) := Proc.gets fun b => .ok (f b.world.table)

/-- A step that changes the table. -/
def changing (f : ContentTable → Json × ContentTable) : Proc Bench (Step Json) :=
  inWorld (TableWorld.onTable fun t => let (v, t) := f t; (.ok v, t))

/-- The page a step asks for: by number, else by cursor. -/
def pageRequestOf (req : Json) : Step PageRequest :=
  match Args.get? req "number" with
  | some _ => PageRequest.number <$> Args.nat req "number" .u32
  | none => PageRequest.token <$> Args.str req "token"

/-- The change of the search a step asks for, if it is one. -/
def searchChangeOf (req : Json) : String → Option (Step (SearchState → SearchState))
  | "set_query" => some do
    let q ← Args.str req "q"
    return (·.setQuery q)
  | "set_param" => some do
    let t ← Table.searchTypeArg req
    let field ← Args.str req "field"
    let v ← Args.str req "value"
    return (·.setParam t field v)
  | "set_content_view" => some do
    let v ← Args.strOpt req "view_id"
    return (·.setContentView v)
  | _ => none

/-- What a table shows. -/
def stateJson (t : ContentTable) : Json :=
  Json.mkObj [("rows", .arr (t.rows.map fun r => .str r.id)),
    ("row_count", Json.ofNat t.rows.length),
    ("total", Json.ofOption (fun m => Json.ofNat m.total) t.pageMeta),
    ("pages_loaded", Json.ofNat t.pagesLoaded), ("current_page", Json.ofNat t.currentPage),
    ("page_size", Json.ofNat t.search.pageSize), ("accelerated", .bool t.accelerated),
    ("has_next_page", .bool t.next.isSome), ("search", Table.searchJson t.search),
    ("selection", t.selection.toJson)]

/-- Ask for a bulk action; one waiting for confirmation is kept for the next `confirm`. -/
def bulkStep (site : TableSite) (action : BulkAction) : Proc Bench (Step Json) := do
  match ← inWorld (TableWorld.requestBulk site action) with
  | .error e => pure (fail e)
  | .ok .submitted => pure (.ok (Json.mkObj [("submitted", .bool true)]))
  | .ok (.needsConfirmation p) => do
    Proc.modify fun b => { b with pending := some p }
    pure (.ok (Json.mkObj [("submitted", .bool false), ("summary", .str p.summary),
      ("request", p.request.toJson)]))

/-- Confirm the bulk action waiting, if any. -/
def confirmStep (site : TableSite) : Proc Bench (Step Json) := do
  let waiting ← Proc.modifyGet fun b => (b.pending, { b with pending := none })
  match waiting with
  | none => pure (bad "no pending confirmation")
  | some p => answerOf (fun _ => .null) <$> inWorld (TableWorld.confirm site p)

/-- The program of a step other than `parallel`. -/
def plainStep (site : TableSite) (req : Json) : Proc Bench (Step Json) :=
  withArgs (Args.str req "op") fun op =>
    match searchChangeOf req op with
    | some change =>
      withArgs change fun f => answerOf Json.ofNat <$> inWorld (TableWorld.updateSearch site f)
    | none =>
    match op with
    | "reload" => answerOf Json.ofNat <$> inWorld (TableWorld.reload site)
    | "next" =>
      withArgs (Args.nat req "page" .u32) fun page =>
        answerOf .bool <$> inWorld (TableWorld.onLastRowVisible site page)
    | "enqueue" =>
      withArgs (pageRequestOf req) fun r => answerOf .bool <$> inWorld (TableWorld.enqueuePage site r)
    | "order_by" =>
      withArgs (Args.str req "field") fun field =>
        answerOf SortDirection.toJson <$> inWorld (TableWorld.orderBy site field)
    | "remove_param" =>
      withArgs (Args.str req "key") fun key =>
        answerOf .bool <$> inWorld (TableWorld.removeParam site key)
    | "toggle_row" =>
      withArgs (Args.str req "id") fun id =>
        changing fun t => let (r, t) := t.toggleRow id; (Json.ofOption .bool r, t)
    | "select_all" => changing fun t => (.null, { t with selection := .all })
    | "clear_selection" => changing fun t => (.null, { t with selection := .none })
    | "bulk" =>
      withArgs (do Graph.decodeValue BulkAction.decoder (← Args.value req "action")) (bulkStep site)
    | "confirm" => confirmStep site
    | "save_view" =>
      withArgs (Args.str req "name") fun name =>
        answerOf ContentView.toJson <$> inWorld (TableWorld.saveView site name)
    | "refresh_view" =>
      withArgs (Args.str req "view_id") fun v =>
        answerOf (Json.ofOption ContentView.toJson) <$> inWorld (TableWorld.refreshView site v)
    | "delete_view" =>
      withArgs (Args.str req "view_id") fun v =>
        answerOf (fun _ => .null) <$> inWorld (TableWorld.deleteView site v)
    | "state" => reading stateJson
    | "rows" => reading fun t => .arr (t.rows.map ContentRecord.toJson)
    | "content_type" => pure (.ok (.str site.contentType))
    | other => pure (bad ("unknown table op " ++ other))

/-- The program of the step `req`, answering with the step's answer object.  The steps of
`parallel` run side by side and its answer is `{"results": [...]}`, their answers in list order;
`parallel` may nest `depth` times. -/
def stepProgram (site : TableSite) : Nat → Json → Proc Bench Json
  | depth, req =>
    match Args.str req "op", depth with
    | .ok "parallel", d + 1 =>
      match Args.arrayOr req "steps" with
      | .ok steps => do
        let answers ← Proc.joinAll (steps.map (stepProgram site d))
        pure (Json.mkObj [("results", .arr answers)])
      | .error h => pure (Step.toJson (.error h))
    | _, _ => Step.toJson <$> plainStep site req

/-- How deeply `parallel` steps may nest. -/
def parallelDepth : Nat := 8

/-- A table session: the table, the server and the waiting action, the calls already
reported, and the virtual clock. -/
structure Session where
  bench : Bench
  reported : Nat := 0
  clock : Nat := 0

/-- One step of a `table` command. -/
def tableStep (site : TableSite) (s : Session) (req : Json) : Session × Step Json :=
  match Args.str req "op" with
  | .error e => (s, .error e)
  | .ok op =>
    let w := s.bench.world
    match Mock.deskStep? { server := w.server, reported := s.reported } op req with
    | some (d, r) =>
      ({ s with bench := { s.bench with world := { w with server := d.server } }, reported := d.reported },
        r.settle)
    | none =>
      match Proc.runFrom Proc.standardFuel s.clock (stepProgram site parallelDepth req) s.bench with
      | .finished r b clock => ({ s with bench := b, clock := clock }, .ok r)
      | .halted h => (s, .error (.aborted h))
      | .stalled => (s, bad "the table stalled")

/-- `table`: steps on a content table over the in-memory server. -/
def tableCmd (req : Json) : Step Json := do
  let contentType ← Args.str req "content_type"
  let server ← Mock.serverOf req
  let corpusId ← Args.strOr req "corpus_id" server.corpusId
  let cfg ← configOf req
  let search ← match Args.get? req "search_pairs" with
    | some _ => liftClient (SearchState.ofPairs (← Args.pairsOr req "search_pairs"))
    | none => pure (SearchState.new cfg.pageSize)
  let site : TableSite := ⟨corpusId, contentType, cfg⟩
  let table := ContentTable.start { search with pageSize := cfg.pageSize }
  let ops ← Args.arrayOr req "ops"
  return .arr (← runAnswered (tableStep site) { bench := { world := ⟨table, server, {}⟩ } } ops)

end Browse

end Command

end CorpusBench
