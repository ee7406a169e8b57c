import CorpusBench.Table.Engine
import CorpusBench.Server.Api
import CorpusBench.Concurrent.Proc

/-!
# Running a table

The operations of a table that talk to the server, as programs over the table and the server
together.  Several may run side by side; none holds the table while it waits for the server.

* **Draining.**  Queued pages load one at a time, in queue order, under a fair lock: a drain
  that starts while another runs waits for it, and then usually finds the queue empty.  Each
  page is asked for with the search pointed at it, and taken in unless the rows were cleared
  meanwhile.  A page that fails is forgotten, so that it can be asked for again, and ends the
  drain with its error.
* **Scrolling.**  Queueing a page, or reaching the last row of the page last loaded, drains
  when it queued anything.
* **Reloading** clears the rows, queues the first page and drains; every change of the search
  reloads.
* **Bulk actions** apply to the selection.  A destructive one is not sent but comes back for
  confirmation; confirming sends it, clears the selection and reloads.
* **Views** save the search under a name, refresh or delete a saved one; deleting the view the
  table is filtered by drops the filter.

## Main definitions

* `TableSite` — where a table's records live, and how it pages.
* `TableWorld` — the table, the server and the drain lock.
* `TableWorld.drain`, `enqueuePage`, `onLastRowVisible`, `reload`, `updateSearch`,
  `requestBulk`, `confirm`, `saveView`, `refreshView`, `deleteView`.
-/

namespace CorpusBench

/-- The corpus and type of a table's records, and how it pages. -/
structure TableSite where
  corpusId : String
  contentType : String
  config : TableConfig

/-- A destructive bulk action waiting to be confirmed, with the question to ask. -/
structure PendingConfirmation where
  request : BulkRequest
  summary : String

/-- What asking for a bulk action gives. -/
inductive BulkOutcome where
  | submitted
  | needsConfirmation (pending : PendingConfirmation)

/-- The table together with the server it asks and the lock its drains take. -/
structure TableWorld where
  table : ContentTable
  server : Server
  drainLock : FairLock := {}

namespace TableWorld

/-- A request to the server. -/
def ask {α : Type} (p : Proc Server α) : Proc TableWorld α :=
  Proc.zoom (·.server) (fun s w => { w with server := s }) p

/-- Change the table, with a result. -/
def onTable {α : Type} (f : ContentTable → α × ContentTable) : Proc TableWorld α :=
  Proc.modifyGet fun w => let (a, t) := f w.table; (a, { w with table := t })

/-- The table as it is now. -/
def tableNow : Proc TableWorld ContentTable := Proc.gets (·.table)

/-- Take in a loaded page; an abort of the paging arithmetic ends the run. -/
def applyPage (cfg : TableConfig) (page : ListPage) : Proc TableWorld Unit := do
  let w ← Proc.get
  match w.table.applyPage cfg page with
  | .ok t => Proc.set { w with table := t }
  | .error h => Proc.abort h

/-- Load queued pages until the queue is empty; the number taken in.  The loop takes at most
`fuel` turns: past them it waits for ever, still holding the lock, rather than end with pages
still queued. -/
def drainQueue (site : TableSite) : Nat → Nat → Proc TableWorld (Except ClientError Nat)
  | 0, applied => do
    Proc.waitFor fun _ => false
    pure (.ok applied)
  | fuel + 1, applied => do
    let taken ← onTable fun t =>
      match t.takeQueued with
      | some (r, params, generation, t) => (some (r, params, generation), t)
      | none => (none, t)
    match taken with
    | none => pure (.ok applied)
    | some (r, params, generation) =>
      match ← ask (Server.listContent site.corpusId site.contentType params) with
      | .error e =>
        onTable fun t => ((), t.forgetRequest r)
        pure (.error e)
      | .ok page =>
        let t ← tableNow
        if t.generation != generation then drainQueue site fuel applied
        else do
          applyPage site.config page
          drainQueue site fuel (applied + 1)

/-- The turns one drain may take: far more pages than a table queues while one drain runs. -/
def drainFuel : Nat := 100000

def lockDrain : Proc TableWorld Unit :=
  FairLock.acquire (·.drainLock) fun l w => { w with drainLock := l }

def unlockDrain : Proc TableWorld Unit :=
  FairLock.release (·.drainLock) fun l w => { w with drainLock := l }

/-- Load the queued pages under the drain lock. -/
def drain (site : TableSite) : Proc TableWorld (Except ClientError Nat) := do
  lockDrain
  let r ← drainQueue site drainFuel 0
  unlockDrain
  pure r

/-- Drain when something was queued; whether it was. -/
def drainIfQueued (site : TableSite) (queued : Bool) : Proc TableWorld (Except ClientError Bool) :=
  if queued then do
    match ← drain site with
    | .error e => pure (.error e)
    | .ok _ => pure (.ok true)
  else pure (.ok false)

/-- Queue a page and drain; whether it was queued. -/
def enqueuePage (site : TableSite) (r : PageRequest) : Proc TableWorld (Except ClientError Bool) := do
  drainIfQueued site (← onTable (·.enqueue r))

/-- The last row of a page came into view; whether the next page was queued. -/
def onLastRowVisible (site : TableSite) (page : Nat) : Proc TableWorld (Except ClientError Bool) := do
  drainIfQueued site (← onTable (·.requestNextAt page))

/-- Drop every row and load the first page; the number of rows. -/
def reload (site : TableSite) : Proc TableWorld (Except ClientError Nat) := do
  onTable fun t => ((), ((t.clearRows site.config.pageSize).enqueue (.number 1)).2)
  match ← drain site with
  | .error e => pure (.error e)
  | .ok _ => do
    let t ← tableNow
    pure (.ok t.rows.length)

/-- Change the search and reload. -/
def updateSearch (site : TableSite) (f : SearchState → SearchState) :
    Proc TableWorld (Except ClientError Nat) := do
  onTable fun t => ((), t.withSearch f)
  reload site

/-- Change the search with a result, reload, and give the result. -/
def changeSearch {α : Type} (site : TableSite) (f : SearchState → SearchState × α) :
    Proc TableWorld (Except ClientError α) := do
  let a ← onTable fun t => let (s, a) := f t.search; (a, { t with search := s })
  (·.map fun _ => a) <$> reload site

/-- Sort by a field, or turn its direction round, and reload; the direction. -/
def orderBy (site : TableSite) (field : String) : Proc TableWorld (Except ClientError SortDirection) :=
  changeSearch site (·.orderBy field)

/-- Remove a search parameter and reload; whether it was there. -/
def removeParam (site : TableSite) (key : String) : Proc TableWorld (Except ClientError Bool) :=
  changeSearch site (·.removeParam key)

/-- The question a destructive action asks before it is sent. -/
def deleteSummary (contentType : String) : Option Nat → String
  | some n => "Delete " ++ toString n ++ " " ++ contentType ++ " records?"
  | none => "Delete all matching " ++ contentType ++ " records?"

/-- Send a bulk request. -/
def submitBulk (site : TableSite) (r : BulkRequest) : Proc TableWorld (Except ClientError Unit) :=
  ask (Server.bulkAction site.corpusId site.contentType r)

/-- Ask for a bulk action on the selection with the search in force: a destructive one comes
back for confirmation, any other is sent.  An empty selection is refused. -/
def requestBulk (site : TableSite) (action : BulkAction) : Proc TableWorld (Except ClientError BulkOutcome) := do
  let t ← tableNow
  if t.selection.isEmpty then return .error (.invalidInput "no rows selected")
  let count := match t.selection with
    | .all => none
    | .ids set => some set.length
  let request : BulkRequest :=
    { action := action, selection := t.selection.toBulk, search := t.search.searchParams }
  if action.isDestructive then
    return .ok (.needsConfirmation ⟨request, deleteSummary site.contentType count⟩)
  return (·.map fun _ => .submitted) (← submitBulk site request)

/-- Send a confirmed action, clear the selection and reload. -/
def confirm (site : TableSite) (p : PendingConfirmation) : Proc TableWorld (Except ClientError Unit) := do
  match ← submitBulk site p.request with
  | .error e => pure (.error e)
  | .ok () =>
    onTable fun t => ((), { t with selection := .none })
    (·.map fun _ => ()) <$> reload site

/-- Save the search as a named view. -/
def saveView (site : TableSite) (name : String) : Proc TableWorld (Except ClientError ContentView) := do
  let t ← tableNow
  let r ← ask (Server.contentView site.corpusId (ViewRequest.create name site.contentType t.search.searchParams))
  pure <| r.bind fun v => match v with
    | some v => .ok v
    | none => .error (.internal "content view create returned nothing")

/-- Refresh a saved view. -/
def refreshView (site : TableSite) (viewId : String) : Proc TableWorld (Except ClientError (Option ContentView)) :=
  ask (Server.contentView site.corpusId (ViewRequest.refresh viewId))

/-- Delete a saved view; when the table is filtered by it, drop the filter and reload. -/
def deleteView (site : TableSite) (viewId : String) : Proc TableWorld (Except ClientError Unit) := do
  match ← ask (Server.contentView site.corpusId (ViewRequest.delete viewId)) with
  | .error e => pure (.error e)
  | .ok _ =>
    let t ← tableNow
    if t.search.contentView == some viewId then
      (·.map fun _ => ()) <$> updateSearch site (·.setContentView none)
    else pure (.ok ())

end TableWorld

end CorpusBench
