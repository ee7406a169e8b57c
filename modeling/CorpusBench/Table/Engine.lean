import CorpusBench.Table.Search
import CorpusBench.Table.Selection
import CorpusBench.Content.Record
import CorpusBench.Error

/-!
# The content table

A table shows the records of one content type that match a search, loaded page by page as the
user scrolls.  The pages it still has to load wait in a queue; a page is asked for at most once
while the rows stay (a page number counts only at the page size it was asked with).

After a few pages the table **accelerates**: its page size grows by a factor and the next page
is the one holding the first row not yet shown, counted at the new size.  Pages at the new size
overlap the rows already shown, so from then on a record already on screen is not shown twice;
before, every record of a page is shown.

Clearing the rows starts a new **generation**: a page asked for in an older generation is
dropped when it arrives.

## Main definitions

* `TableConfig` — page size and acceleration.
* `ContentTable` — rows, the pages asked for, the queue, the search and the
  selection.
* `ContentTable.enqueue`, `ContentTable.applyPage`,
  `ContentTable.clearRows`, `ContentTable.requestNextAt`.

## Main results

* `ContentTable.enqueue_twice` — a page queued once is not queued again.
* `ContentTable.clearRows_generation` — clearing the rows starts a new generation.
-/

namespace CorpusBench

/-- How a table pages. -/
structure TableConfig where
  pageSize : Nat := SearchState.standardPageSize
  /-- The number of pages loaded before the table accelerates. -/
  accelerateAfterPages : Nat := 3
  /-- The factor the page size grows by when the table accelerates. -/
  accelerationFactor : Nat := 10

/-- A product in the unsigned 32-bit word, held at the largest word when it overflows. -/
def mulWordSaturating (a b : Nat) : Nat := min (a * b) u32Max

/-- The state of a table. -/
structure ContentTable where
  search : SearchState
  rows : List ContentRecord := []
  rowIds : StrSet := []
  /-- The keys of the pages asked for since the rows were last cleared. -/
  requested : StrSet := []
  queue : List PageRequest := []
  pagesLoaded : Nat := 0
  currentPage : Nat := 0
  /-- The page to load when the last row comes into view. -/
  next : Option PageRequest := none
  pageMeta : Option PageMeta := none
  accelerated : Bool := false
  selection : Selection := .none
  generation : Nat := 0

namespace ContentTable

/-- A table with no rows over a search. -/
def start (search : SearchState) : ContentTable := { search := search }

/-- Queue a page unless it was asked for already; whether it was queued. -/
def enqueue (t : ContentTable) (r : PageRequest) : Bool × ContentTable :=
  let key := r.key t.search.pageSize
  if t.requested.contains key then (false, t)
  else (true, { t with requested := t.requested.insert key, queue := t.queue ++ [r] })

theorem enqueue_twice (t : ContentTable) (r : PageRequest) :
    ((t.enqueue r).2.enqueue r).1 = false := by
  unfold enqueue
  by_cases h : t.requested.contains (r.key t.search.pageSize) = true
  · simp [h]
  · simp [h, StrSet.contains_insert_self]

/-- Take the first queued page, pointing the search at it; the query to send and the
generation it was asked in. -/
def takeQueued (t : ContentTable) : Option (PageRequest × QueryPairs × Nat × ContentTable) :=
  match t.queue with
  | [] => none
  | r :: rest =>
    let search := match r with
      | .number n => { t.search with page := n, pageToken := none }
      | .token tok => { t.search with pageToken := some tok }
    some (r, search.toPairs, t.generation, { t with queue := rest, search := search })

/-- Forget that a page was asked for, so that it can be asked for again. -/
def forgetRequest (t : ContentTable) (r : PageRequest) : ContentTable :=
  { t with requested := t.requested.erase (r.key t.search.pageSize) }

/-- Show the records of a page: all of them before the table accelerates, the new ones
after. -/
def addRows (t : ContentTable) (records : List ContentRecord) : ContentTable :=
  records.foldl (fun t r =>
    let fresh := !t.rowIds.contains r.id
    let t := { t with rowIds := t.rowIds.insert r.id }
    if fresh || !t.accelerated then { t with rows := t.rows ++ [r] } else t) t

/-- The page after one that was loaded without accelerating: none on the last page, the
cursor when the server gave one, else the next number. -/
def followingPage (m : PageMeta) : Except Abort (Option PageRequest) :=
  if !m.hasNextPage then .ok none
  else match m.nextPageToken with
    | some tok => .ok (some (.token tok))
    | none => (some ∘ PageRequest.number) <$> addWord m.page 1

/-- Take in a loaded page; the table accelerates once enough pages are loaded.  A page size
brought to zero by acceleration aborts the run when there is a next page to count. -/
def applyPage (t : ContentTable) (cfg : TableConfig) (page : ListPage) : Except Abort ContentTable := do
  let t := t.addRows page.records
  let t := { t with pagesLoaded := t.pagesLoaded + 1, currentPage := page.pageMeta.page }
  let m := page.pageMeta
  if !t.accelerated && t.pagesLoaded ≥ cfg.accelerateAfterPages then
    let size := mulWordSaturating t.search.pageSize cfg.accelerationFactor
    let t := { t with accelerated := true, search := { t.search with pageSize := size } }
    let next ← if m.hasNextPage then do
        if size = 0 then throw Abort.divideByZero
        let shown := min t.rows.length u32Max
        (some ∘ PageRequest.number) <$> addWord (shown / size) 1
      else pure none
    return { t with next := next, pageMeta := some m }
  else
    return { t with next := ← followingPage m, pageMeta := some m }

/-- Drop every row and every page asked for, back to the configured page size and the first
page, in a new generation. -/
def clearRows (t : ContentTable) (basePageSize : Nat) : ContentTable :=
  { t with rows := [], rowIds := [], requested := [], queue := [], pagesLoaded := 0,
           currentPage := 0, next := none, pageMeta := none, accelerated := false,
           search := { t.search with pageSize := basePageSize }.resetPage,
           generation := t.generation + 1 }

theorem clearRows_generation (t : ContentTable) (n : Nat) :
    (t.clearRows n).generation = t.generation + 1 := rfl

/-- The last row of a page came into view: queue the next page when it is the page last
loaded.  Whether a page was queued. -/
def requestNextAt (t : ContentTable) (page : Nat) : Bool × ContentTable :=
  if t.pagesLoaded = 0 || page != t.currentPage then (false, t)
  else match t.next with
    | some r => t.enqueue r
    | none => (false, t)

/-- Change the search. -/
def withSearch (t : ContentTable) (f : SearchState → SearchState) : ContentTable :=
  { t with search := f t.search }

/-- Toggle the selection of one row; its new state, none while every record is selected. -/
def toggleRow (t : ContentTable) (id : String) : Option Bool × ContentTable :=
  let (s, r) := t.selection.toggle id
  (r, { t with selection := s })

end ContentTable

end CorpusBench
