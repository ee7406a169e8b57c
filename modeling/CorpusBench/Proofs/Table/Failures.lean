import Mathlib.Logic.Relation
import CorpusBench.Proofs.Table.Browsing

/-!
# A page that fails to load

A drain loads the queued pages one at a time, each with the search pointed at it.  When the
server refuses a page, the drain stops with the server's error, and the table is left as it was
when that page was taken from the queue: the pages taken in before it in the same drain stay
taken in, the search stays pointed at the refused page, and the page's key is forgotten, so
that queueing the page again is accepted (`TableWorld.drain_failure_keeps_table`).

## Main definitions

* `ContentTable.TakesPage` — one turn of a drain that takes in a page.

## Main results

* `TableWorld.wp_drainQueue_failure` — what a refused page leaves, for a drain's
  loop from any table, by induction on its turns.
* `TableWorld.drain_failure_keeps_table`.
-/

namespace CorpusBench

namespace ContentTable

/-- One turn of a drain that takes in a page: the first queued page is taken from the queue with
the search pointed at it, and a page answered for it is taken in. -/
def TakesPage (cfg : TableConfig) (t t' : ContentTable) : Prop :=
  ∃ r rest lp, t.queue = r :: rest ∧
    ({ t with queue := rest, search := t.search.pointAt r } : ContentTable).applyPage cfg lp =
      .ok t'

/-- Taking in a page takes it off the queue. -/
lemma TakesPage.queue {cfg : TableConfig} {t t' : ContentTable} (h : TakesPage cfg t t') :
    t'.queue = t.queue.tail := by
  obtain ⟨r, rest, lp, hq, happly⟩ := h
  rw [(applyPage_eq_ok happly).1, hq]
  rfl

/-- A page whose key is forgotten is queued again. -/
lemma enqueue_erase_key (t : ContentTable) (r : PageRequest) :
    ({ t with requested := t.requested.erase (r.key t.search.pageSize) } : ContentTable).enqueue r =
      (true, { t with
        requested := (t.requested.erase (r.key t.search.pageSize)).insert (r.key t.search.pageSize)
        queue := t.queue ++ [r] }) := by
  have hout : StrSet.contains (r.key t.search.pageSize)
      (t.requested.erase (r.key t.search.pageSize)) = false := by
    rw [StrSet.contains_eq_false, StrSet.mem_erase]
    exact fun h => h.2 rfl
  simp [enqueue, hout]

end ContentTable

namespace TableWorld

open Relation

variable {site : TableSite}

/-- A drain's loop, run alone from any world, that ends with an error has taken in some of the
queued pages and was then refused the next one: the table is as it was when that page was taken
from the queue, with the search pointed at the page and the page's key forgotten.

**Proof sketch.** Induction on the turns left.  A turn with nothing queued ends without error.
A turn whose page is refused ends there, from the table as it stands (`wp_drainQueue_cons`); a
turn whose page is taken in adds one step before the rest of the loop. -/
lemma wp_drainQueue_failure (site : TableSite) : ∀ (fuel applied : Nat) (w : TableWorld),
    Proc.wp (drainQueue site fuel applied) (fun res w' => ∀ e, res = .error e →
      ∃ t₀ r, ReflTransGen (ContentTable.TakesPage site.config) w.table t₀ ∧
        t₀.queue.head? = some r ∧
        w'.table = { t₀ with
          queue := t₀.queue.tail
          search := t₀.search.pointAt r
          requested := t₀.requested.erase (r.key t₀.search.pageSize) }) w := by
  intro fuel
  induction fuel with
  | zero => exact fun applied w => wp_drainQueue_zero applied _ w
  | succ fuel ih =>
    intro applied w
    cases hq : w.table.queue with
    | nil =>
      rw [wp_drainQueue_of_nil hq]
      intro e he
      cases he
    | cons r rest =>
      refine wp_drainQueue_cons hq (fun e _ => ?_) (fun page lp t' _ _ ht' => ?_)
      · -- the page is refused: the table as it was taken, with the page forgotten
        intro e' _
        refine ⟨w.table, r, .refl, by simp [hq], ?_⟩
        simp [ContentTable.forgetRequest, hq]
      · -- the page is taken in, and the rest of the loop starts from there
        refine Proc.wp_mono (fun res w' h e he => ?_) _ _ (ih (applied + 1) _)
        obtain ⟨t₀, r₀, hsteps, hhead, heq⟩ := h e he
        exact ⟨t₀, r₀, .head ⟨r, rest, lp, hq, ht'⟩ hsteps, hhead, heq⟩

/-- A drain looks at the table only through its loop: the lock it takes and gives back is no
part of the table. -/
lemma wp_drain_of_drainQueue {Q : Except ClientError Nat → TableWorld → Prop} {w : TableWorld}
    (hQ : ∀ res w' (l : FairLock), Q res w' → Q res { w' with drainLock := l })
    (h : ∀ l : FairLock, Proc.wp (drainQueue site drainFuel 0) Q { w with drainLock := l }) :
    Proc.wp (drain site) Q w := by
  unfold drain
  simp only [Proc.wp_bind, wp_lockDrain]
  intro _
  refine Proc.wp_mono (fun res w' hq => ?_) _ _ (h _)
  simpa only [wp_unlockDrain, Proc.wp_pure] using hQ res w' _ hq

/-- When a page fails to load inside a drain, the table is as it was before that page was asked
for: the pages taken in earlier in the same drain stay taken in, only the search's page and
cursor point at the refused page, and its key is forgotten, so queueing it again is accepted and
puts it back in the queue.

**Proof sketch.** The drain's loop leaves the table so (`wp_drainQueue_failure`), and the
lock is no part of the table (`wp_drain_of_drainQueue`).  The key forgotten is taken at the page
size of the moment, which pointing the search at a page keeps, and queueing looks the key up at
that size (`ContentTable.enqueue_erase_key`). -/
theorem drain_failure_keeps_table (site : TableSite) (w : TableWorld) :
    Proc.wp (drain site) (fun res w' => ∀ e, res = .error e →
      ∃ t₀ r, ReflTransGen (ContentTable.TakesPage site.config) w.table t₀ ∧
        t₀.queue.head? = some r ∧
        w'.table = { t₀ with
          queue := t₀.queue.tail
          search := t₀.search.pointAt r
          requested := t₀.requested.erase (r.key t₀.search.pageSize) } ∧
        (w'.table.enqueue r).1 = true ∧ (w'.table.enqueue r).2.queue = w'.table.queue ++ [r]) w := by
  refine wp_drain_of_drainQueue (fun _ _ _ h => h) fun l => ?_
  refine Proc.wp_mono (fun res w' h e he => ?_) _ _ (wp_drainQueue_failure site drainFuel 0 _)
  obtain ⟨t₀, r, hsteps, hhead, heq⟩ := h e he
  have henq := ContentTable.enqueue_erase_key
    { t₀ with queue := t₀.queue.tail, search := t₀.search.pointAt r } r
  simp only [SearchState.pageSize_pointAt] at henq
  refine ⟨t₀, r, hsteps, hhead, heq, ?_⟩
  rw [heq, henq]
  exact ⟨rfl, rfl⟩

/-- A drain whose page the server refuses empties the queue and forgets the page's key, so
queueing it again is accepted. -/
example :
    let w := after (drain bookSite) { twoBooks with table := (twoBooks.table.enqueue (.token "x")).2 }
    w.table.queue = [] ∧ (w.table.enqueue (.token "x")).1 = true := by decide +kernel

end TableWorld

end CorpusBench
