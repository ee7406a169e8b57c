import CorpusBench.Proofs.Concurrent.Sequential
import CorpusBench.Proofs.Server.Requests
import CorpusBench.Proofs.Table.Requests
import CorpusBench.Table.Run

/-!
# Browsing a table shows a prefix of the matching records

A table browsed alone against its server — reloaded, scrolled, its search changed, a view
deleted, a bulk deletion confirmed, each operation run to its end before the next — always shows
a prefix of the records its search matches on the server, `L`, with no record twice; and once a
page has loaded and there is no next page, it shows all of `L`.  This holds for any page size
that is a positive word, any number of pages before acceleration, any positive acceleration
factor, and page numbers or cursors alike.

The operations are programs over the table and the server; run alone, each is described by its
weakest precondition (`Proc.wp`).  At rest between operations the table satisfies
`TableWorld.AtRest`: nothing is queued, the table follows `L` (`ContentTable.Follows`), the
server stores each record of the type once, and the search's parameters are field parameters.
A drain of the one page queued keeps it (`TableWorld.wp_drain_one`), and so does every
operation (`TableWorld.wp_reload`, `TableWorld.wp_onLastRowVisible`, …).

## Main definitions

* `TableWorld.matching` — the records the table's search matches on the server.
* `TableWorld.AtRest` — the invariant between operations.
* `TableWorld.Browsing` — the worlds a table reaches by browsing alone.

## Main results

* `TableWorld.wp_drain_one` — loading one page keeps the table at rest.
* `TableWorld.Browsing.atRest` — every world browsing reaches is at rest.
* `TableWorld.browsing_rows_prefix_listing` — the rows are a prefix of the
  listing, with no id twice, and all of it once the last page is loaded.
* `TableWorld.scroll_by_number_shows_more` — paging by number, reaching the last row
  loads the next page.
-/

namespace CorpusBench

/-! ### The server's programs, run alone -/

namespace Server

/-- A list request is logged and answered with the page it asks for, or with the error of its
paging pairs. -/
lemma wp_listContent {corpusId contentType : String} {params : QueryPairs} {s : Server}
    {Q : Except ClientError ListPage → Server → Prop}
    (herr : ∀ e, pageOf params = .error e →
      Q (.error e) (s.log "list_content" (typeTarget corpusId contentType) params))
    (hok : ∀ page lp, pageOf params = .ok page →
      pageWindow (s.listing contentType params) page (pageSizeOf params) s.cursorPaging = .ok lp →
      Q (.ok lp) (s.log "list_content" (typeTarget corpusId contentType) params)) :
    Proc.wp (listContent corpusId contentType params) Q s := by
  unfold listContent logged
  simp only [Proc.wp_bind, Proc.wp_modify]
  split
  · next e he => exact herr e he
  · next page hpage =>
    simp only [Proc.wp_bind, Proc.wp_get, Proc.wp_ofAbort]
    intro lp hlp
    unfold arriveAfter
    split <;> simp only [Proc.wp_pause, Proc.wp_pure] <;> exact hok page lp hpage hlp

@[simp] lemma listing_log (s : Server) (operation target : String) (params : QueryPairs) :
    (s.log operation target params).listing = s.listing := rfl

@[simp] lemma recordsOf_log (s : Server) (operation target : String) (params : QueryPairs) :
    (s.log operation target params).recordsOf = s.recordsOf := rfl

@[simp] lemma cursorPaging_log (s : Server) (operation target : String) (params : QueryPairs) :
    (s.log operation target params).cursorPaging = s.cursorPaging := rfl

/-- A bulk action is logged, deletes the selection when it is destructive, and succeeds. -/
lemma wp_bulkAction {corpusId contentType : String} {r : BulkRequest} {s : Server}
    {Q : Except ClientError Unit → Server → Prop}
    (h : ∀ s', s' = s.log "bulk_action" (typeTarget corpusId contentType)
        [("selection", r.selection.toJson.compact)] →
      Q (.ok ()) (if r.action.isDestructive then deleteSelection s' contentType r.selection else s')) :
    Proc.wp (bulkAction corpusId contentType r) Q s := by
  unfold bulkAction logged
  simp only [Proc.wp_bind, Proc.wp_modify]
  split
  · next hd => simpa [hd, Proc.wp_bind] using h _ rfl
  · next hd => simpa [hd] using h _ rfl

/-- Deleting a view removes a view that exists, and refuses one that does not. -/
lemma applyViewRequest_delete (s : Server) (viewId : String) :
    applyViewRequest s (ViewRequest.delete viewId) =
      if s.views.containsKey viewId then (.ok none, { s with views := s.views.erase viewId })
      else (.error (.notFound ("view " ++ viewId)), s) := rfl

/-- A view request is logged and applied. -/
lemma wp_contentView {corpusId : String} {r : ViewRequest} {s : Server}
    {Q : Except ClientError (Option ContentView) → Server → Prop}
    (h : Q (applyViewRequest (s.log "content_view" corpusId []) r).1
      (applyViewRequest (s.log "content_view" corpusId []) r).2) :
    Proc.wp (contentView corpusId r) Q s := by
  unfold contentView logged
  simpa only [Proc.wp_bind, Proc.wp_modify, Proc.wp_modifyGet] using h

end Server

/-! ### The table's programs, run alone -/

namespace TableWorld

variable {site : TableSite}

lemma wp_ask {α : Type} (p : Proc Server α) (Q : α → TableWorld → Prop) (w : TableWorld) :
    Proc.wp (ask p) Q w ↔ Proc.wp p (fun a srv => Q a { w with server := srv }) w.server := by
  unfold ask
  refine Proc.wp_zoom ?_ ?_ ?_ p Q w <;> intros <;> rfl

@[simp] lemma wp_onTable {α : Type} (f : ContentTable → α × ContentTable)
    (Q : α → TableWorld → Prop) (w : TableWorld) :
    Proc.wp (onTable f) Q w ↔ Q (f w.table).1 { w with table := (f w.table).2 } := Iff.rfl

@[simp] lemma wp_tableNow (Q : ContentTable → TableWorld → Prop) (w : TableWorld) :
    Proc.wp tableNow Q w ↔ Q w.table w := Iff.rfl

lemma wp_applyPage (cfg : TableConfig) (page : ListPage) (Q : Unit → TableWorld → Prop)
    (w : TableWorld) :
    Proc.wp (applyPage cfg page) Q w ↔
      ∀ t, w.table.applyPage cfg page = .ok t → Q () { w with table := t } := by
  unfold applyPage
  simp only [Proc.wp_bind, Proc.wp_get]
  split
  · next t ht => simp [ht]
  · next h ht => simp [ht]

/-- Taking the drain lock: a ticket, then a wait that ends only when the lock is free. -/
lemma wp_lockDrain (Q : Unit → TableWorld → Prop) (w : TableWorld) :
    Proc.wp lockDrain Q w ↔ (w.drainLock.serving = w.drainLock.issued →
      Q () { w with drainLock := { w.drainLock with issued := w.drainLock.issued + 1 } }) := by
  simp [lockDrain, FairLock.acquire, Proc.wp_bind]

lemma wp_unlockDrain (Q : Unit → TableWorld → Prop) (w : TableWorld) :
    Proc.wp unlockDrain Q w ↔
      Q () { w with drainLock := { w.drainLock with serving := w.drainLock.serving + 1 } } :=
  Iff.rfl

/-- A drain out of turns never finishes, so it promises anything. -/
lemma wp_drainQueue_zero (applied : Nat) (Q : Except ClientError Nat → TableWorld → Prop)
    (w : TableWorld) : Proc.wp (drainQueue site 0 applied) Q w := by
  simp [drainQueue, Proc.wp_bind]

/-- With nothing queued a drain takes in nothing. -/
lemma wp_drainQueue_of_nil {w : TableWorld} (hq : w.table.queue = []) (fuel applied : Nat)
    (Q : Except ClientError Nat → TableWorld → Prop) :
    Proc.wp (drainQueue site (fuel + 1) applied) Q w ↔ Q (.ok applied) w := by
  simp only [drainQueue, Proc.wp_bind, wp_onTable, ContentTable.takeQueued_nil hq]
  rfl

/-- One turn of a drain: the first queued page is asked for with the search pointed at it.  A
page that fails is forgotten and ends the drain with its error; a page that arrives is taken
in, and the drain goes on. -/
lemma wp_drainQueue_cons {w : TableWorld} {r : PageRequest} {rest : List PageRequest}
    (hq : w.table.queue = r :: rest) {fuel applied : Nat}
    {Q : Except ClientError Nat → TableWorld → Prop} :
    let t₁ : ContentTable := { w.table with queue := rest, search := w.table.search.pointAt r }
    let srv := w.server.log "list_content" (Server.typeTarget site.corpusId site.contentType)
      t₁.search.toPairs
    (∀ e, Server.pageOf t₁.search.toPairs = .error e →
      Q (.error e) { w with table := t₁.forgetRequest r, server := srv }) →
    (∀ page lp t', Server.pageOf t₁.search.toPairs = .ok page →
      Server.pageWindow (w.server.listing site.contentType t₁.search.toPairs) page
        (Server.pageSizeOf t₁.search.toPairs) w.server.cursorPaging = .ok lp →
      t₁.applyPage site.config lp = .ok t' →
      Proc.wp (drainQueue site fuel (applied + 1)) Q { w with table := t', server := srv }) →
    Proc.wp (drainQueue site (fuel + 1) applied) Q w := by
  intro t₁ srv herr hok
  simp only [drainQueue, Proc.wp_bind, wp_onTable, ContentTable.takeQueued_cons hq]
  rw [wp_ask]
  refine Server.wp_listContent (fun e he => ?_) (fun page lp hpage hlp => ?_)
  · simpa [Proc.wp_bind] using herr e he
  · simp only [Proc.wp_bind, wp_tableNow]
    rw [if_neg (by simp)]
    simp only [Proc.wp_bind, wp_applyPage]
    intro t' ht'
    exact hok page lp t' hpage hlp ht'

/-! The same programs when they finish, with the value and the world they end in
(`Proc.Yields`). -/

lemma yields_ask {α : Type} {p : Proc Server α} {w : TableWorld} {a : α} {s' : Server}
    (h : Proc.Yields p w.server a s') : Proc.Yields (ask p) w a { w with server := s' } :=
  ⟨(Proc.finishes_zoom (fun _ _ => rfl) p w).2 h.1,
    (wp_ask p _ w).2 (Proc.wp_mono (fun _ _ h => ⟨h.1, h.2 ▸ rfl⟩) p _ h.2)⟩

lemma yields_onTable {α : Type} (f : ContentTable → α × ContentTable) (w : TableWorld) :
    Proc.Yields (onTable f) w (f w.table).1 { w with table := (f w.table).2 } :=
  ⟨trivial, rfl, rfl⟩

lemma yields_applyPage {cfg : TableConfig} {page : ListPage} {w : TableWorld} {t : ContentTable}
    (h : w.table.applyPage cfg page = .ok t) :
    Proc.Yields (applyPage cfg page) w () { w with table := t } := by
  unfold applyPage
  refine (Proc.yields_get w).bind ?_
  rw [h]
  exact ⟨trivial, rfl, rfl⟩

lemma yields_drainQueue_of_nil {w : TableWorld} (hq : w.table.queue = []) (fuel applied : Nat) :
    Proc.Yields (drainQueue site (fuel + 1) applied) w (.ok applied) w :=
  ⟨by simp [drainQueue, onTable, Proc.finishes_bind, ContentTable.takeQueued_nil hq],
    (wp_drainQueue_of_nil hq fuel applied _).2 ⟨rfl, rfl⟩⟩

/-- Taking the drain lock when it is free: a ticket, served at once. -/
lemma yields_lockDrain {w : TableWorld} (hfree : w.drainLock.isFree = true) :
    Proc.Yields lockDrain w ()
      { w with drainLock := { w.drainLock with issued := w.drainLock.issued + 1 } } := by
  have hready : w.drainLock.serving = w.drainLock.issued := (beq_iff_eq.1 hfree).symm
  refine ⟨?_, (wp_lockDrain _ w).2 fun _ => ⟨rfl, rfl⟩⟩
  simp only [lockDrain, FairLock.acquire, Proc.finishes_bind, Proc.finishes_modifyGet,
    Proc.wp_modifyGet, Proc.finishes_waitFor, true_and, hready, beq_self_eq_true]

/-- A drain of the one page queued, from a free lock, when the server serves the page and the
table takes it in: the page is taken in, the request logged, and the lock free again. -/
lemma yields_drain_one {w : TableWorld} {r : PageRequest} (hq : w.table.queue = [r])
    (hfree : w.drainLock.isFree = true) {page : Nat} {lp : ListPage} {t' : ContentTable}
    (hpage : Server.pageOf (w.table.search.pointAt r).toPairs = .ok page)
    (hwin : Server.pageWindow (w.server.listing site.contentType (w.table.search.pointAt r).toPairs)
      page (Server.pageSizeOf (w.table.search.pointAt r).toPairs) w.server.cursorPaging = .ok lp)
    (happly : ({ w.table with queue := [], search := w.table.search.pointAt r } :
      ContentTable).applyPage site.config lp = .ok t') :
    Proc.Yields (drain site) w (.ok 1)
      { w with
        table := t'
        server := w.server.record [⟨"list_content",
          Server.typeTarget site.corpusId site.contentType, (w.table.search.pointAt r).toPairs⟩]
        drainLock := { issued := w.drainLock.issued + 1, serving := w.drainLock.serving + 1 } } := by
  unfold drain
  refine (yields_lockDrain hfree).bind ?_
  refine Proc.Yields.bind (a := .ok 1) (t := { w with
      table := t'
      server := w.server.record [⟨"list_content",
        Server.typeTarget site.corpusId site.contentType, (w.table.search.pointAt r).toPairs⟩]
      drainLock := { w.drainLock with issued := w.drainLock.issued + 1 } }) ?_
    ((Proc.yields_modify _ _).bind (Proc.yields_pure _ _))
  show Proc.Yields (drainQueue site (99999 + 1) 0) _ _ _
  unfold drainQueue
  refine (yields_onTable _ _).bind ?_
  simp only [ContentTable.takeQueued_cons hq]
  refine Proc.Yields.bind (yields_ask (Server.yields_listContent w.server hpage hwin :
    Proc.Yields (Server.listContent site.corpusId site.contentType _) _ _ _)) ?_
  refine Proc.Yields.bind (a := { w.table with queue := [], search := w.table.search.pointAt r })
    ⟨trivial, rfl, rfl⟩ ?_
  rw [if_neg (by simp)]
  refine (yields_applyPage happly).bind ?_
  exact yields_drainQueue_of_nil (by rw [(ContentTable.applyPage_eq_ok happly).1]) _ _

/-! ### The table at rest -/

/-- The records the table's search matches on the server, filtered and ordered as the server
lists them, before paging. -/
def matching (site : TableSite) (w : TableWorld) : List ContentRecord :=
  w.server.listing site.contentType w.table.search.searchParams

/-- A table at rest between operations: nothing queued, the table follows the records its search
matches, the server stores each record of the type once, every parameter of the search is a field
parameter, and the drain lock is free.  When the server pages by number and holds no more records
of the type than a word counts, the table also advances through the records its search matches. -/
structure AtRest (site : TableSite) (w : TableWorld) : Prop where
  queue_eq : w.table.queue = []
  follows : w.table.Follows (w.matching site)
  ids_nodup : ((w.server.recordsOf site.contentType).map (·.id)).Nodup
  fieldKeyed : w.table.search.FieldKeyed
  lock_free : w.drainLock.isFree = true
  advances : w.server.cursorPaging = false →
    (w.server.recordsOf site.contentType).length ≤ u32Max → w.table.Advances (w.matching site)

/-- The records the search matches, each once. -/
lemma AtRest.matching_nodup {w : TableWorld} (h : AtRest site w) :
    ((w.matching site).map (·.id)).Nodup :=
  Server.listing_ids_nodup h.ids_nodup _

/-- Being at rest looks at the server only through the records of the type, the listing of the
search and whether it pages by cursor. -/
lemma AtRest.of_server {w w' : TableWorld} (hw : AtRest site w) (htable : w'.table = w.table)
    (hlock : w'.drainLock = w.drainLock) (hmatch : w'.matching site = w.matching site)
    (hrecords : w'.server.recordsOf site.contentType = w.server.recordsOf site.contentType)
    (hcursor : w'.server.cursorPaging = w.server.cursorPaging) : AtRest site w' := by
  obtain ⟨hqueue, hfollows, hids, hkeys, hfree, hadv⟩ := hw
  refine ⟨htable ▸ hqueue, ?_, hrecords ▸ hids, htable ▸ hkeys, hlock ▸ hfree, fun hcur hbound => ?_⟩
  · rw [hmatch, htable]
    exact hfollows
  · rw [hmatch, htable]
    exact hadv (hcursor ▸ hcur) (hrecords ▸ hbound)

/-- The search matches no more records than the server holds of the type. -/
lemma length_matching_le (w : TableWorld) :
    (w.matching site).length ≤ (w.server.recordsOf site.contentType).length :=
  (Server.listing_subperm _ _ _).length_le

/-- Draining the one page queued, when it continues the rows, leaves the table at rest.

**Proof sketch.** The lock is taken — a wait that ends only when it is free — and given back, so
it is free again.  The server lists the records of the table's search and reads the page and size
asked for (`SearchState.listing_pointAt`, `SearchState.pageOf_pointAt`,
`SearchState.pageSizeOf_pointAt`), so the page that arrives is the slice of `L` that continues
the rows, and taking it in keeps the table following `L` (`ContentTable.Follows.applyPage`) and,
paging by number, advancing through it (`ContentTable.Pending.applyPage`).  A page that fails is
forgotten, which leaves the table as it was before the page was asked for; either way the queue
is then empty and the drain ends. -/
lemma wp_drain_one (hF : 0 < site.config.accelerationFactor) {w : TableWorld} {r : PageRequest}
    (hq : w.table.queue = [r]) (hf : w.table.Follows (w.matching site))
    (hids : ((w.server.recordsOf site.contentType).map (·.id)).Nodup)
    (hkeys : w.table.search.FieldKeyed) {m : Nat} (hr : r.Asks m) (hm : w.table.Continues m)
    (hpend : w.server.cursorPaging = false → (w.server.recordsOf site.contentType).length ≤ u32Max →
      w.table.Pending (w.matching site) r m) :
    Proc.wp (drain site) (fun _ w' => AtRest site w') w := by
  -- the page is taken from the queue with the search pointed at it
  have hf₁ := hf.pointAt r []
  have hm₁ : ({ w.table with queue := [], search := w.table.search.pointAt r } : ContentTable).Continues m :=
    ⟨hm.pos, by simpa using hm.start_le, by simpa using hm.start_eq⟩
  unfold drain
  simp only [Proc.wp_bind, wp_lockDrain]
  intro hlock
  have hfree : FairLock.isFree
      { w.drainLock with issued := w.drainLock.issued + 1, serving := w.drainLock.serving + 1 } =
        true := by
    simp [FairLock.isFree, hlock]
  show Proc.wp (drainQueue site (99999 + 1) 0) _ _
  refine wp_drainQueue_cons
    (w := { w with drainLock := { w.drainLock with issued := w.drainLock.issued + 1 } }) hq
    (fun e _ => ?_) (fun page lp t' hpage hlp ht' => ?_)
  · -- a page that fails is forgotten
    simp only [wp_unlockDrain, Proc.wp_pure]
    refine ⟨rfl, ?_, hids, by simpa [ContentTable.forgetRequest] using hkeys, hfree,
      fun hcur hbound => ?_⟩
    · simpa [matching, ContentTable.forgetRequest] using hf₁.forgetRequest r
    · have hcur' : w.server.cursorPaging = false := by simpa using hcur
      simpa [matching, ContentTable.forgetRequest] using
        ((hpend hcur' (by simpa using hbound)).pointAt []).forgotten
  · -- a page that arrives is the slice of the listing that continues the rows
    obtain rfl := (SearchState.pageOf_pointAt hkeys hr hm.pos hpage).symm
    rw [SearchState.listing_pointAt, SearchState.pageSizeOf_pointAt hkeys r hf.size_le,
      Nat.max_eq_left hf.size_pos] at hlp
    have hlp' : Server.pageWindow (w.matching site) m
        ({ w.table with queue := [], search := w.table.search.pointAt r } : ContentTable).search.pageSize
        w.server.cursorPaging = .ok lp := by simpa [matching] using hlp
    have hf' := hf₁.applyPage (Server.listing_ids_nodup hids _) hF hm₁ hlp' ht'
    have hframe := (ContentTable.applyPage_eq_ok ht').1
    have hqueue : t'.queue = [] := by rw [hframe]
    have hsearch : t'.search.searchParams = w.table.search.searchParams := by
      rw [hframe]
      exact SearchState.searchParams_pointAt _ _
    have hparams : t'.search.params = w.table.search.params := by
      rw [hframe]
      exact SearchState.params_pointAt _ _
    rw [wp_drainQueue_of_nil hqueue]
    simp only [wp_unlockDrain, Proc.wp_pure]
    refine ⟨hqueue, ?_, hids, fun k hk => hkeys k (hparams ▸ hk), hfree, fun hcur hbound => ?_⟩
    · simpa [matching, hsearch] using hf'
    · -- paging by number, the table advances through the listing
      have hcur' : w.server.cursorPaging = false := by simpa using hcur
      have hbound' : (w.server.recordsOf site.contentType).length ≤ u32Max := by simpa using hbound
      rw [hcur'] at hlp'
      have ha := ((hpend hcur' hbound').pointAt []).applyPage hf₁ (Server.listing_ids_nodup hids _)
        ((length_matching_le w).trans hbound') hm₁ hlp' ht'
      simpa [matching, hsearch] using ha

/-! ### Every operation keeps the table at rest -/

section Operations

variable (hP : 0 < site.config.pageSize) (hP' : site.config.pageSize ≤ u32Max)
  (hF : 0 < site.config.accelerationFactor)
include hP hP' hF

/-- A reload, from any world whose server stores each record of the type once and whose search
is field-keyed, leaves the table at rest.

**Proof sketch.** Clearing the rows gives a table that follows any list, and queues the first
page, which continues the empty rows; the drain of that one page keeps the table at rest
(`wp_drain_one`). -/
lemma wp_reload {w : TableWorld} (hids : ((w.server.recordsOf site.contentType).map (·.id)).Nodup)
    (hkeys : w.table.search.FieldKeyed) :
    Proc.wp (reload site) (fun _ w' => AtRest site w') w := by
  unfold reload
  simp only [Proc.wp_bind, wp_onTable]
  refine Proc.wp_mono (fun res w' hw' => ?_) _ _
    (wp_drain_one hF (r := .number 1) rfl ((ContentTable.follows_clearRows hP hP' _).enqueue _) hids
      hkeys (.inl rfl) ((ContentTable.continues_clearRows_one _).enqueue _)
      fun _ _ => ContentTable.pending_clearRows hP _)
  cases res <;> simpa [Proc.wp_bind] using hw'

omit hP hP' in
/-- Reaching the last row of a page keeps the table at rest: either nothing is queued and the
table is as it was, or its next page is queued, which continues the rows, and drained. -/
lemma wp_onLastRowVisible {w : TableWorld} (hw : AtRest site w) (page : Nat) :
    Proc.wp (onLastRowVisible site page) (fun _ w' => AtRest site w') w := by
  unfold onLastRowVisible drainIfQueued
  simp only [Proc.wp_bind, wp_onTable]
  rcases w.table.requestNextAt_eq page with hsame | ⟨r, hnext, hqueued⟩
  · rw [hsame]
    exact hw
  · rw [hqueued]
    dsimp only
    rw [if_pos rfl, Proc.wp_bind]
    obtain ⟨m, hasks, hm⟩ := hw.follows.next_continues r hnext
    refine Proc.wp_mono (fun res w' hw' => ?_) _ _
      (wp_drain_one hF (r := r) (by simp [hw.queue_eq]) (hw.follows.congr rfl rfl rfl rfl rfl rfl)
        hw.ids_nodup hw.fieldKeyed hasks ⟨hm.pos, hm.start_le, hm.start_eq⟩ fun hcur hbound => ?_)
    · cases res <;> simpa using hw'
    · -- paging by number, the page queued is pending
      obtain ⟨m', -, hp⟩ := (hw.advances hcur hbound).pending hnext
      obtain rfl := hp.eq_of_asks hasks
      exact hp

/-- A change of the search that keeps its parameters field parameters, followed by a reload,
leaves the table at rest. -/
lemma wp_updateSearch {w : TableWorld}
    (hids : ((w.server.recordsOf site.contentType).map (·.id)).Nodup)
    {f : SearchState → SearchState} (hkeys : (f w.table.search).FieldKeyed) :
    Proc.wp (updateSearch site f) (fun _ w' => AtRest site w') w := by
  unfold updateSearch
  simp only [Proc.wp_bind, wp_onTable]
  exact wp_reload hP hP' hF hids hkeys

/-- The same for a change of the search that gives a result. -/
lemma wp_changeSearch {α : Type} {w : TableWorld}
    (hids : ((w.server.recordsOf site.contentType).map (·.id)).Nodup)
    {f : SearchState → SearchState × α} (hkeys : (f w.table.search).1.FieldKeyed) :
    Proc.wp (changeSearch site f) (fun _ w' => AtRest site w') w := by
  unfold changeSearch
  simp only [Proc.wp_bind, wp_onTable, Proc.wp_map]
  exact wp_reload hP hP' hF hids hkeys

/-- Deleting a view keeps the table at rest: the view the search names is dropped from the
search, which reloads; any other view lists nothing the search matches. -/
lemma wp_deleteView {w : TableWorld} (hw : AtRest site w) (viewId : String) :
    Proc.wp (deleteView site viewId) (fun _ w' => AtRest site w') w := by
  unfold deleteView
  simp only [Proc.wp_bind, wp_ask]
  refine Server.wp_contentView ?_
  rw [Server.applyViewRequest_delete]
  by_cases hexists : (w.server.log "content_view" site.corpusId []).views.containsKey viewId
  · -- the view is deleted
    rw [if_pos hexists]
    simp only [Proc.wp_bind, wp_tableNow]
    split
    · -- it was the search's view: the search drops it and the table reloads
      rw [Proc.wp_map]
      -- the records are not touched by dropping a view
      refine wp_updateSearch hP hP' hF ?_ (hw.fieldKeyed.setContentView none)
      exact hw.ids_nodup
    · -- another view: the search lists the same records
      next hother =>
      have hview : Server.param? w.table.search.searchParams "content_view" ≠ some viewId := by
        rw [hw.fieldKeyed.param?_contentView]
        simpa using hother
      refine hw.of_server rfl rfl ?_ rfl rfl
      simp only [matching]
      rw [Server.listing_eraseView hview]
      rfl
  · -- no such view: only the request is logged
    rw [if_neg hexists]
    exact hw.of_server rfl rfl rfl rfl rfl

/-- Confirming a bulk action sends it, which may delete records of the type, and reloads. -/
lemma wp_confirm {w : TableWorld} (hw : AtRest site w) (p : PendingConfirmation) :
    Proc.wp (confirm site p) (fun _ w' => AtRest site w') w := by
  unfold confirm submitBulk
  simp only [Proc.wp_bind, wp_ask]
  refine Server.wp_bulkAction fun s' hs' => ?_
  simp only [wp_onTable, Proc.wp_bind, Proc.wp_map]
  refine wp_reload hP hP' hF ?_ hw.fieldKeyed
  subst hs'
  split
  · exact (Server.recordsOf_deleteSelection _ _ _).map _ |>.nodup (by simpa using hw.ids_nodup)
  · simpa using hw.ids_nodup

end Operations

/-! ### Browsing -/

/-- The worlds a table reaches, run alone: a reload, from a world whose server stores each
record of the type once and whose search is field-keyed, followed by any sequence of scrolls and
of operations that reload — a change of the search that keeps it field-keyed, a sort, the removal
of a parameter, the deletion of a view and a confirmed bulk action. -/
inductive Browsing (site : TableSite) : TableWorld → Prop
  | reload {w w' : TableWorld} (hids : ((w.server.recordsOf site.contentType).map (·.id)).Nodup)
      (hkeys : w.table.search.FieldKeyed) (run : (reload site).Reaches w w') : Browsing site w'
  | scroll {w w' : TableWorld} (page : Nat) (h : Browsing site w)
      (run : (onLastRowVisible site page).Reaches w w') : Browsing site w'
  | search {w w' : TableWorld} {f : SearchState → SearchState}
      (hf : ∀ s : SearchState, s.FieldKeyed → (f s).FieldKeyed) (h : Browsing site w)
      (run : (updateSearch site f).Reaches w w') : Browsing site w'
  | orderBy {w w' : TableWorld} (field : String) (h : Browsing site w)
      (run : (orderBy site field).Reaches w w') : Browsing site w'
  | removeParam {w w' : TableWorld} (key : String) (h : Browsing site w)
      (run : (removeParam site key).Reaches w w') : Browsing site w'
  | deleteView {w w' : TableWorld} (viewId : String) (h : Browsing site w)
      (run : (deleteView site viewId).Reaches w w') : Browsing site w'
  | confirm {w w' : TableWorld} (p : PendingConfirmation) (h : Browsing site w)
      (run : (confirm site p).Reaches w w') : Browsing site w'

/-- Every world browsing reaches is at rest.

**Proof sketch.** Induction on the browsing.  Each operation, from a world at rest (a reload
from any world whose server stores each record once and whose search is field-keyed), ends only
in worlds at rest, and a run alone ends where its weakest precondition says
(`Proc.wp_reaches`). -/
theorem Browsing.atRest (hP : 0 < site.config.pageSize) (hP' : site.config.pageSize ≤ u32Max)
    (hF : 0 < site.config.accelerationFactor) {w : TableWorld} (h : Browsing site w) :
    AtRest site w := by
  induction h with
  | reload hids hkeys run => exact Proc.wp_reaches (wp_reload hP hP' hF hids hkeys) run
  | scroll page _ run ih => exact Proc.wp_reaches (wp_onLastRowVisible hF ih page) run
  | search hf _ run ih =>
    exact Proc.wp_reaches (wp_updateSearch hP hP' hF ih.ids_nodup (hf _ ih.fieldKeyed)) run
  | orderBy field _ run ih =>
    exact Proc.wp_reaches
      (wp_changeSearch hP hP' hF ih.ids_nodup (ih.fieldKeyed.orderBy field)) run
  | removeParam key _ run ih =>
    exact Proc.wp_reaches
      (wp_changeSearch hP hP' hF ih.ids_nodup (ih.fieldKeyed.removeParam key)) run
  | deleteView viewId _ run ih => exact Proc.wp_reaches (wp_deleteView hP hP' hF ih viewId) run
  | confirm p _ run ih => exact Proc.wp_reaches (wp_confirm hP hP' hF ih p) run

/-- Browsing a table alone shows a prefix of the records its search matches on the server, with
no record twice; once a page has loaded and there is no next page, it shows all of them.

**Proof sketch.** The world is at rest (`Browsing.atRest`), so the table follows the listing: the
rows are a prefix of it, the listing has each id once because the server stores each record of
the type once (`Server.listing_ids_nodup`), and the rows are all of it once the last page is
in. -/
theorem browsing_rows_prefix_listing (hP : 0 < site.config.pageSize)
    (hP' : site.config.pageSize ≤ u32Max) (hF : 0 < site.config.accelerationFactor)
    {w : TableWorld} (h : Browsing site w) :
    w.table.rows <+: w.server.listing site.contentType w.table.search.searchParams ∧
      (w.table.rows.map (·.id)).Nodup ∧
      (0 < w.table.pagesLoaded → w.table.next = none →
        w.table.rows = w.server.listing site.contentType w.table.search.searchParams) := by
  have hw := h.atRest hP hP' hF
  refine ⟨hw.follows.rows_prefix, ?_, fun hpages hnext => hw.follows.rows_eq_of_last hnext hpages⟩
  exact (hw.follows.rows_prefix.sublist.map _).nodup hw.matching_nodup

/-- Books, paged one at a time. -/
def bookSite : TableSite := ⟨"42", "Book", { pageSize := 1 }⟩

/-- An empty table of books over a server holding two. -/
def twoBooks : TableWorld :=
  ⟨ContentTable.start (SearchState.new 1),
    { records := [("Book", [("b1", { id := "b1" }), ("b2", { id := "b2" })])] }, {}⟩

/-- The world a first reload of the table of two books finishes in. -/
def twoBooksReloaded : TableWorld :=
  (Proc.runFrom 20 0 (reload bookSite) twoBooks).state?.getD twoBooks

/-- Books paged one at a time, then two at a time once three pages are in. -/
def acceleratingSite : TableSite := ⟨"42", "Book", { pageSize := 1, accelerationFactor := 2 }⟩

/-- An empty table of books over a server holding four. -/
def fourBooks : TableWorld :=
  ⟨ContentTable.start (SearchState.new 1),
    { records := [("Book", ["b1", "b2", "b3", "b4"].map fun i => (i, { id := i }))] }, {}⟩

/-- The world a run of a program finishes in, within a few polls. -/
def after {α : Type} (p : Proc TableWorld α) (w : TableWorld) : TableWorld :=
  (Proc.runFrom 20 0 p w).state?.getD w

/-- The table of four books reloaded and scrolled three times.  After three pages of one the
table pages by two, and the page it then loads, the second of two, starts with the third book,
already shown. -/
def fourBooksScrolled : TableWorld :=
  let scroll := fun w : TableWorld => after (onLastRowVisible acceleratingSite w.table.currentPage) w
  scroll <| scroll <| scroll <| after (reload acceleratingSite) fourBooks

/-- Past the acceleration the table of four books shows each book once, in the order of the
listing. -/
theorem browsing_rows_prefix_listing_accelerated :
    let s := acceleratingSite
    let w := fourBooksScrolled
    0 < s.config.pageSize ∧ s.config.pageSize ≤ u32Max ∧ 0 < s.config.accelerationFactor ∧
      Browsing s w ∧ w.table.search.pageSize = 2 ∧ w.table.rows.map (·.id) = ["b1", "b2", "b3", "b4"] ∧
      (w.table.rows <+: w.server.listing s.contentType w.table.search.searchParams ∧
        (w.table.rows.map (·.id)).Nodup ∧
        (0 < w.table.pagesLoaded → w.table.next = none →
          w.table.rows = w.server.listing s.contentType w.table.search.searchParams)) := by
  intro s w
  have h₀ : Browsing s (after (reload s) fourBooks) :=
    .reload (by decide +kernel) (fun _ hk => by simp [fourBooks, ContentTable.start, SearchState.new] at hk)
      (Proc.reaches_state? (by decide +kernel))
  -- each scroll finishes within the polls it is given
  have hb : Browsing s w :=
    .scroll _ (.scroll _ (.scroll _ h₀ (Proc.reaches_state? (by decide +kernel)))
      (Proc.reaches_state? (by decide +kernel))) (Proc.reaches_state? (by decide +kernel))
  exact ⟨by decide, by decide, by decide, hb, by decide +kernel, by decide +kernel,
    browsing_rows_prefix_listing (by decide) (by decide) (by decide) hb⟩

/-- Paging by number, reaching the last row of the page last loaded while there is a next page
always loads it: the call finishes, answers that it queued a page, shows more rows than before,
and leaves the table browsing.  So scrolling reaches every record the search matches.

**Proof sketch.** The table advances through the listing (`AtRest.advances`), so its next page
is a number it never asked for and reaching the last row queues it (`Advances.requestNextAt`).
The number and the page's offset lie within the listing, which fits a word, so the server serves
the page (`Server.exists_pageWindow_eq_ok`) and the table takes it in without an abort
(`ContentTable.exists_applyPage_eq_ok`); the page runs past the rows, which then reach the end of
the page or of the listing (`ContentTable.length_rows_applyPage`). -/
lemma scroll_loads_page (hP : 0 < site.config.pageSize)
    (hP' : site.config.pageSize ≤ u32Max) (hF : 0 < site.config.accelerationFactor)
    {w : TableWorld} (h : Browsing site w) (hcur : w.server.cursorPaging = false)
    (hbound : (w.server.recordsOf site.contentType).length ≤ u32Max)
    (hnext : w.table.next.isSome) :
    ∃ w', Proc.Yields (onLastRowVisible site w.table.currentPage) w (.ok true) w' ∧
      w.table.rows.length < w'.table.rows.length ∧ Browsing site w' ∧
      w'.server.recordsOf site.contentType = w.server.recordsOf site.contentType ∧
      w'.server.cursorPaging = w.server.cursorPaging ∧ 0 < w'.table.pagesLoaded := by
  have hw := h.atRest hP hP' hF
  have ha := hw.advances hcur hbound
  obtain ⟨r, hr⟩ := Option.isSome_iff_exists.1 hnext
  obtain ⟨m, rfl, hend⟩ := ha.next_past _ hr
  have hlt := ha.rows_lt _ hr
  obtain ⟨m', hasks, hm⟩ := hw.follows.next_continues _ hr
  rcases hasks with h | h <;> cases h
  have hsize := hw.follows.size_pos
  have hL : (w.matching site).length ≤ u32Max := (length_matching_le w).trans hbound
  -- the page and its offset lie within the listing, which fits a word
  have hstart := hm.start_le
  have hmle : m ≤ u32Max := by
    have := Nat.le_mul_of_pos_right (m - 1) hsize
    omega
  have hpage : Server.pageOf (w.table.search.pointAt (.number m)).toPairs = .ok m := by
    rw [SearchState.toPairs_pointAt, PageRequest.pagingPair,
      Server.pageOf_page hw.fieldKeyed.paging_not_mem, if_pos hmle, Nat.max_eq_left hm.pos]
  obtain ⟨lp, hwin⟩ := Server.exists_pageWindow_eq_ok (w.matching site) false
    (show (m - 1) * w.table.search.pageSize ≤ u32Max by omega)
  -- the page is taken in by the table with the page asked for and the search pointed at it
  let t₂ : ContentTable := { w.table with
    requested := w.table.requested.insert ((PageRequest.number m).key w.table.search.pageSize)
    queue := []
    search := w.table.search.pointAt (.number m) }
  have hf₂ : t₂.Follows (w.matching site) := hw.follows.congr rfl rfl rfl rfl rfl rfl
  have hm₂ : t₂.Continues m := ⟨hm.pos, hm.start_le, hm.start_eq⟩
  have hrows₂ : t₂.rows = w.table.rows := rfl
  have hsize₂ : t₂.search.pageSize = w.table.search.pageSize := rfl
  have hids := hw.matching_nodup
  obtain ⟨t', happly⟩ := ContentTable.exists_applyPage_eq_ok (t := t₂) hF hsize fun hmore => by
    have hpast := (Server.hasNextPage_pageWindow hwin hsize).1 hmore
    rw [(Server.pageWindow_eq_ok hwin).2.1, ContentTable.rows_addRows_page hf₂ hids hm₂ hwin,
      List.length_take, hrows₂, hsize₂]
    have := Nat.le_mul_of_pos_right m hsize
    omega
  -- reaching the last row queues the page, and the drain takes it in
  have hyield := (yields_onTable (·.requestNextAt w.table.currentPage) w).bind
    (show Proc.Yields (drainIfQueued site (w.table.requestNextAt w.table.currentPage).1)
        { w with table := (w.table.requestNextAt w.table.currentPage).2 } _ _ by
      rw [ha.requestNextAt hr, drainIfQueued, if_pos rfl]
      refine Proc.Yields.bind (yields_drain_one (r := .number m) (by simp [hw.queue_eq])
        (by exact hw.lock_free) (by exact hpage) ?_ (by exact happly)) (Proc.yields_pure _ _)
      rw [SearchState.listing_pointAt, SearchState.pageSizeOf_pointAt hw.fieldKeyed _
        hw.follows.size_le, Nat.max_eq_left hsize, hcur]
      exact hwin)
  obtain ⟨fuel, clock, hrun⟩ := (hyield.runFrom 0).1
  refine ⟨_, hyield, ?_, .scroll _ h ⟨fuel, 0, _, clock, hrun⟩, rfl, rfl, ?_⟩
  · -- the rows reach the end of the page or of the listing, both past them
    show w.table.rows.length < t'.rows.length
    rw [ContentTable.length_rows_applyPage hf₂ hids hm₂ hend hwin happly, hsize₂]
    omega
  · show 0 < t'.pagesLoaded
    rw [(ContentTable.applyPage_eq_ok happly).1]
    exact Nat.succ_pos _

theorem scroll_by_number_shows_more (hP : 0 < site.config.pageSize)
    (hP' : site.config.pageSize ≤ u32Max) (hF : 0 < site.config.accelerationFactor)
    {w : TableWorld} (h : Browsing site w) (hcur : w.server.cursorPaging = false)
    (hbound : (w.server.recordsOf site.contentType).length ≤ u32Max)
    (hnext : w.table.next.isSome) :
    ∃ w', Proc.Yields (onLastRowVisible site w.table.currentPage) w (.ok true) w' ∧
      w.table.rows.length < w'.table.rows.length ∧ Browsing site w' := by
  obtain ⟨w', hy, hlt, hb, -⟩ := scroll_loads_page hP hP' hF h hcur hbound hnext
  exact ⟨w', hy, hlt, hb⟩

/-- Paging by number, scrolling to the last row while there is a next page shows, after finitely
many scrolls that each load a page, every record the search matches, with no next page left.

**Proof sketch.** Induction on the stored records not shown: each scroll shows more of them
(`scroll_loads_page`) and keeps the records and the paging mode. -/
theorem scrolls_show_listing (hP : 0 < site.config.pageSize)
    (hP' : site.config.pageSize ≤ u32Max) (hF : 0 < site.config.accelerationFactor)
    {w : TableWorld} (h : Browsing site w) (hcur : w.server.cursorPaging = false)
    (hbound : (w.server.recordsOf site.contentType).length ≤ u32Max)
    (hloaded : 0 < w.table.pagesLoaded) :
    ∃ w', Relation.ReflTransGen (fun v v' =>
        Proc.Yields (onLastRowVisible site v.table.currentPage) v (.ok true) v') w w' ∧
      w'.table.next = none ∧
      w'.table.rows = w'.server.listing site.contentType w'.table.search.searchParams := by
  induction hk : (w.server.recordsOf site.contentType).length - w.table.rows.length
    using Nat.strong_induction_on generalizing w with
  | _ k ih =>
    cases hnext : w.table.next with
    | none => exact ⟨w, .refl, hnext, (h.atRest hP hP' hF).follows.rows_eq_of_last hnext hloaded⟩
    | some r =>
      obtain ⟨w', hy, hlt, hb, hrec, hcur', hloaded'⟩ :=
        scroll_loads_page hP hP' hF h hcur hbound (by simp [hnext])
      -- the rows shown are records the search matches, and the records stay
      have hle := (hb.atRest hP hP' hF).follows.rows_prefix.length_le.trans (length_matching_le w')
      rw [hrec] at hle
      obtain ⟨w'', hrun, hdone⟩ := ih _ (by rw [hrec]; omega) hb (hcur'.trans hcur)
        (hrec ▸ hbound) hloaded' rfl
      exact ⟨w'', .head hy hrun, hdone⟩

/-- Once the table of two books is reloaded, scrolling to its last row loads the second book. -/
theorem scroll_two_books_shows_more :
    0 < bookSite.config.pageSize ∧ bookSite.config.pageSize ≤ u32Max ∧
      0 < bookSite.config.accelerationFactor ∧ Browsing bookSite twoBooksReloaded ∧
      twoBooksReloaded.server.cursorPaging = false ∧
      (twoBooksReloaded.server.recordsOf bookSite.contentType).length ≤ u32Max ∧
      twoBooksReloaded.table.next.isSome ∧
      ∃ w', Proc.Yields (onLastRowVisible bookSite twoBooksReloaded.table.currentPage)
          twoBooksReloaded (.ok true) w' ∧
        twoBooksReloaded.table.rows.length < w'.table.rows.length ∧ Browsing bookSite w' := by
  have hb : Browsing bookSite twoBooksReloaded :=
    .reload (by decide +kernel) (fun _ hk => by simp [twoBooks, ContentTable.start, SearchState.new] at hk)
      (Proc.reaches_state? (by decide +kernel))
  obtain ⟨hcur, hbound, hnext⟩ : twoBooksReloaded.server.cursorPaging = false ∧
      (twoBooksReloaded.server.recordsOf bookSite.contentType).length ≤ u32Max ∧
      twoBooksReloaded.table.next.isSome := by decide +kernel
  exact ⟨by decide, by decide, by decide, hb, hcur, hbound, hnext,
    scroll_by_number_shows_more (by decide) (by decide) (by decide) hb hcur hbound hnext⟩

end TableWorld

end CorpusBench
