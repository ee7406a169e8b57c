import CorpusBench.Proofs.Table.Browsing

/-!
# Confirmed bulk deletions

A table asks for a bulk action on its selection with the search in force.  A destructive one
is not sent: it comes back for confirmation, and nothing reaches the server
(`TableWorld.wp_requestBulk_destructive`).  Confirming sends it; the table then clears its
selection and reloads, and a reload only lists, so the server's records are those the deletion
left (`TableWorld.wp_confirm_records`).

## Design

The request carries the search in force beside the selection, so that a selection of every row
could be read as the records the table pages through.  The server does not read it: deleting a
selection of `all` removes every record of the type, whatever the search
(`Server.recordsOf_deleteSelection_all`), and deleting listed ids removes the records of exactly
those ids (`Server.record?_deleteSelection_ids`).  Records of other types are kept either way.

## Main results

* `TableWorld.wp_requestBulk_destructive` — asking changes nothing.
* `TableWorld.wp_confirm_records` — confirming deletes the request's selection.
* `TableWorld.confirmed_delete_ignores_search` — the two together: a confirmed
  deletion of every row empties the type, and one of listed ids removes exactly those.
-/

namespace CorpusBench

namespace StrMap

variable {α : Type}

/-- Erasing keys one after the other from a sorted map removes the values of exactly those
keys. -/
lemma lookup_foldl_erase (xs : List String) {m : StrMap α} (h : Sorted m) (j : String) :
    lookup j (xs.foldl (fun m x => erase x m) m) = if j ∈ xs then none else lookup j m := by
  induction xs generalizing m with
  | nil => simp
  | cons x xs ih =>
    rw [List.foldl_cons, ih (h.erase x), lookup_erase h]
    by_cases hj : j = x <;> by_cases hxs : j ∈ xs <;> simp [hj, hxs]

end StrMap

namespace Server

variable {s : Server} {contentType : String}

@[simp] lemma records_log (s : Server) (operation target : String) (params : QueryPairs) :
    (s.log operation target params).records = s.records := rfl

/-- A deletion looks at the records alone. -/
lemma records_deleteSelection_log (sel : ContentSelection) (operation target : String)
    (params : QueryPairs) :
    (deleteSelection (s.log operation target params) contentType sel).records =
      (deleteSelection s contentType sel).records := by
  cases sel <;> rfl

/-- A deletion leaves the records of every other type. -/
lemma record?_deleteSelection_of_ne {ct : String} (hct : ct ≠ contentType) (sel : ContentSelection)
    (id : String) : (deleteSelection s contentType sel).record? ct id = s.record? ct id := by
  cases sel <;> simp [deleteSelection, modifyRecords, record?, StrMap.lookup_modify, hct]

/-- Deleting all records of a type leaves none of it, whatever was there. -/
lemma recordsOf_deleteSelection_all : (deleteSelection s contentType .all).recordsOf contentType = [] := by
  simp only [deleteSelection, modifyRecords, recordsOf, StrMap.lookup_modify]
  cases s.records.lookup contentType <;> rfl

/-- Deleting listed ids removes the records of exactly those ids, the records of the type being
stored once each. -/
lemma record?_deleteSelection_ids
    (hsorted : ∀ m, s.records.lookup contentType = some m → StrMap.Sorted m) (xs : List String)
    (id : String) :
    (deleteSelection s contentType (.ids xs)).record? contentType id =
      if id ∈ xs then none else s.record? contentType id := by
  simp only [deleteSelection, modifyRecords, record?, StrMap.lookup_modify]
  cases hm : s.records.lookup contentType with
  | none => simp
  | some m =>
    simp only [Option.map_some, Option.bind_some]
    exact StrMap.lookup_foldl_erase xs (hsorted m hm) id

end Server

namespace TableWorld

variable {site : TableSite}

/-! ### What a table's programs do to the server's records -/

/-- A drain only lists: it leaves the server's records as they were. -/
lemma wp_drainQueue_records {R : StrMap (StrMap ContentRecord)} :
    ∀ (fuel applied : Nat) (w : TableWorld), w.server.records = R →
      Proc.wp (drainQueue site fuel applied) (fun _ w' => w'.server.records = R) w := by
  intro fuel
  induction fuel with
  | zero => exact fun applied w _ => wp_drainQueue_zero applied _ w
  | succ fuel ih =>
    intro applied w hR
    cases hq : w.table.queue with
    | nil => exact (wp_drainQueue_of_nil hq _ _ _).2 hR
    | cons r rest =>
      exact wp_drainQueue_cons hq (fun _ _ => hR) fun _ _ _ _ _ _ => ih _ _ hR

lemma wp_drain_records {R : StrMap (StrMap ContentRecord)} {w : TableWorld}
    (hR : w.server.records = R) :
    Proc.wp (drain site) (fun _ w' => w'.server.records = R) w := by
  unfold drain
  simp only [Proc.wp_bind, wp_lockDrain]
  intro _
  exact Proc.wp_mono (fun _ w' hw' => by simpa [wp_unlockDrain] using hw') _ _
    (wp_drainQueue_records _ _ _ hR)

/-- A reload only lists: it leaves the server's records as they were. -/
lemma wp_reload_records {R : StrMap (StrMap ContentRecord)} {w : TableWorld}
    (hR : w.server.records = R) :
    Proc.wp (reload site) (fun _ w' => w'.server.records = R) w := by
  unfold reload
  simp only [Proc.wp_bind, wp_onTable]
  refine Proc.wp_mono (fun res w' hw' => ?_) _ _ (wp_drain_records hR)
  cases res <;> simpa [Proc.wp_bind] using hw'

/-- Asking for a destructive action sends nothing and changes nothing: it gives back, for
confirmation, the request of the selection with the search in force. -/
lemma wp_requestBulk_destructive {action : BulkAction} (hd : action.isDestructive = true)
    (w : TableWorld) :
    Proc.wp (requestBulk site action)
      (fun r w' => w' = w ∧ (w.table.selection.isEmpty = false → ∃ summary,
        r = .ok (.needsConfirmation
          ⟨⟨action, w.table.selection.toBulk, w.table.search.searchParams⟩, summary⟩))) w := by
  unfold requestBulk
  simp only [Proc.wp_bind, wp_tableNow]
  split
  · next hempty => exact ⟨rfl, fun h => absurd hempty (by simp [h])⟩
  · -- the action is destructive, so it comes back unsent
    rw [Proc.wp_pure]
    exact ⟨rfl, fun _ => ⟨_, rfl⟩⟩

/-- Confirming a destructive action sends it: when the confirmation ends, the server's records
are those the deletion of the request's selection leaves. -/
lemma wp_confirm_records {p : PendingConfirmation} (hd : p.request.action.isDestructive = true)
    (w : TableWorld) :
    Proc.wp (confirm site p)
      (fun _ w' => w'.server.records =
        (Server.deleteSelection w.server site.contentType p.request.selection).records) w := by
  unfold confirm submitBulk
  simp only [Proc.wp_bind]
  rw [wp_ask]
  refine Server.wp_bulkAction fun s' hs' => ?_
  simp only [hd, if_true, wp_onTable, Proc.wp_bind, Proc.wp_map]
  refine Proc.wp_mono (fun _ _ h => h) _ _ (wp_reload_records ?_)
  rw [hs', Server.records_deleteSelection_log]

/-- A confirmed deletion of every row, when it ends, has emptied the type, whatever search the
request carries, and kept the records of the other types. -/
lemma wp_confirm_all {p : PendingConfirmation} (hd : p.request.action.isDestructive = true)
    (hall : p.request.selection = .all) (w : TableWorld) :
    Proc.wp (confirm site p)
      (fun _ w' => w'.server.recordsOf site.contentType = [] ∧
        ∀ ct id, ct ≠ site.contentType → w'.server.record? ct id = w.server.record? ct id) w := by
  refine Proc.wp_mono (fun _ w' hw' => ⟨?_, fun ct id hct => ?_⟩) _ _ (wp_confirm_records hd w)
  · have hrecords : w'.server.recordsOf site.contentType =
        (Server.deleteSelection w.server site.contentType .all).recordsOf site.contentType := by
      simp only [Server.recordsOf, hw', hall]
    rw [hrecords, Server.recordsOf_deleteSelection_all]
  · have hrecord : w'.server.record? ct id =
        (Server.deleteSelection w.server site.contentType p.request.selection).record? ct id := by
      simp only [Server.record?, hw']
    rw [hrecord, Server.record?_deleteSelection_of_ne hct]

/-- A confirmed deletion of listed ids, when it ends, has removed the records of exactly those
ids. -/
lemma wp_confirm_ids {p : PendingConfirmation} {xs : List String}
    (hd : p.request.action.isDestructive = true) (hids : p.request.selection = .ids xs)
    {w : TableWorld}
    (hsorted : ∀ m, w.server.records.lookup site.contentType = some m → StrMap.Sorted m) :
    Proc.wp (confirm site p)
      (fun _ w' => ∀ ct id, w'.server.record? ct id =
        if ct = site.contentType ∧ id ∈ xs then none else w.server.record? ct id) w := by
  refine Proc.wp_mono (fun _ w' hw' ct id => ?_) _ _ (wp_confirm_records hd w)
  have hrecord : w'.server.record? ct id =
      (Server.deleteSelection w.server site.contentType (.ids xs)).record? ct id := by
    simp only [Server.record?, hw', hids]
  rw [hrecord]
  by_cases hct : ct = site.contentType
  · subst hct
    rw [Server.record?_deleteSelection_ids hsorted]
    simp
  · rw [Server.record?_deleteSelection_of_ne hct]
    simp [hct]

end TableWorld

/-- Bulk deletions are confirmed, and a deletion of every row ignores the search.  Asking for a
destructive action sends nothing and changes nothing, and gives back the request of the selection
with the search in force.  Confirming a deletion of every row leaves no record of the type at
all, whatever search the request carries, and keeps the records of the other types; confirming a
deletion of listed ids removes the records of exactly those ids, the type's records being stored
once each. -/
theorem confirmed_delete_ignores_search (site : TableSite) (w : TableWorld) :
    (∀ action : BulkAction, action.isDestructive = true →
      Proc.wp (TableWorld.requestBulk site action)
        (fun r w' => w' = w ∧ (w.table.selection.isEmpty = false → ∃ summary,
          r = .ok (.needsConfirmation
            ⟨⟨action, w.table.selection.toBulk, w.table.search.searchParams⟩, summary⟩))) w) ∧
    (∀ p : PendingConfirmation, p.request.action.isDestructive = true →
      p.request.selection = .all →
      Proc.wp (TableWorld.confirm site p)
        (fun _ w' => w'.server.recordsOf site.contentType = [] ∧
          ∀ ct id, ct ≠ site.contentType → w'.server.record? ct id = w.server.record? ct id) w) ∧
    (∀ (p : PendingConfirmation) (xs : List String), p.request.action.isDestructive = true →
      p.request.selection = .ids xs →
      (∀ m, w.server.records.lookup site.contentType = some m → StrMap.Sorted m) →
      Proc.wp (TableWorld.confirm site p)
        (fun _ w' => ∀ ct id, w'.server.record? ct id =
          if ct = site.contentType ∧ id ∈ xs then none else w.server.record? ct id) w) :=
  ⟨fun _ hd => TableWorld.wp_requestBulk_destructive hd w,
    fun _ hd hall => TableWorld.wp_confirm_all hd hall w,
    fun _ _ hd hids hsorted => TableWorld.wp_confirm_ids hd hids hsorted⟩

/-- Deleting every row of a search for one of two books deletes both. -/
example : ((Proc.runNow (TableWorld.confirm TableWorld.bookSite ⟨⟨.delete, .all, [("q", "b1")]⟩, ""⟩)
    TableWorld.twoBooks).state?.map fun w => (w.server.recordsOf "Book").length) = some 0 := by
  decide +kernel

end CorpusBench
