import CorpusBench.Proofs.Table.Paging
import CorpusBench.Table.Run

/-!
# The writes of a table world

A run of a table's operations, observed write by write.  Every write of the shared world is
recorded with the world just before it and just after, in the order the scheduler makes them:
a program over the world is run through `TableWorld.watch`, a lens whose update appends the
write to the trail.  What the operations promise about their order — that pages leave the queue
in the order they entered it, that a page is asked for by the very write after the one that took
it, that a page is taken in only as the answer to the last request, with no reload between, and
that the drain lock is handed on with the queue empty — is then a property of the trail,
`TableWorld.Disciplined`.

Each kind of write keeps the discipline under a condition on the write alone, or, for a page
taken in and for the release of the lock, on the trail before it (`Disciplined.record`); taking a
page off the queue keeps it together with the request that follows at once
(`Disciplined.record_take_ask`).

## Main definitions

* `TableWorld.Write`, `TableWorld.Watched`, `TableWorld.watch`.
* `TableWorld.Write.taken?`, `Write.queued?`, `Write.Asks`, `Write.TakesIn`,
  `Write.Releases`, `Write.Clears` — what a write does to the queue, the server's log, the pages
  loaded and the lock.
* `TableWorld.answer` — the page the server answers, right after a request.
* `TableWorld.Disciplined`.
-/

namespace CorpusBench

namespace TableWorld

/-- A write of a table world: the world just before it and just after. -/
structure Write where
  before : TableWorld
  after : TableWorld

/-- A table world with the writes made to it, oldest first. -/
structure Watched where
  world : TableWorld
  trail : List Write

namespace Watched

/-- The world after one more write, with the write recorded. -/
def record (w : TableWorld) (h : Watched) : Watched := ⟨w, h.trail ++ [⟨h.world, w⟩]⟩

@[simp] lemma world_record (w : TableWorld) (h : Watched) : (record w h).world = w := rfl

@[simp] lemma trail_record (w : TableWorld) (h : Watched) :
    (record w h).trail = h.trail ++ [⟨h.world, w⟩] := rfl

end Watched

/-- A program over a table world, with its writes recorded. -/
def watch {α : Type} (p : Proc TableWorld α) : Proc Watched α :=
  Proc.zoom Watched.world Watched.record p

namespace Write

variable (x : Write)

/-- The page a write took off the head of the queue, within one generation. -/
def taken? : Option PageRequest :=
  if x.after.table.generation = x.before.table.generation then
    match x.before.table.queue with
    | r :: rest => if x.after.table.queue = rest then some r else none
    | [] => none
  else none

/-- The page a write added at the end of the queue, within one generation. -/
def queued? : Option PageRequest :=
  if x.after.table.generation = x.before.table.generation then
    match x.after.table.queue.getLast? with
    | some r => if x.after.table.queue = x.before.table.queue ++ [r] then some r else none
    | none => none
  else none

/-- The write starts a new generation: the rows were cleared. -/
def Clears : Prop := x.after.table.generation ≠ x.before.table.generation

/-- The write sends a request for a list page with the pairs `params`. -/
def Asks (params : QueryPairs) : Prop :=
  ∃ target, x.after.server.calls = x.before.server.calls ++ [⟨"list_content", target, params⟩]

/-- The write sends a request for a list page. -/
def Requests : Prop := ∃ params, x.Asks params

/-- The write takes in a page: one more page is loaded, within one generation. -/
def TakesIn : Prop :=
  x.after.table.pagesLoaded = x.before.table.pagesLoaded + 1 ∧
    x.after.table.generation = x.before.table.generation

/-- The write releases the drain lock: the next ticket is served. -/
def Releases : Prop := x.after.drainLock.serving = x.before.drainLock.serving + 1

/-- The pages taken off the queue and the pages queued since the last reload, after one more
write: a reload starts both afresh from the queue it leaves. -/
def since (acc : List PageRequest × List PageRequest) (y : Write) :
    List PageRequest × List PageRequest :=
  if y.after.table.generation = y.before.table.generation then
    (acc.1 ++ y.taken?.toList, acc.2 ++ y.queued?.toList)
  else ([], y.after.table.queue)

variable {x}

lemma taken?_eq_some {r : PageRequest} :
    x.taken? = some r ↔ x.after.table.generation = x.before.table.generation ∧
      x.before.table.queue = r :: x.after.table.queue := by
  unfold taken?
  split
  · next hgen =>
    split
    · next r' rest hq =>
      split
      · next hrest => simp [hgen, hq, hrest, eq_comm]
      · next hrest => simp only [reduceCtorEq, false_iff, not_and]; intro _ h; simp_all
    · next hq => simp [hq]
  · next hgen => simp [hgen]

lemma queued?_eq_some {r : PageRequest} :
    x.queued? = some r ↔ x.after.table.generation = x.before.table.generation ∧
      x.after.table.queue = x.before.table.queue ++ [r] := by
  unfold queued?
  split
  · next hgen =>
    split
    · next r' hlast =>
      split
      · next happ =>
        constructor
        · rintro ⟨⟩
          exact ⟨hgen, happ⟩
        · rintro ⟨-, h⟩
          rw [happ, List.append_cancel_left_eq, List.singleton_inj] at h
          rw [h]
      · next happ =>
        simp only [reduceCtorEq, false_iff, not_and]
        intro _ h
        rw [h, List.getLast?_concat, Option.some.injEq] at hlast
        subst hlast
        exact happ h
    · next hlast =>
      simp only [reduceCtorEq, false_iff, not_and]
      intro _ h
      simp [h] at hlast
  · next hgen => simp [hgen]

/-- A write that leaves the queue as it is neither takes nor queues a page. -/
lemma taken?_of_queue (h : x.after.table.queue = x.before.table.queue) : x.taken? = none := by
  rw [Option.eq_none_iff_forall_ne_some]
  intro r hr
  have := congrArg List.length (taken?_eq_some.1 hr).2
  simp [h] at this

lemma queued?_of_queue (h : x.after.table.queue = x.before.table.queue) : x.queued? = none := by
  rw [Option.eq_none_iff_forall_ne_some]
  intro r hr
  have := congrArg List.length (queued?_eq_some.1 hr).2
  simp [h] at this

lemma queued?_of_taken? {r : PageRequest} (h : x.taken? = some r) : x.queued? = none := by
  rw [Option.eq_none_iff_forall_ne_some]
  intro r' hr'
  have h₁ := congrArg List.length (taken?_eq_some.1 h).2
  have h₂ := congrArg List.length (queued?_eq_some.1 hr').2
  simp only [List.length_cons, List.length_append] at h₁ h₂
  omega

lemma taken?_of_queued? {r : PageRequest} (h : x.queued? = some r) : x.taken? = none := by
  rw [Option.eq_none_iff_forall_ne_some]
  exact fun r' hr' => by simp [queued?_of_taken? hr'] at h

/-- A write that leaves the queue as it is, takes its head or adds a page at its end, or starts a
new generation. -/
def Shaped (x : Write) : Prop :=
  x.Clears ∨ x.after.table.queue = x.before.table.queue ∨ (∃ r, x.taken? = some r) ∨
    ∃ r, x.queued? = some r

/-- The pages taken off the queue, then the queue, stay the pages queued, through a write of
one of these shapes. -/
lemma since_fifo (hx : x.Shaped) {acc : List PageRequest × List PageRequest}
    (hacc : acc.1 ++ x.before.table.queue = acc.2) :
    (since acc x).1 ++ x.after.table.queue = (since acc x).2 := by
  unfold since
  split
  · next hgen =>
    rcases hx with hc | hq | ⟨r, hr⟩ | ⟨r, hr⟩
    · exact absurd hgen hc
    · simp [taken?_of_queue hq, queued?_of_queue hq, hq, hacc]
    · rw [hr, queued?_of_taken? hr, ← hacc, (taken?_eq_some.1 hr).2]
      simp
    · rw [hr, taken?_of_queued? hr, ← hacc, (queued?_eq_some.1 hr).2]
      simp
  · simp

end Write

/-- The page the server answers to a list request, right after the write that sends it: the
page, unless the paging pairs are refused or the page's offset overflows. -/
def answer (site : TableSite) (x : Write) (params : QueryPairs) : Option ListPage :=
  match Server.pageOf params with
  | .ok page =>
    (Server.pageWindow (x.after.server.listing site.contentType params) page
      (Server.pageSizeOf params) x.after.server.cursorPaging).toOption
  | .error _ => none

/-- The last list request of a trail was refused. -/
def LastRefused (trail : List Write) : Prop :=
  ∃ pre y mid params e, trail = pre ++ y :: mid ∧ y.Asks params ∧ Server.pageOf params = .error e ∧
    ∀ z ∈ mid, ¬ z.Requests

/-- The order a table's writes keep to.  Pages leave the queue in the order they entered it: the
pages taken off it since the last reload, followed by the queue, are the pages queued since.  A
page taken off the queue is asked for by the very next write, with the search pointed at it, and
every list request is made so.  A page is taken in only as the server's answer to the last list
request, with no other request, reload or page taken in between.  And the drain lock is released
only with the queue empty, unless the last request was refused. -/
structure Disciplined (site : TableSite) (h : Watched) : Prop where
  fifo : (h.trail.foldl Write.since ([], [])).1 ++ h.world.table.queue =
    (h.trail.foldl Write.since ([], [])).2
  taken_asked : ∀ pre x post r, h.trail = pre ++ x :: post → x.taken? = some r →
    ∃ y post', post = y :: post' ∧ y.Asks (x.before.table.search.pointAt r).toPairs
  asked_taken : ∀ pre y post params, h.trail = pre ++ y :: post → y.Asks params →
    ∃ pre' x r, pre = pre' ++ [x] ∧ x.taken? = some r ∧
      params = (x.before.table.search.pointAt r).toPairs
  takesIn : ∀ pre x post, h.trail = pre ++ x :: post → x.TakesIn →
    ∃ pre' y mid params page, pre = pre' ++ y :: mid ∧ y.Asks params ∧
      answer site y params = some page ∧
      x.before.table.applyPage site.config page = .ok x.after.table ∧
      ∀ z ∈ mid, ¬ z.Requests ∧ ¬ z.Clears ∧ ¬ z.TakesIn
  releases : ∀ pre x post, h.trail = pre ++ x :: post → x.Releases →
    x.after.table.queue = [] ∨ LastRefused pre

/-! ### Writes that keep the discipline -/

/-- Where a write appended to a trail stands: it is the new one, or it was there before. -/
lemma eq_append_singleton {l pre post : List Write} {w x : Write}
    (h : l ++ [w] = pre ++ x :: post) :
    (pre = l ∧ x = w ∧ post = []) ∨ ∃ post', post = post' ++ [w] ∧ l = pre ++ x :: post' := by
  rcases List.eq_nil_or_concat post with rfl | ⟨post', y, rfl⟩
  · obtain ⟨hl, hw⟩ := List.append_inj' h rfl
    exact .inl ⟨hl.symm, (List.singleton_inj.1 hw).symm, rfl⟩
  · rw [List.concat_eq_append, ← List.cons_append, ← List.append_assoc] at h
    obtain ⟨hl, hw⟩ := List.append_inj' h rfl
    refine .inr ⟨post', ?_, hl⟩
    rw [List.concat_eq_append, List.singleton_inj.1 hw]

variable {site : TableSite} {h : Watched}

/-- A write that is no request and takes no page off the queue keeps the discipline, when it
leaves the queue in one of its shapes, takes in a page only as the answer to the last request with
nothing in between, and releases the lock only with the queue empty or after a refused
request. -/
lemma Disciplined.record (hd : Disciplined site h) {w : TableWorld}
    (hshape : (Write.mk h.world w).Shaped) (htaken : (Write.mk h.world w).taken? = none)
    (hasks : ¬ (Write.mk h.world w).Requests)
    (htakes : (Write.mk h.world w).TakesIn →
      ∃ pre' y mid params page, h.trail = pre' ++ y :: mid ∧ y.Asks params ∧
        answer site y params = some page ∧ h.world.table.applyPage site.config page = .ok w.table ∧
        ∀ z ∈ mid, ¬ z.Requests ∧ ¬ z.Clears ∧ ¬ z.TakesIn)
    (hrel : (Write.mk h.world w).Releases →
      w.table.queue = [] ∨ LastRefused h.trail) :
    Disciplined site (Watched.record w h) where
  fifo := by
    simp only [Watched.trail_record, List.foldl_append, List.foldl_cons, List.foldl_nil,
      Watched.world_record]
    exact Write.since_fifo hshape hd.fifo
  taken_asked pre x post r htr hr := by
    rcases eq_append_singleton htr with ⟨-, rfl, -⟩ | ⟨post', rfl, hl⟩
    · rw [htaken] at hr
      cases hr
    · obtain ⟨y, post'', rfl, hy⟩ := hd.taken_asked pre x post' r hl hr
      exact ⟨y, post'' ++ [_], rfl, hy⟩
  asked_taken pre y post params htr hy := by
    rcases eq_append_singleton htr with ⟨-, rfl, -⟩ | ⟨post', -, hl⟩
    · exact absurd ⟨params, hy⟩ hasks
    · exact hd.asked_taken pre y post' params hl hy
  takesIn pre x post htr hx := by
    rcases eq_append_singleton htr with ⟨rfl, rfl, -⟩ | ⟨post', -, hl⟩
    · exact htakes hx
    · exact hd.takesIn pre x post' hl hx
  releases pre x post htr hx := by
    rcases eq_append_singleton htr with ⟨rfl, rfl, -⟩ | ⟨post', -, hl⟩
    · exact hrel hx
    · exact hd.releases pre x post' hl hx

end TableWorld

end CorpusBench
