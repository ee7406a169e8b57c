import CorpusBench.Proofs.Client.Chunks
import CorpusBench.Fields.FileEditor

/-!
# Staged transfers of a file editor

A file editor stages a file by uploading it: the upload opens a transfer on the server, and the
editor keeps the receipt as its pending transfer until the record is saved.  Staging another
file first asks the server to cancel the transfer staged before, and removing the file asks to
cancel it too.  Here transfers are followed across any sequence of calls, each against any
server.

* **A call that succeeded leaves nothing behind.**  A transfer it opened is, after any later
  calls, still the pending transfer or one a later call asked the server to cancel.
* **A failed upload does.**  When the server opens a transfer and then refuses a chunk, the
  upload fails, and nothing records the transfer or cancels it.
* **Removing forgets the staged transfer even when cancelling it fails.**  The stored path is
  then kept, but the transfer is forgotten, so the cancel cannot be tried again.

## Design

Each call runs on the network of its moment (`FileEditor.withNetwork`), so the server's answers
change from call to call.  A call is summed up by the requests it made and whether it succeeded
(`CallRecord`).  `FileEditor.KeepsStaged` says what one call does to staged transfers; each
operation keeps it, and the run lemma follows by induction over the calls.

## Main definitions

* `FileUploader.Opened`, `FileUploader.Reverts` — an exchange that
  opened a transfer, or asked to cancel one.
* `EditorCall`, `FileEditor.perform`, `FileEditor.runCalls`
  — calls to an editor, each on its own network.
* `FileEditor.KeepsStaged` — what one call does to staged transfers.

## Main results

* `FileEditor.opened_transfer_staged_or_reverted`.
* `FileEditor.failed_upload_leaves_transfer_open`.
* `FileEditor.remove_forgets_pending`.
-/

namespace CorpusBench

/-! ### Runs that end in a plain answer -/

namespace Sent

variable {α β : Type}

/-- A run followed by a plain answer makes the same requests. -/
theorem bind_pure (x : Sent α) (g : α → β) :
    (x >>= fun a => pure (g a)) = ⟨x.log, x.outcome.map g⟩ := by
  cases h : x.outcome with
  | ok a => rw [bind_of_ok h]; simp [Except.map]
  | error e => rw [bind_of_error h]; simp [Except.map]

/-- A run that starts with a request made it, whatever its answer. -/
theorem mem_log_exchange_bind (net : Network) (b : Building) (f : Response → Sent β) :
    ⟨b, net.fetch b⟩ ∈ (net.exchange b >>= f).log :=
  List.mem_of_mem_head? (head_log_exchange_bind net b f)

theorem tryCatch_eq (x : Sent α) (handle : ClientError → Sent α) :
    tryCatch x handle = match x.outcome with
      | .ok _ => x
      | .error e => ⟨x.log ++ (handle e).log, (handle e).outcome⟩ := rfl

end Sent

theorem Request.withQuery_eq_ok {pairs : List (String × String)} {b : Building} {r : Request}
    (h : withQuery pairs b = .ok r) :
    ∃ r₀, b = .ok r₀ ∧ r = { r₀ with url := r₀.url.appendPairs pairs } := by
  cases b with
  | error e => cases h
  | ok r₀ => exact ⟨r₀, rfl, (Except.ok.inj h).symm⟩

/-! ### What an exchange does to a transfer -/

namespace FileUploader

variable (u : FileUploader)

/-- The uploader on another network. -/
def withNetwork (net : Network) : FileUploader :=
  { u with client := { u.client with network := net } }

/-- An exchange opened transfer `T`: a request to open a transfer of some length, built and
answered with success and the id `T`. -/
def Opened (ex : Exchange) (T : String) : Prop :=
  ∃ (n : Nat) (r : Request) (resp : Response), u.openRequest n = .ok r ∧ ex.request = .ok r ∧
    ex.reply = .ok resp ∧ Text.trim resp.body = T ∧ T ≠ ""

/-- An exchange asked the server to cancel transfer `T`. -/
def Reverts (ex : Exchange) (T : String) : Prop := ex.request = u.revertRequest T

@[simp] theorem opened_withNetwork (net : Network) : (u.withNetwork net).Opened = u.Opened := rfl

@[simp] theorem reverts_withNetwork (net : Network) :
    (u.withNetwork net).Reverts = u.Reverts := rfl

@[simp] theorem network_withNetwork (net : Network) : (u.withNetwork net).client.network = net :=
  rfl

/-- Only a request built as a `POST` opens a transfer. -/
theorem not_opened_of_method {ex : Exchange} (h : ∀ r, ex.request = .ok r → r.method ≠ .post)
    (T : String) : ¬ u.Opened ex T := by
  rintro ⟨n, r, resp, hopen, hreq, -⟩
  exact h r hreq (u.openRequest_eq_ok hopen).1

theorem revertRequest_eq_ok {T : String} {r : Request} (h : u.revertRequest T = .ok r) :
    r.method = .delete := by
  obtain ⟨r₁, h₁, rfl⟩ := Request.withBody_eq_ok h
  obtain ⟨r₀, h₀, extra, rfl, -⟩ := u.protocolRequest_eq_ok h₁
  exact (Request.start_eq_ok h₀).1

theorem revert_eq (T : String) :
    u.revert T = ⟨[⟨u.revertRequest T, u.client.network.fetch (u.revertRequest T)⟩],
      (u.client.network.fetch (u.revertRequest T)).map fun _ => ()⟩ :=
  Sent.bind_pure _ _

/-- Asking to cancel a transfer opens none. -/
theorem not_opened_revert (net : Network) (T T' : String) :
    ¬ u.Opened ⟨u.revertRequest T, net.fetch (u.revertRequest T)⟩ T' :=
  u.not_opened_of_method (fun r hr => by simp [u.revertRequest_eq_ok hr]) T'

/-- Fetching a remote file opens no transfer: its one request is a `GET`. -/
theorem not_opened_fetchRemote (target : String) :
    ∀ ex ∈ (u.fetchRemote target).log, ∀ T, ¬ u.Opened ex T := by
  intro ex hex T
  simp only [fetchRemote, Sent.bind_pure, Network.exchange, List.mem_singleton] at hex
  subst hex
  refine u.not_opened_of_method (fun r hr => ?_) T
  obtain ⟨r₁, h₁, extra, rfl, -⟩ := Request.withBearer_eq_ok hr
  obtain ⟨r₀, h₀, rfl⟩ := Request.withQuery_eq_ok h₁
  simp [(Request.start_eq_ok h₀).1]

/-- A successful upload opened exactly the transfer of its receipt: the transfer named by the
answer to its `POST`; every other request it made was a chunk, a `PATCH`. -/
theorem opened_of_upload_ok {name : String} {data : List UInt8} {r : UploadReceipt}
    {p : List (Nat × Nat)} (h : (u.upload name data).outcome = .ok (r, p)) {ex : Exchange}
    (hex : ex ∈ (u.upload name data).log) {T : String} (hopen : u.Opened ex T) :
    r.transferId = T := by
  have hname : name ≠ "" := by
    rintro rfl
    rw [upload_empty_name] at h
    cases h
  have hok := (u.stopsAtFailure_upload name data).repliesOk h
  rw [u.upload_eq_of_ne data hname] at h hex hok
  obtain ⟨opened, -, hrun, hrest⟩ := Sent.exchange_bind_of_repliesOk hok
  rw [hrun] at h hex
  by_cases hblank : Text.trim opened.body = ""
  · simp [hblank] at h
  · simp only [hblank, if_false] at h hex hrest
    obtain ⟨rs, hlog, -, hreqs, hout⟩ := u.sendChunks_of_repliesOk name _ data.length _ 0 0 [] hrest
    rw [hout] at h
    have hr : r.transferId = Text.trim opened.body := by
      injection h with h
      injection h with h
      rw [← h]
    rcases List.mem_cons.1 hex with rfl | hmem
    · -- the `POST` that opened the transfer
      obtain ⟨n, r', resp, -, -, hreply, htrim, -⟩ := hopen
      cases hreply
      rw [hr, htrim]
    · -- a chunk
      exfalso
      have hreq : ex.request ∈ rs.map Except.ok := hlog ▸ List.mem_map_of_mem hmem
      obtain ⟨r', hr', hreq'⟩ := List.mem_map.1 hreq
      obtain ⟨k, hk, rfl⟩ := List.getElem_of_mem hr'
      refine u.not_opened_of_method (fun r'' h'' => ?_) T hopen
      rw [← hreq', Except.ok.injEq] at h''
      subst h''
      rw [(u.chunkRequest_eq_ok (hreqs k hk)).1]
      decide

end FileUploader

/-! ### One call to an editor -/

/-- A call to a file editor. -/
inductive EditorCall where
  | upload (name : String) (data : List UInt8)
  | uploadRemote (address : String)
  | remove

/-- What a call did: the requests it made, and whether it succeeded. -/
structure CallRecord where
  log : List Exchange
  ok : Bool

/-- The record of a run. -/
def CallRecord.of {α : Type} (x : Sent α) : CallRecord := ⟨x.log, x.outcome.isOk⟩

namespace FileEditor

/-- The editor with its uploader on another network. -/
def withNetwork (e : FileEditor) (net : Network) : FileEditor :=
  { e with uploader := e.uploader.withNetwork net }

/-- The id of the staged transfer. -/
def pendingId (e : FileEditor) : Option String := e.pending.map UploadReceipt.transferId

/-- Make a call on network `net`. -/
def perform (e : FileEditor) (net : Network) : EditorCall → CallRecord × FileEditor
  | .upload name data => ((e.withNetwork net).upload name data).map .of id
  | .uploadRemote address => ((e.withNetwork net).uploadRemote address).map .of id
  | .remove => (e.withNetwork net).remove.map .of id

/-- Make calls one after another, each on its own network: what each did, and the editor
after them. -/
def runCalls : FileEditor → List (Network × EditorCall) → List CallRecord × FileEditor
  | e, [] => ([], e)
  | e, (net, c) :: calls =>
    let step := e.perform net c
    let rest := step.2.runCalls calls
    (step.1 :: rest.1, rest.2)

@[simp] theorem runCalls_nil (e : FileEditor) : e.runCalls [] = ([], e) := rfl

@[simp] theorem runCalls_cons (e : FileEditor) (net : Network) (c : EditorCall)
    (calls : List (Network × EditorCall)) :
    e.runCalls ((net, c) :: calls) =
      ((e.perform net c).1 :: ((e.perform net c).2.runCalls calls).1,
        ((e.perform net c).2.runCalls calls).2) := rfl

@[simp] theorem uploader_withNetwork (e : FileEditor) (net : Network) :
    (e.withNetwork net).uploader = e.uploader.withNetwork net := rfl

@[simp] theorem pendingId_withNetwork (e : FileEditor) (net : Network) :
    (e.withNetwork net).pendingId = e.pendingId := rfl

/-- The exchange that asks to cancel the transfer of a receipt. -/
def revertExchange (e : FileEditor) (old : UploadReceipt) : Exchange :=
  ⟨e.uploader.revertRequest old.transferId,
    e.uploader.client.network.fetch (e.uploader.revertRequest old.transferId)⟩

/-- Discarding the staged transfer asks to cancel it, and always succeeds. -/
theorem discardPending_eq (e : FileEditor) :
    e.discardPending =
      (⟨(e.pending.map e.revertExchange).toList, .ok ()⟩, { e with pending := none }) := by
  cases hp : e.pending with
  | none =>
    cases e
    simp_all [discardPending]
  | some old =>
    simp only [discardPending, hp, Sent.tryCatch_eq, FileUploader.revert_eq]
    cases hf : e.uploader.client.network.fetch (e.uploader.revertRequest old.transferId) <;>
      simp [revertExchange, hf, Except.map]

/-- Staging some bytes: discard the staged transfer, then upload; the receipt of a successful
upload becomes the staged transfer. -/
theorem upload_of_ne_nil (e : FileEditor) (name : String) {data : List UInt8}
    (h : data.isEmpty = false) :
    e.upload name data =
      (⟨(e.pending.map e.revertExchange).toList ++ (e.uploader.upload name data).log,
        (e.uploader.upload name data).outcome.map Prod.fst⟩,
       match (e.uploader.upload name data).outcome with
       | .ok (r, _) => { e with pending := some r }
       | .error _ => { e with pending := none }) := by
  simp only [upload, h, discardPending_eq, Sent.mk_ok_bind, Sent.bind_pure]
  rfl

theorem upload_uploader (e : FileEditor) (name : String) (data : List UInt8) :
    (e.upload name data).2.uploader = e.uploader := by
  cases h : data.isEmpty
  · rw [upload_of_ne_nil e name h]
    split <;> rfl
  · simp [upload, h]

theorem uploadRemote_uploader (e : FileEditor) (address : String) :
    (e.uploadRemote address).2.uploader = e.uploader := by
  simp only [uploadRemote]
  split
  · exact upload_uploader _ _ _
  · rfl

theorem remove_uploader (e : FileEditor) : e.remove.2.uploader = e.uploader := by
  unfold remove
  split
  · dsimp only
    split <;> rfl
  · rfl

/-- A call keeps the editor's uploader, on the network of the call. -/
theorem uploader_perform (e : FileEditor) (net : Network) (c : EditorCall) :
    (e.perform net c).2.uploader = e.uploader.withNetwork net := by
  cases c with
  | upload name data => exact upload_uploader _ _ _
  | uploadRemote address => exact uploadRemote_uploader _ _
  | remove => exact remove_uploader _

/-! ### What a call does to staged transfers -/

variable (u : FileUploader)

/-- What one call did to staged transfers, taking editor `e` to `e'` by the requests `log`: the
transfer staged before is still staged or the call asked to cancel it, and when the call
succeeded every transfer it opened is staged. -/
structure KeepsStaged (e : FileEditor) (log : List Exchange) (ok : Bool) (e' : FileEditor) :
    Prop where
  kept : ∀ T, e.pendingId = some T → e'.pendingId = some T ∨ ∃ ex ∈ log, u.Reverts ex T
  staged : ok = true → ∀ ex ∈ log, ∀ T, u.Opened ex T → e'.pendingId = some T

/-- Requests that open nothing may come first. -/
theorem KeepsStaged.append_left {e e' : FileEditor} {log : List Exchange} {ok : Bool}
    (h : KeepsStaged u e log ok e') {pre : List Exchange} (hpre : ∀ ex ∈ pre, ∀ T, ¬ u.Opened ex T) :
    KeepsStaged u e (pre ++ log) ok e' where
  kept T hT := (h.kept T hT).imp id fun ⟨ex, hex, hrev⟩ => ⟨ex, List.mem_append_right _ hex, hrev⟩
  staged hok ex hex T hopen := by
    rcases List.mem_append.1 hex with hpre' | hlog
    · exact absurd hopen (hpre ex hpre' T)
    · exact h.staged hok ex hlog T hopen

/-- A call on another network does the same to the transfers: opening and cancelling a transfer
do not depend on the network. -/
theorem KeepsStaged.of_withNetwork {net : Network} {e₀ e e' : FileEditor} {log : List Exchange}
    {ok : Bool} (h : KeepsStaged (u.withNetwork net) e₀ log ok e')
    (hp : e₀.pendingId = e.pendingId) : KeepsStaged u e log ok e' where
  kept T hT := h.kept T (hp ▸ hT)
  staged := h.staged

/-- A call that changes nothing and opens nothing. -/
theorem keepsStaged_of_unchanged (e : FileEditor) {log : List Exchange} {ok : Bool}
    (hlog : ∀ ex ∈ log, ∀ T, ¬ u.Opened ex T) : KeepsStaged u e log ok e where
  kept _ hT := .inl hT
  staged _ ex hex T hopen := absurd hopen (hlog ex hex T)

theorem keepsStaged_upload (e : FileEditor) (name : String) (data : List UInt8) :
    KeepsStaged e.uploader e (e.upload name data).1.log (e.upload name data).1.outcome.isOk
      (e.upload name data).2 := by
  cases hdata : data.isEmpty
  · rw [upload_of_ne_nil e name hdata]
    constructor
    · -- the transfer staged before is the one discarding asked to cancel
      intro T hT
      obtain ⟨old, hold, rfl⟩ := Option.map_eq_some_iff.1 hT
      exact .inr ⟨e.revertExchange old, by simp [hold], rfl⟩
    · intro hok ex hex T hopen
      cases hup : (e.uploader.upload name data).outcome with
      | error err => simp [hup, Except.map, Except.isOk, Except.toBool] at hok
      | ok a =>
        obtain ⟨r, p⟩ := a
        rcases List.mem_append.1 hex with hdiscard | hstage
        · obtain ⟨old, -, rfl⟩ : ∃ old, e.pending = some old ∧ e.revertExchange old = ex := by
            simpa using hdiscard
          exact absurd hopen (e.uploader.not_opened_revert _ _ _)
        · simp [pendingId, e.uploader.opened_of_upload_ok hup hstage hopen]
  · simp only [upload, hdata, if_true]
    exact keepsStaged_of_unchanged _ e (by simp)

theorem keepsStaged_uploadRemote (e : FileEditor) (address : String) :
    KeepsStaged e.uploader e (e.uploadRemote address).1.log (e.uploadRemote address).1.outcome.isOk
      (e.uploadRemote address).2 := by
  have hfetch := e.uploader.not_opened_fetchRemote address
  simp only [uploadRemote]
  cases hf : (e.uploader.fetchRemote address).outcome with
  | error err =>
    rw [Sent.bind_of_error hf]
    exact keepsStaged_of_unchanged _ e hfetch
  | ok body =>
    rw [Sent.bind_of_ok hf]
    exact (keepsStaged_upload e _ _).append_left _ hfetch

theorem keepsStaged_remove (e : FileEditor) :
    KeepsStaged e.uploader e e.remove.1.log e.remove.1.outcome.isOk e.remove.2 := by
  cases hp : e.pending with
  | none =>
    simp only [remove, hp]
    constructor
    · intro T hT
      simp [pendingId, hp] at hT
    · simp
  | some r =>
    simp only [remove, hp, FileUploader.revert_eq]
    constructor
    · -- removing asks to cancel the staged transfer
      intro T hT
      simp only [pendingId, hp, Option.map_some, Option.some.injEq] at hT
      exact .inr ⟨_, List.mem_singleton_self _, by rw [← hT]; rfl⟩
    · intro _ ex hex T hopen
      rw [List.mem_singleton] at hex
      subst hex
      exact absurd hopen (e.uploader.not_opened_revert _ _ _)

/-- Every call keeps `KeepsStaged`, whatever the network. -/
theorem keepsStaged_perform (e : FileEditor) (net : Network) (c : EditorCall) :
    KeepsStaged e.uploader e (e.perform net c).1.log (e.perform net c).1.ok (e.perform net c).2 := by
  have key : ∀ {log ok e'}, KeepsStaged (e.withNetwork net).uploader (e.withNetwork net) log ok e' →
      KeepsStaged e.uploader e log ok e' := fun h => h.of_withNetwork _ (pendingId_withNetwork e net)
  cases c with
  | upload name data => exact key (keepsStaged_upload _ _ _)
  | uploadRemote address => exact key (keepsStaged_uploadRemote _ _)
  | remove => exact key (keepsStaged_remove _)

/-! ### Runs of calls -/

/-- A staged transfer stays staged through any run of calls, unless a call of the run asks to
cancel it. -/
theorem staged_or_reverted_runCalls (e : FileEditor) (calls : List (Network × EditorCall))
    (T : String) (hT : e.pendingId = some T) :
    (e.runCalls calls).2.pendingId = some T ∨
      ∃ rec ∈ (e.runCalls calls).1, ∃ ex ∈ rec.log, e.uploader.Reverts ex T := by
  induction calls generalizing e with
  | nil => exact .inl hT
  | cons call calls ih =>
    obtain ⟨net, c⟩ := call
    have hstep := e.keepsStaged_perform net c
    have hu := e.uploader_perform net c
    rw [runCalls_cons]
    rcases hstep.kept T hT with hT' | ⟨ex, hex, hrev⟩
    · -- still staged after the call: the rest of the run starts from it
      rcases ih _ hT' with h | ⟨rec, hrec, ex, hex, hrev⟩
      · exact .inl h
      · rw [hu, FileUploader.reverts_withNetwork] at hrev
        exact .inr ⟨rec, List.mem_cons_of_mem _ hrec, ex, hex, hrev⟩
    · exact .inr ⟨_, List.mem_cons_self, ex, hex, hrev⟩

/-- No transfer opened by a call that succeeded is left behind: after any later calls, each on
any network, it is the editor's staged transfer, or a later call asked the server to cancel
it. -/
theorem opened_transfer_staged_or_reverted (e : FileEditor) (net : Network) (c : EditorCall)
    (later : List (Network × EditorCall)) (hok : (e.perform net c).1.ok = true) (ex : Exchange)
    (hex : ex ∈ (e.perform net c).1.log) (T : String) (hopen : e.uploader.Opened ex T) :
    ((e.perform net c).2.runCalls later).2.pendingId = some T ∨
      ∃ rec ∈ ((e.perform net c).2.runCalls later).1, ∃ ex' ∈ rec.log, e.uploader.Reverts ex' T := by
  have hstaged := (e.keepsStaged_perform net c).staged hok ex hex T hopen
  rcases staged_or_reverted_runCalls _ later T hstaged with h | ⟨rec, hrec, ex', hex', hrev⟩
  · exact .inl h
  · rw [uploader_perform, FileUploader.reverts_withNetwork] at hrev
    exact .inr ⟨rec, hrec, ex', hex', hrev⟩

/-- An editor with nothing stored, on the loopback server of `FileUploader.loopback`. -/
def loopbackEditor (id : String) : FileEditor := FileEditor.new (FileUploader.loopback id 4) none

/-- Staging the three bytes `1 2 3` as `a.txt`. -/
def stageABC : EditorCall := .upload "a.txt" [1, 2, 3]

/-- The exchange that opens a transfer of three bytes on network `net`. -/
def openThree (net : Network) : Exchange :=
  ⟨(FileUploader.loopback "t1" 4).openRequest 3,
    net.fetch ((FileUploader.loopback "t1" 4).openRequest 3)⟩

/-- Staging three bytes makes the request that opens a transfer of three bytes. -/
theorem openThree_mem_stageABC (net : Network) :
    openThree net ∈ ((loopbackEditor "t1").perform net stageABC).1.log := by
  simp only [perform, stageABC, Prod.map, CallRecord.of]
  rw [upload_of_ne_nil _ _ rfl, FileUploader.upload_eq_of_ne _ _ (by decide)]
  exact List.mem_append_right _ (Sent.mem_log_exchange_bind _ _ _)

/-- On a network that answers it with the id `t1`, that request opens transfer `t1`. -/
theorem openThree_opened (net : Network)
    (h : (net.fetch ((FileUploader.loopback "t1" 4).openRequest 3)).toOption.map Response.body =
      some "t1") :
    (loopbackEditor "t1").uploader.Opened (openThree net) "t1" := by
  obtain ⟨r, hr, -⟩ := exists_eq_ok_of_toOption_map (f := fun _ => ())
    (x := (FileUploader.loopback "t1" 4).openRequest 3) (b := ()) (by decide +kernel)
  obtain ⟨resp, hfetch, hbody⟩ := exists_eq_ok_of_toOption_map h
  exact ⟨3, r, resp, hr, hr, hfetch, by rw [hbody]; decide, by decide⟩

theorem loopback_upload_stays_staged :
    ((loopbackEditor "t1").perform (FileUploader.loopback "t1" 4).client.network stageABC).1.ok =
        true ∧
      openThree (FileUploader.loopback "t1" 4).client.network ∈
        ((loopbackEditor "t1").perform (FileUploader.loopback "t1" 4).client.network stageABC).1.log ∧
      (loopbackEditor "t1").uploader.Opened (openThree (FileUploader.loopback "t1" 4).client.network)
        "t1" ∧
      ((((loopbackEditor "t1").perform (FileUploader.loopback "t1" 4).client.network
          stageABC).2.runCalls []).2.pendingId = some "t1" ∨
        ∃ rec ∈ (((loopbackEditor "t1").perform (FileUploader.loopback "t1" 4).client.network
          stageABC).2.runCalls []).1, ∃ ex' ∈ rec.log, (loopbackEditor "t1").uploader.Reverts ex' "t1") := by
  have hok : ((loopbackEditor "t1").perform (FileUploader.loopback "t1" 4).client.network
      stageABC).1.ok = true := by decide +kernel
  have hopen := openThree_opened (FileUploader.loopback "t1" 4).client.network (by decide +kernel)
  have hmem := openThree_mem_stageABC (FileUploader.loopback "t1" 4).client.network
  exact ⟨hok, hmem, hopen, opened_transfer_staged_or_reverted (loopbackEditor "t1")
    (FileUploader.loopback "t1" 4).client.network stageABC [] hok _ hmem "t1" hopen⟩

/-- A server that opens every transfer as `t1` and refuses every other request. -/
def refusingChunks : Network :=
  ⟨fun r => some (if r.method = .post then ⟨200, "t1"⟩ else ⟨500, "busy"⟩)⟩

/-- A failed upload leaves its transfer behind: the server opened `t1` and refused the chunk, the
call failed, no transfer is staged and nothing asked to cancel `t1`. -/
theorem failed_upload_leaves_transfer_open :
    ((loopbackEditor "t1").perform refusingChunks stageABC).1.ok = false ∧
      openThree refusingChunks ∈ ((loopbackEditor "t1").perform refusingChunks stageABC).1.log ∧
      (loopbackEditor "t1").uploader.Opened (openThree refusingChunks) "t1" ∧
      ((loopbackEditor "t1").perform refusingChunks stageABC).2.pendingId = none ∧
      ∀ ex ∈ ((loopbackEditor "t1").perform refusingChunks stageABC).1.log,
        ¬ (loopbackEditor "t1").uploader.Reverts ex "t1" := by
  refine ⟨by decide +kernel, openThree_mem_stageABC _, openThree_opened _ (by decide +kernel),
    by decide +kernel, fun ex hex hrev => ?_⟩
  -- every request of the call was built and none of them is a `DELETE`
  have hall : (((loopbackEditor "t1").perform refusingChunks stageABC).1.log.all fun ex =>
      ex.request.toOption.map Request.method != some .delete) = true := by decide +kernel
  obtain ⟨r, hr, -⟩ := exists_eq_ok_of_toOption_map (f := fun _ => ())
    (x := (loopbackEditor "t1").uploader.revertRequest "t1") (b := ()) (by decide +kernel)
  have hdelete := (loopbackEditor "t1").uploader.revertRequest_eq_ok hr
  have hex' := List.all_eq_true.1 hall ex hex
  rw [hrev, hr] at hex'
  simp [hdelete, Except.toOption] at hex'

/-- Removing always forgets the staged transfer.  When it succeeds it asked to cancel the staged
transfer, if any, and forgets the stored path too; when it fails, the failure is the refused
cancel of the staged transfer, and the stored path is kept while the transfer is forgotten. -/
theorem remove_forgets_pending (e : FileEditor) :
    e.remove.2.pending = none ∧ e.remove.2.uploader = e.uploader ∧
      (∀ err, e.remove.1.outcome = .error err →
        ∃ r, e.pending = some r ∧
          e.remove.1.log = [⟨e.uploader.revertRequest r.transferId, .error err⟩] ∧
          e.remove.2.stored = e.stored) ∧
      (e.remove.1.outcome = .ok () →
        e.remove.2.stored = none ∧
        ∀ r, e.pending = some r →
          ∃ resp, e.remove.1.log = [⟨e.uploader.revertRequest r.transferId, .ok resp⟩]) := by
  refine ⟨?_, e.remove_uploader, ?_⟩
  · unfold remove
    split
    · dsimp only
      split <;> rfl
    · next hp => exact hp
  · cases hp : e.pending with
    | none => simp [remove, hp]
    | some r =>
      simp only [remove, hp, FileUploader.revert_eq]
      cases e.uploader.client.network.fetch (e.uploader.revertRequest r.transferId) <;>
        simp [Except.map]

/-- An editor holding a path that staged `t1`, removing on a server that refuses the cancel: the
removal fails, the transfer is forgotten and the path stays. -/
example :
    let e := ({ ((loopbackEditor "t1").perform (FileUploader.loopback "t1" 4).client.network
      stageABC).2 with stored := some "x/y.txt" } : FileEditor).withNetwork refusingChunks
    e.remove.1.outcome.toBool = false ∧ e.remove.2.pendingId = none ∧
      e.remove.2.stored = some "x/y.txt" := by decide +kernel

end FileEditor

end CorpusBench
