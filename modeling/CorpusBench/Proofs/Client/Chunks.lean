import CorpusBench.Client.Upload

/-!
# What a chunked upload sends

An upload opens a transfer with `POST /fp/process/` carrying the length of the data, then sends
the data in chunks with `PATCH /fp/patch/<id>`, each chunk with its offset and the total length,
and answers a receipt and the progress reported after each chunk.  This file shows what goes
over the network, for every data, name and chunk size and against every server.

* **A failure ends the upload.**  The requests of a run are made one after another, and a run
  built from single requests by `bind` stops at its first failure: a request whose reply failed
  is the last one made, and its failure is the outcome (`Sent.StopsAtFailure`).
* **When every request succeeds** the upload opened the transfer with the length of the data.
  If the server named the transfer by a blank id, nothing more was sent and the upload failed;
  otherwise it sent one request per chunk, `⌈|data| / c⌉` of them, whose bodies are non-empty,
  at most `c` bytes long and concatenate to the data, each at the offset of the bytes before it;
  the receipt counts every byte and every chunk, and the progress rises strictly, chunk by
  chunk, to the length of the data (`ChunksSent`).

## Main definitions

* `Request.header?`, `Request.bytes` — what a request carries.
* `Sent.StopsAtFailure` — runs that stop at their first failure.
* `FileUploader.ChunksSent` — the chunk requests and outcome of an upload.

## Main results

* `FileUploader.upload_sends_chunks` — the whole protocol.
-/

namespace CorpusBench

/-! ### What a request carries -/

namespace Request

/-- The value of the first header of a name. -/
def header? (r : Request) (name : String) : Option String := r.headers.lookup name

/-- The bytes a request carries; none for any other body. -/
def bytes (r : Request) : List UInt8 :=
  match r.body with
  | .bytes b => b
  | _ => []

variable {b : Building} {r : Request}

theorem withBody_eq_ok {body : Body} (h : withBody body b = .ok r) :
    ∃ r₀, b = .ok r₀ ∧ r = { r₀ with body := body } := by
  cases b with
  | error e => cases h
  | ok r₀ => exact ⟨r₀, rfl, (Except.ok.inj h).symm⟩

theorem withHeader_eq_ok {name value : String} (h : withHeader name value b = .ok r) :
    ∃ r₀, b = .ok r₀ ∧ r = { r₀ with headers := r₀.headers ++ [(name, value)] } := by
  cases b with
  | error e => cases h
  | ok r₀ =>
    refine ⟨r₀, rfl, ?_⟩
    by_cases hv : validHeaderValue value = true
    · simp only [withHeader, bind, Except.bind, hv, if_true, pure, Except.pure] at h
      exact (Except.ok.inj h).symm
    · simp [withHeader, bind, Except.bind, hv, throw, throwThe, MonadExceptOf.throw] at h

theorem withBearer_eq_ok {token : Option String} (h : withBearer token b = .ok r) :
    ∃ r₀, b = .ok r₀ ∧ ∃ extra : List (String × String),
      r = { r₀ with headers := r₀.headers ++ extra } ∧ ∀ p ∈ extra, p.1 = "authorization" := by
  cases token with
  | none => exact ⟨r, h, [], by simp, by simp⟩
  | some t =>
    obtain ⟨r₀, hb, rfl⟩ := withHeader_eq_ok h
    exact ⟨r₀, hb, _, rfl, by simp⟩

/-- Adding headers one after another appends them in order. -/
theorem foldl_eq_ok_of_step {f : Building → String × String → Building}
    (hf : ∀ b p r, f b p = .ok r → ∃ r₀, b = .ok r₀ ∧ r = { r₀ with headers := r₀.headers ++ [p] }) :
    ∀ (hs : List (String × String)) (b : Building) (r : Request), hs.foldl f b = .ok r →
      ∃ r₀, b = .ok r₀ ∧ r = { r₀ with headers := r₀.headers ++ hs } := by
  intro hs
  induction hs with
  | nil => intro b r h; exact ⟨r, h, by simp⟩
  | cons p hs ih =>
    intro b r h
    obtain ⟨r₁, h₁, rfl⟩ := ih (f b p) r h
    obtain ⟨r₀, h₀, rfl⟩ := hf b p r₁ h₁
    exact ⟨r₀, h₀, by simp⟩

/-- A request just started has its method, no body, and at most the authorization header of the
credentials of its address. -/
theorem start_eq_ok {method : Method} {address : String} (h : start method address = .ok r) :
    r.method = method ∧ r.body = .empty ∧ ∀ p ∈ r.headers, p.1 = "authorization" := by
  unfold start at h
  split at h
  · cases h
  · split at h
    · cases h
    · generalize takeCredentials _ = taken at h
      obtain ⟨u, basic⟩ := taken
      cases basic <;> (cases h; simp)

end Request

/-- A header list whose names all differ from `name` has no header `name`. -/
theorem lookup_eq_none_of_ne {hs : List (String × String)} {name : String}
    (h : ∀ p ∈ hs, p.1 ≠ name) : hs.lookup name = none := by
  induction hs with
  | nil => rfl
  | cons p hs ih =>
    obtain ⟨k, v⟩ := p
    have hk : (name == k) = false := beq_false_of_ne (h (k, v) List.mem_cons_self).symm
    rw [List.lookup_cons, hk]
    exact ih fun q hq => h q (List.mem_cons_of_mem _ hq)

/-- A request that reaches a server was built. -/
theorem Network.exists_eq_ok_of_fetch {net : Network} {b : Building} {resp : Response}
    (h : net.fetch b = .ok resp) : ∃ r, b = .ok r := by
  cases b with
  | error e => cases h
  | ok r => exact ⟨r, rfl⟩

/-- A result read off through `f`: evaluating `x.toOption.map f` is how a concrete run is
computed, since requests and responses have no decidable equality. -/
theorem exists_eq_ok_of_toOption_map {ε α β : Type} {x : Except ε α} {f : α → β} {b : β}
    (h : x.toOption.map f = some b) : ∃ a, x = .ok a ∧ f a = b := by
  cases x <;> simp_all [Except.toOption]

/-! ### Runs that stop at their first failure -/

namespace Sent

variable {α β : Type}

/-- A run stops at its first failure: a request whose reply failed is the last one it made, and
that failure is its outcome. -/
def StopsAtFailure (x : Sent α) : Prop :=
  ∀ (i : Nat) (hi : i < x.log.length) (e : ClientError), x.log[i].reply = .error e →
    i + 1 = x.log.length ∧ x.outcome = .error e

theorem stopsAtFailure_mk_nil (o : Except ClientError α) : (⟨[], o⟩ : Sent α).StopsAtFailure :=
  fun i hi => absurd hi (Nat.not_lt_zero i)

theorem stopsAtFailure_exchange (net : Network) (b : Building) :
    (net.exchange b).StopsAtFailure := by
  intro i hi e he
  have hi0 : i = 0 := by simpa [Network.exchange] using hi
  subst hi0
  exact ⟨rfl, he⟩

/-- Running `f` after `x` stops at the first failure when both do: a failure of `x` ends the
run, and the failures of `f` come after every request of `x`. -/
theorem StopsAtFailure.bind {x : Sent α} {f : α → Sent β} (hx : x.StopsAtFailure)
    (hf : ∀ a, (f a).StopsAtFailure) : (x >>= f).StopsAtFailure := by
  cases hout : x.outcome with
  | error e =>
    rw [bind_of_error hout]
    intro i hi e' he'
    obtain ⟨hlast, hx'⟩ := hx i hi e' he'
    obtain rfl : e = e' := Except.error.inj (hout.symm.trans hx')
    exact ⟨hlast, rfl⟩
  | ok a =>
    rw [bind_of_ok hout]
    intro i hi e he
    by_cases hlt : i < x.log.length
    · -- a failed request of `x` would have ended `x` with a failure
      have hgx : x.log[i].reply = .error e := by
        simpa [List.getElem_append_left hlt] using he
      have := (hx i hlt e hgx).2
      rw [hout] at this
      cases this
    · have hle : x.log.length ≤ i := Nat.le_of_not_lt hlt
      have hj : i - x.log.length < (f a).log.length := by
        simp only [List.length_append] at hi
        omega
      have hgf : (f a).log[i - x.log.length].reply = .error e := by
        simpa [List.getElem_append_right hle] using he
      obtain ⟨hlast, hfo⟩ := hf a _ hj e hgf
      refine ⟨?_, hfo⟩
      simp only [List.length_append]
      omega

/-- Every request of a run was answered with a success. -/
def RepliesOk (x : Sent α) : Prop :=
  ∀ ex ∈ x.log, ∃ resp, ex.reply = .ok resp

/-- Every reply of a run succeeded, read off a computed check. -/
theorem repliesOk_of_all_isOk {x : Sent α} (h : (x.log.all fun ex => ex.reply.isOk) = true) :
    x.RepliesOk := by
  intro ex hex
  have hex' := List.all_eq_true.1 h ex hex
  cases hr : ex.reply with
  | ok resp => exact ⟨resp, rfl⟩
  | error e => simp [hr, Except.isOk, Except.toBool] at hex'

/-- A run that stops at its first failure and succeeded had every request answered. -/
theorem StopsAtFailure.repliesOk {x : Sent α} {a : α} (hx : x.StopsAtFailure)
    (h : x.outcome = .ok a) : x.RepliesOk := by
  intro ex hex
  obtain ⟨i, hi, rfl⟩ := List.getElem_of_mem hex
  cases hr : x.log[i].reply with
  | ok resp => exact ⟨resp, rfl⟩
  | error e =>
    have := (hx i hi e hr).2
    rw [h] at this
    cases this

/-- A run that starts with a request made it first, whatever its answer. -/
theorem head_log_exchange_bind (net : Network) (b : Building) (f : Response → Sent β) :
    (net.exchange b >>= f).log.head? = some ⟨b, net.fetch b⟩ := by
  cases h : net.fetch b with
  | ok resp => simp [Network.exchange, h]
  | error e => simp [Network.exchange, h]

/-- A run that starts with one request and in which every reply succeeded: the first request
was answered, and the rest of the run is what follows its answer. -/
theorem exchange_bind_of_repliesOk {net : Network} {b : Building} {f : Response → Sent β}
    (h : (net.exchange b >>= f).RepliesOk) :
    ∃ resp, net.fetch b = .ok resp ∧
      net.exchange b >>= f = ⟨⟨b, .ok resp⟩ :: (f resp).log, (f resp).outcome⟩ ∧
      (f resp).RepliesOk := by
  cases hfetch : net.fetch b with
  | error e =>
    have hx : net.exchange b >>= f = ⟨[⟨b, .error e⟩], .error e⟩ := by
      simp [Network.exchange, hfetch]
    rw [hx] at h
    obtain ⟨resp, hr⟩ := h _ List.mem_cons_self
    cases hr
  | ok resp =>
    have hx : net.exchange b >>= f = ⟨⟨b, .ok resp⟩ :: (f resp).log, (f resp).outcome⟩ := by
      simp [Network.exchange, hfetch]
    rw [hx] at h
    exact ⟨resp, rfl, hx, fun ex hex => h ex (List.mem_cons_of_mem _ hex)⟩

end Sent

/-! ### Cutting data into chunks -/

section Pieces

variable {α : Type}

/-- There are `⌈|xs| / (k + 1)⌉` pieces. -/
theorem length_pieces (k : Nat) (xs : List α) : (pieces k xs).length = (xs.length + k) / (k + 1) := by
  induction xs using pieces.induct k with
  | case1 => simp [pieces, Nat.div_eq_of_lt (Nat.lt_succ_self k)]
  | case2 xs h ih =>
    have hpos : 0 < xs.length := List.length_pos_iff.2 h
    rw [pieces, dif_neg h, List.length_cons, ih, List.length_drop]
    by_cases hle : k + 1 ≤ xs.length
    · have hsplit : xs.length + k = (xs.length - (k + 1) + k) + (k + 1) := by omega
      rw [hsplit, Nat.add_div_right _ (Nat.succ_pos k)]
    · have hzero : xs.length - (k + 1) = 0 := by omega
      rw [hzero, Nat.zero_add, Nat.div_eq_of_lt (Nat.lt_succ_self k)]
      exact (Nat.div_eq_of_lt_le (by omega) (by omega)).symm

/-- Every piece is non-empty and at most `k + 1` long. -/
theorem mem_pieces {k : Nat} {xs p : List α} (h : p ∈ pieces k xs) : p ≠ [] ∧ p.length ≤ k + 1 := by
  induction xs using pieces.induct k with
  | case1 => simp [pieces] at h
  | case2 xs hxs ih =>
    rw [pieces, dif_neg hxs, List.mem_cons] at h
    rcases h with rfl | h
    · refine ⟨?_, List.length_take_le _ _⟩
      obtain ⟨x, xs', rfl⟩ := List.exists_cons_of_ne_nil hxs
      simp
    · exact ih h

end Pieces

/-! ### The requests of the protocol -/

namespace FileUploader

variable (u : FileUploader)

/-- A built protocol request is the started request with the protocol's headers, then the bearer
token. -/
theorem protocolRequest_eq_ok {method : Method} {path : String} {hs : List (String × String)}
    {r : Request} (h : u.protocolRequest method path hs = .ok r) :
    ∃ r₀, Request.start method (u.client.address path) = .ok r₀ ∧
      ∃ extra : List (String × String), r = { r₀ with headers := r₀.headers ++ hs ++ extra } ∧
        ∀ p ∈ extra, p.1 = "authorization" := by
  obtain ⟨r₁, h₁, extra, rfl, hextra⟩ := Request.withBearer_eq_ok h
  obtain ⟨r₀, h₀, rfl⟩ := Request.foldl_eq_ok_of_step
    (fun b p r hp => by
      obtain ⟨n, v⟩ := p
      exact Request.withHeader_eq_ok hp) hs _ r₁ h₁
  exact ⟨r₀, h₀, extra, rfl, hextra⟩

/-- A header of the protocol's list is found in the built request: the started request carries
only the authorization header, and the bearer token comes after the protocol's headers. -/
theorem header?_protocolRequest {method : Method} {path : String} {hs : List (String × String)}
    {r : Request} (h : u.protocolRequest method path hs = .ok r) (name : String)
    (hname : name ≠ "authorization") {v : String} (hv : hs.lookup name = some v) :
    r.header? name = some v := by
  obtain ⟨r₀, h₀, extra, rfl, -⟩ := u.protocolRequest_eq_ok h
  obtain ⟨-, -, hauth⟩ := Request.start_eq_ok h₀
  have hnone : r₀.headers.lookup name = none :=
    lookup_eq_none_of_ne fun p hp => by rw [hauth p hp]; exact Ne.symm hname
  simp [Request.header?, List.lookup_append, hnone, hv]

/-- The request opening a transfer posts the length of the data. -/
theorem openRequest_eq_ok {total : Nat} {r : Request} (h : u.openRequest total = .ok r) :
    r.method = .post ∧ r.header? "upload-length" = some (toString total) := by
  have hlen : r.header? "upload-length" = some (toString total) :=
    u.header?_protocolRequest h _ (by decide) (by simp)
  obtain ⟨r₀, h₀, extra, rfl, -⟩ := u.protocolRequest_eq_ok h
  exact ⟨(Request.start_eq_ok h₀).1, hlen⟩

/-- A chunk request patches the chunk, with its offset and the total length. -/
theorem chunkRequest_eq_ok {name T : String} {total offset : Nat} {chunk : List UInt8} {r : Request}
    (h : u.chunkRequest name T total offset chunk = .ok r) :
    r.method = .patch ∧ r.bytes = chunk ∧
      r.header? "upload-offset" = some (toString offset) ∧
      r.header? "upload-length" = some (toString total) := by
  obtain ⟨r₁, h₁, rfl⟩ := Request.withBody_eq_ok h
  have hoff : r₁.header? "upload-offset" = some (toString offset) :=
    u.header?_protocolRequest h₁ _ (by decide) (by simp [List.lookup_cons])
  have hlen : r₁.header? "upload-length" = some (toString total) :=
    u.header?_protocolRequest h₁ _ (by decide) (by simp [List.lookup_cons])
  obtain ⟨r₀, h₀, extra, rfl, -⟩ := u.protocolRequest_eq_ok h₁
  exact ⟨(Request.start_eq_ok h₀).1, rfl, hoff, hlen⟩

/-! ### Sending the chunks -/

/-- The offset of the `k`-th of a list of chunks: the number of bytes before it. -/
def offsetOf (cs : List (List UInt8)) (k : Nat) : Nat := (cs.take k).flatten.length

/-- The progress reported after each chunk: the bytes sent so far, out of the total. -/
def progressOf (cs : List (List UInt8)) (total : Nat) : List (Nat × Nat) :=
  (List.range cs.length).map fun k => (offsetOf cs (k + 1), total)

section Offsets

variable {cs : List (List UInt8)}

@[simp] theorem offsetOf_zero (cs : List (List UInt8)) : offsetOf cs 0 = 0 := by
  simp [offsetOf]

@[simp] theorem offsetOf_cons_succ (ch : List UInt8) (cs : List (List UInt8)) (k : Nat) :
    offsetOf (ch :: cs) (k + 1) = ch.length + offsetOf cs k := by
  simp [offsetOf]

theorem offsetOf_length (cs : List (List UInt8)) : offsetOf cs cs.length = cs.flatten.length := by
  simp [offsetOf]

/-- Offsets rise strictly when no chunk is empty. -/
theorem offsetOf_lt_offsetOf (hne : ∀ ch ∈ cs, ch ≠ []) :
    ∀ {i j : Nat}, i < j → j ≤ cs.length → offsetOf cs i < offsetOf cs j := by
  induction cs with
  | nil => intro i j hij hj; simp at hj; omega
  | cons ch cs ih =>
    intro i j hij hj
    obtain ⟨j, rfl⟩ : ∃ j', j = j' + 1 := ⟨j - 1, by omega⟩
    have hch : 0 < ch.length := List.length_pos_iff.2 (hne ch List.mem_cons_self)
    cases i with
    | zero => simp; omega
    | succ i =>
      have hlt := ih (fun c hc => hne c (List.mem_cons_of_mem _ hc)) (i := i) (j := j)
        (by omega) (by simp at hj; omega)
      rw [offsetOf_cons_succ, offsetOf_cons_succ]
      omega

/-- With no empty chunk the bytes sent rise strictly from one report to the next. -/
theorem progressOf_strictly_rising (total : Nat) (hne : ∀ ch ∈ cs, ch ≠ []) :
    ((progressOf cs total).map Prod.fst).Pairwise (· < ·) := by
  simp only [progressOf, List.map_map, List.pairwise_map, Function.comp_apply]
  refine List.pairwise_lt_range.imp_of_mem fun _ hb hab => ?_
  exact offsetOf_lt_offsetOf hne (by omega) (List.mem_range.1 hb)

/-- The last report counts every byte (and there is none when there is no chunk). -/
theorem progressOf_last (total : Nat) :
    ((progressOf cs total).map Prod.fst).getLast?.getD 0 = cs.flatten.length := by
  simp only [progressOf, List.map_map, List.getLast?_map, List.getLast?_range]
  split
  · next h => simp [List.length_eq_zero_iff.1 h]
  · next h => simp [Nat.sub_add_cancel (Nat.pos_of_ne_zero h), offsetOf_length]

end Offsets

section Sending

variable (u : FileUploader) (name T : String) (total : Nat)

theorem sendChunks_cons (ch : List UInt8) (cs : List (List UInt8)) (off cnt : Nat)
    (prog : List (Nat × Nat)) :
    u.sendChunks name T total (ch :: cs) off cnt prog =
      (u.client.network.exchange (u.chunkRequest name T total off ch) >>= fun _ =>
        u.sendChunks name T total cs (off + ch.length) (cnt + 1) (prog ++ [(off + ch.length, total)])) := by
  rw [sendChunks]

/-- Sending chunks stops at the first chunk the server refuses. -/
theorem stopsAtFailure_sendChunks :
    ∀ (cs : List (List UInt8)) (off cnt : Nat) (prog : List (Nat × Nat)),
      (u.sendChunks name T total cs off cnt prog).StopsAtFailure
  | [], _, _, _ => by
    simp only [sendChunks, Sent.pure_eq]
    exact Sent.stopsAtFailure_mk_nil _
  | ch :: cs, off, cnt, prog => by
    rw [sendChunks_cons]
    exact (Sent.stopsAtFailure_exchange _ _).bind fun _ => stopsAtFailure_sendChunks cs _ _ _

/-- When every chunk is accepted, one request went out per chunk, in order, each carrying its
chunk at the offset reached so far; the receipt and the progress count them. -/
theorem sendChunks_of_repliesOk :
    ∀ (cs : List (List UInt8)) (off cnt : Nat) (prog : List (Nat × Nat)),
      (u.sendChunks name T total cs off cnt prog).RepliesOk →
      ∃ rs : List Request,
        (u.sendChunks name T total cs off cnt prog).log.map Exchange.request = rs.map .ok ∧
        rs.map Request.bytes = cs ∧
        (∀ (k : Nat) (hk : k < rs.length),
          u.chunkRequest name T total (off + offsetOf cs k) rs[k].bytes = .ok rs[k]) ∧
        (u.sendChunks name T total cs off cnt prog).outcome =
          .ok (⟨T, off + cs.flatten.length, cnt + cs.length⟩,
            prog ++ (List.range cs.length).map fun k => (off + offsetOf cs (k + 1), total))
  | [], off, cnt, prog, _ => ⟨[], by simp [sendChunks], rfl, by simp, by simp [sendChunks]⟩
  | ch :: cs, off, cnt, prog, h => by
    rw [sendChunks_cons] at h ⊢
    obtain ⟨resp, hfetch, hrun, hrest⟩ := Sent.exchange_bind_of_repliesOk h
    obtain ⟨r, hr⟩ := Network.exists_eq_ok_of_fetch hfetch
    obtain ⟨rs, hlog, hbytes, hreqs, hout⟩ := sendChunks_of_repliesOk cs _ _ _ hrest
    have hch : r.bytes = ch := (u.chunkRequest_eq_ok hr).2.1
    refine ⟨r :: rs, ?_, ?_, ?_, ?_⟩
    · rw [hrun]
      simp [hlog, hr]
    · simp [hbytes, hch]
    · intro k hk
      cases k with
      | zero => simpa [hch] using hr
      | succ k => simpa [Nat.add_assoc] using hreqs k (by simpa using hk)
    · rw [hrun]
      simp [hout, List.range_succ_eq_map, Function.comp_def, Nat.add_assoc, Nat.add_comm 1]

end Sending

/-- What an upload that opened transfer `T` sent and answered after opening it, when every chunk
was accepted: the data cut into `⌈|data| / c⌉` non-empty chunks of at most `c` bytes, one
`PATCH` of transfer `T` per chunk, in order, each at the offset of the bytes before it; a receipt
counting every byte and chunk, and progress rising strictly, chunk by chunk, to the length of
the data. -/
def ChunksSent (u : FileUploader) (name T : String) (data : List UInt8)
    (x : Sent (UploadReceipt × List (Nat × Nat))) : Prop :=
  ∃ (cs : List (List UInt8)) (rs : List Request),
    x.log.map Exchange.request = rs.map .ok ∧ rs.map Request.bytes = cs ∧
    cs.length = (data.length + u.chunkSize - 1) / u.chunkSize ∧ cs.flatten = data ∧
    (∀ ch ∈ cs, ch ≠ [] ∧ ch.length ≤ u.chunkSize) ∧
    (∀ (k : Nat) (hk : k < rs.length),
      u.chunkRequest name T data.length (offsetOf cs k) rs[k].bytes = .ok rs[k] ∧
      rs[k].method = .patch ∧ rs[k].header? "upload-offset" = some (toString (offsetOf cs k)) ∧
      rs[k].header? "upload-length" = some (toString data.length)) ∧
    x.outcome = .ok (⟨T, data.length, cs.length⟩, progressOf cs data.length) ∧
    ((progressOf cs data.length).map Prod.fst).Pairwise (· < ·) ∧
    ((progressOf cs data.length).map Prod.fst).getLast?.getD 0 = data.length

/-- Sending the pieces of the data, with every chunk accepted, is `ChunksSent`. -/
theorem chunksSent_of_repliesOk (u : FileUploader) (name T : String) (data : List UInt8)
    (hsize : 0 < u.chunkSize)
    (h : (u.sendChunks name T data.length (pieces (u.chunkSize - 1) data) 0 0 []).RepliesOk) :
    u.ChunksSent name T data (u.sendChunks name T data.length (pieces (u.chunkSize - 1) data) 0 0 []) := by
  obtain ⟨rs, hlog, hbytes, hreqs, hout⟩ := u.sendChunks_of_repliesOk name T data.length _ 0 0 [] h
  have hc : u.chunkSize - 1 + 1 = u.chunkSize := Nat.sub_add_cancel hsize
  have hflat : (pieces (u.chunkSize - 1) data).flatten = data := pieces_join _ _
  have hne : ∀ ch ∈ pieces (u.chunkSize - 1) data, ch ≠ [] ∧ ch.length ≤ u.chunkSize :=
    fun ch hch => hc ▸ mem_pieces hch
  have hlen : (pieces (u.chunkSize - 1) data).length = (data.length + u.chunkSize - 1) / u.chunkSize := by
    rw [length_pieces, hc, Nat.add_sub_assoc hsize]
  refine ⟨_, rs, hlog, hbytes, hlen, hflat, hne, fun k hk => ?_, ?_, ?_, ?_⟩
  · have hreq := hreqs k hk
    rw [Nat.zero_add] at hreq
    obtain ⟨hpatch, -, hoff, hlength⟩ := u.chunkRequest_eq_ok hreq
    exact ⟨hreq, hpatch, hoff, hlength⟩
  · simpa [hflat, progressOf] using hout
  · exact progressOf_strictly_rising _ fun ch hch => (hne ch hch).1
  · rw [progressOf_last, hflat]

variable (u : FileUploader)

theorem upload_empty_name (data : List UInt8) :
    u.upload "" data = ⟨[], .error (.invalidInput "upload name cannot be empty")⟩ := by
  simp [upload]

theorem upload_eq_of_ne {name : String} (data : List UInt8) (h : name ≠ "") :
    u.upload name data = (u.client.network.exchange (u.openRequest data.length) >>= fun opened =>
      if Text.trim opened.body = "" then throw (.validation "server returned an empty transfer id")
      else u.sendChunks name (Text.trim opened.body) data.length (pieces (u.chunkSize - 1) data) 0 0 []) := by
  simp [upload, h]

/-- An upload stops at its first failed request. -/
theorem stopsAtFailure_upload (name : String) (data : List UInt8) :
    (u.upload name data).StopsAtFailure := by
  by_cases hname : name = ""
  · rw [hname, upload_empty_name]
    exact Sent.stopsAtFailure_mk_nil _
  · rw [u.upload_eq_of_ne data hname]
    refine (Sent.stopsAtFailure_exchange _ _).bind fun opened => ?_
    split
    · exact Sent.stopsAtFailure_mk_nil _
    · exact u.stopsAtFailure_sendChunks _ _ _ _ _ _ _

/-- The chunked upload protocol.  An upload stops at its first failed request, with that failure.
When every request succeeds, it first posts the length of the data; a blank transfer id ends it
there with a failure, and any other id is followed by the chunks of the data (`ChunksSent`). -/
theorem upload_sends_chunks (name : String) (data : List UInt8) (hname : name ≠ "")
    (hsize : 0 < u.chunkSize) :
    (u.upload name data).StopsAtFailure ∧
      ((u.upload name data).RepliesOk →
        ∃ (r : Request) (opened : Response) (rest : List Exchange),
          (u.upload name data).log = ⟨u.openRequest data.length, .ok opened⟩ :: rest ∧
          u.openRequest data.length = .ok r ∧ r.method = .post ∧
          r.header? "upload-length" = some (toString data.length) ∧
          (Text.trim opened.body = "" → rest = [] ∧
            (u.upload name data).outcome = .error (.validation "server returned an empty transfer id")) ∧
          (Text.trim opened.body ≠ "" →
            u.ChunksSent name (Text.trim opened.body) data ⟨rest, (u.upload name data).outcome⟩)) := by
  refine ⟨u.stopsAtFailure_upload name data, fun h => ?_⟩
  rw [u.upload_eq_of_ne data hname] at h ⊢
  obtain ⟨opened, hfetch, hrun, hrest⟩ := Sent.exchange_bind_of_repliesOk h
  obtain ⟨r, hr⟩ := Network.exists_eq_ok_of_fetch hfetch
  obtain ⟨hpost, hlength⟩ := u.openRequest_eq_ok hr
  rw [hrun]
  refine ⟨r, opened, _, rfl, hr, hpost, hlength, fun hblank => ?_, fun hid => ?_⟩
  · simp [hblank]
  · simp only [hid, if_false] at hrest ⊢
    exact u.chunksSent_of_repliesOk name _ data hsize hrest

/-- An uploader of chunk size `c` talking to a server on the loopback address that answers every
request with success and the body `id`. -/
def loopback (id : String) (c : Nat) : FileUploader :=
  ⟨⟨{ baseUrl := "http://[::1]" }, ⟨fun _ => some ⟨200, id⟩⟩⟩, c⟩

/-- Against a server that names the transfer `t1` and accepts every chunk, uploading five bytes
in chunks of four has every request answered, and sends the chunks `ChunksSent` describes. -/
theorem loopback_upload_sends_chunks :
    "a.txt" ≠ "" ∧ 0 < (loopback "t1" 4).chunkSize ∧
      ((loopback "t1" 4).upload "a.txt" [1, 2, 3, 4, 5]).RepliesOk ∧
      (loopback "t1" 4).ChunksSent "a.txt" "t1" [1, 2, 3, 4, 5]
        ⟨((loopback "t1" 4).upload "a.txt" [1, 2, 3, 4, 5]).log.tail,
          ((loopback "t1" 4).upload "a.txt" [1, 2, 3, 4, 5]).outcome⟩ := by
  have hok : ((loopback "t1" 4).upload "a.txt" [1, 2, 3, 4, 5]).RepliesOk :=
    Sent.repliesOk_of_all_isOk (by decide +kernel)
  obtain ⟨resp, hfetch, hbody⟩ := exists_eq_ok_of_toOption_map (f := Response.body)
    (x := (loopback "t1" 4).client.network.fetch
      ((loopback "t1" 4).openRequest [1, 2, 3, 4, 5].length)) (b := "t1")
    (by decide +kernel)
  obtain ⟨r, opened, rest, hlog, -, -, -, -, hchunks⟩ :=
    (upload_sends_chunks (loopback "t1" 4) "a.txt" [1, 2, 3, 4, 5] (by decide) (by decide)).2 hok
  -- the first exchange is the opening request, which the server answered with `t1`
  have hfirst : ((loopback "t1" 4).upload "a.txt" [1, 2, 3, 4, 5]).log.head? =
      some ⟨(loopback "t1" 4).openRequest [1, 2, 3, 4, 5].length,
        (loopback "t1" 4).client.network.fetch
          ((loopback "t1" 4).openRequest [1, 2, 3, 4, 5].length)⟩ := by
    rw [upload_eq_of_ne _ _ (by decide)]
    exact Sent.head_log_exchange_bind _ _ _
  rw [hlog, List.head?_cons, Option.some.injEq] at hfirst
  have hopened : opened = resp := Except.ok.inj ((congrArg Exchange.reply hfirst).trans hfetch)
  have htrim : Text.trim opened.body = "t1" := by rw [hopened, hbody]; decide +kernel
  have hsent := hchunks (by rw [htrim]; decide)
  rw [htrim] at hsent
  have hrest : ((loopback "t1" 4).upload "a.txt" [1, 2, 3, 4, 5]).log.tail = rest := by
    rw [hlog, List.tail_cons]
  refine ⟨by decide, by decide, hok, ?_⟩
  rw [hrest]
  exact hsent

/-- A server that names the transfer by a blank id answers every request with success, yet the
upload sends no chunk and fails. -/
theorem upload_blank_transfer_id_sends_no_chunk :
    ((loopback "" 4).upload "a.txt" [1, 2, 3]).RepliesOk ∧
      ((loopback "" 4).upload "a.txt" [1, 2, 3]).log.length = 1 ∧
      ((loopback "" 4).upload "a.txt" [1, 2, 3]).outcome =
        .error (.validation "server returned an empty transfer id") := by
  obtain ⟨resp, hfetch, hbody⟩ := exists_eq_ok_of_toOption_map (f := Response.body)
    (x := (loopback "" 4).client.network.fetch ((loopback "" 4).openRequest 3)) (b := "")
    (by decide +kernel)
  have htrim : Text.trim "" = "" := by decide
  rw [upload_eq_of_ne _ _ (by decide)]
  simp [Network.exchange, hfetch, hbody, htrim, Sent.RepliesOk]

end FileUploader

end CorpusBench
