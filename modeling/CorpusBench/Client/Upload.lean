import CorpusBench.Client.Api
import CorpusBench.Text.Blank

/-!
# Chunked file uploads

Files reach the server in chunks, over four requests:

1. `POST /fp/process/` with `Upload-Length` opens a transfer; the server answers its id as
   text, trimmed, which must not be empty.
2. `PATCH /fp/patch/<id>` sends each chunk with `Upload-Offset`, `Upload-Length` and
   `Upload-Name`; after each chunk the progress `(bytes sent, total)` is reported.
3. `DELETE /fp/revert/` with the id as body cancels a transfer.
4. `GET /fp/fetch/?target=<address>` has the server fetch a file from elsewhere.

An upload needs a name; an empty file opens a transfer and sends no chunk.

## Main definitions

* `UploadReceipt` — the transfer id, bytes and chunks of a finished upload.
* `FileUploader` — a client with a chunk size, with `upload`, `revert` and
  `fetchRemote`, each a run of requests (`Sent`), and the requests they make:
  `openRequest`, `chunkRequest`, `revertRequest`.
* `pieces` — a list cut into pieces of a given size.

## Main results

* `pieces_join` — the pieces put together are the list.
-/

namespace CorpusBench

/-- The outcome of a finished upload. -/
structure UploadReceipt where
  transferId : String
  bytesSent : Nat
  chunks : Nat
  deriving DecidableEq, Repr

/-- A receipt as a document. -/
def UploadReceipt.toJson (r : UploadReceipt) : Json :=
  Json.mkObj [("transfer_id", .str r.transferId), ("bytes_sent", Json.ofNat r.bytesSent),
    ("chunks", Json.ofNat r.chunks)]

/-- A list cut into pieces of `k + 1` elements, the last possibly shorter. -/
def pieces {α : Type} (k : Nat) (xs : List α) : List (List α) :=
  if h : xs = [] then [] else xs.take (k + 1) :: pieces k (xs.drop (k + 1))
termination_by xs.length
decreasing_by
  have : xs.length ≠ 0 := by simpa using h
  simp
  omega

theorem pieces_join {α : Type} (k : Nat) (xs : List α) : (pieces k xs).flatten = xs := by
  induction xs using pieces.induct k with
  | case1 => simp [pieces]
  | case2 xs h ih =>
    rw [pieces, dif_neg h, List.flatten_cons, ih, List.take_append_drop]

/-- A client sending files in chunks of a given size. -/
structure FileUploader where
  client : HttpClient
  chunkSize : Nat

namespace FileUploader

/-- An uploader with the chunk size of the settings. -/
def new (client : HttpClient) : FileUploader := ⟨client, client.config.uploadChunkSize⟩

/-- Set the chunk size; a size of zero counts as one. -/
def withChunkSize (u : FileUploader) (size : Nat) : FileUploader := { u with chunkSize := max size 1 }

/-- A request of the upload protocol, with the bearer token. -/
def protocolRequest (u : FileUploader) (method : Method) (path : String)
    (headers : List (String × String)) : Building :=
  let b := headers.foldl (fun b (name, value) => Request.withHeader name value b)
    (Request.start method (u.client.address path))
  Request.withBearer u.client.config.token b

/-- The request that opens a transfer of `total` bytes. -/
def openRequest (u : FileUploader) (total : Nat) : Building :=
  u.protocolRequest .post "/fp/process/" [("upload-length", toString total)]

/-- The request that sends `chunk`, at `offset` of the `total` bytes of a transfer. -/
def chunkRequest (u : FileUploader) (name transferId : String) (total offset : Nat)
    (chunk : List UInt8) : Building :=
  Request.withBody (.bytes chunk) (u.protocolRequest .patch
    ("/fp/patch/" ++ Url.encodeComponent transferId)
    [("content-type", "application/offset+octet-stream"), ("upload-offset", toString offset),
     ("upload-length", toString total), ("upload-name", name)])

/-- The request that cancels a transfer. -/
def revertRequest (u : FileUploader) (transferId : String) : Building :=
  Request.withBody (.text transferId) (u.protocolRequest .delete "/fp/revert/" [])

/-- Send the chunks from `offset` on; the receipt so far and the progress reported. -/
def sendChunks (u : FileUploader) (name transferId : String) (total : Nat) :
    List (List UInt8) → Nat → Nat → List (Nat × Nat) → Sent (UploadReceipt × List (Nat × Nat))
  | [], offset, count, progress => pure (⟨transferId, offset, count⟩, progress)
  | chunk :: rest, offset, count, progress => do
    let _ ← u.client.network.exchange (u.chunkRequest name transferId total offset chunk)
    let offset := offset + chunk.length
    sendChunks u name transferId total rest offset (count + 1) (progress ++ [(offset, total)])

/-- Upload `data` as `name`: the receipt and the progress after each chunk. -/
def upload (u : FileUploader) (name : String) (data : List UInt8) :
    Sent (UploadReceipt × List (Nat × Nat)) := do
  if name.isEmpty then throw (.invalidInput "upload name cannot be empty")
  let total := data.length
  let opened ← u.client.network.exchange (u.openRequest total)
  let transferId := Text.trim opened.body
  if transferId.isEmpty then throw (.validation "server returned an empty transfer id")
  u.sendChunks name transferId total (pieces (u.chunkSize - 1) data) 0 0 []

/-- Cancel a transfer. -/
def revert (u : FileUploader) (transferId : String) : Sent Unit := do
  let _ ← u.client.network.exchange (u.revertRequest transferId)
  return ()

/-- Have the server fetch a file from `target`; its bytes, as text. -/
def fetchRemote (u : FileUploader) (target : String) : Sent String := do
  let b := Request.withBearer u.client.config.token
    (Request.withQuery [("target", target)] (Request.start .get (u.client.address "/fp/fetch/")))
  return (← u.client.network.exchange b).body

end FileUploader

end CorpusBench
