import CorpusBench.Client.Upload
import CorpusBench.Fields.FilePath
import CorpusBench.Fields.FieldType

/-!
# Editing a file field

A file field holds the path of a stored file, or a file staged on the server and not yet
saved.  Staging a new file cancels the one staged before (a failure to cancel is ignored);
removing cancels the staged file and forgets the stored one.  The field's form value is the
staged transfer id, else the stored path, else empty text.

* An upload of no bytes is refused before anything is sent.
* A file fetched from elsewhere is staged under the last segment of its address.
* A blank stored path counts as none.

## Main definitions

* `FileEditor` — the uploader, the stored path and the staged upload.
* `FileEditor.upload`, `uploadRemote`, `remove`, `formValue`, `toJson`.

## Main results

* `FileEditor.formValue_new` — a new editor shows its stored path.
-/

namespace CorpusBench

/-- The state of a file field's editor. -/
structure FileEditor where
  uploader : FileUploader
  stored : Option String
  pending : Option UploadReceipt

namespace FileEditor

/-- An editor for a field holding `stored`; a blank path counts as none. -/
def new (uploader : FileUploader) (stored : Option String) : FileEditor :=
  ⟨uploader, stored.filter (fun s => !Text.isBlankText s), none⟩

/-- The name shown for the stored file. -/
def displayName (e : FileEditor) : Option String := e.stored.map FilePath.fileName

/-- The value the field submits. -/
def formValue (e : FileEditor) : FormValue :=
  match e.pending, e.stored with
  | some r, _ => .text r.transferId
  | none, some path => .text path
  | none, none => FormValue.empty

theorem formValue_new (u : FileUploader) (path : String) (h : Text.isBlankText path = false) :
    (new u (some path)).formValue = .text path := by
  simp [new, formValue, Option.filter, h]

/-- Cancel the staged file, ignoring a failure. -/
def discardPending (e : FileEditor) : Sent Unit × FileEditor :=
  match e.pending with
  | some old =>
    (tryCatch (e.uploader.revert old.transferId) fun _ => pure (), { e with pending := none })
  | none => (pure (), e)

/-- Stage `data` as `name`, in place of any file staged before. -/
def upload (e : FileEditor) (name : String) (data : List UInt8) : Sent UploadReceipt × FileEditor :=
  if data.isEmpty then (throw (.invalidInput (name ++ " is empty")), e)
  else
    let (discarded, e) := e.discardPending
    let staged := e.uploader.upload name data
    (do discarded; return (← staged).1,
     match staged.outcome with
     | .ok (r, _) => { e with pending := some r }
     | .error _ => e)

/-- Stage a file fetched from `address`, named by the address's last segment. -/
def uploadRemote (e : FileEditor) (address : String) : Sent UploadReceipt × FileEditor :=
  let fetched := e.uploader.fetchRemote address
  let staging := fun (body : String) => e.upload (FilePath.fileName address) body.toUTF8.toList
  (do (staging (← fetched)).1,
   match fetched.outcome with
   | .ok body => (staging body).2
   | .error _ => e)

/-- Cancel the staged file and forget the stored one; when cancelling fails the stored path
stays. -/
def remove (e : FileEditor) : Sent Unit × FileEditor :=
  match e.pending with
  | some r =>
    let reverted := e.uploader.revert r.transferId
    (reverted, match reverted.outcome with
      | .ok () => { e with pending := none, stored := none }
      | .error _ => { e with pending := none })
  | none => (pure (), { e with stored := none })

/-- The editor's state as a document. -/
def toJson (e : FileEditor) : Json :=
  Json.mkObj [("stored_path", Json.ofOption .str e.stored),
    ("pending", Json.ofOption UploadReceipt.toJson e.pending),
    ("display_name", Json.ofOption .str e.displayName),
    ("form_value", e.formValue.toJson)]

end FileEditor

end CorpusBench
