import CorpusBench.Client.Api
import CorpusBench.Fields.Iiif
import CorpusBench.Fields.IiifInfo
import CorpusBench.Web.Preview

/-!
# Documents from elsewhere

Documents a field fetches from outside the API, without credentials.

* **Image information.**  The description `<service>/info.json` of an image service; the
  service address is checked first.  A viewer that cannot load it shows one fixed message,
  whatever went wrong.
* **Link previews.**  The page a link points to, read for its title, description and
  thumbnail.  Every failure gives no preview: a link that is not a web address, a request
  that fails, or a page without preview data.

## Main definitions

* `HttpClient.fetchImageInfo`, `HttpClient.loadViewer`.
* `HttpClient.fetchPreview`.

## Main results

* `HttpClient.fetchPreview_invalid` — a link that is not a web address has no
  preview.
-/

namespace CorpusBench

/-- What a viewer shows: the image information, or the message that it could not load. -/
inductive ViewerLoad where
  | ready (info : ImageInfo)
  | unavailable (message : String)

/-- A viewer's state as a document. -/
def ViewerLoad.toJson : ViewerLoad → Json
  | .ready info => Json.mkObj [("ready", info.toJson)]
  | .unavailable m => Json.mkObj [("unavailable", .str m)]

namespace HttpClient

/-- The message of a viewer whose image information could not be loaded. -/
def infoUnavailable : String := "Image information could not be loaded."

/-- The description of the image service at `base`. -/
def fetchImageInfo (c : HttpClient) (base : String) : Except ClientError ImageInfo := do
  let image ← Iiif.ImageRequest.new base
  c.fetchExternalJson image.infoUrl ImageInfo.decoder

/-- Load a viewer for the image service at `base`. -/
def loadViewer (c : HttpClient) (base : String) : ViewerLoad :=
  match c.fetchImageInfo base with
  | .ok info => .ready info
  | .error _ => .unavailable infoUnavailable

/-- The preview of the page a link points to, when there is one. -/
def fetchPreview (c : HttpClient) (link : String) : Option LinkPreview :=
  match WebAddress.validate link with
  | .error _ => none
  | .ok address =>
    match c.fetchExternalText address with
    | .ok html => (some (LinkPreview.parse address html)).filter (!·.isEmpty)
    | .error _ => none

theorem fetchPreview_invalid (c : HttpClient) (link : String)
    (h : WebAddress.isWeb (Text.trim link) = false) : c.fetchPreview link = none := by
  have hv : WebAddress.validate link = .error (.validation ("not a web address: " ++ Text.trim link)) := by
    unfold WebAddress.validate
    simp only [h, Bool.false_eq_true, if_false]
  unfold fetchPreview
  rw [hv]

end HttpClient

end CorpusBench
