import CorpusBench.Command.Fields
import CorpusBench.Command.Server
import CorpusBench.Fields.Codec
import CorpusBench.Fields.Iiif
import CorpusBench.Fields.Widgets
import CorpusBench.Fields.Picker
import CorpusBench.Web.Preview

/-!
# Commands on field editors

The form codec (`to_form`, `from_form`), geographic points, rich text, file paths, IIIF image
requests, web addresses and link previews, the widget registry, and the cross-reference picker
over the in-memory server.

## Main definitions

* `Command.Editors.toFormCmd`, `fromFormCmd`, `geoCmd`, `iiifCmd`, `pickerCmd`, ….
-/

namespace CorpusBench

namespace Command

namespace Editors

/-- A field type by tag. -/
def fieldTypeArg (req : Json) : Step FieldType := do
  liftClient (FieldType.ofTag (← Args.str req "type"))

/-- `to_form`. -/
def toFormCmd (req : Json) : Step Json := do
  let t ← fieldTypeArg req
  let v := (Args.get? req "value").getD .null
  return (← liftClient (t.toForm v)).toJson

/-- The control value of `form`: a text, a flag, or an array of texts. -/
def formArg (req : Json) : Step FormValue := do
  match ← Args.value req "form" with
  | .str s => return .text s
  | .bool b => return .flag b
  | .arr items =>
    match items.mapM (fun j => match j with | .str s => some s | _ => none) with
    | some xs => return .list xs
    | none => bad "form must be a string, a boolean or an array of strings"
  | _ => bad "form must be a string, a boolean or an array of strings"

/-- `from_form`. -/
def fromFormCmd (req : Json) : Step Json := do
  let t ← fieldTypeArg req
  let v ← formArg req
  liftClient (t.fromForm v)

/-- A tile as a document. -/
def tileJson (t : Tile) : Json := t.toJson

/-- The point a `geo` request gives: by editor text, by GeoJSON, or by coordinates. -/
def pointArg (req : Json) : Step GeoPoint := do
  match Args.get? req "s" with
  | some _ => liftClient (GeoPoint.parse (← Args.str req "s"))
  | none =>
    match Args.get? req "geojson" with
    | some j => liftClient (GeoPoint.ofGeoJson j)
    | none => liftClient (GeoPoint.make (← Args.float req "lat") (← Args.float req "lon"))

/-- The zoom levels of a `geo` request. -/
def zoomsArg (req : Json) : Step (List Nat) := do
  (← Args.arrayOr req "zooms").mapM fun j =>
    match j with
    | .num (.nat n) => if n ≤ 255 then pure n else bad "zooms are integers 0..=255"
    | _ => bad "zooms are integers 0..=255"

/-- `geo`. -/
def geoCmd (req : Json) : Step Json := do
  let p ← pointArg req
  let zooms ← zoomsArg req
  return Json.mkObj [("lat", .num (.float p.lat)), ("lon", .num (.float p.lon)),
    ("form", .str p.formText), ("geojson", p.toGeoJson),
    ("tiles", .arr (zooms.map fun z => (p.tile z).toJson)),
    ("default_tile", (p.tile GeoPoint.editorZoom).toJson)]

/-- `normalize_html`. -/
def normalizeHtmlCmd (req : Json) : Step Json := do
  return .str (Html.normalize (← Args.str req "s"))

/-- `text_preview`. -/
def textPreviewCmd (req : Json) : Step Json := do
  return .str (Html.preview (← Args.str req "s") (← Args.nat req "max" .usize))

/-- `relative_path`. -/
def relativePathCmd (req : Json) : Step Json := do
  return .str (← liftClient (FilePath.validate (← Args.str req "s")))

/-- `file_name`. -/
def fileNameCmd (req : Json) : Step Json := do
  return .str (FilePath.fileName (← Args.str req "s"))

/-- `validate_url`. -/
def validateUrlCmd (req : Json) : Step Json := do
  return .str (← liftClient (WebAddress.validate (← Args.str req "s")))

/-- Four values of a region. -/
def fourOf {α : Type} (read : Json → Option α) (message : String) (j : Json) : Step (α × α × α × α) :=
  match j with
  | .arr [a, b, c, d] =>
    match read a, read b, read c, read d with
    | some a, some b, some c, some d => .ok (a, b, c, d)
    | _, _, _, _ => bad message
  | .arr _ => bad "region needs four values"
  | _ => bad "region needs four values"

/-- An unsigned 32-bit value. -/
def word32? : Json → Option Nat
  | .num (.nat n) => if n ≤ u32Max then some n else none
  | _ => none

/-- A number as a double. -/
def number? : Json → Option Float
  | .num n => some n.toFloat
  | _ => none

/-- The region of an IIIF request. -/
def regionArg (req : Json) : Step Iiif.Region :=
  match Args.get? req "region" with
  | none | some (.str "full") => .ok .full
  | some (.str "square") => .ok .square
  | some (.obj [("pixels", v)]) => do
    let (x, y, w, h) ← fourOf word32? "pixel region values are u32" v
    return .pixels x y w h
  | some (.obj [("percent", v)]) => do
    let (x, y, w, h) ← fourOf number? "percent region values are numbers" v
    return .percent x y w h
  | some _ => bad "unknown region"

/-- Two unsigned 32-bit values of a size. -/
def twoOf (j : Json) : Step (Nat × Nat) :=
  match j with
  | .arr [a, b] =>
    match word32? a, word32? b with
    | some a, some b => .ok (a, b)
    | _, _ => bad "size values are u32"
  | _ => bad "size needs two values"

/-- One unsigned 32-bit value of a size. -/
def oneOf (j : Json) : Step Nat :=
  match word32? j with
  | some n => .ok n
  | none => bad "size values are u32"

/-- The size of an IIIF request. -/
def sizeArg (req : Json) : Step Iiif.Size :=
  match Args.get? req "size" with
  | none | some (.str "max") => .ok .max
  | some (.obj [("width", v)]) => Iiif.Size.width <$> oneOf v
  | some (.obj [("height", v)]) => Iiif.Size.height <$> oneOf v
  | some (.obj [("exact", v)]) => (fun (w, h) => Iiif.Size.exact w h) <$> twoOf v
  | some (.obj [("best_fit", v)]) => (fun (w, h) => Iiif.Size.bestFit w h) <$> twoOf v
  | some (.obj [("percent", v)]) =>
    match number? v with
    | some p => .ok (.percent p)
    | none => bad "size percent is a number"
  | some _ => bad "unknown size"

/-- The quality of an IIIF request. -/
def qualityArg (req : Json) : Step Iiif.Quality :=
  match Args.get? req "quality" with
  | none | some (.str "default") => .ok .standard
  | some (.str "color") => .ok .color
  | some (.str "gray") => .ok .gray
  | some (.str "bitonal") => .ok .bitonal
  | some _ => bad "unknown quality"

/-- The format of an IIIF request. -/
def formatArg (req : Json) : Step Iiif.Format :=
  match Args.get? req "format" with
  | none | some (.str "jpg") => .ok .jpg
  | some (.str "png") => .ok .png
  | some (.str "webp") => .ok .webp
  | some (.str "gif") => .ok .gif
  | some (.str "tif") => .ok .tif
  | some _ => bad "unknown format"

/-- `iiif`. -/
def iiifCmd (req : Json) : Step Json := do
  let image ← liftClient (Iiif.ImageRequest.new (← Args.str req "base"))
  let image := { image with region := ← regionArg req, size := ← sizeArg req,
                            rotation := (← Args.floatOpt req "rotation").getD 0.0,
                            mirrored := ← Args.boolOr req "mirrored" false,
                            quality := ← qualityArg req, format := ← formatArg req }
  return Json.mkObj [("base", .str image.base), ("url", .str image.url), ("info_url", .str image.infoUrl)]

/-- `iiif_thumbnail`. -/
def iiifThumbnailCmd (req : Json) : Step Json := do
  let url ← liftClient (Iiif.ImageRequest.thumbnail (← Args.str req "base") (← Args.nat req "px" .u32))
  return .str url

/-- `parse_preview`. -/
def parsePreviewCmd (req : Json) : Step Json := do
  let p := LinkPreview.parse (← Args.str req "url") (← Args.str req "html")
  return Json.mkObj [("preview", p.toJson), ("is_empty", .bool p.isEmpty)]

/-- One step of a `widget_registry` command. -/
def registryStep (r : WidgetRegistry String) (req : Json) : WidgetRegistry String × Step Json :=
  let s : Step (WidgetRegistry String × Json) := do
    match ← Args.str req "op" with
    | "mount" =>
      let w ← Args.str req "widget"
      let r ← liftClient (r.mount (← Args.str req "id") w)
      return (r, .str w)
    | "get" => return (r, Json.ofOption .str (r.get? (← Args.str req "id")))
    | "set" =>
      let (done, r) := r.replace (← Args.str req "id") (← Args.str req "widget")
      return (r, .bool done)
    | "unmount" =>
      let (w, r) := r.unmount (← Args.str req "id")
      return (r, Json.ofOption .str w)
    | "clear" =>
      let (ws, r) := r.clear
      return (r, .arr (ws.map fun (k, w) => .arr [.str k, .str w]))
    | "state" =>
      return (r, Json.mkObj [("len", Json.ofNat r.widgets.length),
        ("is_empty", .bool r.widgets.isEmpty), ("ids", .arr (r.widgets.map fun (k, _) => .str k))])
    | other => bad ("unknown registry op " ++ other)
  match s with
  | .ok (r', v) => (r', .ok v)
  | .error e => (r, .error e)

/-- `widget_registry`. -/
def widgetRegistryCmd (req : Json) : Step Json := do
  return .arr (← runSteps registryStep {} (← Args.arrayOr req "ops"))

/-- One step of a `picker` command. -/
def pickerStep (p : Picker) (d : Mock.Desk) (req : Json) : Mock.Desk × Step Json :=
  match Args.str req "op" with
  | .error e => (d, .error e)
  | .ok op =>
    match Mock.deskStep? d op req with
    | some r => r
    | none =>
      let answer {α : Type} (enc : α → Json) (prog : Proc Server (Except ClientError α)) :
          Mock.Desk × Step Json :=
        let (s, r) := Mock.answerStep enc prog d.server
        ({ d with server := s }, r)
      match op with
      | "search" =>
        match Args.str req "q" with
        | .ok q => answer (fun xs => .arr (xs.map CrossReference.toJson)) (p.search q)
        | .error e => (d, .error e)
      | "resolve" =>
        match Args.str req "uri" with
        | .ok u => answer CrossReference.toJson (p.resolve u)
        | .error e => (d, .error e)
      | "content_type" => (d, .ok (.str p.contentType))
      | other => (d, bad ("unknown picker op " ++ other))

/-- `picker`: steps on a cross-reference picker over the in-memory server. -/
def pickerCmd (req : Json) : Step Json := do
  let server ← Mock.serverOf req
  let ct ← Args.str req "content_type"
  let corpusId ← Args.strOr req "corpus_id" server.corpusId
  let size ← Args.natOr req "page_size" .u32 10
  let p : Picker := { corpusId := corpusId, contentType := ct, pageSize := max size 1 }
  return .arr (← runSteps (pickerStep p) { server := server } (← Args.arrayOr req "ops"))

end Editors

end Command

end CorpusBench
