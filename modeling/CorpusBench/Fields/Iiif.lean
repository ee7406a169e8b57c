import CorpusBench.Web.Address
import CorpusBench.Decimal.Text
import CorpusBench.Error
import CorpusBench.Text.Blank

/-!
# IIIF image requests

An IIIF image field stores the base address of an image service.  Viewers ask the service for
`{base}/info.json`, and for images at
`{base}/{region}/{size}/{rotation}/{quality}.{format}`, where a mirrored image has `!` before
its rotation.

The rotation is a number of degrees brought into `[0, 360)` by the Euclidean remainder of
doubles (a value just below zero comes out as `360`, and a non-finite one as `0`).  Numbers in
the address are written in plain decimal.

## Main definitions

* `Iiif.Region`, `Size`, `Quality`, `Format` and their segments.
* `Float.remainder` — the exact remainder of doubles.
* `Iiif.ImageRequest` — with `new`, `url`, `infoUrl` and `thumbnail`.
-/

namespace CorpusBench

/-- The exact remainder of `x` by `y`, with the sign of `x` (the C `fmod`): `x - n·y` for the
integer `n` that is `x / y` rounded toward zero.  Computed on the exact binary values, so no
rounding happens. -/
def Float.remainder (x y : Float) : Float :=
  if !x.isFinite || y.isNaN || y == 0.0 then Float.ofBits 0x7FF8000000000000
  else if y.isInf then x
  else
    let (mx, ex) := x.abs.frExp
    let (my, ey) := y.abs.frExp
    -- |x| = mx · 2^ex with mx in [0.5, 1): as an integer significand over 2^53
    let sx : Nat := (mx.scaleB 53).toUInt64.toNat
    let sy : Nat := (my.scaleB 53).toUInt64.toNat
    let ex : Int := ex - 53
    let ey : Int := ey - 53
    let e := min ex ey
    let a := sx * Nat.pow 2 (ex - e).toNat
    let b := sy * Nat.pow 2 (ey - e).toNat
    let r := a % b
    let magnitude := (r.toFloat).scaleB e
    if x < 0.0 || (x == 0.0 && (1.0 / x) < 0.0) then -magnitude else magnitude

namespace Iiif

/-- The part of the image asked for. -/
inductive Region where
  | full
  | square
  | pixels (x y w h : Nat)
  | percent (x y w h : Float)

namespace Region

/-- The segment of the address that asks for the region. -/
def segment : Region → String
  | .full => "full"
  | .square => "square"
  | .pixels x y w h => ",".intercalate ([x, y, w, h].map toString)
  | .percent x y w h => "pct:" ++ ",".intercalate ([x, y, w, h].map Float.plainText)

end Region

/-- The size of the image asked for. -/
inductive Size where
  | max
  | width (w : Nat)
  | height (h : Nat)
  | exact (w h : Nat)
  /-- Scaled to fit inside `w × h`, keeping the aspect ratio. -/
  | bestFit (w h : Nat)
  | percent (p : Float)

namespace Size

/-- The segment of the address that asks for the size. -/
def segment : Size → String
  | .max => "max"
  | .width w => toString w ++ ","
  | .height h => "," ++ toString h
  | .exact w h => toString w ++ "," ++ toString h
  | .bestFit w h => "!" ++ toString w ++ "," ++ toString h
  | .percent p => "pct:" ++ Float.plainText p

end Size

/-- The colour quality of the image. -/
inductive Quality where
  | standard | color | gray | bitonal

def Quality.name : Quality → String
  | .standard => "default"
  | .color => "color"
  | .gray => "gray"
  | .bitonal => "bitonal"

/-- The image format. -/
inductive Format where
  | jpg | png | webp | gif | tif

def Format.name : Format → String
  | .jpg => "jpg"
  | .png => "png"
  | .webp => "webp"
  | .gif => "gif"
  | .tif => "tif"

/-- One image request. -/
structure ImageRequest where
  base : String
  region : Region := .full
  size : Size := .max
  rotation : Float := 0.0
  mirrored : Bool := false
  quality : Quality := .standard
  format : Format := .jpg

/-- The rotation brought into `[0, 360)`; a non-finite rotation is none. -/
def normalizeRotation (degrees : Float) : Float :=
  if !degrees.isFinite then 0.0
  else
    let r := Float.remainder degrees 360.0
    if r < 0.0 then r + 360.0 else r

/-- The text `base` with a suffix removed once, when it ends with it. -/
def dropSuffix (base suffix : String) : String :=
  if base.endsWith suffix then String.ofList (base.toList.take (base.length - suffix.length))
  else base

namespace ImageRequest

/-- The full image at its largest size, from a service address (trailing slashes and one
`/info.json` dropped); the address must be a web address. -/
def new (base : String) : Except ClientError ImageRequest :=
  let b := String.ofList ((Text.trim base).toList.reverse.dropWhile (· = '/')).reverse
  let b := dropSuffix b "/info.json"
  if WebAddress.isWeb b then .ok { base := b }
  else .error (.validation ("not an IIIF service URL: " ++ b))

/-- The address of the service's description. -/
def infoUrl (r : ImageRequest) : String := r.base ++ "/info.json"

/-- The address of the image. -/
def url (r : ImageRequest) : String :=
  r.base ++ "/" ++ r.region.segment ++ "/" ++ r.size.segment ++ "/" ++
    (if r.mirrored then "!" else "") ++ Float.plainText (normalizeRotation r.rotation) ++ "/" ++
    r.quality.name ++ "." ++ r.format.name

/-- The address of a thumbnail fitting a square of `px` pixels. -/
def thumbnail (base : String) (px : Nat) : Except ClientError String := do
  return { (← new base) with size := .bestFit px px }.url

end ImageRequest

end Iiif

end CorpusBench
