import CorpusBench.Json.Decode

/-!
# Image information documents

An image service describes an image in its information document: the image's id, its width
and height in pixels, the tile sets a viewer may request (each with its scale factors), and the
service's profile.  Older services name the id `@id`, newer ones `id`; either is read, and
giving both is a fault.

## Main definitions

* `ImageTiles`, `ImageInfo`, with `aspectRatio` and `maxScaleFactor`.
-/

namespace CorpusBench

open RecordReader

/-- One tile set of an image service. -/
structure ImageTiles where
  width : Nat
  height : Option Nat := none
  scaleFactors : List Nat := []

namespace ImageTiles

def toJson (t : ImageTiles) : Json :=
  Json.mkObj [("width", Json.ofNat t.width), ("height", Json.ofOption Json.ofNat t.height),
    ("scaleFactors", .arr (t.scaleFactors.map Json.ofNat))]

def decoder : Decoder ImageTiles := Decoder.record "IiifTile" <|
  ImageTiles.mk <$> field "width" (Decoder.word .u32) <*> optFieldOr "height" (Decoder.word .u32)
    <*> fieldOr "scaleFactors" (Decoder.list (Decoder.word .u32)) []

end ImageTiles

/-- The information document of an image. -/
structure ImageInfo where
  id : String
  width : Nat
  height : Nat
  tiles : List ImageTiles := []
  profile : Json := .null

namespace ImageInfo

/-- Width over height, and 1 for an image without height. -/
def aspectRatio (i : ImageInfo) : Float :=
  if i.height = 0 then 1.0 else Float.ofNat i.width / Float.ofNat i.height

/-- The largest scale factor of any tile set, and 1 when none is given. -/
def maxScaleFactor (i : ImageInfo) : Nat :=
  match i.tiles.flatMap ImageTiles.scaleFactors with
  | [] => 1
  | f :: fs => fs.foldl max f

def toJson (i : ImageInfo) : Json :=
  Json.mkObj [("@id", .str i.id), ("width", Json.ofNat i.width), ("height", Json.ofNat i.height),
    ("tiles", .arr (i.tiles.map ImageTiles.toJson)), ("profile", i.profile)]

def decoder : Decoder ImageInfo := Decoder.record "IiifInfo" <|
  ImageInfo.mk <$> field "@id" Decoder.string ["id"] <*> field "width" (Decoder.word .u32)
    <*> field "height" (Decoder.word .u32) <*> fieldOr "tiles" (Decoder.list ImageTiles.decoder) []
    <*> fieldOr "profile" Decoder.any .null

end ImageInfo

end CorpusBench
