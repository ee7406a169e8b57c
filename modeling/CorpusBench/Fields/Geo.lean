import CorpusBench.Json.Write
import CorpusBench.Error
import CorpusBench.Text.Blank

/-!
# Geographic points

A point is stored as GeoJSON, `{"type": "Point", "coordinates": [lon, lat]}`, and edited as
the text `lat, lon`.  A latitude lies in `[-90, 90]` and a longitude in `[-180, 180]`.

A point lies on one slippy-map tile at each zoom level (at most 19): the tile grid at zoom `z`
has `2^z` columns and rows; the column comes from the longitude, the row from the Mercator
projection of the latitude, clamped to `±85.0511` degrees.  The computation is the one of
double-precision arithmetic, with the platform's `tan`, `cos` and `ln`.

## Main definitions

* `GeoPoint` — with `make`, `parse`, `ofGeoJson`, `toGeoJson`, `formText`.
* `Tile`, `GeoPoint.tile`.

## Main results

* `GeoPoint.make_lat` — a point keeps its latitude.
-/

namespace CorpusBench

/-- A point on the globe, in degrees. -/
structure GeoPoint where
  lat : Float
  lon : Float

/-- One slippy-map tile. -/
structure Tile where
  z : Nat
  x : Nat
  y : Nat

namespace Tile

/-- The address of the tile's image on the public tile server. -/
def url (t : Tile) : String :=
  "https://tile.openstreetmap.org/" ++ toString t.z ++ "/" ++ toString t.x ++ "/" ++ toString t.y ++ ".png"

def toJson (t : Tile) : Json :=
  Json.mkObj [("z", Json.ofNat t.z), ("x", Json.ofNat t.x), ("y", Json.ofNat t.y), ("url", .str t.url)]

end Tile

namespace GeoPoint

/-- The highest zoom level of the tile server. -/
def maxZoom : Nat := 19

/-- The zoom of point editors. -/
def editorZoom : Nat := 13

/-- The double nearest to π. -/
def pi : Float := Float.ofBits 0x400921FB54442D18

/-- The double nearest to 85.0511, the latitude where the Mercator square ends. -/
def mercatorLimit : Float := Float.ofBits 0x4055434538EF34D7

/-- A point, when both coordinates are in range. -/
def make (lat lon : Float) : Except ClientError GeoPoint :=
  if !lat.isFinite || lat < -90.0 || lat > 90.0 then
    .error (.validation ("latitude must be within [-90, 90], got " ++ Float.plainText lat))
  else if !lon.isFinite || lon < -180.0 || lon > 180.0 then
    .error (.validation ("longitude must be within [-180, 180], got " ++ Float.plainText lon))
  else .ok ⟨lat, lon⟩

theorem make_lat (lat lon : Float) (p : GeoPoint) (h : make lat lon = .ok p) : p.lat = lat := by
  unfold make at h
  split at h
  · cases h
  · split at h
    · cases h
    · cases h; rfl

/-- A coordinate of the editor text. -/
def coordinate (s : String) : Except ClientError Float :=
  match parseFloatText? s with
  | some x => .ok x
  | none => .error (.validation ("not a coordinate: " ++ s))

/-- Read the editor text `lat, lon`. -/
def parse (raw : String) : Except ClientError GeoPoint :=
  match (raw.splitOn ",").map Text.trim with
  | [lat, lon] => do make (← coordinate lat) (← coordinate lon)
  | _ => .error (.validation ("expected \"latitude, longitude\", got: " ++ Text.trim raw))

/-- The editor text of a point. -/
def formText (p : GeoPoint) : String := Float.plainText p.lat ++ ", " ++ Float.plainText p.lon

/-- A number of a document as a double. -/
def numberOf? : Json → Option Float
  | .num (.nat n) => some (Decimal.toFloat ⟨n, 0⟩)
  | .num (.neg n) => some (decimalToFloat true ⟨n.natAbs, 0⟩)
  | .num (.float x) => some x
  | _ => none

/-- The point a GeoJSON document describes. -/
def ofGeoJson (j : Json) : Except ClientError GeoPoint :=
  if j.getPresent? "type" != some (.str "Point") then
    .error (.validation ("not a GeoJSON point: " ++ j.compact))
  else
    match j.getPresent? "coordinates" with
    | some (.arr (a :: b :: _)) =>
      match numberOf? b, numberOf? a with
      | some lat, some lon => make lat lon
      | _, _ => .error (.validation ("non-numeric coordinates: " ++ j.compact))
    | _ => .error (.validation ("point has no coordinates: " ++ j.compact))

/-- The GeoJSON document of a point. -/
def toGeoJson (p : GeoPoint) : Json :=
  Json.mkObj [("type", .str "Point"), ("coordinates", .arr [.num (.float p.lon), .num (.float p.lat)])]

/-- `x` within `[lo, hi]`. -/
def clampTo (x lo hi : Float) : Float := if x < lo then lo else if x > hi then hi else x

/-- The tile holding the point at a zoom level, at most the highest. -/
def tile (p : GeoPoint) (zoom : Nat) : Tile :=
  let z := min zoom maxZoom
  let n := (Nat.pow 2 z).toFloat
  let lat := clampTo p.lat (-mercatorLimit) mercatorLimit * (pi / 180.0)
  let x := ((p.lon + 180.0) / 360.0 * n).floor
  let y := ((1.0 - (lat.tan + 1.0 / lat.cos).log / pi) / 2.0 * n).floor
  let max := n - 1.0
  { z := z, x := (clampTo x 0.0 max).toUInt32.toNat, y := (clampTo y 0.0 max).toUInt32.toNat }

end GeoPoint

end CorpusBench
