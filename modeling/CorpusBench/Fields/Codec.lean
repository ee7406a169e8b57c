import CorpusBench.Fields.FieldType
import CorpusBench.Fields.Timespan
import CorpusBench.Fields.Html
import CorpusBench.Fields.FilePath
import CorpusBench.Fields.Geo
import CorpusBench.Web.Address
import CorpusBench.Calendar.Parse

/-!
# The form codec

Editors show a stored field value in a control and store what the control holds, both by the
field's type.

* **Showing.**  `null` shows as the empty control (an unticked box for flags, no parts for
  timespans).  Texts show as they are, dates as their first ten bytes, numbers as their
  text, geographic points as `lat, lon`, timespans as their parts, and cross references as
  their URI and label.  A value of the wrong kind is refused.
* **Storing.**  A blank control stores `null`, except a flag, which stores `false`.  Keywords
  are trimmed, rich text normalized (and `null` when it shows nothing), whole numbers and
  decimals read, dates read as a calendar date or a timestamp and stored as `YYYY-MM-DD`,
  timespans read from their parts, points from `lat, lon`, file paths and web addresses
  checked, and cross references read from a URI with an optional label.

## Main definitions

* `readWholeNumber?`, `readDateText`.
* `FieldType.toForm`, `FieldType.fromForm`.

## Main results

* `FieldType.fromForm_blank` — blank input to a field other than a flag stores
  `null`.
-/

namespace CorpusBench

/-- A whole number in the signed 64-bit range: an optional sign and at least one digit. -/
def readWholeNumber? (s : String) : Option Int :=
  let (negative, digits) := match s.toList with
    | '-' :: rest => (true, rest)
    | '+' :: rest => (false, rest)
    | cs => (false, cs)
  if digits.isEmpty || !digits.all Char.isDigit then none
  else
    let v : Nat := digits.foldl (fun acc c => acc * 10 + (c.toNat - 0x30)) 0
    if negative then (if v ≤ Nat.pow 2 63 then some (-(v : Int)) else none)
    else if v < Nat.pow 2 63 then some v else none

/-- A date as fields store it: a calendar date `YYYY-MM-DD`, or a timestamp whose local date
is taken; blanks around are ignored. -/
def readDateText (raw : String) : Except ClientError String :=
  let raw := Text.trim raw
  match readDate Pattern.date raw with
  | .ok d => .ok d.text
  | .error _ =>
    match readStampStrict raw with
    | .ok t => .ok t.date.text
    | .error _ => .error (.validation ("not a date: " ++ raw))

/-- The first ten bytes of a text, when they end at a character; else the whole text. -/
def firstTenBytes (s : String) : String :=
  let rec go : List Char → Nat → List Char → Option (List Char)
    | _, 10, acc => some acc.reverse
    | [], _, _ => none
    | c :: rest, n, acc => if n + c.utf8Size > 10 then none else go rest (n + c.utf8Size) (c :: acc)
  termination_by cs => cs.length
  match go s.toList 0 [] with
  | some cs => String.ofList cs
  | none => s

namespace FieldType

/-- The refusal of a stored value of the wrong kind. -/
def mismatch (t : FieldType) (v : Json) : ClientError :=
  .validation ("unexpected " ++ t.tag ++ " value: " ++ v.compact)

/-- The text of a stored value that must be one. -/
def expectText (t : FieldType) (v : Json) : Except ClientError String :=
  match v with
  | .str s => .ok s
  | _ => .error (t.mismatch v)

/-- Show a stored value in the field's control. -/
def toForm (t : FieldType) (v : Json) : Except ClientError FormValue :=
  if v == .null then
    .ok (match t with
      | .boolean => .flag false
      | .timespan => .list []
      | _ => FormValue.empty)
  else match t with
    | .text | .largeText | .keyword | .html | .choice | .link | .file | .image | .iiifImage =>
      FormValue.text <$> t.expectText v
    | .number | .decimal =>
      match v with
      | .num n => .ok (.text n.text)
      | .str s => .ok (.text s)
      | _ => .error (t.mismatch v)
    | .boolean =>
      match v with
      | .bool b => .ok (.flag b)
      | _ => .error (t.mismatch v)
    | .date => (fun s => FormValue.text (firstTenBytes s)) <$> t.expectText v
    | .timespan => (fun s => FormValue.list s.toParts) <$> Timespan.decoder.run v
    | .geoPoint => (fun p => FormValue.text p.formText) <$> GeoPoint.ofGeoJson v
    | .crossReference => (fun x => FormValue.list [x.uri, x.label]) <$> CrossReference.decoder.run v

/-- The text a control must hold for a field of this type. -/
def formText (t : FieldType) : FormValue → Except ClientError String
  | .text s => .ok s
  | other => .error (.validation (t.tag ++ " field expects text, got " ++ other.describe))

/-- Whether a flag's text means yes. -/
def flagText (s : String) : Bool :=
  match Text.asciiLowerString (Text.trim s) with
  | "true" | "on" | "yes" | "1" => true
  | _ => false

/-- Store what a control holds, once it is known not to be blank. -/
def storeValue (t : FieldType) (v : FormValue) : Except ClientError Json :=
  match t with
  | .text | .largeText | .choice | .iiifImage => Json.str <$> t.formText v
  | .keyword => (fun s => Json.str (Text.trim s)) <$> t.formText v
  | .html => (fun s => let h := Html.normalize s; if h.isEmpty then .null else .str h) <$> t.formText v
  | .number => do
    let raw := Text.trim (← t.formText v)
    match readWholeNumber? raw with
    | some n => return Json.ofInt n
    | none => throw (.validation ("not a whole number: " ++ raw))
  | .decimal => do
    let raw := Text.trim (← t.formText v)
    match parseFloatText? raw with
    | some x => if x.isFinite then return .num (.float x) else throw (.validation ("not a number: " ++ raw))
    | none => throw (.validation ("not a number: " ++ raw))
  | .boolean =>
    match v with
    | .flag b => .ok (.bool b)
    | .text s => .ok (.bool (flagText s))
    | .list _ => .error (.validation "boolean field expects a flag")
  | .date => do return .str (← readDateText (← t.formText v))
  | .timespan => do
    let parts ← match v with
      | .list parts => pure parts
      | .text start => pure [start]
      | .flag _ => throw (.validation "timespan field expects dates")
    return (← Timespan.ofParts parts).toJson
  | .geoPoint => do return (← GeoPoint.parse (← t.formText v)).toGeoJson
  | .file | .image => do return .str (← FilePath.validate (← t.formText v))
  | .link => do
    let raw := Text.trim (← t.formText v)
    if WebAddress.isWeb raw then return .str raw
    else throw (.validation ("not a web address: " ++ raw))
  | .crossReference => do
    let (uri, label) ← match v with
      | .list parts => pure (parts.headD "", parts[1]?)
      | .text uri => pure (uri, none)
      | .flag _ => throw (.validation "cross reference expects a URI")
    let x ← CrossReference.ofUri uri
    let x := match label with
      | some l => if Text.isBlankText l then x else { x with label := l }
      | none => x
    return x.toJson

/-- Store what a control holds: a blank control stores `null`, except for a flag. -/
def fromForm (t : FieldType) (v : FormValue) : Except ClientError Json :=
  if t != .boolean && v.isEmpty then .ok .null else t.storeValue v

theorem fromForm_blank (t : FieldType) (v : FormValue) (ht : t ≠ .boolean) (hv : v.isEmpty = true) :
    t.fromForm v = .ok .null := by
  unfold fromForm
  simp [ht, hv]

end FieldType

end CorpusBench
