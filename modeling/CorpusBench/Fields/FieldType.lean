import CorpusBench.Json.Decode
import CorpusBench.Text.Blank
import CorpusBench.Content.Record

/-!
# Field types and form values

Every field of a content type carries a type tag, and an editor holds a field's value as a
form value: a text, a flag, or a list of texts.

## Main definitions

* `FieldType` — the sixteen field types, with `tag`, `ofTag` and `isFileBacked`.
* `FormValue` — the values of editor controls, with `isEmpty` and `describe`.
* `CrossReference`, with `ofUri` and `ofRecord`.
-/

namespace CorpusBench

/-- The types a field may declare. -/
inductive FieldType where
  | text | largeText | keyword | html | number | decimal | boolean | date | timespan
  | geoPoint | file | image | iiifImage | link | crossReference | choice
  deriving DecidableEq, Repr, Inhabited

namespace FieldType

/-- Every field type, in the order of their tags' listing. -/
def all : List FieldType :=
  [.text, .largeText, .keyword, .html, .number, .decimal, .boolean, .date, .timespan,
   .geoPoint, .file, .image, .iiifImage, .link, .crossReference, .choice]

/-- The tag of a field type. -/
def tag : FieldType → String
  | .text => "text"
  | .largeText => "large_text"
  | .keyword => "keyword"
  | .html => "html"
  | .number => "number"
  | .decimal => "decimal"
  | .boolean => "boolean"
  | .date => "date"
  | .timespan => "timespan"
  | .geoPoint => "geo_point"
  | .file => "file"
  | .image => "image"
  | .iiifImage => "iiif_image"
  | .link => "link"
  | .crossReference => "cross_reference"
  | .choice => "choice"

/-- The field type of a tag; an unknown tag is an unsupported type. -/
def ofTag (t : String) : Except ClientError FieldType :=
  match all.find? (fun f => f.tag == t) with
  | some f => .ok f
  | none => .error (.unsupportedType ("field type: " ++ t))

/-- Whether the stored value is a path into the content's file store. -/
def isFileBacked : FieldType → Bool
  | .file | .image => true
  | _ => false

def toJson (f : FieldType) : Json := .str f.tag

def decoder : Decoder FieldType := Decoder.unitEnum (all.map (fun f => (f.tag, f)))

theorem ofTag_tag (f : FieldType) : ofTag f.tag = .ok f := by
  cases f <;> rfl

end FieldType

/-- A value as an editor control holds it. -/
inductive FormValue where
  | text (s : String)
  | flag (b : Bool)
  | list (items : List String)
  deriving DecidableEq, Repr, Inhabited

namespace FormValue

/-- The empty value of a text control. -/
def empty : FormValue := .text ""

/-- Whether the control holds nothing: blank text, or a list of blank texts; a flag always
holds something. -/
def isEmpty : FormValue → Bool
  | .text s => Text.isBlankText s
  | .flag _ => false
  | .list items => items.all Text.isBlankText

def toJson : FormValue → Json
  | .text s => .str s
  | .flag b => .bool b
  | .list items => .arr (items.map .str)

/-- A text, a flag, or an array of texts. -/
def decoder : Decoder FormValue :=
  Decoder.firstOf "FormValue"
    [fun j => FormValue.text <$> Decoder.string j, fun j => FormValue.flag <$> Decoder.bool j,
     fun j => FormValue.list <$> Decoder.list Decoder.string j]

/-- The value as messages describe it: `Text("a")`, `Bool(true)`, `List(["a", "b"])`. -/
def describe : FormValue → String
  | .text s => "Text(" ++ Text.quoteEscaped s ++ ")"
  | .flag b => "Bool(" ++ toString b ++ ")"
  | .list items => "List([" ++ ", ".intercalate (items.map Text.quoteEscaped) ++ "])"

end FormValue

/-! ### Cross references

The stored value of a cross-reference field: the id, label and URI of the record it points to.
A reference made from a URI alone takes the record's id as its label until a picker supplies
one. -/

/-- A link from one content record to another. -/
structure CrossReference where
  id : String
  label : String := ""
  uri : String
  deriving DecidableEq, Repr

namespace CrossReference

/-- A reference to the record a URI names (blanks around it ignored), labelled by its id. -/
def ofUri (s : String) : Except ClientError CrossReference := do
  let u ← ContentUri.parse (Text.trim s)
  return ⟨u.contentId, u.contentId, u.render⟩

/-- A reference to a record, with its label. -/
def ofRecord (r : ContentRecord) : CrossReference := ⟨r.id, r.label, r.uri⟩

def toJson (x : CrossReference) : Json :=
  Json.mkObj [("id", .str x.id), ("label", .str x.label), ("uri", .str x.uri)]

def decoder : Decoder CrossReference := Decoder.record "CrossReference" <|
  CrossReference.mk <$> RecordReader.field "id" Decoder.string
    <*> RecordReader.fieldOr "label" Decoder.string "" <*> RecordReader.field "uri" Decoder.string

end CrossReference

end CorpusBench
