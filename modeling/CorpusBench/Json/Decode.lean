import CorpusBench.Text.Numeral
import CorpusBench.Decimal.Text
import CorpusBench.Error
import CorpusBench.Json.Value
import CorpusBench.Text.Escaped

/-!
# Decoding documents into wire types

A wire type is read from a JSON document by a `Decoder`, which either yields the value or says
exactly why the document does not have the type's shape.  The faults and their texts are part
of what a client reports, so the order in which a decoder looks at a document is fixed:

* a record reads the members of an object in key order, checking each member it knows and
  skipping the others; only then does it look for members that are missing, in the order the
  record declares its fields;
* a record may also be written as an array of its fields in declaration order;
* an enumeration is written as its variant's name, or as an object with one member from the
  variant's name to its payload (*externally tagged*); as an object whose member `tag` names
  the variant and whose other members are the payload (*internally tagged*); or as an object
  with a member `tag` naming the variant and a member `content` holding the payload
  (*adjacently tagged*);
* a choice between shapes (*untagged*) takes the first shape that fits.

## Main definitions

* `Found`, `DecodeError` — what was found, and the fault.
* `Decoder` — decoders, with the primitive ones in the `Decoder` namespace.
* `RecordReader` — an applicative reader of records, built from `field`,
  `fieldOr`, `optField` and `flatten`.
* `Decoder.record`, `externalTag`, `internalTag`, `adjacentTag`, `firstOf` — the
  shapes of records and enumerations.

## Design

A record reader carries two things: the rule of every member it knows (its name, how a present
value is checked, whether absence is a fault) and the builder that reads the record once the
rules have passed.  The rules make the order of faults independent of the order in which the
builder reads the fields.
-/

namespace CorpusBench

/-- What a decoder found where it expected something else. -/
inductive Found where
  | null
  | bool (b : Bool)
  | unsigned (n : Nat)
  | signed (n : Int)
  | float (x : Float)
  | str (s : String)
  | seq
  | map
  | unitVariant
  | newtypeVariant

namespace Found

/-- What a document is, for a message. -/
def ofJson : Json → Found
  | .null => .null
  | .bool b => .bool b
  | .num (.nat n) => .unsigned n
  | .num (.neg n) => .signed n
  | .num (.float x) => .float x
  | .str s => .str s
  | .arr _ => .seq
  | .obj _ => .map

/-- The description of what was found. -/
def text : Found → String
  | .null => "null"
  | .bool b => "boolean `" ++ toString b ++ "`"
  | .unsigned n => "integer `" ++ toString n ++ "`"
  | .signed n => "integer `" ++ toString n ++ "`"
  | .float x => "floating point `" ++ Float.documentText x ++ "`"
  | .str s => "string " ++ Text.quoteEscaped s
  | .seq => "sequence"
  | .map => "map"
  | .unitVariant => "unit variant"
  | .newtypeVariant => "newtype variant"

end Found

/-- Why a document does not decode. -/
inductive DecodeError where
  /-- A value of the wrong kind. -/
  | invalidType (found : Found) (expected : String)
  /-- A value of the right kind outside the accepted values. -/
  | invalidValue (found : Found) (expected : String)
  /-- A sequence of the wrong length. -/
  | invalidLength (length : Nat) (expected : String)
  | missingField (name : String)
  | duplicateField (name : String)
  /-- A variant name outside the listed ones. -/
  | unknownVariant (name : String) (choices : List String)
  /-- A fault described by the type itself. -/
  | custom (text : String)

namespace DecodeError

/-- The listed names: "`a`", "`a` or `b`", or "one of `a`, `b`, `c`". -/
def oneOf (names : List String) : String :=
  let ticked := names.map (fun n => "`" ++ n ++ "`")
  match ticked with
  | [a] => a
  | [a, b] => a ++ " or " ++ b
  | _ => "one of " ++ ", ".intercalate ticked

/-- The text of a fault. -/
def message : DecodeError → String
  | .invalidType f e => "invalid type: " ++ f.text ++ ", expected " ++ e
  | .invalidValue f e => "invalid value: " ++ f.text ++ ", expected " ++ e
  | .invalidLength n e => "invalid length " ++ toString n ++ ", expected " ++ e
  | .missingField n => "missing field `" ++ n ++ "`"
  | .duplicateField n => "duplicate field `" ++ n ++ "`"
  | .unknownVariant n [] => "unknown variant `" ++ n ++ "`, there are no variants"
  | .unknownVariant n cs => "unknown variant `" ++ n ++ "`, expected " ++ oneOf cs
  | .custom t => t

/-- The client error of a document that does not decode. -/
def toClient (e : DecodeError) : ClientError := .serialization e.message

end DecodeError

/-- A reader of one wire type from a document. -/
abbrev Decoder (α : Type) := Json → Except DecodeError α

/-- Decode, reporting a fault as a client error. -/
def Decoder.run {α : Type} (d : Decoder α) (j : Json) : Except ClientError α :=
  (d j).mapError DecodeError.toClient

namespace Decoder

/-- The fault of a document of the wrong kind. -/
def mismatch {α : Type} (expected : String) (j : Json) : Except DecodeError α :=
  .error (.invalidType (Found.ofJson j) expected)

/-- Any document, as it is. -/
def any : Decoder Json := fun j => .ok j

/-- A string. -/
def string : Decoder String
  | .str s => .ok s
  | j => mismatch "a string" j

/-- A flag. -/
def bool : Decoder Bool
  | .bool b => .ok b
  | j => mismatch "a boolean" j

/-- An unsigned integer of a width; a negative integer or one too wide is refused as a value,
a double as a type. -/
def word (w : Width) : Decoder Nat
  | .num (.nat n) => if n ≤ w.max then .ok n else .error (.invalidValue (.unsigned n) w.name)
  | .num (.neg n) => .error (.invalidValue (.signed n) w.name)
  | j => mismatch w.name j

/-- A double, from a number of any kind. -/
def float : Decoder Float
  | .num n => .ok n.toFloat
  | j => mismatch "f64" j

/-- An optional value: `null` is absent. -/
def option {α : Type} (d : Decoder α) : Decoder (Option α)
  | .null => .ok none
  | j => some <$> d j

/-- An array whose items decode, checked in order. -/
def list {α : Type} (d : Decoder α) : Decoder (List α)
  | .arr items => items.mapM d
  | j => mismatch "a sequence" j

/-- An object, kept as it is. -/
def object : Decoder Json.Fields
  | .obj fs => .ok fs
  | j => mismatch "a map" j

/-- An object whose values decode, checked in key order. -/
def strMap {α : Type} (d : Decoder α) : Decoder (StrMap α)
  | .obj fs => fs.mapM (fun (k, v) => do return (k, ← d v))
  | j => mismatch "a map" j

/-- A set of strings, written as an array. -/
def strSet : Decoder StrSet := fun j => do return StrSet.ofList (← list string j)

/-- A pair written as a two-item array. -/
def pair {α β : Type} (da : Decoder α) (db : Decoder β) : Decoder (α × β)
  | .arr [] => .error (.invalidLength 0 "a tuple of size 2")
  | .arr [a] => do
    let _ ← da a
    .error (.invalidLength 1 "a tuple of size 2")
  | .arr (a :: b :: rest) => do
    let x ← da a
    let y ← db b
    if rest.isEmpty then .ok (x, y)
    else .error (.invalidLength (rest.length + 2) "fewer elements in array")
  | j => mismatch "a tuple of size 2" j

/-- The name of a variant among `choices`. -/
def variantName (choices : List String) : Decoder String
  | .str s => if choices.contains s then .ok s else .error (.unknownVariant s choices)
  | j => mismatch "variant identifier" j

/-- The first decoder that accepts the document; when none does, the choice named `name` did
not match. -/
def firstOf {α : Type} (name : String) : List (Decoder α) → Decoder α
  | [], _ => .error (.custom ("data did not match any variant of untagged enum " ++ name))
  | d :: ds, j =>
    match d j with
    | .ok a => .ok a
    | .error _ => firstOf name ds j

end Decoder

/-- The rule of one record member: its names, the check of a present value, and whether its
absence is a fault in an object and in an array. -/
structure FieldRule where
  name : String
  aliases : List String := []
  check : Json → Option DecodeError
  /-- Absence from an object is a fault: the field has no default and is not optional. -/
  required : Bool
  /-- Absence from an array is a fault: the field has no default. -/
  positional : Bool

namespace FieldRule

/-- Whether the rule reads the member `k`. -/
def reads (r : FieldRule) (k : String) : Bool := r.name == k || r.aliases.contains k

end FieldRule

/-- A reader of a record from the members of an object: the rules of the members it knows and
the builder.  The builder is handed the rules of the whole record, so that a flattened part
can take the members no rule reads. -/
structure RecordReader (α : Type) where
  rules : List FieldRule
  build : List FieldRule → Json.Fields → Except DecodeError α

namespace RecordReader

instance : Functor RecordReader where
  map f r := ⟨r.rules, fun all fs => f <$> r.build all fs⟩

instance : Applicative RecordReader where
  pure a := ⟨[], fun _ _ => .ok a⟩
  seq rf rx :=
    let x := rx ()
    ⟨rf.rules ++ x.rules, fun all fs => do
      let f ← rf.build all fs
      let a ← x.build all fs
      return f a⟩

/-- The value of the member a rule reads, under its name or an alias. -/
def memberOf (r : FieldRule) (fs : Json.Fields) : Option Json :=
  (fs.find? (fun (k, _) => r.reads k)).map Prod.snd

/-- The check of a present value by a decoder. -/
def checkWith {α : Type} (d : Decoder α) (j : Json) : Option DecodeError :=
  match d j with
  | .ok _ => none
  | .error e => some e

/-- A field that must be present. -/
def field {α : Type} (name : String) (d : Decoder α) (aliases : List String := []) :
    RecordReader α :=
  let rule : FieldRule := ⟨name, aliases, checkWith d, true, true⟩
  ⟨[rule], fun _ fs =>
    match memberOf rule fs with
    | some j => d j
    | none => .error (.missingField name)⟩

/-- A field with a default when absent (an explicit `null` is still checked). -/
def fieldOr {α : Type} (name : String) (d : Decoder α) (default : α) : RecordReader α :=
  let rule : FieldRule := ⟨name, [], checkWith d, false, false⟩
  ⟨[rule], fun _ fs =>
    match memberOf rule fs with
    | some j => d j
    | none => .ok default⟩

/-- An optional field: absent or `null` is `none`; in an array it must be present. -/
def optField {α : Type} (name : String) (d : Decoder α) : RecordReader (Option α) :=
  let rule : FieldRule := ⟨name, [], checkWith (Decoder.option d), false, true⟩
  ⟨[rule], fun _ fs =>
    match memberOf rule fs with
    | some j => Decoder.option d j
    | none => .ok none⟩

/-- An optional field with a default: absent or `null` is `none`, also in an array. -/
def optFieldOr {α : Type} (name : String) (d : Decoder α) : RecordReader (Option α) :=
  let rule : FieldRule := ⟨name, [], checkWith (Decoder.option d), false, false⟩
  ⟨[rule], fun _ fs =>
    match memberOf rule fs with
    | some j => Decoder.option d j
    | none => .ok none⟩

/-- The members that no rule of the record reads, decoded as one object. -/
def flatten {α : Type} (d : Decoder α) : RecordReader α :=
  ⟨[], fun all fs => d (.obj (fs.filter (fun (k, _) => !all.any (fun r => r.reads k))))⟩

/-- The first fault of an object's members, in key order: a member read twice (under a name
and an alias) or a value its rule refuses. -/
def memberFault (rules : List FieldRule) : List (String × Json) → List String → Option DecodeError
  | [], _ => none
  | (k, v) :: rest, seen =>
    match rules.find? (fun r => r.reads k) with
    | none => memberFault rules rest seen
    | some r =>
      if seen.contains r.name then some (.duplicateField r.name)
      else
        match r.check v with
        | some e => some e
        | none => memberFault rules rest (r.name :: seen)

/-- The first required field that no member gives, in declaration order. -/
def missingFault (rules : List FieldRule) (fs : Json.Fields) : Option DecodeError :=
  (rules.find? (fun r => r.required && !fs.any (fun (k, _) => r.reads k))).map
    (fun r => .missingField r.name)

/-- Read a record from the members of an object. -/
def ofFields {α : Type} (r : RecordReader α) (fs : Json.Fields) : Except DecodeError α :=
  match memberFault r.rules fs [] with
  | some e => .error e
  | none =>
    match missingFault r.rules fs with
    | some e => .error e
    | none => r.build r.rules fs

/-- The first fault of a record written as an array of its fields, in declaration order; the
expectation text describes the record. -/
def itemFault (expected : String) : List FieldRule → List Json → Nat → Option DecodeError
  | [], [], _ => none
  | [], extra, n => some (.invalidLength (n + extra.length) "fewer elements in array")
  | r :: rs, [], n =>
    if r.positional then some (.invalidLength n expected) else itemFault expected rs [] (n + 1)
  | r :: rs, j :: js, n =>
    match r.check j with
    | some e => some e
    | none => itemFault expected rs js (n + 1)

/-- Read a record from an array of its fields in declaration order. -/
def ofItems {α : Type} (r : RecordReader α) (expected : String) (items : List Json) :
    Except DecodeError α :=
  match itemFault expected r.rules items 0 with
  | some e => .error e
  | none => r.build r.rules (r.rules.zip items |>.map (fun (rule, j) => (rule.name, j)))

/-- "N elements", for a record's expectation text. -/
def elementCount (n : Nat) : String :=
  toString n ++ (if n = 1 then " element" else " elements")

end RecordReader

namespace Decoder

/-- A record named `name`, from an object or from an array of its fields. -/
def record {α : Type} (name : String) (r : RecordReader α) : Decoder α
  | .obj fs => r.ofFields fs
  | .arr items =>
    r.ofItems ("struct " ++ name ++ " with " ++ RecordReader.elementCount r.rules.length) items
  | j => mismatch ("struct " ++ name) j

/-- A record named `name` with a flattened part, from an object only. -/
def recordMap {α : Type} (name : String) (r : RecordReader α) : Decoder α
  | .obj fs => r.ofFields fs
  | j => mismatch ("struct " ++ name) j

/-- The variant and payload of an externally tagged value: a variant name alone, or an object
with one member from the variant name to its payload. -/
def externalTag (choices : List String) : Json → Except DecodeError (String × Option Json)
  | .str s => if choices.contains s then .ok (s, none) else .error (.unknownVariant s choices)
  | .obj [(k, v)] =>
    if choices.contains k then .ok (k, some v) else .error (.unknownVariant k choices)
  | .obj _ => .error (.invalidValue .map "map with a single key")
  | j => mismatch "string or map" j

/-- The payload of a variant without data: absent or `null`. -/
def unitPayload : Option Json → Except DecodeError Unit
  | none => .ok ()
  | some .null => .ok ()
  | some j => mismatch "unit" j

/-- The payload of a variant holding one value. -/
def newtypePayload {α : Type} (d : Decoder α) : Option Json → Except DecodeError α
  | none => .error (.invalidType .unitVariant "newtype variant")
  | some j => d j

/-- An enumeration of variants without data, each written as its name (or as an object from
its name to `null`). -/
def unitEnum {α : Type} (variants : List (String × α)) : Decoder α := fun j => do
  let (name, payload) ← externalTag (variants.map Prod.fst) j
  unitPayload payload
  match variants.lookup name with
  | some a => .ok a
  | none => .error (.unknownVariant name (variants.map Prod.fst))

/-- An internally tagged enumeration named `enum`: the member `tag` names the variant among
`choices`, and `payload` reads the variant from the remaining members (or, for an array, from
the items after the first). -/
def internalTag {α : Type} (enum tag : String) (choices : List String)
    (payload : String → Json → Except DecodeError α) : Decoder α
  | .obj fs =>
    match fs.lookup tag with
    | none => .error (.missingField tag)
    | some t => do
      let name ← variantName choices t
      payload name (.obj (fs.filter (fun (k, _) => k != tag)))
  | .arr [] => .error (.missingField tag)
  | .arr (t :: rest) => do payload (← variantName choices t) (.arr rest)
  | j => mismatch ("internally tagged enum " ++ enum) j

/-- An adjacently tagged enumeration named `enum`: the member `tag` names the variant among
`choices` and the member `content` holds its payload, if any. -/
def adjacentTag {α : Type} (enum tag content : String) (choices : List String)
    (payload : String → Option Json → Except DecodeError α) : Decoder α
  | .obj fs =>
    let relevant := fs.filter (fun (k, _) => k == tag || k == content)
    match relevant with
    | [] => .error (.missingField tag)
    | [(k, v)] =>
      if k == tag then do payload (← variantName choices v) none
      else .error (.missingField tag)
    | (k1, v1) :: (_, v2) :: _ =>
      if k1 == tag then do payload (← variantName choices v1) (some v2)
      else do payload (← variantName choices v2) (some v1)
  | .arr [] => .error (.invalidLength 0 ("adjacently tagged enum " ++ enum))
  | .arr [t] => do
    let _ ← variantName choices t
    .error (.invalidLength 1 ("adjacently tagged enum " ++ enum))
  | .arr (t :: c :: rest) => do
    let a ← payload (← variantName choices t) (some c)
    if rest.isEmpty then .ok a
    else .error (.invalidLength (rest.length + 2) "fewer elements in array")
  | j => mismatch ("adjacently tagged enum " ++ enum) j

end Decoder

end CorpusBench
