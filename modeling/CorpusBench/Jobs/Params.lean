import CorpusBench.Content.Uri
import CorpusBench.Json.Decode
import CorpusBench.Text.Blank
import CorpusBench.Text.Case

/-!
# Task parameters

Each parameter of a task has a type tag that picks its form control, and each type reads its
raw text in its own way: flags accept the usual words for yes and no, reflowed text loses its
trailing blanks, corpus paths must stay inside the corpus, and cross references become the
URI, type and id of the record they name.

## Main definitions

* `ParameterType` — the nine parameter types, by tag.
* `parseFlag`, `reflowText`, `corpusPath`,
  `crossReferenceValue` — the readings of raw values.
-/

namespace CorpusBench

/-- The form control of a task parameter. -/
inductive ParameterType where
  | text | password | boolean | choice | corpusFile | corpusRepo | contentTypeRef
  | crossReference | pep8Text
  deriving DecidableEq, Repr, Inhabited

namespace ParameterType

/-- Every parameter type. -/
def all : List ParameterType :=
  [.text, .password, .boolean, .choice, .corpusFile, .corpusRepo, .contentTypeRef,
   .crossReference, .pep8Text]

/-- The tag a task gives a parameter of this type. -/
def tag : ParameterType → String
  | .text => "text"
  | .password => "password"
  | .boolean => "boolean"
  | .choice => "choice"
  | .corpusFile => "corpus_file"
  | .corpusRepo => "corpus_repo"
  | .contentTypeRef => "content_type"
  | .crossReference => "cross_reference"
  | .pep8Text => "pep8_text"

/-- The name of the type in documents, which differs from the tag only for content-type
references. -/
def wireName : ParameterType → String
  | .contentTypeRef => "content_type_ref"
  | t => t.tag

/-- The type of a tag; an unknown tag is an unsupported type. -/
def ofTag (t : String) : Except ClientError ParameterType :=
  match all.find? (fun p => p.tag == t) with
  | some p => .ok p
  | none => .error (.unsupportedType ("task parameter type: " ++ t))

/-- Whether values of this type are masked when shown. -/
def isSecret : ParameterType → Bool
  | .password => true
  | _ => false

def toJson (t : ParameterType) : Json := .str t.wireName

def decoder : Decoder ParameterType := Decoder.unitEnum (all.map (fun p => (p.wireName, p)))

theorem ofTag_tag (t : ParameterType) : ofTag t.tag = .ok t := by
  cases t <;> rfl

end ParameterType

/-- A checkbox-style flag: `true`, `yes`, `on`, `1`, `y` and `false`, `no`, `off`, `0`, `n` or
nothing, in any ASCII case and with blanks around. -/
def parseFlag (raw : String) : Except ClientError Bool :=
  match Text.asciiLowerString (Text.trim raw) with
  | "true" | "yes" | "on" | "1" | "y" => .ok true
  | "false" | "no" | "off" | "0" | "n" | "" => .ok false
  | other => .error (.validation ("not a boolean: " ++ other))

/-- The lines of a text: split at line feeds, a final line feed ending the last line. -/
def textLines (s : String) : List String :=
  if s.isEmpty then []
  else
    let parts := s.splitOn "\n"
    if s.endsWith "\n" then parts.dropLast else parts

/-- Reflowed text: every line without trailing blanks, and no blank lines at the end. -/
def reflowText (raw : String) : String :=
  let lines := (textLines raw).map Text.trimEnd
  let kept := (lines.reverse.dropWhile String.isEmpty).reverse
  "\n".intercalate kept

/-- A relative path inside the corpus file store: not empty, not absolute, and without a `..`
segment. -/
def corpusPath (raw : String) : Except ClientError String :=
  let path := Text.trim raw
  if path.isEmpty then .error (.validation "file path is empty")
  else if path.startsWith "/" || (path.splitOn "/").contains ".." then
    .error (.validation ("file path must stay inside the corpus: " ++ path))
  else .ok path

/-- The value submitted for a cross-reference parameter: the URI with its type and id. -/
def crossReferenceValue (u : ContentUri) : Json :=
  Json.mkObj [("uri", .str u.render), ("content_type", .str u.contentType),
    ("id", .str u.contentId)]

end CorpusBench
