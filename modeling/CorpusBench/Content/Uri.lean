import CorpusBench.Error
import CorpusBench.Json.Decode

/-!
# Content URIs

A piece of content is named by its corpus, its content type and its id, written
`/corpus/{corpus}/{type}/{id}`.  Reading a URI ignores slashes at either end and then needs
exactly the four segments `corpus`, corpus, type and id, the last three non-empty; nothing else
about the segments is checked (they may hold blanks, `?`, non-ASCII text).

## Main definitions

* `ContentUri` — the three parts.
* `ContentUri.parse`, `ContentUri.render` — reading and writing.

## Main results

* `ContentUri.render_ne_empty` — a rendered URI is never empty.
-/

namespace CorpusBench

/-- The identity of one piece of content. -/
structure ContentUri where
  corpusId : String
  contentType : String
  contentId : String
  deriving DecidableEq, Repr, Inhabited

namespace ContentUri

/-- The canonical text `/corpus/{corpus}/{type}/{id}`. -/
def render (u : ContentUri) : String :=
  "/corpus/" ++ u.corpusId ++ "/" ++ u.contentType ++ "/" ++ u.contentId

/-- A text without the slashes at either end. -/
def stripSlashes (s : String) : String :=
  let cs := s.toList.dropWhile (· = '/')
  String.ofList (cs.reverse.dropWhile (· = '/')).reverse

/-- The pieces of a text between its slashes.  Irreducible, so that elaborating the programs
that read URIs never computes on the characters of a text. -/
@[irreducible] def segments (s : String) : List String := (s.toList.splitOn '/').map String.ofList

/-- Read a URI, or fail with `not a content URI: {s}`. -/
def parse (s : String) : Except ClientError ContentUri :=
  match segments (stripSlashes s) with
  | ["corpus", c, t, i] =>
    if c ≠ "" ∧ t ≠ "" ∧ i ≠ "" then .ok ⟨c, t, i⟩
    else .error (.invalidInput ("not a content URI: " ++ s))
  | _ => .error (.invalidInput ("not a content URI: " ++ s))

/-- Whether a text reads as a URI. -/
def isValid (s : String) : Bool := (parse s).toBool

/-- URIs in the order of corpus, then type, then id. -/
def compareUri (a b : ContentUri) : Ordering :=
  match compare a.corpusId b.corpusId with
  | .eq =>
    match compare a.contentType b.contentType with
    | .eq => compare a.contentId b.contentId
    | o => o
  | o => o

instance : Ord ContentUri := ⟨compareUri⟩

theorem render_ne_empty (u : ContentUri) : u.render ≠ "" := by
  intro h
  have := congrArg String.length h
  simp [render] at this

end ContentUri

namespace ContentUri

/-- A URI as a document: its canonical text. -/
def toJson (u : ContentUri) : Json := .str u.render

/-- A URI from its text; a text that is not a URI is refused with the reading's message. -/
def decoder : Decoder ContentUri := fun j => do
  let s ← Decoder.string j
  match parse s with
  | .ok u => .ok u
  | .error e => .error (.custom e.message)

end ContentUri

end CorpusBench
