import CorpusBench.Content.Query
import CorpusBench.Json.Decode
import CorpusBench.Text.Blank
import CorpusBench.Text.Numeral

/-!
# Search state

The search, sort and paging state of a content table: a free-text query, typed field
parameters keyed by their wire key (`f_author`, `r_year`), at most one sort field with its
direction, the page number and size or a cursor, and a content view.  Every list request sends
the whole state as query pairs; a bookmarked state is read back from such pairs.

A field parameter's key starts with the prefix of its search type: `f_` filter, `t_` term,
`p_` phrase, `w_` wildcard, `r_` range.  Every change to the search returns to the first page
and drops the cursor.

## Main definitions

* `SearchType`, `SortDirection`, `SearchState`.
* `SearchState.toPairs`, `SearchState.ofPairs`.
-/

namespace CorpusBench

/-- The semantics of a field parameter. -/
inductive SearchType where
  | filter | term | phrase | wildcard | range
  deriving DecidableEq, Repr, Inhabited

namespace SearchType

def all : List SearchType := [.filter, .term, .phrase, .wildcard, .range]

def name : SearchType → String
  | .filter => "filter"
  | .term => "term"
  | .phrase => "phrase"
  | .wildcard => "wildcard"
  | .range => "range"

/-- The key prefix of a search type. -/
def keyPrefix : SearchType → String
  | .filter => "f_"
  | .term => "t_"
  | .phrase => "p_"
  | .wildcard => "w_"
  | .range => "r_"

/-- The search type and field of a wire key such as `f_author`; the field must not be empty. -/
def splitKey (key : String) : Option (SearchType × String) :=
  all.findSome? fun t =>
    if key.startsWith t.keyPrefix then
      let field := String.ofList (key.toList.drop 2)
      if field.isEmpty then none else some (t, field)
    else none

def toJson (t : SearchType) : Json := .str t.name

def decoder : Decoder SearchType := Decoder.unitEnum (all.map (fun t => (t.name, t)))

end SearchType

/-- The direction of a sort. -/
inductive SortDirection where
  | asc | desc
  deriving DecidableEq, Repr, Inhabited

namespace SortDirection

def toggled : SortDirection → SortDirection
  | .asc => .desc
  | .desc => .asc

def name : SortDirection → String
  | .asc => "asc"
  | .desc => "desc"

/-- A direction by its exact name. -/
def ofText (s : String) : Except ClientError SortDirection :=
  match s with
  | "asc" => .ok .asc
  | "desc" => .ok .desc
  | other => .error (.invalidInput ("sort direction must be asc or desc, got: " ++ other))

def toJson (d : SortDirection) : Json := .str d.name

def decoder : Decoder SortDirection := Decoder.unitEnum [("asc", .asc), ("desc", .desc)]

theorem toggled_toggled (d : SortDirection) : d.toggled.toggled = d := by
  cases d <;> rfl

end SortDirection

/-- The search, sort and paging state of a table. -/
structure SearchState where
  query : Option String := none
  /-- Field parameters by wire key. -/
  params : StrMap String := []
  sort : Option (String × SortDirection) := none
  page : Nat := 1
  pageSize : Nat
  pageToken : Option String := none
  contentView : Option String := none

namespace SearchState

/-- Tables show fifty records a page unless configured otherwise. -/
def standardPageSize : Nat := 50

/-- A fresh state with the given page size (at least one). -/
def new (pageSize : Nat) : SearchState := { pageSize := max pageSize 1 }

/-- Back to the first page, without a cursor. -/
def resetPage (s : SearchState) : SearchState := { s with page := 1, pageToken := none }

/-- Set the query; a blank query clears it. -/
def setQuery (s : SearchState) (q : String) : SearchState :=
  let q := Text.trim q
  { s with query := if q.isEmpty then none else some q }.resetPage

/-- Set a field parameter; an empty value removes it. -/
def setParam (s : SearchState) (t : SearchType) (field value : String) : SearchState :=
  let key := t.keyPrefix ++ field
  { s with params := if value.isEmpty then s.params.erase key else s.params.insert key value }.resetPage

/-- Remove a parameter by wire key (`q`, `content_view`, `s_field` or a field key), returning
whether anything changed; the page is reset either way. -/
def removeParam (s : SearchState) (key : String) : SearchState × Bool :=
  let (s', removed) :=
    if key = "q" then ({ s with query := none }, s.query.isSome)
    else if key = "content_view" then ({ s with contentView := none }, s.contentView.isSome)
    else if key.startsWith "s_" then
      let field := String.ofList (key.toList.drop 2)
      match s.sort with
      | some (f, _) => if f = field then ({ s with sort := none }, true) else (s, false)
      | none => (s, false)
    else ({ s with params := s.params.erase key }, s.params.containsKey key)
  (s'.resetPage, removed)

/-- Sort by a field: ascending when newly chosen, the other direction when already sorted by
it. -/
def orderBy (s : SearchState) (field : String) : SearchState × SortDirection :=
  let d := match s.sort with
    | some (f, d) => if f = field then d.toggled else .asc
    | none => .asc
  ({ s with sort := some (field, d) }.resetPage, d)

def setContentView (s : SearchState) (view : Option String) : SearchState :=
  { s with contentView := view }.resetPage

/-- The parameters that define the search: field parameters, the query, the sort (`s_field`)
and the view, by key. -/
def searchParams (s : SearchState) : StrMap String :=
  let m := s.params
  let m := match s.query with
    | some q => m.insert "q" q
    | none => m
  let m := match s.sort with
    | some (f, d) => m.insert ("s_" ++ f) d.name
    | none => m
  match s.contentView with
  | some v => m.insert "content_view" v
  | none => m

/-- The whole state as query pairs: the search parameters by key, then the cursor or the page
number, then the page size. -/
def toPairs (s : SearchState) : QueryPairs :=
  s.searchParams ++
  (match s.pageToken with
   | some t => [("page-token", t)]
   | none => [("page", toString s.page)]) ++
  [("page-size", toString s.pageSize)]

/-- Read one pair into the state; unknown keys are ignored. -/
def applyPair (s : SearchState) (kv : String × String) : Except ClientError SearchState :=
  let (key, value) := kv
  match key with
  | "q" => .ok { s with query := some value }
  | "page" =>
    match readWord32? value with
    | some n => .ok { s with page := max n 1 }
    | none => .error (.invalidInput ("bad page: " ++ value))
  | "page-size" =>
    match readWord32? value with
    | some n => .ok { s with pageSize := max n 1 }
    | none => .error (.invalidInput ("bad page-size: " ++ value))
  | "page-token" => .ok { s with pageToken := some value }
  | "content_view" => .ok { s with contentView := some value }
  | _ =>
    if key.startsWith "s_" then do
      let d ← SortDirection.ofText value
      return { s with sort := some (String.ofList (key.toList.drop 2), d) }
    else if (SearchType.splitKey key).isSome then .ok { s with params := s.params.insert key value }
    else .ok s

/-- The state a list of query pairs describes, starting from the default state. -/
def ofPairs (pairs : QueryPairs) : Except ClientError SearchState :=
  pairs.foldlM applyPair (new standardPageSize)

def toJson (s : SearchState) : Json :=
  Json.mkObj [("q", Json.ofOption .str s.query),
    ("params", .obj (s.params.map (fun (k, v) => (k, .str v)))),
    ("sort", Json.ofOption (fun (f, d) => .arr [.str f, d.toJson]) s.sort),
    ("page", Json.ofNat s.page), ("page_size", Json.ofNat s.pageSize),
    ("page_token", Json.ofOption .str s.pageToken),
    ("content_view", Json.ofOption .str s.contentView)]

def decoder : Decoder SearchState := Decoder.record "SearchState" <|
  SearchState.mk <$> RecordReader.optField "q" Decoder.string
    <*> RecordReader.field "params" (Decoder.strMap Decoder.string)
    <*> RecordReader.optField "sort" (Decoder.pair Decoder.string SortDirection.decoder)
    <*> RecordReader.field "page" (Decoder.word .u32)
    <*> RecordReader.field "page_size" (Decoder.word .u32)
    <*> RecordReader.optField "page_token" Decoder.string
    <*> RecordReader.optField "content_view" Decoder.string

end SearchState

end CorpusBench
