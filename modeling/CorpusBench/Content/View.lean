import CorpusBench.Json.Decode

/-!
# Content views

A content view is a named, persisted subset of the records of one content type, defined by a
search.  Views are created from a search, refreshed and deleted through one request whose
`action` says which.

## Main definitions

* `ContentView`, `ViewAction`, `ViewRequest`.
-/

namespace CorpusBench

open RecordReader

/-- A content view as the server reports it. -/
structure ContentView where
  id : String
  name : String
  contentType : String
  status : Option String := none

namespace ContentView

def toJson (v : ContentView) : Json :=
  Json.mkObj [("id", .str v.id), ("name", .str v.name), ("content_type", .str v.contentType),
    ("status", Json.ofOption .str v.status)]

def decoder : Decoder ContentView := Decoder.record "ContentView" <|
  ContentView.mk <$> field "id" Decoder.string <*> field "name" Decoder.string
    <*> field "content_type" Decoder.string <*> optFieldOr "status" Decoder.string

end ContentView

/-- What a view request does. -/
inductive ViewAction where
  | create | refresh | delete
  deriving DecidableEq, Repr

namespace ViewAction

def name : ViewAction → String
  | .create => "create"
  | .refresh => "refresh"
  | .delete => "delete"

def decoder : Decoder ViewAction :=
  Decoder.unitEnum [("create", .create), ("refresh", .refresh), ("delete", .delete)]

end ViewAction

/-- The body of a view request. -/
structure ViewRequest where
  action : ViewAction
  viewId : Option String := none
  name : Option String := none
  contentType : Option String := none
  /-- The search parameters defining the view's members. -/
  search : StrMap String := []

namespace ViewRequest

/-- A request creating a view. -/
def create (name contentType : String) (search : StrMap String) : ViewRequest :=
  ⟨.create, none, some name, some contentType, search⟩

/-- A request refreshing a view. -/
def refresh (viewId : String) : ViewRequest := ⟨.refresh, some viewId, none, none, []⟩

/-- A request deleting a view. -/
def delete (viewId : String) : ViewRequest := ⟨.delete, some viewId, none, none, []⟩

/-- The members of a request; absent options and an empty search are left out. -/
def toJson (r : ViewRequest) : Json :=
  let opt (k : String) : Option String → List (String × Json)
    | some v => [(k, .str v)]
    | none => []
  Json.mkObj ([("action", .str r.action.name)] ++ opt "view_id" r.viewId ++ opt "name" r.name ++
    opt "content_type" r.contentType ++
    (if r.search.isEmpty then [] else [("search", .obj (r.search.map (fun (k, v) => (k, .str v))))]))

def decoder : Decoder ViewRequest := Decoder.record "ContentViewRequest" <|
  ViewRequest.mk <$> field "action" ViewAction.decoder <*> optFieldOr "view_id" Decoder.string
    <*> optFieldOr "name" Decoder.string <*> optFieldOr "content_type" Decoder.string
    <*> fieldOr "search" (Decoder.strMap Decoder.string) []

end ViewRequest

end CorpusBench
