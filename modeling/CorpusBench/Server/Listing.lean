import CorpusBench.Server.State
import CorpusBench.Text.Case
import CorpusBench.Text.Numeral

/-!
# Listing records

How the server answers a list request for one content type.  The request is a list of query
pairs:

* `q` keeps the records whose label contains the text, ignoring case;
* `f_x` keeps the records whose field `x` equals the value: a text field as it is, any other
  field in its JSON text;
* `content_view` keeps the members of a saved view (an unknown view keeps everything);
* the first `s_x` orders the records by label (`s_label`) or by the JSON text of field `x`
  (a missing field sorting as the empty text), the order being stable, and the value `desc`
  reverses the whole list;
* `page-token` (`tok-N`) or `page` picks the page, `page-size` its length (50 when absent or
  unreadable); both are at least 1.

## Main definitions

* `Server.recordMatches` — the filter of searches and of saved views.
* `Server.listing` — the records of a list request, in order.
* `Server.pageWindow` — one page of them with its metadata.
-/

namespace CorpusBench

namespace Server

/-- Whether `needle` occurs in `hay` as a run of consecutive characters. -/
def occursIn (needle : List Char) : List Char → Bool
  | [] => needle.isEmpty
  | c :: cs => needle.isPrefixOf (c :: cs) || occursIn needle cs

/-- The value of the first pair with the key. -/
def param? (params : QueryPairs) (key : String) : Option String :=
  (params.find? (·.1 == key)).map Prod.snd

/-- Whether a record passes every search pair: `q` against the label in lower case, `f_x`
against field `x`; other keys pass everything. -/
def recordMatches (r : ContentRecord) (params : QueryPairs) : Bool :=
  params.all fun (key, value) =>
    if key == "q" then
      occursIn (Text.lowerString value).toList (Text.lowerString r.label).toList
    else if key.startsWith "f_" then
      match r.fields.lookup (String.ofList (key.toList.drop 2)) with
      | some (.str s) => s == value
      | some other => other.compact == value
      | none => false
    else true

/-- The text a record sorts by for `s_x`: the label for `label`, else the JSON text of the
field, empty when missing. -/
def sortText (fieldName : String) (r : ContentRecord) : String :=
  if fieldName == "label" then r.label
  else match r.fields.lookup fieldName with
    | some v => v.compact
    | none => ""

/-- The records answering a list request, filtered and ordered, before paging. -/
def listing (s : Server) (contentType : String) (params : QueryPairs) : List ContentRecord :=
  let found := (s.recordsOf contentType).filter (recordMatches · params)
  let found := match (param? params "content_view").bind (s.views.lookup ·) with
    | some v => found.filter (fun r => v.members.contains r.id)
    | none => found
  match params.find? (·.1.startsWith "s_") with
  | none => found
  | some (key, dir) =>
    let fieldName := String.ofList (key.toList.drop 2)
    let sorted := found.mergeSort fun a b =>
      compare (sortText fieldName a) (sortText fieldName b) != .gt
    if dir == "desc" then sorted.reverse else sorted

/-- The page a list request asks for: from `page-token` `tok-N`, else from `page`, else 1,
and at least 1. -/
def pageOf (params : QueryPairs) : Except ClientError Nat :=
  match param? params "page-token", param? params "page" with
  | some token, _ =>
    match (if token.startsWith "tok-" then readWord32? (String.ofList (token.toList.drop 4)) else none) with
    | some n => .ok (max n 1)
    | none => .error (.validation ("bad page token " ++ token))
  | none, some p =>
    match readWord32? p with
    | some n => .ok (max n 1)
    | none => .error (.validation ("bad page " ++ p))
  | none, none => .ok 1

/-- The standard length of a list page. -/
def standardPageSize : Nat := 50

/-- The page length a list request asks for: `page-size` when it reads, else 50, and at
least 1. -/
def pageSizeOf (params : QueryPairs) : Nat :=
  max ((param? params "page-size" |>.bind readWord32?).getD standardPageSize) 1

/-- The number of pages of `total` records, `size` to a page. -/
def pageCount (total size : Nat) : Nat := (total + size - 1) / size

/-- One page of the records, with its metadata; with cursor paging a page that has a next one
carries the token `tok-{page + 1}`.  The offset of the page is a 32-bit product, which aborts
when it overflows. -/
def pageWindow (found : List ContentRecord) (page size : Nat) (cursor : Bool) :
    Except Abort ListPage := do
  let start ← mulWord (page - 1) size
  let total := found.length
  let pages := pageCount total size
  let hasNext := decide (page < pages)
  return {
    pageMeta := {
      total := total, page := page, pageSize := size, numPages := pages,
      hasNextPage := hasNext,
      nextPageToken := if cursor && hasNext then some ("tok-" ++ toString (page + 1)) else none }
    records := (found.drop start).take size }

end Server

end CorpusBench
