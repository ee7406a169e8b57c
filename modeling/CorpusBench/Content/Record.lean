import CorpusBench.Jobs.Job

/-!
# Content records and pages

A content record has an id, a URI, a label and a content type, the provenance of the jobs
that ran on it, and any number of further fields, kept as the server sent them.  List
endpoints answer with pages of records and the paging metadata.

## Main definitions

* `ContentRecord`, `PageMeta`, `ListPage` — with their
  `decoder` and `toJson`.
-/

namespace CorpusBench

open RecordReader

/-- One content record. -/
structure ContentRecord where
  id : String
  uri : String := ""
  label : String := ""
  contentType : String := ""
  provenance : List JobProvenance := []
  /-- Every member beyond the common ones, as sent. -/
  fields : Json.Fields := []

namespace ContentRecord

/-- The members of a record; its further fields come after the common ones and win over them. -/
def toJson (r : ContentRecord) : Json :=
  Json.mkObj ([("id", .str r.id), ("uri", .str r.uri), ("label", .str r.label),
    ("content_type", .str r.contentType)] ++
    (if r.provenance.isEmpty then []
     else [("provenance", .arr (r.provenance.map JobProvenance.toJson))]) ++
    r.fields)

def decoder : Decoder ContentRecord := Decoder.recordMap "ContentRecord" <|
  ContentRecord.mk <$> field "id" Decoder.string <*> fieldOr "uri" Decoder.string ""
    <*> fieldOr "label" Decoder.string "" <*> fieldOr "content_type" Decoder.string ""
    <*> fieldOr "provenance" (Decoder.list JobProvenance.decoder) []
    <*> flatten Decoder.object

end ContentRecord

/-- The paging metadata of a list answer. -/
structure PageMeta where
  total : Nat := 0
  page : Nat := 1
  pageSize : Nat := 0
  numPages : Nat := 0
  hasNextPage : Bool := false
  nextPageToken : Option String := none
  deriving Inhabited

namespace PageMeta

def toJson (m : PageMeta) : Json :=
  Json.mkObj ([("total", Json.ofNat m.total), ("page", Json.ofNat m.page),
    ("page_size", Json.ofNat m.pageSize), ("num_pages", Json.ofNat m.numPages),
    ("has_next_page", .bool m.hasNextPage)] ++
    (match m.nextPageToken with
     | some t => [("next_page_token", .str t)]
     | none => []))

def decoder : Decoder PageMeta := Decoder.record "PageMeta" <|
  PageMeta.mk <$> fieldOr "total" (Decoder.word .u64) 0 <*> fieldOr "page" (Decoder.word .u32) 1
    <*> fieldOr "page_size" (Decoder.word .u32) 0 <*> fieldOr "num_pages" (Decoder.word .u32) 0
    <*> fieldOr "has_next_page" Decoder.bool false <*> optFieldOr "next_page_token" Decoder.string

end PageMeta

/-- One page of a list answer. -/
structure ListPage where
  pageMeta : PageMeta
  records : List ContentRecord

namespace ListPage

def toJson (p : ListPage) : Json :=
  Json.mkObj [("meta", p.pageMeta.toJson), ("records", .arr (p.records.map ContentRecord.toJson))]

def decoder : Decoder ListPage := Decoder.record "ListPage" <|
  ListPage.mk <$> field "meta" PageMeta.decoder <*> field "records" (Decoder.list ContentRecord.decoder)

end ListPage

end CorpusBench
