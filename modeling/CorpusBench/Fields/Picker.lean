import CorpusBench.Fields.FieldType
import CorpusBench.Server.Api

/-!
# Picking cross references

The search-as-you-type lookup behind a cross-reference field: the records of one type whose
text matches a query, sorted by label, one page of them; a blank query lists the first page.
A chosen reference is resolved by reading the record again, and must be of the picker's type.

## Main definitions

* `Picker` — the corpus, type and page size of a picker.
* `Picker.searchParams`, `Picker.search`, `Picker.resolve`.
-/

namespace CorpusBench

/-- A picker of references to records of one type. -/
structure Picker where
  corpusId : String
  contentType : String
  /-- At least one. -/
  pageSize : Nat := 10

namespace Picker

/-- The parameters of a search: the page size, the label order and the trimmed query when it
is not blank. -/
def searchParams (p : Picker) (query : String) : QueryPairs :=
  let q := Text.trim query
  [("page-size", toString p.pageSize), ("s_label", "asc")] ++ (if q.isEmpty then [] else [("q", q)])

/-- The references matching a query. -/
def search (p : Picker) (query : String) : Proc Server (Except ClientError (List CrossReference)) := do
  let r ← Server.listContent p.corpusId p.contentType (p.searchParams query)
  pure (r.map fun page => page.records.map CrossReference.ofRecord)

/-- Resolve a chosen reference by reading its record again. -/
def resolve (p : Picker) (uri : String) : Proc Server (Except ClientError CrossReference) :=
  match ContentUri.parse (Text.trim uri) with
  | .error e => pure (.error e)
  | .ok u =>
    if u.contentType != p.contentType then
      pure (.error (.validation ("expected a " ++ p.contentType ++ " reference, got a " ++ u.contentType)))
    else (·.map CrossReference.ofRecord) <$> Server.getContent u

end Picker

end CorpusBench
