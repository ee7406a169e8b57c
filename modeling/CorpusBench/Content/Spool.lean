import CorpusBench.Content.Record
import CorpusBench.Content.Query
import CorpusBench.Error
import CorpusBench.Content.View
import CorpusBench.Content.Bulk
import CorpusBench.Content.Neighborhood
import CorpusBench.Content.Uri
import CorpusBench.Jobs.Job

/-!
# Spooling a listing

Every record of a listing, page after page, over any way of fetching one page.  The first page
is page `1`; each following page is asked for by the token the page before carries, or else by
number.  The caller's own `page` and `page-token` pairs are dropped, and the page pair comes
last.  A listing with more pages than the cap fails instead of answering in part, before the
page beyond the cap is asked for.

## Main definitions

* `Spool.records` — every record of a listing.
* `Spool.standardCap` — the cap on pages when the caller sets none.
* `Api` — the operations.
* `Api.spool` — every record of a listing, page after page.

## Main results

* `Spool.records_zero` — with a cap of zero no page is fetched.
-/

namespace CorpusBench

namespace Spool

universe u

/-- The cap on the pages of a spool when the caller sets none. -/
def standardCap : Nat := 1000

/-- The failure of a listing with more pages than the cap. -/
def tooManyPages (contentType : String) (cap : Nat) : ClientError :=
  .invalidInput (contentType ++ " listing has more than " ++ toString cap ++ " pages; narrow the query")

/-- The pair that asks for a page: its token when there is one, else its number. -/
def pagePair (page : Nat) : Option String → String × String
  | some t => ("page-token", t)
  | none => ("page", toString page)

/-- Spool from page `page` (or the page of `token`) on, with `budget` pages left. -/
def pagesFrom {m : Type → Type u} [Monad m] (fetch : QueryPairs → m (Except ClientError ListPage))
    (contentType : String) (base : QueryPairs) (cap : Nat) :
    Nat → Nat → Option String → List ContentRecord → m (Except ClientError (List ContentRecord))
  | 0, _, _, _ => pure (.error (tooManyPages contentType cap))
  | budget + 1, page, token, acc => do
    match ← fetch (base ++ [pagePair page token]) with
    | .error e => pure (.error e)
    | .ok answer =>
      let acc := acc ++ answer.records
      if !answer.pageMeta.hasNextPage then pure (.ok acc)
      else pagesFrom fetch contentType base cap budget (page + 1) answer.pageMeta.nextPageToken acc

/-- Every record of a listing, with at most `cap` pages. -/
def records {m : Type → Type u} [Monad m] (fetch : QueryPairs → m (Except ClientError ListPage))
    (contentType : String) (params : QueryPairs) (cap : Nat) :
    m (Except ClientError (List ContentRecord)) :=
  let base := params.filter fun (k, _) => k != "page" && k != "page-token"
  pagesFrom fetch contentType base cap cap 1 none []

theorem records_zero {m : Type → Type u} [Monad m] (fetch : QueryPairs → m (Except ClientError ListPage))
    (contentType : String) (params : QueryPairs) :
    records fetch contentType params 0 = pure (.error (tooManyPages contentType 0)) := by
  simp [records, pagesFrom]

end Spool

/-! ### The API

The operations a corpus server offers, over any kind of effect: the in-memory server runs them
as programs over its state, the HTTP client as requests.  Every operation may fail with a
`ClientError`; spooling is derived from listing. -/

universe u

/-- The operations of the API, with the effect `m`. -/
structure Api (m : Type → Type u) where
  listContent : String → String → QueryPairs → m (Except ClientError ListPage)
  getContent : ContentUri → m (Except ClientError ContentRecord)
  createContent : String → String → Json.Fields → m (Except ClientError ContentRecord)
  networkJson : ContentUri → NetworkQuery → m (Except ClientError Neighborhood)
  contentView : String → ViewRequest → m (Except ClientError (Option ContentView))
  bulkAction : String → String → BulkRequest → m (Except ClientError Unit)
  listJobsites : m (Except ClientError (List Jobsite))
  listTasks : m (Except ClientError (List Task))
  getJob : String → m (Except ClientError Job)
  listContentJobs : ContentUri → m (Except ClientError (List Job))
  submitJob : JobSubmission → m (Except ClientError Job)
  retryJob : String → m (Except ClientError Job)

/-- Every record of a listing, with at most `cap` pages (see `Spool.records`). -/
def Api.spool {m : Type → Type u} [Monad m] (api : Api m) (corpusId contentType : String)
    (params : QueryPairs) (cap : Nat) : m (Except ClientError (List ContentRecord)) :=
  Spool.records (api.listContent corpusId contentType) contentType params cap

end CorpusBench
