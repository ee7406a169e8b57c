import CorpusBench.Command.Core
import CorpusBench.Content.Spool

/-!
# API calls as commands

The steps that call one operation of the API, read from their members once and run on any
implementation of the API: the in-memory server (`mock_api`) or the HTTP client (`http`).
A URI that does not read as one fails the call itself, before anything is asked.

## Main definitions

* `Command.ApiCall` — an operation with its arguments.
* `Command.ApiCall.read?` — the call a step names, when it names one.
* `Command.ApiCall.run` — run a call, its answer as a document.
-/

namespace CorpusBench

namespace Command

/-- An operation of the API with its arguments. -/
inductive ApiCall where
  | listContent (corpusId contentType : String) (params : QueryPairs)
  | getContent (uri : ContentUri)
  | createContent (corpusId contentType : String) (fields : Json.Fields)
  | networkJson (uri : ContentUri) (query : NetworkQuery)
  | contentView (corpusId : String) (request : ViewRequest)
  | bulkAction (corpusId contentType : String) (request : BulkRequest)
  | getJob (jobId : String)
  | listContentJobs (uri : ContentUri)
  | submitJob (submission : JobSubmission)
  | retryJob (jobId : String)
  | listJobsites
  | listTasks
  | spool (corpusId contentType : String) (params : QueryPairs) (cap : Nat)

namespace ApiCall

/-- The URI of a step; one that does not read fails the call. -/
def uriArg (req : Json) : Step ContentUri := do liftClient (ContentUri.parse (← Args.str req "uri"))

/-- The call a step names, with its arguments; none for a step that is no API call. -/
def read? (op : String) (req : Json) : Option (Step ApiCall) :=
  match op with
  | "list_content" => some do
    return .listContent (← Args.str req "corpus_id") (← Args.str req "content_type")
      (← Args.pairsOr req "params")
  | "get_content" => some do return .getContent (← uriArg req)
  | "create_content" => some do
    return .createContent (← Args.str req "corpus_id") (← Args.str req "content_type")
      (← Args.objectOr req "fields")
  | "network_json" => some do
    let q ← Core.networkQuery req
    return .networkJson (← uriArg req) q
  | "content_view" => some do
    let corpusId ← Args.str req "corpus_id"
    return .contentView corpusId (← Args.decodeWith "request" ViewRequest.decoder (← Args.value req "request"))
  | "bulk_action" => some do
    let corpusId ← Args.str req "corpus_id"
    let ct ← Args.str req "content_type"
    return .bulkAction corpusId ct (← Args.decodeWith "request" BulkRequest.decoder (← Args.value req "request"))
  | "get_job" => some do return .getJob (← Args.str req "job_id")
  | "list_content_jobs" => some do return .listContentJobs (← uriArg req)
  | "submit_job" => some do
    return .submitJob (← Args.decodeWith "submission" JobSubmission.decoder (← Args.value req "submission"))
  | "retry_job" => some do return .retryJob (← Args.str req "job_id")
  | "list_jobsites" => some (.ok .listJobsites)
  | "list_tasks" => some (.ok .listTasks)
  | "spool" => some do
    return .spool (← Args.str req "corpus_id") (← Args.str req "content_type")
      (← Args.pairsOr req "params") (← Args.natOr req "max_pages" .usize Spool.standardCap)
  | _ => none

universe u

/-- Run a call on an implementation of the API; the answer as a document. -/
def run {m : Type → Type u} [Monad m] (api : Api m) : ApiCall → m (Except ClientError Json)
  | .listContent c t ps => (·.map ListPage.toJson) <$> api.listContent c t ps
  | .getContent u => (·.map ContentRecord.toJson) <$> api.getContent u
  | .createContent c t fs => (·.map ContentRecord.toJson) <$> api.createContent c t fs
  | .networkJson u q => (·.map Neighborhood.toJson) <$> api.networkJson u q
  | .contentView c r => (·.map (Json.ofOption ContentView.toJson)) <$> api.contentView c r
  | .bulkAction c t r => (·.map fun () => Json.null) <$> api.bulkAction c t r
  | .getJob j => (·.map Job.toJson) <$> api.getJob j
  | .listContentJobs u => (·.map fun js => .arr (js.map Job.toJson)) <$> api.listContentJobs u
  | .submitJob s => (·.map Job.toJson) <$> api.submitJob s
  | .retryJob j => (·.map Job.toJson) <$> api.retryJob j
  | .listJobsites => (·.map fun xs => .arr (xs.map Jobsite.toJson)) <$> api.listJobsites
  | .listTasks => (·.map fun xs => .arr (xs.map Task.toJson)) <$> api.listTasks
  | .spool c t ps cap =>
    (·.map fun rs => .arr (rs.map fun r => .str r.id)) <$> api.spool c t ps cap

end ApiCall

end Command

end CorpusBench
