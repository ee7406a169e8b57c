import CorpusBench.Client.Config
import CorpusBench.Client.Request
import CorpusBench.Content.Spool

/-!
# The HTTP client of the API

Every operation of the API as one HTTP request to the configured origin.  Paths are built from
their parts, each part in component encoding; query pairs are form-encoded; API requests carry
the bearer token when there is one, and documents fetched from elsewhere carry none.

| operation | request |
|---|---|
| `listContent c t` | `GET /api/corpus/<c>/<t>/` with the query pairs |
| `getContent u` | `GET /api/corpus/<c>/<t>/<id>/` |
| `createContent c t` | `POST /api/corpus/<c>/<t>/` with the fields |
| `networkJson u q` | `GET /api/corpus/<c>/<t>/<id>/network-json/` with the query's pairs |
| `contentView c r` | `POST /api/corpus/<c>/content-view/`; a deletion answers nothing |
| `bulkAction c t r` | `POST /api/corpus/<c>/<t>/bulk-action/` |
| `listJobsites`, `listTasks` | `GET /api/jobsites/`, `GET /api/tasks/` |
| `getJob j`, `retryJob j` | `GET /api/jobs/<j>/`, `POST /api/jobs/<j>/retry/` with `{}` |
| `listContentJobs u` | `GET /api/jobs/corpus/<c>/<t>/<id>/` |
| `submitJob s` | `POST /api/jobs/submit/` |

## Main definitions

* `HttpClient` — settings and the network they reach.
* `HttpClient.new` — a client for usable settings.
* The operations above, and `fetchExternalJson`, `fetchExternalText` for documents outside
  the API.
* `HttpClient.api` — the client as an implementation of the API.
-/

namespace CorpusBench

/-- A client of the API: its settings and the network it talks over. -/
structure HttpClient where
  config : ClientConfig
  network : Network

namespace HttpClient

/-- A client for settings that pass validation. -/
def new (config : ClientConfig) (network : Network) : Except ClientError HttpClient :=
  match config.validate with
  | .ok () => .ok ⟨config, network⟩
  | .error e => .error e.toClientError

/-- The address of an API path. -/
def address (c : HttpClient) (path : String) : String := c.config.baseUrl ++ path

/-- The path of the records of a type, each identifier written by the encoder `enc`; the
client's encoder is component encoding. -/
def contentPath (enc : String → String) (corpusId contentType : String) : String :=
  "/api/corpus/" ++ enc corpusId ++ "/" ++ enc contentType ++ "/"

/-- The path of one record. -/
def recordPath (enc : String → String) (u : ContentUri) : String :=
  contentPath enc u.corpusId u.contentType ++ enc u.contentId ++ "/"

/-- The path of the jobs run on a record. -/
def jobsPath (enc : String → String) (u : ContentUri) : String :=
  "/api/jobs/corpus/" ++ enc u.corpusId ++ "/" ++ enc u.contentType ++ "/" ++ enc u.contentId ++
    "/"

/-- An API request: the address, then the bearer token. -/
def apiRequest (c : HttpClient) (method : Method) (path : String) (query : QueryPairs)
    (body : Body) : Building :=
  let b := Request.start method (c.address path)
  let b := if method == .get then Request.withQuery query b else b
  let b := match body with
    | .json j => Request.withBody (.json j) (Request.withHeader "content-type" "application/json" b)
    | other => Request.withBody other b
  Request.withBearer c.config.token b

/-- A `GET` of a document of the API. -/
def getJson {α : Type} (c : HttpClient) (path : String) (query : QueryPairs) (d : Decoder α) :
    Except ClientError α := do
  (← c.network.fetch (c.apiRequest .get path query .empty)).decode d

/-- A `POST` of a document, answered by a document. -/
def postJson {α : Type} (c : HttpClient) (path : String) (body : Json) (d : Decoder α) :
    Except ClientError α := do
  (← c.network.fetch (c.apiRequest .post path [] (.json body))).decode d

/-- A `POST` of a document whose answer is only its status. -/
def postOnly (c : HttpClient) (path : String) (body : Json) : Except ClientError Unit := do
  let _ ← c.network.fetch (c.apiRequest .post path [] (.json body))
  return ()

/-- One page of the records of a type. -/
def listContent (c : HttpClient) (corpusId contentType : String) (params : QueryPairs) :
    Except ClientError ListPage :=
  c.getJson (contentPath Url.encodeComponent corpusId contentType) params ListPage.decoder

/-- One record. -/
def getContent (c : HttpClient) (u : ContentUri) : Except ClientError ContentRecord :=
  c.getJson (recordPath Url.encodeComponent u) [] ContentRecord.decoder

/-- Create a record. -/
def createContent (c : HttpClient) (corpusId contentType : String) (fields : Json.Fields) :
    Except ClientError ContentRecord :=
  c.postJson (contentPath Url.encodeComponent corpusId contentType) (.obj fields)
    ContentRecord.decoder

/-- The neighbourhood of a record. -/
def networkJson (c : HttpClient) (u : ContentUri) (q : NetworkQuery) : Except ClientError Neighborhood :=
  c.getJson (recordPath Url.encodeComponent u ++ "network-json/") q.toPairs Neighborhood.decoder

/-- Act on a content view; a deletion answers nothing. -/
def contentView (c : HttpClient) (corpusId : String) (r : ViewRequest) :
    Except ClientError (Option ContentView) :=
  let path := "/api/corpus/" ++ Url.encodeComponent corpusId ++ "/content-view/"
  if r.action == .delete then (fun () => none) <$> c.postOnly path r.toJson
  else some <$> c.postJson path r.toJson ContentView.decoder

/-- Act on a selection of records. -/
def bulkAction (c : HttpClient) (corpusId contentType : String) (r : BulkRequest) :
    Except ClientError Unit :=
  c.postOnly (contentPath Url.encodeComponent corpusId contentType ++ "bulk-action/") r.toJson

/-- The job sites. -/
def listJobsites (c : HttpClient) : Except ClientError (List Jobsite) :=
  c.getJson "/api/jobsites/" [] (Decoder.list Jobsite.decoder)

/-- The tasks. -/
def listTasks (c : HttpClient) : Except ClientError (List Task) :=
  c.getJson "/api/tasks/" [] (Decoder.list Task.decoder)

/-- One job. -/
def getJob (c : HttpClient) (jobId : String) : Except ClientError Job :=
  c.getJson ("/api/jobs/" ++ Url.encodeComponent jobId ++ "/") [] Job.decoder

/-- The jobs run on a record. -/
def listContentJobs (c : HttpClient) (u : ContentUri) : Except ClientError (List Job) :=
  c.getJson (jobsPath Url.encodeComponent u) [] (Decoder.list Job.decoder)

/-- Submit a job. -/
def submitJob (c : HttpClient) (s : JobSubmission) : Except ClientError Job :=
  c.postJson "/api/jobs/submit/" s.toJson Job.decoder

/-- Run a job again. -/
def retryJob (c : HttpClient) (jobId : String) : Except ClientError Job :=
  c.postJson ("/api/jobs/" ++ Url.encodeComponent jobId ++ "/retry/") (.obj []) Job.decoder

/-- The client as an implementation of the API; it runs each request at once. -/
def api (c : HttpClient) : Api Id :=
  { listContent := c.listContent, getContent := c.getContent, createContent := c.createContent,
    networkJson := c.networkJson, contentView := c.contentView, bulkAction := c.bulkAction,
    listJobsites := c.listJobsites, listTasks := c.listTasks, getJob := c.getJob,
    listContentJobs := c.listContentJobs, submitJob := c.submitJob, retryJob := c.retryJob }

/-- A document from any address, without credentials. -/
def fetchExternalJson {α : Type} (c : HttpClient) (address : String) (d : Decoder α) :
    Except ClientError α := do
  (← c.network.fetch (Request.start .get address)).decode d

/-- A text from any address, without credentials. -/
def fetchExternalText (c : HttpClient) (address : String) : Except ClientError String := do
  return (← c.network.fetch (Request.start .get address)).body

end HttpClient

end CorpusBench
