import CorpusBench.Content.Record
import CorpusBench.Content.Query
import CorpusBench.Json.Write

/-!
# The in-memory server

A whole corpus held in memory, answering every operation of the API the way the server does:
the engines of the client (the graph explorer, the content table, the job manager) run
against it.  It holds

* the content records by type and id,
* undirected relationships between records, each with the title of the field it goes
  through,
* saved views (a content type and a set of member ids),
* jobs by id, the job sites and the tasks,
* the URIs whose neighbourhood requests fail, and the delays of its answers,
* a log of every request it received, and one counter that numbers the ids it makes up.

This module has the state and the changes made to it directly; the request handlers are in
`Server.Api`.

## Main definitions

* `Link`, `StoredView`, `Call`.
* `Server` — the state.
* `Server.insertRecord`, `Server.addLink` — building a corpus.
* `Server.finishJob` — ending a job on the server's side, with its provenance.
-/

namespace CorpusBench

/-- An undirected relationship between two records; `title` names the field it goes
through. -/
structure Link where
  source : ContentUri
  target : ContentUri
  title : String

/-- A saved view: the content type of its members and their ids. -/
structure StoredView where
  contentType : String
  members : StrSet

/-- One request the server received: the operation, its target and its parameters. -/
structure Call where
  operation : String
  target : String
  params : QueryPairs := []

namespace Call

/-- `{operation, target, params: [[k, v]...]}`. -/
def toJson (c : Call) : Json :=
  Json.mkObj [("operation", .str c.operation), ("target", .str c.target),
    ("params", .arr (c.params.map fun (k, v) => .arr [.str k, .str v]))]

end Call

/-- The state of the in-memory server. -/
structure Server where
  corpusId : String := "42"
  /-- Content type to id to record. -/
  records : StrMap (StrMap ContentRecord) := []
  links : List Link := []
  views : StrMap StoredView := []
  /-- Jobs by id. -/
  jobs : StrMap Job := []
  jobsites : List Jobsite := []
  tasks : List Task := []
  /-- The URIs (as text) whose neighbourhood requests fail with a reset connection. -/
  failing : StrSet := []
  /-- List page number to the delay of its answer, in milliseconds. -/
  listDelays : List (Nat × Nat) := []
  /-- The delay of every neighbourhood answer. -/
  networkDelay : Option Nat := none
  /-- The delay of every single-job fetch. -/
  jobDelay : Option Nat := none
  /-- Whether list pages carry a token for the next page. -/
  cursorPaging : Bool := false
  /-- The last number given to a made-up id (`new-N`, `view-N`, `job-N`). -/
  lastId : Nat := 0
  /-- Every request received, oldest first. -/
  calls : List Call := []

namespace Server

/-- The URI of a record of this server's corpus. -/
def uri (s : Server) (contentType contentId : String) : ContentUri :=
  ⟨s.corpusId, contentType, contentId⟩

/-- The record of a type and an id. -/
def record? (s : Server) (contentType contentId : String) : Option ContentRecord :=
  (s.records.lookup contentType).bind (·.lookup contentId)

/-- The records of a type, in id order. -/
def recordsOf (s : Server) (contentType : String) : List ContentRecord :=
  ((s.records.lookup contentType).getD []).map Prod.snd

/-- The number of records of a type. -/
def recordCount (s : Server) (contentType : String) : Nat := (s.recordsOf contentType).length

/-- The label of the record a URI names, or its id when there is no such record; the corpus
of the URI is not looked at. -/
def labelOf (s : Server) (u : ContentUri) : String :=
  match s.record? u.contentType u.contentId with
  | some r => r.label
  | none => u.contentId

/-- Store a record, replacing any record of the same type and id. -/
def insertRecord (s : Server) (contentType contentId label : String) (fields : Json.Fields) :
    Server :=
  let r : ContentRecord :=
    { id := contentId, uri := (s.uri contentType contentId).render, label := label,
      contentType := contentType, provenance := [], fields := fields }
  let byId := (s.records.lookup contentType).getD []
  { s with records := s.records.insert contentType (byId.insert contentId r) }

/-- Change the records of a type. -/
def modifyRecords (s : Server) (contentType : String) (f : StrMap ContentRecord → StrMap ContentRecord) :
    Server :=
  { s with records := s.records.modify contentType f }

/-- Add a relationship between two records of this corpus. -/
def addLink (s : Server) (fromType fromId toType toId title : String) : Server :=
  { s with links := s.links ++ [⟨s.uri fromType fromId, s.uri toType toId, title⟩] }

/-- Make neighbourhood requests for a URI fail. -/
def failNetworkFor (s : Server) (u : ContentUri) : Server :=
  { s with failing := StrSet.insert u.render s.failing }

/-- Record a request in the log. -/
def log (s : Server) (operation target : String) (params : QueryPairs) : Server :=
  { s with calls := s.calls ++ [⟨operation, target, params⟩] }

/-- The number of logged requests of an operation. -/
def callCount (s : Server) (operation : String) : Nat :=
  (s.calls.filter (·.operation == operation)).length

/-- A new id with the given prefix (`new`, `view`, `job`), from the one counter. -/
def mintId (s : Server) (pfx : String) : String × Server :=
  let n := s.lastId + 1
  (pfx ++ "-" ++ toString n, { s with lastId := n })

/-- The delay of the answer for a list page. -/
def listDelay (s : Server) (page : Nat) : Option Nat :=
  (s.listDelays.find? (·.1 == page)).map Prod.snd

/-- End a job on the server's side: set its status, complete it with a report, and add its
provenance to the record it ran on.  Fails when the job or the record is unknown; the job is
changed even when the record is missing. -/
def finishJob (s : Server) (jobId : String) (status : JobStatus) (report : String) :
    Server × Except ClientError Unit :=
  match s.jobs.lookup jobId with
  | none => (s, .error (.notFound ("job " ++ jobId)))
  | some j =>
    let j := { j with status := status, percentComplete := 100, report := some report }
    let s := { s with jobs := s.jobs.insert jobId j }
    let p : JobProvenance :=
      { jobId := j.id, taskName := j.taskName, jobsiteName := j.jobsiteName,
        scholarName := j.scholarName, status := status, parameters := j.parameters,
        report := j.report, submitted := j.submitted, completed := some .now }
    match s.record? j.contentType j.contentId with
    | none => (s, .error (.notFound j.contentUri.render))
    | some r =>
      let r := { r with provenance := r.provenance ++ [p] }
      (s.modifyRecords j.contentType (·.insert j.contentId r), .ok ())

end Server

end CorpusBench
