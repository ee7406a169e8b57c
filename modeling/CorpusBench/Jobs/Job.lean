import CorpusBench.Calendar.Instant
import CorpusBench.Content.Uri
import CorpusBench.Json.Decode

/-!
# Jobs

A job runs a task of a jobsite against one content record.  The server reports its status
(queueing, running, complete or error), its stage and progress, and, once it finished, a
provenance entry on the content it ran against.  Tasks describe their parameters, jobsites list
the tasks they can run, and a scholar may run the tasks they are permitted (an administrator
may run every task).

## Main definitions

* `JobStatus`, `Job`, `JobProvenance`,
  `Jobsite`, `Task`, `TaskParameter`,
  `JobSubmission`, `Scholar` — the records, each with its `decoder`
  and `toJson`.
-/

namespace CorpusBench

open RecordReader

/-- The life cycle of a job. -/
inductive JobStatus where
  | queueing | running | complete | error
  deriving DecidableEq, Repr, Inhabited

namespace JobStatus

/-- The name of a status. -/
def name : JobStatus → String
  | .queueing => "queueing"
  | .running => "running"
  | .complete => "complete"
  | .error => "error"

/-- Whether a job in this status has finished. -/
def isTerminal : JobStatus → Bool
  | .complete | .error => true
  | _ => false

def toJson (s : JobStatus) : Json := .str s.name

def decoder : Decoder JobStatus :=
  Decoder.unitEnum [("queueing", .queueing), ("running", .running), ("complete", .complete),
    ("error", .error)]

end JobStatus

/-- A job as the jobs endpoints report it. -/
structure Job where
  id : String
  corpusId : String
  contentType : String
  contentId : String
  taskId : String
  taskName : String := ""
  jobsiteName : String := ""
  scholarName : String := ""
  status : JobStatus
  stage : Option String := none
  percentComplete : Nat := 0
  parameters : Json.Fields := []
  report : Option String := none
  submitted : Option Instant := none

namespace Job

/-- The content the job runs against. -/
def contentUri (j : Job) : ContentUri := ⟨j.corpusId, j.contentType, j.contentId⟩

def toJson (j : Job) : Json :=
  Json.mkObj [("id", .str j.id), ("corpus_id", .str j.corpusId),
    ("content_type", .str j.contentType), ("content_id", .str j.contentId),
    ("task_id", .str j.taskId), ("task_name", .str j.taskName),
    ("jobsite_name", .str j.jobsiteName), ("scholar_name", .str j.scholarName),
    ("status", j.status.toJson), ("stage", Json.ofOption .str j.stage),
    ("percent_complete", Json.ofNat j.percentComplete), ("parameters", .obj j.parameters),
    ("report", Json.ofOption .str j.report),
    ("submitted_time", Json.ofOption Instant.toJson j.submitted)]

def decoder : Decoder Job := Decoder.record "Job" <|
  Job.mk <$> field "id" Decoder.string <*> field "corpus_id" Decoder.string
    <*> field "content_type" Decoder.string <*> field "content_id" Decoder.string
    <*> field "task_id" Decoder.string <*> fieldOr "task_name" Decoder.string ""
    <*> fieldOr "jobsite_name" Decoder.string "" <*> fieldOr "scholar_name" Decoder.string ""
    <*> field "status" JobStatus.decoder <*> optFieldOr "stage" Decoder.string
    <*> fieldOr "percent_complete" (Decoder.word .u8) 0
    <*> fieldOr "parameters" Decoder.object []
    <*> optFieldOr "report" Decoder.string <*> optFieldOr "submitted_time" Instant.decoder

end Job

/-- The entry a finished job leaves on the content it ran against. -/
structure JobProvenance where
  jobId : String
  taskName : String := ""
  jobsiteName : String := ""
  scholarName : String := ""
  status : JobStatus
  parameters : Json.Fields := []
  report : Option String := none
  submitted : Option Instant := none
  completed : Option Instant := none

namespace JobProvenance

def toJson (p : JobProvenance) : Json :=
  Json.mkObj [("job_id", .str p.jobId), ("task_name", .str p.taskName),
    ("jobsite_name", .str p.jobsiteName), ("scholar_name", .str p.scholarName),
    ("status", p.status.toJson), ("parameters", .obj p.parameters),
    ("report", Json.ofOption .str p.report),
    ("submitted", Json.ofOption Instant.toJson p.submitted),
    ("completed", Json.ofOption Instant.toJson p.completed)]

def decoder : Decoder JobProvenance := Decoder.record "JobProvenance" <|
  JobProvenance.mk <$> field "job_id" Decoder.string <*> fieldOr "task_name" Decoder.string ""
    <*> fieldOr "jobsite_name" Decoder.string "" <*> fieldOr "scholar_name" Decoder.string ""
    <*> field "status" JobStatus.decoder <*> fieldOr "parameters" Decoder.object []
    <*> optFieldOr "report" Decoder.string <*> optFieldOr "submitted" Instant.decoder
    <*> optFieldOr "completed" Instant.decoder

end JobProvenance

/-- A place jobs run, with the tasks it can run. -/
structure Jobsite where
  id : String
  name : String
  taskIds : List String := []

namespace Jobsite

def toJson (s : Jobsite) : Json :=
  Json.mkObj [("id", .str s.id), ("name", .str s.name),
    ("task_ids", .arr (s.taskIds.map .str))]

def decoder : Decoder Jobsite := Decoder.record "Jobsite" <|
  Jobsite.mk <$> field "id" Decoder.string <*> field "name" Decoder.string
    <*> fieldOr "task_ids" (Decoder.list Decoder.string) []

end Jobsite

/-- The description of one parameter of a task. -/
structure TaskParameter where
  name : String
  typeTag : String
  label : Option String := none
  required : Bool := false
  default : Option Json := none
  choices : List String := []
  /-- The content type a cross-reference parameter points to. -/
  contentType : Option String := none
  note : Option String := none

namespace TaskParameter

def toJson (p : TaskParameter) : Json :=
  Json.mkObj [("name", .str p.name), ("type", .str p.typeTag),
    ("label", Json.ofOption .str p.label), ("required", .bool p.required),
    ("default", Json.ofOption id p.default), ("choices", .arr (p.choices.map .str)),
    ("content_type", Json.ofOption .str p.contentType), ("note", Json.ofOption .str p.note)]

def decoder : Decoder TaskParameter := Decoder.record "TaskParameter" <|
  TaskParameter.mk <$> field "name" Decoder.string <*> field "type" Decoder.string
    <*> optFieldOr "label" Decoder.string <*> fieldOr "required" Decoder.bool false
    <*> optFieldOr "default" Decoder.any <*> fieldOr "choices" (Decoder.list Decoder.string) []
    <*> optFieldOr "content_type" Decoder.string <*> optFieldOr "note" Decoder.string

end TaskParameter

/-- A runnable task. -/
structure Task where
  id : String
  name : String
  /-- The content type the task runs against. -/
  contentType : String
  trackProvenance : Bool := false
  parameters : List TaskParameter := []

namespace Task

def toJson (t : Task) : Json :=
  Json.mkObj [("id", .str t.id), ("name", .str t.name), ("content_type", .str t.contentType),
    ("track_provenance", .bool t.trackProvenance),
    ("parameters", .arr (t.parameters.map TaskParameter.toJson))]

def decoder : Decoder Task := Decoder.record "Task" <|
  Task.mk <$> field "id" Decoder.string <*> field "name" Decoder.string
    <*> field "content_type" Decoder.string <*> fieldOr "track_provenance" Decoder.bool false
    <*> fieldOr "parameters" (Decoder.list TaskParameter.decoder) []

end Task

/-- The body of a job submission. -/
structure JobSubmission where
  jobsiteId : String
  taskId : String
  corpusId : String
  contentType : String
  contentId : String
  parameters : Json.Fields

namespace JobSubmission

def toJson (s : JobSubmission) : Json :=
  Json.mkObj [("jobsite_id", .str s.jobsiteId), ("task_id", .str s.taskId),
    ("corpus_id", .str s.corpusId), ("content_type", .str s.contentType),
    ("content_id", .str s.contentId), ("parameters", .obj s.parameters)]

def decoder : Decoder JobSubmission := Decoder.record "JobSubmission" <|
  JobSubmission.mk <$> field "jobsite_id" Decoder.string <*> field "task_id" Decoder.string
    <*> field "corpus_id" Decoder.string <*> field "content_type" Decoder.string
    <*> field "content_id" Decoder.string <*> field "parameters" Decoder.object

end JobSubmission

/-- The current user, as far as running tasks goes. -/
structure Scholar where
  username : String
  isAdmin : Bool := false
  permittedTaskIds : StrSet := []

namespace Scholar

/-- Whether the scholar may run a task: administrators run every task. -/
def mayRun (s : Scholar) (taskId : String) : Bool :=
  s.isAdmin || s.permittedTaskIds.contains taskId

def toJson (s : Scholar) : Json :=
  Json.mkObj [("username", .str s.username), ("is_admin", .bool s.isAdmin),
    ("permitted_task_ids", .arr (s.permittedTaskIds.map .str))]

def decoder : Decoder Scholar := Decoder.record "Scholar" <|
  Scholar.mk <$> field "username" Decoder.string <*> fieldOr "is_admin" Decoder.bool false
    <*> fieldOr "permitted_task_ids" Decoder.strSet []

end Scholar

end CorpusBench
