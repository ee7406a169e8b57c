import CorpusBench.Jobs.Job

/-!
# Push events

The server pushes events to every page of a corpus over one channel: alerts (a message and a
level) and job status changes.  On the wire an event is one object whose member `event_type`
says which.

## Main definitions

* `AlertEvent`, `JobEvent`, `PushEvent`.
* `EventKind` — the kind an event is dispatched by.
-/

namespace CorpusBench

open RecordReader

/-- An alert for every page of a corpus. -/
structure AlertEvent where
  message : String
  level : String := "info"
  deriving DecidableEq, Repr

namespace AlertEvent

def members (a : AlertEvent) : List (String × Json) :=
  [("message", .str a.message), ("level", .str a.level)]

def toJson (a : AlertEvent) : Json := Json.mkObj a.members

def decoder : Decoder AlertEvent := Decoder.record "AlertEvent" <|
  AlertEvent.mk <$> field "message" Decoder.string <*> fieldOr "level" Decoder.string "info"

end AlertEvent

/-- A change of a job's status. -/
structure JobEvent where
  jobId : String
  status : JobStatus
  stage : Option String := none
  percentComplete : Option Nat := none
  deriving DecidableEq, Repr

namespace JobEvent

def members (e : JobEvent) : List (String × Json) :=
  [("job_id", .str e.jobId), ("status", e.status.toJson), ("stage", Json.ofOption .str e.stage),
    ("percent_complete", Json.ofOption Json.ofNat e.percentComplete)]

def toJson (e : JobEvent) : Json := Json.mkObj e.members

def decoder : Decoder JobEvent := Decoder.record "JobEvent" <|
  JobEvent.mk <$> field "job_id" Decoder.string <*> field "status" JobStatus.decoder
    <*> optFieldOr "stage" Decoder.string <*> optFieldOr "percent_complete" (Decoder.word .u8)

end JobEvent

/-- The kinds of push events. -/
inductive EventKind where
  | alert | job
  deriving DecidableEq, Repr

/-- The name of a kind, as `event_type` writes it. -/
def EventKind.name : EventKind → String
  | .alert => "alert"
  | .job => "job"

/-- A push event. -/
inductive PushEvent where
  | alert (a : AlertEvent)
  | job (e : JobEvent)
  deriving DecidableEq, Repr

namespace PushEvent

def kind : PushEvent → EventKind
  | .alert _ => .alert
  | .job _ => .job

def toJson : PushEvent → Json
  | .alert a => Json.mkObj (("event_type", .str "alert") :: a.members)
  | .job e => Json.mkObj (("event_type", .str "job") :: e.members)

def decoder : Decoder PushEvent :=
  Decoder.internalTag "PushEvent" "event_type" ["alert", "job"] fun name payload =>
    if name = "alert" then PushEvent.alert <$> AlertEvent.decoder payload
    else PushEvent.job <$> JobEvent.decoder payload

end PushEvent

end CorpusBench
