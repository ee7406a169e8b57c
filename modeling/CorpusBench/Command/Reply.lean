import CorpusBench.Error
import CorpusBench.Json.Write

/-!
# Command replies

Every command answers with one JSON object: `{"result": v}` when it succeeds,
`{"error": kind, "message": text}` when the operation fails with a `ClientError`,
`{"error": "bad_input", "message": text}` when the command itself is malformed, and
`{"error": "panic", "message": text}` when the run was aborted.

A command with a list of steps answers each step with such an object; a failed or malformed
step does not stop the list, an abort ends the whole command.

## Main definitions

* `Command.Halt` — why a command or step stops: a malformed argument, a client
  error, or an abort.
* `Command.Step` — computations that may halt.
* `Command.Step.toJson` — the answer object of a finished step.
-/

namespace CorpusBench

namespace Command

/-- Why a command or one of its steps stops early. -/
inductive Halt where
  /-- The command is malformed: a missing or ill-typed member, an unknown name. -/
  | badInput (message : String)
  /-- The operation failed. -/
  | failed (error : ClientError)
  /-- The run was aborted; this ends the whole command. -/
  | aborted (abort : Abort)

/-- Computations that read arguments, run operations and may halt. -/
abbrev Step := Except Halt

/-- Halt with a malformed argument. -/
def bad {α : Type} (message : String) : Step α := .error (.badInput message)

/-- Halt with a client error. -/
def fail {α : Type} (e : ClientError) : Step α := .error (.failed e)

/-- Lift an operation that may fail with a client error. -/
def liftClient {α : Type} : Except ClientError α → Step α
  | .ok a => .ok a
  | .error e => .error (.failed e)

/-- Lift an operation that may abort. -/
def liftAbort {α : Type} : Except Abort α → Step α
  | .ok a => .ok a
  | .error a => .error (.aborted a)

/-- The JSON object of a client error. -/
def errorJson (e : ClientError) : Json :=
  Json.mkObj [("error", .str e.kind), ("message", .str e.message)]

/-- The JSON object of a malformed command. -/
def badInputJson (message : String) : Json :=
  Json.mkObj [("error", .str "bad_input"), ("message", .str message)]

/-- The JSON object of an aborted run. -/
def abortJson (a : Abort) : Json :=
  Json.mkObj [("error", .str "panic"), ("message", .str a.message)]

/-- The JSON object of a successful result. -/
def resultJson (v : Json) : Json := Json.mkObj [("result", v)]

/-- The answer object of a finished command. -/
def Step.toJson : Step Json → Json
  | .ok v => resultJson v
  | .error (.badInput m) => badInputJson m
  | .error (.failed e) => errorJson e
  | .error (.aborted a) => abortJson a

/-- The answer object of one step in a list: the step's own outcome, while an abort passes
on to the whole list. -/
def Step.settle (s : Step Json) : Step Json :=
  match s with
  | .error (.aborted a) => .error (.aborted a)
  | other => .ok other.toJson

/-- Run a list of steps on a state, answering each with its own object; the state a step leaves
is kept even when the step fails, and an abort ends the whole list. -/
def runSteps {σ : Type} (step : σ → Json → σ × Step Json) : σ → List Json → Step (List Json)
  | _, [] => .ok []
  | s, op :: ops =>
    let (s', r) := step s op
    match r with
    | .error (.aborted a) => .error (.aborted a)
    | other => do return other.toJson :: (← runSteps step s' ops)

/-- Run a list of steps that answer with finished answer objects (a step may answer with an
object of its own shape); a malformed step answers with its object, an abort ends the whole
list. -/
def runAnswered {σ : Type} (step : σ → Json → σ × Step Json) : σ → List Json → Step (List Json)
  | _, [] => .ok []
  | s, op :: ops =>
    let (s', r) := step s op
    match r with
    | .error (.aborted a) => .error (.aborted a)
    | .error h => do return Step.toJson (.error h) :: (← runAnswered step s' ops)
    | .ok answer => do return answer :: (← runAnswered step s' ops)

/-- A step that does not change the state. -/
def keep {σ : Type} (s : σ) (r : Step Json) : σ × Step Json := (s, r)

/-- A client error or value as an answer object. -/
def outcomeJson : Except ClientError Json → Json
  | .ok v => resultJson v
  | .error e => errorJson e

end Command

end CorpusBench
