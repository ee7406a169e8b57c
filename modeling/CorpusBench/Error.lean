/-!
# Client errors

Every operation of the client fails with one `ClientError`: its constructor says what went
wrong (the transport, a deadline, the server's answer, a value that does not decode, a bad
argument), and `ClientError.message` gives the one text a user sees.

A run of a stateful engine can also be cut short by an arithmetic fault in its own
bookkeeping, an `Abort`: a counter that overflows its word, a division by zero, a clamp with an
empty range.  An abort ends the whole run, and no partial answer survives it.

## Main definitions

* `ClientError` — the failures, with `kind`, `message`, `isRetryable` and `isAuth`.
* `ClientError.ofStatus` — the failure a non-success HTTP status stands for.
* `Abort` — faults that end a whole run.
-/

namespace CorpusBench

/-- What went wrong in a client operation. -/
inductive ClientError where
  /-- The request never got an answer: the connection failed or was reset. -/
  | network (detail : String)
  /-- A deadline passed. -/
  | timeout (detail : String)
  | unauthorized (detail : String)
  | forbidden (detail : String)
  | notFound (detail : String)
  /-- The server or the client refused a value. -/
  | validation (detail : String)
  /-- The server failed with a `5xx` status. -/
  | server (status : Nat) (detail : String)
  /-- A document did not decode into the expected shape. -/
  | serialization (detail : String)
  /-- A caller passed an argument outside what the operation accepts. -/
  | invalidInput (detail : String)
  /-- A type tag has no editor or parser. -/
  | unsupportedType (detail : String)
  | config (detail : String)
  | internal (detail : String)
  deriving DecidableEq, Repr

namespace ClientError

/-- The name of the kind of failure, as answers report it. -/
def kind : ClientError → String
  | .network _ => "Network"
  | .timeout _ => "Timeout"
  | .unauthorized _ => "Unauthorized"
  | .forbidden _ => "Forbidden"
  | .notFound _ => "NotFound"
  | .validation _ => "Validation"
  | .server _ _ => "Server"
  | .serialization _ => "Serialization"
  | .invalidInput _ => "InvalidInput"
  | .unsupportedType _ => "UnsupportedType"
  | .config _ => "Config"
  | .internal _ => "Internal"

/-- The text shown for a failure. -/
def message : ClientError → String
  | .network d => "Network error: " ++ d
  | .timeout d => "Timed out: " ++ d
  | .unauthorized d => "Unauthorized: " ++ d
  | .forbidden d => "Forbidden: " ++ d
  | .notFound d => "Not found: " ++ d
  | .validation d => "Validation failed: " ++ d
  | .server s d => "Server error (" ++ toString s ++ "): " ++ d
  | .serialization d => "Serialization error: " ++ d
  | .invalidInput d => "Invalid input: " ++ d
  | .unsupportedType d => "Unsupported type: " ++ d
  | .config d => "Configuration error: " ++ d
  | .internal d => "Internal error: " ++ d

/-- Failures worth trying again: transport failures, deadlines and server faults. -/
def isRetryable : ClientError → Bool
  | .network _ | .timeout _ | .server _ _ => true
  | _ => false

/-- Failures of credentials or permissions. -/
def isAuth : ClientError → Bool
  | .unauthorized _ | .forbidden _ => true
  | _ => false

/-- The failure an HTTP status stands for, with the response body as its detail. -/
def ofStatus (status : Nat) (body : String) : ClientError :=
  if status = 400 || status = 422 then .validation body
  else if status = 401 then .unauthorized body
  else if status = 403 then .forbidden body
  else if status = 404 then .notFound body
  else if status = 408 || status = 504 then .timeout body
  else if 500 ≤ status && status ≤ 599 then .server status body
  else .internal ("unexpected status " ++ toString status ++ ": " ++ body)

end ClientError

/-- A fault in the engine's own arithmetic that ends the whole run. -/
inductive Abort where
  /-- A sum outside the unsigned 32-bit word. -/
  | addOverflow
  /-- A product outside the unsigned 32-bit word. -/
  | mulOverflow
  | divideByZero
  /-- A clamp whose lower bound exceeds its upper bound; the bounds as written in the
  report. -/
  | emptyClamp (low high : String)
  /-- A broadcast channel asked to hold no events. -/
  | zeroCapacity
  /-- A broadcast channel asked to hold more events than half the machine word counts. -/
  | capacityTooLarge
  deriving DecidableEq, Repr

/-- The report of an abort. -/
def Abort.message : Abort → String
  | .addOverflow => "attempt to add with overflow"
  | .mulOverflow => "attempt to multiply with overflow"
  | .divideByZero => "attempt to divide by zero"
  | .emptyClamp lo hi => "min > max, or either was NaN. min = " ++ lo ++ ", max = " ++ hi
  | .zeroCapacity => "broadcast channel capacity cannot be zero"
  | .capacityTooLarge => "broadcast channel capacity exceeded " ++ "\x60usize::MAX / 2\x60"

/-- The largest unsigned 32-bit value. -/
def u32Max : Nat := Nat.pow 2 32 - 1

/-- A sum in the unsigned 32-bit word, or the overflow abort. -/
def addWord (a b : Nat) : Except Abort Nat :=
  if a + b ≤ u32Max then .ok (a + b) else .error .addOverflow

/-- A product in the unsigned 32-bit word, or the overflow abort. -/
def mulWord (a b : Nat) : Except Abort Nat :=
  if a * b ≤ u32Max then .ok (a * b) else .error .mulOverflow

end CorpusBench
