import CorpusBench.Calendar.Parse
import CorpusBench.Json.Decode

/-!
# Instants

An instant on the wire is a UTC date-time written `YYYY-MM-DDTHH:MM:SS[.fff]Z`.  An instant
stamped by the in-memory server's own clock is kept symbolic: no answer may depend on the wall
clock, so such an instant is written `<now>`.

## Main definitions

* `Instant` — a UTC date-time or the server's present moment.
* `Instant.decoder`, `Instant.toJson`.
-/

namespace CorpusBench

/-- A moment in time as the wire carries it. -/
inductive Instant where
  /-- A UTC date-time. -/
  | utc (t : DateTime)
  /-- The moment the in-memory server stamped, which answers do not spell out. -/
  | now
  deriving DecidableEq, Repr

namespace Instant

/-- The text of an instant. -/
def text : Instant → String
  | .utc t => t.isoText ++ "Z"
  | .now => "<now>"

/-- An instant as a document. -/
def toJson (i : Instant) : Json := .str i.text

/-- An instant from a timestamp with an offset, converted to UTC. -/
def decoder : Decoder Instant
  | .str s =>
    match readStamp s with
    | .ok t => .ok (.utc t)
    | .error e => .error (.custom e.message)
  | j => Decoder.mismatch "a formatted date and time string or a unix timestamp" j

end Instant

/-- A date-time without offset as a document: `YYYY-MM-DDTHH:MM:SS[.fff]`. -/
def DateTime.toJson (t : DateTime) : Json := .str t.isoText

/-- A date-time without offset from its document form. -/
def DateTime.decoder : Decoder DateTime
  | .str s =>
    match readDateTime s with
    | .ok t => .ok t
    | .error e => .error (.custom e.message)
  | j => Decoder.mismatch "a formatted date and time string" j

end CorpusBench
