import CorpusBench.Events.Push
import CorpusBench.Json.Read
import CorpusBench.Error

/-!
# The event relay

Each corpus has one relay for the events the server pushes.  Publishing an event calls the
callbacks registered for its kind, in the order they were registered, and hands the event to
every subscriber.

A subscriber reads from a buffer that keeps the newest events, as many as the relay's capacity
rounded up to a power of two.  A subscriber that reads only after more events were published
than the buffer holds first learns how many it missed, then reads the ones kept.

Raw payloads are read as JSON; a payload whose `event_type` is not a kind this client knows is
dropped without complaint, while a payload of a known kind must read as an event of that kind.

A registry keeps one relay per corpus, created on first use.

## Main definitions

* `bufferSize`, `Receipt`, `Receipt.backlog`.
* `EventRelay` — with `publish` and `readPayload`.
* `RelayRegistry` — with `relayFor` and `close`.

## Main results

* `Receipt.backlog_fits` — a backlog that fits the buffer is read in full.
-/

namespace CorpusBench

/-- The number of events a broadcast buffer keeps: the requested capacity rounded up to a
power of two.  A capacity of zero, or above half the 64-bit word, aborts the run. -/
def bufferSize (requested : Nat) : Except Abort Nat :=
  if requested = 0 then .error .zeroCapacity
  else if requested > Nat.pow 2 63 - 1 then .error .capacityTooLarge
  else if requested = 1 then .ok 1
  else .ok (Nat.pow 2 (Nat.log2 (requested - 1) + 1))

/-- What a subscriber reads: the number of events it missed, or an event. -/
inductive Receipt where
  | lagged (missed : Nat)
  | event (e : PushEvent)

namespace Receipt

/-- What a subscriber reads of events published before it read any, with a buffer of `size`
events. -/
def backlog (size : Nat) (events : List PushEvent) : List Receipt :=
  if size < events.length then
    .lagged (events.length - size) :: (events.drop (events.length - size)).map .event
  else events.map .event

theorem backlog_fits (size : Nat) (events : List PushEvent) (h : events.length ≤ size) :
    backlog size events = events.map .event := by
  unfold backlog
  simp [Nat.not_lt.mpr h]

end Receipt

/-- One corpus's relay: the callbacks registered, by number and kind, and whether a subscriber
listens. -/
structure EventRelay where
  corpusId : String
  callbacks : List (Nat × EventKind) := []
  subscribed : Bool := false

namespace EventRelay

/-- Register the next callback for a kind. -/
def register (r : EventRelay) (kind : EventKind) : EventRelay :=
  { r with callbacks := r.callbacks ++ [(r.callbacks.length, kind)] }

/-- Publish an event: the callbacks it calls, in order, each with the event, and the events the
subscriber receives. -/
def publish (r : EventRelay) (e : PushEvent) : List (Nat × PushEvent) × List PushEvent :=
  ((r.callbacks.filter (·.2 == e.kind)).map (·.1, e), if r.subscribed then [e] else [])

/-- The number of subscribers. -/
def subscriberCount (r : EventRelay) : Nat := if r.subscribed then 1 else 0

/-- The `event_type` of a payload, empty when it has none that is a string. -/
def eventType (j : Json) : String :=
  match j.getPresent? "event_type" with
  | some (.str t) => t
  | _ => ""

/-- Read a raw payload: the event it carries, or none when its kind is unknown. -/
def readPayload (raw : String) : Except ClientError (Option PushEvent) := do
  let j ← match Json.parse raw with
    | .ok j => pure j
    | .error e => throw (.serialization e.message)
  let t := eventType j
  if t == "alert" || t == "job" then some <$> PushEvent.decoder.run j
  else return none

end EventRelay

/-- The relays of the corpora, each numbered in order of creation. -/
structure RelayRegistry where
  capacity : Nat
  relays : StrMap Nat := []
  created : Nat := 0

namespace RelayRegistry

/-- The relays hold this many events unless configured otherwise. -/
def standardCapacity : Nat := 256

/-- The number of a corpus's relay, creating it on first use. -/
def relayFor (r : RelayRegistry) (corpusId : String) : Except Abort (Nat × RelayRegistry) :=
  match r.relays.lookup corpusId with
  | some n => .ok (n, r)
  | none => do
    let _ ← bufferSize r.capacity
    return (r.created, { r with relays := r.relays.insert corpusId r.created, created := r.created + 1 })

/-- Drop a corpus's relay; whether there was one. -/
def close (r : RelayRegistry) (corpusId : String) : Bool × RelayRegistry :=
  (r.relays.containsKey corpusId, { r with relays := r.relays.erase corpusId })

end RelayRegistry

end CorpusBench
