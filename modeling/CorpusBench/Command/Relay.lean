import CorpusBench.Command.Graph
import CorpusBench.Events.Relay

/-!
# Relay commands

`relay` runs steps on one corpus's event relay, with numbered callbacks and possibly a
subscriber: every step answers also with the callbacks it called and, with a subscriber, the
events received.  `relay_registry` runs steps on the registry of relays.

## Main definitions

* `Command.Relays.relayCmd`, `Command.Relays.relayRegistryCmd`.
-/

namespace CorpusBench

namespace Command

namespace Relays

/-- An event kind by name. -/
def kindArg (j : Json) : Step EventKind :=
  match j with
  | .str "job" => .ok .job
  | .str "alert" => .ok .alert
  | .str other => bad ("unknown event kind " ++ other)
  | _ => bad "register entries are event kinds"

/-- The answer of one relay step: its outcome with the callbacks called and, with a subscriber,
the events received. -/
def relayAnswer (r : EventRelay) (outcome : Step Json) (called : List (Nat × PushEvent))
    (received : List PushEvent) : Step Json :=
  match outcome with
  | .error (.aborted a) => .error (.aborted a)
  | other =>
    let extra := [("callbacks", Json.arr (called.map fun (i, e) => .arr [Json.ofNat i, e.toJson]))] ++
      (if r.subscribed then [("received", Json.arr (received.map PushEvent.toJson))] else [])
    match other.toJson with
    | .obj fs => .ok (.obj (fs ++ extra))
    | j => .ok j

/-- Publish an event, answering with `result`. -/
def publishing (r : EventRelay) (e : PushEvent) (result : Json) : Step Json :=
  let (called, received) := r.publish e
  relayAnswer r (.ok result) called received

/-- One step of a `relay` command. -/
def relayStep (r : EventRelay) (req : Json) : Step Json :=
  let quiet := fun (s : Step Json) => relayAnswer r s [] []
  match Args.str req "op" with
  | .error h => quiet (.error h)
  | .ok "dispatch" =>
    match Args.str req "raw" with
    | .error h => quiet (.error h)
    | .ok raw =>
      match EventRelay.readPayload raw with
      | .error e => quiet (fail e)
      | .ok none => quiet (.ok .null)
      | .ok (some e) => publishing r e (.str e.kind.name)
  | .ok "publish" =>
    match (do Graph.decodeValue PushEvent.decoder (← Args.value req "event") : Step PushEvent) with
    | .error h => quiet (.error h)
    | .ok e => publishing r e .null
  | .ok "subscriber_count" => quiet (.ok (Json.ofNat r.subscriberCount))
  | .ok other => quiet (bad ("unknown relay op " ++ other))

/-- `relay`: steps on one corpus's relay. -/
def relayCmd (req : Json) : Step Json := do
  let corpusId ← Args.strOr req "corpus_id" "42"
  let _ ← liftAbort (bufferSize (← Args.natOr req "capacity" .usize 16))
  let kinds ← (← Args.arrayOr req "register").mapM kindArg
  let subscribed ← Args.boolOr req "subscribe" false
  let r := kinds.foldl EventRelay.register { corpusId := corpusId, subscribed := subscribed }
  let answers ← (← Args.arrayOr req "ops").mapM (relayStep r)
  return .arr answers

/-- One step of a `relay_registry` command. -/
def registryStep (r : RelayRegistry) (req : Json) : RelayRegistry × Step Json :=
  let s : Step (RelayRegistry × Json) := do
    match ← Args.str req "op" with
    | "relay_for" =>
      let corpusId ← Args.str req "corpus_id"
      let (n, r) ← liftAbort (r.relayFor corpusId)
      return (r, Json.mkObj [("instance", Json.ofNat n), ("corpus_id", .str corpusId)])
    | "close" =>
      let (closed, r) := r.close (← Args.str req "corpus_id")
      return (r, .bool closed)
    | other => bad ("unknown relay_registry op " ++ other)
  match s with
  | .ok (r', v) => (r', .ok v)
  | .error e => (r, .error e)

/-- `relay_registry`: steps on the registry of relays. -/
def relayRegistryCmd (req : Json) : Step Json := do
  let capacity ← Args.natOr req "capacity" .usize RelayRegistry.standardCapacity
  return .arr (← runSteps registryStep { capacity := capacity } (← Args.arrayOr req "ops"))

end Relays

end Command

end CorpusBench
