import TopicBridge.Bridge.Render
import TopicBridge.Bridge.Route
import TopicBridge.Bridge.Fault
import TopicBridge.Log.Entry

/-!
# The relay worker

The relay forwards the messages of one MQTT topic to event sinks. Each message becomes an
**event** with the next identifier of an identifier source, the relay's event type and
source, the topic it came on, a copy of its payload and the instant it was received. Each
event is logged as the relay's verbosity says and handed to a deliverer; a failed delivery
is logged as a warning.

The identifier source is a parameter: a state `G` and a draw that gives the next identifier
and the state after it. The service draws ULIDs from a monotonic source of randomness, which
lies outside the relay.

A run subscribes to the topic. Messages that arrive while the buffer is full are dropped
with a warning; here every message arrives during the subscription, before any worker
runs, so the first `buffer` messages are kept and the others dropped. Then the kept events
are delivered in order, and at the end the topic is unsubscribed.

* `TopicBridge.Relay.RelaySetup.newEvent`, `TopicBridge.Relay.RelaySetup.deliveryLogs`,
  `TopicBridge.Relay.RelaySetup.droppedEntry`, `TopicBridge.Relay.RelaySetup.run`.
-/

namespace TopicBridge.Relay

open TopicBridge.Bridge TopicBridge.Log TopicBridge.Time

/-- How a relay is set up. -/
structure RelaySetup where
  /-- The topic subscribed to. -/
  topic : String
  /-- The subscription's quality of service. -/
  qos : Nat := 0
  /-- The event type stamped on events. -/
  eventType : String
  /-- The event source stamped on events. -/
  eventSource : String
  /-- How events are logged. -/
  log : LogOptions := { verbosity := .minimal }
  /-- The number of workers; not positive means four. -/
  workers : Int := 4
  /-- The buffer size; not positive means 256. -/
  buffer : Int := 256
  deriving Inhabited

namespace RelaySetup

/-- The event of a message. -/
def newEvent (r : RelaySetup) (id : String) (topic : String) (payload : Option ByteArray)
    (now : Instant) : Event :=
  { id, type := r.eventType, source := r.eventSource, topic, payload, receivedAt := now.utc }

/-- The entries logging an event. -/
def eventLogs (r : RelaySetup) (ev : Event) : List Entry :=
  match r.log.verbosity with
  | .off => []
  | .full =>
    if r.log.multiline then [⟨.info, "event", [.str "event_id" ev.id, .str "event" (renderEvent ev)]⟩]
    else
      [⟨.info, "event", [.str "event_id" ev.id, .str "type" ev.type, .str "source" ev.source,
        .str "topic" ev.topic, .str "payload" (Text.ofBytes (bodyBytes ev.payload))]⟩]
  | _ =>
    [⟨.info, "event", [.str "event_id" ev.id, .str "topic" ev.topic,
      .num "payload_size" (bodyBytes ev.payload).size]⟩]

/-- The warning about a delivery that failed, none for one that succeeded. -/
def failureLogs (ev : Event) : Except Fault Unit → List Entry
  | .ok () => []
  | .error f =>
    [⟨.warn, "relay delivery failed", [.str "event_id" ev.id, .str "topic" ev.topic, .err f.text]⟩]

/-- The entries of relaying one event: its log, then a warning when delivery failed. -/
def deliveryLogs (r : RelaySetup) (ev : Event) (result : Except Fault Unit) : List Entry :=
  r.eventLogs ev ++ failureLogs ev result

/-- The message of the warning about a dropped event. -/
def droppedMessage : String := "relay buffer full, dropping message"

/-- The warning about an event dropped because the buffer was full. -/
def droppedEntry (ev : Event) : Entry :=
  ⟨.warn, droppedMessage, [.str "event_id" ev.id, .str "topic" ev.topic]⟩

/-- The number of workers used. -/
def workerCount (r : RelaySetup) : Nat := if r.workers ≤ 0 then 4 else r.workers.toNat

/-- The buffer size used. -/
def bufferSize (r : RelaySetup) : Nat := if r.buffer ≤ 0 then 256 else r.buffer.toNat

/-- A request the relay makes of its subscriber. -/
inductive SubscriberCall where
  /-- Subscribe to a topic. -/
  | subscribe (topic : String) (qos : Nat)
  /-- Unsubscribe from topics. -/
  | unsubscribe (topics : List String)

/-- What a run did. -/
structure RunOutcome where
  /-- The number of workers. -/
  workers : Nat
  /-- The buffer size. -/
  buffer : Nat
  /-- The events handed to the deliverer, in order. -/
  delivered : List Event
  /-- The log entries, in order. -/
  logs : List Entry
  /-- The requests made of the subscriber. -/
  calls : List SubscriberCall

/-- Why a run cannot start, if it cannot. -/
def startError (r : RelaySetup) (hasSubscriber hasDeliverer : Bool) : Option String :=
  if !hasSubscriber || !hasDeliverer then some "relay: subscriber and dispatcher are required"
  else if r.topic.isEmpty then some "relay: topic is required"
  else if r.eventType.isEmpty then some "relay: event type is required"
  else none

/-- The events of messages at an instant, with identifiers drawn in order from a source in
the state `ids`. -/
def eventsOf {G : Type} (r : RelaySetup) (draw : G → String × G) (now : Instant) :
    G → List (String × Option ByteArray) → List Event
  | _, [] => []
  | ids, (topic, payload) :: rest =>
    r.newEvent (draw ids).1 topic payload now :: eventsOf r draw now (draw ids).2 rest

/-- Runs the relay over the messages that arrive while it subscribes, with a deliverer's
answer to each event. -/
def run {G : Type} (r : RelaySetup) (hasSubscriber hasDeliverer : Bool) (now : Instant)
    (draw : G → String × G) (ids : G) (messages : List (String × Option ByteArray))
    (subscribeError unsubscribeError : Option String) (deliver : Event → Except Fault Unit) :
    Except String RunOutcome :=
  match r.startError hasSubscriber hasDeliverer with
  | some e => .error e
  | none =>
    match subscribeError with
    | some e => .error e
    | none =>
      let events := r.eventsOf draw now ids messages
      let kept := events.take r.bufferSize
      let dropped := (events.drop r.bufferSize).map droppedEntry
      let subscribed : Entry := ⟨.info, "relay subscribed",
        [.str "topic" r.topic, .str "event_type" r.eventType, .num "workers" r.workerCount]⟩
      let delivered := kept.flatMap fun ev => r.deliveryLogs ev (deliver ev)
      let unsub : List Entry := match unsubscribeError with
        | some e => [⟨.warn, "relay unsubscribe failed", [.err e]⟩]
        | none => []
      .ok { workers := r.workerCount, buffer := r.bufferSize, delivered := kept,
            logs := dropped ++ [subscribed] ++ delivered ++ unsub,
            calls := [.subscribe r.topic r.qos, .unsubscribe [r.topic]] }

end RelaySetup

end TopicBridge.Relay
