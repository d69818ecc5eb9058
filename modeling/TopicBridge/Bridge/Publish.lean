import TopicBridge.Bridge.Render
import TopicBridge.Bridge.Exchange
import TopicBridge.Bridge.Fault
import TopicBridge.Log.Entry

/-!
# Publishing a request

Handling a request on a route takes these steps, in order:

1. the request is logged as the route's verbosity says;
2. the outbound message is built: the route's topic, quality of service and retain flag,
   the bridge's broker, and a copy of the body (empty when there is none);
3. the publisher is called **exactly once**, with a context that ends at the publish
   timeout (or has already ended when the caller cancelled);
4. the journal, when there is one, records one row: status `published` on success, and on
   failure the status of the classified failure with the publisher's error text; a
   journal that fails is logged and changes nothing else;
5. on success the reply carries the acknowledgement and the request body, or an empty
   body when the route clears it; on failure the classified failure is returned.

The publisher is a function from the message and the context to what it answers, so every
publisher outcome can be examined.

* `TopicBridge.Bridge.handle` – the whole step;
* `TopicBridge.Bridge.BrokerReply.answer` – the answers a broker can give.
-/

namespace TopicBridge.Bridge

open TopicBridge.Log TopicBridge.Time

/-- Where rows of exchanges go. -/
inductive Journal where
  /-- No journal is attached. -/
  | absent
  /-- Rows are recorded. -/
  | accepting
  /-- Rows are stored, and recording reports this error. -/
  | failing (text : String)
  deriving Repr, DecidableEq, Inhabited

/-- Whether rows are kept at all. -/
def Journal.attached : Journal → Bool
  | .absent => false
  | _ => true

/-- The fixed parts of a bridge. -/
structure BridgeSetup where
  /-- The broker stamped on messages and rows. -/
  broker : String := defaultBroker
  /-- How long a publish may wait, in nanoseconds. -/
  publishTimeout : Int := 5 * nanosPerSecond
  /-- The journal. -/
  journal : Journal := .absent
  deriving Repr, Inhabited

/-- What a publisher can see of the call's context. -/
structure CallContext where
  /-- When the context ends, in nanoseconds after the call. -/
  timeout : Int
  /-- Whether the caller has already cancelled. -/
  cancelled : Bool
  deriving Repr, DecidableEq

/-- The fault with which a context ends: cancellation, or its deadline. -/
def CallContext.endFault (c : CallContext) : Fault :=
  if c.cancelled then .named .canceled else .named .deadlineExceeded

/-- A publisher's answer to one call: the time it took and its result. -/
structure Publication where
  /-- Nanoseconds spent. -/
  elapsed : Int := 0
  /-- Success, or the fault returned. -/
  result : Except Fault Unit := .ok ()

/-- How a broker treats one publish. -/
inductive BrokerReply where
  /-- The message is acknowledged. -/
  | acknowledge
  /-- The publisher returns this fault. -/
  | fail (f : Fault)
  /-- No acknowledgement comes in time: the publisher reports so for the message's topic. -/
  | noAck
  /-- The publisher waits until the context ends and returns how it ended. -/
  | hang
  deriving Repr, Inhabited

/-- The result a publisher returns for a broker's treatment of a message. -/
def BrokerReply.answer (r : BrokerReply) (msg : OutboundMessage) (ctx : CallContext) :
    Except Fault Unit :=
  match r with
  | .acknowledge => .ok ()
  | .fail f => .error f
  | .noAck => .error (.ackTimeout msg.topic (.named .deadlineExceeded))
  | .hang => .error ctx.endFault

/-- What a successful publish replies with. -/
structure Reply where
  /-- The acknowledgement. -/
  ack : Ack
  /-- The body handed back. -/
  body : Option ByteArray

/-- Everything that handling one request produced. -/
structure Handled where
  /-- The message handed to the publisher. -/
  published : OutboundMessage
  /-- The rows recorded, at most one. -/
  rows : List Exchange
  /-- The log entries, in order. -/
  logs : List Entry
  /-- The reply, or the classified failure. -/
  result : Except PublishFailure Reply
  /-- The clock after the publish. -/
  finish : Instant

/-- The log entries of a request, as the route's verbosity says. -/
def requestLog (id : String) (route : Route) (req : InboundRequest) : List Entry :=
  match route.log.verbosity with
  | .off => []
  | .full =>
    if route.log.multiline then
      [⟨.info, "exchange", [.str "exchange_id" id, .str "route" route.name,
        .str "exchange" (renderExchange id route req)]⟩]
    else
      [⟨.info, "exchange", [.str "exchange_id" id, .str "route" route.name,
        .str "request_id" req.requestId, .str "method" req.method, .str "path" req.path,
        .str "remote_addr" req.remoteAddr, .str "topic" route.topic,
        ⟨"headers", .headers req.headers⟩, .str "body" (bodyText req.body)]⟩]
  | _ =>
    [⟨.info, "exchange", [.str "exchange_id" id, .str "route" route.name, .str "method" req.method,
      .str "path" req.path, .num "body_size" (bodyBytes req.body).size]⟩]

/-- Records a row in the journal: the rows kept and the entries logged. -/
def record (j : Journal) (ex : Exchange) : List Exchange × List Entry :=
  match j with
  | .absent => ([], [])
  | .accepting => ([ex], [])
  | .failing t => ([ex], [⟨.error, "journal record failed", [.str "exchange_id" ex.id, .err t]⟩])

/-- Handles one request on a route: log, publish once, journal, reply. -/
def handle (b : BridgeSetup) (id : String) (start : Instant) (route : Route)
    (req : InboundRequest) (cancelled : Bool)
    (publish : OutboundMessage → CallContext → Publication) : Handled :=
  let out := OutboundMessage.ofBody route.topic b.broker route.qos route.retained req.body
  let pub := publish out { timeout := b.publishTimeout, cancelled }
  let latency := pub.elapsed
  let row : Exchange :=
    { id := id, route := route.name, method := req.method, path := req.path,
      topic := out.topic, broker := out.broker, payloadSize := out.payload.size,
      status := .published, latencyMs := latency.tdiv nanosPerMilli, createdAt := start.utc }
  let pre := requestLog id route req
  let finish := start.add latency
  match pub.result with
  | .error f =>
    let failure := classify route.name route.topic f
    let row := { row with status := (if failure.isTimeoutKind then .timeout else .failed), error := f.text }
    let warn : Entry := ⟨.warn, "publish failed", [.str "exchange_id" id, .str "route" route.name,
      .str "topic" out.topic, .str "kind" failure.kind.label, .num "latency" latency, .err f.text]⟩
    let (rows, jlogs) := record b.journal row
    { published := out, rows, logs := pre ++ [warn] ++ jlogs, result := .error failure, finish }
  | .ok () =>
    let done : Entry := ⟨.debug, "published", [.str "exchange_id" id, .str "topic" out.topic,
      .num "size" out.payload.size, .num "latency" latency]⟩
    let (rows, jlogs) := record b.journal row
    let body := if route.clearBody then some ByteArray.empty else req.body
    { published := out, rows, logs := pre ++ [done] ++ jlogs,
      result := .ok { ack := { id, topic := out.topic, payloadSize := out.payload.size, latency }, body },
      finish }

end TopicBridge.Bridge
