import TopicBridge.Net.Header
import TopicBridge.Time.Instant

/-!
# Messages, requests and events

A **message** is a header map and a body; either may be absent, which is not the same as
empty. An **inbound request** is a message that arrived on a route trigger, with its method,
path, request id and remote address. An **outbound message** is what is published: a topic,
the broker, a quality of service, the retain flag and a payload that is a copy of the request
body, empty when there was none. An **event** is a message picked up by the relay, stamped
with an id, type, source, topic and the instant it arrived.

* `TopicBridge.Bridge.OutboundMessage.ofBody`, `TopicBridge.Bridge.Message.cleared`.
-/

namespace TopicBridge.Bridge

open TopicBridge.Net

/-- A header map and a body, each possibly absent. -/
structure Message where
  /-- The headers, absent or a map. -/
  headers : Option Headers := none
  /-- The body, absent or bytes. -/
  body : Option ByteArray := none
  deriving Inhabited

/-- The message with the same headers and an empty (present) body. -/
def Message.cleared (m : Message) : Message := { m with body := some ByteArray.empty }

/-- One call arriving on a route trigger. -/
structure InboundRequest where
  /-- The method of the call. -/
  method : String := ""
  /-- The path of the call. -/
  path : String := ""
  /-- The request id given to the call. -/
  requestId : String := ""
  /-- Where the call came from. -/
  remoteAddr : String := ""
  /-- The headers, absent or a map. -/
  headers : Option Headers := none
  /-- The body, absent or bytes. -/
  body : Option ByteArray := none
  deriving Inhabited

/-- The message carried by a request. -/
def InboundRequest.message (r : InboundRequest) : Message := ⟨r.headers, r.body⟩

/-- The bytes of a possibly absent body, empty when absent. -/
def bodyBytes (b : Option ByteArray) : ByteArray := b.getD ByteArray.empty

/-- What is published for one request. -/
structure OutboundMessage where
  /-- The topic. -/
  topic : String
  /-- The broker. -/
  broker : String
  /-- The quality of service. -/
  qos : Nat
  /-- Whether the broker keeps the message. -/
  retained : Bool
  /-- The payload, a copy of the request body. -/
  payload : ByteArray
  deriving Inhabited

/-- The outbound message of a body; an absent body gives an empty payload. -/
def OutboundMessage.ofBody (topic broker : String) (qos : Nat) (retained : Bool)
    (body : Option ByteArray) : OutboundMessage :=
  { topic, broker, qos, retained, payload := bodyBytes body }

/-- A message picked up by the relay, as forwarded to the sinks. -/
structure Event where
  /-- The event id. -/
  id : String := ""
  /-- The event type. -/
  type : String := ""
  /-- The event source. -/
  source : String := ""
  /-- The topic the message arrived on. -/
  topic : String := ""
  /-- The payload, absent or bytes. -/
  payload : Option ByteArray := none
  /-- When the message arrived. -/
  receivedAt : Time.Instant := {}
  deriving Inhabited

end TopicBridge.Bridge
