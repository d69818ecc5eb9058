import TopicBridge.Time.Instant

/-!
# Exchanges

An **exchange** is the journal row of one publish: the id shared with its log entries and
its acknowledgement, the route, method and path of the request, topic and broker, the
payload size, the **status** (`published`, `failed` or `timeout`), the error text of a
failure, the latency in whole milliseconds and the instant the publish started.

An **acknowledgement** is what a successful publish hands back: the id, topic, payload size
and latency in nanoseconds.
-/

namespace TopicBridge.Bridge

/-- The outcome recorded for an exchange. -/
inductive ExchangeStatus where
  /-- The broker acknowledged the message. -/
  | published
  /-- The publish failed. -/
  | failed
  /-- No acknowledgement arrived in time. -/
  | timeout
  deriving Repr, DecidableEq, Inhabited

/-- The word of a status. -/
def ExchangeStatus.label : ExchangeStatus → String
  | .published => "published"
  | .failed => "failed"
  | .timeout => "timeout"

/-- The status of a word, if it is one of the three exactly. -/
def ExchangeStatus.ofLabel? (s : String) : Option ExchangeStatus :=
  if s = "published" then some .published
  else if s = "failed" then some .failed
  else if s = "timeout" then some .timeout
  else none

/-- The journal row of one publish. -/
structure Exchange where
  /-- The exchange id. -/
  id : String := ""
  /-- The route name. -/
  route : String := ""
  /-- The request method. -/
  method : String := ""
  /-- The request path. -/
  path : String := ""
  /-- The topic published to. -/
  topic : String := ""
  /-- The broker published to. -/
  broker : String := ""
  /-- The payload size in bytes. -/
  payloadSize : Nat := 0
  /-- The outcome. -/
  status : ExchangeStatus := .published
  /-- The error text of a failure, empty otherwise. -/
  error : String := ""
  /-- The latency in whole milliseconds. -/
  latencyMs : Int := 0
  /-- When the publish started. -/
  createdAt : Time.Instant := {}
  deriving Repr, DecidableEq, Inhabited

/-- What a successful publish hands back. -/
structure Ack where
  /-- The exchange id. -/
  id : String
  /-- The topic published to. -/
  topic : String
  /-- The payload size in bytes. -/
  payloadSize : Nat
  /-- The latency in nanoseconds. -/
  latency : Int
  deriving Repr, DecidableEq, Inhabited

end TopicBridge.Bridge
