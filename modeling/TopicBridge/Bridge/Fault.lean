/-!
# Faults and their classification

A **fault** is an error value as the publish path sees it: a tree whose nodes carry a
text and may wrap further faults. Some faults are **named** and recognised by identity
wherever they sit in the tree: the ends of a context (deadline exceeded, cancelled), the
two publish failures, a closed connection, the dispatcher's two refusals. A node may also
**report whether it is a timeout**: an exceeded deadline and a missing acknowledgement do
so, and a foreign fault may report either answer.

A **publish failure** is the fault the bridge returns: a kind, the route and topic, and
the cause. Its text is `"<publish failed|publish timed out>: route=R topic=T: cause"`,
and it matches the named fault of its kind.

**Classification** of a publisher's fault: if the tree holds a publish failure, the first
one in depth-first order is returned unchanged. Otherwise the fault becomes the cause of a
new failure for the route, which is a timeout when an exceeded deadline sits in the tree or
the first node that reports on timeouts says yes, and a plain publish failure otherwise.

* `TopicBridge.Bridge.Fault.text`, `TopicBridge.Bridge.Fault.matches`,
  `TopicBridge.Bridge.classify`.
-/

namespace TopicBridge.Bridge

/-- Faults recognised by identity. -/
inductive Sentinel where
  /-- A context's deadline passed. -/
  | deadlineExceeded
  /-- A context was cancelled. -/
  | canceled
  /-- The broker was unreachable or refused the message. -/
  | publishFailed
  /-- No acknowledgement arrived in time. -/
  | publishTimedOut
  /-- The broker connection is down. -/
  | notConnected
  /-- No sink was ready. -/
  | noHealthySinks
  /-- The chosen sink refused the call. -/
  | sinkNotAcquired
  deriving Repr, DecidableEq, Inhabited

/-- The text of a named fault. -/
def Sentinel.text : Sentinel → String
  | .deadlineExceeded => "context deadline exceeded"
  | .canceled => "context canceled"
  | .publishFailed => "publish failed"
  | .publishTimedOut => "publish timed out"
  | .notConnected => "mqtt: not connected"
  | .noHealthySinks => "no healthy sinks"
  | .sinkNotAcquired => "sink not acquired"

/-- The kind of a publish failure; any other code is kept as it is. -/
inductive FailureKind where
  /-- Code 1: the broker was unreachable or refused. -/
  | publishFailed
  /-- Code 2: no acknowledgement in time. -/
  | timedOut
  /-- Any other code. -/
  | other (code : Int)
  deriving Repr, DecidableEq, Inhabited

/-- The number of a kind. -/
def FailureKind.code : FailureKind → Int
  | .publishFailed => 1
  | .timedOut => 2
  | .other c => c

/-- The kind of a number. -/
def FailureKind.ofCode (c : Int) : FailureKind :=
  if c = 1 then .publishFailed else if c = 2 then .timedOut else .other c

/-- The word of a kind. -/
def FailureKind.label : FailureKind → String
  | .publishFailed => "publish_failed"
  | .timedOut => "timeout"
  | .other _ => "unknown"

/-- The named fault a failure of this kind matches: only code 2 is a timeout. -/
def FailureKind.sentinel : FailureKind → Sentinel
  | .timedOut => .publishTimedOut
  | _ => .publishFailed

/-- An error value on the publish path. -/
inductive Fault where
  /-- A fault recognised by identity. -/
  | named (s : Sentinel)
  /-- A fault that is only its text. -/
  | plain (text : String)
  /-- A fault with a text that reports whether it is a timeout. -/
  | reporting (text : String) (timedOut : Bool)
  /-- A cause with text around it: `before ++ cause ++ after`. -/
  | wrap (before : String) (cause : Fault) (after : String)
  /-- The broker did not acknowledge a publish on a topic in time; reports a timeout. -/
  | ackTimeout (topic : String) (cause : Fault)
  /-- A publish failure of a route and topic, with a possibly absent cause. -/
  | publish (kind : FailureKind) (route topic : String) (cause : Option Fault)
  /-- Several faults together, their texts on separate lines. -/
  | joined (parts : List Fault)
  deriving Repr, Inhabited

mutual
/-- The text of a fault. -/
def Fault.text : Fault → String
  | .named s => s.text
  | .plain t => t
  | .reporting t _ => t
  | .wrap b c a => b ++ c.text ++ a
  | .ackTimeout t c => "mqtt: no ack for topic " ++ t ++ ": " ++ c.text
  | .publish k r t c => k.sentinel.text ++ ": route=" ++ r ++ " topic=" ++ t ++ ": " ++ Fault.causeText c
  | .joined ps => Fault.linesText ps

/-- The text of a possibly absent cause. -/
def Fault.causeText : Option Fault → String
  | some c => c.text
  | none => "<nil>"

/-- The texts of faults, one per line. -/
def Fault.linesText : List Fault → String
  | [] => ""
  | [p] => p.text
  | p :: ps => p.text ++ "\n" ++ Fault.linesText ps
end

mutual
/-- Whether the named fault sits in the tree, or a publish failure of its kind does. -/
def Fault.matches : Fault → Sentinel → Bool
  | .named s, t => s == t
  | .plain _, _ => false
  | .reporting _ _, _ => false
  | .wrap _ c _, t => c.matches t
  | .ackTimeout _ c, t => c.matches t
  | .publish k _ _ c, t => k.sentinel == t || Fault.causeMatches c t
  | .joined ps, t => Fault.anyMatches ps t

/-- Whether a possibly absent cause matches. -/
def Fault.causeMatches : Option Fault → Sentinel → Bool
  | some c, t => c.matches t
  | none, _ => false

/-- Whether one of the faults matches. -/
def Fault.anyMatches : List Fault → Sentinel → Bool
  | [], _ => false
  | p :: ps, t => p.matches t || Fault.anyMatches ps t
end

/-- A publish failure as a record. -/
structure PublishFailure where
  /-- The kind. -/
  kind : FailureKind
  /-- The route name. -/
  route : String
  /-- The topic. -/
  topic : String
  /-- The cause, possibly absent. -/
  cause : Option Fault
  deriving Inhabited

/-- The failure as a fault. -/
def PublishFailure.toFault (p : PublishFailure) : Fault := .publish p.kind p.route p.topic p.cause

/-- The text of a failure. -/
def PublishFailure.text (p : PublishFailure) : String := p.toFault.text

mutual
/-- The first publish failure in the tree, depth first. -/
def Fault.findPublish : Fault → Option PublishFailure
  | .named _ => none
  | .plain _ => none
  | .reporting _ _ => none
  | .wrap _ c _ => c.findPublish
  | .ackTimeout _ c => c.findPublish
  | .publish k r t c => some ⟨k, r, t, c⟩
  | .joined ps => Fault.firstPublish ps

/-- The first publish failure among faults. -/
def Fault.firstPublish : List Fault → Option PublishFailure
  | [] => none
  | p :: ps => match p.findPublish with
    | some f => some f
    | none => Fault.firstPublish ps
end

mutual
/-- The answer of the first node, depth first, that reports whether it is a timeout. -/
def Fault.timeoutReport : Fault → Option Bool
  | .named s => if s = .deadlineExceeded then some true else none
  | .plain _ => none
  | .reporting _ b => some b
  | .wrap _ c _ => c.timeoutReport
  | .ackTimeout _ _ => some true
  | .publish _ _ _ c => Fault.causeReport c
  | .joined ps => Fault.firstReport ps

/-- The report of a possibly absent cause. -/
def Fault.causeReport : Option Fault → Option Bool
  | some c => c.timeoutReport
  | none => none

/-- The first report among faults. -/
def Fault.firstReport : List Fault → Option Bool
  | [] => none
  | p :: ps => match p.timeoutReport with
    | some b => some b
    | none => Fault.firstReport ps
end

/-- Whether a fault counts as a timeout: an exceeded deadline in the tree, or a yes from
the first node that reports. -/
def Fault.isTimeout (f : Fault) : Bool :=
  f.matches .deadlineExceeded || f.timeoutReport == some true

/-- The failure the bridge returns for a publisher's fault on a route and topic. -/
def classify (route topic : String) (f : Fault) : PublishFailure :=
  match f.findPublish with
  | some p => p
  | none => { kind := if f.isTimeout then .timedOut else .publishFailed, route, topic, cause := some f }

/-- The status a failure is journalled with. -/
def PublishFailure.isTimeoutKind (p : PublishFailure) : Bool := p.kind == .timedOut

end TopicBridge.Bridge
