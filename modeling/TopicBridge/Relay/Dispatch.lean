import TopicBridge.Relay.Breaker
import TopicBridge.Relay.Retry
import TopicBridge.Net.Client
import TopicBridge.Bridge.Message
import TopicBridge.Bridge.Fault

/-!
# Dispatching events to sinks

A **sink** is a destination for events: a **scripted** sink answers from a list given in
advance, an **HTTP sink** posts the event in CloudEvents binary mode and is guarded by a
breaker.

The **dispatcher** spreads events round-robin over the sinks that are ready: each attempt
counts one turn and picks, among the ready sinks in their order, the one at the turn's
position. The chosen sink must then admit the call. Up to `maxAttempts` attempts are made
(3 when fewer than one is asked for); the first success ends the delivery, and otherwise
the last failure is returned as `deliver event <id> after <n> attempts: <failure>`. The
caller's context is read before each attempt, and once it has ended the delivery stops
with its error.

A delivery is the loop of `TopicBridge.Relay.Retry` over the dispatcher's own sinks. Every
call on a sink reads the clock once, and a breaker is asked, and a failure stamped, at the
instant of that reading: the instants of one delivery are the successive readings of a
clock, `clock n` for the `n`-th. The context read before an attempt is the context as it
stands after the readings taken so far.

* `TopicBridge.Relay.Dispatcher.deliver`.
-/

namespace TopicBridge.Relay

open TopicBridge.Bridge TopicBridge.Net

/-- A sink whose readiness and answers are fixed in advance. -/
structure ScriptedSink where
  /-- The sink's name. -/
  name : String
  /-- Whether it reports ready. -/
  ready : Bool
  /-- Whether it admits a call. -/
  admits : Bool
  /-- The answers to deliveries in turn, the last repeating: none for success. -/
  results : List (Option String)
  /-- The deliveries made so far. -/
  delivered : Nat := 0
  deriving Repr, Inhabited

/-- A sink that posts events over HTTP, guarded by a breaker. -/
structure HttpSink where
  /-- The sink's name. -/
  name : String
  /-- The URL posted to. -/
  url : String
  /-- The time the client allows one post, in nanoseconds; one that is not positive sets
  no limit. -/
  timeout : Int
  /-- The breaker. -/
  breaker : Breaker
  deriving Repr, Inhabited

/-- The default time allowed for one post, in milliseconds: three seconds. -/
def defaultSinkTimeoutMs : Int := 3000

/-- An HTTP sink. A timeout that is not positive takes the default before it becomes a
duration; the cool-down becomes a duration first, and the breaker defaults it when that is
not positive. -/
def HttpSink.new (name url : String) (timeoutMs threshold openForMs : Int) : HttpSink :=
  { name, url,
    timeout := Time.ofMillis (if timeoutMs ≤ 0 then defaultSinkTimeoutMs else timeoutMs),
    breaker := Breaker.new threshold (Time.ofMillis openForMs) }

/-- An event destination. -/
inductive Sink where
  /-- A scripted sink. -/
  | scripted (s : ScriptedSink)
  /-- An HTTP sink. -/
  | http (s : HttpSink)
  deriving Repr, Inhabited

/-- A delivery that reached a sink. -/
inductive Delivery where
  /-- A scripted sink was handed an event. -/
  | scripted (sink eventId : String)
  /-- A server behind an HTTP sink received a request and answered with a status. -/
  | http (sink : String) (status : Nat) (headers : Headers) (body : ByteArray)

/-- The CloudEvents header fields of an event. -/
def eventHeaders (ev : Event) : Headers :=
  ({} : Headers)
    |>.set "Ce-Specversion" "1.0"
    |>.set "Ce-Id" ev.id
    |>.set "Ce-Type" ev.type
    |>.set "Ce-Source" ev.source
    |>.set "Ce-Subject" ev.topic
    |>.set "Ce-Time" ev.receivedAt.utc.render
    |>.set "Content-Type" "application/octet-stream"

namespace Sink

/-- The sink's name. -/
def name : Sink → String
  | .scripted s => s.name
  | .http s => s.name

/-- Whether the sink would admit a call at an instant. -/
def ready (s : Sink) (now : Int) : Bool :=
  match s with
  | .scripted s => s.ready
  | .http s => s.breaker.ready now

/-- Asks the sink to admit a call at an instant. -/
def acquire (s : Sink) (now : Int) : Bool × Sink :=
  match s with
  | .scripted s => (s.admits, .scripted s)
  | .http s =>
    let (ok, b) := s.breaker.acquire now
    (ok, .http { s with breaker := b })

/-- Delivers an event at an instant over a network: the result, the sink afterwards, and
the deliveries that reached something. -/
def deliver (s : Sink) (net : Network) (now : Int) (ev : Event) :
    Except Fault Unit × Sink × List Delivery :=
  match s with
  | .scripted s =>
    let answer := s.results.getD (min s.delivered (s.results.length - 1)) none
    let r : Except Fault Unit := match answer with
      | none => .ok ()
      | some e => .error (.plain e)
    (r, .scripted { s with delivered := s.delivered + 1 }, [.scripted s.name ev.id])
  | .http s =>
    let headers := eventHeaders ev
    let body := bodyBytes ev.payload
    match post net s.url headers body with
    | .error e => (.error (.plain e), .http { s with breaker := s.breaker.onFailure now }, [])
    | .ok status =>
      let calls := [Delivery.http s.name status headers body]
      if status / 100 != 2 then
        (.error (.plain ("sink=" ++ s.name ++ " status=" ++ toString status)),
          .http { s with breaker := s.breaker.onFailure now }, calls)
      else (.ok (), .http { s with breaker := s.breaker.onSuccess }, calls)

end Sink

/-- Sinks with round-robin selection and retries. -/
structure Dispatcher where
  /-- The sinks, in order. -/
  sinks : List Sink
  /-- The attempts per delivery; at least one. -/
  maxAttempts : Nat
  /-- The turns taken so far. -/
  turns : Nat := 0
  deriving Repr, Inhabited

/-- A dispatcher; fewer than one attempt means three. -/
def Dispatcher.new (sinks : List Sink) (maxAttempts : Int) : Dispatcher :=
  { sinks, maxAttempts := if maxAttempts < 1 then 3 else maxAttempts.toNat }

/-- What a delivery did. -/
structure Dispatched where
  /-- The dispatcher afterwards. -/
  next : Dispatcher
  /-- Success, or the failure. -/
  result : Except Fault Unit
  /-- The deliveries that reached a sink, in order. -/
  calls : List Delivery

namespace Dispatcher

/-- The world of a delivery: the sinks, the deliveries that reached a server so far, and
the readings of the clock taken so far. -/
structure World where
  /-- The sinks, in order. -/
  sinks : List Sink
  /-- The deliveries that reached a server, in order. -/
  calls : List Delivery := []
  /-- The readings of the clock taken. -/
  readings : Nat := 0

end Dispatcher

/-- The dispatcher's sink `i` as a delivery reaches it, over a network and a clock whose
`n`-th reading shows `clock n`. Each call takes one reading: the breaker is asked at its
instant, and a failure is stamped with it. A reading the sink does not look at changes
nothing but the count. -/
def Sink.callsAt (net : Network) (clock : Nat → Int) (i : Nat) : SinkCalls Dispatcher.World where
  ready w :=
    ((w.sinks.getD i default).ready (clock w.readings), { w with readings := w.readings + 1 })
  acquire w :=
    let (ok, s) := (w.sinks.getD i default).acquire (clock w.readings)
    (ok, { w with sinks := w.sinks.set i s, readings := w.readings + 1 })
  deliver ev w :=
    let (r, s, calls) := (w.sinks.getD i default).deliver net (clock w.readings) ev
    (r, { sinks := w.sinks.set i s, calls := w.calls ++ calls, readings := w.readings + 1 })

section CallsAt

variable (net : Network) (clock : Nat → Int) (i : Nat) (w : Dispatcher.World)

@[simp] theorem Sink.callsAt_ready :
    (Sink.callsAt net clock i).ready w =
      ((w.sinks.getD i default).ready (clock w.readings), { w with readings := w.readings + 1 }) :=
  rfl

@[simp] theorem Sink.callsAt_acquire :
    (Sink.callsAt net clock i).acquire w =
      (((w.sinks.getD i default).acquire (clock w.readings)).1,
        { w with sinks := w.sinks.set i ((w.sinks.getD i default).acquire (clock w.readings)).2,
                 readings := w.readings + 1 }) :=
  rfl

@[simp] theorem Sink.callsAt_deliver (ev : Event) :
    (Sink.callsAt net clock i).deliver ev w =
      (((w.sinks.getD i default).deliver net (clock w.readings) ev).1,
        { sinks := w.sinks.set i ((w.sinks.getD i default).deliver net (clock w.readings) ev).2.1,
          calls := w.calls ++ ((w.sinks.getD i default).deliver net (clock w.readings) ev).2.2,
          readings := w.readings + 1 }) :=
  rfl

end CallsAt

namespace Dispatcher

/-- Delivers an event over a network. The `n`-th reading of the clock shows `clock n`, and
the context read after `n` readings shows `ctx n`: its error, once it has ended. -/
def deliver (d : Dispatcher) (net : Network) (clock : Nat → Int) (ctx : Nat → Option Fault)
    (ev : Event) : Dispatched :=
  let r := Retry.deliver ((List.range d.sinks.length).map (Sink.callsAt net clock))
    (fun w => ctx w.readings) d.maxAttempts ev d.turns { sinks := d.sinks }
  ⟨{ d with sinks := r.world.sinks, turns := r.turns }, r.result, r.world.calls⟩

end Dispatcher

end TopicBridge.Relay
