import TopicBridge.Bridge.Message
import TopicBridge.Bridge.Fault

/-!
# Delivering over any sinks

The dispatcher's delivery loop, over sinks of any kind. A sink is reached through three
calls: whether it is **ready**, whether it **admits** a call, and **deliver**. Each call is
answered over a **world** that holds everything the sinks see: their own state, the clock,
and the caller's context, which may end at any moment. Every call may change the world, so
a sink may answer differently each time it is asked, and the context may end between any
two calls.

A delivery is allowed a number of attempts (`TopicBridge.Relay.Retry.attemptsFor`: three
when fewer than one is asked for). Before each attempt the context is read; once it has
ended, the delivery stops with the context's own error. An attempt asks every sink in order
whether it is ready, picks among the ready ones round-robin by the turns taken so far, has
it admit the call, and hands it the event. The first delivery that succeeds ends the loop;
when every attempt has failed, the last attempt's failure is returned inside
`deliver event <id> after <n> attempts: <failure>`.

Every step is recorded with its answer (`TopicBridge.Relay.Retry.Step`), so what was asked
of which sink, and in which order, can be read off the record.

The dispatcher delivers through this loop, its own sinks making up the world
(`TopicBridge.Relay.Dispatcher.deliver`).

* `TopicBridge.Relay.Retry.deliver`.
-/

namespace TopicBridge.Relay

open TopicBridge.Bridge

/-- A sink as the dispatcher reaches it, over a world `W`: each call answers and leaves the
world changed. -/
structure SinkCalls (W : Type) where
  /-- Whether the sink would take a call. -/
  ready : W → Bool × W
  /-- Asks the sink to admit a call. -/
  acquire : W → Bool × W
  /-- Hands the sink an event. -/
  deliver : Event → W → Except Fault Unit × W

namespace Retry

/-- A step of a delivery, with its answer. -/
inductive Step where
  /-- The context was read before an attempt: its error, once it has ended. -/
  | check (err : Option Fault)
  /-- A sink was asked whether it is ready. -/
  | ready (sink : Nat) (answer : Bool)
  /-- A sink was asked to admit the call. -/
  | acquire (sink : Nat) (answer : Bool)
  /-- A sink was handed the event. -/
  | deliver (sink : Nat) (result : Except Fault Unit)

/-- Where a delivery stands: its result, the turns taken, the world, and the steps made. -/
structure Progress (W : Type) where
  /-- Success, or the failure so far. -/
  result : Except Fault Unit
  /-- The turns taken by the round-robin choice. -/
  turns : Nat
  /-- The world. -/
  world : W
  /-- The steps made, in order. -/
  steps : List Step

variable {W : Type}

/-- Asks each sink, numbered from `i` on, whether it is ready: the ready ones with their
numbers, the world afterwards, and the steps. -/
def poll : List (SinkCalls W) → Nat → W → List (Nat × SinkCalls W) × W × List Step
  | [], _, w => ([], w, [])
  | s :: ss, i, w =>
    let (ok, w) := s.ready w
    let (healthy, w, steps) := poll ss (i + 1) w
    (if ok then (i, s) :: healthy else healthy, w, .ready i ok :: steps)

/-- One attempt after `turns` turns: poll the sinks, pick a ready one round-robin, have it
admit the call, hand it the event. A turn is taken only when some sink is ready. -/
def tryOnce (sinks : List (SinkCalls W)) (ev : Event) (turns : Nat) (w : W) : Progress W :=
  let (healthy, w, polled) := poll sinks 0 w
  match healthy with
  | [] => ⟨.error (.named .noHealthySinks), turns, w, polled⟩
  | first :: _ =>
    let (i, s) := healthy.getD (turns % healthy.length) first
    let (ok, w) := s.acquire w
    if !ok then ⟨.error (.named .sinkNotAcquired), turns + 1, w, polled ++ [.acquire i false]⟩
    else
      let (r, w) := s.deliver ev w
      ⟨r, turns + 1, w, polled ++ [.acquire i true, .deliver i r]⟩

/-- The failure after all `attempts` attempts failed, the last with `last`. -/
def exhausted (ev : Event) (attempts : Nat) (last : Fault) : Fault :=
  .wrap ("deliver event " ++ ev.id ++ " after " ++ toString attempts ++ " attempts: ") last ""

/-- The last `k` attempts of a delivery allowed `attempts` in all, reading the context's
error off the world before each; `last` is the failure of the attempt before. -/
def attempt (sinks : List (SinkCalls W)) (ctxErr : W → Option Fault) (ev : Event)
    (attempts : Nat) : Nat → Nat → W → Fault → List Step → Progress W
  | 0, turns, w, last, steps => ⟨.error (exhausted ev attempts last), turns, w, steps⟩
  | k + 1, turns, w, _, steps =>
    match ctxErr w with
    | some e => ⟨.error e, turns, w, steps ++ [.check (some e)]⟩
    | none =>
      let r := tryOnce sinks ev turns w
      match r.result with
      | .ok () => { r with steps := steps ++ .check none :: r.steps }
      | .error f =>
        attempt sinks ctxErr ev attempts k r.turns r.world f (steps ++ .check none :: r.steps)

/-- The attempts a dispatcher makes: fewer than one means three. -/
def attemptsFor (maxAttempts : Int) : Nat := if maxAttempts < 1 then 3 else maxAttempts.toNat

/-- Delivers an event with `attempts` attempts, from `turns` turns taken and the world `w`. -/
def deliver (sinks : List (SinkCalls W)) (ctxErr : W → Option Fault) (attempts : Nat)
    (ev : Event) (turns : Nat) (w : W) : Progress W :=
  attempt sinks ctxErr ev attempts attempts turns w (.named .noHealthySinks) []

end Retry

end TopicBridge.Relay
