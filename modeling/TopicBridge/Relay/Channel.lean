import TopicBridge.Relay.Worker

/-!
# The relay run as communicating processes

`TopicBridge.Relay.RelaySetup.run` lets every message arrive before any worker runs. The relay
it stands for is concurrent: the subscription's **handler**, called once per message, and the
**workers**, talking over a channel that holds at most `bufferSize` events, all watching one
cancellation signal. Here that system is a state machine whose steps are the atomic actions
of the processes, so that its runs are all the interleavings.

* A message arrives: the handler makes its event, with the next identifier of the source and
  the instant of the clock in UTC, and offers it to the channel without waiting. The event is
  queued when the channel has room, and dropped with a warning otherwise.
* An idle worker takes the oldest queued event. It logs the event and hands it to the
  deliverer; once the deliverer answers, it logs the failure, if any, and is idle again.
* Once the run is cancelled, an idle worker may return, even with events still queued: a
  worker waiting on both the channel and the cancellation takes either.

Every arrival gets a **tag**, its position among the arrivals. Each call the processes make on
the world is logged with the tag of the event it is about.

The identifier source is a parameter, as for the relay run: a state `G` and a draw giving the
next identifier and the state after it.

* `TopicBridge.Relay.Channel.step`, `TopicBridge.Relay.Channel.exec`.
-/

namespace TopicBridge.Relay.Channel

open TopicBridge.Bridge TopicBridge.Log TopicBridge.Time

/-- What a worker is doing. -/
inductive Worker where
  /-- Waiting for an event or for the cancellation. -/
  | idle
  /-- Holding an event, with its tag, taken from the channel and not yet handed on. -/
  | holding (tag : Nat) (ev : Event)
  /-- Waiting for the deliverer to answer about an event. -/
  | delivering (tag : Nat) (ev : Event)
  /-- Returned. -/
  | exited

/-- A call a process makes on the world, with the tag of the event it is about. -/
inductive Effect where
  /-- The handler makes the event of an arrival. -/
  | made (tag : Nat) (ev : Event)
  /-- An entry is logged. -/
  | log (tag : Nat) (e : Entry)
  /-- A worker hands an event to the deliverer. -/
  | deliver (worker tag : Nat) (ev : Event)
  /-- The deliverer answers a worker. -/
  | answered (worker tag : Nat) (result : Except Fault Unit)

/-- The state of a run, whose identifier source has states `G`. -/
structure System (G : Type) where
  /-- Whether the run has been cancelled. -/
  cancelled : Bool := false
  /-- The state of the source of event identifiers. -/
  ids : G
  /-- The number of messages that have arrived: the tag of the next one. -/
  arrivals : Nat := 0
  /-- The events queued in the channel, with their tags, oldest first. -/
  buffer : List (Nat × Event) := []
  /-- The workers, by number. -/
  workers : List Worker
  /-- The calls made on the world, in order. -/
  log : List Effect := []

/-- A run once subscribed: the channel empty and every worker idle. -/
def System.start {G : Type} (r : RelaySetup) (ids : G) : System G :=
  { ids, workers := List.replicate r.workerCount .idle }

/-- A message handed to the handler, with the instant the clock reads then. -/
structure Arrival where
  /-- The topic it came on. -/
  topic : String
  /-- Its payload. -/
  payload : Option ByteArray
  /-- The instant of the clock. -/
  now : Instant

/-- One atomic action of one process. -/
inductive Action where
  /-- A message arrives. -/
  | arrive (m : Arrival)
  /-- An idle worker takes the oldest queued event. -/
  | take (worker : Nat)
  /-- A worker logs its event and hands it to the deliverer. -/
  | call (worker : Nat)
  /-- The deliverer answers a worker. -/
  | answer (worker : Nat) (result : Except Fault Unit)
  /-- The run is cancelled. -/
  | cancel
  /-- An idle worker sees the cancellation and returns. -/
  | exit (worker : Nat)

/-- Worker `w` moves on: it becomes `W` and the calls `es` are logged. -/
def System.work {G : Type} (s : System G) (w : Nat) (W : Worker) (es : List Effect) :
    System G :=
  { s with workers := s.workers.set w W, log := s.log ++ es }

/-- The event the handler makes of a message, under the next identifier. -/
def System.nextEvent {G : Type} (r : RelaySetup) (draw : G → String × G) (s : System G)
    (m : Arrival) : Event :=
  r.newEvent (draw s.ids).1 m.topic m.payload m.now

/-- The handler's part for a message: its event is made, then queued when the channel has
room, and otherwise dropped with a warning. -/
def System.arrive {G : Type} (r : RelaySetup) (draw : G → String × G) (s : System G)
    (m : Arrival) : System G :=
  let k := s.arrivals
  let ev := s.nextEvent r draw m
  if s.buffer.length < r.bufferSize then
    { s with ids := (draw s.ids).2, arrivals := k + 1, buffer := s.buffer ++ [(k, ev)],
             log := s.log ++ [.made k ev] }
  else
    { s with ids := (draw s.ids).2, arrivals := k + 1,
             log := s.log ++ [.made k ev, .log k (RelaySetup.droppedEntry ev)] }

/-- The system after an action, none when the action cannot happen. -/
def step {G : Type} (r : RelaySetup) (draw : G → String × G) (s : System G) :
    Action → Option (System G)
  | .arrive m => some (s.arrive r draw m)
  | .take w =>
    match s.workers[w]?, s.buffer with
    | some .idle, (k, ev) :: rest => some { s.work w (.holding k ev) [] with buffer := rest }
    | _, _ => none
  | .call w =>
    match s.workers[w]? with
    | some (.holding k ev) =>
      some (s.work w (.delivering k ev) ((r.eventLogs ev).map (.log k) ++ [.deliver w k ev]))
    | _ => none
  | .answer w result =>
    match s.workers[w]? with
    | some (.delivering k ev) =>
      some (s.work w .idle
        (.answered w k result :: (RelaySetup.failureLogs ev result).map (.log k)))
    | _ => none
  | .cancel => some { s with cancelled := true }
  | .exit w =>
    match s.workers[w]? with
    | some .idle => if s.cancelled then some (s.work w .exited []) else none
    | _ => none

/-- The system after a sequence of actions, none when one of them cannot happen. -/
def exec {G : Type} (r : RelaySetup) (draw : G → String × G) :
    System G → List Action → Option (System G)
  | s, [] => some s
  | s, a :: as => (step r draw s a).bind fun s' => exec r draw s' as

end TopicBridge.Relay.Channel
