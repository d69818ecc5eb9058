import TopicBridge.Ingest.Worker

/-!
# The ingest run as communicating processes

`TopicBridge.Ingest.run` handles the fetched records one after another. The worker it
stands for is concurrent: one **fetcher** and one **worker per lane**, talking over the
lanes, which are first-in first-out channels holding at most two records, and all watching
one cancellation signal. Here that system is a state machine whose steps are the atomic
actions of the processes, so that its runs are all the interleavings.

* The fetcher fetches. A record goes on the lane of its partition once the lane has room; a
  failed fetch is followed by a pause. Once the run is cancelled, the fetcher may return
  instead of pausing or of waiting for room, and a fetch that fails makes it return. On
  returning it closes every lane.
* A worker takes the records of its lane one at a time and handles each as `processOne`
  does: a record without a value is committed at once; any other is handed to the bridge as
  the request of the record on the route, and committed once the bridge has answered,
  whatever the answer.
* The run returns when every worker has found its lane closed and empty.

Every fetched item gets a **tag**, its position among the fetches. Each call the processes
make on the world is logged with the tag of its record and the lane that made it.

A lane outside the lanes cannot be sent to; a run that fetches a record whose partition
falls outside them stops there.

* `TopicBridge.Ingest.Lanes.step`, `TopicBridge.Ingest.Lanes.exec`,
  `TopicBridge.Ingest.Lanes.System.returned`.
-/

namespace TopicBridge.Ingest.Lanes

open TopicBridge.Bridge

/-- The records a lane holds at most. -/
def capacity : Nat := 2

/-- The lane of a record among `n` lanes; none when `laneOf` falls outside them. -/
def laneIndex (n : Nat) (r : Record) : Option Nat :=
  match laneOf r.partition n with
  | some l => if 0 ≤ l ∧ l < n then some l.toNat else none
  | none => none

/-- What the fetcher is doing. -/
inductive Fetcher where
  /-- Waiting for a fetch to return. -/
  | fetching
  /-- Waiting out the pause after a failed fetch. -/
  | pausing
  /-- Holding a fetched record, with its tag, for its lane. -/
  | sending (tag : Nat) (r : Record) (lane : Nat)
  /-- Returned, every lane closed. -/
  | stopped

/-- How far a worker is with its record. -/
inductive Stage where
  /-- The record was taken from the lane. -/
  | taken
  /-- The bridge has been called and has not answered. -/
  | posting
  /-- The bridge has answered. -/
  | posted
  deriving DecidableEq, Repr

/-- What a lane's worker is doing. -/
inductive Worker where
  /-- Waiting for a record. -/
  | idle
  /-- Handling a record with a tag. -/
  | busy (tag : Nat) (r : Record) (stage : Stage)
  /-- Returned. -/
  | exited

/-- A lane and its worker. -/
structure Lane where
  /-- The records waiting, with their tags, oldest first. -/
  buffer : List (Nat × Record) := []
  /-- Whether the lane is closed. -/
  closed : Bool := false
  /-- The worker. -/
  worker : Worker := .idle

/-- A call a process makes on the world, with the lane that makes it or is sent to and the
tag of the record. -/
inductive Effect where
  /-- The fetcher puts a record on a lane. -/
  | place (lane tag : Nat)
  /-- A worker takes a record: its `processOne` starts. -/
  | start (lane tag : Nat)
  /-- A worker hands a request to the bridge. -/
  | handle (lane tag : Nat) (request : InboundRequest)
  /-- The bridge answers a worker. -/
  | handled (lane tag : Nat)
  /-- A worker commits a record. -/
  | commit (lane tag : Nat)

namespace Effect

/-- The lane that makes the call, or that a record is put on. -/
def lane : Effect → Nat
  | place l _ | start l _ | handle l _ _ | handled l _ | commit l _ => l

/-- The tag of the record the call is about. -/
def tag : Effect → Nat
  | place _ k | start _ k | handle _ k _ | handled _ k | commit _ k => k

/-- Whether a worker makes the call: every call but placing. -/
def isWork : Effect → Bool
  | place _ _ => false
  | start _ _ | handle _ _ _ | handled _ _ | commit _ _ => true

end Effect

/-- The state of a run. -/
structure System where
  /-- Whether the run has been cancelled. -/
  cancelled : Bool := false
  /-- The fetcher. -/
  fetcher : Fetcher := .fetching
  /-- What the fetches returned, in order: an item's tag is its position. -/
  fetched : List Fetched := []
  /-- The lanes, by number. -/
  lanes : List Lane
  /-- The calls made on the world, in order. -/
  log : List Effect := []

/-- A run before its first step, over `laneCount workers` lanes. -/
def System.start (workers : Int) : System := { lanes := List.replicate (laneCount workers) {} }

/-- The fetcher returns, closing every lane. -/
def System.stop (s : System) : System :=
  { s with fetcher := .stopped, lanes := s.lanes.map fun L => { L with closed := true } }

/-- Whether a worker has returned. -/
def Worker.isExited : Worker → Bool
  | .exited => true
  | _ => false

/-- Whether the run has returned: every worker has. -/
def System.returned (s : System) : Bool := s.lanes.all fun L => L.worker.isExited

/-- One atomic action of one process. -/
inductive Event where
  /-- The run is cancelled. -/
  | cancel
  /-- A fetch returns an item. -/
  | fetch (item : Fetched)
  /-- The pause after a failed fetch ends. -/
  | resume
  /-- The held record goes on its lane. -/
  | send
  /-- The fetcher sees the cancellation and returns. -/
  | quit
  /-- A lane's worker takes the next record. -/
  | take (lane : Nat)
  /-- A lane's worker calls the bridge. -/
  | call (lane : Nat)
  /-- The bridge answers a lane's worker. -/
  | answer (lane : Nat)
  /-- A lane's worker commits its record. -/
  | commit (lane : Nat)
  /-- A lane's worker finds its lane closed and empty, and returns. -/
  | exit (lane : Nat)

/-- A lane's worker moves on: the lane becomes `L` and the effect is logged. -/
def System.work (s : System) (l : Nat) (L : Lane) (e : Effect) : System :=
  { s with lanes := s.lanes.set l L, log := s.log ++ [e] }

/-- The system after an action, none when the action cannot happen. -/
def step (route : Route) (s : System) : Event → Option System
  | .cancel => some { s with cancelled := true }
  | .fetch item =>
    match s.fetcher with
    | .fetching =>
      let fetched := s.fetched ++ [item]
      match item with
      | .record r =>
        (laneIndex s.lanes.length r).map fun l =>
          { s with fetched, fetcher := .sending s.fetched.length r l }
      | .failed _ =>
        if s.cancelled then some { s with fetched }.stop
        else some { s with fetched, fetcher := .pausing }
    | _ => none
  | .resume =>
    match s.fetcher with
    | .pausing => some { s with fetcher := .fetching }
    | _ => none
  | .send =>
    match s.fetcher with
    | .sending k r l =>
      match s.lanes[l]? with
      | some L =>
        if L.buffer.length < capacity then
          some { s.work l { L with buffer := L.buffer ++ [(k, r)] } (.place l k) with
            fetcher := .fetching }
        else none
      | none => none
    | _ => none
  | .quit =>
    match s.cancelled, s.fetcher with
    | true, .pausing => some s.stop
    | true, .sending .. => some s.stop
    | _, _ => none
  | .take l =>
    match s.lanes[l]? with
    | some ⟨(k, r) :: rest, closed, .idle⟩ =>
      some (s.work l ⟨rest, closed, .busy k r .taken⟩ (.start l k))
    | _ => none
  | .call l =>
    match s.lanes[l]? with
    | some ⟨buffer, closed, .busy k r .taken⟩ =>
      if r.value.isSome then
        some (s.work l ⟨buffer, closed, .busy k r .posting⟩ (.handle l k (r.request route)))
      else none
    | _ => none
  | .answer l =>
    match s.lanes[l]? with
    | some ⟨buffer, closed, .busy k r .posting⟩ =>
      some (s.work l ⟨buffer, closed, .busy k r .posted⟩ (.handled l k))
    | _ => none
  | .commit l =>
    match s.lanes[l]? with
    | some ⟨buffer, closed, .busy k r stage⟩ =>
      -- a record without a value is committed without calling the bridge
      if stage = .posted ∨ (stage = .taken ∧ r.value.isNone) then
        some (s.work l ⟨buffer, closed, .idle⟩ (.commit l k))
      else none
    | _ => none
  | .exit l =>
    match s.lanes[l]? with
    | some ⟨[], true, .idle⟩ => some { s with lanes := s.lanes.set l ⟨[], true, .exited⟩ }
    | _ => none

/-- The system after a sequence of actions, none when one of them cannot happen. -/
def exec (route : Route) : System → List Event → Option System
  | s, [] => some s
  | s, e :: es => (step route s e).bind fun s' => exec route s' es

end TopicBridge.Ingest.Lanes
