import TopicBridge.Ingest.Record
import TopicBridge.Bridge.Publish
import TopicBridge.Ident.Ulid

/-!
# The ingest worker

The ingest worker feeds records through one bridge route, **at least once**: every record
is committed after its publish, whatever the outcome, since the outcome is already in the
journal. A tombstone – a record without a value – is not published: it is logged as
skipped and committed. A commit that fails is logged and changes nothing else.

Records are spread over **lanes** by partition, so the records of one partition are
published and committed in offset order by one lane. A run handles the records in the
order they are fetched, each on its partition's lane; a failed fetch is skipped.

The bridge's publisher is a family of publishers, one per call, so that the `n`-th publish
of the run can answer differently from the others.

* `TopicBridge.Ingest.processOne`, `TopicBridge.Ingest.run`.
-/

namespace TopicBridge.Ingest

open TopicBridge.Bridge TopicBridge.Log TopicBridge.Time

/-- The publisher that answers the `n`-th publish call. -/
abbrev Publishers := Nat → OutboundMessage → CallContext → Publication

/-- What the worker carries from record to record. -/
structure IngestState where
  /-- The identifiers handed out so far. -/
  ids : Ident.IdSource := {}
  /-- The clock. -/
  clock : Instant := clockStart
  /-- The publish calls made so far. -/
  calls : Nat := 0
  deriving Inhabited

/-- What handling one record did. -/
structure RecordOutcome where
  /-- The messages handed to the publisher. -/
  published : List OutboundMessage := []
  /-- The records committed. -/
  commits : List Record := []
  /-- The log entries of the worker and the bridge, in order. -/
  logs : List Entry := []
  /-- The journal rows recorded. -/
  rows : List Exchange := []

/-- Commits a record: the entries logged when the commit fails. -/
def commitLogs (commitError : Option String) (r : Record) : List Entry :=
  match commitError with
  | some e => [⟨.error, "kafka commit failed", [.num "offset" r.offset, .err e]⟩]
  | none => []

/-- Handles one record on a route through a bridge. -/
def processOne (b : BridgeSetup) (route : Route) (publish : Publishers) (commitError : Option String)
    (st : IngestState) (r : Record) : RecordOutcome × IngestState :=
  match r.value with
  | none =>
    let skip : Entry := ⟨.warn, "skipping empty record",
      [.str "topic" r.topic, .num "partition" r.partition, .num "offset" r.offset]⟩
    ({ commits := [r], logs := skip :: commitLogs commitError r }, st)
  | some _ =>
    let (id, ids) := st.ids.next st.clock
    let h := handle b id st.clock route (r.request route) false (publish st.calls)
    ({ published := [h.published], commits := [r], logs := h.logs ++ commitLogs commitError r,
       rows := h.rows },
     { ids, clock := h.finish, calls := st.calls + 1 })

/-- Handles records in order, each with its own outcome. -/
def processAll (b : BridgeSetup) (route : Route) (publish : Publishers) (commitError : Option String)
    (st : IngestState) : List Record → List RecordOutcome × IngestState
  | [] => ([], st)
  | r :: rs =>
    let (o, st) := processOne b route publish commitError st r
    let (os, st) := processAll b route publish commitError st rs
    (o :: os, st)

/-- The default number of lanes. -/
def defaultWorkers : Nat := 8

/-- The number of lanes a run uses. -/
def laneCount (workers : Int) : Nat := if workers ≤ 0 then defaultWorkers else workers.toNat

/-- A fetched item: a record, or a failed fetch. -/
inductive Fetched where
  /-- A record. -/
  | record (r : Record)
  /-- A fetch that failed with a text. -/
  | failed (text : String)

/-- What a run did. -/
structure RunOutcome where
  /-- The number of lanes. -/
  workers : Nat
  /-- The records committed by each lane, lanes without commits left out. -/
  commitsByLane : List (Nat × List Record)
  /-- The messages published. -/
  published : List OutboundMessage

/-- Why a run cannot start. -/
def missingParts : String := "ingest: consumer and bridge are required"

/-- Runs the worker over fetched items until they run out. -/
def run (hasConsumer hasBridge : Bool) (b : BridgeSetup) (route : Route) (workers : Int)
    (publish : Publishers) (commitError : Option String) (items : List Fetched) :
    Except String RunOutcome :=
  if !hasConsumer || !hasBridge then .error missingParts
  else
    let lanes := laneCount workers
    let records := items.filterMap fun
      | .record r => some r
      | .failed _ => none
    let (outs, _) := processAll b route publish commitError {} records
    let laneOfRecord (r : Record) : Nat := ((laneOf r.partition lanes).getD 0).toNat
    let committed := outs.flatMap (·.commits)
    let byLane := (List.range lanes).filterMap fun l =>
      match committed.filter (laneOfRecord · == l) with
      | [] => none
      | cs => some (l, cs)
    .ok { workers := lanes, commitsByLane := byLane, published := outs.flatMap (·.published) }

end TopicBridge.Ingest
