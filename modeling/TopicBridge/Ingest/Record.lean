import TopicBridge.Bridge.Route
import TopicBridge.Bridge.Message
import TopicBridge.Num.Word
import TopicBridge.Text.Utf8

/-!
# Records from a log

The ingest worker reads **records** from a partitioned log: a topic, a partition, an offset,
header pairs and a value, possibly absent. A record travels the same way an HTTP request
does: it becomes a request on the ingest route, with the route's method and path, the id
`topic/partition/offset`, the remote address `kafka`, the header pairs added in order under
canonical names, and the value as body.

Records of one partition are always handled by the same **lane**: the absolute value of
the partition modulo the number of lanes, with 64-bit wrap-around and the remainder taking
the sign of the dividend.

* `TopicBridge.Ingest.Record.request`, `TopicBridge.Ingest.laneOf`,
  `TopicBridge.Ingest.ReaderSettings.normalize`.
-/

namespace TopicBridge.Ingest

open TopicBridge.Bridge TopicBridge.Net

/-- A record of the log. -/
structure Record where
  /-- The topic. -/
  topic : String := ""
  /-- The partition. -/
  partition : Int := 0
  /-- The offset within the partition. -/
  offset : Int := 0
  /-- The header pairs, in order. -/
  headers : List (String × ByteArray) := []
  /-- The value, absent for a tombstone. -/
  value : Option ByteArray := none
  deriving Inhabited

/-- The header map of a record: each pair added in order, values read as text. -/
def Record.headerMap (r : Record) : Headers :=
  r.headers.foldl (fun h (k, v) => h.add k (Text.ofBytes v)) {}

/-- The id a record's request carries. -/
def Record.requestId (r : Record) : String :=
  r.topic ++ "/" ++ toString r.partition ++ "/" ++ toString r.offset

/-- A record as a request on a route. -/
def Record.request (r : Record) (route : Route) : InboundRequest :=
  { method := route.method, path := route.path, requestId := r.requestId, remoteAddr := "kafka",
    headers := some r.headerMap, body := r.value }

/-- The lane of a partition among `lanes` lanes; none when there are no lanes to divide by. -/
def laneOf (partition lanes : Int) : Option Int :=
  if lanes = 0 then none
  else
    let p := if partition < 0 then Num.neg64 partition else partition
    some (p.tmod lanes)

/-- How the log is read. -/
structure ReaderSettings where
  /-- The log's brokers. -/
  brokers : List String := []
  /-- The consumer group. -/
  groupId : String := ""
  /-- The topic. -/
  topic : String := ""
  /-- The least bytes a fetch waits for. -/
  minBytes : Int := 0
  /-- The most bytes a fetch returns. -/
  maxBytes : Int := 0
  /-- How often offsets are committed, in nanoseconds. -/
  commitInterval : Int := 0
  /-- How long a fetch waits, in nanoseconds. -/
  maxWait : Int := 0
  deriving Repr, DecidableEq, Inhabited

/-- The default least bytes: one kibibyte. -/
def defaultMinBytes : Int := 1024

/-- The default most bytes: ten mebibytes. -/
def defaultMaxBytes : Int := 10 * 1024 * 1024

/-- The default commit interval: one second. -/
def defaultCommitInterval : Int := 1000000000

/-- The fetch wait: fifty milliseconds. -/
def fetchWait : Int := 50000000

/-- The reader settings of the ingest section: the commit interval in milliseconds
becomes nanoseconds with 64-bit wrap-around, and values that are not positive take
their defaults. -/
def readerSettings (brokers : List String) (groupId topic : String) (minBytes maxBytes commitMs : Int) :
    ReaderSettings :=
  let interval := Time.ofMillis commitMs
  { brokers, groupId, topic,
    minBytes := if minBytes ≤ 0 then defaultMinBytes else minBytes,
    maxBytes := if maxBytes ≤ 0 then defaultMaxBytes else maxBytes,
    commitInterval := if interval ≤ 0 then defaultCommitInterval else interval,
    maxWait := fetchWait }

end TopicBridge.Ingest
