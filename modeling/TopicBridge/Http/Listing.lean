import TopicBridge.Http.JsonValue
import TopicBridge.Http.Request
import TopicBridge.Bridge.Exchange
import TopicBridge.Num.Literal
/-!
# Listing exchanges

`GET /v1/exchanges` lists journal rows. Its query gives the **filter**:
* `limit` – an integer from 1 to 1000; anything else, or nothing, means 50;
* `offset` – a non-negative integer; anything else means 0;
* `status` – after trimming blanks, empty or one of `published`, `failed`, `timeout`
  exactly; any other word refuses the listing;
* `route` – the route name, blanks trimmed.

The answer is an object with the number of rows, the limit and offset used, and the rows –
`null` when there are none. A row is an object with the exchange's id, route, method,
path, topic, broker, payload size, status, error (left out when empty), latency in
milliseconds and creation instant, in that order.

* `TopicBridge.Http.readFilter`, `TopicBridge.Http.listingJson`.
-/

namespace TopicBridge.Http

open TopicBridge.Bridge TopicBridge.Text

/-- What a listing asks the journal for. -/
structure ExchangeFilter where
  /-- The most rows to give. -/
  limit : Nat := 50
  /-- The rows to skip. -/
  offset : Nat := 0
  /-- The route name, or empty for every route. -/
  route : String := ""
  /-- The status, if only one is wanted. -/
  status : Option ExchangeStatus := none
  deriving Repr, DecidableEq, Inhabited

/-- A decimal integer that fits 64 bits, as a query gives it. -/
def queryInt? (v : String) : Option Int := (Num.parseSigned v 10 64).toOption

/-- The limit a query asks for. -/
def readLimit (v : String) : Nat :=
  match queryInt? v with
  | some n => if 0 < n ∧ n ≤ 1000 then n.toNat else 50
  | none => 50

/-- The offset a query asks for. -/
def readOffset (v : String) : Nat :=
  match queryInt? v with
  | some n => if 0 ≤ n then n.toNat else 0
  | none => 0

/-- The filter a query asks for; an unknown status is refused. -/
def readFilter (q : Octets) : Except String ExchangeFilter :=
  let raw := trimBlank (queryParam q "status")
  let status := if raw.isEmpty then some none else (ExchangeStatus.ofLabel? raw).map some
  match status with
  | none => .error "invalid status"
  | some status =>
    .ok { limit := readLimit (queryParam q "limit"), offset := readOffset (queryParam q "offset"),
          route := trimBlank (queryParam q "route"), status }

/-- A journal row as the listing shows it. -/
def exchangeJson (x : Exchange) : JsonValue :=
  .obj ([("id", .str x.id), ("route", .str x.route), ("method", .str x.method), ("path", .str x.path),
    ("topic", .str x.topic), ("broker", .str x.broker), ("payload_size", .int x.payloadSize),
    ("status", .str x.status.label)] ++
    (if x.error.isEmpty then [] else [("error", .str x.error)]) ++
    [("latency_ms", .int x.latencyMs), ("created_at", .str x.createdAt.render)])

/-- The answer to a listing. -/
def listingJson (f : ExchangeFilter) (rows : List Exchange) : JsonValue :=
  .obj [("count", .int rows.length), ("limit", .int f.limit), ("offset", .int f.offset),
    ("results", if rows.isEmpty then .null else .arr (rows.map exchangeJson))]

example : readLimit "0" = 50 := by decide

end TopicBridge.Http
