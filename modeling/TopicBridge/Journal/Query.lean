import TopicBridge.Bridge.Exchange

/-!
# Listing exchanges

A listing of journalled exchanges is filtered by route and status, newest first, one page
at a time. A limit outside `1..1000` becomes 50 and a negative offset becomes 0. The query
text grows by one condition per filter given, and its arguments follow the placeholders in
order.

* `TopicBridge.Journal.ExchangeFilter.query`.
-/

namespace TopicBridge.Journal

open TopicBridge.Bridge

/-- A listing's filter; empty values match everything. -/
structure ExchangeFilter where
  /-- The route name. -/
  route : String := ""
  /-- The status word. -/
  status : String := ""
  /-- The page size. -/
  limit : Int := 0
  /-- The rows skipped. -/
  offset : Int := 0
  deriving Repr, DecidableEq, Inhabited

/-- An argument of a query. -/
inductive QueryArg where
  /-- A text. -/
  | text (s : String)
  /-- A number. -/
  | int (n : Int)
  deriving Repr, DecidableEq, Inhabited

/-- The default page size. -/
def defaultLimit : Int := 50

/-- The largest page size. -/
def maxLimit : Int := 1000

/-- The page size and offset actually used. -/
def ExchangeFilter.page (f : ExchangeFilter) : Int × Int :=
  (if f.limit ≤ 0 || f.limit > maxLimit then defaultLimit else f.limit, max f.offset 0)

/-- The start of the listing query. -/
def listHead : String :=
  "\n\t\tSELECT id, route, method, path, topic, broker, payload_size, status, error, latency_ms, created_at\n\t\tFROM bridge.exchanges_latest\n\t\tWHERE 1 = 1\n\t"

/-- The query text and its arguments. -/
def ExchangeFilter.query (f : ExchangeFilter) : String × List QueryArg :=
  let (limit, offset) := f.page
  let byRoute := if f.route.isEmpty then ("", []) else (" AND route = ?", [QueryArg.text f.route])
  let byStatus := if f.status.isEmpty then ("", []) else (" AND status = ?", [QueryArg.text f.status])
  (listHead ++ byRoute.1 ++ byStatus.1 ++ " ORDER BY created_at DESC LIMIT ? OFFSET ?",
    byRoute.2 ++ byStatus.2 ++ [.int limit, .int offset])

end TopicBridge.Journal
