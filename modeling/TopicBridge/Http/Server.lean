import TopicBridge.Http.Router
import TopicBridge.Http.Size
import TopicBridge.Http.Listing
import TopicBridge.Http.RateLimit
import TopicBridge.Bridge.Publish
import TopicBridge.Bridge.RouteTable
import TopicBridge.Ident.Ulid
/-!
# The HTTP server

The server answers:
* `GET /metrics` with the process metrics;
* `GET /healthz` with `ok`;
* `GET /readyz` with `ok` when the broker is connected, and 503 otherwise;
* `GET /v1/exchanges` with a listing of the journal (`TopicBridge.Http.Listing`), or 503
  when there is no journal;
* each route of the route table by publishing the request (`TopicBridge.Bridge.handle`).

Every request first gets an **id**: its own `X-Request-Id`, or a fresh one; the answer
carries it in `X-Request-Id`. Then the request is routed (`TopicBridge.Http.Router`). When a
**body limit** is set, a request whose declared length is above it is refused with 413
before anything answers it. A path that no pattern matches gets 404; a path matched for
other methods gets 405 with an `Allow` header, or 204 for `OPTIONS`. Those refusals carry
`{"message": <status text>}`, except for `HEAD`, which gets no body.

A **route** first asks the rate limiter (`TopicBridge.Http.RateLimit`) – 429 when the
client is over its limit – and then reads the body: a body sent in chunks that is longer
than the body limit is refused with 413. The request is then published. A publish that
timed out answers 504, one that failed 502, anything else 500, each with
`{"error": <text>}`. A successful one answers 200 with the exchange id in `X-Exchange-Id`
and the reply body – typed as the request was, or as an octet stream – or no body at all
when the reply is empty.

* `TopicBridge.Http.ServerSetup.start`, `TopicBridge.Http.Server.serve`,
  `TopicBridge.Http.Server.serveAll`.
-/

namespace TopicBridge.Http

open TopicBridge.Bridge TopicBridge.Net TopicBridge.Text TopicBridge.Time

/-- What answers a request. -/
inductive Endpoint where
  /-- The process metrics. -/
  | metrics
  /-- The liveness check. -/
  | health
  /-- The readiness check. -/
  | readiness
  /-- The journal listing. -/
  | exchanges
  /-- A route of the route table. -/
  | bridged (route : Route)

/-- An answer. -/
structure Response where
  /-- The status code. -/
  status : Nat
  /-- The header fields set. -/
  headers : Headers := {}
  /-- The body. -/
  body : ByteArray := ByteArray.empty

/-- An answer with the messages published while making it. -/
structure Served where
  /-- The answer. -/
  response : Response
  /-- The messages handed to the broker, in order. -/
  published : List OutboundMessage := []

/-- The text of a status code in a refusal. -/
def statusText : Nat → String
  | 404 => "Not Found"
  | 405 => "Method Not Allowed"
  | 413 => "Request Entity Too Large"
  | 500 => "Internal Server Error"
  | _ => ""

namespace Response

/-- A JSON answer. -/
def json (status : Nat) (headers : Headers) (v : JsonValue) : Response :=
  { status, headers := headers.set "Content-Type" "application/json", body := v.body.toUTF8 }

/-- A plain text answer. -/
def text (status : Nat) (headers : Headers) (s : String) : Response :=
  { status, headers := headers.set "Content-Type" "text/plain; charset=UTF-8", body := s.toUTF8 }

/-- A refusal: the status with its text as `{"message": ...}`, or no body for `HEAD`. -/
def refusal (method : String) (status : Nat) (headers : Headers) : Response :=
  if method = "HEAD" then { status, headers } else json status headers (.message "message" (statusText status))

/-- An error answer `{"error": ...}`. -/
def error (status : Nat) (headers : Headers) (text : String) : Response :=
  json status headers (.message "error" text)

end Response

/-- The content type of the metrics. -/
def metricsType : String := "text/plain; version=0.0.4; charset=utf-8"

/-- What a server is made of. -/
structure ServerSetup where
  /-- The body limit as written; empty for none. -/
  bodyLimit : String := ""
  /-- The routes to publish for. -/
  routes : RouteTable
  /-- The rate limiter of the routes. -/
  limiter : Limiter := {}
  /-- How requests are published. -/
  bridge : BridgeSetup := {}
  /-- The broker answering the `n`-th publish. -/
  publish : Nat → OutboundMessage → CallContext → Publication
  /-- Whether the broker is connected; none when there is no broker. -/
  ready : Option Bool := none
  /-- The journal listing, if there is a journal: the rows a filter gives, or an error. -/
  journal : Option (ExchangeFilter → Except String (List Exchange)) := none

/-- A server ready to answer. -/
structure Server where
  /-- What it is made of. -/
  setup : ServerSetup
  /-- The body limit in bytes, if set. -/
  limit : Option Int
  /-- The router. -/
  router : Router Endpoint

/-- The router of the server's own paths and of a route table. -/
def endpointRouter (t : RouteTable) : Router Endpoint :=
  let own : Router Endpoint :=
    (((({} : Router Endpoint).add "GET" "/metrics" .metrics).add "GET" "/healthz" .health).add
      "GET" "/readyz" .readiness).add "GET" "/v1/exchanges" .exchanges
  t.routes.foldl (fun r route => r.add route.method route.path (.bridged route)) own

/-- The text of an unreadable body limit. -/
def bodyLimitError (limit : String) : String := "echo: invalid body-limit=" ++ limit

/-- Starts a server; the body limit must be readable. -/
def ServerSetup.start (s : ServerSetup) : Except String Server := do
  let limit ← if s.bodyLimit.isEmpty then pure none else
    match parseSize s.bodyLimit with
    | some n => pure (some n)
    | none => throw (bodyLimitError s.bodyLimit)
  pure { setup := s, limit, router := endpointRouter s.routes }

/-- What a server carries from request to request. -/
structure ServerState where
  /-- The exchange ids handed out. -/
  ids : Ident.IdSource := {}
  /-- The clock. -/
  clock : Instant := clockStart
  /-- The publish calls made. -/
  calls : Nat := 0
  /-- The request ids made up. -/
  requestIds : Nat := 0
  /-- The rate limiter's counts. -/
  counts : Counts := []
  /-- The filters the journal was asked for, in order. -/
  listings : List ExchangeFilter := []

/-- The letters of made-up request ids. -/
def idLetters : List Char :=
  "ABCDEFGHIJKLMNOPQRSTUVWXYZabcdefghijklmnopqrstuvwxyz0123456789".toList

/-- The base-62 digits of a number, least significant first, `width` of them. -/
def idDigits (n : Nat) : Nat → List Char
  | 0 => []
  | w + 1 => idLetters.getD (n % 62) 'A' :: idDigits (n / 62) w

/-- The `n`-th made-up request id: 32 letters and digits. -/
def madeUpRequestId (n : Nat) : String := String.ofList (idDigits (n + 1) 32).reverse

/-- The status and text of a failed publish. -/
def publishRefusal (p : PublishFailure) : Nat × String :=
  if p.toFault.matches .publishTimedOut then (504, Sentinel.publishTimedOut.text)
  else if p.toFault.matches .publishFailed then (502, Sentinel.publishFailed.text)
  else (500, "internal error")

namespace Server

/-- Answers a request on a route, after the limiter and the body limit. -/
def bridged (srv : Server) (st : ServerState) (route : Route) (req : Incoming) (rid : String)
    (headers : Headers) : Served × ServerState :=
  let client := clientAddress req.headers req.remoteAddr
  match srv.setup.limiter.check Counts.ops st.counts st.clock client with
  | (.limited retry, counts) =>
    let headers := match retry with
      | some secs => headers.set "Retry-After" (toString secs)
      | none => headers
    ({ response := .error 429 headers "rate limited" }, { st with counts })
  | (.pass, counts) =>
    let st := { st with counts }
    let tooLong := match srv.limit, req.declaredLength with
      | some lim, none => decide ((req.body.size : Int) > lim)
      | _, _ => false
    if tooLong then ({ response := .refusal req.method 413 headers }, st) else
    let inbound : InboundRequest :=
      { method := req.method, path := ofOctets req.url.path, requestId := rid, remoteAddr := client,
        headers := some req.headers, body := some req.body }
    let (id, ids) := st.ids.next st.clock
    let h := handle srv.setup.bridge id st.clock route inbound false (srv.setup.publish st.calls)
    let st := { st with ids, clock := h.finish, calls := st.calls + 1 }
    let response : Response := match h.result with
      | .error p =>
        let (status, text) := publishRefusal p
        .error status headers text
      | .ok reply =>
        let headers := headers.set "X-Exchange-Id" reply.ack.id
        let body := bodyBytes reply.body
        if body.isEmpty then { status := 200, headers }
        else
          let given := req.headers.get "Content-Type"
          { status := 200, body,
            headers := headers.set "Content-Type" (if given.isEmpty then "application/octet-stream" else given) }
    ({ response, published := [h.published] }, st)

/-- Answers a journal listing. -/
def listing (srv : Server) (st : ServerState) (req : Incoming) (headers : Headers) : Response × ServerState :=
  match srv.setup.journal with
  | none => (.error 503 headers "journal disabled", st)
  | some list =>
    match readFilter req.url.rawQuery with
    | .error e => (.error 400 headers e, st)
    | .ok f =>
      let st := { st with listings := st.listings ++ [f] }
      match list f with
      | .error _ => (.error 500 headers "query failed", st)
      | .ok rows => (.json 200 headers (listingJson f rows), st)

/-- Answers one request. -/
def serve (srv : Server) (st : ServerState) (req : Incoming) : Served × ServerState :=
  let given := req.headers.get "X-Request-Id"
  let (rid, st) :=
    if given.isEmpty then (madeUpRequestId st.requestIds, { st with requestIds := st.requestIds + 1 })
    else (given, st)
  let headers := ({} : Headers).set "X-Request-Id" rid
  let routed := srv.router.find req.method req.routingPath
  let overLimit := match srv.limit, req.declaredLength with
    | some lim, some n => decide ((n : Int) > lim)
    | _, _ => false
  if overLimit then ({ response := .refusal req.method 413 headers }, st) else
  match routed with
  | .notFound => ({ response := .refusal req.method 404 headers }, st)
  | .notAllowed allow =>
    let headers := headers.set "Allow" allow
    if req.method = "OPTIONS" then ({ response := { status := 204, headers } }, st)
    else ({ response := .refusal req.method 405 headers }, st)
  | .handler .metrics => ({ response := { status := 200, headers := headers.set "Content-Type" metricsType } }, st)
  | .handler .health => ({ response := .text 200 headers "ok" }, st)
  | .handler .readiness =>
    if srv.setup.ready = some true then ({ response := .text 200 headers "ok" }, st)
    else ({ response := .error 503 headers "broker not connected" }, st)
  | .handler .exchanges =>
    let (response, st) := srv.listing st req headers
    ({ response }, st)
  | .handler (.bridged route) => srv.bridged st route req rid headers

/-- Answers requests in order; stops at the first request line that cannot be read. -/
def serveAll (srv : Server) : ServerState → List Request → Except LineError (List Served × ServerState)
  | st, [] => .ok ([], st)
  | st, r :: rs => do
    let req ← r.read
    let (out, st) := srv.serve st req
    let (outs, st) ← srv.serveAll st rs
    pure (out :: outs, st)

end Server

end TopicBridge.Http
