import TopicBridge.Net.Url
import TopicBridge.Net.Header
import TopicBridge.Text.Blank
/-!
# Requests

A **request** is what a client sends: a method, a target, header fields, a body, and the
address it comes from. The server reads the request line `METHOD TARGET HTTP/1.0` first:
* the line is cut at its first two spaces, so a target holding a space leaves a version
  that is not `HTTP/1.0`, and the line is refused;
* the method must be a non-empty run of token characters (an empty method is `GET`);
* the target is read as a request target (`TopicBridge.Net.Url.parseRequest`).

A body's length is **declared** unless it is sent in chunks.

**Paths.** Routing looks at the path as written when that differs from the plain escaping
of the unescaped path (so `/echo%2F` is not `/echo/`), and at the unescaped path
otherwise. Handlers see the unescaped path.

**Query parameters** are the `&`-separated pairs of the query, each cut at its first `=`
and unescaped with `+` read as a space. A pair holding `;` or an ill-formed escape is left
out. A parameter's value is the first one given.

**The client address** is the first entry of `X-Forwarded-For`, or `X-Real-Ip`, without
square brackets, or else the host part of the remote address.

* `TopicBridge.Http.Request.read`, `TopicBridge.Http.queryParam`, `TopicBridge.Http.clientAddress`.
-/

namespace TopicBridge.Http

open TopicBridge.Net TopicBridge.Text

/-- A request as a client sends it. -/
structure Request where
  /-- The method, as sent. -/
  method : String
  /-- The request target. -/
  target : String
  /-- The header fields. -/
  headers : Headers := {}
  /-- The body. -/
  body : ByteArray := ByteArray.empty
  /-- Whether the body's length is declared; a body sent in chunks has no declared length. -/
  lengthDeclared : Bool := true
  /-- The address the request comes from. -/
  remoteAddr : String := "192.0.2.1:1234"

/-- Why a request line cannot be read. -/
inductive LineError where
  /-- What follows the target is not the protocol version. -/
  | malformedVersion (proto : String)
  /-- The method is not a token. -/
  | invalidMethod (method : String)
  /-- The target is not a request target. -/
  | badTarget (e : String × UrlError)

/-- The text of a request line error. -/
def LineError.message : LineError → String
  | .malformedVersion p => "malformed HTTP version " ++ quote p
  | .invalidMethod m => "invalid method " ++ quote m
  | .badTarget e => urlErrorText "parse" e

/-- A request after its line has been read. -/
structure Incoming where
  /-- The method. -/
  method : String
  /-- The target. -/
  url : Url
  /-- The header fields. -/
  headers : Headers
  /-- The body. -/
  body : ByteArray
  /-- The declared length of the body, if declared. -/
  declaredLength : Option Nat
  /-- The address the request comes from. -/
  remoteAddr : String

/-- Cuts a text at the first occurrence of a character. -/
def cutText (s : String) (c : Char) : String × String :=
  match cutAt s.toList c with
  | (a, some b) => (String.ofList a, String.ofList b)
  | (a, none) => (String.ofList a, "")

/-- Reads the request line of a request. -/
def Request.read (r : Request) : Except LineError Incoming :=
  let method := if r.method.isEmpty then "GET" else r.method
  let (m, rest) := cutText (method ++ " " ++ r.target ++ " HTTP/1.0") ' '
  let (uri, proto) := cutText rest ' '
  if proto != "HTTP/1.0" then .error (.malformedVersion proto)
  else if m.isEmpty || !m.toList.all isTokenChar then .error (.invalidMethod m)
  else match Url.parseRequest uri with
    | .error e => .error (.badTarget e)
    | .ok url =>
      .ok { method := m, url, headers := r.headers, body := r.body,
            declaredLength := if r.lengthDeclared then some r.body.size else none,
            remoteAddr := r.remoteAddr }

/-- The path routing looks at: as written when that is not the plain escaping. -/
def Incoming.routingPath (r : Incoming) : Octets :=
  if r.url.rawPath.isEmpty then r.url.path else r.url.rawPath

/-- Splits bytes at every occurrence of a byte. -/
def splitBytes (c : Char) : Octets → List Octets
  | [] => [[]]
  | x :: xs =>
    match splitBytes c xs with
    | [] => [[]]
    | first :: more => if x = c then [] :: first :: more else (x :: first) :: more

/-- The parameters of a query, in order, with the pairs that cannot be read left out. -/
def queryPairs (q : Octets) : List (Octets × Octets) :=
  (splitBytes '&' q).filterMap fun piece =>
    if piece.isEmpty || piece.contains ';' then none
    else
      let (k, v) := cutAt piece '='
      match unescape .queryComponent k, unescape .queryComponent (v.getD []) with
      | .ok k, .ok v => some (k, v)
      | _, _ => none

/-- The first value of a query parameter, or the empty text. -/
def queryParam (q : Octets) (name : String) : String :=
  match (queryPairs q).find? (·.1 == octets name) with
  | some (_, v) => ofOctets v
  | none => ""

/-- A text without one leading `[` and one trailing `]`. -/
def stripBrackets (s : String) : String :=
  let cs := s.toList
  let cs := if cs.head? = some '[' then cs.drop 1 else cs
  String.ofList (if cs.getLast? = some ']' then cs.dropLast else cs)

/-- The host part of a `host:port` address, or the empty text when it has none. -/
def hostOfAddress (addr : String) : String :=
  let cs := addr.toList
  match lastIdx cs ':' with
  | none => ""
  | some i =>
    if cs.head? = some '[' then
      match cs.idxOf? ']' with
      | some e =>
        if e + 1 = i && !((cs.drop 1).contains '[') && !((cs.drop (e + 1)).contains ']') then
          String.ofList ((cs.drop 1).take (e - 1))
        else ""
      | none => ""
    else
      let host := cs.take i
      if host.contains ':' || cs.contains '[' || cs.contains ']' then "" else String.ofList host

/-- The address of the client a request comes from. -/
def clientAddress (headers : Headers) (remoteAddr : String) : String :=
  let forwarded := headers.get "X-Forwarded-For"
  if !forwarded.isEmpty then
    match forwarded.toList.idxOf? ',' with
    | some i =>
      if i > 0 then stripBrackets (trimBlank (String.ofList (forwarded.toList.take i))) else forwarded
    | none => forwarded
  else
    let real := headers.get "X-Real-Ip"
    if !real.isEmpty then stripBrackets real else hostOfAddress remoteAddr

example : queryPairs ['a', '=', '1', '&', '&', 'b', ';', '&', 'c'] = [(['a'], ['1']), (['c'], [])] := by
  decide

end TopicBridge.Http
