import TopicBridge.Net.Url
import TopicBridge.Net.Header

/-!
# Posting over a network

An HTTP POST as a client makes it: the URL is read (a failure is reported as
`parse "<url>": <reason>`), an empty port is dropped from the host, and only `http` and
`https` URLs with a host are sent. Nor is a request whose header fields a server could
misread: a name that is not a token, or a value holding a control character other than a
tab, such as a line break (`net/http: invalid header field value for "<name>"`). When
several fields are refused, the client names one of them; here it is the first.

The request goes to the host and port of the URL (port 80 or 443 by default) over a
**network**, which either answers with a status or fails to reach the server; such failures
are reported as `Post "<url>": <reason>`, with a password in the URL replaced by stars.

The network is a parameter. The one the bridge is observed in reaches nothing: dialling an
IP address fails with `connect: network is unreachable`, and a name cannot be looked up.

* `TopicBridge.Net.post`, `TopicBridge.Net.Headers.refusal`,
  `TopicBridge.Net.Network.unreachable`.
-/

namespace TopicBridge.Net

open TopicBridge.Text

/-- A request as a server receives it. -/
structure HttpRequest where
  /-- The method. -/
  method : String
  /-- The URL, as sent. -/
  url : String
  /-- The header fields. -/
  headers : Headers
  /-- The body. -/
  body : ByteArray

/-- What the network does with a request sent to a host and a port: the status the
server answers with, or why the server could not be reached. -/
structure Network where
  /-- Sends a request to a host and a port. -/
  send : String → String → HttpRequest → Except String Nat

/-- Whether a text is a dotted IPv4 address without leading zeros. -/
def isIpv4 (s : String) : Bool :=
  let parts := s.splitOn "."
  parts.length == 4 && parts.all fun p =>
    !p.isEmpty && p.length ≤ 3 && p.all Char.isDigit && p.toNat! ≤ 255 &&
      (p.length == 1 || p.front != '0')

/-- Whether a host is an IP address rather than a name. -/
def isIpHost (h : String) : Bool := isIpv4 h || h.contains ':'

/-- A host and a port as one address; IPv6 hosts in brackets. -/
def joinHostPort (host port : String) : String :=
  if host.contains ':' then "[" ++ host ++ "]:" ++ port else host ++ ":" ++ port

/-- The network that reaches nothing. -/
def Network.unreachable : Network :=
  ⟨fun host port _ =>
    if isIpHost host then .error ("dial tcp " ++ joinHostPort host port ++ ": connect: network is unreachable")
    else .error ("dial tcp: lookup " ++ host ++ ": no such host")⟩

/-- Whether a character may stand in a header value sent: any but a control character, the
tab apart. -/
def validHeaderChar (c : Char) : Bool := !((c.toNat < 0x20 && c != '\t') || c.toNat == 0x7f)

/-- Whether a header value may be sent. -/
def validHeaderValue (v : String) : Bool := v.toList.all validHeaderChar

/-- Whether a header name may be sent: a token that is not empty. -/
def validHeaderName (k : String) : Bool := !k.isEmpty && k.toList.all isTokenChar

/-- Why a client refuses to send header fields: the first name that is not a token, or the
first name with a value it may not send. -/
def Headers.refusal (h : Headers) : Option String :=
  h.entries.findSome? fun (k, vs) =>
    if !validHeaderName k then some ("field name " ++ quote k)
    else if vs.all validHeaderValue then none
    else some ("field value for " ++ quote k)

/-- The host without a port, brackets removed. -/
def hostName (hostPort : Octets) : Octets :=
  let host := match lastIdx hostPort ':' with
    | some i => if validOptionalPort (hostPort.drop i) then hostPort.take i else hostPort
    | none => hostPort
  if host.head? == some '[' && host.getLast? == some ']' then (host.drop 1).dropLast else host

/-- The port of a host, or empty. -/
def hostPort (hostPort : Octets) : Octets :=
  match lastIdx hostPort ':' with
  | some i => if validOptionalPort (hostPort.drop i) then hostPort.drop (i + 1) else []
  | none => []

/-- A host with an empty port dropped. -/
def dropEmptyPort (h : Octets) : Octets :=
  let afterBracket := match lastIdx h ']' with
    | some i => h.drop (i + 1)
    | none => h
  if afterBracket.contains ':' && h.getLast? == some ':' then h.dropLast else h

/-- Posts a body with header fields to a URL over a network: the answer's status, or the
failure's text. -/
def post (net : Network) (url : String) (headers : Headers) (body : ByteArray) :
    Except String Nat :=
  match Url.parse url with
  | .error e => .error (urlErrorText "parse" e)
  | .ok u =>
    let u := { u with host := dropEmptyPort u.host }
    let fail (reason : String) : Except String Nat := .error ("Post " ++ quote u.redacted ++ ": " ++ reason)
    let scheme := ofOctets u.scheme
    if scheme != "http" && scheme != "https" then fail ("unsupported protocol scheme " ++ quote scheme)
    else match headers.refusal with
      | some why => fail ("net/http: invalid header " ++ why)
      | none =>
        if u.host.isEmpty then fail "http: no Host in request URL"
        else
          let port := hostPort u.host
          let port := if port.isEmpty then (if scheme == "https" then "443" else "80") else ofOctets port
          match net.send (ofOctets (hostName u.host)) port ⟨"POST", u.render, headers, body⟩ with
          | .ok status => .ok status
          | .error e => fail e

end TopicBridge.Net
