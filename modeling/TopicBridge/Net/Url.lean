import TopicBridge.Text.Octets
import TopicBridge.Text.Quoted
import TopicBridge.Net.Addr

/-!
# URLs

A URL is read **byte by byte**: each byte of its UTF-8 text is held as the character of the
same number (an *octet*), so that splitting, escaping and unescaping act on bytes exactly,
and the result is turned back into text only at the end.

Reading splits off, in this order: a fragment after the first `#`; a **scheme** before the
first `:` (letters, then letters, digits, `+`, `-` or `.`), lower-cased; a query after the
first `?`; then either a **rootless** rest (a scheme followed by anything not starting with
`/`), or an **authority** after `//` up to the next `/` – user information before the last
`@`, and a host with an optional numeric port – and a path. Percent escapes are checked
everywhere: a host may only escape bytes from `%80` up (and `%25`), and a host may not hold
a byte that would need escaping. A host in brackets must be a colon IP address
(`TopicBridge.Net.parseAddr`), and no bracket may stand elsewhere in a host.

Printing puts the parts back: `scheme://user@host/path?query#fragment`, escaping what must
be escaped, and keeping the path and fragment as written when what was written is a valid
escaping of them.

The target of a request line is read the same way when it has a scheme; otherwise it must
be `*` or a path from the root, which is taken as written up to its query – a `#` or a
leading `//` in it is part of the path.

* `TopicBridge.Net.Url.parse`, `TopicBridge.Net.Url.parseRequest`, `TopicBridge.Net.Url.render`.
-/

namespace TopicBridge.Net

open TopicBridge.Text

/-- Why a URL cannot be read. -/
inductive UrlError where
  /-- The text starts with `:`. -/
  | missingScheme
  /-- The text holds a control byte. -/
  | controlByte
  /-- A relative path whose first segment holds `:`. -/
  | colonInFirstSegment
  /-- What follows the host is not `:` and digits. -/
  | badPort (port : Octets)
  /-- A bracketed host is not closed. -/
  | missingBracket
  /-- A bracket stands inside a host, or a bracketed host is a dotted address. -/
  | ipLiteral
  /-- A bracketed host is not an IP address. -/
  | badAddress (e : AddrError)
  /-- A malformed or forbidden percent escape. -/
  | badEscape (escape : Octets)
  /-- A host holds a byte that would need escaping. -/
  | badHostByte (byte : Octets)
  /-- The user information holds a byte it may not. -/
  | badUserinfo
  /-- A request target is empty. -/
  | emptyTarget
  /-- A request target is neither a path from the root, `*`, nor a URL with a scheme. -/
  | notRequestTarget
  deriving Repr, DecidableEq, Inhabited

/-- The text of a reading error. -/
def UrlError.message : UrlError → String
  | .missingScheme => "missing protocol scheme"
  | .controlByte => "net/url: invalid control character in URL"
  | .colonInFirstSegment => "first path segment in URL cannot contain colon"
  | .badPort p => "invalid port " ++ quote (ofOctets p) ++ " after host"
  | .missingBracket => "missing \x27]\x27 in host"
  | .ipLiteral => "invalid IP-literal"
  | .badAddress e => "invalid host: " ++ e.message
  | .badEscape e => "invalid URL escape " ++ quote (ofOctets e)
  | .badHostByte b => "invalid character " ++ quote (ofOctets b) ++ " in host name"
  | .badUserinfo => "net/url: invalid userinfo"
  | .emptyTarget => "empty url"
  | .notRequestTarget => "invalid URI for request"

/-! ### Escaping -/

/-- The part of a URL a byte is escaped for. -/
inductive Part where
  | host
  | zone
  | path
  | userPassword
  | queryComponent
  | fragment
  deriving Repr, DecidableEq, Inhabited

/-- ASCII letters and digits. -/
def isAlnum (c : Char) : Bool :=
  ('a' ≤ c && c ≤ 'z') || ('A' ≤ c && c ≤ 'Z') || ('0' ≤ c && c ≤ '9')

/-- Hexadecimal digits. -/
def isHex (c : Char) : Bool :=
  ('0' ≤ c && c ≤ '9') || ('a' ≤ c && c ≤ 'f') || ('A' ≤ c && c ≤ 'F')

/-- The value of a hexadecimal digit. -/
def hexValue (c : Char) : Nat :=
  if '0' ≤ c && c ≤ '9' then c.toNat - '0'.toNat
  else if 'a' ≤ c && c ≤ 'f' then c.toNat - 'a'.toNat + 10
  else c.toNat - 'A'.toNat + 10

/-- Whether a byte must be escaped in a part. -/
def shouldEscape (c : Char) (part : Part) : Bool :=
  if isAlnum c then false
  else if (part == .host || part == .zone) && "!$&\x27()*+,;=:[]<>\"".toList.contains c then false
  else if "-_.~".toList.contains c then false
  else if "$&+,/:;=?@".toList.contains c then
    match part with
    | .userPassword => c == '@' || c == '/' || c == '?' || c == ':'
    | .path => c == '?'
    | .queryComponent => true
    | .fragment => false
    | _ => true
  else if part == .fragment && "!()*".toList.contains c then false
  else true

/-- The upper-case hexadecimal digit of a value below sixteen. -/
def upperHex (n : Nat) : Char := "0123456789ABCDEF".toList.getD n '0'

/-- Escapes the bytes of a part. -/
def escape (s : Octets) (part : Part) : Octets :=
  s.flatMap fun c =>
    if shouldEscape c part then
      if c == ' ' && part == .queryComponent then ['+']
      else ['%', upperHex (c.toNat / 16), upperHex (c.toNat % 16)]
    else [c]

/-- Undoes escaping in a part, refusing malformed escapes and, in a host, bytes that
would need escaping. -/
def unescape (part : Part) : Octets → Except UrlError Octets
  | [] => .ok []
  | '%' :: rest =>
    match rest with
    | a :: b :: tail =>
      if isHex a && isHex b then
        let v := hexValue a * 16 + hexValue b
        if part == .host && hexValue a < 8 && !(a == '2' && b == '5') then
          .error (.badEscape ['%', a, b])
        else if part == .zone && !(a == '2' && b == '5') && v != 32 &&
            shouldEscape (Char.ofNat v) .host then
          .error (.badEscape ['%', a, b])
        else (Char.ofNat v :: ·) <$> unescape part tail
      else .error (.badEscape ['%', a, b])
    | _ => .error (.badEscape ('%' :: rest))
  | '+' :: rest => ((if part == .queryComponent then ' ' else '+') :: ·) <$> unescape part rest
  | c :: rest =>
    if (part == .host || part == .zone) && c.toNat < 0x80 && shouldEscape c part then
      .error (.badHostByte [c])
    else (c :: ·) <$> unescape part rest

/-- Whether a text is a valid escaped form in a part. -/
def validEncoded (s : Octets) (part : Part) : Bool :=
  s.all fun c => "!$&\x27()*+,;=:@[]%".toList.contains c || !shouldEscape c part

/-! ### Reading -/

/-- A URL taken apart. -/
structure Url where
  /-- The scheme, lower-cased. -/
  scheme : Octets := []
  /-- The rest after a scheme when it does not start with `/`. -/
  rootless : Octets := []
  /-- The user name and the password, when present. -/
  user : Option (Octets × Option Octets) := none
  /-- The host, with its port. -/
  host : Octets := []
  /-- The path, unescaped. -/
  path : Octets := []
  /-- The path as written, when that differs from the plain escaping of the path. -/
  rawPath : Octets := []
  /-- Whether the text ends with a lone `?`. -/
  forceQuery : Bool := false
  /-- The query, as written. -/
  rawQuery : Octets := []
  /-- The fragment, unescaped. -/
  fragment : Octets := []
  /-- The fragment as written, when that differs from the plain escaping of it. -/
  rawFragment : Octets := []
  /-- Whether the host was left out before an absolute path. -/
  omitHost : Bool := false
  deriving Repr, DecidableEq, Inhabited

/-- The scheme and the rest of a URL text. -/
def splitScheme : Octets → Nat → Octets → Except UrlError (Octets × Octets)
  | [], _, acc => .ok ([], acc.reverse)
  | c :: rest, i, acc =>
    if ('a' ≤ c && c ≤ 'z') || ('A' ≤ c && c ≤ 'Z') then splitScheme rest (i + 1) (c :: acc)
    else if ('0' ≤ c && c ≤ '9') || c == '+' || c == '-' || c == '.' then
      if i == 0 then .ok ([], c :: rest) else splitScheme rest (i + 1) (c :: acc)
    else if c == ':' then
      if i == 0 then .error .missingScheme else .ok (acc.reverse, rest)
    else .ok ([], acc.reverse ++ c :: rest)

/-- Whether a port suffix is empty or `:` followed by digits. -/
def validOptionalPort : Octets → Bool
  | [] => true
  | ':' :: ds => ds.all fun d => '0' ≤ d && d ≤ '9'
  | _ => false

/-- Reads a host with its port. A bracket must open the host, and what stands between the
brackets must be a colon address, its zone escaped after `%25`. -/
def parseHost (h : Octets) : Except UrlError Octets :=
  match lastIdx h '[' with
  | some (_ + 1) => .error .ipLiteral
  | some 0 =>
    match lastIdx h ']' with
    | none => .error .missingBracket
    | some i =>
      let colonPort := h.drop (i + 1)
      if !validOptionalPort colonPort then .error (.badPort colonPort)
      else do
        let port ← unescape .host colonPort
        let name := (h.take i).drop 1
        let plain ← match findRun name ['%', '2', '5'] with
          | some z => do pure ((← unescape .host (name.take z)) ++ (← unescape .zone (name.drop z)))
          | none => unescape .host name
        match parseAddr plain with
        | .error e => throw (.badAddress e)
        | .ok a => if a.isDotted then throw .ipLiteral else pure ('[' :: plain ++ ']' :: port)
  | none =>
    match lastIdx h ':' with
    | some i =>
      let colonPort := h.drop i
      if !validOptionalPort colonPort then .error (.badPort colonPort) else unescape .host h
    | none => unescape .host h

/-- Whether user information holds only the bytes it may. -/
def validUserinfo (s : Octets) : Bool :=
  s.all fun c => isAlnum c || "-._:~!$&\x27()*+,;=%@".toList.contains c

/-- Reads an authority: user information and host. -/
def parseAuthority (a : Octets) : Except UrlError (Option (Octets × Option Octets) × Octets) :=
  match lastIdx a '@' with
  | none => do pure (none, ← parseHost a)
  | some i => do
    let host ← parseHost (a.drop (i + 1))
    let info := a.take i
    if !validUserinfo info then throw .badUserinfo
    match cutAt info ':' with
    | (name, none) => pure (some (← unescape .userPassword name, none), host)
    | (name, some pw) =>
      pure (some (← unescape .userPassword name, some (← unescape .userPassword pw)), host)

/-- Sets the path from its written form. -/
def withPath (u : Url) (p : Octets) : Except UrlError Url := do
  let path ← unescape .path p
  pure { u with path, rawPath := if escape path .path == p then [] else p }

/-- Reads a URL text without its fragment. -/
def parseBody (raw : Octets) : Except UrlError Url := do
  if raw.any fun c => c.toNat < 0x20 || c.toNat == 0x7f then throw .controlByte
  if raw == ['*'] then return { path := ['*'] }
  let (scheme, rest) ← splitScheme raw 0 []
  let scheme := scheme.map Char.toLower
  let (rest, forceQuery, rawQuery) :=
    if rest.getLast? == some '?' && rest.count '?' == 1 then (rest.dropLast, true, [])
    else match cutAt rest '?' with
      | (r, q) => (r, false, q.getD [])
  let u : Url := { scheme, forceQuery, rawQuery }
  if rest.head? != some '/' then
    if !scheme.isEmpty then return { u with rootless := rest }
    if (cutAt rest '/').1.contains ':' then throw .colonInFirstSegment
  if (!scheme.isEmpty || !(rest.take 3 == ['/', '/', '/'])) && rest.take 2 == ['/', '/'] then
    let auth := rest.drop 2
    let (auth, rest) := match auth.idxOf? '/' with
      | some i => (auth.take i, auth.drop i)
      | none => (auth, [])
    let (user, host) ← parseAuthority auth
    withPath { u with user, host } rest
  else
    withPath { u with omitHost := !scheme.isEmpty && rest.head? == some '/' } rest

/-- Reads a URL text; the error carries the text it was reading. -/
def Url.parse (s : String) : Except (String × UrlError) Url :=
  let raw := octets s
  match cutAt raw '#' with
  | (body, none) => (parseBody body).mapError fun e => (ofOctets body, e)
  | (body, some frag) =>
    match parseBody body with
    | .error e => .error (ofOctets body, e)
    | .ok u =>
      match unescape .fragment frag with
      | .error e => .error (s, e)
      | .ok f =>
        .ok { u with fragment := f, rawFragment := if escape f .fragment == frag then [] else frag }

/-- Reads the target of a request line: `*`, a path from the root with an optional query –
taken as written, with no fragment and no authority – or a URL with a scheme. -/
def Url.parseRequest (s : String) : Except (String × UrlError) Url :=
  let raw := octets s
  let fail := fun (e : UrlError) => Except.error (s, e)
  if raw.any fun c => c.toNat < 0x20 || c.toNat == 0x7f then fail .controlByte
  else if raw.isEmpty then fail .emptyTarget
  else if raw == ['*'] then .ok { path := ['*'] }
  else match splitScheme raw 0 [] with
    | .error e => fail e
    | .ok (scheme, rest) =>
      if !scheme.isEmpty then (parseBody raw).mapError fun e => (s, e)
      else
        let (rest, forceQuery, rawQuery) :=
          if rest.getLast? == some '?' && rest.count '?' == 1 then (rest.dropLast, true, [])
          else match cutAt rest '?' with
            | (r, q) => (r, false, q.getD [])
        if rest.head? != some '/' then fail .notRequestTarget
        else (withPath { forceQuery, rawQuery } rest).mapError fun e => (s, e)

/-- The text of a reading error: `parse "<text>": <reason>`. -/
def urlErrorText (op : String) (e : String × UrlError) : String :=
  op ++ " " ++ quote e.1 ++ ": " ++ e.2.message

/-! ### Printing -/

/-- The escaped path. -/
def Url.escapedPath (u : Url) : Octets :=
  if !u.rawPath.isEmpty && validEncoded u.rawPath .path &&
      (unescape .path u.rawPath).toOption == some u.path then u.rawPath
  else if u.path == ['*'] then ['*']
  else escape u.path .path

/-- The escaped fragment. -/
def Url.escapedFragment (u : Url) : Octets :=
  if !u.rawFragment.isEmpty && validEncoded u.rawFragment .fragment &&
      (unescape .fragment u.rawFragment).toOption == some u.fragment then u.rawFragment
  else escape u.fragment .fragment

/-- The printed user information. -/
def userText : Octets × Option Octets → Octets
  | (name, none) => escape name .userPassword
  | (name, some pw) => escape name .userPassword ++ ':' :: escape pw .userPassword

/-- The bytes of a URL put back together. -/
def Url.renderOctets (u : Url) : Octets :=
  let head := if u.scheme.isEmpty then [] else u.scheme ++ [':']
  let body :=
    if !u.rootless.isEmpty then u.rootless
    else
      let auth :=
        if !u.scheme.isEmpty || !u.host.isEmpty || u.user.isSome then
          if u.omitHost && u.host.isEmpty && u.user.isNone then []
          else
            (if !u.host.isEmpty || !u.path.isEmpty || u.user.isSome then ['/', '/'] else []) ++
            (match u.user with
              | some ui => userText ui ++ ['@']
              | none => []) ++
            escape u.host .host
        else []
      let path := u.escapedPath
      let slash := if !path.isEmpty && path.head? != some '/' && !u.host.isEmpty then ['/'] else []
      let dot := if head.isEmpty && auth.isEmpty && slash.isEmpty &&
          (cutAt path '/').1.contains ':' then ['.', '/'] else []
      auth ++ slash ++ dot ++ path
  let query := if u.forceQuery || !u.rawQuery.isEmpty then '?' :: u.rawQuery else []
  let frag := if u.fragment.isEmpty then [] else '#' :: u.escapedFragment
  head ++ body ++ query ++ frag

/-- The text of a URL. -/
def Url.render (u : Url) : String := ofOctets u.renderOctets

/-- The text of a URL with its password, if any, replaced by three stars: the printed
user information is replaced by the plain user name and the stars. -/
def Url.redacted (u : Url) : String :=
  match u.user with
  | some (name, some pw) =>
    ofOctets (replaceFirst u.renderOctets (userText (name, some pw) ++ ['@'])
      (name ++ [':', '*', '*', '*', '@']))
  | _ => u.render

end TopicBridge.Net
