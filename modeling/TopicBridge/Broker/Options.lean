import TopicBridge.Net.Url
import TopicBridge.Tls.Certificate
import TopicBridge.Host.Files
import TopicBridge.Settings.Basic
import TopicBridge.Ident.Ulid
import TopicBridge.Broker.Session

/-!
# Broker options

The options a broker client is built from, and the **client setup** they give:

* at least one broker, each a URL (after cutting surrounding blanks) with a scheme and a
  host, printed back in its normal form – the scheme lower-cased – and handed to the client
  library, which keeps the servers it can read;
* the client identifier, or a generated `mqtt-bridge-<ulid>`;
* keep-alive, connect timeout and write timeout when positive, each as the library keeps it,
  and otherwise the library's defaults;
* a clean session, unordered delivery, and the reconnect and retry flags as given;
* with TLS: at least TLS 1.2, the server name and verification flag, the trusted
  authorities read from the CA file (when named), and the client key pair read from the
  certificate and key files (when either is named).

The client library lies outside the set-up: it is a parameter
(`TopicBridge.Broker.ClientLibrary`), and `TopicBridge.Broker.paho` is the library the
service uses, with the defaults and conversions it documents
(`TopicBridge.Broker.ClientLibrary.Lawful`).

* `TopicBridge.Broker.BrokerOptions.setup`.
-/

namespace TopicBridge.Broker

open TopicBridge.Net TopicBridge.Tls TopicBridge.Host TopicBridge.Settings

/-- TLS towards the broker, by file names. -/
structure TlsFiles where
  /-- The file of trusted authorities; empty for the system's. -/
  caFile : String := ""
  /-- The client certificate file. -/
  certFile : String := ""
  /-- The client key file. -/
  keyFile : String := ""
  /-- The name the broker must present. -/
  serverName : String := ""
  /-- Whether the broker's certificate goes unchecked. -/
  insecureSkipVerify : Bool := false
  deriving Repr, DecidableEq, Inhabited

/-- The TLS files of the settings' TLS section. -/
def TlsFiles.ofSection (t : TlsSection) : TlsFiles :=
  { caFile := t.caFile, certFile := t.certFile, keyFile := t.keyFile, serverName := t.serverName,
    insecureSkipVerify := t.insecureSkipVerify }

/-- What a broker client is built from. -/
structure BrokerOptions where
  /-- The broker URLs. -/
  brokers : List String := []
  /-- The client identifier; empty for a generated one. -/
  clientId : String := ""
  /-- The user name. -/
  username : String := ""
  /-- The password. -/
  password : String := ""
  /-- The keep-alive interval, in nanoseconds. -/
  keepAlive : Int := 0
  /-- The connect timeout, in nanoseconds. -/
  connectTimeout : Int := 0
  /-- The write timeout, in nanoseconds. -/
  writeTimeout : Int := 0
  /-- Whether a lost connection is re-established. -/
  autoReconnect : Bool := false
  /-- Whether a failed first connect is retried in the background. -/
  connectRetry : Bool := false
  /-- TLS, when used. -/
  tls : Option TlsFiles := none
  deriving Repr, DecidableEq, Inhabited

/-- The options of the settings' MQTT section; TLS only when enabled. -/
def BrokerOptions.ofSection (m : MqttSection) : BrokerOptions :=
  { brokers := m.brokers, clientId := m.clientId, username := m.username, password := m.password,
    keepAlive := m.keepAlive, connectTimeout := m.connectTimeout, writeTimeout := m.writeTimeout,
    autoReconnect := m.autoReconnect, connectRetry := m.connectRetry,
    tls := if m.tls.enabled then some (TlsFiles.ofSection m.tls) else none }

/-- The TLS part of a client setup. -/
structure TlsSetup where
  /-- The name the broker must present. -/
  serverName : String
  /-- Whether the broker's certificate goes unchecked. -/
  insecureSkipVerify : Bool
  /-- The lowest protocol version: TLS 1.2. -/
  minVersion : Nat := 0x0303
  /-- The number of trusted authorities read, or none for the system's. -/
  rootCas : Option Nat
  /-- The number of client key pairs. -/
  certificates : Nat
  deriving Repr, DecidableEq, Inhabited

/-- What a broker client is set up with. -/
structure ClientSetup where
  /-- The broker URLs, normalised. -/
  servers : List String
  /-- The client identifier. -/
  clientId : String
  /-- The user name. -/
  username : String
  /-- The password. -/
  password : String
  /-- The keep-alive interval, in whole seconds. -/
  keepAliveSeconds : Int
  /-- The connect timeout, in nanoseconds. -/
  connectTimeout : Int
  /-- The write timeout, in nanoseconds. -/
  writeTimeout : Int
  /-- Whether the broker forgets the session on connect. -/
  cleanSession : Bool := true
  /-- Whether messages are handed over in order. -/
  orderMatters : Bool := false
  /-- Whether a lost connection is re-established. -/
  autoReconnect : Bool
  /-- Whether a failed first connect is retried in the background. -/
  connectRetry : Bool
  /-- TLS, when used. -/
  tls : Option TlsSetup
  deriving Repr, DecidableEq, Inhabited

/-- Why options do not give a setup. -/
inductive OptionsError where
  /-- The broker list is empty. -/
  | noBroker
  /-- A broker is not a URL with a scheme and a host. -/
  | badBroker (raw : String)
  /-- The TLS files cannot be used. -/
  | tls (text : String)
  deriving Repr, DecidableEq, Inhabited

/-- The text of an options error. -/
def OptionsError.message : OptionsError → String
  | .noBroker => "no broker configured"
  | .badBroker raw => "invalid broker url " ++ Text.quote raw
  | .tls t => "failed to create TLS config: " ++ t

/-- The normal form of a broker URL, when it has a scheme and a host. -/
def brokerUrl (raw : String) : Except OptionsError String :=
  match Url.parse (Text.trimBlank raw) with
  | .ok u => if u.scheme.isEmpty || u.host.isEmpty then .error (.badBroker raw) else .ok u.render
  | .error _ => .error (.badBroker raw)

/-- Prefixes a failure's text. -/
def withContext {α : Type} (pfx : String) (r : Except String α) : Except String α :=
  r.mapError (pfx ++ ·)

/-- The TLS setup from the files. -/
def tlsSetup (fs : Files) (t : TlsFiles) : Except String TlsSetup := do
  let rootCas ← if t.caFile.isEmpty then pure none else do
    let pem ← withContext "failed to read CA file: " (fs.read t.caFile)
    let certs := poolCertificates pem
    if certs.isEmpty then throw "failed to parse CA certificate"
    pure (some certs.length)
  let certificates ← if t.certFile.isEmpty && t.keyFile.isEmpty then pure 0 else do
    let ctx := "failed to load client certificate: "
    let certPem ← withContext ctx (fs.read t.certFile)
    let keyPem ← withContext ctx (fs.read t.keyFile)
    let _ ← withContext ctx (loadKeyPair certPem keyPem)
    pure 1
  return { serverName := t.serverName, insecureSkipVerify := t.insecureSkipVerify, rootCas, certificates }

/-- The client library a set-up hands its options to: what its setters keep, and what it
starts from. -/
structure ClientLibrary where
  /-- What adding a broker keeps of a URL text: the server it lists, or none when it drops
  the text. -/
  addBroker : String → Option String
  /-- What setting the keep-alive keeps of an interval in nanoseconds: whole seconds. -/
  keepAliveSeconds : Int → Int
  /-- The keep-alive, in seconds, until one is set. -/
  defaultKeepAlive : Int
  /-- The connect timeout, in nanoseconds, until one is set. -/
  defaultConnectTimeout : Int
  /-- The write timeout, in nanoseconds, until one is set. -/
  defaultWriteTimeout : Int

/-- What the set-up relies on of the client library's keep-alive: the whole seconds of a
positive interval, truncated, and 30 s until one is set. -/
structure ClientLibrary.Lawful (lib : ClientLibrary) : Prop where
  /-- A positive interval is kept in whole seconds, truncated. -/
  keepAliveSeconds_of_pos : ∀ k, 0 < k → lib.keepAliveSeconds k = k / 1000000000
  /-- The keep-alive is 30 s until one is set. -/
  defaultKeepAlive_eq : lib.defaultKeepAlive = 30

/-- Whether a text holds `://`, the separator after a URL's scheme. -/
def hasSchemeSeparator : List Char → Bool
  | ':' :: '/' :: '/' :: _ => true
  | _ :: cs => hasSchemeSeparator cs
  | [] => false

/-- The paho client library. Adding a broker reads a text that starts with a port as one on
the local host, puts `tcp://` before a text without a scheme separator, and keeps the URL it
parses, printed back, dropping a text that does not parse. Setting the keep-alive keeps the
whole seconds of the interval, truncated towards zero. Until set, the keep-alive is 30 s, the
connect timeout 30 s and the write timeout none. -/
def paho : ClientLibrary where
  addBroker s :=
    let s := if s.toList.head? = some ':' then "127.0.0.1" ++ s else s
    let s := if hasSchemeSeparator s.toList then s else "tcp://" ++ s
    match Url.parse s with
    | .ok u => some u.render
    | .error _ => none
  keepAliveSeconds k := k.tdiv 1000000000
  defaultKeepAlive := 30
  defaultConnectTimeout := 30 * 1000000000
  defaultWriteTimeout := 0

/-- The client setup of some options, through a client library; `fresh` is the identifier a
generated client identifier ends in. -/
def BrokerOptions.setup (o : BrokerOptions) (lib : ClientLibrary) (fs : Files) (fresh : String) :
    Except OptionsError ClientSetup := do
  if o.brokers.isEmpty then throw .noBroker
  let urls ← o.brokers.mapM brokerUrl
  let servers := urls.filterMap lib.addBroker
  let tls ← match o.tls with
    | none => pure none
    | some t => match tlsSetup fs t with
      | .ok s => pure (some s)
      | .error e => throw (.tls e)
  return {
    servers
    clientId := if o.clientId.isEmpty then Ident.clientId "mqtt-bridge" fresh else o.clientId
    username := o.username
    password := o.password
    keepAliveSeconds := if o.keepAlive > 0 then lib.keepAliveSeconds o.keepAlive
      else lib.defaultKeepAlive
    connectTimeout := if o.connectTimeout > 0 then o.connectTimeout else lib.defaultConnectTimeout
    writeTimeout := if o.writeTimeout > 0 then o.writeTimeout else lib.defaultWriteTimeout
    autoReconnect := o.autoReconnect
    connectRetry := o.connectRetry
    tls }

/-- A session on a fresh client, not connected, retrying as the options say. -/
def ClientSetup.session {H : Type} (c : ClientSetup) : Session H :=
  { brokers := c.servers, retry := some c.connectRetry }

end TopicBridge.Broker
