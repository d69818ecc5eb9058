import TopicBridge.Settings.Basic
import TopicBridge.Settings.Store
import TopicBridge.Num.Literal
import TopicBridge.Num.Word
import TopicBridge.Time.Duration
/-!
# Reading settings values into the records

A snapshot of the store is read into the records of `TopicBridge.Settings.Basic`, field
by field in the order the records declare them. Each field is found by its key, written
in lowercase with underscores; case does not matter. A field whose key is missing or holds
nothing keeps its zero value.

Values are converted loosely:
* a text field takes a text, a number in decimal (doubles positionally) or a boolean as
  `1`/`0`;
* an integer field takes an integer, a double cut toward zero (the least 64-bit integer
  when it does not fit), a boolean as `1`/`0`, or a text in any base its prefix names
  (the empty text is `0`);
* a duration field takes a duration text such as `1m30s`, or an integer of nanoseconds
  by the integer rules;
* a boolean field takes a boolean, a number (true unless zero), or a text such as `true`,
  `F` or `1` (the empty text is false);
* a list field takes a list, a text split at commas (the empty text is the empty list),
  an empty map as the empty list, and any other value as a list of one;
* a section takes a map; a date leaves it as it is, having no fields to give.

Every value that does not fit is a **fault**, and reading goes on with the next field; the
faults are reported together, in field order.

* `TopicBridge.Settings.decodeSettings`, `TopicBridge.Settings.DecodeFault.message`.
-/

namespace TopicBridge.Settings

open TopicBridge.Yaml TopicBridge.Num TopicBridge.Time

/-- Why a value could not be read into its field. -/
inductive DecodeFault where
  /-- A text that is not a duration. -/
  | duration (field text : String) (fault : DurationFault)
  /-- A text that is not a boolean. -/
  | notBool (field text : String)
  /-- A text that is not an integer. -/
  | notInt (field text : String) (fault : LiteralFault)
  /-- A value of a type the field cannot take. -/
  | unconvertible (field target : String) (value : Value)
  /-- A value a boolean field cannot take, while the field holds `current`. -/
  | notBoolValue (field : String) (current : Bool) (value : Value)
  /-- A value where a section was expected. -/
  | notMap (field : String) (value : Value)
  deriving Repr

/-- A name in single quotes. -/
def singleQuoted (s : String) : String := "\x27" ++ s ++ "\x27"

/-- The message of a fault. -/
def DecodeFault.message : DecodeFault → String
  | .duration f t d => "error decoding " ++ singleQuoted f ++ ": " ++ d.message t
  | .notBool f t =>
    "cannot parse " ++ singleQuoted f ++ " as bool: " ++ LiteralFault.malformed.message "ParseBool" t
  | .notInt f t l => "cannot parse " ++ singleQuoted f ++ " as int: " ++ l.message "ParseInt" t
  | .unconvertible f target v =>
    singleQuoted f ++ " expected type " ++ singleQuoted target ++ ", got unconvertible type " ++
      singleQuoted v.typeName ++ ", value: " ++ singleQuoted v.display
  | .notBoolValue f cur v =>
    singleQuoted f ++ " expected type " ++ singleQuoted ("%!s(bool=" ++ toString cur ++ ")") ++
      ", got unconvertible type " ++ singleQuoted v.sourceText ++ ", value: " ++ singleQuoted v.sourceText
  | .notMap f v => singleQuoted f ++ " expected a map, got " ++ singleQuoted v.kindName

/-- The message of a failed reading: every fault on a line of its own. -/
def faultsMessage (faults : List DecodeFault) : String :=
  "decoding failed due to the following error(s):\n\n" ++ "\n".intercalate (faults.map (·.message))

/-- A reading step, collecting faults. -/
abbrev Decoding := StateM (List DecodeFault)

/-- Records a fault. -/
def fault (f : DecodeFault) : Decoding Unit := modify (· ++ [f])

/-- The name of a field below a section. -/
def subField (above key : String) : String := if above == "" then key else above ++ "." ++ key

/-- Whether a key names a field written in lowercase ASCII, ignoring case. -/
def keyMatches (key name : String) : Bool :=
  key.length == name.length &&
    (key.toList.zip name.toList).all fun (a, b) => Text.toLowerChar a == b || (a == 'ſ' && b == 's')

/-- The value a map holds for a field: the key as written first, then a key equal to it
ignoring case; nothing when there is none. -/
def fieldValue (m : List (String × Value)) (name : String) : Value :=
  match Value.getEntry? m name with
  | some v => v
  | none => ((m.find? fun (k, _) => keyMatches k name).map (·.2)).getD .null

/-- Reads a text field. -/
def readText (field : String) (v : Value) (cur : String) : Decoding String :=
  match v with
  | .null => pure cur
  | .str s => pure s
  | .bool b => pure (if b then "1" else "0")
  | .int i => pure (toString i)
  | .uint n => pure (toString n)
  | .float x => pure x.positional
  | .time _ | .list _ | .map _ => do fault (.unconvertible field "string" v); pure cur

/-- Reads an integer field whose type is named `target`. -/
def readInteger (target field : String) (v : Value) (cur : Int) : Decoding Int :=
  match v with
  | .null => pure cur
  | .int i => pure i
  | .uint n => pure (wrap64 n)
  | .float x => pure x.toInt64
  | .bool b => pure (if b then 1 else 0)
  | .str s =>
    match parseSigned (if s.isEmpty then "0" else s) 0 64 with
    | .ok i => pure i
    | .error e => do fault (.notInt field s e); pure cur
  | .time _ | .list _ | .map _ => do fault (.unconvertible field target v); pure cur

/-- Reads an integer field. -/
def readInt (field : String) (v : Value) (cur : Int) : Decoding Int := readInteger "int" field v cur

/-- Reads a duration field, in nanoseconds. -/
def readDuration (field : String) (v : Value) (cur : Int) : Decoding Int :=
  match v with
  | .str s =>
    match parseDuration s with
    | .ok d => pure d
    | .error e => do fault (.duration field s e); pure cur
  | _ => readInteger "time.Duration" field v cur

/-- Reads a boolean field. -/
def readBool (field : String) (v : Value) (cur : Bool) : Decoding Bool :=
  match v with
  | .null => pure cur
  | .bool b => pure b
  | .int i => pure (i != 0)
  | .uint n => pure (n != 0)
  | .float x => pure !x.isZero
  | .str s =>
    match parseBool s with
    | .ok b => pure b
    | .error _ => if s.isEmpty then pure false else do fault (.notBool field s); pure cur
  | .time _ | .list _ | .map _ => do fault (.notBoolValue field cur v); pure cur

/-- The items a value gives a list field; none leaves the field as it is. -/
def listItems : Value → Option (List Value)
  | .null => none
  | .str s => some (if s.isEmpty then [] else (s.splitOn ",").map .str)
  | .list items => some items
  | .map [] => some []
  | v => some [v]

/-- Reads a list field, each item from its zero value. -/
def readList {α : Type} (item : String → Value → α → Decoding α) (zero : α) (field : String)
    (v : Value) (cur : List α) : Decoding (List α) :=
  match listItems v with
  | none => pure cur
  | some items => items.zipIdx.mapM fun (x, i) => item (field ++ "[" ++ toString i ++ "]") x zero

/-- Reads a section from a map; nothing or a date leaves it as it is. -/
def withSection {α : Type} (field : String) (v : Value) (cur : α)
    (k : List (String × Value) → Decoding α) : Decoding α :=
  match v with
  | .null | .time _ => pure cur
  | .map m => k m
  | _ => do fault (.notMap field v); pure cur

/-- Reads the HTTP section. -/
def readHttp (f : String) (v : Value) (c : HttpSection) : Decoding HttpSection :=
  withSection f v c fun m => do
    let at_ k := fieldValue m k
    return { addr := ← readText (subField f "addr") (at_ "addr") c.addr
             bodyLimit := ← readText (subField f "body_limit") (at_ "body_limit") c.bodyLimit
             shutdownTimeout :=
               ← readDuration (subField f "shutdown_timeout") (at_ "shutdown_timeout") c.shutdownTimeout }

/-- Reads the log section. -/
def readLog (f : String) (v : Value) (c : LogSection) : Decoding LogSection :=
  withSection f v c fun m => do
    return { level := ← readText (subField f "level") (fieldValue m "level") c.level
             encoding := ← readText (subField f "encoding") (fieldValue m "encoding") c.encoding }

/-- Reads the TLS section. -/
def readTls (f : String) (v : Value) (c : TlsSection) : Decoding TlsSection :=
  withSection f v c fun m => do
    let g k := (subField f k, fieldValue m k)
    return { enabled := ← readBool (g "enabled").1 (g "enabled").2 c.enabled
             caFile := ← readText (g "ca_file").1 (g "ca_file").2 c.caFile
             certFile := ← readText (g "cert_file").1 (g "cert_file").2 c.certFile
             keyFile := ← readText (g "key_file").1 (g "key_file").2 c.keyFile
             serverName := ← readText (g "server_name").1 (g "server_name").2 c.serverName
             insecureSkipVerify :=
               ← readBool (g "insecure_skip_verify").1 (g "insecure_skip_verify").2 c.insecureSkipVerify }

/-- Reads the MQTT section. -/
def readMqtt (f : String) (v : Value) (c : MqttSection) : Decoding MqttSection :=
  withSection f v c fun m => do
    let g k := (subField f k, fieldValue m k)
    return { brokers := ← readList readText "" (g "brokers").1 (g "brokers").2 c.brokers
             clientId := ← readText (g "client_id").1 (g "client_id").2 c.clientId
             username := ← readText (g "username").1 (g "username").2 c.username
             password := ← readText (g "password").1 (g "password").2 c.password
             keepAlive := ← readDuration (g "keep_alive").1 (g "keep_alive").2 c.keepAlive
             connectTimeout := ← readDuration (g "connect_timeout").1 (g "connect_timeout").2 c.connectTimeout
             writeTimeout := ← readDuration (g "write_timeout").1 (g "write_timeout").2 c.writeTimeout
             autoReconnect := ← readBool (g "auto_reconnect").1 (g "auto_reconnect").2 c.autoReconnect
             connectRetry := ← readBool (g "connect_retry").1 (g "connect_retry").2 c.connectRetry
             tls := ← readTls (g "tls").1 (g "tls").2 c.tls }

/-- Reads how a route or the relay logs. -/
def readRouteLog (f : String) (v : Value) (c : RouteLogSection) : Decoding RouteLogSection :=
  withSection f v c fun m => do
    return { verbosity := ← readText (subField f "verbosity") (fieldValue m "verbosity") c.verbosity
             multiline := ← readBool (subField f "multiline") (fieldValue m "multiline") c.multiline }

/-- Reads one route. -/
def readRoute (f : String) (v : Value) (c : RouteSection) : Decoding RouteSection :=
  withSection f v c fun m => do
    let g k := (subField f k, fieldValue m k)
    return { name := ← readText (g "name").1 (g "name").2 c.name
             method := ← readText (g "method").1 (g "method").2 c.method
             path := ← readText (g "path").1 (g "path").2 c.path
             topic := ← readText (g "topic").1 (g "topic").2 c.topic
             qos := ← readInt (g "qos").1 (g "qos").2 c.qos
             retained := ← readBool (g "retained").1 (g "retained").2 c.retained
             clearBody := ← readBool (g "clear_body").1 (g "clear_body").2 c.clearBody
             log := ← readRouteLog (g "log").1 (g "log").2 c.log }

/-- Reads the bridge section. -/
def readBridge (f : String) (v : Value) (c : BridgeSection) : Decoding BridgeSection :=
  withSection f v c fun m => do
    let g k := (subField f k, fieldValue m k)
    return { publishTimeout := ← readDuration (g "publish_timeout").1 (g "publish_timeout").2 c.publishTimeout
             routes := ← readList readRoute {} (g "routes").1 (g "routes").2 c.routes
             twins := ← readList readText "" (g "twins").1 (g "twins").2 c.twins }

/-- Reads a sink's breaker. -/
def readBreaker (f : String) (v : Value) (c : BreakerSection) : Decoding BreakerSection :=
  withSection f v c fun m => do
    return { failThreshold := ← readInt (subField f "fail_threshold") (fieldValue m "fail_threshold") c.failThreshold
             openForMs := ← readInt (subField f "open_for_ms") (fieldValue m "open_for_ms") c.openForMs }

/-- Reads one sink. -/
def readSink (f : String) (v : Value) (c : SinkSection) : Decoding SinkSection :=
  withSection f v c fun m => do
    let g k := (subField f k, fieldValue m k)
    return { name := ← readText (g "name").1 (g "name").2 c.name
             enabled := ← readBool (g "enabled").1 (g "enabled").2 c.enabled
             url := ← readText (g "url").1 (g "url").2 c.url
             timeoutMs := ← readInt (g "timeout_ms").1 (g "timeout_ms").2 c.timeoutMs
             breaker := ← readBreaker (g "breaker").1 (g "breaker").2 c.breaker }

/-- Reads the relay section. -/
def readRelay (f : String) (v : Value) (c : RelaySection) : Decoding RelaySection :=
  withSection f v c fun m => do
    let g k := (subField f k, fieldValue m k)
    return { topic := ← readText (g "topic").1 (g "topic").2 c.topic
             qos := ← readInt (g "qos").1 (g "qos").2 c.qos
             eventType := ← readText (g "event_type").1 (g "event_type").2 c.eventType
             eventSource := ← readText (g "event_source").1 (g "event_source").2 c.eventSource
             maxAttempts := ← readInt (g "max_attempts").1 (g "max_attempts").2 c.maxAttempts
             buffer := ← readInt (g "buffer").1 (g "buffer").2 c.buffer
             workers := ← readInt (g "workers").1 (g "workers").2 c.workers
             log := ← readRouteLog (g "log").1 (g "log").2 c.log
             sinks := ← readList readSink {} (g "sinks").1 (g "sinks").2 c.sinks }

/-- Reads the Kafka section. -/
def readKafka (f : String) (v : Value) (c : KafkaSection) : Decoding KafkaSection :=
  withSection f v c fun m => do
    let g k := (subField f k, fieldValue m k)
    return { brokers := ← readList readText "" (g "brokers").1 (g "brokers").2 c.brokers
             topic := ← readText (g "topic").1 (g "topic").2 c.topic
             groupId := ← readText (g "group_id").1 (g "group_id").2 c.groupId
             route := ← readText (g "route").1 (g "route").2 c.route
             workers := ← readInt (g "workers").1 (g "workers").2 c.workers
             minBytes := ← readInt (g "min_bytes").1 (g "min_bytes").2 c.minBytes
             maxBytes := ← readInt (g "max_bytes").1 (g "max_bytes").2 c.maxBytes
             commitIntervalMs :=
               ← readInt (g "commit_interval_ms").1 (g "commit_interval_ms").2 c.commitIntervalMs }

/-- Reads a database section. -/
def readDatabase (f : String) (v : Value) (c : DatabaseSection) : Decoding DatabaseSection :=
  withSection f v c fun m => do
    let g k := (subField f k, fieldValue m k)
    return { dsn := ← readText (g "dsn").1 (g "dsn").2 c.dsn
             maxOpenConns := ← readInt (g "max_open_conns").1 (g "max_open_conns").2 c.maxOpenConns
             maxIdleConns := ← readInt (g "max_idle_conns").1 (g "max_idle_conns").2 c.maxIdleConns
             connMaxLifetime :=
               ← readDuration (g "conn_max_lifetime").1 (g "conn_max_lifetime").2 c.connMaxLifetime
             connMaxIdleTime :=
               ← readDuration (g "conn_max_idletime").1 (g "conn_max_idletime").2 c.connMaxIdleTime
             pingTimeout := ← readDuration (g "ping_timeout").1 (g "ping_timeout").2 c.pingTimeout }

/-- Reads the Redis section. -/
def readRedis (f : String) (v : Value) (c : RedisSection) : Decoding RedisSection :=
  withSection f v c fun m => do
    let g k := (subField f k, fieldValue m k)
    return { addr := ← readText (g "addr").1 (g "addr").2 c.addr
             password := ← readText (g "password").1 (g "password").2 c.password
             db := ← readInt (g "db").1 (g "db").2 c.db
             dialTimeout := ← readDuration (g "dial_timeout").1 (g "dial_timeout").2 c.dialTimeout }

/-- Reads the rate limit section. -/
def readRateLimit (f : String) (v : Value) (c : RateLimitSection) : Decoding RateLimitSection :=
  withSection f v c fun m => do
    return { rps := ← readInt (subField f "rps") (fieldValue m "rps") c.rps
             window := ← readDuration (subField f "window") (fieldValue m "window") c.window }

/-- Reads all settings from a tree. -/
def readSettings (m : List (String × Value)) : Decoding Config := do
  let c : Config := {}
  return { http := ← readHttp "http" (fieldValue m "http") c.http
           log := ← readLog "log" (fieldValue m "log") c.log
           mqtt := ← readMqtt "mqtt" (fieldValue m "mqtt") c.mqtt
           bridge := ← readBridge "bridge" (fieldValue m "bridge") c.bridge
           relay := ← readRelay "relay" (fieldValue m "relay") c.relay
           kafka := ← readKafka "kafka" (fieldValue m "kafka") c.kafka
           mysql := ← readDatabase "mysql" (fieldValue m "mysql") c.mysql
           clickhouse := ← readDatabase "clickhouse" (fieldValue m "clickhouse") c.clickhouse
           redis := ← readRedis "redis" (fieldValue m "redis") c.redis
           rateLimit := ← readRateLimit "rate_limit" (fieldValue m "rate_limit") c.rateLimit }

/-- Reads all settings from a tree: the settings, or every fault met. -/
def decodeSettings (m : List (String × Value)) : Except (List DecodeFault) Config :=
  let (s, faults) := (readSettings m).run []
  if faults.isEmpty then .ok s else .error faults

theorem readBool_text_empty (f : String) (c : Bool) :
    (readBool f (.str "") c).run [] = (false, []) := rfl

end TopicBridge.Settings
