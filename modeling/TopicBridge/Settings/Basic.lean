import TopicBridge.Text.Blank
/-!
# The settings of the service

The settings are one record per section: the HTTP listener, logging, the MQTT connection,
the bridge routes, the relay, the Kafka ingest, the two journal databases, Redis and the
rate limit. Every field starts at its zero value (empty text, `0`, `false`, no entries);
the values a deployment runs with come from the defaults, a file and the environment
(see `TopicBridge.Settings.Load`).

Durations are counted in nanoseconds and integers are signed 64-bit values, as in the
files that set them.
-/

namespace TopicBridge.Settings

/-- The HTTP listener. -/
structure HttpSection where
  /-- The listen address. -/
  addr : String := ""
  /-- The largest accepted request body, as a size text such as `4M`. -/
  bodyLimit : String := ""
  /-- How long a shutdown waits, in nanoseconds. -/
  shutdownTimeout : Int := 0
  deriving Repr, DecidableEq

/-- The logger. -/
structure LogSection where
  /-- The lowest level written. -/
  level : String := ""
  /-- The output encoding: `json` or `console`. -/
  encoding : String := ""
  deriving Repr, DecidableEq

/-- TLS towards the MQTT broker. -/
structure TlsSection where
  /-- Whether TLS is used at all. -/
  enabled : Bool := false
  /-- The file of trusted authority certificates. -/
  caFile : String := ""
  /-- The file of the client certificate. -/
  certFile : String := ""
  /-- The file of the client key. -/
  keyFile : String := ""
  /-- The name the broker certificate must carry. -/
  serverName : String := ""
  /-- Whether the broker certificate goes unchecked. -/
  insecureSkipVerify : Bool := false
  deriving Repr, DecidableEq

/-- The MQTT connection. -/
structure MqttSection where
  /-- The broker addresses. -/
  brokers : List String := []
  /-- The client identifier; empty means a generated one. -/
  clientId : String := ""
  /-- The user name. -/
  username : String := ""
  /-- The password. -/
  password : String := ""
  /-- The keep-alive interval in nanoseconds. -/
  keepAlive : Int := 0
  /-- The connect timeout in nanoseconds. -/
  connectTimeout : Int := 0
  /-- The write timeout in nanoseconds. -/
  writeTimeout : Int := 0
  /-- Whether a lost connection is re-established. -/
  autoReconnect : Bool := false
  /-- Whether a failed first connect is retried in the background. -/
  connectRetry : Bool := false
  /-- TLS towards the broker. -/
  tls : TlsSection := {}
  deriving Repr, DecidableEq

/-- How a route logs its requests, as written in the settings. -/
structure RouteLogSection where
  /-- The verbosity word. -/
  verbosity : String := ""
  /-- Whether a full log is one multi-line block. -/
  multiline : Bool := false
  deriving Repr, DecidableEq

/-- One route as written in the settings. -/
structure RouteSection where
  /-- The route name; empty means one made of method and path. -/
  name : String := ""
  /-- The HTTP method. -/
  method : String := ""
  /-- The request path. -/
  path : String := ""
  /-- The topic published to. -/
  topic : String := ""
  /-- The quality of service. -/
  qos : Int := 0
  /-- Whether the broker keeps the message. -/
  retained : Bool := false
  /-- Whether the reply body is emptied. -/
  clearBody : Bool := false
  /-- How requests are logged. -/
  log : RouteLogSection := {}
  deriving Repr, DecidableEq

/-- The bridge: publish timeout, routes and twins. -/
structure BridgeSection where
  /-- How long a publish may wait for its acknowledgement, in nanoseconds. -/
  publishTimeout : Int := 0
  /-- The configured routes. -/
  routes : List RouteSection := []
  /-- The twin instances, each adding one route. -/
  twins : List String := []
  deriving Repr, DecidableEq

/-- A sink's circuit breaker. -/
structure BreakerSection where
  /-- Failures in a row that open the breaker. -/
  failThreshold : Int := 0
  /-- How long the breaker stays open, in milliseconds. -/
  openForMs : Int := 0
  deriving Repr, DecidableEq

/-- One event sink of the relay. -/
structure SinkSection where
  /-- The sink name. -/
  name : String := ""
  /-- Whether the sink is used. -/
  enabled : Bool := false
  /-- The URL events are posted to. -/
  url : String := ""
  /-- The request timeout in milliseconds. -/
  timeoutMs : Int := 0
  /-- The sink's breaker. -/
  breaker : BreakerSection := {}
  deriving Repr, DecidableEq

/-- The relay from an MQTT topic to event sinks. -/
structure RelaySection where
  /-- The topic subscribed to. -/
  topic : String := ""
  /-- The subscription's quality of service. -/
  qos : Int := 0
  /-- The event type stamped on events. -/
  eventType : String := ""
  /-- The event source stamped on events. -/
  eventSource : String := ""
  /-- Deliveries tried per event. -/
  maxAttempts : Int := 0
  /-- Events waiting at most. -/
  buffer : Int := 0
  /-- Events delivered at once. -/
  workers : Int := 0
  /-- How events are logged. -/
  log : RouteLogSection := {}
  /-- The sinks. -/
  sinks : List SinkSection := []
  deriving Repr, DecidableEq

/-- The Kafka ingest. -/
structure KafkaSection where
  /-- The Kafka brokers. -/
  brokers : List String := []
  /-- The topic read. -/
  topic : String := ""
  /-- The consumer group. -/
  groupId : String := ""
  /-- The bridge route records are fed through. -/
  route : String := ""
  /-- Records handled at once. -/
  workers : Int := 0
  /-- The smallest fetch in bytes. -/
  minBytes : Int := 0
  /-- The largest fetch in bytes. -/
  maxBytes : Int := 0
  /-- How often offsets are committed, in milliseconds. -/
  commitIntervalMs : Int := 0
  deriving Repr, DecidableEq

/-- A journal database. -/
structure DatabaseSection where
  /-- The connection text; blank means the database is not used. -/
  dsn : String := ""
  /-- Open connections at most. -/
  maxOpenConns : Int := 0
  /-- Idle connections at most. -/
  maxIdleConns : Int := 0
  /-- How long a connection lives, in nanoseconds. -/
  connMaxLifetime : Int := 0
  /-- How long a connection idles, in nanoseconds. -/
  connMaxIdleTime : Int := 0
  /-- How long a first ping may take, in nanoseconds. -/
  pingTimeout : Int := 0
  deriving Repr, DecidableEq

/-- Redis, used by the rate limit. -/
structure RedisSection where
  /-- The address; blank means Redis is not used. -/
  addr : String := ""
  /-- The password. -/
  password : String := ""
  /-- The database number. -/
  db : Int := 0
  /-- The dial timeout in nanoseconds. -/
  dialTimeout : Int := 0
  deriving Repr, DecidableEq

/-- The rate limit per client address. -/
structure RateLimitSection where
  /-- Requests per window; `0` means no limit. -/
  rps : Int := 0
  /-- The window in nanoseconds. -/
  window : Int := 0
  deriving Repr, DecidableEq

/-- All settings of the service. -/
structure Config where
  /-- The HTTP listener. -/
  http : HttpSection := {}
  /-- The logger. -/
  log : LogSection := {}
  /-- The MQTT connection. -/
  mqtt : MqttSection := {}
  /-- The bridge. -/
  bridge : BridgeSection := {}
  /-- The relay. -/
  relay : RelaySection := {}
  /-- The Kafka ingest. -/
  kafka : KafkaSection := {}
  /-- The write journal. -/
  mysql : DatabaseSection := {}
  /-- The read journal. -/
  clickhouse : DatabaseSection := {}
  /-- Redis. -/
  redis : RedisSection := {}
  /-- The rate limit. -/
  rateLimit : RateLimitSection := {}
  deriving Repr, DecidableEq

/-- A database is used when its connection text is not blank. -/
def DatabaseSection.enabled (d : DatabaseSection) : Bool := !(Text.isBlankText d.dsn)

/-- Redis is used when its address is not blank. -/
def RedisSection.enabled (r : RedisSection) : Bool := !(Text.isBlankText r.addr)

end TopicBridge.Settings
