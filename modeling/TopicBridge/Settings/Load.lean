import TopicBridge.Settings.Decode
import TopicBridge.Yaml.Load
import TopicBridge.Host.Files
import TopicBridge.Time.Duration
import TopicBridge.Text.Utf8
/-!
# Loading the settings

The settings are loaded in three layers, each over the one before:
1. the **defaults** (`TopicBridge.Settings.defaultsText`);
2. the settings **file**, when a path is given and names something; a path that names
   nothing is passed over, a directory cannot be read, and a file that is not valid YAML
   stops the loading;
3. the **environment**, one variable per key (`TopicBridge.Settings.Store.get`).

Keys are lowercased as they are read, so a file may write them in any case. The result is
then read into the records (`TopicBridge.Settings.decodeSettings`).

Loaded settings are checked by `TopicBridge.Settings.Config.validate`: there is a
broker, there is a route or a twin, the publish timeout is positive, and every route's
quality of service is 0, 1 or 2, in that order.

* `TopicBridge.Settings.load`, `TopicBridge.Settings.Config.validate`.
-/

namespace TopicBridge.Settings

open TopicBridge.Yaml

/-- The defaults every deployment starts from, as YAML, one line per item. -/
def defaultsText : String :=
  "\n".intercalate [
    "http:",
    "  addr: \":8080\"",
    "  body_limit: \"4M\"",
    "  shutdown_timeout: 5s",
    "",
    "log:",
    "  level: info",
    "  encoding: json",
    "",
    "mqtt:",
    "  brokers:",
    "    - tcp://mqtt-broker:1883",
    "  client_id: \"\"",
    "  username: \"\"",
    "  password: \"\"",
    "  keep_alive: 30s",
    "  connect_timeout: 10s",
    "  write_timeout: 0s",
    "  auto_reconnect: true",
    "  connect_retry: true",
    "  tls:",
    "    enabled: false",
    "    ca_file: \"\"",
    "    cert_file: \"\"",
    "    key_file: \"\"",
    "    server_name: \"\"",
    "    insecure_skip_verify: false",
    "",
    "bridge:",
    "  publish_timeout: 5s",
    "  twins: []",
    "  routes:",
    "    - name: mqtt-response-handler",
    "      method: POST",
    "      path: /",
    "      topic: mytopic-response",
    "      qos: 0",
    "      retained: false",
    "      clear_body: true",
    "      log:",
    "        verbosity: full",
    "        multiline: true",
    "",
    "relay:",
    "  topic: \"\"",
    "  qos: 0",
    "  event_type: \"\"",
    "  event_source: mqtt-bridge",
    "  max_attempts: 3",
    "  buffer: 256",
    "  workers: 4",
    "  log:",
    "    verbosity: minimal",
    "    multiline: false",
    "  sinks: []",
    "",
    "kafka:",
    "  brokers: []",
    "  topic: \"\"",
    "  group_id: mqtt-bridge-ingest",
    "  route: mqtt-response-handler",
    "  workers: 8",
    "  min_bytes: 1024",
    "  max_bytes: 10485760",
    "  commit_interval_ms: 1000",
    "",
    "mysql:",
    "  dsn: \"\"",
    "  max_open_conns: 20",
    "  max_idle_conns: 10",
    "  conn_max_lifetime: 30m",
    "  conn_max_idletime: 5m",
    "  ping_timeout: 5s",
    "",
    "clickhouse:",
    "  dsn: \"\"",
    "  max_open_conns: 10",
    "  max_idle_conns: 5",
    "  conn_max_lifetime: 30m",
    "  conn_max_idletime: 5m",
    "  ping_timeout: 3s",
    "",
    "redis:",
    "  addr: \"\"",
    "  password: \"\"",
    "  db: 0",
    "  dial_timeout: 5s",
    "",
    "rate_limit:",
    "  rps: 0",
    "  window: 1s"] ++ "\n"

/-- A map value with its keys lowercased, as entries. -/
def lowerTree (m : Tree) : Tree :=
  match lowerKeys Text.toLower (.map m) with
  | .map m => m
  | _ => []

/-- The tree of the defaults. The defaults are valid YAML, so the empty tree never
stands for them. -/
def defaultTree : Tree :=
  match loadMap defaultsText with
  | .ok m => lowerTree m
  | .error _ => []

/-- Why the settings could not be loaded. -/
inductive LoadError where
  /-- The settings path names something that cannot be read. -/
  | unreadable (path reason : String)
  /-- The settings file is not valid YAML, or does not hold a map. -/
  | malformed (path : String) (cause : ReadError)
  /-- Values do not fit their fields. -/
  | fields (faults : List DecodeFault)

/-- The message of a loading error. -/
def LoadError.message : LoadError → String
  | .unreadable path reason => "merge " ++ path ++ ": " ++ reason
  | .malformed path cause => "merge " ++ path ++ ": While parsing config: " ++ cause.message
  | .fields faults => faultsMessage faults

/-- The tree of the defaults with the settings file merged over it. -/
def fileTree (path : String) (files : Host.Files) : Except LoadError Tree :=
  if path.isEmpty || !files.has path then .ok defaultTree
  else match files.read path with
    | .error reason => .error (.unreadable path reason)
    | .ok bytes =>
      match loadMap (Text.ofBytes bytes) with
      | .error e => .error (.malformed path e)
      | .ok m => .ok (mergeTree (lowerTree m) defaultTree)

/-- Loads the settings from the defaults, the file at a path (the empty path for none)
and the environment. -/
def load (path : String) (files : Host.Files) (env : Environment) : Except LoadError Config := do
  let tree ← fileTree path files
  match decodeSettings (Store.snapshot { tree, env }) with
  | .ok s => .ok s
  | .error faults => .error (.fields faults)

/-- The environment variables loading may consult: the variable of every key of the
tree, and of every leading part of its path. A text that cannot be read asks for none. -/
def variablesAsked (path : String) (files : Host.Files) : List String :=
  match fileTree path files with
  | .error _ => []
  | .ok tree =>
    (leafKeys tree).flatMap fun key =>
      let parts := key.splitOn "."
      (List.range parts.length).map fun n => variableName (".".intercalate (parts.take (n + 1)))

/-- What makes loaded settings unusable. -/
inductive Invalid where
  /-- No broker is configured. -/
  | noBroker
  /-- Neither a route nor a twin is configured. -/
  | noRoute
  /-- The publish timeout, in nanoseconds, is not positive. -/
  | publishTimeout (nanos : Int)
  /-- A route, by position, has a quality of service other than 0, 1 or 2. -/
  | routeQos (index : Nat)
  deriving Repr, DecidableEq

/-- The message of unusable settings. -/
def Invalid.message : Invalid → String
  | .noBroker => "mqtt.brokers: at least one broker is required"
  | .noRoute => "bridge.routes: at least one route is required"
  | .publishTimeout d => "bridge.publish_timeout: must be positive, got " ++ Time.durationText d
  | .routeQos i => "bridge.routes[" ++ toString i ++ "].qos: must be 0, 1 or 2"

/-- The first thing that makes settings unusable, if any. -/
def Config.validate (s : Config) : Option Invalid :=
  if s.mqtt.brokers.isEmpty then some .noBroker
  else if s.bridge.routes.isEmpty && s.bridge.twins.isEmpty then some .noRoute
  else if s.bridge.publishTimeout ≤ 0 then some (.publishTimeout s.bridge.publishTimeout)
  else ((s.bridge.routes.zipIdx.find? fun (r, _) => r.qos < 0 || r.qos > 2).map
    fun (_, i) => .routeQos i)

end TopicBridge.Settings
