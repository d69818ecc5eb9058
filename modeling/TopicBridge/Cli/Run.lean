import TopicBridge.Cli.Parse
import TopicBridge.Settings.Load
import TopicBridge.Bridge.RouteTable
import TopicBridge.Bridge.Twin
import TopicBridge.Text.Columns
/-!
# Running the command line

A run finds the command, reads its flags, and then:
* prints the command's help on standard output when `--help` is given or the command only
  groups others;
* otherwise performs the command's action, which for most commands first loads the
  settings from the file named by `--config` and checks them.

A failure prints `Error: <message>`, the command's usage and a blank line on standard
error, then the message once more, and ends with exit code 1. A word naming no command
prints the error and a pointer to `--help` instead of the usage.

`routes` prints the route table: one row per route with its name, method, path, topic,
quality of service, whether the body is cleared, and how it logs (`full+multiline` for a
full log in one block), in columns two spaces apart.

The other commands are checked as far as they can be without outside services: `migrate`
needs a database, `worker ingest` Kafka settings and a known route, `worker relay` a topic
and event type (or a twin), a known verbosity and an enabled sink. Past those checks they
would connect to a broker, a database or Kafka, which this library does not do; they fail
saying so.

* `TopicBridge.Cli.run`, `TopicBridge.Cli.Outcome`, `TopicBridge.Cli.routeRows`.
-/

namespace TopicBridge.Cli

open TopicBridge.Bridge

/-- What a run printed and how it ended. -/
structure Outcome where
  /-- The exit code. -/
  exit : Nat
  /-- What was printed on standard output. -/
  stdout : String := ""
  /-- What was printed on standard error. -/
  stderr : String := ""
  deriving Repr, DecidableEq

/-- A run: finished, or waiting for the settings from a path. -/
inductive Run where
  /-- The run is over. -/
  | finished (o : Outcome)
  /-- The run goes on once the settings at a path are loaded. -/
  | needsSettings (path : String) (resume : Except Settings.LoadError Settings.Config → Outcome)

/-- The outcome of a failed command: the error, the usage, and the message again. -/
def failure (c : Command) (message : String) : Outcome :=
  { exit := 1, stderr := "Error: " ++ message ++ "\n" ++ usageText c true ++ "\n" ++ message ++ "\n" }

/-- The outcome of printing a command's help. -/
def showHelp (c : Command) : Outcome := { exit := 0, stdout := helpText c true }

/-- A positional argument as a help topic shows it: in backquotes when it can stand in
them, quoted otherwise. -/
def topicWord (w : String) : String :=
  let plain := w.toList.all fun c =>
    c != '\x60' && c != '\x7f' && c != '\uFEFF' && (c.toNat ≥ 0x20 || c == '\t')
  if plain then "\x60" ++ w ++ "\x60" else Text.quote w

/-- Prints the help of the command named by the arguments. -/
def helpTopic (args : List String) : Outcome :=
  match findCommand args with
  | (c, _, none) => showHelp c
  | (_, _, some _) =>
    { exit := 0,
      stderr := "Unknown help topic [" ++ " ".intercalate (args.map topicWord) ++ "]\n" ++
        usageText root false }

/-- How a route logs, as the table shows it. -/
def logMode (r : Route) : String :=
  if r.log.verbosity == .full && r.log.multiline then "full+multiline" else r.log.verbosity.label

/-- The route table as text: a header row and one row per route, cells separated by tabs. -/
def routeRows (t : RouteTable) : String :=
  "NAME\tMETHOD\tPATH\tTOPIC\tQOS\tCLEAR_BODY\tLOG\n" ++
  String.join (t.routes.map fun r =>
    r.name ++ "\t" ++ r.method ++ "\t" ++ r.path ++ "\t" ++ r.topic ++ "\t" ++ toString r.qos ++ "\t" ++
      (if r.clearBody then "true" else "false") ++ "\t" ++ logMode r ++ "\n")

/-- The outcome of a step that needs an outside service. -/
def unavailable (c : Command) (service : String) : Outcome :=
  failure c (service ++ ": connecting to outside services is not supported")

/-- The relay topic and event type: the settings', or the twin's when one is named. -/
def relayTarget (r : Settings.RelaySection) (twin : String) : Except String (String × String) := do
  let twin := Text.trimBlank twin
  let (topic, eventType) ← if twin.isEmpty then pure (r.topic, r.eventType) else
    match twinIntegration twin with
    | .ok ti => pure (ti.relayTopic, ti.eventType)
    | .error e => throw e.message
  if topic.isEmpty || eventType.isEmpty then
    throw "relay.topic and relay.event_type are required (or pass --twin)"
  return (topic, eventType)

/-- What a command does with loaded and checked settings. -/
def perform (c : Command) (a : Action) (vals : FlagValues) (s : Settings.Config) : Outcome :=
  let tableOf := RouteTable.ofSettings s.bridge
  match a with
  | .printRoutes =>
    match tableOf with
    | .error e => failure c ("route table: " ++ e.message)
    | .ok t => { exit := 0, stdout := Text.alignColumns 2 (routeRows t) }
  | .serve =>
    match tableOf with
    | .error e => failure c ("route table: " ++ e.message)
    | .ok _ => unavailable c "mqtt connect"
  | .migrate =>
    if !s.mysql.enabled && !s.clickhouse.enabled then
      failure c "nothing to migrate: mysql.dsn and clickhouse.dsn are empty"
    else unavailable c (if s.mysql.enabled then "open mysql" else "open clickhouse")
  | .ingest =>
    if s.kafka.brokers.isEmpty || s.kafka.topic.isEmpty then
      failure c "kafka.brokers and kafka.topic are required"
    else match tableOf with
      | .error e => failure c ("route table: " ++ e.message)
      | .ok t =>
        match t.byName s.kafka.route with
        | none => failure c ("kafka.route: unknown route " ++ Text.quote s.kafka.route)
        | some _ => unavailable c "mqtt connect"
  | .relay =>
    let twinFlag := (c.localFlags.find? (·.name == "twin")).getD
      { name := "twin", usage := "", kind := .text "" }
    match relayTarget s.relay (vals.get twinFlag) with
    | .error m => failure c m
    | .ok _ =>
      if !(Verbosity.parse s.relay.log.verbosity).2 then
        failure c ("relay.log.verbosity: unknown value " ++ Text.quote s.relay.log.verbosity)
      else if !(s.relay.sinks.any fun k => k.enabled && !(Text.trimBlank k.url).isEmpty) then
        failure c "no sinks enabled in config"
      else unavailable c "mqtt connect"
  | .helpTopic => helpTopic vals.args
  | .completionScript _ => unavailable c "completion"

/-- Loads and checks the settings, then performs a command. -/
def withSettings (c : Command) (a : Action) (vals : FlagValues) (loaded : Except Settings.LoadError Settings.Config) :
    Outcome :=
  match loaded with
  | .error e => failure c ("load config: " ++ e.message)
  | .ok s =>
    match s.validate with
    | some v => failure c ("invalid config: " ++ v.message)
    | none => perform c a vals s

/-- Whether an action needs the settings. -/
def Action.needsSettings : Action → Bool
  | .printRoutes | .serve | .migrate | .ingest | .relay => true
  | .helpTopic | .completionScript _ => false

/-- Runs the command line given by its words. -/
def run (words : List String) : Run :=
  match findCommand words with
  | (c, _, some e) =>
    .finished { exit := 1,
                stderr := "Error: " ++ e.message ++ "\nRun \x27" ++ c.commandPath ++ " --help\x27 for usage.\n" ++
                  e.message ++ "\n" }
  | (c, rest, none) =>
    match readFlags (allFlags c true) rest {} with
    | .error e => .finished (failure c e.message)
    | .ok vals =>
      if vals.get (helpFlag c) == "true" then .finished (showHelp c)
      else match c.action with
        | none => .finished (showHelp c)
        | some a =>
          match vals.args with
          | w :: _ =>
            if c.noArgs then
              .finished (failure c ("unknown command " ++ Text.quote w ++ " for " ++ Text.quote c.commandPath))
            else if a.needsSettings then .needsSettings (vals.get configFlag) (withSettings c a vals)
            else .finished (perform c a vals {})
          | [] =>
            if a.needsSettings then .needsSettings (vals.get configFlag) (withSettings c a vals)
            else .finished (perform c a vals {})

/-- Runs the command line against files and an environment. -/
def runWith (words : List String) (files : Host.Files) (env : Settings.Environment) : Outcome :=
  match run words with
  | .finished o => o
  | .needsSettings path resume => resume (Settings.load path files env)

end TopicBridge.Cli
