import TopicBridge.Bridge.Twin
import TopicBridge.Settings.Basic

/-!
# The route table

The **route table** is the fixed list of routes a server registers at start. Building it
uppercases each method (after trimming its blanks), validates each route, and refuses a
route whose binding or name an earlier route already took; an empty list is refused too.
A lookup uppercases the method it is given and finds the route with that binding.

The table can also be built from the settings: the configured routes, with their
verbosity words read and their quality of service checked, followed by one route per twin.

* `TopicBridge.Bridge.RouteTable.build`, `TopicBridge.Bridge.RouteTable.lookup`,
  `TopicBridge.Bridge.RouteTable.byName`, `TopicBridge.Bridge.RouteTable.ofSettings`.
-/

namespace TopicBridge.Bridge

open TopicBridge.Text

/-- Why a list of routes does not form a table. -/
inductive TableError where
  /-- A route is not valid. -/
  | invalid (e : RouteError)
  /-- A route repeats an earlier binding. -/
  | duplicateBinding (name key : String)
  /-- A route repeats an earlier name. -/
  | duplicateName (name : String)
  /-- There is no route at all. -/
  | empty
  deriving Repr, DecidableEq

/-- The text of a table error. -/
def TableError.message : TableError → String
  | .invalid e => e.message
  | .duplicateBinding n k => "route " ++ n ++ ": duplicate binding " ++ k
  | .duplicateName n => "route " ++ n ++ ": duplicate name"
  | .empty => "route table is empty"

/-- A table of routes, in registration order. -/
structure RouteTable where
  /-- The routes in registration order. -/
  routes : List Route
  deriving Repr, DecidableEq

/-- A route with its method trimmed and uppercased. -/
def Route.normalize (r : Route) : Route := { r with method := toUpper (trimBlank r.method) }

/-- Adds routes to the ones accepted so far, stopping at the first that is refused. -/
def RouteTable.addAll (acc : List Route) : List Route → Except TableError (List Route)
  | [] => .ok acc
  | r :: rest => do
    let r := r.normalize
    match r.validate with
    | .error e => .error (.invalid e)
    | .ok () =>
      if acc.any (·.key = r.key) then .error (.duplicateBinding r.name r.key)
      else if acc.any (·.name = r.name) then .error (.duplicateName r.name)
      else RouteTable.addAll (acc ++ [r]) rest

/-- Builds a table from routes in order. -/
def RouteTable.build (rs : List Route) : Except TableError RouteTable := do
  let routes ← RouteTable.addAll [] rs
  if routes.isEmpty then .error .empty else pure ⟨routes⟩

/-- The route bound to a method (uppercased here) and path. -/
def RouteTable.lookup (t : RouteTable) (method path : String) : Option Route :=
  t.routes.find? (·.key = toUpper method ++ " " ++ path)

/-- The route of a name. -/
def RouteTable.byName (t : RouteTable) (name : String) : Option Route :=
  t.routes.find? (·.name = name)

/-! ### From the settings -/

/-- Why the settings do not give a route table. -/
inductive SettingsRouteError where
  /-- A configured route has an unknown verbosity word. -/
  | unknownVerbosity (index : Nat) (word : String)
  /-- A configured route has a quality of service outside `0`–`2`. -/
  | qosOutOfRange (index : Nat) (qos : Int)
  /-- A twin name is refused. -/
  | twin (e : TwinError)
  /-- The routes do not form a table. -/
  | table (e : TableError)
  deriving Repr, DecidableEq

/-- The text of a settings route error. -/
def SettingsRouteError.message : SettingsRouteError → String
  | .unknownVerbosity i w => "bridge.routes[" ++ toString i ++ "]: unknown log verbosity " ++ quote w
  | .qosOutOfRange i q => "bridge.routes[" ++ toString i ++ "]: qos " ++ toString q ++ " out of range"
  | .twin e => e.message
  | .table e => e.message

/-- The route of one configured entry at position `i`. -/
def routeOfSection (i : Nat) (rc : Settings.RouteSection) : Except SettingsRouteError Route :=
  let (verbosity, known) := Verbosity.parse rc.log.verbosity
  if !known then .error (.unknownVerbosity i rc.log.verbosity)
  else if rc.qos < 0 ∨ rc.qos > 2 then .error (.qosOutOfRange i rc.qos)
  else
    let trimmed := trimBlank rc.name
    let name := if trimmed = "" then toUpper rc.method ++ " " ++ rc.path else trimmed
    .ok { name, method := rc.method, path := rc.path, topic := rc.topic, qos := rc.qos.toNat,
          retained := rc.retained, clearBody := rc.clearBody,
          log := { verbosity, multiline := rc.log.multiline } }

/-- The routes of configured entries, numbered from `i`. -/
def routesOfSections (i : Nat) : List Settings.RouteSection → Except SettingsRouteError (List Route)
  | [] => .ok []
  | rc :: rest => do
    let r ← routeOfSection i rc
    let rs ← routesOfSections (i + 1) rest
    pure (r :: rs)

/-- The twin routes of names in order. -/
def twinRoutes : List String → Except SettingsRouteError (List Route)
  | [] => .ok []
  | n :: rest => do
    let r ← (twinRoute n).mapError .twin
    let rs ← twinRoutes rest
    pure (r :: rs)

/-- The table of the bridge settings: configured routes, then twin routes. -/
def RouteTable.ofSettings (b : Settings.BridgeSection) : Except SettingsRouteError RouteTable := do
  let configured ← routesOfSections 0 b.routes
  let twins ← twinRoutes b.twins
  (RouteTable.build (configured ++ twins)).mapError .table

end TopicBridge.Bridge
