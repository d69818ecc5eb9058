import TopicBridge.Text.Blank
import TopicBridge.Text.Case
import TopicBridge.Text.Quoted

/-!
# Routes

A **route** binds an inbound trigger, an HTTP method and a path, to a fixed publish
target: a topic, a quality of service, the retain flag, whether the reply body is
cleared, and how requests are logged. Topic and broker are never taken from the request.

A route is **valid** when, checked in this order, its name is not blank, its method is one
of `GET`, `POST`, `PUT`, `PATCH`, `DELETE`, its path starts with `/` and is none of the
server's own paths (with or without one trailing `/`), its topic is a publish topic, and
its quality of service is at most `2`. The first failed check is the error.

A **publish topic** is non-empty and holds neither wildcard (`+`, `#`) nor NUL.

* `TopicBridge.Bridge.Verbosity.parse` – reading a verbosity word;
* `TopicBridge.Bridge.checkTopic`, `TopicBridge.Bridge.Route.validate`.
-/

namespace TopicBridge.Bridge

open TopicBridge.Text

/-! ### Verbosity -/

/-- How much of a request is logged. -/
inductive Verbosity where
  /-- Nothing is logged. -/
  | off
  /-- Name, method, path and body size. -/
  | minimal
  /-- Everything, headers and body included. -/
  | full
  /-- A level with a label of its own; it logs like `minimal`. -/
  | labelled (label : String)
  deriving Repr, DecidableEq, Inhabited

/-- The word of a verbosity. -/
def Verbosity.label : Verbosity → String
  | .off => "off"
  | .minimal => "minimal"
  | .full => "full"
  | .labelled l => l

/-- The verbosity whose word is exactly the given text. -/
def Verbosity.ofLabel (s : String) : Verbosity :=
  if s = "off" then .off
  else if s = "minimal" then .minimal
  else if s = "full" then .full
  else .labelled s

/-- Reads a verbosity word, ignoring case and surrounding blanks: the empty word, `minimal`
and `info` are minimal, `full` and `all` are full, `off` and `none` are off. Any other word
is refused, with minimal as the fallback. -/
def Verbosity.parse (s : String) : Verbosity × Bool :=
  let w := toLower (trimBlank s)
  if w = "" ∨ w = "minimal" ∨ w = "info" then (.minimal, true)
  else if w = "full" ∨ w = "all" then (.full, true)
  else if w = "off" ∨ w = "none" then (.off, true)
  else (.minimal, false)

/-- How a route logs: a verbosity, and for full logs whether they form one block. -/
structure LogOptions where
  /-- The verbosity. -/
  verbosity : Verbosity := .minimal
  /-- Whether a full log is one multi-line block. -/
  multiline : Bool := false
  deriving Repr, DecidableEq, Inhabited

/-! ### Routes -/

/-- A route: a trigger and its fixed publish target. -/
structure Route where
  /-- The route name. -/
  name : String := ""
  /-- The HTTP method of the trigger. -/
  method : String := ""
  /-- The path of the trigger. -/
  path : String := ""
  /-- The topic published to. -/
  topic : String := ""
  /-- The quality of service. -/
  qos : Nat := 0
  /-- Whether the broker keeps the message. -/
  retained : Bool := false
  /-- Whether the reply body is emptied. -/
  clearBody : Bool := false
  /-- How requests are logged. -/
  log : LogOptions := {}
  deriving Repr, DecidableEq, Inhabited

/-- The broker a bridge publishes to unless told otherwise. -/
def defaultBroker : String := "tcp://mqtt-broker:1883"

/-- The route a bare installation serves: `POST /` to `mytopic-response`, body cleared,
logged in full as one block. -/
def Route.default : Route where
  name := "mqtt-response-handler"
  method := "POST"
  path := "/"
  topic := "mytopic-response"
  clearBody := true
  log := { verbosity := .full, multiline := true }

/-- The binding of a route, method and path with a space between. -/
def Route.key (r : Route) : String := r.method ++ " " ++ r.path

/-- The paths the server answers itself. -/
def reservedPaths : List String := ["/healthz", "/readyz", "/metrics", "/v1/exchanges"]

/-- The methods a route may bind. -/
def allowedMethods : List String := ["GET", "POST", "PUT", "PATCH", "DELETE"]

/-- The path without one trailing slash. -/
def dropTrailingSlash (p : String) : String :=
  if p.endsWith "/" then String.ofList p.toList.dropLast else p

/-- Whether a path names one of the server's own paths. -/
def isReservedPath (p : String) : Bool := reservedPaths.contains (dropTrailingSlash p)

/-! ### Topics -/

/-- Why a topic cannot be published to. -/
inductive TopicError where
  /-- The topic is empty. -/
  | missing
  /-- The topic holds a wildcard or NUL. -/
  | wildcard (topic : String)
  deriving Repr, DecidableEq

/-- The text of a topic error. -/
def TopicError.message : TopicError → String
  | .missing => "topic is required"
  | .wildcard t => "topic " ++ quote t ++ " must not contain wildcards"

/-- The characters a publish topic may not hold. -/
def isWildcardChar (c : Char) : Bool := c == '+' || c == '#' || c.toNat == 0

/-- Checks that a topic can be published to. -/
def checkTopic (topic : String) : Except TopicError Unit :=
  if topic = "" then .error .missing
  else if topic.toList.any isWildcardChar then .error (.wildcard topic)
  else .ok ()

/-! ### Validation -/

/-- Why a route is not valid. -/
inductive RouteError where
  /-- The name is blank; the binding identifies the route. -/
  | missingName (key : String)
  /-- The method is not one a route may bind. -/
  | unsupportedMethod (name method : String)
  /-- The path does not start with `/`. -/
  | relativePath (name path : String)
  /-- The path is one of the server's own. -/
  | reservedPath (name path : String)
  /-- The topic cannot be published to. -/
  | badTopic (name : String) (e : TopicError)
  /-- The quality of service is above `2`. -/
  | qosOutOfRange (name : String) (qos : Nat)
  deriving Repr, DecidableEq

/-- The text of a route error. -/
def RouteError.message : RouteError → String
  | .missingName k => "route " ++ quote k ++ ": name is required"
  | .unsupportedMethod n m => "route " ++ n ++ ": unsupported method " ++ quote m
  | .relativePath n p => "route " ++ n ++ ": path " ++ quote p ++ " must start with /"
  | .reservedPath n p => "route " ++ n ++ ": path " ++ quote p ++ " is reserved"
  | .badTopic n e => "route " ++ n ++ ": " ++ e.message
  | .qosOutOfRange n q => "route " ++ n ++ ": qos " ++ toString q ++ " out of range"

/-- Checks a route, reporting the first rule it breaks. -/
def Route.validate (r : Route) : Except RouteError Unit :=
  if isBlankText r.name then .error (.missingName r.key)
  else if !allowedMethods.contains r.method then .error (.unsupportedMethod r.name r.method)
  else if !r.path.startsWith "/" then .error (.relativePath r.name r.path)
  else if isReservedPath r.path then .error (.reservedPath r.name r.path)
  else match checkTopic r.topic with
    | .error e => .error (.badTopic r.name e)
    | .ok () => if r.qos > 2 then .error (.qosOutOfRange r.name r.qos) else .ok ()

example : checkTopic "" = .error .missing := rfl

end TopicBridge.Bridge
