import TopicBridge.Bridge.Publish

/-!
# A broker session

A **session** is the bridge's side of one broker connection: the brokers it was given,
whether it keeps retrying a first connect in the background, and the **registry** of
subscriptions it replays after every (re)connect, each topic with its quality of service
and its message handler. Underneath sits the **link**: whether the connection is up and
which handler is installed for each topic. Handlers are values of any type `H`: the
session only stores them and hands them on.

Every request to the link answers with a **token**, which completes, fails with an error,
or never completes. A session operation is a pure function of the session and the tokens
it meets; it returns its value, the next session, the requests made of the link, and the
log entries written, in order.

* publishing on a link that is down fails at once with `mqtt: not connected: <brokers>`
  and makes no request;
* a subscription is recorded before it is requested; a refusal while connected forgets
  it again, a refusal while disconnected keeps it for the next connect;
* unsubscribing forgets the topics whatever the link answers;
* after a connect every recorded subscription is requested again.
-/

namespace TopicBridge.Broker

open TopicBridge.Bridge TopicBridge.Log

/-- How the link completes one request. -/
inductive Token where
  /-- The request completes without error. -/
  | done
  /-- The request completes with this error. -/
  | failed (error : Fault)
  /-- The request never completes. -/
  | pending
  deriving Repr, Inhabited

/-- A request the session makes of its link. -/
inductive Call (H : Type) where
  /-- Open the connection. -/
  | connect
  /-- Send a message. -/
  | publish (topic : String) (qos : Nat) (retained : Bool) (payload : ByteArray)
  /-- Ask for the messages of a topic, to go to a handler. -/
  | subscribe (topic : String) (qos : Nat) (handler : H)
  /-- Stop the messages of some topics. -/
  | unsubscribe (topics : List String)
  /-- Close the connection, letting this many milliseconds of work finish. -/
  | disconnect (quiesce : Nat)
  deriving Inhabited

/-- The milliseconds a disconnect lets in-flight work finish. -/
def disconnectQuiesce : Nat := 250

/-- Sets the value of a key in a list of keyed entries: in place when the key is there, at
the end otherwise. -/
def assign {α : Type} (entries : List (String × α)) (key : String) (value : α) :
    List (String × α) :=
  if entries.any (·.1 == key) then entries.map fun e => if e.1 == key then (key, value) else e
  else entries ++ [(key, value)]

/-- The connection under a session. -/
structure Link (H : Type) where
  /-- Whether the connection is up. -/
  connected : Bool := false
  /-- The message handler installed for each topic, each topic once. -/
  handlers : List (String × H) := []
  deriving Repr, Inhabited

/-- Installs the handler of a topic, replacing the one it had. -/
def Link.install {H : Type} (l : Link H) (topic : String) (handler : H) : Link H :=
  { l with handlers := assign l.handlers topic handler }

/-- Removes the handlers of some topics. -/
def Link.remove {H : Type} (l : Link H) (topics : List String) : Link H :=
  { l with handlers := l.handlers.filter fun e => !(topics.contains e.1) }

/-- A recorded subscription: its quality of service and its handler. -/
structure Subscription (H : Type) where
  /-- The quality of service asked for. -/
  qos : Nat
  /-- Where the topic's messages go. -/
  handler : H
  deriving Repr, Inhabited

/-- The bridge's side of a broker connection, with handlers of type `H`. -/
structure Session (H : Type) where
  /-- The broker addresses, as configured. -/
  brokers : List String
  /-- Whether a first connect keeps retrying in the background; none without options. -/
  retry : Option Bool := none
  /-- The subscriptions replayed on connect, by topic. -/
  registry : List (String × Subscription H) := []
  /-- The connection underneath. -/
  link : Link H := {}
  deriving Repr, Inhabited

/-- What one session operation did. -/
structure Outcome (H α : Type) where
  /-- The operation's answer. -/
  value : α
  /-- The session afterwards. -/
  next : Session H
  /-- The requests made of the link, in order. -/
  calls : List (Call H) := []
  /-- The log entries written, in order. -/
  logs : List Entry := []

namespace Session

variable {H : Type}

/-! ### Reading the session -/

/-- The first broker, or the empty text when there is none. -/
def broker (s : Session H) : String := s.brokers.headD ""

/-- Whether the connection is up. -/
def isConnected (s : Session H) : Bool := s.link.connected

/-- The brokers joined by commas, as failures name them. -/
def brokerList (s : Session H) : String := ",".intercalate s.brokers

/-- The connection goes up or down beneath the session. -/
def linkUp (s : Session H) (up : Bool) : Session H := { s with link := { s.link with connected := up } }

/-! ### The registry -/

/-- Records a subscription, replacing an earlier one of the same topic in place. -/
def remember (s : Session H) (topic : String) (sub : Subscription H) : Session H :=
  { s with registry := assign s.registry topic sub }

/-- Forgets the subscriptions of some topics. -/
def forget (s : Session H) (topics : List String) : Session H :=
  { s with registry := s.registry.filter fun e => !(topics.contains e.1) }

/-- The recorded subscriptions in the order they are replayed: by topic. -/
def replayOrder (s : Session H) : List (String × Subscription H) :=
  s.registry.mergeSort fun a b => decide (a.1 ≤ b.1)

/-! ### Operations -/

/-- The fault a connect fails with. -/
def connectFault (cause : Fault) : Fault := .wrap "broker connection error: " cause ""

/-- Connects: a pending connect succeeds quietly when retrying in the background is on,
and otherwise fails with the exceeded deadline. -/
def connect (s : Session H) (tok : Token) : Outcome H (Except Fault Unit) :=
  match tok with
  | .done => { value := .ok (), next := s, calls := [.connect] }
  | .failed e => { value := .error (connectFault e), next := s, calls := [.connect] }
  | .pending =>
    if s.retry = some true then
      { value := .ok (), next := s, calls := [.connect],
        logs := [⟨.warn, "MQTT broker not reachable yet, retrying in background",
          [⟨"brokers", .texts s.brokers⟩]⟩] }
    else
      { value := .error (connectFault (.named .deadlineExceeded)), next := s, calls := [.connect] }

/-- The fault of a publish on a link that is down. -/
def notConnectedFault (s : Session H) : Fault := .wrap "" (.named .notConnected) (": " ++ s.brokerList)

/-- Publishes a message and waits for its token or the end of the context. -/
def publish (s : Session H) (msg : OutboundMessage) (ctx : CallContext) (tok : Token) :
    Outcome H (Except Fault Unit) :=
  if !s.isConnected then { value := .error s.notConnectedFault, next := s }
  else
    let call := Call.publish msg.topic msg.qos msg.retained msg.payload
    match tok with
    | .done =>
      { value := .ok (), next := s, calls := [call],
        logs := [⟨.debug, "Message published", [.str "topic" msg.topic, .num "size" msg.payload.size]⟩] }
    | .failed e =>
      { value := .error (.wrap ("publish " ++ msg.topic ++ ": ") e ""), next := s,
        calls := [call], logs := [⟨.error, "Publish error", [.str "topic" msg.topic, .err e.text]⟩] }
    | .pending =>
      { value := .error (if ctx.cancelled then .named .canceled
          else .ackTimeout msg.topic (.named .deadlineExceeded)),
        next := s, calls := [call] }

/-- The publisher a session offers the bridge, with every publish meeting one token. -/
def publisher (s : Session H) (tok : Token) (msg : OutboundMessage) (ctx : CallContext) :
    Publication :=
  { result := (s.publish msg ctx tok).value }

/-- Subscribes a handler to a topic, the link's token failing with `refusal` if it does.
The subscription is recorded first. A refusal while connected then forgets the topic and
fails; a refusal while disconnected keeps it for the next connect and succeeds. -/
def subscribe (s : Session H) (topic : String) (qos : Nat) (handler : H)
    (refusal : Option Fault) : Outcome H (Except Fault Unit) :=
  let s := s.remember topic ⟨qos, handler⟩
  let call := Call.subscribe topic qos handler
  match refusal with
  | none =>
    { value := .ok (), next := { s with link := s.link.install topic handler }, calls := [call],
      logs := [⟨.debug, "Subscribed to topic", [.str "topic" topic]⟩] }
  | some e =>
    if !s.isConnected then
      { value := .ok (), next := s, calls := [call],
        logs := [⟨.warn, "Subscribe deferred until connected", [.err e.text, .str "topic" topic]⟩] }
    else
      { value := .error (.wrap "subscribe error: " e ""), next := s.forget [topic],
        calls := [call], logs := [⟨.error, "Subscribe error", [.err e.text, .str "topic" topic]⟩] }

/-- The text of a topic list in brackets, separated by blanks. -/
def topicsText (topics : List String) : String := "[" ++ " ".intercalate topics ++ "]"

/-- Unsubscribes from topics; they are forgotten whatever the link answers. -/
def unsubscribe (s : Session H) (topics : List String) (tok : Token) :
    Outcome H (Except Fault Unit) :=
  let s := s.forget topics
  let s := { s with link := s.link.remove topics }
  let value : Except Fault Unit := match tok with
    | .done => .ok ()
    | .failed e => .error e
    | .pending => .error (.plain ("unsubscribe " ++ topicsText topics ++ ": timed out"))
  { value, next := s, calls := [.unsubscribe topics] }

/-- Closes the connection. -/
def disconnect (s : Session H) : Outcome H Unit :=
  { value := (), next := { s with link := { s.link with connected := false } },
    calls := [.disconnect disconnectQuiesce], logs := [⟨.info, "Disconnected from MQTT broker", []⟩] }

/-- Whether a message on a topic reaches a handler. -/
def handles (s : Session H) (topic : String) : Bool := s.link.handlers.any (·.1 == topic)

/-- Requests one recorded subscription again. -/
def resubscribeOne (answer : String → Token) (acc : Outcome H Unit)
    (e : String × Subscription H) : Outcome H Unit :=
  let calls := acc.calls ++ [.subscribe e.1 e.2.qos e.2.handler]
  match answer e.1 with
  | .done =>
    let next := { acc.next with link := acc.next.link.install e.1 e.2.handler }
    ⟨(), next, calls, acc.logs ++ [⟨.info, "Resubscribed to topic", [.str "topic" e.1]⟩]⟩
  | .failed t =>
    ⟨(), acc.next, calls,
      acc.logs ++ [⟨.error, "Resubscribe error", [.err t.text, .str "topic" e.1]⟩]⟩
  | .pending =>
    ⟨(), acc.next, calls, acc.logs ++ [⟨.error, "Resubscribe timed out", [.str "topic" e.1]⟩]⟩

/-- What runs after every connect: announce it and request every recorded subscription
again, each meeting the token the link answers for its topic. -/
def onConnect (s : Session H) (answer : String → Token) : Outcome H Unit :=
  let start : Outcome H Unit :=
    { value := (), next := s, logs := [⟨.info, "connected to MQTT broker", [⟨"brokers", .texts s.brokers⟩]⟩] }
  s.replayOrder.foldl (resubscribeOne answer) start

/-- The topics with a handler installed, in increasing order. -/
def handlerTopics (s : Session H) : List String :=
  (s.link.handlers.map (·.1)).mergeSort fun a b => decide (a ≤ b)

end Session

/-- Whether a fault is, or wraps, a missing acknowledgement. -/
def isNoAck : Fault → Bool
  | .ackTimeout _ _ => true
  | .wrap _ c _ => isNoAck c
  | _ => false

end TopicBridge.Broker
