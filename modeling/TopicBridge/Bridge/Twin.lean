import TopicBridge.Bridge.Route
import TopicBridge.Text.Utf8

/-!
# Twin instances

A **twin** is a named device with a virtual and a real side. Its name must be an RFC 1123
label: at most 63 bytes of lower-case letters, digits and `-`, beginning and ending with a
letter or digit. A twin contributes two integrations:

* **virtual to real**: the route `POST /twins/<name>`, publishing to `<name>-to-real`,
  logged in full as one block, named `<name>-int-virtual-real`;
* **real to virtual**: a relay from `<name>-to-virtual`, emitting events of type
  `ktwin.real.<name>.generated`, named `<name>-int-real-virtual`.

Integration names are cut to 63 bytes.

* `TopicBridge.Bridge.checkTwinName`, `TopicBridge.Bridge.twinRoute`,
  `TopicBridge.Bridge.twinIntegration`.
-/

namespace TopicBridge.Bridge

open TopicBridge.Text

/-- The longest name an integration may carry, in bytes. -/
def maxNameBytes : Nat := 63

/-- A name cut to the longest an integration may carry. -/
def truncateName (s : String) : String := truncateBytes s maxNameBytes

/-- Why a twin name is refused. -/
inductive TwinError where
  /-- The name is empty. -/
  | missing
  /-- The name is longer than 63 bytes. -/
  | tooLong (name : String)
  /-- The name is not a label. -/
  | notLabel (name : String)
  deriving Repr, DecidableEq

/-- The text of a twin name error. -/
def TwinError.message : TwinError → String
  | .missing => "twin name is required"
  | .tooLong n => "twin name " ++ quote n ++ ": longer than 63 characters"
  | .notLabel n => "twin name " ++ quote n ++
      ": must be lower-case alphanumerics or \x27-\x27, starting and ending with an alphanumeric"

/-- A lower-case ASCII letter or a digit. -/
def isLabelEnd (c : Char) : Bool := ('a' ≤ c && c ≤ 'z') || ('0' ≤ c && c ≤ '9')

/-- A character a label may hold inside. -/
def isLabelChar (c : Char) : Bool := isLabelEnd c || c == '-'

/-- Whether a text is a label: label characters only, a letter or digit at both ends. -/
def isLabel (s : String) : Bool :=
  match s.toList with
  | [] => false
  | c :: rest => isLabelEnd c && rest.all isLabelChar && (rest.getLast?.all isLabelEnd)

/-- Checks a (trimmed) twin name. -/
def checkTwinName (name : String) : Except TwinError Unit :=
  if name = "" then .error .missing
  else if name.utf8ByteSize > maxNameBytes then .error (.tooLong name)
  else if !isLabel name then .error (.notLabel name)
  else .ok ()

/-- The topic a real twin publishes on for its virtual side. -/
def twinRelayTopic (name : String) : String := name ++ "-to-virtual"

/-- The event type of messages relayed from a real twin. -/
def twinEventType (name : String) : String := "ktwin.real." ++ name ++ ".generated"

/-- The name of a twin's real-to-virtual integration. -/
def twinRelayName (name : String) : String := truncateName (name ++ "-int-real-virtual")

/-- The virtual-to-real route of a twin, after trimming and checking its name. -/
def twinRoute (raw : String) : Except TwinError Route := do
  let name := trimBlank raw
  checkTwinName name
  pure {
    name := truncateName (name ++ "-int-virtual-real")
    method := "POST"
    path := "/twins/" ++ name
    topic := name ++ "-to-real"
    log := { verbosity := .full, multiline := true } }

/-- Everything a twin adds: its route and its relay settings. -/
structure TwinIntegration where
  /-- The virtual-to-real route. -/
  toReal : Route
  /-- The name of the real-to-virtual integration. -/
  relayName : String
  /-- The topic relayed from. -/
  relayTopic : String
  /-- The type of relayed events. -/
  eventType : String
  deriving Repr, DecidableEq

/-- The integrations of a twin. -/
def twinIntegration (raw : String) : Except TwinError TwinIntegration := do
  let r ← twinRoute raw
  let name := trimBlank raw
  pure { toReal := r, relayName := twinRelayName name, relayTopic := twinRelayTopic name,
         eventType := twinEventType name }

end TopicBridge.Bridge
