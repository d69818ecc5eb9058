import TopicBridge.Net.Header

/-!
# Log entries

A **log entry** has a level, a message and named fields. A field holds a text, an integer
(durations are integers of nanoseconds), a list of texts, or a header map that may be
absent. An error is logged as the field `error` holding its text.

Components return the entries they write, in the order written; nothing is printed here.
-/

namespace TopicBridge.Log

/-- The severity of an entry. -/
inductive Level where
  /-- Detail for debugging. -/
  | debug
  /-- Normal operation. -/
  | info
  /-- Something went wrong and was absorbed. -/
  | warn
  /-- Something failed. -/
  | error
  deriving Repr, DecidableEq, Inhabited

/-- The word of a level. -/
def Level.label : Level → String
  | .debug => "debug"
  | .info => "info"
  | .warn => "warn"
  | .error => "error"

/-- The rank of a level, from `debug` upwards. -/
def Level.rank : Level → Nat
  | .debug => 0
  | .info => 1
  | .warn => 2
  | .error => 3

/-- The value of a field. -/
inductive Value where
  /-- A text. -/
  | text (s : String)
  /-- An integer. -/
  | int (n : Int)
  /-- A list of texts. -/
  | texts (xs : List String)
  /-- A header map, possibly absent. -/
  | headers (h : Option Net.Headers)
  deriving Repr, DecidableEq, Inhabited

/-- A named value. -/
structure Field where
  /-- The field name. -/
  key : String
  /-- The field value. -/
  value : Value
  deriving Repr, DecidableEq, Inhabited

/-- A text field. -/
def Field.str (k s : String) : Field := ⟨k, .text s⟩

/-- An integer field. -/
def Field.num (k : String) (n : Int) : Field := ⟨k, .int n⟩

/-- The field of an error: its text under `error`. -/
def Field.err (text : String) : Field := ⟨"error", .text text⟩

/-- One log entry. -/
structure Entry where
  /-- The severity. -/
  level : Level
  /-- The message. -/
  message : String
  /-- The fields, in the order given. -/
  fields : List Field
  deriving Repr, DecidableEq, Inhabited

end TopicBridge.Log
