import TopicBridge.Log.Entry
import TopicBridge.Text.Blank
import TopicBridge.Text.Case

/-!
# Log levels from settings

A level word is read without surrounding blanks and without regard to case; `debug`,
`info`, `warn` and `error` name their levels and anything else means `info`. A logger at a
level writes the entries of that level and above.

* `TopicBridge.Log.parseLevel`, `TopicBridge.Log.Level.enables`.
-/

namespace TopicBridge.Log

/-- The level a word names; `info` for anything else. -/
def parseLevel (word : String) : Level :=
  match Text.toLower (Text.trimBlank word) with
  | "debug" => .debug
  | "warn" => .warn
  | "error" => .error
  | _ => .info

/-- Whether a logger at a level writes an entry of another level. -/
def Level.enables (threshold l : Level) : Bool := threshold.rank ≤ l.rank

end TopicBridge.Log
