import TopicBridge.Num.Shortest
import TopicBridge.Text.Quoted
import TopicBridge.Time.Stamp
/-!
# Values read from YAML

A **value** is what a YAML document holds once its scalars are resolved: nothing, a
boolean, a signed or unsigned 64-bit integer, a double, a text, a date and time of day
(`TopicBridge.Time.Stamp`), a list, or a map from texts to values. Maps keep their keys in the order they were first set.

Four texts of a value are used in messages and keys:
* its **plain text** (`TopicBridge.Yaml.Value.plainText`): a text as it is, numbers in
  decimal, doubles positionally, booleans as `true`/`false`, dates by their plain text,
  nothing as the empty text. Map keys that are not texts become texts this way.
* its **display** (`TopicBridge.Yaml.Value.display`): doubles in the general layout,
  nothing as `<nil>`, lists as `[a b]`, maps as `map[k:v …]` with sorted keys.
* its **source text** (`TopicBridge.Yaml.Value.sourceText`), as a literal of it would be
  written: `[]interface {}{"a", 1}`, `time.Date(2024, time.January, 1, …)`.
* its **type name** and **kind name**, as in `[]interface {}` and `slice`.
-/

namespace TopicBridge.Yaml

open TopicBridge.Num

/-- A resolved YAML value. -/
inductive Value where
  /-- Nothing. -/
  | null
  /-- A boolean. -/
  | bool (b : Bool)
  /-- A signed 64-bit integer. -/
  | int (i : Int)
  /-- An unsigned 64-bit integer beyond the signed range. -/
  | uint (n : Nat)
  /-- A double. -/
  | float (x : Double)
  /-- A text. -/
  | str (s : String)
  /-- A date and time of day. -/
  | time (t : Time.Stamp)
  /-- A list. -/
  | list (items : List Value)
  /-- A map with text keys, in the order the keys were first set. -/
  | map (entries : List (String × Value))
  deriving Repr, Inhabited

namespace Value

/-- Whether a value is nothing. -/
def isNull : Value → Bool
  | .null => true
  | _ => false

/-- The plain text of a value; lists and maps have none. -/
def plainText : Value → String
  | .null => ""
  | .bool b => if b then "true" else "false"
  | .int i => toString i
  | .uint n => toString n
  | .float x => x.positional
  | .str s => s
  | .time t => t.text
  | .list _ | .map _ => ""

/-- Inserts a key in order into a sorted list of entries. -/
def insertSorted (e : String × String) : List (String × String) → List (String × String)
  | [] => [e]
  | x :: xs => if e.1 < x.1 then e :: x :: xs else x :: insertSorted e xs

/-- The display of a value, as messages show it. -/
def display : Value → String
  | .null => "<nil>"
  | .bool b => if b then "true" else "false"
  | .int i => toString i
  | .uint n => toString n
  | .float x => x.general
  | .str s => s
  | .time t => t.text
  | .list items => "[" ++ " ".intercalate (displayList items) ++ "]"
  | .map entries =>
    let shown := (displayEntries entries).foldr insertSorted []
    "map[" ++ " ".intercalate (shown.map fun (k, v) => k ++ ":" ++ v) ++ "]"
where
  /-- The displays of list items. -/
  displayList : List Value → List String
    | [] => []
    | v :: vs => display v :: displayList vs
  /-- The displays of map entries. -/
  displayEntries : List (String × Value) → List (String × String)
    | [] => []
    | (k, v) :: es => (k, display v) :: displayEntries es

/-- The name of a value's type. -/
def typeName : Value → String
  | .null => "<nil>"
  | .bool _ => "bool"
  | .int _ => "int"
  | .uint _ => "uint64"
  | .float _ => "float64"
  | .str _ => "string"
  | .time _ => "time.Time"
  | .list _ => "[]interface \x7b\x7d"
  | .map _ => "map[string]interface \x7b\x7d"

/-- The name of a value's kind. -/
def kindName : Value → String
  | .null => "invalid"
  | .bool _ => "bool"
  | .int _ => "int"
  | .uint _ => "uint64"
  | .float _ => "float64"
  | .str _ => "string"
  | .time _ => "struct"
  | .list _ => "slice"
  | .map _ => "map"

/-- The source-like text of a value, as in `[]interface {}{"a", 1}`. -/
def sourceText : Value → String
  | .null => "interface \x7b\x7d(nil)"
  | .bool b => if b then "true" else "false"
  | .int i => toString i
  | .uint n => "0x" ++ String.ofList (Nat.toDigits 16 n)
  | .float x => x.general
  | .str s => Text.quote s
  | .time t => t.sourceText
  | .list items => "[]interface \x7b\x7d\x7b" ++ ", ".intercalate (sourceList items) ++ "\x7d"
  | .map entries =>
    let shown := (sourceEntries entries).foldr insertSorted []
    "map[string]interface \x7b\x7d\x7b" ++ ", ".intercalate (shown.map fun (k, v) => Text.quote k ++ ":" ++ v) ++ "\x7d"
where
  /-- The source texts of list items. -/
  sourceList : List Value → List String
    | [] => []
    | v :: vs => sourceText v :: sourceList vs
  /-- The source texts of map entries. -/
  sourceEntries : List (String × Value) → List (String × String)
    | [] => []
    | (k, v) :: es => (k, sourceText v) :: sourceEntries es

/-- Sets a key in map entries: replaced where it is, or added last. -/
def setEntry (entries : List (String × Value)) (k : String) (v : Value) : List (String × Value) :=
  if entries.any (·.1 == k) then entries.map fun e => if e.1 == k then (k, v) else e
  else entries ++ [(k, v)]

/-- The value at a key of map entries. -/
def getEntry? (entries : List (String × Value)) (k : String) : Option Value :=
  (entries.find? (·.1 == k)).map (·.2)

theorem getEntry?_setEntry_same (entries : List (String × Value)) (k : String) (v : Value)
    (h : entries.any (·.1 == k) = false) : getEntry? (setEntry entries k v) k = some v := by
  simp only [setEntry, h, Bool.false_eq_true, if_false, getEntry?]
  rw [List.find?_append]
  have : entries.find? (·.1 == k) = none := by
    rw [List.find?_eq_none]
    intro x hx hk
    have := List.any_eq_false.mp h x hx
    simp_all
  simp [this]

end Value

end TopicBridge.Yaml
