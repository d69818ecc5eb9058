/-!
# JSON bodies

The server writes its JSON answers compactly – no blank between tokens – with object
members in the order they are given, and a newline after the value.

Strings are escaped so that they can be pasted into HTML unharmed: besides `"` and `\`,
every control character is escaped (`\b`, `\f`, `\n`, `\r` and `\t` by their short forms,
the others as `\u00XX` with lower-case digits), and so are `<`, `>` and `&` and the line
and paragraph separators U+2028 and U+2029.

* `TopicBridge.Http.JsonValue`, `TopicBridge.Http.JsonValue.render`.
-/

namespace TopicBridge.Http

/-- A JSON value as the server writes it. -/
inductive JsonValue where
  /-- `null`. -/
  | null
  /-- An integer. -/
  | int (n : Int)
  /-- A string. -/
  | str (s : String)
  /-- An array. -/
  | arr (items : List JsonValue)
  /-- An object, its members in the order written. -/
  | obj (members : List (String × JsonValue))
  deriving Repr, Inhabited

/-- The lower-case hexadecimal digit of a value below sixteen. -/
def lowerHex (n : Nat) : Char := "0123456789abcdef".toList.getD n '0'

/-- A character as it stands in a JSON string. -/
def jsonChar (c : Char) : String :=
  match c with
  | '"' => "\\\""
  | '\\' => "\\\\"
  | '\x08' => "\\b"
  | '\x0c' => "\\f"
  | '\n' => "\\n"
  | '\r' => "\\r"
  | '\t' => "\\t"
  | _ =>
    if c.toNat < 0x20 || c == '<' || c == '>' || c == '&' then
      String.ofList ['\\', 'u', '0', '0', lowerHex (c.toNat / 16), lowerHex (c.toNat % 16)]
    else if c.toNat == 0x2028 then "\\u2028"
    else if c.toNat == 0x2029 then "\\u2029"
    else String.singleton c

/-- A string as a JSON string literal. -/
def jsonString (s : String) : String := "\"" ++ String.join (s.toList.map jsonChar) ++ "\""

mutual

/-- The compact text of a JSON value. -/
def JsonValue.render : JsonValue → String
  | .null => "null"
  | .int n => toString n
  | .str s => jsonString s
  | .arr items => "[" ++ ",".intercalate (renderItems items) ++ "]"
  | .obj members => "\x7b" ++ ",".intercalate (renderMembers members) ++ "\x7d"

/-- The texts of the items of an array. -/
def renderItems : List JsonValue → List String
  | [] => []
  | x :: xs => x.render :: renderItems xs

/-- The texts of the members of an object. -/
def renderMembers : List (String × JsonValue) → List String
  | [] => []
  | (k, v) :: ms => (jsonString k ++ ":" ++ v.render) :: renderMembers ms

end

/-- The body of a JSON answer: the value's text and a newline. -/
def JsonValue.body (v : JsonValue) : String := v.render ++ "\n"

/-- An object with one text member: the shape of every error answer. -/
def JsonValue.message (key text : String) : JsonValue := .obj [(key, .str text)]

example : jsonString "a<b" = "\"a\\u003cb\"" := by decide

end TopicBridge.Http
