/-!
# Header maps

A **header map** maps names to lists of values. Names are compared exactly; the map keeps
its names as they were given. Adding a value and looking one up first bring the name to
**canonical form**: the first letter and every letter after a `-` uppercase, all other
letters lowercase. A name holding a character outside the token characters (ASCII letters
and digits and ``!#$%&'*+-.^_`|~``) is left as it is, so `bad key` and `ü` stay unchanged.

* `TopicBridge.Net.canonicalName`;
* `TopicBridge.Net.Headers.add`, `TopicBridge.Net.Headers.get`, `TopicBridge.Net.Headers.render`.
-/

namespace TopicBridge.Net

/-- A character a header name may hold. -/
def isTokenChar (c : Char) : Bool :=
  c.isAlphanum || "!#$%&*+-.^_|~".toList.contains c || c.toNat == 0x27 || c.toNat == 0x60

/-- Uppercases letters that start a word and lowercases the others. -/
def capitalizeWords : List Char → Bool → List Char
  | [], _ => []
  | c :: rest, upper =>
    let c' := if upper then c.toUpper else c.toLower
    c' :: capitalizeWords rest (c' == '-')

/-- The canonical form of a header name; a name with a non-token character stays as it is. -/
def canonicalName (s : String) : String :=
  if s.toList.all isTokenChar then String.ofList (capitalizeWords s.toList true) else s

/-- A header map: names with their values, names kept as given. -/
structure Headers where
  /-- The names with their values, each name once. -/
  entries : List (String × List String) := []
  deriving Repr, DecidableEq, Inhabited

namespace Headers

/-- The values stored under exactly this name. -/
def values (h : Headers) (name : String) : List String :=
  match h.entries.find? (·.1 = name) with
  | some (_, vs) => vs
  | none => []

/-- The first value under the canonical form of the name, or the empty text. -/
def get (h : Headers) (name : String) : String := (h.values (canonicalName name)).headD ""

/-- Appends a value under the canonical form of the name. -/
def add (h : Headers) (name value : String) : Headers :=
  let k := canonicalName name
  if h.entries.any (·.1 = k) then
    ⟨h.entries.map fun e => if e.1 = k then (e.1, e.2 ++ [value]) else e⟩
  else ⟨h.entries ++ [(k, [value])]⟩

/-- Replaces the values under the canonical form of the name by one value. -/
def set (h : Headers) (name value : String) : Headers :=
  let k := canonicalName name
  if h.entries.any (·.1 = k) then
    ⟨h.entries.map fun e => if e.1 = k then (e.1, [value]) else e⟩
  else ⟨h.entries ++ [(k, [value])]⟩

/-- The number of names. -/
def size (h : Headers) : Nat := h.entries.length

/-- The names in increasing order. -/
def sortedNames (h : Headers) : List String :=
  (h.entries.map (·.1)).mergeSort (fun a b => decide (a ≤ b))

/-- The one-line form of a header map: `{}` when empty, otherwise `{Name=v1,v2, Other=v}`
with the names in increasing order. -/
def render (h : Headers) : String :=
  let pairs := h.sortedNames.map fun k => k ++ "=" ++ ",".intercalate (h.values k)
  "\x7b" ++ ", ".intercalate pairs ++ "\x7d"

end Headers

end TopicBridge.Net
