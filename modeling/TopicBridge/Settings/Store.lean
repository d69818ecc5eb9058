import TopicBridge.Yaml.Value
import TopicBridge.Text.Case
/-!
# The layered settings store

Settings come in two layers: a **tree** of values read from YAML (the defaults with a
file merged over them), and the **environment**, which overrides single keys.

* Merging a tree into another (`TopicBridge.Settings.mergeTree`) adds the keys it lacks,
  merges a map into a map, and replaces any other value, nothing included. A map never
  gives way to a value that is not a map.
* The keys of a tree (`TopicBridge.Settings.leafKeys`) are the dotted paths to its
  leaves: every value that is not a map, lists and nothing included. An empty map has no
  keys.
* The value of a key (`TopicBridge.Settings.Store.get`) is the environment variable
  `MQTTBRIDGE_KEY` (uppercase, dots as underscores) if it is set and not empty. Otherwise
  a variable set for a part of the path hides the key. Otherwise the key is looked up in
  the tree, trying the longest leading part of the path as one key first. Nothing counts
  as absent.
* The **snapshot** (`TopicBridge.Settings.Store.snapshot`) is the tree rebuilt from the
  value of every key of the tree.
-/

namespace TopicBridge.Settings

open TopicBridge.Yaml

/-- A tree of settings: map entries in order. -/
abbrev Tree := List (String × Value)

/-- The environment: variable names and their values. -/
abbrev Environment := List (String × String)

/-- Merges a tree into another: keys of the first win, maps merge into maps, and a map is
never replaced by a value that is not one. -/
def mergeTree : Tree → Tree → Tree
  | [], tgt => tgt
  | (k, sv) :: rest, tgt =>
    let tgt := if k == "" then Value.setEntry tgt k sv else
      match Value.getEntry? tgt k, sv with
      | none, _ => Value.setEntry tgt k sv
      | some (.map tm), .map sm => Value.setEntry tgt k (.map (mergeTree sm tm))
      | some (.map _), _ => tgt
      | some _, _ => Value.setEntry tgt k sv
    mergeTree rest tgt

/-- Joins a key to the path above it. -/
def joinKey (pre k : String) : String := if pre == "" then k else pre ++ "." ++ k

/-- The dotted paths to the leaves of a tree below a prefix, in order. -/
def leafPaths (pre : String) : Tree → List String
  | [] => []
  | (k, v) :: rest =>
    let here := match v with
      | .map m => leafPaths (joinKey pre k) m
      | _ => [Text.toLower (joinKey pre k)]
    here ++ leafPaths pre rest

/-- The keys of a tree: the paths to its leaves, each once. -/
def leafKeys (t : Tree) : List String :=
  (leafPaths "" t).foldl (fun acc k => if acc.contains k then acc else acc ++ [k]) []

/-- The index a path part names in a list: a decimal number with an optional sign, when
it is a position of the list. -/
def listIndex? (part : String) (size : Nat) : Option Nat :=
  let digits := match part.toList with
    | '+' :: ds => ds
    | ds => ds
  if !digits.isEmpty && digits.all Char.isDigit then
    let n := digits.foldl (fun n c => n * 10 + (c.toNat - '0'.toNat)) 0
    if n < size then some n else none
  else none

/-- The value at the entry or item named by a path part. -/
def child? (source : Value) (part : String) : Option Value :=
  match source with
  | .map m => Value.getEntry? m part
  | .list items => (listIndex? part items.length).bind fun i => items[i]?
  | _ => none

/-- Looks up a path in a value, within a bound on the path's length: the longest leading
part of the path, joined by dots, is tried first as one key; a value that is nothing
counts as absent. -/
def lookupWithin : Nat → Value → List String → Option Value
  | _, source, [] => if source.isNull then none else some source
  | 0, _, _ :: _ => none
  | bound + 1, source, path@(_ :: _) =>
    ((List.range path.length).reverse.map (· + 1)).findSome? fun i =>
      match child? source (Text.toLower (".".intercalate (path.take i))) with
      | none => none
      | some next =>
        if i = path.length then (if next.isNull then none else some next)
        else match next with
          | .map _ | .list _ => lookupWithin bound next (path.drop i)
          | _ => none

/-- Looks up a path in a value (see `TopicBridge.Settings.lookupWithin`). -/
def lookupPath (source : Value) (path : List String) : Option Value :=
  lookupWithin path.length source path

/-- The environment variable that overrides a key. -/
def variableName (key : String) : String :=
  String.ofList ((Text.toUpper ("MQTTBRIDGE_" ++ key)).toList.map fun c => if c == '.' then '_' else c)

/-- The value of a variable, when it is set and not empty. -/
def Environment.value? (env : Environment) (name : String) : Option String :=
  match env.lookup name with
  | some v => if v.isEmpty then none else some v
  | none => none

/-- The layered store: a tree and the environment over it. -/
structure Store where
  /-- The tree of values from YAML. -/
  tree : Tree
  /-- The environment. -/
  env : Environment

namespace Store

/-- Whether a variable is set for a proper leading part of a path. -/
def hidden (s : Store) (path : List String) : Bool :=
  (List.range path.length).any fun i =>
    i ≥ 1 && (s.env.value? (variableName (".".intercalate (path.take i)))).isSome

/-- The value of a key: the environment first, then the tree. -/
def get (s : Store) (key : String) : Option Value :=
  let key := Text.toLower key
  let path := key.splitOn "."
  match s.env.value? (variableName key) with
  | some v => some (.str v)
  | none =>
    if path.length > 1 && s.hidden path then none
    else lookupPath (.map s.tree) path

/-- Sets a value at a path of keys, making maps of the keys on the way. -/
def setPath : Tree → List String → String → Value → Tree
  | m, [], last, v => Value.setEntry m last v
  | m, k :: ks, last, v =>
    let inner := match Value.getEntry? m k with
      | some (.map c) => c
      | _ => []
    Value.setEntry m k (.map (setPath inner ks last v))

/-- The tree rebuilt from the value of every key of the store's tree. -/
def snapshot (s : Store) : Tree :=
  (leafKeys s.tree).foldl (fun acc key =>
    match s.get key with
    | none => acc
    | some v =>
      let path := key.splitOn "."
      setPath acc path.dropLast (Text.toLower (path.getLastD "")) v) []

end Store

theorem mergeTree_nil_left (t : Tree) : mergeTree [] t = t := by simp [mergeTree]

end TopicBridge.Settings
