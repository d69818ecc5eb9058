import TopicBridge.Yaml.Event
import TopicBridge.Yaml.Resolve
/-!
# YAML nodes

The **composer** builds the node tree of the first document from the parser's events.
Each node carries its tag, the line it starts on (from one), and the number of the anchor
it defines, if any. An alias refers to the anchor of that name that was defined last
before it.

Tags are settled here: an explicit tag is written short (`!!str`), a quoted or block
scalar is a text (`!!str`), a plain `<<` is a merge key (`!!merge`), a plain scalar gets
the tag of its resolution, and collections are `!!seq` and `!!map`.

* `TopicBridge.Yaml.Node`, `TopicBridge.Yaml.compose`.
-/

namespace TopicBridge.Yaml

/-- A node of a YAML document. -/
inductive Node where
  /-- A scalar: its tag, text and style. -/
  | scalar (tag text : String) (style : ScalarStyle) (line : Nat) (anchor : Option Nat)
  /-- A sequence of nodes. -/
  | sequence (tag : String) (items : List Node) (line : Nat) (anchor : Option Nat)
  /-- A mapping, as pairs of key and value nodes in order. -/
  | mapping (tag : String) (pairs : List (Node × Node)) (line : Nat) (anchor : Option Nat)
  /-- A reference to anchor number `target`; `self` numbers the reference itself. -/
  | alias (name : String) (target : Nat) (line : Nat) (self : Nat)
  deriving Repr, Inhabited

namespace Node

/-- The line a node starts on. -/
def line : Node → Nat
  | .scalar _ _ _ l _ | .sequence _ _ l _ | .mapping _ _ l _ | .alias _ _ l _ => l

/-- The text a node is compared by: a scalar's text, an alias's name, and the empty text
for collections. -/
def text : Node → String
  | .scalar _ t _ _ _ => t
  | .alias n _ _ _ => n
  | _ => ""

/-- The number of a node's constructor. -/
def kindIndex : Node → Nat
  | .scalar .. => 0 | .sequence .. => 1 | .mapping .. => 2 | .alias .. => 3

/-- The anchored nodes of a tree, by anchor number. -/
def anchored : Node → List (Nat × Node)
  | n@(.scalar _ _ _ _ a) => (a.map fun i => [(i, n)]).getD []
  | n@(.sequence _ items _ a) => (a.map fun i => [(i, n)]).getD [] ++ anchoredList items
  | n@(.mapping _ pairs _ a) => (a.map fun i => [(i, n)]).getD [] ++ anchoredPairs pairs
  | .alias .. => []
where
  /-- The anchored nodes of a list of trees. -/
  anchoredList : List Node → List (Nat × Node)
    | [] => []
    | n :: ns => anchored n ++ anchoredList ns
  /-- The anchored nodes of a list of pairs of trees. -/
  anchoredPairs : List (Node × Node) → List (Nat × Node)
    | [] => []
    | (k, v) :: ps => anchored k ++ anchored v ++ anchoredPairs ps

end Node

/-- What stops the reading of a document. -/
inductive ReadError where
  /-- A problem of the text. -/
  | problem (p : Problem)
  /-- A document that cannot be read, with its message. -/
  | fatal (message : String)
  /-- Values that do not fit where they stand, one line each. -/
  | types (lines : List String)
  deriving Repr, Inhabited

/-- The message of a reading error. -/
def ReadError.message : ReadError → String
  | .problem p => p.message
  | .fatal m => "yaml: " ++ m
  | .types ls => "yaml: unmarshal errors:\n  " ++ "\n  ".intercalate ls

/-- The composer's state. -/
structure Composer where
  /-- The parser. -/
  parser : Parser
  /-- The event read ahead, if any. -/
  pending : Option Event := none
  /-- The anchors defined so far, the latest first. -/
  anchors : List (String × Nat) := []
  /-- The next number for an anchor or an alias. -/
  nextId : Nat := 0
  deriving Inhabited

/-- A step of the composer. -/
abbrev ComposeM := StateT Composer (Except ReadError)

namespace Composer

/-- The next event, read ahead. -/
def peek : ComposeM Event := do
  let c ← get
  match c.pending with
  | some e => return e
  | none =>
    match Parser.nextEvent.run c.parser with
    | .ok (e, p) =>
      set { c with parser := p, pending := some e }
      return e
    | .error p => throw (.problem p)

/-- Takes the event read ahead. -/
def take : ComposeM Event := do
  let e ← peek
  modify fun c => { c with pending := none }
  return e

/-- A fresh number. -/
def fresh : ComposeM Nat := do
  let c ← get
  set { c with nextId := c.nextId + 1 }
  return c.nextId

/-- Defines an anchor, if the event names one. -/
def defineAnchor (name : String) : ComposeM (Option Nat) := do
  if name.isEmpty then return none
  let i ← fresh
  modify fun c => { c with anchors := (name, i) :: c.anchors }
  return some i

/-- The tag of a node from its event tag, its default, and for plain scalars its text. -/
def nodeTag (tag default : String) (plainText : Option String) : String :=
  if tag != "" && tag != "!" then shortTag tag
  else if default != "" then default
  else match plainText with
    | some t => match resolve "" t with
      | .ok (rtag, _) => rtag
      | .error _ => strTag
    | none => ""

/-- Composes the node that starts with the next event. -/
def node : Nat → ComposeM (Option Node)
  | 0 => return none
  | fuel + 1 => do
    let e ← peek
    let line := e.start.line + 1
    match e.kind with
    | .scalar anchor tag text style =>
      let _ ← take
      let default := if style == .plain then (if text == "<<" then mergeTag else "") else strTag
      let a ← defineAnchor anchor
      return some (.scalar (nodeTag tag default (some text)) text style line a)
    | .alias name =>
      let _ ← take
      match (← get).anchors.lookup name with
      | some target => return some (.alias name target line (← fresh))
      | none => throw (.fatal ("unknown anchor '" ++ name ++ "' referenced"))
    | .sequenceStart anchor tag _ =>
      let _ ← take
      let a ← defineAnchor anchor
      let items ← sequenceItems fuel
      return some (.sequence (nodeTag tag seqTag none) items line a)
    | .mappingStart anchor tag _ =>
      let _ ← take
      let a ← defineAnchor anchor
      let pairs ← mappingPairs fuel
      return some (.mapping (nodeTag tag mapTag none) pairs line a)
    | _ => return none
where
  /-- The items of a sequence up to its end. -/
  sequenceItems : Nat → ComposeM (List Node)
    | 0 => return []
    | fuel + 1 => do
      match (← peek).kind with
      | .sequenceEnd => let _ ← take; return []
      | _ =>
        match ← node fuel with
        | some n => return n :: (← sequenceItems fuel)
        | none => throw (.fatal "attempted to go past the end of stream; corrupted value?")
  /-- The pairs of a mapping up to its end. -/
  mappingPairs : Nat → ComposeM (List (Node × Node))
    | 0 => return []
    | fuel + 1 => do
      match (← peek).kind with
      | .mappingEnd => let _ ← take; return []
      | _ =>
        match ← node fuel with
        | some k =>
          match ← node fuel with
          | some v => return (k, v) :: (← mappingPairs fuel)
          | none => throw (.fatal "attempted to go past the end of stream; corrupted value?")
        | none => throw (.fatal "attempted to go past the end of stream; corrupted value?")

end Composer

/-- Composes the first document of a text: its root node, or none for a text without
documents. -/
def compose (text : String) : Except ReadError (Option Node) :=
  let fuel := 4 * text.length + 16
  let run : ComposeM (Option Node) := do
    let _ ← Composer.take   -- the stream start
    match (← Composer.peek).kind with
    | .documentStart =>
      let _ ← Composer.take
      let root ← Composer.node fuel
      let _ ← Composer.take   -- the document end
      return root
    | _ => return none
  (run.run' { parser := Parser.ofText text })

end TopicBridge.Yaml
