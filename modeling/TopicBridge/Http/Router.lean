import TopicBridge.Text.Octets
/-!
# Routing requests

A router maps a method and a path to a value – here, the endpoint that answers. Its
**patterns** are paths in which `:name` stands for a **parameter** (the text up to the next
`/`) and `*` for the **rest** of the path; `\:` is a literal colon. Paths are compared byte
by byte.

**The tree.** Patterns are kept in a radix tree. A node has a **label** – the bytes it
matches; `:` for a parameter node, `*` for a rest node – fixed-text children, at most one
parameter child and at most one rest child, and the values registered on it by method.
Adding a pattern walks down from the root along the longest common prefix of the path and
each label, splits a label where the two part, and hangs new nodes where the walk ends:
first the text before each parameter or star, then the parameter or rest node, and last
the whole pattern with its parameters written as bare `:`.

**The search.** A path is matched from the root, trying at each node, in this order, a
fixed-text child, the parameter child, and the rest child, and going back to the next
choice of the node above when a branch fails:
* a fixed-text node must match its whole label;
* a parameter node takes the text up to the next `/` – or all the rest when no pattern
  goes on after it – and needs at least one byte to be left to take;
* a rest node takes all that is left, and is the last thing tried: when it holds nothing
  for the method, the search ends there.
A node reached with nothing left to match that holds a value for the method is the
answer. The first node reached that way holding values for other methods only is
remembered: if no answer is found, the path is known but the method is not allowed, and
the `Allow` header lists `OPTIONS` and the node's methods.

* `TopicBridge.Http.Router.add`, `TopicBridge.Http.Router.find`, `TopicBridge.Http.allowText`.
-/

namespace TopicBridge.Http

open TopicBridge.Text

/-- What a node of the tree matches. -/
inductive NodeKind where
  /-- Fixed text: the node's label. -/
  | static
  /-- One parameter. -/
  | param
  /-- The rest of the path. -/
  | any
  deriving Repr, DecidableEq, Inhabited

/-- A node of a routing tree holding values of type `α`. -/
structure RouteNode (α : Type) where
  /-- What the node matches. -/
  kind : NodeKind := .static
  /-- The bytes it matches; `:` for a parameter, `*` for the rest. -/
  label : Octets := []
  /-- The fixed-text children, in the order they were added. -/
  statics : List (RouteNode α) := []
  /-- The parameter child. -/
  param : Option (RouteNode α) := none
  /-- The rest child. -/
  any : Option (RouteNode α) := none
  /-- The values registered here, by method. -/
  methods : List (String × α) := []

namespace RouteNode

variable {α : Type}

/-- Whether no node hangs below. -/
def isLeaf (n : RouteNode α) : Bool := n.statics.isEmpty && n.param.isNone && n.any.isNone

/-- Whether some value is registered on the node. -/
def isHandler (n : RouteNode α) : Bool := !n.methods.isEmpty

/-- The value registered for a method. -/
def method? (n : RouteNode α) (m : String) : Option α := (n.methods.find? (·.1 == m)).map (·.2)

/-- Whether a child's label starts with a byte. -/
def startsWithByte (c : Char) (n : RouteNode α) : Bool := n.label.head? == some c

end RouteNode

/-- Registers a value for a method, replacing an earlier one. -/
def setMethod {α : Type} (ms : List (String × α)) (m : String) (v : α) : List (String × α) :=
  if ms.any (·.1 == m) then ms.map fun e => if e.1 == m then (m, v) else e else ms ++ [(m, v)]

/-- The length of the longest common prefix of two byte lists. -/
def commonLength : Octets → Octets → Nat
  | a :: as, b :: bs => if a == b then commonLength as bs + 1 else 0
  | _, _ => 0

namespace RouteNode

variable {α : Type}

/-- A node with a value registered when one is given. -/
def register (entry : Option (String × α)) (n : RouteNode α) : RouteNode α :=
  match entry with
  | some (m, v) => { n with methods := setMethod n.methods m v }
  | none => n

/-- Hangs a node of a kind at a path below a node, registering `entry` on it, within
`fuel` steps down the tree. -/
def insert (kind : NodeKind) (entry : Option (String × α)) : Nat → RouteNode α → Octets → RouteNode α
  | 0, n, _ => n
  | fuel + 1, n, path =>
    let l := commonLength path n.label
    if l = 0 then
      -- the empty root takes the whole path
      match entry with
      | some _ => register entry { n with label := path, kind }
      | none => { n with label := path }
    else if l < n.label.length then
      -- the label parts from the path: split it
      let lower := { n with label := n.label.drop l }
      let upper : RouteNode α := { label := n.label.take l, statics := [lower] }
      if l = path.length then register entry { upper with kind }
      else { upper with statics := [lower, register entry { kind, label := path.drop l }] }
    else if l < path.length then
      let rest := path.drop l
      match rest with
      | [] => n
      | c :: _ =>
        if n.statics.any (startsWithByte c) then
          { n with statics := n.statics.map fun s =>
              if startsWithByte c s then insert kind entry fuel s rest else s }
        else match c, n.param, n.any with
          | ':', some p, _ => { n with param := some (insert kind entry fuel p rest) }
          | '*', _, some a => { n with any := some (insert kind entry fuel a rest) }
          | _, _, _ =>
            let child := register entry { kind, label := rest }
            match kind with
            | .static => { n with statics := n.statics ++ [child] }
            | .param => { n with param := some child }
            | .any => { n with any := some child }
    else register entry n

end RouteNode

/-- The nodes a pattern adds, in order: the kind, the path down to the node, and whether
the value is registered there. -/
def patternSteps : Octets → Octets → List (NodeKind × Octets × Bool)
  | done, [] => [(.static, done, true)]
  | done, c :: rest =>
    if c = ':' then
      if done.getLast? = some '\\' then patternSteps (done.dropLast ++ [':']) rest
      else
        let after := rest.dropWhile (· ≠ '/')
        let here := done ++ [':']
        (.static, done, false) :: (.param, here, after.isEmpty) ::
          patternSteps (here ++ after.take 1) (after.drop 1)
    else if c = '*' then
      (.static, done, false) :: (.any, done ++ ['*'], true) :: patternSteps (done ++ ['*']) rest
    else patternSteps (done ++ [c]) rest
termination_by _ rest => rest.length
decreasing_by
  all_goals simp_wf
  all_goals
    first
    | omega
    | (have h : (rest.dropWhile (· ≠ '/')).length ≤ rest.length := (List.dropWhile_suffix _).length_le
       simp at h ⊢; omega)

/-- A pattern as it is registered: `/` for the empty one, and a leading `/` added when it
has none. -/
def normalizePattern (p : String) : Octets :=
  let o := octets p
  if o.isEmpty then ['/'] else if o.head? = some '/' then o else '/' :: o

/-- How a search below a node ended. -/
inductive Search (α : Type) where
  /-- A node holding a value for the method was reached with the path used up. -/
  | found (value : α)
  /-- A rest node without a value for the method was reached: the search is over. -/
  | stopped
  /-- Nothing below matched; the next choice above is tried. -/
  | missed

/-- The methods an `Allow` header names besides `OPTIONS`, in the order it names them. -/
def allowOrder : List String :=
  ["CONNECT", "DELETE", "GET", "HEAD", "PATCH", "POST", "PROPFIND", "PUT", "TRACE", "REPORT"]

/-- The `Allow` header of a node holding values for some methods: `OPTIONS`, then the
methods of `allowOrder` it holds in that order, then any others. -/
def allowText (methods : List String) : String :=
  ", ".intercalate ("OPTIONS" :: allowOrder.filter methods.contains ++
    methods.filter fun m => !allowOrder.contains m && m != "OPTIONS")

namespace RouteNode

variable {α : Type}

/-- Searches below a node for a method and the path left to match, within `fuel` steps;
also gives the first node reached with the path used up that holds some value. -/
def search (method : String) : Nat → RouteNode α → Octets → Option (RouteNode α) →
    Search α × Option (RouteNode α)
  | 0, _, _, best => (.missed, best)
  | fuel + 1, n, path, best =>
    let here? : Option Octets :=
      if n.kind = .static then
        if path.take n.label.length = n.label then some (path.drop n.label.length) else none
      else some path
    match here? with
    | none => (.missed, best)
    | some rest =>
      let (hit, best) :=
        if rest.isEmpty && n.isHandler then (n.method? method, best <|> some n) else (none, best)
      match hit with
      | some v => (.found v, best)
      | none =>
        let (r, best) := match rest with
          | c :: _ =>
            match n.statics.find? (startsWithByte c) with
            | some child => search method fuel child rest best
            | none => (.missed, best)
          | [] => (.missed, best)
        match r with
        | .missed =>
          let (r, best) := match n.param, rest with
            | some p, _ :: _ =>
              let taken := if p.isLeaf then rest.length else (rest.takeWhile (· ≠ '/')).length
              search method fuel p (rest.drop taken) best
            | _, _ => (.missed, best)
          match r with
          | .missed =>
            match n.any with
            | some a =>
              match a.method? method with
              | some v => (.found v, best)
              | none => (.stopped, best <|> some a)
            | none => (.missed, best)
          | r => (r, best)
        | r => (r, best)

end RouteNode

/-- What a router finds for a request. -/
inductive Routed (α : Type) where
  /-- The value registered for the method and a matching pattern. -/
  | handler (value : α)
  /-- A pattern matches but holds no value for the method; the `Allow` header. -/
  | notAllowed (allow : String)
  /-- No pattern matches. -/
  | notFound

/-- A router: the root of its tree. -/
structure Router (α : Type) where
  /-- The root node. -/
  root : RouteNode α := {}

namespace Router

variable {α : Type}

/-- Registers a value for a method and a pattern. -/
def add (r : Router α) (method pattern : String) (v : α) : Router α :=
  let steps := patternSteps [] (normalizePattern pattern)
  { root := steps.foldl (fun root (kind, path, withValue) =>
      root.insert kind (if withValue then some (method, v) else none) (path.length + 1) path) r.root }

/-- Finds what answers a method on a path, given as bytes. -/
def find (r : Router α) (method : String) (path : Octets) : Routed α :=
  match r.root.search method (2 * path.length + 3) path none with
  | (.found v, _) => .handler v
  | (_, some b) => if b.isHandler then .notAllowed (allowText (b.methods.map (·.1))) else .notFound
  | (_, none) => .notFound

end Router

end TopicBridge.Http
