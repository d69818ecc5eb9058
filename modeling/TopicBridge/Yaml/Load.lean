import TopicBridge.Yaml.Node
import TopicBridge.Text.Utf8
import TopicBridge.Text.Base64
/-!
# Loading a YAML document as a map

A document is loaded as a map from texts to values. Each node is read as follows.
* A scalar is resolved (`TopicBridge.Yaml.resolve`). Its text stands as it is when its
  tag is `!!str`, and a `!!binary` scalar is its decoded bytes.
* A sequence becomes a list.
* A mapping becomes a map. Keys that are all texts stay as written. Otherwise each key
  becomes the plain text of its value (`1.0` becomes `1`, a missing key the empty text).
  A key that is a list or a map cannot be read.
* The merge key `<<` takes the pairs of another mapping, or of a sequence of mappings.
  Pairs written in the mapping win over merged ones, and earlier merged mappings win
  over later ones.
* An alias stands for its anchored node. An alias inside the node it names cannot be
  read.

Values that do not fit are collected as **type errors**, each naming its line, and
reading goes on. Such values are: the same key twice in one mapping, a document that is
not a mapping, and a key that is a collection in the top mapping.

* `TopicBridge.Yaml.loadMap`.
-/

namespace TopicBridge.Yaml

/-- What reading nodes carries: the anchored nodes, the type errors met, the aliases
being expanded, and the keys already taken by a merge. -/
structure LoadState where
  /-- The anchored nodes, by number. -/
  anchored : List (Nat × Node) := []
  /-- The type errors, in order. -/
  errors : List String := []
  /-- The aliases being expanded. -/
  expanding : List Nat := []
  /-- The keys taken while merging, if a merge is under way. -/
  merged : Option (List Value) := none

/-- A step of the loader. -/
abbrev LoadM := StateT LoadState (Except ReadError)

/-- How a map reads its keys: as texts written, or as values. -/
inductive KeyMode where
  /-- Keys are the texts as written. -/
  | text
  /-- Keys are resolved values. -/
  | value
  deriving DecidableEq

/-- Records a type error. -/
def typeError (e : String) : LoadM Unit := modify fun s => { s with errors := s.errors ++ [e] }

/-- The text of a value shown in a type error: at most ten bytes, or seven and `...`. -/
def shownText (text : String) : String :=
  let bytes := text.toUTF8.toList
  if bytes.length > 10 then Text.ofBytes ⟨(bytes.take 7).toArray⟩ ++ "..." else text

/-- The type error of a node that cannot be read into a target type. Collections show
their tag alone, other nodes their text as well. -/
def cannotRead (n : Node) (target : String) : LoadM Unit :=
  let tag := match n with
    | .scalar tag .. | .sequence tag .. | .mapping tag .. => tag
    | .alias .. => ""
  let shown := if tag == seqTag || tag == mapTag then "" else " `" ++ shownText n.text ++ "`"
  typeError ("line " ++ toString n.line ++ ": cannot unmarshal " ++ tag ++ shown ++ " into " ++ target)

/-- The node an alias stands for. -/
def aliasTarget (target : Nat) : LoadM Node := do
  match (← get).anchored.lookup target with
  | some n => return n
  | none => throw (.fatal "unknown anchor referenced")

/-- The tag a node is classified by. -/
def shortTagOf (anchored : List (Nat × Node)) : Nat → Node → String
  | _, .scalar tag _ _ _ _ => tag
  | _, .sequence .. => seqTag
  | _, .mapping .. => mapTag
  | 0, .alias .. => ""
  | fuel + 1, .alias _ t _ _ => match anchored.lookup t with
    | some n => shortTagOf anchored fuel n
    | none => ""

/-- Whether a node is a plain merge key `<<`. -/
def isMergeKey : Node → Bool
  | .scalar tag text _ _ _ => text == "<<" && (tag == "" || tag == "!" || tag == mergeTag)
  | _ => false

/-- The resolved value of a scalar: a text with tag `!!str`, the decoded bytes of a
`!!binary` scalar. -/
def scalarValue (tag text : String) : LoadM Value := do
  if tag == strTag then return .str text
  match resolve tag text with
  | .error m => throw (.fatal m)
  | .ok (rtag, v) =>
    if rtag == binaryTag then
      match Text.Base64.decode? (String.ofList (text.toList.filter fun c => c != '\r' && c != '\n')) with
      | some b => return .str (Text.ofBytes b)
      | none => throw (.fatal "!!binary value contains invalid base64 data")
    else return v

/-- Duplicate keys of a mapping, as type errors; tells whether there were any. -/
def checkDuplicates (pairs : List (Node × Node)) : LoadM Bool := do
  let keys := pairs.map (·.1)
  let dups := (keys.zipIdx.flatMap fun (ki, i) =>
    (keys.drop (i + 1)).filterMap fun kj =>
      if ki.kindIndex == kj.kindIndex && ki.text == kj.text then
        some ("line " ++ toString kj.line ++ ": mapping key " ++ Text.quote kj.text ++
          " already defined at line " ++ toString ki.line)
      else none)
  -- the errors come in the order of the later key for each earlier one
  for d in dups do typeError d
  return !dups.isEmpty

/-- Whether two keys are the same for a merge: equal values of one type; a NaN equals
nothing, and the two zeros are equal. -/
def sameKey (a b : Value) : Bool :=
  match a, b with
  | .str x, .str y => x == y
  | .int x, .int y => x == y
  | .uint x, .uint y => x == y
  | .bool x, .bool y => x == y
  | .null, .null => true
  | .time x, .time y => x == y
  | .float x, .float y => (x.isZero && y.isZero) || (x == y && x != .nan)
  | _, _ => false

mutual

/-- Reads a node as any value; none when it cannot be read. -/
def readAny : Nat → Node → LoadM (Option Value)
  | 0, _ => return none
  | fuel + 1, n =>
    match n with
    | .scalar tag text _ _ _ => return some (← scalarValue tag text)
    | .sequence _ items _ _ => return some (.list (← readItems fuel items))
    | .mapping _ pairs _ _ => do
      if ← checkDuplicates pairs then return none
      let anchored := (← get).anchored
      let textKeys := pairs.all fun (k, _) =>
        let t := shortTagOf anchored 64 k
        t == strTag || t == mergeTag
      return some (.map (← fillMap fuel (if textKeys then .text else .value) pairs []))
    | .alias name target _ self => do
      if (← get).expanding.contains self then
        throw (.fatal ("anchor \x27" ++ name ++ "\x27 value contains itself"))
      modify fun s => { s with expanding := self :: s.expanding }
      let r ← readAny fuel (← aliasTarget target)
      modify fun s => { s with expanding := s.expanding.erase self }
      return r

/-- Reads the items of a sequence; items that cannot be read are left out. -/
def readItems : Nat → List Node → LoadM (List Value)
  | 0, _ => return []
  | _, [] => return []
  | fuel + 1, n :: ns => do
    let v ← readAny fuel n
    let rest ← readItems fuel ns
    return match v with
      | some v => v :: rest
      | none => rest

/-- Reads a key as a text: the text as written for scalars (the bytes of `!!binary`);
none for nothing. -/
def readKeyText : Nat → Node → LoadM (Option String)
  | 0, _ => return none
  | fuel + 1, n =>
    match n with
    | .scalar tag text _ _ _ => do
      let v ← scalarValue tag text
      return if v.isNull then none else if tag == binaryTag then some v.plainText else some text
    | .alias _ target _ _ => do readKeyText fuel (← aliasTarget target)
    | .sequence _ _ _ _ => do cannotRead n "string"; return none
    | .mapping _ pairs _ _ => do
      if ← checkDuplicates pairs then return none
      cannotRead n "string"; return none

/-- Fills map entries from the pairs of a mapping, then applies its merge key. While the
pairs are read, the values inside them see no merge under way; the keys are checked
against the keys a merge has taken. -/
def fillMap : Nat → KeyMode → List (Node × Node) → List (String × Value) →
    LoadM (List (String × Value))
  | 0, _, _, acc => return acc
  | fuel + 1, mode, pairs, acc => do
    let outer := (← get).merged
    modify fun s => { s with merged := none }
    let (acc, mergeNode, taken) ← fillPairs fuel mode pairs acc none outer
    modify fun s => { s with merged := taken }
    match mergeNode with
    | none => return acc
    | some m => mergeInto fuel mode pairs m acc

/-- Fills map entries from pairs; returns the value of the merge key and the keys taken. -/
def fillPairs : Nat → KeyMode → List (Node × Node) → List (String × Value) → Option Node →
    Option (List Value) → LoadM (List (String × Value) × Option Node × Option (List Value))
  | 0, _, _, acc, m, taken => return (acc, m, taken)
  | _, _, [], acc, m, taken => return (acc, m, taken)
  | fuel + 1, mode, (k, v) :: rest, acc, m, taken => do
    if isMergeKey k then fillPairs fuel mode rest acc (some v) taken
    else
      -- the key, as a text and as the value a merge compares
      let key? : Option (String × Value) ← match mode with
        | .text => do
          let t ← readKeyText fuel k
          pure (t.map fun t => (t, Value.str t))
        | .value => do
          let kv? ← readAny fuel k
          pure (kv?.map fun kv => (kv.plainText, kv))
      match key? with
      | none => fillPairs fuel mode rest acc m taken
      | some (keyText, keyValue) =>
        let (skip, taken) ← match taken with
          | some ks => do
            match keyValue with
            | .list _ | .map _ =>
              throw (.fatal ("runtime error: hash of unhashable type " ++ keyValue.typeName))
            | _ => pure ()
            if ks.any (sameKey keyValue) then pure (true, some ks)
            else pure (false, some (ks ++ [keyValue]))
          | none => pure (false, none)
        if skip then fillPairs fuel mode rest acc m taken
        else
          match keyValue with
          | .list _ | .map _ => throw (.fatal ("invalid map key: " ++ keyValue.sourceText))
          | _ => pure ()
          let acc := match ← readAny fuel v with
            | some x => Value.setEntry acc keyText x
            | none => acc
          fillPairs fuel mode rest acc m taken

/-- Applies a merge key: the pairs of the merged mappings fill keys not taken yet. The
first merge of a map takes the keys written in it. -/
def mergeInto : Nat → KeyMode → List (Node × Node) → Node → List (String × Value) →
    LoadM (List (String × Value))
  | 0, _, _, _, acc => return acc
  | fuel + 1, mode, parentPairs, m, acc => do
    let saved := (← get).merged
    if saved.isNone then
      modify fun s => { s with merged := some [] }
      for (k, _) in parentPairs do
        match ← readAny fuel k with
        | some kv =>
          match kv with
          | .list _ | .map _ =>
            throw (.fatal ("runtime error: hash of unhashable type " ++ kv.typeName))
          | _ => modify fun s => { s with merged := some ((s.merged.getD []) ++ [kv]) }
        | none => pure ()
    let wantMap : ReadError := .fatal "map merge requires map or sequence of maps as the value"
    let anchored := (← get).anchored
    let targetOf (n : Node) : Node := match n with
      | .alias _ t _ _ => (anchored.lookup t).getD n
      | _ => n
    let acc ← match m with
      | .mapping .. => mergeOne fuel mode m acc
      | .alias .. =>
        match targetOf m with
        | .mapping .. => mergeOne fuel mode m acc
        | _ => throw wantMap
      | .sequence _ items _ _ => do
        let mut acc := acc
        for it in items do
          match targetOf it with
          | .mapping .. => acc ← mergeOne fuel mode it acc
          | _ => throw wantMap
        pure acc
      | _ => throw wantMap
    modify fun s => { s with merged := saved }
    return acc

/-- Merges one mapping (or an alias of one) into map entries. -/
def mergeOne : Nat → KeyMode → Node → List (String × Value) → LoadM (List (String × Value))
  | 0, _, _, acc => return acc
  | fuel + 1, mode, n, acc =>
    match n with
    | .mapping _ pairs _ _ => do
      if ← checkDuplicates pairs then return acc
      fillMap fuel mode pairs acc
    | .alias name target _ self => do
      if (← get).expanding.contains self then
        throw (.fatal ("anchor \x27" ++ name ++ "\x27 value contains itself"))
      modify fun s => { s with expanding := self :: s.expanding }
      let r ← mergeOne fuel mode (← aliasTarget target) acc
      modify fun s => { s with expanding := s.expanding.erase self }
      return r
    | _ => return acc

end

/-- Lowercases the keys of a map and of the maps inside it; of two keys that become
equal, the later one stays. -/
def lowerKeys (lower : String → String) : Value → Value
  | .map entries => .map (lowerEntries entries [])
  | .list items => .list (lowerItems items)
  | v => v
where
  /-- The entries with lowercased keys. -/
  lowerEntries : List (String × Value) → List (String × Value) → List (String × Value)
    | [], acc => acc
    | (k, v) :: es, acc => lowerEntries es (Value.setEntry acc (lower k) (lowerKeys lower v))
  /-- The items with lowercased keys inside. -/
  lowerItems : List Value → List Value
    | [] => []
    | v :: vs => lowerKeys lower v :: lowerItems vs

/-- Whether the text holds only characters that may stand in a document; the first one
that may not is a problem. -/
def checkCharacters (text : String) : Except ReadError Unit :=
  if text.toList.all isAllowedChar then .ok ()
  else .error (.problem { finder := .reader, problem := "control characters are not allowed" })

/-- Loads the first document of a text as a map. A text without documents, or whose
document is nothing, is the empty map. -/
def loadMap (text : String) : Except ReadError (List (String × Value)) := do
  checkCharacters text
  let root ← compose text
  match root with
  | none => return []
  | some root =>
    let fuel := 4 * text.length + 16
    let st : LoadState := { anchored := root.anchored }
    let run : LoadM (List (String × Value)) := do
      match root with
      | .mapping _ pairs _ _ =>
        if ← checkDuplicates pairs then return []
        fillMap fuel .text pairs []
      | .scalar tag text _ _ _ =>
        let v ← scalarValue tag text
        if v.isNull then return []
        cannotRead root "map[string]interface \x7b\x7d"
        return []
      | .sequence .. =>
        cannotRead root "map[string]interface \x7b\x7d"
        return []
      | .alias .. => return []
    let (m, st) ← run.run st
    if st.errors.isEmpty then return m else throw (.types st.errors)

end TopicBridge.Yaml
