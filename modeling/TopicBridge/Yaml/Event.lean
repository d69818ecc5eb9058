import TopicBridge.Yaml.Scanner
/-!
# YAML events

The parser reads tokens and produces **events**: the start and end of the stream, of
documents, of sequences and mappings, scalars and aliases. It is a pushdown machine: the
current **state** says what may come next, a stack of states says where to return when a
node is done, and a stack of marks remembers where each open collection started, for the
messages of problems found inside it.

A missing node – a key without a value, an entry `-` with nothing after it – is an
empty plain scalar. Problems name what was expected:

| where | problem |
|---|---|
| a node | `did not find expected node content` |
| a block sequence | `did not find expected '-' indicator` |
| a block mapping | `did not find expected key` |
| a flow sequence | `did not find expected ',' or ']'` |
| a flow mapping | `did not find expected ',' or '}'` |

* `TopicBridge.Yaml.Parser.nextEvent`.
-/

namespace TopicBridge.Yaml

/-- What the parser expects next. -/
inductive ParseState where
  | streamStart | implicitDocumentStart | documentStart | documentContent | documentEnd
  | blockNode | blockNodeOrIndentlessSequence | flowNode
  | blockSequenceFirstEntry | blockSequenceEntry | indentlessSequenceEntry
  | blockMappingFirstKey | blockMappingKey | blockMappingValue
  | flowSequenceFirstEntry | flowSequenceEntry
  | flowSequenceEntryMappingKey | flowSequenceEntryMappingValue | flowSequenceEntryMappingEnd
  | flowMappingFirstKey | flowMappingKey | flowMappingValue | flowMappingEmptyValue
  | finished
  deriving Repr, DecidableEq, Inhabited

/-- The kinds of event. -/
inductive EventKind where
  /-- The stream starts. -/
  | streamStart
  /-- The stream ends. -/
  | streamEnd
  /-- A document starts. -/
  | documentStart
  /-- A document ends. -/
  | documentEnd
  /-- A reference to an anchored node. -/
  | alias (name : String)
  /-- A scalar with its anchor, tag and text. -/
  | scalar (anchor tag value : String) (style : ScalarStyle)
  /-- A sequence starts. -/
  | sequenceStart (anchor tag : String) (flow : Bool)
  /-- A sequence ends. -/
  | sequenceEnd
  /-- A mapping starts. -/
  | mappingStart (anchor tag : String) (flow : Bool)
  /-- A mapping ends. -/
  | mappingEnd
  deriving Repr, Inhabited

/-- An event and the mark where it starts. -/
structure Event where
  /-- What happened. -/
  kind : EventKind
  /-- Where. -/
  start : Mark
  deriving Repr, Inhabited

/-- The parser's state. -/
structure Parser where
  /-- The scanner. -/
  scanner : Scanner
  /-- What is expected next. -/
  state : ParseState := .streamStart
  /-- Where to return after the current node, innermost first. -/
  states : List ParseState := []
  /-- Where each open collection started, innermost first. -/
  marks : List Mark := []
  /-- The tag handles in force and their prefixes. -/
  tagDirectives : List (String × String) := []
  deriving Inhabited

/-- A step of the parser. -/
abbrev ParseM := StateT Parser (Except Problem)

namespace Parser

/-- A parser at the start of a text. -/
def ofText (s : String) : Parser := { scanner := Scanner.ofText s }

/-- Runs a scanner step. -/
def scan (m : ScanM α) : ParseM α := fun p => do
  let (a, s) ← m.run p.scanner
  pure (a, { p with scanner := s })

/-- The next token. -/
def peek : ParseM Token := scan Scanner.peekToken

/-- Takes the next token. -/
def skip : ParseM Unit := scan Scanner.skipToken

/-- Fails with a parser problem. -/
def fail (contextMark : Mark) (problem : String) (problemMark : Mark) : ParseM α :=
  throw { finder := .parser, contextMark, problem, problemMark }

/-- Returns to the state on top of the stack. -/
def popState : ParseM Unit :=
  modify fun p => match p.states with
    | s :: ss => { p with state := s, states := ss }
    | [] => p

/-- Saves a state to return to. -/
def pushState (s : ParseState) : ParseM Unit := modify fun p => { p with states := s :: p.states }

/-- Sets the next state. -/
def goto (s : ParseState) : ParseM Unit := modify fun p => { p with state := s }

/-- Remembers where a collection started. -/
def pushMark (m : Mark) : ParseM Unit := modify fun p => { p with marks := m :: p.marks }

/-- Forgets where the innermost collection started, and tells where. -/
def popMark : ParseM Mark := do
  let p ← get
  set { p with marks := p.marks.drop 1 }
  return p.marks.headD {}

/-- An empty plain scalar at a mark. -/
def emptyScalar (m : Mark) : Event := ⟨.scalar "" "" "" .plain, m⟩

/-- The default tag handles. -/
def defaultTags : List (String × String) := [("!", "!"), ("!!", "tag:yaml.org,2002:")]

/-- Reads the directives before a document; the default handles are added. -/
def processDirectives (fuel : Nat) : ParseM Unit := do
  let rec go : Nat → List (String × String) → Bool → ParseM (List (String × String))
    | 0, acc, _ => pure acc
    | n + 1, acc, sawVersion => do
      let t ← peek
      match t.kind with
      | .versionDirective major minor =>
        if sawVersion then fail {} "found duplicate %YAML directive" t.start
        if major != 1 || minor != 1 then
          fail {} "found incompatible YAML document" t.start
        skip
        go n acc true
      | .tagDirective handle pfx =>
        if acc.any (·.1 == handle) then fail {} "found duplicate %TAG directive" t.start
        skip
        go n (acc ++ [(handle, pfx)]) sawVersion
      | _ => pure acc
  let tags ← go fuel [] false
  let tags := tags ++ defaultTags.filter fun d => !tags.any (·.1 == d.1)
  modify fun p => { p with tagDirectives := tags }

/-- The tag a node carries, from a handle and a suffix. -/
def resolveTag (handle suffix : String) (start tagMark : Mark) : ParseM String := do
  if handle.isEmpty then return suffix
  match (← get).tagDirectives.lookup handle with
  | some pfx => return pfx ++ suffix
  | none => fail start "found undefined tag handle" tagMark

/-- Reads a node: an alias, a scalar, or the start of a collection. -/
def parseNode (block indentlessSequence : Bool) : ParseM Event := do
  let t ← peek
  match t.kind with
  | .alias name =>
    popState
    skip
    return ⟨.alias name, t.start⟩
  | _ =>
  -- an anchor and a tag, in either order
  let (anchor, tagParts, t, start) ← do
    match t.kind with
    | .anchor a =>
      skip
      let t2 ← peek
      match t2.kind with
      | .tag h s => skip; pure (a, some (h, s, t2.start), ← peek, t.start)
      | _ => pure (a, none, t2, t.start)
    | .tag h s =>
      skip
      let t2 ← peek
      match t2.kind with
      | .anchor a => skip; pure (a, some (h, s, t.start), ← peek, t.start)
      | _ => pure ("", some (h, s, t.start), t2, t.start)
    | _ => pure ("", none, t, t.start)
  let tag ← match tagParts with
    | some (h, s, m) => resolveTag h s start m
    | none => pure ""
  match t.kind with
  | .blockEntry =>
    if indentlessSequence then
      goto .indentlessSequenceEntry
      return ⟨.sequenceStart anchor tag false, start⟩
    else pure ()
  | _ => pure ()
  match t.kind with
  | .scalar text style =>
    popState
    skip
    return ⟨.scalar anchor tag text style, start⟩
  | .flowSequenceStart =>
    goto .flowSequenceFirstEntry
    return ⟨.sequenceStart anchor tag true, start⟩
  | .flowMappingStart =>
    goto .flowMappingFirstKey
    return ⟨.mappingStart anchor tag true, start⟩
  | .blockSequenceStart =>
    if block then
      goto .blockSequenceFirstEntry
      return ⟨.sequenceStart anchor tag false, start⟩
  | .blockMappingStart =>
    if block then
      goto .blockMappingFirstKey
      return ⟨.mappingStart anchor tag false, start⟩
  | _ => pure ()
  if !anchor.isEmpty || !tag.isEmpty then
    popState
    return ⟨.scalar anchor tag "" .plain, start⟩
  fail start "did not find expected node content" t.start

/-- A document start, or the stream end. -/
def parseDocumentStart (implicit : Bool) : ParseM Event := do
  let mut t ← peek
  if !implicit then
    for _ in [0:(← get).scanner.rest.length + 4] do
      if t.kind.sameAs .documentEnd then
        skip
        t ← peek
  if implicit && !(t.kind.sameAs (.versionDirective 0 0) || t.kind.sameAs (.tagDirective "" "") ||
      t.kind.sameAs .documentStart || t.kind.sameAs .streamEnd) then
    processDirectives 64
    pushState .documentEnd
    goto .blockNode
    return ⟨.documentStart, t.start⟩
  else if !t.kind.sameAs .streamEnd then
    processDirectives 64
    let t2 ← peek
    if !t2.kind.sameAs .documentStart then
      fail {} "did not find expected <document start>" t2.start
    pushState .documentEnd
    goto .documentContent
    skip
    return ⟨.documentStart, t2.start⟩
  else
    goto .finished
    skip
    return ⟨.streamEnd, t.start⟩

/-- The content of an explicit document, possibly empty. -/
def parseDocumentContent : ParseM Event := do
  let t ← peek
  if t.kind.sameAs (.versionDirective 0 0) || t.kind.sameAs (.tagDirective "" "") ||
      t.kind.sameAs .documentStart || t.kind.sameAs .documentEnd || t.kind.sameAs .streamEnd then
    popState
    return emptyScalar t.start
  parseNode true false

/-- The end of a document, explicit or not. -/
def parseDocumentEnd : ParseM Event := do
  let t ← peek
  if t.kind.sameAs .documentEnd then skip
  modify fun p => { p with tagDirectives := [] }
  goto .documentStart
  return ⟨.documentEnd, t.start⟩

/-- An entry of a block sequence, or its end. -/
def parseBlockSequenceEntry (first : Bool) : ParseM Event := do
  if first then
    pushMark (← peek).start
    skip
  let t ← peek
  if t.kind.sameAs .blockEntry then
    let m := t.stop
    skip
    let t ← peek
    if !t.kind.sameAs .blockEntry && !t.kind.sameAs .blockEnd then
      pushState .blockSequenceEntry
      parseNode true false
    else
      goto .blockSequenceEntry
      return emptyScalar m
  else if t.kind.sameAs .blockEnd then
    popState
    let _ ← popMark
    skip
    return ⟨.sequenceEnd, t.start⟩
  else
    let m ← popMark
    fail m "did not find expected '-' indicator" t.start

/-- An entry of a sequence written at the indentation of its mapping key, or its end. -/
def parseIndentlessSequenceEntry : ParseM Event := do
  let t ← peek
  if t.kind.sameAs .blockEntry then
    let m := t.stop
    skip
    let t ← peek
    if !t.kind.sameAs .blockEntry && !t.kind.sameAs .key && !t.kind.sameAs .value &&
        !t.kind.sameAs .blockEnd then
      pushState .indentlessSequenceEntry
      parseNode true false
    else
      goto .indentlessSequenceEntry
      return emptyScalar m
  else
    popState
    return ⟨.sequenceEnd, t.start⟩

/-- A key of a block mapping, or its end. -/
def parseBlockMappingKey (first : Bool) : ParseM Event := do
  if first then
    pushMark (← peek).start
    skip
  let t ← peek
  if t.kind.sameAs .key then
    let m := t.stop
    skip
    let t ← peek
    if !t.kind.sameAs .key && !t.kind.sameAs .value && !t.kind.sameAs .blockEnd then
      pushState .blockMappingValue
      parseNode true true
    else
      goto .blockMappingValue
      return emptyScalar m
  else if t.kind.sameAs .blockEnd then
    popState
    let _ ← popMark
    skip
    return ⟨.mappingEnd, t.start⟩
  else
    let m ← popMark
    fail m "did not find expected key" t.start

/-- A value of a block mapping. -/
def parseBlockMappingValue : ParseM Event := do
  let t ← peek
  if t.kind.sameAs .value then
    let m := t.stop
    skip
    let t ← peek
    if !t.kind.sameAs .key && !t.kind.sameAs .value && !t.kind.sameAs .blockEnd then
      pushState .blockMappingKey
      parseNode true true
    else
      goto .blockMappingKey
      return emptyScalar m
  else
    goto .blockMappingKey
    return emptyScalar t.start

/-- An entry of a flow sequence, or its end. -/
def parseFlowSequenceEntry (first : Bool) : ParseM Event := do
  if first then
    pushMark (← peek).start
    skip
  let mut t ← peek
  if !t.kind.sameAs .flowSequenceEnd then
    if !first then
      if t.kind.sameAs .flowEntry then
        skip
        t ← peek
      else
        let m ← popMark
        fail m "did not find expected ',' or ']'" t.start
    if t.kind.sameAs .key then
      goto .flowSequenceEntryMappingKey
      skip
      return ⟨.mappingStart "" "" true, t.start⟩
    else if !t.kind.sameAs .flowSequenceEnd then
      pushState .flowSequenceEntry
      return ← parseNode false false
  popState
  let _ ← popMark
  skip
  return ⟨.sequenceEnd, t.start⟩

/-- The key of a one-pair mapping inside a flow sequence. -/
def parseFlowSequenceEntryMappingKey : ParseM Event := do
  let t ← peek
  if !t.kind.sameAs .value && !t.kind.sameAs .flowEntry && !t.kind.sameAs .flowSequenceEnd then
    pushState .flowSequenceEntryMappingValue
    parseNode false false
  else
    let m := t.stop
    skip
    goto .flowSequenceEntryMappingValue
    return emptyScalar m

/-- The value of a one-pair mapping inside a flow sequence. -/
def parseFlowSequenceEntryMappingValue : ParseM Event := do
  let t ← peek
  if t.kind.sameAs .value then
    skip
    let t2 ← peek
    if !t2.kind.sameAs .flowEntry && !t2.kind.sameAs .flowSequenceEnd then
      pushState .flowSequenceEntryMappingEnd
      return ← parseNode false false
  let t ← peek
  goto .flowSequenceEntryMappingEnd
  return emptyScalar t.start

/-- The end of a one-pair mapping inside a flow sequence. -/
def parseFlowSequenceEntryMappingEnd : ParseM Event := do
  let t ← peek
  goto .flowSequenceEntry
  return ⟨.mappingEnd, t.start⟩

/-- A key of a flow mapping, or its end. -/
def parseFlowMappingKey (first : Bool) : ParseM Event := do
  if first then
    pushMark (← peek).start
    skip
  let mut t ← peek
  if !t.kind.sameAs .flowMappingEnd then
    if !first then
      if t.kind.sameAs .flowEntry then
        skip
        t ← peek
      else
        let m ← popMark
        fail m "did not find expected ',' or '\x7d'" t.start
    if t.kind.sameAs .key then
      skip
      let t2 ← peek
      if !t2.kind.sameAs .value && !t2.kind.sameAs .flowEntry && !t2.kind.sameAs .flowMappingEnd then
        pushState .flowMappingValue
        return ← parseNode false false
      else
        goto .flowMappingValue
        return emptyScalar t2.start
    else if !t.kind.sameAs .flowMappingEnd then
      pushState .flowMappingEmptyValue
      return ← parseNode false false
  popState
  let _ ← popMark
  skip
  return ⟨.mappingEnd, t.start⟩

/-- A value of a flow mapping. -/
def parseFlowMappingValue (empty : Bool) : ParseM Event := do
  let t ← peek
  if empty then
    goto .flowMappingKey
    return emptyScalar t.start
  if t.kind.sameAs .value then
    skip
    let t2 ← peek
    if !t2.kind.sameAs .flowEntry && !t2.kind.sameAs .flowMappingEnd then
      pushState .flowMappingKey
      return ← parseNode false false
  let t ← peek
  goto .flowMappingKey
  return emptyScalar t.start

/-- The stream start. -/
def parseStreamStart : ParseM Event := do
  let t ← peek
  if !t.kind.sameAs .streamStart then fail {} "did not find expected <stream-start>" t.start
  goto .implicitDocumentStart
  skip
  return ⟨.streamStart, t.start⟩

/-- The next event. -/
def nextEvent : ParseM Event := do
  match (← get).state with
  | .streamStart => parseStreamStart
  | .implicitDocumentStart => parseDocumentStart true
  | .documentStart => parseDocumentStart false
  | .documentContent => parseDocumentContent
  | .documentEnd => parseDocumentEnd
  | .blockNode => parseNode true false
  | .blockNodeOrIndentlessSequence => parseNode true true
  | .flowNode => parseNode false false
  | .blockSequenceFirstEntry => parseBlockSequenceEntry true
  | .blockSequenceEntry => parseBlockSequenceEntry false
  | .indentlessSequenceEntry => parseIndentlessSequenceEntry
  | .blockMappingFirstKey => parseBlockMappingKey true
  | .blockMappingKey => parseBlockMappingKey false
  | .blockMappingValue => parseBlockMappingValue
  | .flowSequenceFirstEntry => parseFlowSequenceEntry true
  | .flowSequenceEntry => parseFlowSequenceEntry false
  | .flowSequenceEntryMappingKey => parseFlowSequenceEntryMappingKey
  | .flowSequenceEntryMappingValue => parseFlowSequenceEntryMappingValue
  | .flowSequenceEntryMappingEnd => parseFlowSequenceEntryMappingEnd
  | .flowMappingFirstKey => parseFlowMappingKey true
  | .flowMappingKey => parseFlowMappingKey false
  | .flowMappingValue => parseFlowMappingValue false
  | .flowMappingEmptyValue => parseFlowMappingValue true
  | .finished => return ⟨.streamEnd, (← get).scanner.mark⟩

end Parser

end TopicBridge.Yaml
