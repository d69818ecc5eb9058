import TopicBridge.Yaml.Token
/-!
# The YAML scanner

The scanner turns characters into tokens, one **fetch** at a time. Block structure
is made explicit as it goes:
* An **indentation stack** is kept. A block collection opens when content starts right
  of the current indentation (`blockSequenceStart`, `blockMappingStart`), and closes
  (`blockEnd`) when a line starts left of it.
* A **simple key** is a scalar or flow collection that may turn out to be a key. Its
  position is remembered, one per flow level. When a `:` follows on the same line and
  within 1024 characters, a `key` token is inserted before it, together with a
  `blockMappingStart` when a mapping opens there. A key at the indentation of a block
  mapping is *required*: losing it is the error `could not find expected ':'`.
* Tabs may separate tokens inside flow collections, and after other content on a line,
  but they never indent. A tab at the start of a line, or right after `-`, `?` or `:`,
  cannot start a token.

Comments are skipped. A comment also takes with it the comment lines that follow it,
with their leading blanks.

The parser asks for tokens through `TopicBridge.Yaml.Scanner.peekToken` and
`TopicBridge.Yaml.Scanner.skipToken`. Before handing out a token, the scanner reads until
three tokens are waiting, or until no pending key could still claim the first one.
Problems are therefore found in the same order as the parser meets them.

All loops run on fuel taken from the length of the input.
-/

namespace TopicBridge.Yaml

/-- A place where a simple key may start. -/
structure SimpleKey where
  /-- Whether the place may still be a key. -/
  possible : Bool := false
  /-- Whether it must be a key. -/
  required : Bool := false
  /-- The number of the token that would follow the key token. -/
  tokenNumber : Nat := 0
  /-- Where it starts. -/
  mark : Mark := {}
  deriving Repr, Inhabited

/-- The scanner's state. -/
structure Scanner where
  /-- The characters not read yet. -/
  rest : List Char
  /-- The position of the next character. -/
  mark : Mark := {}
  /-- Whether the stream start was handed out. -/
  started : Bool := false
  /-- The depth of flow collections. -/
  flowLevel : Nat := 0
  /-- The current indentation; `-1` before any block. -/
  indent : Int := -1
  /-- The enclosing indentations, innermost first. -/
  indents : List Int := []
  /-- Whether a simple key may start here. -/
  simpleKeyAllowed : Bool := false
  /-- The possible simple key of each flow level, innermost first. -/
  simpleKeys : List SimpleKey := []
  /-- The tokens fetched and not yet taken. -/
  queue : List Token := []
  /-- The number of tokens taken. -/
  taken : Nat := 0
  /-- Whether the first waiting token may be handed out without fetching. -/
  available : Bool := false
  deriving Inhabited

/-- A step of the scanner. -/
abbrev ScanM := StateT Scanner (Except Problem)

namespace Scanner

/-- A scanner at the start of a text. -/
def ofText (s : String) : Scanner := { rest := s.toList }

/-- The character `i` places ahead. -/
def peek (s : Scanner) (i : Nat) : Option Char := s.rest[i]?

/-- Moves past one character on the same line. -/
def advance (s : Scanner) : Scanner :=
  match s.rest with
  | [] => s
  | _ :: r => { s with rest := r, mark := { s.mark with index := s.mark.index + 1, column := s.mark.column + 1 } }

/-- Moves past a line break (a carriage return and line feed count as one). -/
def advanceLine (s : Scanner) : Scanner :=
  match s.rest with
  | '\r' :: '\n' :: r => { s with rest := r, mark := ⟨s.mark.index + 2, s.mark.line + 1, 0⟩ }
  | c :: r =>
    if isBreakChar c then { s with rest := r, mark := ⟨s.mark.index + 1, s.mark.line + 1, 0⟩ } else s
  | [] => s

/-- Reads a line break: the text it stands for (`\n`, or a line or paragraph separator
as it is) and the scanner after it. -/
def breakText (s : Scanner) : String :=
  match s.rest with
  | c :: _ => if c == '\u2028' || c == '\u2029' then c.toString else if isBreakChar c then "\n" else ""
  | [] => ""

end Scanner

/-! ### Basic steps -/

/-- The character `i` places ahead. -/
def at? (i : Nat) : ScanM (Option Char) := return (← get).peek i

/-- Moves past one character. -/
def skip : ScanM Unit := modify Scanner.advance

/-- Moves past a line break. -/
def skipLine : ScanM Unit := modify Scanner.advanceLine

/-- Reads the next character into a text. -/
def readChar (acc : String) : ScanM String := do
  match ← at? 0 with
  | some c => skip; return acc.push c
  | none => return acc

/-- Reads a line break into a text, normalised. -/
def readBreak (acc : String) : ScanM String := do
  let s ← get
  let t := s.breakText
  set s.advanceLine
  return acc ++ t

/-- The current mark. -/
def here : ScanM Mark := return (← get).mark

/-- Fails with a scanner problem at the current mark. -/
def scanFail (contextMark : Mark) (problem : String) : ScanM α := do
  throw { finder := .scanner, contextMark, problem, problemMark := (← here) }

/-- Moves past characters while a test holds, at most `fuel` of them. -/
def skipWhile (p : Option Char → Bool) : Nat → ScanM Unit
  | 0 => pure ()
  | n + 1 => do if p (← at? 0) then skip; skipWhile p n

/-- Reads characters into a text while a test holds, at most `fuel` of them. -/
def readWhile (p : Option Char → Bool) (acc : String) : Nat → ScanM String
  | 0 => pure acc
  | n + 1 => do if p (← at? 0) then readWhile p (← readChar acc) n else pure acc

/-- A fuel bound for loops over the rest of the input. -/
def restFuel : ScanM Nat := return (← get).rest.length + 2

/-! ### The token queue -/

/-- Appends a token. -/
def appendToken (t : Token) : ScanM Unit := modify fun s => { s with queue := s.queue ++ [t] }

/-- Inserts a token `pos` places after the first waiting one. -/
def insertToken (pos : Nat) (t : Token) : ScanM Unit :=
  modify fun s => { s with queue := s.queue.take pos ++ t :: s.queue.drop pos }

/-- A token without content at a mark. -/
def markToken (kind : TokenKind) (m : Mark) : Token := ⟨kind, m, m⟩

/-- Consumes `n` characters as a token of a kind. -/
def consumeToken (kind : TokenKind) (n : Nat) : ScanM Unit := do
  let start ← here
  for _ in [0:n] do skip
  appendToken ⟨kind, start, ← here⟩

/-! ### Simple keys and indentation -/

/-- Replaces the simple key of the current flow level. -/
def setKey (k : SimpleKey) : ScanM Unit :=
  modify fun s => { s with simpleKeys := match s.simpleKeys with | _ :: ks => k :: ks | [] => [k] }

/-- The simple key of the current flow level. -/
def currentKey : ScanM SimpleKey := return (← get).simpleKeys.headD {}

/-- Drops the possible simple key of the current flow level; a required one is an error. -/
def removeSimpleKey : ScanM Unit := do
  let k ← currentKey
  if k.possible then
    if k.required then scanFail k.mark "could not find expected ':'"
    setKey { k with possible := false }

/-- Remembers that a simple key may start here. -/
def saveSimpleKey : ScanM Unit := do
  let s ← get
  if s.simpleKeyAllowed then
    let required := s.flowLevel == 0 && s.indent == (s.mark.column : Int)
    let k : SimpleKey := { possible := true, required, tokenNumber := s.taken + s.queue.length, mark := s.mark }
    removeSimpleKey
    setKey k

/-- Whether a possible key is still valid here: on its line and within 1024 characters.
A key that no longer is valid is dropped; a required one is an error. -/
def keyStillValid (k : SimpleKey) : ScanM (Bool × SimpleKey) := do
  if !k.possible then return (false, k)
  let m ← here
  if k.mark.line < m.line || k.mark.index + 1024 < m.index then
    if k.required then scanFail k.mark "could not find expected ':'"
    return (false, { k with possible := false })
  return (true, k)

/-- The greatest depth of flow collections. -/
def maxFlowLevel : Nat := 10000

/-- The greatest depth of block collections. -/
def maxIndents : Nat := 10000

/-- Enters a flow collection. -/
def increaseFlowLevel : ScanM Unit := do
  modify fun s => { s with simpleKeys := {} :: s.simpleKeys, flowLevel := s.flowLevel + 1 }
  if (← get).flowLevel > maxFlowLevel then
    scanFail {} ("exceeded max depth of " ++ toString maxFlowLevel)

/-- Leaves a flow collection. -/
def decreaseFlowLevel : ScanM Unit :=
  modify fun s =>
    if s.flowLevel > 0 then { s with flowLevel := s.flowLevel - 1, simpleKeys := s.simpleKeys.drop 1 } else s

/-- Opens a block collection at a column right of the current indentation, placing its
start token before token number `number`, or last. -/
def rollIndent (column : Int) (number : Option Nat) (kind : TokenKind) (m : Mark) : ScanM Unit := do
  let s ← get
  if s.flowLevel == 0 && s.indent < column then
    set { s with indents := s.indent :: s.indents, indent := column }
    if s.indents.length + 1 > maxIndents then
      scanFail (← currentKey).mark ("exceeded max depth of " ++ toString maxIndents)
    match number with
    | some n => insertToken (n - s.taken) (markToken kind m)
    | none => appendToken (markToken kind m)

/-- The block ends that close the indentations right of a column. -/
def closeIndents (column : Int) (m : Mark) : Int → List Int → List Token × Int × List Int
  | ind, i :: is =>
    if ind > column then
      let (ts, a, b) := closeIndents column m i is
      (markToken .blockEnd m :: ts, a, b)
    else ([], ind, i :: is)
  | ind, [] => ([], ind, [])

/-- Closes the block collections right of a column, with block ends at the character
before a mark. -/
def unrollIndent (column : Int) (m : Mark) : ScanM Unit := do
  let s ← get
  if s.flowLevel == 0 then
    let (ts, ind, inds) := closeIndents column { m with index := m.index - 1 } s.indent s.indents
    set { s with indent := ind, indents := inds, queue := s.queue ++ ts }

/-! ### Whitespace and comments -/

/-- Reads a comment up to its line break. -/
def skipCommentText : ScanM Unit := do skipWhile (fun c => !isBreakz c) (← restFuel)

/-- The number of blanks and breaks ahead, and the character after them. -/
def blanksAhead (s : Scanner) : Nat × Option Char :=
  let n := (s.rest.takeWhile fun c => isBlankChar c || isBreakChar c).length
  (n, s.peek n)

/-- After a comment: takes the comment lines that follow, with the blanks and breaks
before them. -/
def absorbComments : Nat → ScanM Unit
  | 0 => pure ()
  | fuel + 1 => do
    let s ← get
    let (n, next) := blanksAhead s
    if n > 0 && next == some '#' then
      for _ in [0:n] do
        if isBreak (← at? 0) then skipLine else skip
      skipCommentText
      absorbComments fuel

/-- After a token: takes a comment that follows on the same line. -/
def scanLineComment : ScanM Unit := do
  let s ← get
  let n := (s.rest.takeWhile isBlankChar).length
  if s.peek n == some '#' then
    for _ in [0:n] do skip
    skipCommentText

/-- Skips blanks, comments and line breaks up to the next token. -/
def scanToNextToken : Nat → ScanM Unit
  | 0 => pure ()
  | fuel + 1 => do
    let s ← get
    if s.mark.column == 0 && s.peek 0 == some '\uFEFF' then skip
    let n ← restFuel
    skipWhile (fun c => c == some ' ' ||
      (c == some '\t' && (s.flowLevel > 0 || !s.simpleKeyAllowed))) n
    if (← at? 0) == some '#' then
      skipCommentText
      absorbComments (← restFuel)
    if isBreak (← at? 0) then
      skipLine
      modify fun s => if s.flowLevel == 0 then { s with simpleKeyAllowed := true } else s
      scanToNextToken fuel

/-! ### Stream and document markers -/

/-- The first token. -/
def fetchStreamStart : ScanM Unit := do
  modify fun s => { s with indent := -1, simpleKeyAllowed := true, simpleKeys := [{}], started := true }
  let m ← here
  appendToken (markToken .streamStart m)

/-- The last token; the input is taken to end on a fresh line. -/
def fetchStreamEnd : ScanM Unit := do
  modify fun s =>
    if s.mark.column != 0 then { s with mark := { s.mark with column := 0, line := s.mark.line + 1 } } else s
  unrollIndent (-1) (← here)
  removeSimpleKey
  modify fun s => { s with simpleKeyAllowed := false }
  appendToken (markToken .streamEnd (← here))

/-- `---` or `...`. -/
def fetchDocumentIndicator (kind : TokenKind) : ScanM Unit := do
  unrollIndent (-1) (← here)
  removeSimpleKey
  modify fun s => { s with simpleKeyAllowed := false }
  consumeToken kind 3

/-- The fuel-free end of a directive line: blanks, a comment, a line break. -/
def finishDirectiveLine (start : Mark) : ScanM Unit := do
  skipWhile isBlank (← restFuel)
  if (← at? 0) == some '#' then skipCommentText
  if !isBreakz (← at? 0) then
    scanFail start "did not find expected comment or line break"
  if isBreak (← at? 0) then skipLine

/-- Reads the digits of a version number. -/
def versionNumber (start : Mark) : ScanM Nat := do
  let ds ← readWhile (fun c => c.any Char.isDigit) "" (← restFuel)
  if ds.length > 9 then scanFail start "found extremely long version number"
  if ds.isEmpty then scanFail start "did not find expected version number"
  return ds.toNat!

/-- Reads a tag handle: `!`, `!word!` or, outside a directive, `!word`. -/
def tagHandle (directive : Bool) (start : Mark) : ScanM String := do
  if (← at? 0) != some '!' then scanFail start "did not find expected '!'"
  let h ← readChar ""
  let h ← readWhile (fun c => c.any isWordChar) h (← restFuel)
  if (← at? 0) == some '!' then readChar h
  else
    if directive && h != "!" then scanFail start "did not find expected '!'"
    return h

/-- Whether a character may stand in a tag. -/
def isUriChar (verbatim : Bool) (c : Char) : Bool :=
  isWordChar c || ";/?:@&=+$.!~*'()".toList.contains c || (verbatim && ",[]".toList.contains c)

/-- Reads the rest of a tag after a head that was read as a handle. -/
def tagUri (verbatim : Bool) (head : String) (start : Mark) : ScanM String := do
  let kept := String.ofList (head.toList.drop 1)
  let s ← readWhile (fun c => c.any (isUriChar verbatim)) kept (← restFuel)
  if head.isEmpty && s.length == kept.length then scanFail start "did not find expected tag URI"
  return s

/-- A `%YAML` or `%TAG` directive. -/
def fetchDirective : ScanM Unit := do
  unrollIndent (-1) (← here)
  removeSimpleKey
  modify fun s => { s with simpleKeyAllowed := false }
  let start ← here
  skip
  let name ← readWhile (fun c => c.any isWordChar) "" (← restFuel)
  if name.isEmpty then scanFail start "could not find expected directive name"
  if !isBlankz (← at? 0) then scanFail start "found unexpected non-alphabetical character"
  if name == "YAML" then
    skipWhile isBlank (← restFuel)
    let major ← versionNumber start
    if (← at? 0) != some '.' then scanFail start "did not find expected digit or '.' character"
    skip
    let minor ← versionNumber start
    appendToken ⟨.versionDirective major minor, start, ← here⟩
  else if name == "TAG" then
    skipWhile isBlank (← restFuel)
    let handle ← tagHandle true start
    if !isBlank (← at? 0) then scanFail start "did not find expected whitespace"
    skipWhile isBlank (← restFuel)
    let pfx ← tagUri true "" start
    if !isBlankz (← at? 0) then scanFail start "did not find expected whitespace or line break"
    appendToken ⟨.tagDirective handle pfx, start, ← here⟩
  else scanFail start "found unknown directive name"
  finishDirectiveLine start

/-! ### Indicators -/

/-- `[` or `{`. -/
def fetchFlowCollectionStart (kind : TokenKind) : ScanM Unit := do
  saveSimpleKey
  increaseFlowLevel
  modify fun s => { s with simpleKeyAllowed := true }
  consumeToken kind 1

/-- `]` or `}`. -/
def fetchFlowCollectionEnd (kind : TokenKind) : ScanM Unit := do
  removeSimpleKey
  decreaseFlowLevel
  modify fun s => { s with simpleKeyAllowed := false }
  consumeToken kind 1

/-- `,`. -/
def fetchFlowEntry : ScanM Unit := do
  removeSimpleKey
  modify fun s => { s with simpleKeyAllowed := true }
  consumeToken .flowEntry 1

/-- `-` before a block sequence entry. -/
def fetchBlockEntry : ScanM Unit := do
  let s ← get
  if s.flowLevel == 0 then
    if !s.simpleKeyAllowed then scanFail s.mark "block sequence entries are not allowed in this context"
    rollIndent s.mark.column none .blockSequenceStart s.mark
  removeSimpleKey
  modify fun s => { s with simpleKeyAllowed := true }
  consumeToken .blockEntry 1

/-- `?` before a complex key. -/
def fetchKey : ScanM Unit := do
  let s ← get
  if s.flowLevel == 0 then
    if !s.simpleKeyAllowed then scanFail s.mark "mapping keys are not allowed in this context"
    rollIndent s.mark.column none .blockMappingStart s.mark
  removeSimpleKey
  modify fun s => { s with simpleKeyAllowed := s.flowLevel == 0 }
  consumeToken .key 1

/-- `:` before a value: a waiting simple key becomes a key. -/
def fetchValue : ScanM Unit := do
  let (valid, k) ← keyStillValid (← currentKey)
  setKey k
  if valid then
    let s ← get
    insertToken (k.tokenNumber - s.taken) (markToken .key k.mark)
    rollIndent k.mark.column (some k.tokenNumber) .blockMappingStart k.mark
    setKey { k with possible := false }
    modify fun s => { s with simpleKeyAllowed := false }
  else
    let s ← get
    if s.flowLevel == 0 then
      if !s.simpleKeyAllowed then scanFail s.mark "mapping values are not allowed in this context"
      rollIndent s.mark.column none .blockMappingStart s.mark
    modify fun s => { s with simpleKeyAllowed := s.flowLevel == 0 }
  consumeToken .value 1

/-- `*name` or `&name`. -/
def fetchAnchor (isAlias : Bool) : ScanM Unit := do
  saveSimpleKey
  modify fun s => { s with simpleKeyAllowed := false }
  let start ← here
  skip
  let name ← readWhile (fun c => c.any isWordChar) "" (← restFuel)
  let stop ← here
  let next ← at? 0
  let ends := isBlankz next || next.any fun c => "?:,]\x7d%@`".toList.contains c
  if name.isEmpty || !ends then
    scanFail start "did not find expected alphabetic or numeric character"
  appendToken ⟨if isAlias then .alias name else .anchor name, start, stop⟩

/-- A tag. -/
def fetchTag : ScanM Unit := do
  saveSimpleKey
  modify fun s => { s with simpleKeyAllowed := false }
  let start ← here
  let (handle, suffix) ← do
    if (← at? 1) == some '<' then
      skip; skip
      let suffix ← tagUri true "" start
      if (← at? 0) != some '>' then scanFail start "did not find the expected '>'"
      skip
      pure ("", suffix)
    else
      let h ← tagHandle false start
      let hs := h.toList
      if hs.length > 1 && hs.getLast? == some '!' then
        pure (h, ← tagUri false "" start)
      else
        let suffix ← tagUri false h start
        if suffix.isEmpty then pure ("", "!") else pure ("!", suffix)
  let next ← at? 0
  if !isBlankz next then
    if (← get).flowLevel == 0 || next != some ',' then
      scanFail start "did not find expected whitespace or line break"
  appendToken ⟨.tag handle suffix, start, ← here⟩

/-! ### Scalars -/

/-- Joins the breaks and blanks between two runs of a scalar: a single line break folds
to a space, further breaks stay, and blanks within a line stay as they are. -/
def joinGap (leadingBlanks : Bool) (leadingBreak trailingBreaks whitespaces : String) : String :=
  if leadingBlanks then
    if leadingBreak == "\n" then (if trailingBreaks.isEmpty then " " else trailingBreaks)
    else leadingBreak ++ trailingBreaks
  else whitespaces

/-- The state of a scalar being read: its text, and the gap seen since its last
character. -/
structure Gap where
  /-- Whether a line break was crossed. -/
  leadingBlanks : Bool := false
  /-- The first line break crossed. -/
  leadingBreak : String := ""
  /-- The further line breaks. -/
  trailingBreaks : String := ""
  /-- The blanks seen on the current line. -/
  whitespaces : String := ""

/-- Reads blanks and breaks into a gap. In a plain scalar (`plainIndent` given), a tab
that would indent a continuation line left of the scalar's indentation is an error. -/
def readGap (start : Mark) (plainIndent : Option Int) : Gap → Nat → ScanM Gap
  | g, 0 => pure g
  | g, fuel + 1 => do
    let c ← at? 0
    if isBlank c then
      if let some ind := plainIndent then
        if g.leadingBlanks && ((← here).column : Int) < ind && c == some '\t' then
          scanFail start "found a tab character that violates indentation"
      if !g.leadingBlanks then
        let w ← readChar g.whitespaces
        readGap start plainIndent { g with whitespaces := w } fuel
      else
        skip
        readGap start plainIndent g fuel
    else if isBreak c then
      if !g.leadingBlanks then
        let b ← readBreak ""
        readGap start plainIndent { g with whitespaces := "", leadingBreak := b, leadingBlanks := true } fuel
      else
        let t ← readBreak g.trailingBreaks
        readGap start plainIndent { g with trailingBreaks := t } fuel
    else pure g

/-- Whether the input continues with `---` or `...` and a blank at the start of a line. -/
def atDocumentIndicator : ScanM Bool := do
  let s ← get
  let c0 := s.peek 0; let c1 := s.peek 1; let c2 := s.peek 2
  return s.mark.column == 0 &&
    ((c0 == some '-' && c1 == some '-' && c2 == some '-') ||
     (c0 == some '.' && c1 == some '.' && c2 == some '.')) && isBlankz (s.peek 3)

/-- Whether a character ends a run of a plain scalar. -/
def endsPlainRun (flow : Bool) (c next : Option Char) : Bool :=
  (c == some ':' && isBlankz next) ||
    (flow && c.any fun c => ",?[]\x7b\x7d".toList.contains c)

/-- Reads the non-blank characters of one run of a plain scalar. -/
def plainRun (flow : Bool) (text : String) (g : Gap) (stop : Mark) : Nat → ScanM (String × Gap × Mark)
  | 0 => pure (text, g, stop)
  | fuel + 1 => do
    let c ← at? 0
    if isBlankz c || endsPlainRun flow c (← at? 1) then pure (text, g, stop)
    else
      let (text, g) :=
        if g.leadingBlanks || !g.whitespaces.isEmpty then
          (text ++ joinGap g.leadingBlanks g.leadingBreak g.trailingBreaks g.whitespaces, ({} : Gap))
        else (text, g)
      let text ← readChar text
      plainRun flow text g (← here) fuel

/-- Reads a plain scalar, run after run, while the lines continue right of the
indentation. -/
def plainScalar (start : Mark) (indent : Int) (text : String) (g : Gap) (stop : Mark) :
    Nat → ScanM (String × Gap × Mark)
  | 0 => pure (text, g, stop)
  | fuel + 1 => do
    if ← atDocumentIndicator then return (text, g, stop)
    if (← at? 0) == some '#' then return (text, g, stop)
    let flow := (← get).flowLevel > 0
    let (text, g, stop) ← plainRun flow text g stop (← restFuel)
    let c ← at? 0
    if !(isBlank c || isBreak c) then return (text, g, stop)
    let g ← readGap start (some indent) g (← restFuel)
    if !flow && ((← here).column : Int) < indent then return (text, g, stop)
    plainScalar start indent text g stop fuel

/-- A plain scalar token. -/
def fetchPlainScalar : ScanM Unit := do
  saveSimpleKey
  modify fun s => { s with simpleKeyAllowed := false }
  let start ← here
  let indent := (← get).indent + 1
  let (text, g, stop) ← plainScalar start indent "" {} start (← restFuel)
  appendToken ⟨.scalar text .plain, start, stop⟩
  if g.leadingBlanks then modify fun s => { s with simpleKeyAllowed := true }

/-- The character of an escape letter in a double-quoted scalar. -/
def escapeChar : Char → Option String
  | '0' => some "\x00" | 'a' => some "\x07" | 'b' => some "\x08" | 't' => some "\t"
  | '\t' => some "\t" | 'n' => some "\n" | 'v' => some "\x0b" | 'f' => some "\x0c"
  | 'r' => some "\r" | 'e' => some "\x1b" | ' ' => some " " | '"' => some "\""
  | '\'' => some "'" | '\\' => some "\\" | 'N' => some "\x85" | '_' => some "\xa0"
  | 'L' => some "\u2028" | 'P' => some "\u2029"
  | _ => none

/-- The value of a hexadecimal digit. -/
def hexValue (c : Char) : Option Nat :=
  if '0' ≤ c ∧ c ≤ '9' then some (c.toNat - '0'.toNat)
  else if 'a' ≤ c ∧ c ≤ 'f' then some (c.toNat - 'a'.toNat + 10)
  else if 'A' ≤ c ∧ c ≤ 'F' then some (c.toNat - 'A'.toNat + 10)
  else none

/-- Reads the non-blank characters of a quoted scalar up to a blank, a break or the
closing quote; tells whether an escaped line break was met. -/
def quotedRun (single : Bool) (start : Mark) (text : String) : Nat → ScanM (String × Bool)
  | 0 => pure (text, false)
  | fuel + 1 => do
    let c ← at? 0
    let next ← at? 1
    if isBlankz c then return (text, false)
    if single && c == some '\'' && next == some '\'' then
      skip; skip
      quotedRun single start (text.push '\'') fuel
    else if single && c == some '\'' then return (text, false)
    else if !single && c == some '"' then return (text, false)
    else if !single && c == some '\\' && isBreak next then
      skip
      skipLine
      return (text, true)
    else if !single && c == some '\\' then
      let e := next.getD '\x00'
      let codeLength : Nat := if next.isNone then 0 else if e == 'x' then 2 else if e == 'u' then 4 else if e == 'U' then 8 else 0
      if codeLength == 0 then
        match if next.isNone then none else escapeChar e with
        | some t =>
          skip; skip
          quotedRun single start (text ++ t) fuel
        | none => scanFail start "found unknown escape character"
      else
        skip; skip
        let s ← get
        let digits := (List.range codeLength).map fun i => (s.peek i).bind hexValue
        if digits.any Option.isNone then scanFail start "did not find expected hexdecimal number"
        let v : Nat := digits.foldl (fun acc d => acc * 16 + d.getD 0) 0
        if (0xD800 ≤ v && v ≤ 0xDFFF) || v > 0x10FFFF then
          scanFail start "found invalid Unicode character escape code"
        for _ in [0:codeLength] do skip
        quotedRun single start (text.push (Char.ofNat v)) fuel
    else
      let text ← readChar text
      quotedRun single start text fuel

/-- Reads a quoted scalar after its opening quote. -/
def quotedScalar (single : Bool) (start : Mark) (text : String) : Nat → ScanM String
  | 0 => pure text
  | fuel + 1 => do
    if ← atDocumentIndicator then scanFail start "found unexpected document indicator"
    if (← at? 0).isNone then scanFail start "found unexpected end of stream"
    let (text, escapedBreak) ← quotedRun single start text (← restFuel)
    let c ← at? 0
    if (single && c == some '\'') || (!single && c == some '"') then return text
    let g ← readGap start none { leadingBlanks := escapedBreak } (← restFuel)
    let text := text ++ joinGap g.leadingBlanks g.leadingBreak g.trailingBreaks g.whitespaces
    quotedScalar single start text fuel

/-- A single- or double-quoted scalar token. -/
def fetchFlowScalar (single : Bool) : ScanM Unit := do
  saveSimpleKey
  modify fun s => { s with simpleKeyAllowed := false }
  let start ← here
  skip
  let text ← quotedScalar single start "" (← restFuel)
  skip
  appendToken ⟨.scalar text (if single then .singleQuoted else .doubleQuoted), start, ← here⟩

/-- Skips the spaces that indent a line of a block scalar. -/
def skipIndentSpaces (indent : Nat) : Nat → ScanM Unit
  | 0 => pure ()
  | n + 1 => do
    if (indent == 0 || (← here).column < indent) && (← at? 0) == some ' ' then
      skip
      skipIndentSpaces indent n

/-- Reads the indentation spaces and empty lines before a line of a block scalar; fixes
the indentation from the deepest such line when it is not known yet. -/
def blockBreaksLoop (start : Mark) (indent : Nat) (breaks : String) (maxIndent : Nat) (stop : Mark) :
    Nat → ScanM (Nat × String × Mark)
  | 0 => pure (indent, breaks, stop)
  | fuel + 1 => do
    skipIndentSpaces indent (← restFuel)
    let col := (← here).column
    let maxIndent := max maxIndent col
    let c ← at? 0
    if (indent == 0 || col < indent) && c == some '\t' then
      scanFail start "found a tab character where an indentation space is expected"
    if !isBreak c then
      let parent := (← get).indent
      let indent :=
        if indent == 0 then max (max maxIndent (parent + 1).toNat) 1 else indent
      return (indent, breaks, stop)
    let breaks ← readBreak breaks
    blockBreaksLoop start indent breaks maxIndent (← here) fuel

/-- The empty lines before a line of a block scalar, and the indentation. -/
def blockBreaks (start : Mark) (indent : Nat) : ScanM (Nat × String × Mark) := do
  blockBreaksLoop start indent "" 0 (← here) (← restFuel)

/-- Reads the lines of a block scalar at its indentation. -/
def blockLines (literal : Bool) (start : Mark) (indent : Nat) (text leadingBreak trailing : String)
    (leadingBlank : Bool) (stop : Mark) : Nat → ScanM (String × String × String × Mark)
  | 0 => pure (text, leadingBreak, trailing, stop)
  | fuel + 1 => do
    if (← here).column != indent || (← at? 0).isNone then
      return (text, leadingBreak, trailing, stop)
    let trailingBlank := isBlank (← at? 0)
    let text :=
      if !literal && !leadingBlank && !trailingBlank && leadingBreak == "\n" then
        if trailing.isEmpty then text.push ' ' else text
      else text ++ leadingBreak
    let text := text ++ trailing
    let leadingBlank := isBlank (← at? 0)
    let text ← readWhile (fun c => !isBreakz c) text (← restFuel)
    let leadingBreak ← readBreak ""
    let (_, trailing, stop) ← blockBreaks start indent
    blockLines literal start indent text leadingBreak trailing leadingBlank stop fuel

/-- A literal or folded block scalar token. -/
def fetchBlockScalar (literal : Bool) : ScanM Unit := do
  removeSimpleKey
  modify fun s => { s with simpleKeyAllowed := true }
  let start ← here
  skip
  -- the chomping and indentation indicators, in either order
  let mut chomping : Int := 0
  let mut increment : Nat := 0
  let c ← at? 0
  if c == some '+' || c == some '-' then
    chomping := if c == some '+' then 1 else -1
    skip
    let d ← at? 0
    if d.any Char.isDigit then
      if d == some '0' then scanFail start "found an indentation indicator equal to 0"
      increment := (d.getD '0').toNat - '0'.toNat
      skip
  else if c.any Char.isDigit then
    if c == some '0' then scanFail start "found an indentation indicator equal to 0"
    increment := (c.getD '0').toNat - '0'.toNat
    skip
    let d ← at? 0
    if d == some '+' || d == some '-' then
      chomping := if d == some '+' then 1 else -1
      skip
  skipWhile isBlank (← restFuel)
  if (← at? 0) == some '#' then skipCommentText
  if !isBreakz (← at? 0) then scanFail start "did not find expected comment or line break"
  if isBreak (← at? 0) then skipLine
  let parentIndent := (← get).indent
  let indent : Nat :=
    if increment > 0 then (if parentIndent ≥ 0 then parentIndent.toNat + increment else increment) else 0
  let (indent, trailing, stop) ← blockBreaks start indent
  let (text, leadingBreak, trailing, stop) ←
    blockLines literal start indent "" "" trailing false stop (← restFuel)
  let text := if chomping != -1 then text ++ leadingBreak else text
  let text := if chomping == 1 then text ++ trailing else text
  appendToken ⟨.scalar text (if literal then .literal else .folded), start, stop⟩

/-! ### Fetching -/

/-- Whether a character can start a plain scalar here. -/
def startsPlain (flow : Bool) (c next : Option Char) : Bool :=
  let indicator := c.any fun c => "-?:,[]\x7b\x7d#&*!|>'\"%@`".toList.contains c
  !(isBlankz c || indicator) ||
    (c == some '-' && !isBlank next) ||
    (!flow && (c == some '?' || c == some ':') && !isBlankz next)

/-- Fetches the token that starts at a character. -/
def fetchContent (c : Char) : ScanM Unit := do
  let s ← get
  let next := s.peek 1
  let flow := s.flowLevel > 0
  if c == '[' then fetchFlowCollectionStart .flowSequenceStart
  else if c == '{' then fetchFlowCollectionStart .flowMappingStart
  else if c == ']' then fetchFlowCollectionEnd .flowSequenceEnd
  else if c == '}' then fetchFlowCollectionEnd .flowMappingEnd
  else if c == ',' then fetchFlowEntry
  else if c == '-' && isBlankz next then fetchBlockEntry
  else if c == '?' && (flow || isBlankz next) then fetchKey
  else if c == ':' && (flow || isBlankz next) then fetchValue
  else if c == '*' then fetchAnchor true
  else if c == '&' then fetchAnchor false
  else if c == '!' then fetchTag
  else if c == '|' && !flow then fetchBlockScalar true
  else if c == '>' && !flow then fetchBlockScalar false
  else if c == '\'' then fetchFlowScalar true
  else if c == '"' then fetchFlowScalar false
  else if startsPlain flow (some c) next then fetchPlainScalar
  else scanFail s.mark "found character that cannot start any token"

/-- Fetches the next token, with the block ends it closes. -/
def fetchNextToken : ScanM Unit := do
  let s ← get
  if !s.started then fetchStreamStart
  else
    let scanMark := s.mark
    scanToNextToken (← restFuel)
    unrollIndent ((← here).column : Int) scanMark
    let s ← get
    match s.rest with
    | [] => fetchStreamEnd
    | c :: _ =>
      let col0 := s.mark.column == 0
      let c1 := s.peek 1; let c2 := s.peek 2
      if col0 && c == '%' then fetchDirective
      else if col0 && c == '-' && c1 == some '-' && c2 == some '-' && isBlankz (s.peek 3) then
        fetchDocumentIndicator .documentStart
      else if col0 && c == '.' && c1 == some '.' && c2 == some '.' && isBlankz (s.peek 3) then
        fetchDocumentIndicator .documentEnd
      else
        let line := s.mark.line
        fetchContent c
        let s ← get
        let lastIsEntry := match s.queue.getLast? with
          | some t => t.kind.sameAs .blockEntry
          | none => false
        if !lastIsEntry && s.mark.line == line then scanLineComment

/-- Fetches until three tokens wait, or until no possible key could claim the first. -/
def fetchMoreTokens : Nat → ScanM Unit
  | 0 => pure ()
  | fuel + 1 => do
    let s ← get
    if s.queue.length > 2 then
      match s.simpleKeys.findIdx? (fun k => k.possible && k.tokenNumber == s.taken) with
      | none => return
      | some i =>
        let k := s.simpleKeys.getD i {}
        let (valid, k) ← keyStillValid k
        modify fun s => { s with simpleKeys := s.simpleKeys.set i k }
        if !valid then return
    fetchNextToken
    fetchMoreTokens fuel

namespace Scanner

/-- The next token, fetching as needed. -/
def peekToken : ScanM Token := do
  let s ← get
  if !s.available then
    fetchMoreTokens (s.rest.length * 2 + 8)
    modify fun s => { s with available := true }
  match (← get).queue with
  | t :: _ => return t
  | [] => return markToken .streamEnd (← here)

/-- Takes the next token. -/
def skipToken : ScanM Unit :=
  modify fun s => { s with queue := s.queue.drop 1, taken := s.taken + 1, available := false }

end Scanner

end TopicBridge.Yaml
