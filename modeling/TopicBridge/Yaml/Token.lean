/-!
# YAML tokens

The vocabulary shared by the YAML scanner and parser: positions in the input, the kinds
of token, and the problems that stop a reading.

A **mark** counts characters, lines and columns from zero. A **problem** carries the
words that describe it, the mark where it was found and, for most problems, the mark of
the construct being read at the time (its **context**). A problem is reported on the
line of its context, or else on its own line, counted from one for problems of the
scanner and from zero for those of the parser; a problem on line zero is reported
without a line:

    yaml: line 3: mapping values are not allowed in this context
    yaml: found character that cannot start any token

* `TopicBridge.Yaml.Token`, `TopicBridge.Yaml.Problem.message`.
-/

namespace TopicBridge.Yaml

/-- A position in the input; all counts start at zero. -/
structure Mark where
  /-- Characters before the position. -/
  index : Nat := 0
  /-- The line. -/
  line : Nat := 0
  /-- The column. -/
  column : Nat := 0
  deriving Repr, DecidableEq, Inhabited

/-- How a scalar is written. -/
inductive ScalarStyle where
  /-- Without quotes. -/
  | plain
  /-- Between single quotes. -/
  | singleQuoted
  /-- Between double quotes. -/
  | doubleQuoted
  /-- A block kept line for line, after `|`. -/
  | literal
  /-- A block folded into lines, after `>`. -/
  | folded
  deriving Repr, DecidableEq, Inhabited

/-- The kinds of token. -/
inductive TokenKind where
  /-- The start of the input. -/
  | streamStart
  /-- The end of the input. -/
  | streamEnd
  /-- A `%YAML` directive. -/
  | versionDirective (major minor : Nat)
  /-- A `%TAG` directive. -/
  | tagDirective (handle pfx : String)
  /-- `---`. -/
  | documentStart
  /-- `...`. -/
  | documentEnd
  /-- The start of a block sequence, at the indentation of its first `-`. -/
  | blockSequenceStart
  /-- The start of a block mapping, at the indentation of its first key. -/
  | blockMappingStart
  /-- The end of a block collection. -/
  | blockEnd
  /-- `[`. -/
  | flowSequenceStart
  /-- `]`. -/
  | flowSequenceEnd
  /-- `{`. -/
  | flowMappingStart
  /-- `}`. -/
  | flowMappingEnd
  /-- `-` before a block sequence entry. -/
  | blockEntry
  /-- `,` between flow entries. -/
  | flowEntry
  /-- The start of a key. -/
  | key
  /-- `:` before a value. -/
  | value
  /-- `*name`. -/
  | alias (name : String)
  /-- `&name`. -/
  | anchor (name : String)
  /-- `!handle!suffix`, `!suffix` or `!<uri>`. -/
  | tag (handle suffix : String)
  /-- A scalar and how it was written. -/
  | scalar (text : String) (style : ScalarStyle)
  deriving Repr, Inhabited

/-- The number of a kind's constructor. -/
def TokenKind.index : TokenKind → Nat
  | .streamStart => 0 | .streamEnd => 1 | .versionDirective _ _ => 2 | .tagDirective _ _ => 3
  | .documentStart => 4 | .documentEnd => 5 | .blockSequenceStart => 6
  | .blockMappingStart => 7 | .blockEnd => 8 | .flowSequenceStart => 9
  | .flowSequenceEnd => 10 | .flowMappingStart => 11 | .flowMappingEnd => 12
  | .blockEntry => 13 | .flowEntry => 14 | .key => 15 | .value => 16 | .alias _ => 17
  | .anchor _ => 18 | .tag _ _ => 19 | .scalar _ _ => 20

/-- Whether two kinds have the same constructor. -/
def TokenKind.sameAs (a b : TokenKind) : Bool := a.index == b.index

/-- A token and the marks where it starts and stops. -/
structure Token where
  /-- What the token is. -/
  kind : TokenKind
  /-- Where it starts. -/
  start : Mark
  /-- Where it stops. -/
  stop : Mark
  deriving Repr, Inhabited

/-- Who found a problem: the scanner counts lines for messages from one, the parser
from zero. -/
inductive Finder where
  /-- The character reader. -/
  | reader
  /-- The scanner. -/
  | scanner
  /-- The parser. -/
  | parser
  deriving Repr, DecidableEq, Inhabited

/-- A problem that stops a reading. -/
structure Problem where
  /-- Who found it. -/
  finder : Finder
  /-- The mark of the construct being read. -/
  contextMark : Mark := {}
  /-- What is wrong. -/
  problem : String
  /-- Where it was found. -/
  problemMark : Mark := {}
  deriving Repr, Inhabited

/-- The line a problem is reported on; zero for none. -/
def Problem.line (p : Problem) : Nat :=
  let shift := if p.finder == .scanner then 1 else 0
  if p.contextMark.line != 0 then p.contextMark.line + shift
  else if p.problemMark.line != 0 then p.problemMark.line + shift
  else 0

/-- The message of a problem. -/
def Problem.message (p : Problem) : String :=
  "yaml: " ++ (if p.line != 0 then "line " ++ toString p.line ++ ": " else "") ++ p.problem

/-! ### Character classes -/

/-- A line break: carriage return, line feed, next line, line or paragraph separator. -/
def isBreakChar (c : Char) : Bool :=
  c == '\r' || c == '\n' || c == '\x85' || c == '\u2028' || c == '\u2029'

/-- A blank: space or tab. -/
def isBlankChar (c : Char) : Bool := c == ' ' || c == '\t'

/-- A break, or the end of the input. -/
def isBreakz : Option Char → Bool
  | some c => isBreakChar c
  | none => true

/-- A blank, a break, or the end of the input. -/
def isBlankz : Option Char → Bool
  | some c => isBlankChar c || isBreakChar c
  | none => true

/-- A blank. -/
def isBlank : Option Char → Bool
  | some c => isBlankChar c
  | none => false

/-- A break. -/
def isBreak : Option Char → Bool
  | some c => isBreakChar c
  | none => false

/-- A letter, digit, `_` or `-`: the characters of anchors and tag handles. -/
def isWordChar (c : Char) : Bool :=
  ('0' ≤ c ∧ c ≤ '9') || ('A' ≤ c ∧ c ≤ 'Z') || ('a' ≤ c ∧ c ≤ 'z') || c == '_' || c == '-'

/-- Whether a character may stand in the input: tab, breaks, printable ASCII and the
printable ranges beyond it. -/
def isAllowedChar (c : Char) : Bool :=
  let n := c.toNat
  n == 0x09 || n == 0x0A || n == 0x0D || (0x20 ≤ n ∧ n ≤ 0x7E) || n == 0x85 ||
    (0xA0 ≤ n ∧ n ≤ 0xD7FF) || (0xE000 ≤ n ∧ n ≤ 0xFFFD) || (0x10000 ≤ n ∧ n ≤ 0x10FFFF)

theorem Problem.message_line_zero (f : Finder) (s : String) :
    ({ finder := f, problem := s } : Problem).message = "yaml: " ++ s := by
  simp [Problem.message, Problem.line]

end TopicBridge.Yaml
