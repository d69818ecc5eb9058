import TopicBridge.Text.Quoted
/-!
# Integer and boolean literals

The readers of integer and boolean text used by the settings.

An **unsigned literal** is a run of digits in a base from 2 to 36; base `0` means that
the text chooses it: `0x` hexadecimal, `0b` binary, `0o` or a bare leading `0` octal,
decimal otherwise, and then single underscores may separate digits (and follow the
prefix). Digits are read left to right, and the first digit that makes the value leave
the bit size reports **out of range** even if junk follows it; any other misfit is
**invalid syntax**. A **signed literal** is an optional `+` or `-` before an unsigned
one, in the range of its bit size.

A **boolean literal** is one of `1 t T TRUE true True` or `0 f F FALSE false False`.

Failures are written `strconv.<Reader>: parsing "<text>": <reason>`.

* `TopicBridge.Num.parseUnsigned`, `TopicBridge.Num.parseSigned`,
  `TopicBridge.Num.parseBool`, `TopicBridge.Num.LiteralFault.message`.
-/

namespace TopicBridge.Num

/-- Why a literal was refused. -/
inductive LiteralFault where
  /-- The text is not a literal. -/
  | malformed
  /-- The literal's value does not fit. -/
  | range
  deriving Repr, DecidableEq, Inhabited

/-- The reason's words. -/
def LiteralFault.reason : LiteralFault → String
  | .malformed => "invalid syntax"
  | .range => "value out of range"

/-- The message of a refused literal, naming the reader and the text. -/
def LiteralFault.message (f : LiteralFault) (reader text : String) : String :=
  "strconv." ++ reader ++ ": parsing " ++ Text.quote text ++ ": " ++ f.reason

/-- A character in lowercase, for ASCII letters. -/
def lowerAscii (c : Char) : Char := if 'A' ≤ c ∧ c ≤ 'Z' then Char.ofNat (c.toNat + 32) else c

/-- The value of a digit character in bases up to 36, or 36 for any other character. -/
def digitValue (c : Char) : Nat :=
  let l := lowerAscii c
  if '0' ≤ c ∧ c ≤ '9' then c.toNat - '0'.toNat
  else if 'a' ≤ l ∧ l ≤ 'z' then l.toNat - 'a'.toNat + 10
  else 36

/-- Whether the underscores of a base-chosen literal each stand between two digits, or
between the prefix and a digit. -/
def underscoresOk (s : List Char) : Bool :=
  let s := match s with
    | '+' :: r | '-' :: r => r
    | r => r
  let (start, hex, body) := match s with
    | '0' :: b :: r =>
      let l := lowerAscii b
      if l == 'b' || l == 'o' || l == 'x' then ('0', l == 'x', r) else ('^', false, s)
    | _ => ('^', false, s)
  -- the class of the last character seen: '^' start, '0' digit, '_' underscore, '!' other
  let last := body.foldl (fun (saw : Char) c =>
    if saw == 'x' then 'x'
    else if ('0' ≤ c ∧ c ≤ '9') || (hex && 'a' ≤ lowerAscii c && lowerAscii c ≤ 'f') then '0'
    else if c == '_' then (if saw != '0' then 'x' else '_')
    else if saw == '_' then 'x'
    else '!') start
  last != 'x' && last != '_'

/-- Reads digits in a base, stopping at the first one that overflows `max`. -/
def readDigits (base max : Nat) (chooses : Bool) : List Char → Nat → Bool → Except LiteralFault (Nat × Bool)
  | [], n, sawUnderscore => .ok (n, sawUnderscore)
  | c :: rest, n, sawUnderscore =>
    if c == '_' && chooses then readDigits base max chooses rest n true
    else
      let d := digitValue c
      if d ≥ base then .error .malformed
      else
        let n1 := n * base + d
        if n1 > max then .error .range
        else readDigits base max chooses rest n1 sawUnderscore

/-- Reads an unsigned literal in a base (0: chosen by the text) of at most `bits` bits. -/
def parseUnsigned (s : String) (base bits : Nat) : Except LiteralFault Nat :=
  let cs := s.toList
  if cs.isEmpty then .error .malformed
  else
    let chooses := base == 0
    let (base, digits) :=
      if base != 0 then (base, cs)
      else match cs with
        | '0' :: b :: r =>
          let l := lowerAscii b
          if r.isEmpty then (8, b :: r)
          else if l == 'b' then (2, r)
          else if l == 'o' then (8, r)
          else if l == 'x' then (16, r)
          else (8, b :: r)
        | '0' :: [] => (8, [])
        | _ => (10, cs)
    match readDigits base (Nat.pow 2 bits - 1) chooses digits 0 false with
    | .error e => .error e
    | .ok (n, sawUnderscore) =>
      if sawUnderscore && !underscoresOk cs then .error .malformed else .ok n

/-- Reads a signed literal in a base (0: chosen by the text) of `bits` bits. -/
def parseSigned (s : String) (base bits : Nat) : Except LiteralFault Int :=
  if s.isEmpty then .error .malformed
  else
    let (neg, body) := match s.toList with
      | '+' :: r => (false, String.ofList r)
      | '-' :: r => (true, String.ofList r)
      | r => (false, String.ofList r)
    let limit := Nat.pow 2 (bits - 1)
    match parseUnsigned body base bits with
    | .error .malformed => .error .malformed
    | .error .range => .error .range
    | .ok n =>
      if !neg && n ≥ limit then .error .range
      else if neg && n > limit then .error .range
      else .ok (if neg then -(n : Int) else n)

/-- Reads a boolean literal. -/
def parseBool (s : String) : Except LiteralFault Bool :=
  if ["1", "t", "T", "TRUE", "true", "True"].contains s then .ok true
  else if ["0", "f", "F", "FALSE", "false", "False"].contains s then .ok false
  else .error .malformed

example : parseBool "yes" = .error .malformed := rfl

end TopicBridge.Num
