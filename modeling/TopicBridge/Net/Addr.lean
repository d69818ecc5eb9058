import TopicBridge.Text.Octets
import TopicBridge.Text.Quoted

/-!
# IP addresses

An **IP address** is read from text strictly: the kind is decided by the first `.`, `:` or
`%` in the text.

* A **dotted** address has four decimal fields from 0 to 255, none with a leading zero.
* A **colon** address has at most eight groups of at most four hexadecimal digits, of which
  one run may be left out as `::` – it then stands for at least one group of zeros – and
  whose last two groups may be written as a dotted address. A `%` starts a **zone**, which
  must not be empty.

A text that fails is refused with the reason and, for most reasons, the rest of the text
where reading stopped.

* `TopicBridge.Net.parseAddr` – the address a text gives;
* `TopicBridge.Net.IpAddr.isDotted` – whether it is a four-byte address.
-/

namespace TopicBridge.Net

open TopicBridge.Text

/-- An IP address. -/
inductive IpAddr where
  /-- A four-byte address. -/
  | dotted (bytes : List Nat)
  /-- A sixteen-byte address with its zone, empty for none. -/
  | colon (bytes : List Nat) (zone : Octets)
  deriving Repr, DecidableEq, Inhabited

/-- Whether an address is a four-byte one. -/
def IpAddr.isDotted : IpAddr → Bool
  | .dotted _ => true
  | .colon _ _ => false

/-- Why a text is not an IP address. -/
structure AddrError where
  /-- The whole text read. -/
  input : Octets
  /-- What is wrong. -/
  reason : String
  /-- The rest of the text where reading stopped; empty when not told. -/
  rest : Octets := []
  deriving Repr, DecidableEq, Inhabited

/-- The text of a reading error. -/
def AddrError.message (e : AddrError) : String :=
  "ParseAddr(" ++ quote (ofOctets e.input) ++ "): " ++ e.reason ++
    (if e.rest.isEmpty then "" else " (at " ++ quote (ofOctets e.rest) ++ ")")

/-- The value of a decimal digit. -/
def decimalDigit? (c : Char) : Option Nat :=
  if '0' ≤ c ∧ c ≤ '9' then some (c.toNat - '0'.toNat) else none

/-- The value of a hexadecimal digit, in either case. -/
def hexDigit? (c : Char) : Option Nat :=
  if '0' ≤ c ∧ c ≤ '9' then some (c.toNat - '0'.toNat)
  else if 'a' ≤ c ∧ c ≤ 'f' then some (c.toNat - 'a'.toNat + 10)
  else if 'A' ≤ c ∧ c ≤ 'F' then some (c.toNat - 'A'.toNat + 10)
  else none

/-- Reads the fields of a dotted address from `s` on: `value` and `digits` describe the field
being read, `fields` those finished; `fresh` holds at the start and `afterDot` right after a
dot. Errors name the whole `input`. -/
def readDotted (input : Octets) : Octets → (value digits : Nat) → (fresh afterDot : Bool) →
    List Nat → Except AddrError (List Nat)
  | [], value, _, _, _, fields =>
    if fields.length < 3 then .error { input, reason := "IPv4 address too short" }
    else .ok (fields ++ [value])
  | c :: rest, value, digits, fresh, afterDot, fields =>
    match decimalDigit? c with
    | some d =>
      if digits == 1 && value == 0 then
        .error { input, reason := "IPv4 field has octet with leading zero" }
      else if value * 10 + d > 255 then .error { input, reason := "IPv4 field has value >255" }
      else readDotted input rest (value * 10 + d) (digits + 1) false false fields
    | none =>
      if c == '.' then
        if fresh || rest.isEmpty || afterDot then
          .error { input, reason := "IPv4 field must have at least one digit", rest := c :: rest }
        else if fields.length == 3 then .error { input, reason := "IPv4 address too long" }
        else readDotted input rest 0 0 false true (fields ++ [value])
      else .error { input, reason := "unexpected character", rest := c :: rest }

/-- Reads one hexadecimal group from `s` on, `count` digits worth `value` read so far: the
number of its digits and its value. `group` is the text from the group's start. -/
def readGroup (input group : Octets) : Octets → (count value : Nat) → Except AddrError (Nat × Nat)
  | [], count, value => .ok (count, value)
  | c :: rest, count, value =>
    match hexDigit? c with
    | none => .ok (count, value)
    | some d =>
      if count > 3 then .error { input, reason := "each group must have 4 or less digits", rest := group }
      else if value * 16 + d > 0xFFFF then
        .error { input, reason := "IPv6 field has value >=2^16", rest := group }
      else readGroup input group rest (count + 1) (value * 16 + d)

/-- What is left after reading the groups of a colon address: the unread text, the bytes
read, and where `::` stood, if anywhere. -/
structure GroupsRead where
  /-- The text not read. -/
  rest : Octets
  /-- The bytes read. -/
  bytes : List Nat
  /-- The number of bytes read before `::`. -/
  gap : Option Nat

/-- Reads the groups of a colon address from `s` on, with `bytes` read so far and `gap` where
`::` stood; at most `fuel` groups more. -/
def readGroups (input : Octets) : Nat → Octets → List Nat → Option Nat → Except AddrError GroupsRead
  | 0, s, bytes, gap => .ok { rest := s, bytes, gap }
  | fuel + 1, s, bytes, gap =>
    if bytes.length ≥ 16 then .ok { rest := s, bytes, gap } else do
    let (count, value) ← readGroup input s s 0 0
    if count == 0 then
      throw { input, reason := "each colon-separated field must have at least one digit", rest := s }
    let after := s.drop count
    if after.head? == some '.' then
      if gap.isNone && bytes.length != 12 then
        throw { input, rest := s,
                reason := "embedded IPv4 address must replace the final 2 fields of the address" }
      if bytes.length + 4 > 16 then
        throw { input, rest := s,
                reason := "too many hex fields to fit an embedded IPv4 at the end of the address" }
      let fields ← readDotted input s 0 0 true false []
      return { rest := [], bytes := bytes ++ fields, gap }
    let bytes := bytes ++ [value / 256, value % 256]
    match after with
    | [] => return { rest := [], bytes, gap }
    | c :: more =>
      if c != ':' then throw { input, reason := "unexpected character, want colon", rest := after }
      match more with
      | [] => throw { input, reason := "colon must be followed by more characters", rest := after }
      | ':' :: tail =>
        if gap.isSome then throw { input, reason := "multiple :: in address", rest := more }
        if tail.isEmpty then return { rest := [], bytes, gap := some bytes.length }
        readGroups input fuel tail bytes (some bytes.length)
      | _ => readGroups input fuel more bytes gap

/-- Reads a colon address, with its zone. -/
def readColon (input : Octets) : Except AddrError IpAddr := do
  let (s, zone) := cutAt input '%'
  let zone ← match zone with
    | some [] => throw { input, reason := "zone must be a non-empty string" }
    | some z => pure z
    | none => pure []
  let (s, gap) := match s with
    | ':' :: ':' :: tail => (tail, some 0)
    | _ => (s, none)
  if gap.isSome && s.isEmpty then return .colon (List.replicate 16 0) zone
  let r ← readGroups input 9 s [] gap
  if !r.rest.isEmpty then throw { input, reason := "trailing garbage after address", rest := r.rest }
  if r.bytes.length < 16 then
    match r.gap with
    | none => throw { input, reason := "address string too short" }
    | some g =>
      return .colon (r.bytes.take g ++ List.replicate (16 - r.bytes.length) 0 ++ r.bytes.drop g) zone
  if r.gap.isSome then throw { input, reason := "the :: must expand to at least one field of zeros" }
  return .colon r.bytes zone

/-- The address a text gives, its kind decided by the first `.`, `:` or `%` in it. -/
def parseAddr (s : Octets) : Except AddrError IpAddr :=
  match s.find? (fun c => c == '.' || c == ':' || c == '%') with
  | some '.' => .dotted <$> readDotted s s 0 0 true false []
  | some ':' => readColon s
  | some _ => .error { input := s, reason := "missing IPv6 address" }
  | none => .error { input := s, reason := "unable to parse IP" }

example :
    (parseAddr "01.2.3.4".toList).isOk = false := by decide

end TopicBridge.Net
