/-!
# Reading bytes as text

Bodies, payloads and header values are bytes. Where they are shown as text, each
well-formed UTF-8 sequence becomes its character and **each byte that does not start a
well-formed sequence becomes one replacement character** `U+FFFD`. A sequence is
well-formed when its lead byte announces its length, its continuation bytes lie in
`0x80`–`0xBF`, and it encodes neither a surrogate nor a code point above `U+10FFFF` nor a
shorter form (the second byte after `E0`, `ED`, `F0` and `F4` is narrowed accordingly).

* `TopicBridge.Text.decodeLenient` – the characters of a byte list, with replacements;
* `TopicBridge.Text.isValidUtf8` – whether no replacement was needed;
* `TopicBridge.Text.ofBytes` – the text of a byte array.
-/

namespace TopicBridge.Text

/-- The replacement character. -/
def replacement : Char := Char.ofNat 0xFFFD

/-- Whether a byte continues a sequence. -/
def isContinuation (b : UInt8) : Bool := 0x80 ≤ b && b ≤ 0xBF

/-- The range allowed for the second byte of a sequence led by `b0`. -/
def secondByteOk (b0 b1 : UInt8) : Bool :=
  if b0 == 0xE0 then 0xA0 ≤ b1 && b1 ≤ 0xBF
  else if b0 == 0xED then 0x80 ≤ b1 && b1 ≤ 0x9F
  else if b0 == 0xF0 then 0x90 ≤ b1 && b1 ≤ 0xBF
  else if b0 == 0xF4 then 0x80 ≤ b1 && b1 ≤ 0x8F
  else isContinuation b1

/-- The code point of a two-byte sequence. -/
def point2 (b0 b1 : UInt8) : Nat := (b0.toNat % 0x20) * 0x40 + b1.toNat % 0x40

/-- The code point of a three-byte sequence. -/
def point3 (b0 b1 b2 : UInt8) : Nat :=
  ((b0.toNat % 0x10) * 0x40 + b1.toNat % 0x40) * 0x40 + b2.toNat % 0x40

/-- The code point of a four-byte sequence. -/
def point4 (b0 b1 b2 b3 : UInt8) : Nat :=
  (((b0.toNat % 0x08) * 0x40 + b1.toNat % 0x40) * 0x40 + b2.toNat % 0x40) * 0x40 +
    b3.toNat % 0x40

/-- The characters of a byte list; a byte that starts no well-formed sequence is replaced. -/
def decodeLenient (bs : List UInt8) : List Char :=
  match bs with
  | [] => []
  | b0 :: r0 =>
    if b0 < 0x80 then Char.ofNat b0.toNat :: decodeLenient r0
    else if 0xC2 ≤ b0 && b0 ≤ 0xDF then
      match _h : r0 with
      | b1 :: r1 =>
        if isContinuation b1 then Char.ofNat (point2 b0 b1) :: decodeLenient r1
        else replacement :: decodeLenient r0
      | [] => [replacement]
    else if 0xE0 ≤ b0 && b0 ≤ 0xEF then
      match _h : r0 with
      | b1 :: b2 :: r2 =>
        if secondByteOk b0 b1 && isContinuation b2 then
          Char.ofNat (point3 b0 b1 b2) :: decodeLenient r2
        else replacement :: decodeLenient r0
      | _ => replacement :: decodeLenient r0
    else if 0xF0 ≤ b0 && b0 ≤ 0xF4 then
      match _h : r0 with
      | b1 :: b2 :: b3 :: r3 =>
        if secondByteOk b0 b1 && isContinuation b2 && isContinuation b3 then
          Char.ofNat (point4 b0 b1 b2 b3) :: decodeLenient r3
        else replacement :: decodeLenient r0
      | _ => replacement :: decodeLenient r0
    else replacement :: decodeLenient r0
termination_by bs.length
decreasing_by all_goals (subst_vars; simp; try omega)

/-- Whether a byte list is well-formed UTF-8 throughout. -/
def isValidUtf8List : List UInt8 → Bool
  | [] => true
  | b0 :: r0 =>
    if b0 < 0x80 then isValidUtf8List r0
    else if 0xC2 ≤ b0 && b0 ≤ 0xDF then
      match r0 with
      | b1 :: r1 => isContinuation b1 && isValidUtf8List r1
      | [] => false
    else if 0xE0 ≤ b0 && b0 ≤ 0xEF then
      match r0 with
      | b1 :: b2 :: r2 => secondByteOk b0 b1 && isContinuation b2 && isValidUtf8List r2
      | _ => false
    else if 0xF0 ≤ b0 && b0 ≤ 0xF4 then
      match r0 with
      | b1 :: b2 :: b3 :: r3 =>
        secondByteOk b0 b1 && isContinuation b2 && isContinuation b3 && isValidUtf8List r3
      | _ => false
    else false

/-- Whether a byte array is well-formed UTF-8. -/
def isValidUtf8 (b : ByteArray) : Bool := isValidUtf8List b.toList

/-- The text of a byte array, each stray byte replaced. -/
def ofBytes (b : ByteArray) : String := String.ofList (decodeLenient b.toList)

/-- The UTF-8 bytes of a text. -/
def toBytes (s : String) : ByteArray := s.toUTF8

/-- The first `n` bytes of a text, read back with replacements where the cut splits a
character. -/
def truncateBytes (s : String) (n : Nat) : String :=
  if s.utf8ByteSize ≤ n then s else String.ofList (decodeLenient (s.toUTF8.toList.take n))

/-- Validity is that of RFC 3629: an overlong form and a surrogate are refused, a
four-byte scalar and U+10FFFF are accepted, and the value one past it is refused. -/
example :
    isValidUtf8List [0xC0, 0x80] = false ∧ isValidUtf8List [0xE0, 0x80, 0x80] = false ∧
      isValidUtf8List [0xED, 0xA0, 0x80] = false ∧ isValidUtf8List [0xF0, 0x9F, 0x98, 0x80] = true ∧
      isValidUtf8List [0xF4, 0x8F, 0xBF, 0xBF] = true ∧ isValidUtf8List [0xF4, 0x90, 0x80, 0x80] = false := by
  decide

end TopicBridge.Text
