/-!
# Base64

The standard Base64 alphabet with `=` padding: every three bytes become four characters,
and a last group of one or two bytes is padded to four characters. Reading accepts exactly
the padded form and refuses any other character.

* `TopicBridge.Text.Base64.encode`, `TopicBridge.Text.Base64.decode?`.
-/

namespace TopicBridge.Text.Base64

/-- The sixty-four digits in order. -/
def alphabet : Array Char :=
  "ABCDEFGHIJKLMNOPQRSTUVWXYZabcdefghijklmnopqrstuvwxyz0123456789+/".toList.toArray

/-- The digit of a six-bit value. -/
def digit (n : Nat) : Char := alphabet.getD (n % 64) 'A'

/-- The value of a digit, if it is one. -/
def value? (c : Char) : Option Nat :=
  if 'A' ≤ c && c ≤ 'Z' then some (c.toNat - 'A'.toNat)
  else if 'a' ≤ c && c ≤ 'z' then some (c.toNat - 'a'.toNat + 26)
  else if '0' ≤ c && c ≤ '9' then some (c.toNat - '0'.toNat + 52)
  else if c == '+' then some 62
  else if c == '/' then some 63
  else none

/-- The digits of a byte list, three bytes at a time. -/
def encodeList : List UInt8 → List Char
  | [] => []
  | [a] =>
    let n := a.toNat * 0x10000
    [digit (n / 0x40000), digit (n / 0x1000), '=', '=']
  | [a, b] =>
    let n := a.toNat * 0x10000 + b.toNat * 0x100
    [digit (n / 0x40000), digit (n / 0x1000), digit (n / 0x40), '=']
  | a :: b :: c :: rest =>
    let n := a.toNat * 0x10000 + b.toNat * 0x100 + c.toNat
    digit (n / 0x40000) :: digit (n / 0x1000) :: digit (n / 0x40) :: digit n :: encodeList rest

/-- The Base64 text of a byte array. -/
def encode (b : ByteArray) : String := String.ofList (encodeList b.toList)

/-- The bytes of a digit list, four digits at a time; `none` on a malformed group. -/
def decodeList : List Char → Option (List UInt8)
  | [] => some []
  | [c0, c1, '=', '='] => do
    let n := (← value? c0) * 0x40000 + (← value? c1) * 0x1000
    pure [(n / 0x10000).toUInt8]
  | [c0, c1, c2, '='] => do
    let n := (← value? c0) * 0x40000 + (← value? c1) * 0x1000 + (← value? c2) * 0x40
    pure [(n / 0x10000).toUInt8, (n / 0x100 % 0x100).toUInt8]
  | c0 :: c1 :: c2 :: c3 :: rest => do
    let n := (← value? c0) * 0x40000 + (← value? c1) * 0x1000 + (← value? c2) * 0x40 +
      (← value? c3)
    let tail ← decodeList rest
    pure ((n / 0x10000).toUInt8 :: (n / 0x100 % 0x100).toUInt8 :: (n % 0x100).toUInt8 :: tail)
  | _ => none

/-- The bytes of a Base64 text, if it is well-formed. -/
def decode? (s : String) : Option ByteArray :=
  (decodeList s.toList).map fun bs => ⟨bs.toArray⟩

end TopicBridge.Text.Base64
