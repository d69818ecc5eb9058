/-!
# DER elements

Certificates and keys are nested **DER elements**: a tag byte, a length, and that many
content bytes. Lengths are in the shortest form: below 128 in one byte, otherwise a byte
`0x80 + k` followed by `k ≤ 4` bytes without a leading zero, for a length of at least 128.
Tags with the high-tag-number form are refused.

Integers are two's complement in the fewest bytes; bit strings carry the number of unused
bits first; object identifiers are compared by their encoded bytes.

* `TopicBridge.Tls.readElement`, `TopicBridge.Tls.elements`.
-/

namespace TopicBridge.Tls

/-- A universal or context tag byte. -/
abbrev Tag := UInt8

/-- The tags used here. -/
def tagInteger : Tag := 0x02
/-- The bit string tag. -/
def tagBitString : Tag := 0x03
/-- The octet string tag. -/
def tagOctetString : Tag := 0x04
/-- The null tag. -/
def tagNull : Tag := 0x05
/-- The object identifier tag. -/
def tagOid : Tag := 0x06
/-- The boolean tag. -/
def tagBoolean : Tag := 0x01
/-- The sequence tag. -/
def tagSequence : Tag := 0x30
/-- The set tag. -/
def tagSet : Tag := 0x31
/-- The tag of UTC time. -/
def tagUtcTime : Tag := 0x17
/-- The tag of generalized time. -/
def tagGeneralizedTime : Tag := 0x18

/-- The tag of the constructed context-specific element number `n`. -/
def tagContext (n : Nat) : Tag := (0xa0 + n).toUInt8

/-- One element: its tag, its content, and its whole encoding. -/
structure Element where
  /-- The tag byte. -/
  tag : Tag
  /-- The content bytes. -/
  body : List UInt8
  /-- The tag, length and content bytes together. -/
  whole : List UInt8
  deriving Repr, DecidableEq, Inhabited

/-- A big-endian unsigned number. -/
def beValue (bs : List UInt8) : Nat := bs.foldl (fun a b => a * 256 + b.toNat) 0

/-- The length of an element and the bytes after the length field. -/
def readLength : List UInt8 → Option (Nat × List UInt8)
  | [] => none
  | l :: rest =>
    if l < 0x80 then some (l.toNat, rest)
    else
      let k := (l &&& 0x7f).toNat
      let lenBytes := rest.take k
      if k == 0 || k > 4 || lenBytes.length < k || lenBytes.head? == some 0 then none
      else
        let n := beValue lenBytes
        if n < 128 then none else some (n, rest.drop k)

/-- Reads one element and the bytes after it. -/
def readElement : List UInt8 → Option (Element × List UInt8)
  | [] => none
  | t :: rest =>
    if t &&& 0x1f == 0x1f then none
    else
      match readLength rest with
      | none => none
      | some (n, body) =>
        if body.length < n then none
        else some (⟨t, body.take n, (t :: rest).take ((t :: rest).length - (body.length - n))⟩, body.drop n)

/-- Reads one element with a given tag. -/
def readTagged (t : Tag) (bs : List UInt8) : Option (Element × List UInt8) :=
  match readElement bs with
  | some (e, rest) => if e.tag == t then some (e, rest) else none
  | none => none

/-- Reads elements until the bytes run out, at most `fuel` of them. -/
def elementsFuel : List UInt8 → Nat → Option (List Element)
  | [], _ => some []
  | _, 0 => none
  | bs, fuel + 1 =>
    match readElement bs with
    | none => none
    | some (e, rest) => (e :: ·) <$> elementsFuel rest fuel

/-- The elements that make up some bytes, or `none` if they do not parse. -/
def elements (bs : List UInt8) : Option (List Element) := elementsFuel bs (bs.length + 1)

/-- The value of a minimally encoded two's complement integer. -/
def integerValue (bs : List UInt8) : Option Int :=
  match bs with
  | [] => none
  | b0 :: b1 :: _ =>
    if (b0 == 0 && b1 &&& 0x80 == 0) || (b0 == 0xff && b1 &&& 0x80 == 0x80) then none
    else some (if b0 &&& 0x80 == 0 then beValue bs else (beValue bs : Int) - (Nat.pow 2 (8 * bs.length) : Nat))
  | [b0] => some (if b0 &&& 0x80 == 0 then b0.toNat else (b0.toNat : Int) - 256)

/-- The bytes of a bit string whose unused bits are zero. -/
def bitStringBytes (bs : List UInt8) : Option (Nat × List UInt8) :=
  match bs with
  | [] => none
  | pad :: rest =>
    let unused := pad.toNat
    if unused > 7 || (rest.isEmpty && unused != 0) then none
    else
      match rest.getLast? with
      | some last => if last.toNat % (Nat.pow 2 unused) != 0 then none else some (unused, rest)
      | none => some (unused, rest)

/-- Whether the content of an object identifier is well formed. -/
def validOid (bs : List UInt8) : Bool :=
  !bs.isEmpty && (match bs.getLast? with | some l => decide (l < 0x80) | none => false) &&
    (List.range bs.length).all fun i =>
      !(bs.getD i 0 == 0x80 && (i == 0 || bs.getD (i - 1) 0 < 0x80))

/-! ### Object identifiers -/

/-- 1.2.840.113549.1.1.1, RSA encryption. -/
def oidRsa : List UInt8 := [0x2a, 0x86, 0x48, 0x86, 0xf7, 0x0d, 0x01, 0x01, 0x01]
/-- 1.2.840.10040.4.1, DSA. -/
def oidDsa : List UInt8 := [0x2a, 0x86, 0x48, 0xce, 0x38, 0x04, 0x01]
/-- 1.2.840.10045.2.1, an elliptic curve public key. -/
def oidEcPublicKey : List UInt8 := [0x2a, 0x86, 0x48, 0xce, 0x3d, 0x02, 0x01]
/-- 1.3.101.112, Ed25519. -/
def oidEd25519 : List UInt8 := [0x2b, 0x65, 0x70]
/-- 1.3.101.110, X25519. -/
def oidX25519 : List UInt8 := [0x2b, 0x65, 0x6e]

end TopicBridge.Tls
