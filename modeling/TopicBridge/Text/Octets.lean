import TopicBridge.Text.Utf8

/-!
# Octets

Byte-level text work – URLs, PEM armour – is done on **octets**: the bytes of a UTF-8 text,
each held as the character of the same number. Splitting and matching then act on bytes
exactly, literals stay readable, and the bytes are turned back into text only at the end,
where each ill-formed byte becomes the replacement character.

* `TopicBridge.Text.octets`, `TopicBridge.Text.ofOctets`, and cutting helpers.
-/

namespace TopicBridge.Text

/-- Bytes, each held as the character of the same number. -/
abbrev Octets := List Char

/-- The bytes of a text. -/
def octets (s : String) : Octets := s.toUTF8.toList.map fun b => Char.ofNat b.toNat

/-- The octets of a byte array. -/
def octetsOfBytes (b : ByteArray) : Octets := b.toList.map fun x => Char.ofNat x.toNat

/-- The byte array of some octets. -/
def bytesOfOctets (o : Octets) : ByteArray := ⟨(o.map fun c => c.toNat.toUInt8).toArray⟩

/-- The text of some bytes, with each ill-formed byte read as the replacement character. -/
def ofOctets (o : Octets) : String := ofBytes (bytesOfOctets o)

/-- The bytes before and after the first occurrence of a byte. -/
def cutAt (s : Octets) (c : Char) : Octets × Option Octets :=
  match s.idxOf? c with
  | some i => (s.take i, some (s.drop (i + 1)))
  | none => (s, none)

/-- The position of the last occurrence of a byte. -/
def lastIdx (s : Octets) (c : Char) : Option Nat :=
  match (s.reverse).idxOf? c with
  | some i => some (s.length - 1 - i)
  | none => none

/-- Whether a run of bytes starts a text. -/
def startsWith (s pat : Octets) : Bool := s.take pat.length == pat

/-- The position of the first occurrence of a run of bytes. -/
def findRun (s pat : Octets) : Option Nat :=
  ((List.range (s.length + 1)).find? fun i => startsWith (s.drop i) pat).filter
    fun i => i + pat.length ≤ s.length

/-- Replaces the first occurrence of a run of bytes. -/
def replaceFirst (s pat new : Octets) : Octets :=
  match findRun s pat with
  | some i => s.take i ++ new ++ s.drop (i + pat.length)
  | none => s

end TopicBridge.Text
