import TopicBridge.Text.Octets
import TopicBridge.Text.Base64

/-!
# PEM armour

A **PEM block** is Base64 text between a line `-----BEGIN TYPE-----` and a line
`-----END TYPE-----`, with optional `Key: value` header lines right after the first line.

Decoding looks for the first begin line (at the very start, or after a newline). A
candidate that turns out malformed – a begin line not ending in five dashes, no matching
end line, an end line with another type or followed by more than blanks, Base64 that does
not decode – is skipped, and the search goes on after its begin marker. Base64 inside a
block may be broken by newlines, blanks and tabs. When headers run to the end of the input
no block is found at all.

* `TopicBridge.Tls.decodePem`, `TopicBridge.Tls.pemBlocks`.
-/

namespace TopicBridge.Tls

open TopicBridge.Text

/-- One decoded PEM block. -/
structure PemBlock where
  /-- The type named on the begin line. -/
  type : String
  /-- The header lines, as key and value. -/
  headers : List (String × String)
  /-- The decoded content. -/
  bytes : ByteArray

/-- The marker of a begin line, with the newline before it. -/
def pemStart : Octets := octets "\n-----BEGIN "

/-- The marker of an end line, with the newline before it. -/
def pemEnd : Octets := octets "\n-----END "

/-- The five dashes closing a marker line. -/
def pemDashes : Octets := octets "-----"

/-- Drops blanks and tabs at the end. -/
def trimBlanksTabs (s : Octets) : Octets :=
  (s.reverse.dropWhile fun c => c == ' ' || c == '\t').reverse

/-- Drops white space at both ends. -/
def trimAsciiSpace (s : Octets) : Octets :=
  let sp (c : Char) : Bool := c == ' ' || c == '\t' || c == '\n' || c == '\r' || c == '\x0b' || c == '\x0c'
  ((s.dropWhile sp).reverse.dropWhile sp).reverse

/-- The first line, without its line end and trailing blanks and tabs, and what follows
the line end. -/
def getLine (d : Octets) : Octets × Octets :=
  match d.idxOf? '\n' with
  | some i =>
    let line := d.take i
    let line := if line.getLast? == some '\r' then line.dropLast else line
    (trimBlanksTabs line, d.drop (i + 1))
  | none => (trimBlanksTabs d, [])

/-- Whether a text ends with a run of bytes. -/
def endsWith (s pat : Octets) : Bool := startsWith s.reverse pat.reverse

/-- Reads header lines: the headers and the rest, or `none` when the input ends first. -/
def readHeaders : Octets → List (String × String) → Nat → Option (List (String × String) × Octets)
  | _, _, 0 => none
  | rest, acc, fuel + 1 =>
    if rest.isEmpty then none
    else
      let (line, next) := getLine rest
      match cutAt line ':' with
      | (_, none) => some (acc, rest)
      | (k, some v) => readHeaders next (acc ++ [(ofOctets (trimAsciiSpace k), ofOctets (trimAsciiSpace v))]) fuel

/-- Base64 text with line ends, blanks and tabs removed, decoded. -/
def decodeArmoured (s : Octets) : Option ByteArray :=
  Base64.decode? (String.ofList (s.filter fun c => c != ' ' && c != '\t' && c != '\n' && c != '\r'))

/-- What a candidate block after a begin marker gives: a block and the rest, or the
rest to search on from. -/
def readBlock (rest : Octets) : Except Octets (PemBlock × Octets) ⊕ Unit :=
  let (typeLine, rest) := getLine rest
  if !endsWith typeLine pemDashes then .inl (.error rest)
  else
    let typeLine := typeLine.take (typeLine.length - pemDashes.length)
    match readHeaders rest [] (rest.length + 1) with
    | none => .inr ()
    | some (headers, rest) =>
      let ends : Option (Nat × Nat) :=
        if headers.isEmpty && startsWith rest (pemEnd.drop 1) then some (0, pemEnd.length - 1)
        else (findRun rest pemEnd).map fun i => (i, i + pemEnd.length)
      match ends with
      | none => .inl (.error rest)
      | some (endIndex, trailerIndex) =>
        let trailer := rest.drop trailerIndex
        let trailerLen := typeLine.length + pemDashes.length
        if trailer.length < trailerLen then .inl (.error rest)
        else
          let restOfEndLine := trailer.drop trailerLen
          let trailer := trailer.take trailerLen
          if !startsWith trailer typeLine || !endsWith trailer pemDashes then .inl (.error rest)
          else if !(getLine restOfEndLine).1.isEmpty then .inl (.error rest)
          else
            match decodeArmoured (rest.take endIndex) with
            | none => .inl (.error rest)
            | some bytes =>
              let after := (getLine (rest.drop (endIndex + pemEnd.length - 1))).2
              .inl (.ok (⟨ofOctets typeLine, headers, bytes⟩, after))

/-- Searches for the next well-formed block, trying at most `fuel` candidates. -/
def searchPem : Octets → Nat → Option (PemBlock × Octets)
  | _, 0 => none
  | rest, fuel + 1 =>
    let after : Option Octets :=
      if startsWith rest (pemStart.drop 1) then some (rest.drop (pemStart.length - 1))
      else (findRun rest pemStart).map fun i => rest.drop (i + pemStart.length)
    match after with
    | none => none
    | some after =>
      match readBlock after with
      | .inr () => none
      | .inl (.ok r) => some r
      | .inl (.error rest) => searchPem rest fuel

/-- The first PEM block of a text and what follows it. -/
def decodePem (data : Octets) : Option (PemBlock × Octets) := searchPem data (data.length + 1)

/-- All PEM blocks of a text, in order, stopping at the first place none is found. -/
def pemBlocksFuel : Octets → Nat → List PemBlock
  | _, 0 => []
  | data, fuel + 1 =>
    if data.isEmpty then []
    else
      match decodePem data with
      | none => []
      | some (b, rest) => b :: pemBlocksFuel rest fuel

/-- All PEM blocks of some bytes, in order. -/
def pemBlocks (data : ByteArray) : List PemBlock :=
  pemBlocksFuel (octetsOfBytes data) (data.size + 1)

end TopicBridge.Tls
