import TopicBridge.Tls.Der

/-!
# Reading DER against a layout

Keys are read by matching their DER bytes against a **layout**: integers (of at most 64
bits, or of any size), octet strings, bit strings, object identifiers, any element at all,
records of fields in order, and lists of one layout. A field may be **optional** – absent
when the content has run out or when the next element has another tag – and may be
wrapped in an **explicit** context tag.

Reading checks what a strict DER reader checks – element headers in the shortest form,
lengths that fit, integers in the fewest bytes, well-formed object identifiers and bit
strings – and fails with the reader's own words. A record may be followed by more
elements than it names; they are skipped. A mismatched tag names the tag expected, the
header found, the layout's name and the position reached, as in
`tags don't match (16 vs {class:0 tag:2 length:1 isCompound:false}) {…} pkcs8 @2`.

The result is a tree of what was read: the content of each plain element (the whole
element, header included, where any element would do), and for a record or a list the
results of its parts, absent optional fields included as nothing.

* `TopicBridge.Tls.Layout`, `TopicBridge.Tls.readLayout`.
-/

namespace TopicBridge.Tls

/-- The shape of a value in DER. -/
inductive Layout where
  /-- An integer of at most 64 bits. -/
  | word
  /-- An integer of any size. -/
  | bigInteger
  /-- An octet string. -/
  | octets
  /-- An object identifier. -/
  | oid
  /-- A bit string. -/
  | bits
  /-- Any one element. -/
  | anything
  /-- A sequence of fields, with a name; each field is optional or not, and may be wrapped
  in the explicit context tag of that number. -/
  | record (name : String) (fields : List (Layout × Bool × Option Nat))
  /-- A sequence of any number of values of one layout. -/
  | listOf (item : Layout)

/-- What reading gives. -/
inductive Reading where
  /-- The content of a plain element; the whole element where any element would do. -/
  | leaf (content : List UInt8)
  /-- The parts of a record or a list; an absent optional field is nothing. -/
  | node (parts : List (Option Reading))
  deriving Repr, Inhabited

namespace Layout

/-- The name a layout is reported by. -/
def name : Layout → String
  | .word => "int"
  | .oid => "ObjectIdentifier"
  | .bits => "BitString"
  | .anything => "RawValue"
  | .record n _ => n
  | _ => ""

/-- The universal tag number a layout expects. -/
def tagNumber : Layout → Nat
  | .word | .bigInteger => 2
  | .bits => 3
  | .octets => 4
  | .oid => 6
  | .anything => 0
  | .record .. | .listOf _ => 16

/-- Whether a layout expects a constructed element. -/
def constructed : Layout → Bool
  | .record .. | .listOf _ => true
  | _ => false

end Layout

/-- A structure error's text. -/
def structureError (s : String) : String := "asn1: structure error: " ++ s

/-- A syntax error's text. -/
def syntaxError (s : String) : String := "asn1: syntax error: " ++ s

/-- An element header: class, whether constructed, tag number and content length. -/
structure Header where
  /-- The class: 0 universal, 1 application, 2 context, 3 private. -/
  cls : Nat
  /-- Whether the element is constructed. -/
  compound : Bool
  /-- The tag number. -/
  tag : Nat
  /-- The content length. -/
  length : Nat

/-- The header's text, as in `{class:0 tag:2 length:1 isCompound:false}`. -/
def Header.text (h : Header) : String :=
  "\x7bclass:" ++ toString h.cls ++ " tag:" ++ toString h.tag ++ " length:" ++ toString h.length ++
    " isCompound:" ++ toString h.compound ++ "\x7d"

/-- The text of the marks of a field that is neither optional nor tagged. -/
def plainMarksText : String :=
  "\x7boptional:false explicit:false application:false private:false defaultValue:<nil> " ++
    "tag:<nil> stringType:0 timeType:0 set:false omitEmpty:false\x7d"

/-- Reads a base-128 number from position `i` on: its value and the position after it. -/
def readBase128 (bs : List UInt8) (i : Nat) : Except String (Nat × Nat) :=
  let rec go : Nat → Nat → Nat → Nat → Except String (Nat × Nat)
    | 0, _, _, _ => .error (syntaxError "truncated base 128 integer")
    | fuel + 1, j, shifted, acc =>
      if j ≥ bs.length then .error (syntaxError "truncated base 128 integer")
      else if shifted == 5 then .error (structureError "base 128 integer too large")
      else
        let b := (bs.getD j 0).toNat
        if shifted == 0 && b == 0x80 then .error (syntaxError "integer is not minimally encoded")
        else
          let acc := acc * 128 + b % 128
          if b < 0x80 then
            if acc > Nat.pow 2 31 - 1 then .error (structureError "base 128 integer too large") else .ok (acc, j + 1)
          else go fuel (j + 1) (shifted + 1) acc
  go (bs.length + 1) i 0 0

/-- Reads the length bytes of a header from position `i` on. -/
def readLengthAt (bs : List UInt8) (i : Nat) : Except String (Nat × Nat) :=
  if i ≥ bs.length then .error (syntaxError "truncated tag or length")
  else
    let b := (bs.getD i 0).toNat
    if b < 0x80 then .ok (b, i + 1)
    else
      let count := b % 128
      if count == 0 then .error (syntaxError "indefinite length found (not DER)")
      else
        let rec go : Nat → Nat → Nat → Except String (Nat × Nat)
          | 0, j, acc => if acc < 0x80 then .error (structureError "non-minimal length") else .ok (acc, j)
          | k + 1, j, acc =>
            if j ≥ bs.length then .error (syntaxError "truncated tag or length")
            else if acc ≥ Nat.pow 2 23 then .error (structureError "length too large")
            else
              let acc := acc * 256 + (bs.getD j 0).toNat
              if acc == 0 then .error (structureError "superfluous leading zeros in length")
              else go k (j + 1) acc
        go count (i + 1) 0

/-- Reads an element header at position `i`: the header and the position of the content. -/
def readHeader (bs : List UInt8) (i : Nat) : Except String (Header × Nat) := do
  let b := (bs.getD i 0).toNat
  let (tag, j) ← if b % 32 == 31 then do
      let (t, j) ← readBase128 bs (i + 1)
      if t < 31 then throw (syntaxError "non-minimal tag")
      pure (t, j)
    else pure (b % 32, i + 1)
  let (length, k) ← readLengthAt bs j
  return ({ cls := b / 64, compound := b / 32 % 2 == 1, tag, length }, k)

/-- Checks the content of an integer: not empty, and in the fewest bytes. -/
def checkIntegerContent (c : List UInt8) : Except String Unit :=
  match c with
  | [] => .error (structureError "empty integer")
  | b0 :: b1 :: _ =>
    if (b0 == 0 && b1 &&& 0x80 == 0) || (b0 == 0xff && b1 &&& 0x80 == 0x80) then
      .error (structureError "integer not minimally-encoded")
    else .ok ()
  | [_] => .ok ()

/-- Checks the content of an object identifier. -/
def checkOidContent (c : List UInt8) : Except String Unit := do
  if c.isEmpty then throw (syntaxError "zero length OBJECT IDENTIFIER")
  let rec go : Nat → Nat → Except String Unit
    | 0, _ => .ok ()
    | fuel + 1, i => if i ≥ c.length then .ok () else do
      let (_, j) ← readBase128 c i
      go fuel j
  go (c.length + 1) 0

/-- Checks the content of a bit string. -/
def checkBitsContent (c : List UInt8) : Except String Unit :=
  match c with
  | [] => .error (syntaxError "zero length BIT STRING")
  | pad :: rest =>
    let last := (rest.getLast?.getD pad).toNat
    if pad > 7 || (rest.isEmpty && pad > 0) || last % Nat.pow 2 pad.toNat != 0 then
      .error (syntaxError "invalid padding bits in BIT STRING")
    else .ok ()

mutual

/-- Reads one field of layout `l` at position `i` of `bs`: what it gives and the position
after it. An optional field that is absent gives nothing and leaves the position. -/
def readField : Nat → Layout → Bool → Option Nat → List UInt8 → Nat →
    Except String (Option Reading × Nat)
  | 0, _, _, _, _, _ => .error (structureError "nesting too deep")
  | fuel + 1, l, optional, explicit, bs, i =>
    if i == bs.length then
      if optional then .ok (none, i) else .error (syntaxError "sequence truncated")
    else do
      let (h, j) ← readHeader bs i
      -- an explicit tag wraps the element
      let unwrapped : Except String (Option (Header × Nat)) :=
        match explicit with
        | none => .ok (some (h, j))
        | some n =>
          if j == bs.length then .error (structureError "explicit tag has no child")
          else if h.cls == 2 && h.tag == n && (h.length == 0 || h.compound) then
            if h.length > 0 then (some ·) <$> readHeader bs j
            else .error (structureError "zero length explicit tag was not an asn1.Flag")
          else if optional then .ok none
          else .error (structureError "explicitly tagged member didn\x27t match")
      match ← unwrapped with
      | none => return (none, i)
      | some (h, j) =>
        let any := match l with
          | .anything => true
          | _ => false
        if !any && (h.cls != 0 || h.tag != l.tagNumber || h.compound != l.constructed) then
          if optional then return (none, i)
          throw (structureError ("tags don\x27t match (" ++ toString l.tagNumber ++ " vs " ++ h.text ++ ") " ++
            plainMarksText ++ " " ++ l.name ++ " @" ++ toString j))
        if j + h.length > bs.length then throw (syntaxError "data truncated")
        let content := (bs.drop j).take h.length
        let after := j + h.length
        match l with
        | .word =>
          checkIntegerContent content
          if content.length > 8 then throw (structureError "integer too large")
          return (some (.leaf content), after)
        | .bigInteger => checkIntegerContent content; return (some (.leaf content), after)
        | .oid => checkOidContent content; return (some (.leaf content), after)
        | .bits => checkBitsContent content; return (some (.leaf content), after)
        | .octets => return (some (.leaf content), after)
        | .anything => return (some (.leaf ((bs.drop i).take (after - i))), after)
        | .record _ fields =>
          let parts ← readFields fuel fields content 0
          return (some (.node parts), after)
        | .listOf item =>
          checkListHeaders fuel item content 0
          let parts ← readItems fuel item content 0
          return (some (.node parts), after)

/-- Reads the fields of a record from position `i` on; what follows them is skipped. -/
def readFields : Nat → List (Layout × Bool × Option Nat) → List UInt8 → Nat →
    Except String (List (Option Reading))
  | 0, _, _, _ => .error (structureError "nesting too deep")
  | _, [], _, _ => .ok []
  | fuel + 1, (l, optional, explicit) :: rest, bs, i => do
    let (r, j) ← readField fuel l optional explicit bs i
    return r :: (← readFields fuel rest bs j)

/-- Checks that the elements of a list from position `i` on all have the item's tag and
fit. -/
def checkListHeaders : Nat → Layout → List UInt8 → Nat → Except String Unit
  | 0, _, _, _ => .error (structureError "nesting too deep")
  | fuel + 1, item, bs, i =>
    if i ≥ bs.length then .ok () else do
      let (h, j) ← readHeader bs i
      let any := match item with
        | .anything => true
        | _ => false
      if !any && (h.cls != 0 || h.compound != item.constructed || h.tag != item.tagNumber) then
        throw (structureError "sequence tag mismatch")
      if j + h.length > bs.length then throw (syntaxError "truncated sequence")
      checkListHeaders fuel item bs (j + h.length)

/-- Reads the items of a list from position `i` on. -/
def readItems : Nat → Layout → List UInt8 → Nat → Except String (List (Option Reading))
  | 0, _, _, _ => .error (structureError "nesting too deep")
  | fuel + 1, item, bs, i =>
    if i ≥ bs.length then .ok [] else do
      let (r, j) ← readField fuel item false none bs i
      if j ≤ i then return [r]
      return r :: (← readItems fuel item bs j)

end

/-- Reads bytes against a layout: what they give and the bytes after the value. -/
def readLayout (l : Layout) (bs : List UInt8) : Except String (Reading × List UInt8) := do
  let (r, j) ← readField (2 * bs.length + 8) l false none bs 0
  match r with
  | some r => return (r, bs.drop j)
  | none => throw (syntaxError "sequence truncated")

/-- The part at a position of a reading. -/
def Reading.part (r : Reading) (i : Nat) : Option Reading :=
  match r with
  | .node parts => (parts[i]?).getD none
  | .leaf _ => none

/-- The content of a reading's part, when it is a plain element. -/
def Reading.contentAt (r : Reading) (i : Nat) : Option (List UInt8) :=
  match r.part i with
  | some (.leaf c) => some c
  | _ => none

end TopicBridge.Tls
