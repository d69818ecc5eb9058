import TopicBridge.Yaml.Value
import TopicBridge.Yaml.Timestamp
import TopicBridge.Num.Literal
/-!
# Resolving YAML scalars

A plain scalar without a tag is **resolved** by its text:
* `true True TRUE`, `false False FALSE` are booleans, and `~ null Null NULL` and the
  empty text are nothing;
* `.inf`, `+.inf`, `-.inf` and `.nan` (in the same three spellings) are doubles;
* a text starting with a digit or a sign is first tried as a timestamp
  (`TopicBridge.Yaml.parseTimestamp?`) when it has no tag or the tag `!!timestamp`. Then,
  once its underscores are dropped, it is an integer in the base its prefix chooses (`0x`,
  `0o`, `0b`, a bare `0` for octal). If it is too large for a signed 64-bit integer, it is
  tried as an unsigned one. Otherwise, when it has the decimal form
  `[-+]?(.d+|d+(.d*)?)([eE][-+]?d+)?`, it is a double, provided the double is finite.
  Last, a binary or octal integer may carry its sign after the prefix (`0b-101`,
  `0o+17`), and one after `-0b` or `-0o` is negative;
* a text starting with `.` is a double when it has that decimal form;
* anything else, `yes` and `on` included, is a text.

A tag decides instead: `!!str` keeps the text, and `!!int`, `!!bool`, `!!float`, `!!null`
and `!!timestamp` require the resolution to agree (an integer may stand for a double). Any
other tag, `!!binary` among it, keeps the text as it is.

* `TopicBridge.Yaml.resolve`, `TopicBridge.Yaml.shortTag`.
-/

namespace TopicBridge.Yaml

open TopicBridge.Num

/-- The prefix of the standard tags. -/
def longTagPrefix : String := "tag:yaml.org,2002:"

/-- A standard tag written short: `tag:yaml.org,2002:str` becomes `!!str`. -/
def shortTag (t : String) : String :=
  if t.startsWith longTagPrefix then "!!" ++ String.ofList (t.toList.drop longTagPrefix.length) else t

/-- The tags resolution knows. -/
def strTag : String := "!!str"
/-- The boolean tag. -/
def boolTag : String := "!!bool"
/-- The integer tag. -/
def intTag : String := "!!int"
/-- The double tag. -/
def floatTag : String := "!!float"
/-- The tag of nothing. -/
def nullTag : String := "!!null"
/-- The tag of dates. -/
def timestampTag : String := "!!timestamp"
/-- The tag of sequences. -/
def seqTag : String := "!!seq"
/-- The tag of mappings. -/
def mapTag : String := "!!map"
/-- The tag of merge keys `<<`. -/
def mergeTag : String := "!!merge"
/-- The tag of base64 data. -/
def binaryTag : String := "!!binary"

/-- Whether resolution looks at scalars of a tag. -/
def resolvable (t : String) : Bool :=
  [ "", strTag, boolTag, intTag, floatTag, timestampTag, nullTag ].contains t

/-- The fixed spellings and what they stand for. -/
def fixedSpellings : List (String × String × Value) :=
  (["true", "True", "TRUE"].map fun s => (s, boolTag, Value.bool true)) ++
  (["false", "False", "FALSE"].map fun s => (s, boolTag, Value.bool false)) ++
  (["", "~", "null", "Null", "NULL"].map fun s => (s, nullTag, Value.null)) ++
  ([".nan", ".NaN", ".NAN"].map fun s => (s, floatTag, Value.float .nan)) ++
  ([".inf", ".Inf", ".INF", "+.inf", "+.Inf", "+.INF"].map fun s => (s, floatTag, Value.float (.inf false))) ++
  (["-.inf", "-.Inf", "-.INF"].map fun s => (s, floatTag, Value.float (.inf true))) ++
  [("<<", mergeTag, Value.str "<<")]

/-- How the first character of a plain scalar hints at its type: `S` sign, `D` digit,
`M` a fixed spelling, `.` a double; `N` for the empty text; none for a plain text. -/
def hint (s : String) : Option Char :=
  match s.toList with
  | [] => some 'N'
  | c :: _ =>
    if c == '+' || c == '-' then some 'S'
    else if c.isDigit then some 'D'
    else if "yYnNtTfFoO~".toList.contains c then some 'M'
    else if c == '.' then some '.'
    else none

/-- The digits of a run, as a number. -/
def digitsValue (ds : List Char) : Nat := ds.foldl (fun n c => n * 10 + (c.toNat - '0'.toNat)) 0

/-- Reads the decimal form `[-+]?(.d+|d+(.d*)?)([eE][-+]?d+)?` as a sign, a digit run and a
power of ten. -/
def decimalForm? (s : String) : Option (Bool × Nat × Int) :=
  let cs := s.toList
  let (neg, cs) := match cs with
    | '-' :: r => (true, r)
    | '+' :: r => (false, r)
    | r => (false, r)
  let whole := cs.takeWhile Char.isDigit
  let cs := cs.drop whole.length
  let (frac, cs, dotOk) := match cs with
    | '.' :: r =>
      let f := r.takeWhile Char.isDigit
      (f, r.drop f.length, !whole.isEmpty || !f.isEmpty)
    | r => ([], r, !whole.isEmpty)
  if !dotOk then none
  else
    let expo : Option Int := match cs with
      | [] => some 0
      | e :: r =>
        if e == 'e' || e == 'E' then
          let (eneg, r) := match r with
            | '-' :: r' => (true, r')
            | '+' :: r' => (false, r')
            | r' => (false, r')
          if !r.isEmpty && r.all Char.isDigit then
            some (if eneg then -(digitsValue r : Int) else digitsValue r)
          else none
        else none
    expo.map fun x => (neg, digitsValue (whole ++ frac), x - frac.length)

/-- A finite double from decimal text, if the text has the decimal form and the value
does not overflow. -/
def readDouble? (s : String) : Option Double :=
  match decimalForm? s with
  | some (neg, m, e) =>
    match Double.ofDecimal neg m e with
    | .inf _ => none
    | x => some x
  | none => none

/-- An integer in base `base` after a prefix, the prefix dropped: a signed 64-bit one, or
else an unsigned one. -/
def prefixedInteger? (digits : String) (base : Nat) : Option Value :=
  match parseSigned digits base 64 with
  | .ok i => some (.int i)
  | .error _ => (parseUnsigned digits base 64).toOption.map .uint

/-- A binary or octal integer whose sign follows the prefix: `0b-101`, `0o+17`, or a
negative one after `-0b` or `-0o`. -/
def signedAfterPrefix? (plain : String) : Option Value :=
  let cs := plain.toList
  let viaPrefix (p : Char) (base : Nat) : Option Value :=
    match cs with
    | '0' :: q :: rest => if q == p then prefixedInteger? (String.ofList rest) base else none
    | '-' :: '0' :: q :: rest =>
      if q == p then (parseSigned (String.ofList ('-' :: rest)) base 64).toOption.map .int else none
    | _ => none
  (viaPrefix 'b' 2).orElse fun _ => viaPrefix 'o' 8

/-- The resolution of a plain text with a hint; `stamps` tells whether it may be a
timestamp. -/
def resolveHinted (h : Char) (s : String) (stamps : Bool) : String × Value :=
  match fixedSpellings.find? (·.1 == s) with
  | some (_, t, v) => (t, v)
  | none =>
    if h == '.' then
      match readDouble? s with
      | some x => (floatTag, .float x)
      | none => (strTag, .str s)
    else if h == 'D' || h == 'S' then
      match (if stamps then parseTimestamp? s else none) with
      | some t => (timestampTag, .time t)
      | none =>
      let plain := String.ofList (s.toList.filter (· != '_'))
      match parseSigned plain 0 64 with
      | .ok i => (intTag, .int i)
      | .error _ =>
        match parseUnsigned plain 0 64 with
        | .ok n => (intTag, .uint n)
        | .error _ =>
          match readDouble? plain with
          | some x => (floatTag, .float x)
          | none =>
            match signedAfterPrefix? plain with
            | some v => (intTag, v)
            | none => (strTag, .str s)
    else (strTag, .str s)

/-- Resolves a scalar's text under a tag: the tag it ends up with and its value. A tag
that contradicts the text fails with a message. -/
def resolve (tag text : String) : Except String (String × Value) :=
  let tag := shortTag tag
  if !resolvable tag then .ok (tag, .str text)
  else
    let (rtag, v) : String × Value :=
      match hint text with
      | some h =>
        if tag != strTag && tag != binaryTag then resolveHinted h text (tag == "" || tag == timestampTag)
        else (strTag, .str text)
      | none => (strTag, .str text)
    if tag == "" || tag == rtag || tag == strTag || tag == binaryTag then .ok (rtag, v)
    else if tag == floatTag && rtag == intTag then
      match v with
      | .int i => .ok (floatTag, .float (if i < 0 then Double.ofRatio true i.natAbs 1 else Double.ofNat i.toNat))
      | _ => .error ("cannot decode " ++ rtag ++ " `" ++ text ++ "` as a " ++ tag)
    else .error ("cannot decode " ++ rtag ++ " `" ++ text ++ "` as a " ++ tag)

example : resolve "" "yes" = .ok (strTag, .str "yes") := rfl

end TopicBridge.Yaml
