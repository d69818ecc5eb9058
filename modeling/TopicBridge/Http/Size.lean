import TopicBridge.Num.Double
/-!
# Sizes in bytes

A **size** is written as a decimal number, an optional blank, and a unit:
* a **binary** unit – a letter `K`, `M`, `G`, `T`, `P` or `E`, then `i`, then an optional
  `B` – scales by 1024 to the power the letter stands for (one for `K`, six for `E`);
* a **decimal** unit – the letter alone or followed by `B` – scales by 1000 to that power;
* no unit, or `B` alone, counts bytes.

Letters are matched without regard to case. The number is an optional `-`, digits, and an
optional point followed by digits. It is read as a double, multiplied by the scale as a
double, and truncated to a signed 64-bit integer; a number too large for a double is
refused.

The Kelvin sign matches `K` when case is ignored, but it is its own upper case, so it names
no multiple: `5K` is five bytes.

* `TopicBridge.Http.parseSize`.
-/

namespace TopicBridge.Http

open TopicBridge.Num

/-- The power a unit letter raises the base to: `K` one up to `E` six, in either case. The
Kelvin sign is accepted as a `K` but scales by one. -/
def unitPower? (c : Char) : Option Nat :=
  if c = '\u212A' then some 0 else
  match c.toUpper with
  | 'K' => some 1
  | 'M' => some 2
  | 'G' => some 3
  | 'T' => some 4
  | 'P' => some 5
  | 'E' => some 6
  | _ => none

/-- Whether a character is the letter of a binary unit. -/
def isBinaryMark (c : Char) : Bool := c == 'i' || c == 'I'

/-- Whether a character is the byte letter. -/
def isByteMark (c : Char) : Bool := c == 'b' || c == 'B'

/-- The scale a unit stands for: the base and its power. -/
def unitScale? : List Char → Option (Nat × Nat)
  | [] => some (1000, 0)
  | [c] => if isByteMark c then some (1000, 0) else (unitPower? c).map fun p => (1000, p)
  | [c, d] =>
    if isBinaryMark d then (unitPower? c).map fun p => (1024, p)
    else if isByteMark d then (unitPower? c).map fun p => (1000, p)
    else none
  | [c, d, e] =>
    if isBinaryMark d && isByteMark e then (unitPower? c).map fun p => (1024, p) else none
  | _ => none

/-- The characters that may stand between the number and the unit. -/
def isSizeBlank (c : Char) : Bool := c == ' ' || c == '\t' || c == '\n' || c == '\r' || c == '\x0c'

/-- Splits a size into the digits before the point, the digits after it, and the rest. -/
def splitNumber (cs : List Char) : List Char × List Char × List Char :=
  let whole := cs.takeWhile Char.isDigit
  let rest := cs.dropWhile Char.isDigit
  match rest with
  | '.' :: more =>
    let frac := more.takeWhile Char.isDigit
    if frac.isEmpty then (whole, [], rest) else (whole, frac, more.dropWhile Char.isDigit)
  | _ => (whole, [], rest)

/-- The value of a run of decimal digits. -/
def digitRunValue (cs : List Char) : Nat := cs.foldl (fun n c => n * 10 + (c.toNat - '0'.toNat)) 0

/-- The number of bytes a size stands for, or nothing when the text is not a size. -/
def parseSize (s : String) : Option Int :=
  let (neg, cs) := match s.toList with
    | '-' :: rest => (true, rest)
    | cs => (false, cs)
  let (whole, frac, rest) := splitNumber cs
  if whole.isEmpty then none else
  let scale := match rest with
    | c :: more => if isSizeBlank c then unitScale? more else unitScale? rest
    | [] => unitScale? []
  match scale with
  | none => none
  | some (base, power) =>
    match Double.ofDecimal neg (digitRunValue (whole ++ frac)) (-(frac.length : Int)) with
    | .finite n m q => some (Double.toInt64 (Double.mul (.finite n m q) (Double.ofNat (Nat.pow base power))))
    | _ => none

example : parseSize "1K" = some 1000 := by decide

end TopicBridge.Http
