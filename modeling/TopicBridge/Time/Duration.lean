import TopicBridge.Num.Double
/-!
# Durations

A **duration** is a signed number of nanoseconds in the 64-bit range.

## Reading

A duration text is an optional sign and one or more **terms**, each a decimal number
with an optional fraction and a unit: `ns`, `us` (also `µs` and `μs`), `ms`, `s`, `m` or
`h` – as in `1h2m3.5s` or `-1.5s`. The text `0` alone, signed or not, is zero. The whole
part of a term counts exactly; its fraction is scaled to the unit in double precision and
truncated. A term or a total beyond `2⁶³` nanoseconds makes the text invalid (exactly
`2⁶³` is allowed for a negative total). Failures read `time: invalid duration "<text>"`,
`time: missing unit in duration "<text>"` or `time: unknown unit "<unit>" in duration
"<text>"`, where the quoted texts show bytes outside printable ASCII as `\x` escapes.

## Writing

A duration of a second or more is written in hours, minutes and seconds (`1h0m0s`,
`2m30.5s`), dropping the leading units that are zero; a shorter one in the largest of
`ms`, `µs` and `ns` that is at least one (`1.5ms`); zero is `0s`. A fraction keeps its
significant digits only, and a negative duration starts with `-`.

* `TopicBridge.Time.parseDuration`, `TopicBridge.Time.durationText`.
-/

namespace TopicBridge.Time

open TopicBridge.Num

/-- The nanoseconds of each unit. -/
def unitNanos : List (String × Nat) :=
  [("ns", 1), ("us", 1000), ("µs", 1000), ("μs", 1000), ("ms", 1000000),
   ("s", 1000000000), ("m", 60000000000), ("h", 3600000000000)]

/-- The lowercase hexadecimal digit of a value below sixteen. -/
def hexDigit (n : Nat) : Char := "0123456789abcdef".toList.getD n '0'

/-- A text between double quotes, with a backslash before `"` and `\`, and every byte of
a character outside printable ASCII written `\xhh`. -/
def quoteBytes (s : String) : String :=
  let body := s.toList.flatMap fun c =>
    if c.toNat ≥ 0x80 || c.toNat < 0x20 then
      (String.singleton c).toUTF8.toList.flatMap fun b => ['\\', 'x', hexDigit (b.toNat / 16), hexDigit (b.toNat % 16)]
    else if c == '"' || c == '\\' then ['\\', c]
    else [c]
  String.ofList ('"' :: body ++ ['"'])

/-- Why a duration text was refused. -/
inductive DurationFault where
  /-- The text is not a duration, or its value does not fit. -/
  | invalid
  /-- A number has no unit. -/
  | missingUnit
  /-- A unit is not one of the known ones. -/
  | unknownUnit (unit : String)
  deriving Repr, DecidableEq

/-- The message of a refused duration text. -/
def DurationFault.message (f : DurationFault) (text : String) : String :=
  match f with
  | .invalid => "time: invalid duration " ++ quoteBytes text
  | .missingUnit => "time: missing unit in duration " ++ quoteBytes text
  | .unknownUnit u => "time: unknown unit " ++ quoteBytes u ++ " in duration " ++ quoteBytes text

/-- The leading digits of a text as a number, failing beyond `2⁶³`. -/
def leadingInt : List Char → Nat → Option (Nat × List Char)
  | [], x => some (x, [])
  | c :: rest, x =>
    if c.isDigit then
      if x > Nat.pow 2 63 / 10 then none
      else
        let x := x * 10 + (c.toNat - '0'.toNat)
        if x > Nat.pow 2 63 then none else leadingInt rest x
    else some (x, c :: rest)

/-- The leading digits of a fraction, as a number and its power of ten; digits beyond
what fits are skipped. -/
def leadingFraction : List Char → Nat → Nat → Bool → Nat × Nat × List Char
  | [], x, scale, _ => (x, scale, [])
  | c :: rest, x, scale, skipping =>
    if !c.isDigit then (x, scale, c :: rest)
    else if skipping then leadingFraction rest x scale true
    else if x > (Nat.pow 2 63 - 1) / 10 then leadingFraction rest x scale true
    else
      let y := x * 10 + (c.toNat - '0'.toNat)
      if y > Nat.pow 2 63 then leadingFraction rest x scale true
      else leadingFraction rest y (scale * 10) false

/-- Whether a character may continue a number. -/
def isNumberChar (c : Char) : Bool := c == '.' || c.isDigit

/-- Reads the terms of a duration text after its sign, adding to the total `d`. -/
def readTerms : List Char → Nat → Nat → Except DurationFault Nat
  | _, _, 0 => .error .invalid
  | [], d, _ => .ok d
  | s@(c :: _), d, fuel + 1 =>
    if !isNumberChar c then .error .invalid
    else
      match leadingInt s 0 with
      | none => .error .invalid
      | some (v, rest) =>
        let pre := rest.length != s.length
        let (f, scale, rest, post) := match rest with
          | '.' :: r =>
            let (f, scale, r') := leadingFraction r 0 1 false
            (f, scale, r', r'.length != r.length)
          | r => (0, 1, r, false)
        if !pre && !post then .error .invalid
        else
          let u := rest.takeWhile fun c => !isNumberChar c
          let rest := rest.drop u.length
          if u.isEmpty then .error .missingUnit
          else
            let unitText := String.ofList u
            match unitNanos.lookup unitText with
            | none => .error (.unknownUnit unitText)
            | some unit =>
              if v > Nat.pow 2 63 / unit then .error .invalid
              else
                let v := v * unit
                let frac : Nat :=
                  if f > 0 then
                    ((Double.ofNat f).mul ((Double.ofNat unit).div (Double.ofNat scale))).trunc?.getD 0 |>.toNat
                  else 0
                let v := v + frac
                if v > Nat.pow 2 63 then .error .invalid
                else
                  -- the total is an unsigned 64-bit sum
                  let d := (d + v) % Nat.pow 2 64
                  if d > Nat.pow 2 63 then .error .invalid
                  else readTerms rest d fuel

/-- Reads a duration text, in nanoseconds. -/
def parseDuration (text : String) : Except DurationFault Int :=
  let cs := text.toList
  let (neg, body) := match cs with
    | '-' :: r => (true, r)
    | '+' :: r => (false, r)
    | r => (false, r)
  if body == ['0'] then .ok 0
  else if body.isEmpty then .error .invalid
  else
    match readTerms body 0 (body.length + 1) with
    | .error e => .error e
    | .ok d =>
      if neg then .ok (-(d : Int))
      else if d > Nat.pow 2 63 - 1 then .error .invalid
      else .ok d

/-- The digits of `v / 10^prec` and the fraction `.ddd` of the rest without trailing
zeros (nothing when the rest is zero). -/
def fractionPart (v prec : Nat) : Nat × String :=
  let whole := v / Nat.pow 10 prec
  let rest := v % Nat.pow 10 prec
  if rest == 0 then (whole, "")
  else
    let ds := Nat.toDigits 10 rest
    let ds := List.replicate (prec - ds.length) '0' ++ ds
    let ds := (ds.reverse.dropWhile (· == '0')).reverse
    (whole, String.ofList ('.' :: ds))

/-- The text of a duration in nanoseconds. -/
def durationText (d : Int) : String :=
  let u := d.natAbs
  let sign := if d < 0 then "-" else ""
  if u == 0 then "0s"
  else if u < 1000000000 then
    let (prec, unit) :=
      if u < 1000 then (0, "ns") else if u < 1000000 then (3, "µs") else (6, "ms")
    let (whole, frac) := fractionPart u prec
    sign ++ toString whole ++ frac ++ unit
  else
    let (secs, frac) := fractionPart u 9
    let s := secs % 60
    let mins := secs / 60
    let tail := toString s ++ frac ++ "s"
    if mins == 0 then sign ++ tail
    else
      let m := mins % 60
      let hours := mins / 60
      let tail := toString m ++ "m" ++ tail
      if hours == 0 then sign ++ tail else sign ++ toString hours ++ "h" ++ tail

example : durationText 0 = "0s" := by decide

end TopicBridge.Time
