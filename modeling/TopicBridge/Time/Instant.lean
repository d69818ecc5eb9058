import TopicBridge.Num.Word

/-!
# Instants and their text

An **instant** is a count of nanoseconds from 1970-01-01T00:00:00Z, together with the
offset from UTC, in seconds, that it is written in. Its text is RFC 3339 with the
fraction of the second written only as far as its last non-zero digit, and `Z` for a zero
offset: `2024-01-01T00:00:00.001Z`, `2024-05-01T12:00:00.5+02:00`.

The calendar is the proleptic Gregorian one; the day count of a date comes from the usual
era-based conversion.

* `TopicBridge.Time.Instant.render`, `TopicBridge.Time.Instant.parse?`;
* `TopicBridge.Time.clockStart` – the instant every test clock starts at;
* `TopicBridge.Time.ofMillis` – a count of milliseconds as a 64-bit duration.
-/

namespace TopicBridge.Time

/-- Nanoseconds in one second. -/
def nanosPerSecond : Int := 1000000000

/-- Nanoseconds in one millisecond. -/
def nanosPerMilli : Int := 1000000

/-- A count of milliseconds as a duration in nanoseconds. The product is a 64-bit integer
and wraps around, so a count beyond `9223372036854` comes out as another duration, possibly
not a positive one. -/
def ofMillis (ms : Int) : Int := Num.mul64 ms nanosPerMilli

/-- A point in time with the offset it is written in. -/
structure Instant where
  /-- Nanoseconds since 1970-01-01T00:00:00Z. -/
  nanos : Int := 0
  /-- The offset east of UTC, in seconds. -/
  offset : Int := 0
  deriving Repr, DecidableEq, Inhabited

/-- The same instant written in UTC. -/
def Instant.utc (t : Instant) : Instant := { t with offset := 0 }

/-- The instant `d` nanoseconds later. -/
def Instant.add (t : Instant) (d : Int) : Instant := { t with nanos := t.nanos + d }

/-- Days from 1970-01-01 to a civil date. -/
def daysOfCivil (y : Int) (m d : Nat) : Int :=
  let y := if m ≤ 2 then y - 1 else y
  let era := (if y ≥ 0 then y else y - 399) / 400
  let yoe := y - era * 400
  let mp : Int := if m > 2 then m - 3 else m + 9
  let doy := (153 * mp + 2) / 5 + d - 1
  let doe := yoe * 365 + yoe / 4 - yoe / 100 + doy
  era * 146097 + doe - 719468

/-- The civil date of a day count from 1970-01-01. -/
def civilOfDays (z : Int) : Int × Nat × Nat :=
  let z := z + 719468
  let era := (if z ≥ 0 then z else z - 146096) / 146097
  let doe := z - era * 146097
  let yoe := (doe - doe / 1460 + doe / 36524 - doe / 146096) / 365
  let y := yoe + era * 400
  let doy := doe - (365 * yoe + yoe / 4 - yoe / 100)
  let mp := (5 * doy + 2) / 153
  let d := doy - (153 * mp + 2) / 5 + 1
  let m := if mp < 10 then mp + 3 else mp - 9
  ((if m ≤ 2 then y + 1 else y), m.toNat, d.toNat)

/-- A number written with at least `w` digits. -/
def padded (n : Nat) (w : Nat) : String :=
  let s := toString n
  String.ofList (List.replicate (w - s.length) '0') ++ s

/-- The fraction of a second, nine digits with trailing zeros dropped, after a point. -/
def fractionText (ns : Nat) : String :=
  if ns = 0 then "" else
  let ds := (padded ns 9).toList.reverse.dropWhile (· == '0') |>.reverse
  "." ++ String.ofList ds

/-- The offset part: `Z`, or a sign with hours and minutes. -/
def offsetText (off : Int) : String :=
  if off = 0 then "Z" else
  let a := off.natAbs / 60
  (if off < 0 then "-" else "+") ++ padded (a / 60) 2 ++ ":" ++ padded (a % 60) 2

/-- The year with four digits, or its sign and digits outside 0–9999. -/
def yearText (y : Int) : String :=
  if y < 0 then "-" ++ padded y.natAbs 4 else padded y.toNat 4

/-- The RFC 3339 text of an instant in its own offset. -/
def Instant.render (t : Instant) : String :=
  let wall := t.nanos + t.offset * nanosPerSecond
  let secs := wall.fdiv nanosPerSecond
  let ns := (wall - secs * nanosPerSecond).toNat
  let days := secs.fdiv 86400
  let sod := (secs - days * 86400).toNat
  let (y, m, d) := civilOfDays days
  yearText y ++ "-" ++ padded m 2 ++ "-" ++ padded d 2 ++ "T" ++ padded (sod / 3600) 2 ++ ":" ++
    padded (sod / 60 % 60) 2 ++ ":" ++ padded (sod % 60) 2 ++ fractionText ns ++ offsetText t.offset

/-- The instant the test clocks start at: 2024-01-01T00:00:00Z. -/
def clockStart : Instant := { nanos := 1704067200 * nanosPerSecond }

/-- The zero instant, 0001-01-01T00:00:00Z. -/
def zeroInstant : Instant := { nanos := daysOfCivil 1 1 1 * 86400 * nanosPerSecond }

/-- The value of a run of decimal digits. -/
def digitsValue (cs : List Char) : Nat := cs.foldl (fun n c => n * 10 + (c.toNat - '0'.toNat)) 0

/-- Whether all characters are decimal digits and there is at least one. -/
def allDigits (cs : List Char) : Bool := !cs.isEmpty && cs.all Char.isDigit

/-- Reads an RFC 3339 instant such as `2024-05-01T14:00:00.123456789+02:00`. -/
def Instant.parse? (s : String) : Option Instant :=
  let cs := s.toList
  let num (a b : Nat) : Option Nat :=
    let part := (cs.drop a).take (b - a)
    if allDigits part && part.length == b - a then some (digitsValue part) else none
  do
    let y ← num 0 4
    let mo ← num 5 7
    let d ← num 8 10
    let h ← num 11 13
    let mi ← num 14 16
    let se ← num 17 19
    unless cs.getD 4 ' ' == '-' && cs.getD 7 ' ' == '-' && (cs.getD 10 ' ' == 'T' || cs.getD 10 ' ' == 't')
      && cs.getD 13 ' ' == ':' && cs.getD 16 ' ' == ':' do none
    unless 1 ≤ mo && mo ≤ 12 && 1 ≤ d && d ≤ 31 && h < 24 && mi < 60 && se < 60 do none
    let rest := cs.drop 19
    let (frac, rest) :=
      if rest.head? == some '.' then
        let ds := (rest.drop 1).takeWhile Char.isDigit
        (ds, (rest.drop 1).dropWhile Char.isDigit)
      else ([], rest)
    let fracNs := digitsValue ((frac ++ List.replicate 9 '0').take 9)
    let off ← match rest with
      | ['Z'] | ['z'] => some (0 : Int)
      | [sg, h1, h2, ':', m1, m2] =>
        if (sg == '+' || sg == '-') && allDigits [h1, h2, m1, m2] then
          let v : Int := (digitsValue [h1, h2] * 60 + digitsValue [m1, m2]) * 60
          some (if sg == '-' then -v else v)
        else none
      | _ => none
    let days := daysOfCivil y mo d
    let localSecs := days * 86400 + h * 3600 + mi * 60 + se
    pure { nanos := (localSecs - off) * nanosPerSecond + fracNs, offset := off }

end TopicBridge.Time
