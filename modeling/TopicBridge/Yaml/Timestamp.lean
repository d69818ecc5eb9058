import TopicBridge.Time.Stamp

/-!
# YAML timestamps

A plain scalar that starts with four digits and a dash is tried as a **timestamp**, in
these forms, where the month, day, hour, minute and second have one or two digits:
* `2001-12-14T21:59:43.10-05:00` or with a lowercase `t`: a date and a time of day, a
  fraction of the second after a point or a comma (more than nine digits are cut), and a
  zone – `Z`, or a sign with hours up to 24 and minutes up to 60 written `hh:mm`;
* `2001-12-14 21:59:43.10`: a date and a time of day after one or more spaces, in UTC;
* `2001-12-14`: a date alone, at midnight UTC.

The date must exist. A zone written as an offset of zero is the zone of the machine; any
other offset is a zone without a name.

* `TopicBridge.Yaml.parseTimestamp?`.
-/

namespace TopicBridge.Yaml

open TopicBridge.Time

/-- The value of a decimal digit. -/
def digitOf (c : Char) : Nat := c.toNat - '0'.toNat

/-- One or two digits at the start: their value and the rest. -/
def shortNumber? : List Char → Option (Nat × List Char)
  | a :: b :: rest =>
    if !a.isDigit then none
    else if b.isDigit then some (digitOf a * 10 + digitOf b, rest)
    else some (digitOf a, b :: rest)
  | [a] => if a.isDigit then some (digitOf a, []) else none
  | [] => none

/-- The rest after a given character at the start. -/
def afterChar? (c : Char) : List Char → Option (List Char)
  | d :: rest => if c == d then some rest else none
  | [] => none

/-- Whether a year is a leap year. -/
def isLeapYear (y : Nat) : Bool := y % 4 == 0 && (y % 100 != 0 || y % 400 == 0)

/-- The number of days of a month. -/
def daysOfMonth (year month : Nat) : Nat :=
  match month with
  | 2 => if isLeapYear year then 29 else 28
  | 4 | 6 | 9 | 11 => 30
  | _ => 31

/-- Reads a date `yyyy-m-d`: year, month, day and the rest. -/
def readDate? (cs : List Char) : Option ((Nat × Nat × Nat) × List Char) := do
  let year := cs.take 4
  if !(year.length == 4 && year.all Char.isDigit) then none
  let rest ← afterChar? '-' (cs.drop 4)
  let (month, rest) ← shortNumber? rest
  if month < 1 || month > 12 then none
  let rest ← afterChar? '-' rest
  let (day, rest) ← shortNumber? rest
  pure ((year.foldl (fun n c => n * 10 + digitOf c) 0, month, day), rest)

/-- Reads a fraction of a second: a point or a comma and digits, as nanoseconds; none
read when the text does not start that way. -/
def readFraction (cs : List Char) : Nat × List Char :=
  match cs with
  | c :: d :: rest =>
    if (c == '.' || c == ',') && d.isDigit then
      let ds := d :: rest.takeWhile Char.isDigit
      let kept := ds.take 9
      (kept.foldl (fun n c => n * 10 + digitOf c) 0 * Nat.pow 10 (9 - kept.length), (d :: rest).drop ds.length)
    else (0, cs)
  | _ => (0, cs)

/-- Reads a time of day `h:m:s` with an optional fraction: hour, minute, second,
nanoseconds and the rest. -/
def readClock? (cs : List Char) : Option ((Nat × Nat × Nat × Nat) × List Char) := do
  let (hour, rest) ← shortNumber? cs
  if hour ≥ 24 then none
  let rest ← afterChar? ':' rest
  let (minute, rest) ← shortNumber? rest
  if minute ≥ 60 then none
  let rest ← afterChar? ':' rest
  let (second, rest) ← shortNumber? rest
  if second ≥ 60 then none
  let (nanos, rest) := readFraction rest
  pure ((hour, minute, second, nanos), rest)

/-- Reads a zone that must end the text: `Z`, or `±hh:mm`. -/
def readZone? : List Char → Option StampZone
  | ['Z'] => some .utc
  | [sign, h1, h2, ':', m1, m2] =>
    if !([h1, h2, m1, m2].all Char.isDigit) then none
    else
      let hours := digitOf h1 * 10 + digitOf h2
      let minutes := digitOf m1 * 10 + digitOf m2
      if hours > 24 || minutes > 60 then none
      else
        let seconds : Int := (hours * 60 + minutes) * 60
        let seconds := if sign == '-' then some (-seconds) else if sign == '+' then some seconds else none
        seconds.map fun s => if s == 0 then .machine else .offset s
  | _ => none

/-- The stamp of a date, a time of day and a zone, when the date exists. -/
def stampOf? (date : Nat × Nat × Nat) (clock : Nat × Nat × Nat × Nat) (zone : StampZone) :
    Option Stamp :=
  let (year, month, day) := date
  let (hour, minute, second, nanos) := clock
  if day < 1 || day > daysOfMonth year month then none
  else some { year, month, day, hour, minute, second, nanos, zone }

/-- The timestamp a text stands for, if it has one of the timestamp forms. -/
def parseTimestamp? (s : String) : Option Stamp := do
  let cs := s.toList
  if !((cs.take 4).all Char.isDigit && cs.getD 4 ' ' == '-') then none
  let (date, rest) ← readDate? cs
  match rest with
  | [] => stampOf? date (0, 0, 0, 0) .utc
  | sep :: more =>
    if sep == 'T' || sep == 't' then
      let (clock, rest) ← readClock? more
      stampOf? date clock (← readZone? rest)
    else if sep == ' ' then
      let (clock, rest) ← readClock? (more.dropWhile (· == ' '))
      if !rest.isEmpty then none
      stampOf? date clock .utc
    else none

example :
    parseTimestamp? "2001-12-14" = some { year := 2001, month := 12, day := 14 } := by decide

end TopicBridge.Yaml
