import TopicBridge.Time.Instant

/-!
# Dates and times of day as written

A **stamp** is a calendar date and a time of day, to the nanosecond, as read in some
zone: UTC itself, the zone of the machine (which is UTC), or a zone known only by its
offset from UTC. The fields are the wall clock of that zone, so they are exactly the ones
written.

A stamp has two texts:
* its **plain text**, `2001-12-14 21:59:43.1 -0500 -0500`: the date, the time with the
  fraction of the second up to its last non-zero digit, the offset, and the zone's name –
  `UTC` for UTC and the machine, the offset again for a zone without a name;
* its **source text**, `time.Date(2001, time.December, 14, 21, 59, 43, 100000000,
  time.Location(""))`, naming the zone `time.UTC`, `time.Local` or a location without a
  name.

* `TopicBridge.Time.Stamp.text`, `TopicBridge.Time.Stamp.sourceText`.
-/

namespace TopicBridge.Time

/-- The zone a stamp is read in. -/
inductive StampZone where
  /-- Coordinated universal time. -/
  | utc
  /-- The zone of the machine: UTC, under its own name. -/
  | machine
  /-- A zone without a name, `seconds` east of UTC. -/
  | offset (seconds : Int)
  deriving Repr, DecidableEq, Inhabited

/-- A date and time of day in a zone. -/
structure Stamp where
  /-- The year, from 0 to 9999. -/
  year : Nat
  /-- The month, from 1. -/
  month : Nat
  /-- The day of the month, from 1. -/
  day : Nat
  /-- The hour, from 0 to 23. -/
  hour : Nat := 0
  /-- The minute. -/
  minute : Nat := 0
  /-- The second. -/
  second : Nat := 0
  /-- The nanoseconds into the second. -/
  nanos : Nat := 0
  /-- The zone. -/
  zone : StampZone := .utc
  deriving Repr, DecidableEq, Inhabited

/-- The offset of a zone east of UTC, in seconds. -/
def StampZone.seconds : StampZone → Int
  | .offset s => s
  | _ => 0

/-- The offset of a zone as a sign, hours and minutes: `-0500`. -/
def StampZone.numeric (z : StampZone) : String :=
  let minutes := z.seconds / 60
  (if minutes < 0 then "-" else "+") ++ padded (minutes.natAbs / 60) 2 ++ padded (minutes.natAbs % 60) 2

/-- The name of a zone: `UTC` for UTC and the machine, the offset for a zone without one. -/
def StampZone.name (z : StampZone) : String :=
  match z with
  | .offset _ => z.numeric
  | _ => "UTC"

/-- The names of the months. -/
def monthNames : List String :=
  ["January", "February", "March", "April", "May", "June", "July", "August", "September",
    "October", "November", "December"]

/-- The plain text of a stamp: `2001-12-14 21:59:43.1 -0500 -0500`. -/
def Stamp.text (t : Stamp) : String :=
  padded t.year 4 ++ "-" ++ padded t.month 2 ++ "-" ++ padded t.day 2 ++ " " ++ padded t.hour 2 ++
    ":" ++ padded t.minute 2 ++ ":" ++ padded t.second 2 ++ fractionText t.nanos ++ " " ++
    t.zone.numeric ++ " " ++ t.zone.name

/-- The source text of a zone. -/
def StampZone.sourceText : StampZone → String
  | .utc => "time.UTC"
  | .machine => "time.Local"
  | .offset _ => "time.Location(\"\")"

/-- The source text of a stamp: `time.Date(2024, time.January, 1, 0, 0, 0, 0, time.UTC)`. -/
def Stamp.sourceText (t : Stamp) : String :=
  let month := match monthNames[t.month - 1]? with
    | some m => "time." ++ m
    | none => toString t.month
  "time.Date(" ++ ", ".intercalate [toString t.year, month, toString t.day, toString t.hour,
    toString t.minute, toString t.second, toString t.nanos, t.zone.sourceText] ++ ")"

example :
    ({ year := 2001, month := 12, day := 14 } : Stamp).text = "2001-12-14 00:00:00 +0000 UTC" := by
  decide

end TopicBridge.Time
