import DefectScan.Number.Binary64

/-!
# Dates and times

Days of the calendar and moments of a day, with a distance from universal time or without, and how
they are written. The written form for people has the parts in order of size; the exact form names
every part.
-/

namespace DefectScan

/-- A day. -/
structure Date where
  /-- The year. -/
  year : Nat
  /-- The month, counted from one. -/
  month : Nat
  /-- The day of the month, counted from one. -/
  day : Nat
  deriving DecidableEq, Repr, Inhabited

/-- A moment. -/
structure Moment where
  /-- The day. -/
  date : Date
  /-- The hour. -/
  hour : Nat
  /-- The minute. -/
  minute : Nat
  /-- The second. -/
  second : Nat
  /-- The millionths of a second. -/
  micro : Nat
  /-- The minutes that are to be taken off to get universal time. -/
  zone : Option Int
  deriving DecidableEq, Repr, Inhabited

/-- Whether a year has a leap day. -/
def isLeapYear (year : Nat) : Bool := year % 4 == 0 && (year % 100 != 0 || year % 400 == 0)

/-- The days of a month. -/
def daysOfMonth (year month : Nat) : Nat :=
  match month with
  | 2 => if isLeapYear year then 29 else 28
  | 4 | 6 | 9 | 11 => 30
  | _ => 31

namespace Date

/-- The day with the given parts, or what is wrong with them. -/
def ofParts (year month day : Nat) : Except String Date :=
  if year = 0 then .error "year 0 is out of range"
  else if month = 0 || 12 < month then .error "month must be in 1..12"
  else if day = 0 || daysOfMonth year month < day then .error "day is out of range for month"
  else .ok ⟨year, month, day⟩

/-- The day as it is written. -/
def text (d : Date) : String :=
  let part (width n : Nat) := String.ofList (Number.Binary64.padded width n)
  part 4 d.year ++ "-" ++ part 2 d.month ++ "-" ++ part 2 d.day

/-- The parts of a day between commas. -/
def parts (d : Date) : List String := [toString d.year, toString d.month, toString d.day]

/-- The exact form of a day. -/
def shown (d : Date) : String := "datetime.date(" ++ ", ".intercalate d.parts ++ ")"

end Date

/-- The days of the year before a month. -/
def daysBeforeMonth (year month : Nat) : Nat :=
  ((List.range (month - 1)).map fun m => daysOfMonth year (m + 1)).foldl (· + ·) 0

/-- The number of a day, counted from the first day of the first year. -/
def Date.number (d : Date) : Nat :=
  let years := d.year - 1
  365 * years + years / 4 - years / 100 + years / 400 + daysBeforeMonth d.year d.month + d.day

/-- The exact form of a number of minutes: whole days, and the seconds of the day after them. -/
def shownMinutes (minutes : Int) : String :=
  let days := minutes / 1440
  let seconds := minutes % 1440 * 60
  let parts :=
    (if days = 0 then [] else ["days=" ++ toString days]) ++
      (if seconds = 0 then [] else ["seconds=" ++ toString seconds])
  "datetime.timedelta(" ++ (if parts.isEmpty then "0" else ", ".intercalate parts) ++ ")"

namespace Moment

/-- Check a distance from universal time, which is less than a day. -/
def checkZone (minutes : Int) : Except String Unit :=
  if minutes.natAbs < 1440 then .ok ()
  else
    .error ("offset must be a timedelta strictly between -timedelta(hours=24) and " ++
      "timedelta(hours=24), not " ++ shownMinutes minutes ++ ".")

/-- The moment with the given parts, or what is wrong with them. -/
def ofParts (date : Nat × Nat × Nat) (time : Nat × Nat × Nat) (micro : Nat) (zone : Option Int) :
    Except String Moment := do
  match zone with
  | none => pure ()
  | some minutes => checkZone minutes
  let date ← Date.ofParts date.1 date.2.1 date.2.2
  let (hour, minute, second) := time
  if 23 < hour then .error "hour must be in 0..23"
  else if 59 < minute then .error "minute must be in 0..59"
  else if 59 < second then .error "second must be in 0..59"
  else .ok { date, hour, minute, second, micro, zone }

/-- The millionths of a second from the beginning of the calendar, in universal time where the
distance from it is known. -/
def instant (m : Moment) : Int :=
  let minutes : Int := m.date.number * 1440 + m.hour * 60 + m.minute - m.zone.getD 0
  (minutes * 60 + m.second) * 1000000 + m.micro

/-- Whether two moments are the same. Without a distance from universal time a moment cannot be
compared with one that has one. -/
def isSame (a b : Moment) : Bool := a.zone.isSome == b.zone.isSome && a.instant == b.instant

/-- The moment as it is written. -/
def text (m : Moment) : String :=
  let part (width n : Nat) := String.ofList (Number.Binary64.padded width n)
  let zone :=
    match m.zone with
    | none => ""
    | some minutes =>
      (if minutes < 0 then "-" else "+") ++ part 2 (minutes.natAbs / 60) ++ ":" ++
        part 2 (minutes.natAbs % 60)
  m.date.text ++ " " ++ part 2 m.hour ++ ":" ++ part 2 m.minute ++ ":" ++ part 2 m.second ++
    (if m.micro = 0 then "" else "." ++ part 6 m.micro) ++ zone

/-- The exact form of a moment. -/
def shown (m : Moment) : String :=
  let fine :=
    if m.micro ≠ 0 then [m.second, m.micro] else if m.second ≠ 0 then [m.second] else []
  let zone :=
    match m.zone with
    | none => []
    | some 0 => ["tzinfo=datetime.timezone.utc"]
    | some minutes => ["tzinfo=datetime.timezone(" ++ shownMinutes minutes ++ ")"]
  "datetime.datetime(" ++
    ", ".intercalate (m.date.parts ++ ([m.hour, m.minute] ++ fine).map toString ++ zone) ++ ")"

end Moment

end DefectScan
