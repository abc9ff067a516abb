import ClientSynth.Text.Basic

/-!
# Dates and moments

Calendar dates of the proleptic Gregorian calendar in the years 1 to 9999, and times of day on them
with an optional offset from universal time. `Date.make?` and `Moment.make?` refuse impossible ones
with the cause.
-/

namespace ClientSynth

/-- A calendar date. -/
structure Date where
  year : Nat
  month : Nat
  day : Nat
  deriving DecidableEq, Inhabited

/-- A date with a time of day to the microsecond, and the seconds east of universal time. -/
structure Moment where
  date : Date
  hour : Nat
  minute : Nat
  second : Nat
  microsecond : Nat
  offset : Option Int
  deriving DecidableEq, Inhabited

/-- Why there is no such date or moment. -/
inductive CalendarFault where
  | year (year : Nat)
  | month
  | day
  | hour
  | minute
  | second
  /-- An offset of a day or more, in seconds. -/
  | offset (seconds : Int)
  deriving DecidableEq

namespace CalendarFault

/-- A span of time, written by its days and seconds. -/
def spanText (seconds : Int) : String :=
  let days := Int.fdiv seconds 86400
  let rest := Int.fmod seconds 86400
  let parts := (if days = 0 then [] else ["days=" ++ Text.ofInt days]) ++
    (if rest = 0 then [] else ["seconds=" ++ Text.ofInt rest])
  "datetime.timedelta(" ++ ", ".intercalate parts ++ ")"

/-- The text of a fault. -/
def message : CalendarFault → String
  | .year y => "year " ++ Text.ofNat y ++ " is out of range"
  | .month => "month must be in 1..12"
  | .day => "day is out of range for month"
  | .hour => "hour must be in 0..23"
  | .minute => "minute must be in 0..59"
  | .second => "second must be in 0..59"
  | .offset s =>
    "offset must be a timedelta strictly between -timedelta(hours=24) and timedelta(hours=24), not "
      ++ spanText s ++ "."

end CalendarFault

namespace Date

/-- Whether a year has a 29 February. -/
def isLeap (year : Nat) : Bool :=
  year % 4 == 0 && (year % 100 != 0 || year % 400 == 0)

/-- The number of days of a month. -/
def daysIn (year month : Nat) : Nat :=
  if month = 2 then (if isLeap year then 29 else 28)
  else if month = 4 ∨ month = 6 ∨ month = 9 ∨ month = 11 then 30
  else 31

/-- The date, unless there is none with these numbers. -/
def make? (year month day : Nat) : Except CalendarFault Date :=
  if year < 1 ∨ 9999 < year then .error (.year year)
  else if month < 1 ∨ 12 < month then .error .month
  else if day < 1 ∨ daysIn year month < day then .error .day
  else .ok ⟨year, month, day⟩

/-- The number of days up to the date, counted from 1 for the first day of year 1. -/
def ordinal (d : Date) : Nat :=
  let years := d.year - 1
  years * 365 + years / 4 - years / 100 + years / 400 +
    (List.range (d.month - 1)).foldl (fun n m => n + daysIn d.year (m + 1)) 0 + d.day

/-- Year, month and day with hyphens between them. -/
def text (d : Date) : String :=
  Text.padded 4 d.year ++ "-" ++ Text.padded 2 d.month ++ "-" ++ Text.padded 2 d.day

end Date

namespace Moment

/-- The moment, unless there is none with these numbers. The offset is looked at first. -/
def make? (year month day hour minute second microsecond : Nat) (offset : Option Int) :
    Except CalendarFault Moment :=
  match offset.filter fun s => s ≤ -86400 || 86400 ≤ s with
  | some s => .error (.offset s)
  | none =>
    match Date.make? year month day with
    | .error fault => .error fault
    | .ok date =>
      if 23 < hour then .error .hour
      else if 59 < minute then .error .minute
      else if 59 < second then .error .second
      else .ok ⟨date, hour, minute, second, microsecond, offset⟩

/-- Microseconds since the start of the calendar, in the moment's own local time. -/
def localMicroseconds (m : Moment) : Int :=
  (((m.date.ordinal * 24 + m.hour) * 60 + m.minute) * 60 + m.second : Nat) * 1000000 + m.microsecond

/-- Whether two moments are the same: both have an offset and the same universal time, or neither
has one and they agree as written. -/
def isSame (a b : Moment) : Bool :=
  match a.offset, b.offset with
  | some s, some t =>
    a.localMicroseconds - s * 1000000 == b.localMicroseconds - t * 1000000
  | none, none => a.localMicroseconds == b.localMicroseconds
  | _, _ => false

/-- An offset with its sign, hours, minutes, and the seconds if there are any. -/
def offsetText (seconds : Int) : String :=
  let size := seconds.natAbs
  (if seconds < 0 then "-" else "+") ++ Text.padded 2 (size / 3600) ++ ":" ++
    Text.padded 2 (size / 60 % 60) ++
    (if size % 60 = 0 then "" else ":" ++ Text.padded 2 (size % 60))

/-- The date, a separator and the time of day, with microseconds unless they are zero, and the
offset if there is one. -/
def text (separator : String) (m : Moment) : String :=
  m.date.text ++ separator ++ Text.padded 2 m.hour ++ ":" ++ Text.padded 2 m.minute ++ ":" ++
    Text.padded 2 m.second ++
    (if m.microsecond = 0 then "" else "." ++ Text.padded 6 m.microsecond) ++
    (m.offset.map offsetText).getD ""

end Moment

end ClientSynth
