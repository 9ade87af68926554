import Scaffold.Text.Numeral

/-!
# Dates and moments

A `Date` is a day of the calendar, a `Moment` a day with a time and, if it is known, the distance
from universal time. `Date.ofParts` and `Moment.ofParts` check the parts; the first part that is out
of its range, from the largest unit to the smallest, decides the error.
-/

namespace Scaffold.Value

/-- A day of the calendar. -/
structure Date where
  year : Nat
  month : Nat
  day : Nat
deriving Repr, DecidableEq, Inhabited

/-- A day with a time. -/
structure Moment where
  date : Date
  hour : Nat
  minute : Nat
  second : Nat
  microsecond : Nat
  /-- The minutes that local time is ahead of universal time. -/
  offset : Option Int
deriving Repr, DecidableEq, Inhabited

/-- Why parts make no date or no moment. -/
inductive CalendarError where
  | year (n : Nat)
  | month
  | day
  | hour
  | minute
  | second
  /-- The distance from universal time, in minutes, is a day or more. -/
  | offset (minutes : Int)
deriving Repr, DecidableEq

def isLeapYear (y : Nat) : Bool :=
  y % 4 == 0 && (y % 100 != 0 || y % 400 == 0)

def daysInMonth (y m : Nat) : Nat :=
  if m = 2 then if isLeapYear y then 29 else 28
  else if m = 4 || m = 6 || m = 9 || m = 11 then 30
  else 31

def Date.ofParts (y m d : Nat) : Except CalendarError Date :=
  if y = 0 || 9999 < y then .error (.year y)
  else if m = 0 || 12 < m then .error .month
  else if d = 0 || daysInMonth y m < d then .error .day
  else .ok ⟨y, m, d⟩

/-- Checks the parts of a moment, the distance from universal time first. -/
def Moment.ofParts (y m d hour minute second microsecond : Nat) (offset : Option Int) :
    Except CalendarError Moment := do
  if let some minutes := offset then
    if 1440 ≤ minutes.natAbs then throw (.offset minutes)
  let date ← Date.ofParts y m d
  if 23 < hour then throw .hour
  if 59 < minute then throw .minute
  if 59 < second then throw .second
  return ⟨date, hour, minute, second, microsecond, offset⟩

/-! ### Texts -/

/-- The year, month and day with dashes between them. -/
def Date.iso (d : Date) : String :=
  Text.padded 4 d.year ++ "-" ++ Text.padded 2 d.month ++ "-" ++ Text.padded 2 d.day

/-- A distance from universal time in hours and minutes. -/
def offsetText (minutes : Int) : String :=
  let n := minutes.natAbs
  (if minutes < 0 then "-" else "+") ++ Text.padded 2 (n / 60) ++ ":" ++ Text.padded 2 (n % 60)

/-- The parts of a moment, with a separator between the day and the time. -/
def Moment.iso (separator : String) (m : Moment) : String :=
  m.date.iso ++ separator ++ Text.padded 2 m.hour ++ ":" ++ Text.padded 2 m.minute ++ ":"
    ++ Text.padded 2 m.second
    ++ (if m.microsecond = 0 then "" else "." ++ Text.padded 6 m.microsecond)
    ++ (match m.offset with | none => "" | some o => offsetText o)

/-- A length of time, as days and the seconds of the last one. -/
def spanText (minutes : Int) : String :=
  let seconds := minutes * 60
  let days := seconds.fdiv 86400
  let rest := seconds.fmod 86400
  let parts := (if days = 0 then [] else ["days=" ++ toString days])
    ++ (if rest = 0 then [] else ["seconds=" ++ toString rest])
  "datetime.timedelta(" ++ (if parts.isEmpty then "0" else ", ".intercalate parts) ++ ")"

/-- The words for parts out of range. -/
def CalendarError.message : CalendarError → String
  | .year n => "year " ++ toString n ++ " is out of range"
  | .month => "month must be in 1..12"
  | .day => "day is out of range for month"
  | .hour => "hour must be in 0..23"
  | .minute => "minute must be in 0..59"
  | .second => "second must be in 0..59"
  | .offset minutes =>
    "offset must be a timedelta strictly between -timedelta(hours=24) and timedelta(hours=24), not "
      ++ spanText minutes ++ "."

/-- A date inside the text of a collection. -/
def Date.quoted (d : Date) : String :=
  "datetime.date(" ++ ", ".intercalate ([d.year, d.month, d.day].map toString) ++ ")"

/-- A moment inside the text of a collection: seconds and microseconds of zero are left out. -/
def Moment.quoted (m : Moment) : String :=
  let small :=
    if m.microsecond ≠ 0 then [m.second, m.microsecond]
    else if m.second ≠ 0 then [m.second] else []
  let numbers := ([m.date.year, m.date.month, m.date.day, m.hour, m.minute] ++ small).map toString
  let zone := match m.offset with
    | none => []
    | some 0 => ["tzinfo=datetime.timezone.utc"]
    | some o => ["tzinfo=datetime.timezone(" ++ spanText o ++ ")"]
  "datetime.datetime(" ++ ", ".intercalate (numbers ++ zone) ++ ")"

end Scaffold.Value
