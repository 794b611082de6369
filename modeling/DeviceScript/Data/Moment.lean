import DeviceScript.Text.Basic

/-! Days and times of day, as settings files may hold them. -/

namespace DeviceScript

/-- A day of the calendar. -/
structure Day where
  year : Nat
  month : Nat
  day : Nat
  deriving DecidableEq

namespace Day

def isLeapYear (year : Nat) : Bool := year % 4 = 0 && (year % 100 ≠ 0 || year % 400 = 0)

/-- The number of days of a month. -/
def monthLength (year month : Nat) : Nat :=
  if month = 2 then if isLeapYear year then 29 else 28
  else if [4, 6, 9, 11].contains month then 30
  else 31

/-- Tells whether the calendar has a day; it starts with the year one. -/
def isReal (date : Day) : Bool :=
  1 ≤ date.year && 1 ≤ date.month && date.month ≤ 12
    && 1 ≤ date.day && date.day ≤ monthLength date.year date.month

end Day

/-- A time of day. -/
structure TimeOfDay where
  hour : Nat
  minute : Nat
  second : Nat
  microsecond : Nat
  deriving DecidableEq

/-- A day, a time of day, or both, and then perhaps the minutes by which the clock is ahead of the
one that all others are compared with. -/
inductive Moment where
  | day (day : Day)
  | time (time : TimeOfDay)
  | dayTime (day : Day) (time : TimeOfDay) (ahead : Option Int)
  deriving DecidableEq

namespace Moment

/-- The name of the kind of a moment. -/
def kindName : Moment → Text
  | day _ => "date"
  | time _ => "time"
  | dayTime _ _ _ => "datetime"

/-- The numbers of a time of day, as far as they are cited: from the end, zeros are left out. -/
def timeNumbers (time : TimeOfDay) : List Nat :=
  if time.microsecond ≠ 0 then [time.hour, time.minute, time.second, time.microsecond]
  else if time.second ≠ 0 then [time.hour, time.minute, time.second]
  else [time.hour, time.minute]

/-- The citation of a clock; one that is behind is cited by what it is ahead of the day before. -/
def citedClock (ahead : Int) : Text :=
  if ahead = 0 then "datetime.timezone.utc"
  else if 0 < ahead then
    "datetime.timezone(datetime.timedelta(seconds=" ++ Text.ofInt (60 * ahead) ++ "))"
  else
    "datetime.timezone(datetime.timedelta(days=-1, seconds="
      ++ Text.ofInt (60 * (24 * 60 + ahead)) ++ "))"

/-- A moment as it is cited in a message. -/
def cited (moment : Moment) : Text :=
  let dayNumbers (date : Day) : List Nat := [date.year, date.month, date.day]
  let arguments : List Text :=
    match moment with
    | .day date => (dayNumbers date).map Text.ofNat
    | .time clock => (timeNumbers clock).map Text.ofNat
    | .dayTime date clock ahead =>
      (dayNumbers date ++ timeNumbers clock).map Text.ofNat
        ++ (ahead.map fun ahead => "tzinfo=" ++ citedClock ahead).toList
  "datetime." ++ moment.kindName ++ "(" ++ Text.join ", " arguments ++ ")"

end Moment

end DeviceScript
