/-
  Time/Civil.lean --- the civil calendar.

  Dates are those of the Gregorian calendar, extended to all times; year 0
  exists.  A year is counted from March, so that the day added in leap years is
  its last one.
-/
import LogLine.Time.Instant

set_option autoImplicit false

namespace LogLine

/-- A day of the civil calendar. -/
structure CivilDate where
  /-- The year. -/
  year : Int
  /-- The month, from 1. -/
  month : Nat
  /-- The day of the month, from 1. -/
  day : Nat
deriving DecidableEq, Repr, Inhabited

namespace CivilDate

/-- The days of 400 years. -/
def daysPerEra : Int := 146097

/-- The days from the first of March of year 0 to the epoch. -/
def epochDays : Int := 719468

/-- The year, counted from March, that day `day` of an era lies in. -/
def yearOfEraDay (day : Nat) : Nat := (day - day / 1460 + day / 36524 - day / 146096) / 365

/-- The days of an era before a year of it. -/
def daysBeforeYear (year : Nat) : Nat := 365 * year + year / 4 - year / 100

/-- The month, counted from March, that a day of the year lies in. -/
def monthOfYearDay (day : Nat) : Nat := (5 * day + 2) / 153

/-- The days of the year before a month, both counted from March. -/
def daysBeforeMonth (month : Nat) : Nat := (153 * month + 2) / 5

/-- The date some days after the epoch. -/
def ofDays (days : Int) : CivilDate :=
  let shifted := days + epochDays
  let era := shifted.fdiv daysPerEra
  let eraDay := (shifted.fmod daysPerEra).toNat
  let year := yearOfEraDay eraDay
  let yearDay := eraDay - daysBeforeYear year
  let month := monthOfYearDay yearDay
  { year := era * 400 + year + (if month < 10 then 0 else 1)
    month := if month < 10 then month + 3 else month - 9
    day := yearDay - daysBeforeMonth month + 1 }

/-- The days from the epoch to a date. -/
def toDays (date : CivilDate) : Int :=
  let year := if date.month ≤ 2 then date.year - 1 else date.year
  let month := if date.month ≤ 2 then date.month + 9 else date.month - 3
  let yearOfEra := (year.fmod 400).toNat
  year.fdiv 400 * daysPerEra + daysBeforeYear yearOfEra + daysBeforeMonth month + date.day - 1
    - epochDays

end CivilDate

/-- The days of the week. -/
inductive Weekday where
  | monday
  | tuesday
  | wednesday
  | thursday
  | friday
  | saturday
  | sunday
deriving DecidableEq, Repr, Inhabited

namespace Weekday

/-- All days of the week, from Monday. -/
def all : List Weekday :=
  [.monday, .tuesday, .wednesday, .thursday, .friday, .saturday, .sunday]

/-- The days since Monday on the day some days after the epoch, a Thursday. -/
def sinceMonday (days : Int) : Nat := ((days + 3).fmod 7).toNat

/-- The weekday of the day some days after the epoch. -/
def ofDays (days : Int) : Weekday := (all[sinceMonday days]?).getD .monday

/-- The English name of a weekday. -/
def name : Weekday → String
  | .monday => "Monday"
  | .tuesday => "Tuesday"
  | .wednesday => "Wednesday"
  | .thursday => "Thursday"
  | .friday => "Friday"
  | .saturday => "Saturday"
  | .sunday => "Sunday"

end Weekday

/-- A civil date and the time of the day. -/
structure CivilTime where
  /-- The date. -/
  date : CivilDate
  /-- The weekday. -/
  weekday : Weekday
  /-- The hour, below 24. -/
  hour : Nat
  /-- The minute, below 60. -/
  minute : Nat
  /-- The second, below 60. -/
  second : Nat
  /-- The nanoseconds of the second. -/
  nanos : Nat
deriving DecidableEq, Repr, Inhabited

namespace CivilTime

/-- The seconds of a day. -/
def secondsPerDay : Int := 86400

/-- The civil time of an instant where clocks are `offset` seconds ahead of
UTC. -/
def ofInstant (t : Instant) (offset : Int) : CivilTime :=
  let seconds := t.second + offset
  let days := seconds.fdiv secondsPerDay
  let daySecond := (seconds.fmod secondsPerDay).toNat
  { date := CivilDate.ofDays days
    weekday := Weekday.ofDays days
    hour := daySecond / 3600
    minute := daySecond % 3600 / 60
    second := daySecond % 60
    nanos := t.subsecond }

end CivilTime

end LogLine
