/-
  Time/Region.lean --- a small database of time zones.

  A region has a standard time, and it may have a summer time between two
  Sundays of each year.  The rules are those in force since the year they
  name; a region may also have had a local time of its own before the first
  rule.  The database knows a few regions and is for a system in UTC; a program
  brings a larger one.
-/
import LogLine.Time.Civil
import LogLine.Time.Zone

set_option autoImplicit false

namespace LogLine

/-- How far clocks are ahead of UTC, and the name of that time. -/
structure ClockTime where
  /-- The seconds ahead of UTC. -/
  offset : Int
  /-- The abbreviated name. -/
  name : String
deriving DecidableEq, Repr, Inhabited

/-- Which Sunday of a month. -/
inductive SundayOf where
  /-- The one after `weeks` others. -/
  | nth (weeks : Nat)
  /-- The last one. -/
  | last
deriving DecidableEq, Repr, Inhabited

/-- A moment of each year: a Sunday and the seconds from its midnight in UTC. -/
structure YearlyMoment where
  /-- The month. -/
  month : Nat
  /-- The Sunday of the month. -/
  sunday : SundayOf
  /-- The seconds from midnight in UTC. -/
  seconds : Int
deriving DecidableEq, Repr, Inhabited

/-- The moment of a year, in seconds from the epoch. -/
def YearlyMoment.inYear (moment : YearlyMoment) (year : Int) : Int :=
  let sunday := match moment.sunday with
    | .nth weeks =>
      let first := CivilDate.toDays ⟨year, moment.month, 1⟩
      first + (6 - Weekday.sinceMonday first : Nat) + 7 * weeks
    | .last =>
      -- the months used here have 31 days
      let last := CivilDate.toDays ⟨year, moment.month, 31⟩
      last - ((Weekday.sinceMonday last + 1) % 7 : Nat)
  sunday * CivilTime.secondsPerDay + moment.seconds

/-- A summer time. -/
structure SummerTime where
  /-- Its clocks. -/
  clock : ClockTime
  /-- When it begins. -/
  begins : YearlyMoment
  /-- When it ends. -/
  ends : YearlyMoment
  /-- The first year of the rule. -/
  since : Int
deriving DecidableEq, Repr, Inhabited

/-- Whether summer time holds at a second of the epoch.  South of the equator
it ends earlier in the year than it begins. -/
def SummerTime.holds (summer : SummerTime) (second : Int) : Bool :=
  let year := (CivilDate.ofDays (second.fdiv CivilTime.secondsPerDay)).year
  let begins := summer.begins.inYear year
  let ends := summer.ends.inYear year
  summer.since ≤ year &&
    (if begins < ends then begins ≤ second && second < ends
      else second < ends || begins ≤ second)

/-- The clocks of a region. -/
structure Region where
  /-- The name of the region. -/
  name : String
  /-- Its standard time. -/
  standard : ClockTime
  /-- Its summer time. -/
  summer : Option SummerTime := none
  /-- Its local time, up to a second of the epoch. -/
  local? : Option (ClockTime × Int) := none
deriving DecidableEq, Repr, Inhabited

namespace Region

/-- The clocks at a second of the epoch. -/
def clockAt (region : Region) (second : Int) : ClockTime :=
  match region.local? with
  | some (clock, until_) =>
    if second < until_ then clock else summerOrStandard second
  | none => summerOrStandard second
where
  /-- The clocks since there are rules. -/
  summerOrStandard (second : Int) : ClockTime :=
    match region.summer with
    | some summer => if summer.holds second then summer.clock else region.standard
    | none => region.standard

/-- The regions that are known. -/
def all : List Region :=
  [{ name := "Europe/Paris", standard := ⟨3600, "CET"⟩
     summer := some ⟨⟨7200, "CEST"⟩, ⟨3, .last, 3600⟩, ⟨10, .last, 3600⟩, 1997⟩ },
   { name := "Europe/London", standard := ⟨0, "GMT"⟩
     summer := some ⟨⟨3600, "BST"⟩, ⟨3, .last, 3600⟩, ⟨10, .last, 3600⟩, 1997⟩ },
   { name := "America/New_York", standard := ⟨-18000, "EST"⟩
     summer := some ⟨⟨-14400, "EDT"⟩, ⟨3, .nth 1, 25200⟩, ⟨11, .nth 0, 21600⟩, 2007⟩
     local? := some (⟨-17762, "LMT"⟩, -2717650800) },
   { name := "America/St_Johns", standard := ⟨-12600, "NST"⟩
     summer := some ⟨⟨-9000, "NDT"⟩, ⟨3, .nth 1, 19800⟩, ⟨11, .nth 0, 16200⟩, 2012⟩ },
   { name := "Australia/Lord_Howe", standard := ⟨37800, "+1030"⟩
     summer := some ⟨⟨39600, "+11"⟩, ⟨10, .nth 0, -30600⟩, ⟨4, .nth 0, -32400⟩, 2008⟩ },
   { name := "Asia/Kolkata", standard := ⟨19800, "IST"⟩ },
   { name := "Asia/Tokyo", standard := ⟨32400, "JST"⟩ }]

/-- The region with this name, in any case. -/
def ofName? (name : Text) : Option Region :=
  all.find? fun region => Text.sameIgnoringCase region.name.toList name

/-- The clocks of a region, which turn at whole seconds. -/
def clocks (region : Region) : Clocks where
  offset t := (region.clockAt t.second).offset
  name t := (region.clockAt t.second).name.toList

/-- The zone with this name, in any case: UTC or a region. -/
def find (name : Text) : Except String Zone :=
  if Text.sameIgnoringCase name "UTC".toList then .ok .utc
  else
    match ofName? name with
    | some region => .ok (.place region.clocks)
    | none => .error "<time error>"

/-- The database of these regions, for a system in UTC. -/
def database : ZoneDatabase where
  find := find
  system := .utc

end Region

end LogLine
