/-
  Time/Zone.lean --- time zones and how they are named.

  A zone is UTC, a fixed offset such as `+8`, `+0530` or `-05:30`, or the clocks
  of a place.  Offsets are read here; which names places have, what their clocks
  show, and which zone the system is in, is for a database of zones to say.
  An offset without a colon that is longer than two bytes is cut two bytes
  before its end; a cut inside a character is a fault of its own, which no
  caller handles.
-/
import LogLine.Error
import LogLine.Text.Numeral
import LogLine.Text.Slice
import LogLine.Time.Instant

set_option autoImplicit false

namespace LogLine

/-- Why something was not made. -/
inductive Fault where
  /-- An error, which the caller handles. -/
  | error (error : Error)
  /-- A text was cut inside a character, which no caller handles. -/
  | brokenCharacter

/-- The clocks of a place. -/
structure Clocks where
  /-- The seconds that they are ahead of UTC at an instant. -/
  offset : Instant → Int
  /-- The name of the time that they show. -/
  name : Instant → Text

/-- A time zone. -/
inductive Zone where
  /-- The same offset at all times, in seconds ahead of UTC. -/
  | fixed (offset : Int)
  /-- The clocks of a place. -/
  | place (clocks : Clocks)

/-- A database of time zones. -/
structure ZoneDatabase where
  /-- The zone with a name, or the text of the failure to find it. -/
  find : Text → Except String Zone
  /-- The zone of the system. -/
  system : Zone

namespace Zone

/-- Coordinated universal time. -/
def utc : Zone := .fixed 0

/-- The name of a fixed offset: hours, and minutes unless there are none. -/
def offsetName (offset : Int) : Text :=
  if offset = 0 then "UTC".toList
  else
    let sign := if offset < 0 then '-' else '+'
    let minutes := offset.natAbs / 60
    [sign] ++ Text.zeroPadded 2 (minutes / 60 : Nat)
      ++ (if minutes % 60 = 0 then [] else [':'] ++ Text.zeroPadded 2 (minutes % 60 : Nat))

/-- The clocks of a zone. -/
def clocks : Zone → Clocks
  | .fixed offset => { offset := fun _ => offset, name := fun _ => offsetName offset }
  | .place clocks => clocks

/-! ## Reading a zone -/

/-- The number that some digits give; there has to be one. -/
def digits? (s : Text) : Option Nat :=
  if s ≠ [] ∧ s.all Char.isDigit then some (Text.digitsValue 0 s) else none

/-- Cuts the text of an offset into hours and minutes. -/
def splitOffset (s : Text) : Except Fault (Option (Text × Text)) :=
  match Text.splitOnce ':' s with
  | some (hours, minutes) =>
    .ok (if minutes.byteLength = 2 then some (hours, minutes) else none)
  | none =>
    if 2 < s.byteLength then
      match s.cutBytesBeforeEnd? 2 with
      | some cut => .ok (some cut)
      | none => .error .brokenCharacter
    else .ok (some (s, ['0']))

/-- The hours and minutes of an offset, if it is one. -/
def offsetParts? (cut : Option (Text × Text)) : Option (Nat × Nat) :=
  match cut with
  | none => none
  | some (hours, minutes) =>
    if 2 < hours.byteLength then none
    else
      match digits? hours, digits? minutes with
      | some h, some m => if h ≤ 25 ∧ m ≤ 59 then some (h, m) else none
      | _, _ => none

/-- The error for a text that begins with a sign and is no offset. -/
def invalidOffset (name : Text) : Error :=
  (Error.new "invalid time zone offset").withText "timezone" name

/-- How far a fixed offset may be from UTC, in seconds: a second less than 26
hours. -/
def farthestOffset : Nat := 93599

/-- The zone of an offset, or the error for a name that gives one too far from
UTC. -/
def ofOffset (name : Text) (offset : Int) : Except Fault Zone :=
  if offset.natAbs ≤ farthestOffset then .ok (.fixed offset)
  else .error (.error ((invalidOffset name).withCause (.foreign "<time error>")))

/-- Reads what follows the sign of an offset. -/
def readOffset (name : Text) (negative : Bool) (rest : Text) : Except Fault Zone :=
  match splitOffset rest with
  | .error fault => .error fault
  | .ok cut =>
    match offsetParts? cut with
    | some (hours, minutes) =>
      let seconds : Int := (3600 * hours + 60 * minutes : Nat)
      ofOffset name (if negative then -seconds else seconds)
    | none => .error (.error (invalidOffset name))

/-- Reads the name of a zone. -/
def read (zones : ZoneDatabase) (text : Text) : Except Fault Zone :=
  let name := Text.trim text
  if name ∈ ["UTC".toList, "GMT".toList, "Z".toList] then .ok utc
  else
    match name with
    | '+' :: rest => readOffset name false rest
    | '-' :: rest => readOffset name true rest
    | _ =>
      match zones.find name with
      | .ok zone => .ok zone
      | .error reason =>
        .error (.error (((Error.new "unknown time zone").withText "timezone" name).withCause
          (.foreign reason)))

end Zone

end LogLine
