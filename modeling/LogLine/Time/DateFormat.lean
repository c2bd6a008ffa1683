/-
  Time/DateFormat.lean --- the text of an instant.

  A format is a list of tokens, or the count of seconds or milliseconds since
  the epoch, cut toward zero.  A clock keeps the last text it wrote together
  with the millisecond it was for (cut toward zero as well), and writes it
  again while that millisecond lasts; patterns that show more than milliseconds
  are never kept.
-/
import LogLine.Host
import LogLine.Time.DatePattern

set_option autoImplicit false

namespace LogLine

/-- How an instant is written. -/
inductive DateFormat where
  /-- The seconds since the epoch. -/
  | unixSeconds
  /-- The milliseconds since the epoch. -/
  | unixMillis
  /-- The tokens of a date pattern. -/
  | pattern (tokens : List DateToken)
deriving DecidableEq, Repr, Inhabited

namespace DateFormat

/-! ## Writing -/

/-- The English names of the months. -/
def monthNames : List String :=
  ["January", "February", "March", "April", "May", "June", "July", "August", "September",
   "October", "November", "December"]

/-- The English name of a month. -/
def monthName (month : Nat) : Text := ((monthNames[month - 1]?).getD "").toList

/-- An offset as sign, hours and minutes; seconds are dropped. -/
def offsetText (colon : Bool) (offset : Int) : Text :=
  let seconds := offset.natAbs
  [if offset < 0 then '-' else '+'] ++ Text.zeroPadded 2 (seconds / 3600 : Nat)
    ++ (if colon then [':'] else []) ++ Text.zeroPadded 2 (seconds % 3600 / 60 : Nat)

/-- An offset in the form that has `Z` for none. -/
def isoOffsetText (width : Nat) (offset : Int) : Text :=
  if offset = 0 then ['Z']
  else if width = 1 then
    [if offset < 0 then '-' else '+'] ++ Text.zeroPadded 2 (offset.natAbs / 3600 : Nat)
  else offsetText (3 ≤ width) offset

/-- The first digits of a fraction of a second; zeros follow the ninth. -/
def fractionText (width nanos : Nat) : Text :=
  (Text.zeroPadded 9 nanos).take width ++ List.replicate (width - 9) '0'

/-- The text of a field, given the civil time, the offset and the zone's name. -/
def fieldText (time : CivilTime) (offset : Int) (zoneName : Text) (field : DateField)
    (width : Nat) : Text :=
  match field with
  | .year =>
    if width = 2 then Text.zeroPadded 2 (time.date.year.fmod 100)
    else Text.zeroPadded width time.date.year
  | .month =>
    if 4 ≤ width then monthName time.date.month
    else if width = 3 then (monthName time.date.month).take 3
    else Text.zeroPadded width time.date.month
  | .day => Text.zeroPadded width time.date.day
  | .hour24 => Text.zeroPadded width time.hour
  | .hour12 =>
    Text.zeroPadded width (if time.hour % 12 = 0 then 12 else time.hour % 12 : Nat)
  | .minute => Text.zeroPadded width time.minute
  | .second => Text.zeroPadded width time.second
  | .fraction => fractionText width time.nanos
  | .weekday =>
    if 4 ≤ width then time.weekday.name.toList else time.weekday.name.toList.take 3
  | .halfDay => if time.hour < 12 then ['A', 'M'] else ['P', 'M']
  | .plainOffset => offsetText false offset
  | .isoOffset => isoOffsetText width offset
  | .zoneName => zoneName

/-- The text of a token. -/
def tokenText (time : CivilTime) (offset : Int) (zoneName : Text) : DateToken → Text
  | .literal text => text
  | .field field width => fieldText time offset zoneName field width

/-- The text of some tokens where clocks are `offset` seconds ahead of UTC and the
time has a name. -/
def tokensText (tokens : List DateToken) (offset : Int) (zoneName : Text) (t : Instant) : Text :=
  tokens.flatMap (tokenText (CivilTime.ofInstant t offset) offset zoneName)

/-- The text, by some clocks, of an instant that has a civil time. -/
def text (format : DateFormat) (clocks : Clocks) (t : Instant) : Text :=
  match format with
  | .unixSeconds => Text.ofInt t.truncatedSeconds
  | .unixMillis => Text.ofInt t.truncatedMillis
  | .pattern tokens => tokensText tokens (clocks.offset t) (clocks.name t) t

/-- Whether a text may be kept for a millisecond: the format has tokens, and
none of them shows more than three digits of the fraction. -/
def isCacheable : DateFormat → Bool
  | .unixSeconds | .unixMillis => false
  | .pattern tokens =>
    tokens.all fun
      | .field .fraction width => width ≤ 3
      | _ => true

/-! ## Reading -/

/-- The formats that have a name. -/
def named : List (String × String) :=
  [("DEFAULT", "yyyy-MM-dd HH:mm:ss,SSS"),
   ("ISO8601", "yyyy-MM-dd'T'HH:mm:ss,SSS"),
   ("ISO8601_BASIC", "yyyyMMdd'T'HHmmss,SSS"),
   ("ABSOLUTE", "HH:mm:ss,SSS"),
   ("COMPACT", "yyyyMMddHHmmssSSS"),
   ("DATE", "dd MMM yyyy HH:mm:ss,SSS")]

/-- The date pattern that a text stands for: that of its name, if it is a name,
or else itself. -/
def patternOf (text : Text) : Text :=
  match named.find? (·.1.toList == Text.trim text) with
  | some entry => entry.2.toList
  | none => text

/-- Reads a named format or a date pattern. -/
def read (text : Text) : Except Error DateFormat :=
  let name := Text.trim text
  if name = "UNIX".toList then .ok .unixSeconds
  else if name = "UNIX_MILLIS".toList then .ok .unixMillis
  else
    match DatePattern.tokens (patternOf text) with
    | .ok tokens => .ok (.pattern tokens)
    | .error fault => .error (fault.toError (patternOf text))

/-- The tokens of the named format `DEFAULT`. -/
def defaultTokens : List DateToken :=
  [.field .year 4, .literal ['-'], .field .month 2, .literal ['-'], .field .day 2,
   .literal [' '], .field .hour24 2, .literal [':'], .field .minute 2, .literal [':'],
   .field .second 2, .literal [','], .field .fraction 3]

end DateFormat

/-- A format, a zone, and the last text written. -/
structure DateClock where
  /-- How instants are written. -/
  format : DateFormat := .pattern DateFormat.defaultTokens
  /-- In which zone. -/
  zone : Zone
  /-- The text kept and the millisecond it is for. -/
  kept : Option (Int × Text) := none

namespace DateClock

/-- The error for an instant without civil time. -/
def outOfRange : Error :=
  (Error.new "record time out of range").withCause (.foreign "<time error>")

/-- The kept text, if it is for the millisecond of the instant. -/
def keptText? (clock : DateClock) (t : Instant) : Option Text :=
  match clock.kept with
  | some (millis, text) => if millis = t.truncatedMillis then some text else none
  | none => none

/-- Writes an instant; the clock may keep the text. -/
def write (clock : DateClock) (t : Instant) : DateClock × Except Error Text :=
  if t.inRange then
    if clock.format.isCacheable then
      match clock.keptText? t with
      | some text => (clock, .ok text)
      | none =>
        let text := clock.format.text clock.zone.clocks t
        ({ clock with kept := some (t.truncatedMillis, text) }, .ok text)
    else (clock, .ok (clock.format.text clock.zone.clocks t))
  else (clock, .error outOfRange)

/-- Writes instants in turn. -/
def writeAll (clock : DateClock) : List Instant → List (Except Error Text)
  | [] => []
  | t :: rest =>
    let (clock, text) := clock.write t
    text :: clock.writeAll rest

/-- Reads a zone, if one is given; without one it is the zone of the system. -/
def readZone (zones : ZoneDatabase) (zone : Option Text) : Except Fault Zone :=
  match zone with
  | some name => Zone.read zones name
  | none => .ok zones.system

/-- A new clock for a named format or a date pattern, and a zone. -/
def read (pattern : Text) (zone : Option Text) (host : Host := {}) : Except Fault DateClock :=
  match DateFormat.read pattern with
  | .error error => .error (.error error)
  | .ok format => (readZone host.zones zone).map fun zone => { format, zone }

/-- A new clock for the options of a specifier: a format, which may be blank,
and a zone. -/
def ofOptions (host : Host) (options : List Text) : Except Fault DateClock :=
  let zone := options[1]?
  match options with
  | pattern :: _ =>
    if Text.trim pattern = [] then (readZone host.zones zone).map fun zone => { zone }
    else read pattern zone host
  | [] => .ok { zone := host.zones.system }

end DateClock

end LogLine
