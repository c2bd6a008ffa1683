/-
  Host.lean --- what the library asks of the process it runs in.

  Besides the environment and the terminal, a process has a database of time
  zones and a way to compile regular expressions.  Nothing is known of these
  two but what they are asked for, so whatever is proved of a process holds of
  all of them; those of this library are there to run it.
-/
import LogLine.Record.Entries
import LogLine.Regex.Basic
import LogLine.Style.Color
import LogLine.Time.Region

set_option autoImplicit false

namespace LogLine

/-- The surroundings of a program. -/
structure Host where
  /-- The variables of the environment that are set. -/
  environment : Entries := []
  /-- Whether the terminal is to show colors. -/
  colorize : Bool := true
  /-- How many colors it shows. -/
  depth : Style.ColorDepth := .full
  /-- The process identifier. -/
  processId : Text := []
  /-- The time zones. -/
  zones : ZoneDatabase := Region.database
  /-- Makes a text a regular expression, or gives the text of the failure. -/
  compileRegex : Text → Except String Regex := Regex.compile

instance : Inhabited Host := ⟨{}⟩

/-- Reads a regular expression; a malformed one is an error that shows it. -/
def Regex.read (expression : Text) (host : Host := {}) : Except Error Regex :=
  match host.compileRegex expression with
  | .ok regex => .ok regex
  | .error reason =>
    .error (((Error.new "malformed regex").withText "regex" expression).withCause (.foreign reason))

end LogLine
