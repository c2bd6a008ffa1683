/-
  Record/Level.lean --- the severity of a record, and filters on it.

  Levels are ordered from the most severe (`fatal`) to the most verbose
  (`trace`).  The logging facade, which programs call whatever logger is
  installed, knows five of the six: it has no level of its own for fatal
  records, which count as errors there.
-/
import LogLine.Error
import LogLine.Text.Justify

set_option autoImplicit false

namespace LogLine

/-- The severity of a record. -/
inductive Level where
  | fatal
  | error
  | warn
  | info
  | debug
  | trace
deriving DecidableEq, Repr, Inhabited

namespace Level

/-- All levels, the most severe first. -/
def all : List Level := [.fatal, .error, .warn, .info, .debug, .trace]

theorem mem_all (level : Level) : level ∈ all := by cases level <;> simp [all]

/-- The place of a level in the order of severity. -/
def index : Level → Nat
  | .fatal => 0
  | .error => 1
  | .warn => 2
  | .info => 3
  | .debug => 4
  | .trace => 5

/-- The name of a level, in upper case. -/
def name : Level → Text
  | .fatal => "FATAL".toList
  | .error => "ERROR".toList
  | .warn => "WARN".toList
  | .info => "INFO".toList
  | .debug => "DEBUG".toList
  | .trace => "TRACE".toList

/-- The level with this name, in any case. -/
def ofName? (text : Text) : Option Level :=
  all.find? fun level => Text.sameIgnoringCase text level.name

/-- Reads a level; a text that names none is an error that quotes it. -/
def read (text : Text) : Except Error Level :=
  match ofName? text with
  | some level => .ok level
  | none => .error (Error.new (String.ofList ("malformed level: ".toList ++ Text.quoted text)))

/-- The name of a level in a field. -/
def inField (level : Level) (alignment : Text.Alignment) (fill : Char) (width : Nat)
    (precision : Option Nat) : Text :=
  Text.justify alignment fill width precision level.name

end Level

/-- The levels of the logging facade. -/
inductive FacadeLevel where
  | error
  | warn
  | info
  | debug
  | trace
deriving DecidableEq, Repr, Inhabited

namespace FacadeLevel

/-- The level of a record that came through the facade. -/
def toLevel : FacadeLevel → Level
  | .error => .error
  | .warn => .warn
  | .info => .info
  | .debug => .debug
  | .trace => .trace

/-- All levels of the facade. -/
def all : List FacadeLevel := [.error, .warn, .info, .debug, .trace]

/-- The level with this name, in any case. -/
def ofName? (text : Text) : Option FacadeLevel :=
  all.find? fun level => Text.sameIgnoringCase text level.toLevel.name

/-- The place of a level in the order of severity, from 1. -/
def rank (level : FacadeLevel) : Nat := level.toLevel.index

end FacadeLevel

/-- The level that stands for a record in the facade. -/
def Level.toFacade : Level → FacadeLevel
  | .fatal | .error => .error
  | .warn => .warn
  | .info => .info
  | .debug => .debug
  | .trace => .trace

/-- The most verbose level that passes in the facade; `none` lets nothing pass. -/
abbrev FacadeFilter := Option FacadeLevel

/-- The filter with this name (`off` or a level), in any case. -/
def FacadeFilter.ofName? (text : Text) : Option FacadeFilter :=
  if Text.sameIgnoringCase text "OFF".toList then some none
  else (FacadeLevel.ofName? text).map some

/-- Which levels pass. -/
inductive LevelFilter where
  /-- None. -/
  | off
  /-- This one alone. -/
  | equal (level : Level)
  /-- All but this one. -/
  | notEqual (level : Level)
  /-- Those above this one in severity. -/
  | moreSevere (level : Level)
  /-- This one and those above it in severity. -/
  | moreSevereEqual (level : Level)
  /-- Those below this one in severity. -/
  | moreVerbose (level : Level)
  /-- This one and those below it in severity. -/
  | moreVerboseEqual (level : Level)
  /-- All. -/
  | all
deriving DecidableEq, Repr, Inhabited

namespace LevelFilter

/-- Whether a level passes. -/
def passes : LevelFilter → Level → Bool
  | .off, _ => false
  | .equal l, level => level == l
  | .notEqual l, level => level != l
  | .moreSevere l, level => level.index < l.index
  | .moreSevereEqual l, level => level.index ≤ l.index
  | .moreVerbose l, level => l.index < level.index
  | .moreVerboseEqual l, level => l.index ≤ level.index
  | .all, _ => true

/-- The filter that a filter of the facade stands for. -/
def ofFacade : FacadeFilter → LevelFilter
  | none => .off
  | some .trace => .all
  | some level => .moreSevereEqual level.toLevel

/-- The filter as a term: its kind, and its level in parentheses. -/
def outline (filter : LevelFilter) : String :=
  let withLevel (kind : String) (level : Level) : String :=
    kind ++ "(" ++ String.ofList level.name ++ ")"
  match filter with
  | .off => "Off"
  | .equal l => withLevel "Equal" l
  | .notEqual l => withLevel "NotEqual" l
  | .moreSevere l => withLevel "MoreSevere" l
  | .moreSevereEqual l => withLevel "MoreSevereEqual" l
  | .moreVerbose l => withLevel "MoreVerbose" l
  | .moreVerboseEqual l => withLevel "MoreVerboseEqual" l
  | .all => "All"

end LevelFilter

end LogLine
