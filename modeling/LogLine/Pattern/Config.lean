/-
  Pattern/Config.lean --- the settings shared by a pattern and its converters.
-/
import LogLine.Host

set_option autoImplicit false

namespace LogLine

/-- Where the variables of literal text are looked up. -/
structure Lookups where
  /-- The environment, if variables `env:NAME` read it. -/
  environment : Option Entries := none
  /-- The properties, by name. -/
  properties : Entries := []
deriving DecidableEq, Repr, Inhabited

namespace Lookups

/-- What begins the name of an environment variable. -/
def environmentMark : Text := "env:".toList

/-- The value of a variable.  A name after `env:` is looked up in the
environment or nowhere, any other name among the properties. -/
def find? (lookups : Lookups) (name : Text) : Option Text :=
  match environmentMark.isPrefixOf? name with
  | some key => lookups.environment.bind (·.valueOf? key)
  | none => lookups.properties.valueOf? name

/-- Whether there is anything to look up in. -/
def isActive (lookups : Lookups) : Bool :=
  lookups.environment.isSome || !lookups.properties.isEmpty

end Lookups

/-- Settings of a pattern. -/
structure Config where
  /-- Never write escape sequences. -/
  disableAnsi : Bool := false
  /-- Write escape sequences only if the terminal is to show colors. -/
  noConsoleNoAnsi : Bool := false
  /-- Read backslashes in literal text as escapes. -/
  convertBackslashes : Bool := false
  /-- Let variables `env:NAME` read the environment. -/
  environmentLookups : Bool := false
  /-- The properties, sorted by name. -/
  properties : Entries := []
  /-- The surroundings. -/
  host : Host := {}
deriving Inhabited

namespace Config

/-- Whether converters may write escape sequences. -/
def isAnsiEnabled (config : Config) : Bool :=
  !config.disableAnsi && (!config.noConsoleNoAnsi || config.host.colorize)

/-- Where variables are looked up. -/
def lookups (config : Config) : Lookups :=
  { environment := if config.environmentLookups then some config.host.environment else none
    properties := config.properties }

/-- Whether there is any source of variables. -/
def hasLookups (config : Config) : Bool := config.lookups.isActive

/-- The value of a variable. -/
def find? (config : Config) (name : Text) : Option Text := config.lookups.find? name

theorem isAnsiEnabled_eq_false_of_disableAnsi {config : Config} (h : config.disableAnsi = true) :
    config.isAnsiEnabled = false := by
  simp [isAnsiEnabled, h]

end Config

end LogLine
