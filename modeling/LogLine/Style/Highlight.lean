/-
  Style/Highlight.lean --- a style for each level, and the options that choose it.

  Presets are applied before all other options, wherever they stand; then each
  option takes effect in turn.  An option can switch escape sequences off but
  never on.
-/
import LogLine.Pattern.Config
import LogLine.Record.Level
import LogLine.Style.Entry
import LogLine.Style.Sequence

set_option autoImplicit false

namespace LogLine.Style

/-- Something for each level. -/
abbrev PerLevel (α : Type) := Level → α

namespace PerLevel

variable {α : Type}

/-- The same table with another value for one level. -/
def put (table : PerLevel α) (level : Level) (value : α) : PerLevel α :=
  fun other => if other = level then value else table other

@[simp] theorem put_self (table : PerLevel α) (level : Level) (value : α) :
    table.put level value level = value := by simp [put]

theorem put_of_ne (table : PerLevel α) {level other : Level} (value : α) (h : other ≠ level) :
    table.put level value other = table other := by simp [put, h]

end PerLevel

/-- The style names of each level, and whether escape sequences are written. -/
structure Highlight where
  /-- The style names. -/
  names : PerLevel Text
  /-- Whether escape sequences are written. -/
  ansi : Bool

namespace Highlight

/-- The style names of a level without any option. -/
def defaultNames : PerLevel Text
  | .fatal | .error => "bright red".toList
  | .warn => "yellow".toList
  | .info => "green".toList
  | .debug | .trace => []

/-- The style names of the other preset. -/
def secondNames : PerLevel Text
  | .fatal => "blink bright red".toList
  | .error => "bright red".toList
  | .warn => "red".toList
  | .info => "blue".toList
  | .debug | .trace => []

/-- The preset with this name, in any case. -/
def preset? (name : Text) : Option (PerLevel Text) :=
  let name := Text.asciiUpper name
  if name = "DEFAULT".toList then some defaultNames
  else if name = "LOGBACK".toList then some secondNames
  else none

/-- The key of presets. -/
def styleKey : Text := "STYLE".toList

/-- The key that switches escape sequences off. -/
def disableKey : Text := "DISABLEANSI".toList

/-- The key that switches them off where no color is wanted. -/
def noConsoleKey : Text := "NOCONSOLENOANSI".toList

/-- Whether a value switches an option on. -/
def isOn (value : Text) : Bool := Text.sameIgnoringCase value "true".toList

/-- Applies an option that may name a preset. -/
def applyPreset (state : PerLevel Text × List Error) (pair : Text × Text) :
    PerLevel Text × List Error :=
  if pair.1 = styleKey then
    match preset? pair.2 with
    | some names => (names, state.2)
    | none =>
      (state.1, state.2 ++ [((Error.new "unknown highlight style preset").withText "option"
        pair.1).withText "style" pair.2])
  else state

/-- Applies an option that names no preset. -/
def applyOption (host : Host) (state : Highlight × List Error) (pair : Text × Text) :
    Highlight × List Error :=
  let (highlight, reports) := state
  if pair.1 = styleKey then state
  else if pair.1 = disableKey then
    ({ highlight with ansi := highlight.ansi && !isOn pair.2 }, reports)
  else if pair.1 = noConsoleKey then
    ({ highlight with ansi := highlight.ansi && !(isOn pair.2 && !host.colorize) }, reports)
  else
    match Level.ofName? pair.1 with
    | some level => ({ highlight with names := highlight.names.put level pair.2 }, reports)
    | none =>
      (highlight, reports ++ [(Error.new "unknown highlight option").withText "option" pair.1])

/-- The highlighting that an option gives, and what is reported of it. -/
def read (config : Config) (option : Option Text) : Highlight × List Error :=
  let (pairs, malformed) := match option with
    | some list => readPairs list
    | none => ([], [])
  let (names, unknownPresets) := pairs.foldl applyPreset (defaultNames, [])
  let (highlight, unknownOptions) :=
    pairs.foldl (applyOption config.host) (⟨names, config.isAnsiEnabled⟩, [])
  (highlight, malformed ++ unknownPresets ++ unknownOptions)

/-- The escape sequence of a level. -/
def sequence (highlight : Highlight) (depth : ColorDepth) (level : Level) : Text :=
  Style.sequence depth (highlight.names level)

end Highlight

end LogLine.Style
