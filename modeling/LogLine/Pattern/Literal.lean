/-
  Pattern/Literal.lean --- literal text: escapes and variables.

  Backslash escapes are read once, when the text is made.  Variables
  `${name}` and `${name:-default}` are looked up each time the text is
  written; a value is inserted as it is and not searched again.
-/
import LogLine.Pattern.Config

set_option autoImplicit false

namespace LogLine

/-- Literal text of a pattern. -/
structure Literal where
  /-- The text, its escapes already read. -/
  text : Text
  /-- Where its variables are looked up; `none` writes the text as it is. -/
  lookups : Option Lookups := none
deriving DecidableEq, Repr, Inhabited

namespace Literal

/-- The character that a backslash before `c` stands for. -/
def escaped : Char → Char
  | 'n' => '\n'
  | 'r' => '\r'
  | 't' => '\t'
  | 'f' => '\x0c'
  | 'b' => '\x08'
  | c => c

/-- Reads backslash escapes; a backslash at the end stays. -/
def convertBackslashes : Text → Text
  | [] => []
  | ['\\'] => ['\\']
  | '\\' :: c :: rest => escaped c :: convertBackslashes rest
  | c :: rest => c :: convertBackslashes rest

/-- What opens a variable. -/
def opening : Text := ['$', '\x7b']

/-- What stands between the name and the default of a variable. -/
def defaultMark : Text := [':', '-']

/-- What is written for the variable with this body: its value, else its
default, else the variable itself. -/
def expand (lookups : Lookups) (body : Text) : Text :=
  let (name, default) := match Text.cutAt defaultMark body with
    | some (name, default) => (name, some default)
    | none => (body, none)
  match lookups.find? name, default with
  | some value, _ => value
  | none, some default => default
  | none, none => opening ++ body ++ ['\x7d']

/-- Writes a text with its variables replaced; `fuel` bounds their number. -/
def substituteWithin (lookups : Lookups) : Nat → Text → Text
  | 0, s => s
  | fuel + 1, s =>
    match Text.cutAt opening s with
    | none => s
    | some (before, after) =>
      match Text.splitOnce '\x7d' after with
      | none => s
      | some (body, rest) => before ++ expand lookups body ++ substituteWithin lookups fuel rest

/-- Writes a text with its variables replaced. -/
def substitute (lookups : Lookups) (s : Text) : Text := substituteWithin lookups s.length s

/-- Text that is written as it is. -/
def verbatim (text : Text) : Literal := { text }

/-- Literal text of a pattern with these settings. -/
def ofConfig (config : Config) (text : Text) : Literal :=
  let text := if config.convertBackslashes then convertBackslashes text else text
  { text, lookups := if config.hasLookups && Text.contains opening text then some config.lookups
      else none }

/-- Whether the text depends on variables. -/
def isVariable (literal : Literal) : Bool := literal.lookups.isSome

/-- The text that is written. -/
def output (literal : Literal) : Text :=
  match literal.lookups with
  | some lookups => substitute lookups literal.text
  | none => literal.text

theorem output_ofConfig_of_no_lookups {config : Config} (text : Text)
    (hb : config.convertBackslashes = false) (hl : config.hasLookups = false) :
    (ofConfig config text).output = text := by
  simp [ofConfig, output, hb, hl]

end Literal

end LogLine
