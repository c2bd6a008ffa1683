/-
  Pattern/Plugin.lean --- how keys become converters.

  A plugin answers to some keys and makes a converter from the options after
  one of them.  An option can be taken as text, or as a pattern of its own:
  the pattern is compiled when a plugin asks for it.
-/
import LogLine.Pattern.Converter
import LogLine.Pattern.Report

set_option autoImplicit false

namespace LogLine

/-- What compiling a pattern gives. -/
inductive Compilation where
  /-- A pattern, and the problems found in it. -/
  | done (pattern : Pattern) (reports : List Report)
  /-- A text was cut inside a character. -/
  | brokenCharacter

/-- An option of a specifier. -/
structure Argument where
  /-- Its text. -/
  text : Text
  /-- The pattern that the text is, if it is to be one. -/
  asPattern : Thunk Compilation

/-- What making a converter gives. -/
inductive Creation where
  /-- A converter, and the problems found on the way. -/
  | made (converter : Converter) (reports : List Report)
  /-- A refusal, and the problems found before it. -/
  | refused (error : Error) (reports : List Report)
  /-- A text was cut inside a character. -/
  | brokenCharacter

namespace Creation

/-- The same outcome with problems that were found before. -/
def after (earlier : List Report) : Creation → Creation
  | .made converter reports => .made converter (earlier ++ reports)
  | .refused error reports => .refused error (earlier ++ reports)
  | .brokenCharacter => .brokenCharacter

/-- A converter, or the refusal of an option. -/
def ofExcept : Except Error Converter → Creation
  | .ok converter => .made converter []
  | .error error => .refused error []

/-- A converter, or why there is none. -/
def ofFaults : Except Fault Converter → Creation
  | .ok converter => .made converter []
  | .error (.error error) => .refused error []
  | .error .brokenCharacter => .brokenCharacter

/-- Goes on with a compiled pattern. -/
def ofPattern (compilation : Compilation) (next : Pattern → Creation) : Creation :=
  match compilation with
  | .done pattern reports => (next pattern).after reports
  | .brokenCharacter => .brokenCharacter

end Creation

/-- A kind of converter: the keys it answers to and how it is made. -/
structure Plugin where
  /-- Its name, shown in errors. -/
  name : Text
  /-- The kind of table that it is meant for. -/
  category : Text
  /-- Its keys; upper and lower case differ. -/
  keys : List Text
  /-- Makes a converter from the settings and the options after the key. -/
  create : Config → List Argument → Creation

/-- Plugins in the order they were registered. -/
abbrev Registry := List Plugin

/-- The category of converters. -/
def converterCategory : Text := "Converter".toList

end LogLine
