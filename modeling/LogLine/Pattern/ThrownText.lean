/-
  Pattern/ThrownText.lean --- the text of an error attached to a record.

  The lines of the error's message come first, then the lines of each error
  behind it, the first of which is marked.
-/
import LogLine.Error
import LogLine.Record.Basic
import LogLine.Text.Numeral

set_option autoImplicit false

namespace LogLine

/-- How an attached error is written. -/
structure ThrownText where
  /-- The greatest number of lines; `none` does not bound it. -/
  limit : Option Nat := none
  /-- What stands between lines. -/
  separator : Text := ['\n']
deriving DecidableEq, Repr, Inhabited

namespace ThrownText

/-- What marks the first line of an error behind another one. -/
def causeMark : Text := "Caused by: ".toList

/-- The lines of an error behind another one. -/
def causeLines (message : Text) : List Text :=
  match Text.lines message with
  | [] => [causeMark]
  | first :: rest => (causeMark ++ first) :: rest

/-- The lines of an error and of those behind it. -/
def lines : List Text → List Text
  | [] => []
  | message :: causes => Text.lines message ++ causes.flatMap causeLines

/-- The lines that are written. -/
def keptLines (style : ThrownText) (thrown : List Text) : List Text :=
  match style.limit with
  | none => lines thrown
  | some n => (lines thrown).take n

/-- The space before an error: one, unless the output is empty or ends in white
space. -/
def leadingSpace (buffer : Text) : Text :=
  match buffer.getLast? with
  | some c => if Text.isBlank c then [] else [' ']
  | none => []

/-- What is written after `buffer` for the error of a record. -/
def output (style : ThrownText) (buffer : Text) (thrown : List Text) : Text :=
  if thrown = [] ∨ style.limit = some 0 then []
  else leadingSpace buffer ++ style.separator.intercalate (style.keptLines thrown)

/-- The separator that an option gives. -/
def separatorOf? (option : Text) : Option Text :=
  ("separator(".toList.isPrefixOf? option).bind (Text.dropEnding? [')'])

/-- Applies one option. -/
def apply (style : ThrownText) (option : Text) : Except Error ThrownText :=
  match separatorOf? option with
  | some separator => .ok { style with separator }
  | none =>
    if option = [] ∨ option = "full".toList then .ok { style with limit := none }
    else if option = "short".toList then .ok { style with limit := some 1 }
    else if option = "none".toList then .ok { style with limit := some 0 }
    else
      match Text.readSize option with
      | .ok n => .ok { style with limit := some n }
      | .error fault =>
        .error (((Error.new "invalid throwable option").withText "option" option).withCause
          (.foreign fault.message))

/-- Applies options in turn, up to the first error. -/
def applyAll (style : ThrownText) : List Text → Except Error ThrownText
  | [] => .ok style
  | option :: rest =>
    match style.apply option with
    | .ok style => style.applyAll rest
    | .error error => .error error

/-- Reads groups of options with commas between them. -/
def read (groups : List Text) : Except Error ThrownText :=
  applyAll {} ((groups.flatMap (Text.pieces ',')).map Text.trim)

end ThrownText

end LogLine
