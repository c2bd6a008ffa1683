/-
  Pattern/LevelLabels.lean --- the labels that a pattern writes for levels.

  Options set the length and the case of all labels, or one label as a whole;
  a label set as a whole is written as given.  An option without `=` or with an
  unknown key is reported and has no effect; a length that is no number is an
  error.
-/
import LogLine.Style.Highlight
import LogLine.Text.Numeral

set_option autoImplicit false

namespace LogLine

/-- What the options of a level specifier say. -/
structure LevelLabels where
  /-- How many characters of a level's name are kept. -/
  length : Option Nat := none
  /-- Whether names are written in lower case. -/
  lowerCase : Bool := false
  /-- Labels given as a whole. -/
  custom : Style.PerLevel (Option Text) := fun _ => none

namespace LevelLabels

/-- The label of a level. -/
def label (labels : LevelLabels) (level : Level) : Text :=
  match labels.custom level with
  | some label => label
  | none =>
    let name := match labels.length with
      | some n => level.name.take n
      | none => level.name
    if labels.lowerCase then Text.asciiLower name else name

/-- Applies one option; a report leaves the labels as they are. -/
def apply (labels : LevelLabels) (option : Text) : Except Error (LevelLabels × List Error) :=
  match Text.splitOnce '=' option with
  | none =>
    .ok (labels,
      [(Error.new "invalid level option, expected KEY=VALUE").withText "option" option])
  | some (key, value) =>
    let key := Text.trim key
    let value := Text.trim value
    if key = "length".toList then
      match Text.readSize value with
      | .ok n => .ok ({ labels with length := some n }, [])
      | .error fault =>
        .error (((Error.new "invalid level label length").withText "length" value).withCause
          (.foreign fault.message))
    else if key = "lowerCase".toList then
      .ok ({ labels with lowerCase := Text.sameIgnoringCase value "true".toList }, [])
    else
      match Level.ofName? key with
      | some level => .ok ({ labels with custom := labels.custom.put level (some value) }, [])
      | none =>
        .ok (labels, [(Error.new "invalid level option, unknown key").withText "option" option])

/-- Applies options in turn, up to the first error. -/
def applyAll (labels : LevelLabels) : List Text → Except Error LevelLabels × List Error
  | [] => (.ok labels, [])
  | option :: rest =>
    match labels.apply option with
    | .error error => (.error error, [])
    | .ok (labels, reports) =>
      let (result, later) := applyAll labels rest
      (result, reports ++ later)

/-- The labels that a list of options gives, and what is reported of it. -/
def read (list : Text) : Except Error LevelLabels × List Error :=
  applyAll {} (((Text.pieces ',' list).map Text.trim).filter (· ≠ []))

end LevelLabels

end LogLine
