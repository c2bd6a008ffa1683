/-
  Pattern/Report.lean --- what is wrong in a pattern.

  Problems never fail a pattern: they are reported, and the text stays.
-/
import LogLine.Error

set_option autoImplicit false

namespace LogLine

/-- Why a specifier is not resolved. -/
inductive SpecifierFault where
  /-- Its least width passes the limit. -/
  | widthTooLarge (width limit : Nat)
  /-- It has no key. -/
  | emptyKey
  /-- No beginning of its key is known. -/
  | unknownKey (key : Text)
  /-- The plugin of its key refused its options. -/
  | refused (key plugin : Text) (cause : Error)

/-- The error for a specifier that is not resolved. -/
def SpecifierFault.toError : SpecifierFault → Error
  | .widthTooLarge width limit =>
    ((Error.new "minimum field width too large").withNumber "width" width).withNumber "limit" limit
  | .emptyKey => Error.new "empty conversion specifier"
  | .unknownKey key => (Error.new "unrecognized conversion specifier").withText "specifier" key
  | .refused key plugin cause =>
    (((Error.new "failed to create converter").withText "specifier" key).withText "converter"
      plugin).withCause (.error cause)

/-- One problem of a pattern. -/
inductive Report where
  /-- A character that is no digit stands after a dot. -/
  | malformedDot (position : Nat) (found : Char)
  /-- A specifier is not resolved; the position is that of its percent sign. -/
  | failedSpecifier (position : Nat) (fault : SpecifierFault)
  /-- An option has no effect. -/
  | ignoredOption (error : Error)

/-- The error that a problem is reported as. -/
def Report.toError : Report → Error
  | .malformedDot position found =>
    ((Error.new "malformed conversion specifier, expected a digit after '.'").withNumber "position"
      position).withText "found" [found]
  | .failedSpecifier position fault => fault.toError.withNumber "position" position
  | .ignoredOption error => error

end LogLine
