/-
  Pattern/Piece.lean --- what a conversion pattern is made of.

  A pattern is literal text and specifiers `%[-][min][.max]key{option}...`.
  Each piece knows the characters of the pattern that it stands for
  (`Piece.source`), so that a reader of patterns can be held to losing none.
-/
import LogLine.Pattern.FieldWidth
import LogLine.Text.Numeral

set_option autoImplicit false

namespace LogLine

/-- A complete specifier of a pattern. -/
structure Specifier where
  /-- The place of its percent sign. -/
  position : Nat
  /-- Its characters, from the percent sign through its last option. -/
  raw : Text
  /-- Alignment and widths. -/
  width : FieldWidth
  /-- The conversion key, empty if no letter follows the widths. -/
  key : Text
  /-- The options: the texts between its braces. -/
  options : List Text
deriving DecidableEq, Repr, Inhabited

/-- One piece of a pattern. -/
inductive Piece where
  /-- A character that stands for itself. -/
  | literal (c : Char)
  /-- Two percent signs, which stand for one. -/
  | percent
  /-- A complete specifier. -/
  | specifier (specifier : Specifier)
  /-- The beginning of a specifier up to a dot that no digit follows, the place
  of what follows it, and that character. -/
  | malformedDot (raw : Text) (position : Nat) (found : Char)
  /-- A specifier that the end of the pattern cuts off. -/
  | unfinished (raw : Text)
deriving DecidableEq, Repr, Inhabited

/-- The characters of the pattern that a piece stands for. -/
def Piece.source : Piece → Text
  | .literal c => [c]
  | .percent => ['%', '%']
  | .specifier spec => spec.raw
  | .malformedDot raw _ _ => raw
  | .unfinished raw => raw

/-- The options of a piece: those of a complete specifier. -/
def Piece.options : Piece → List Text
  | .specifier spec => spec.options
  | _ => []

end LogLine
