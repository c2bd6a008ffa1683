/-
  Text/Justify.lean --- cutting a text to a precision and padding it to a width.
-/
import LogLine.Text.Basic

set_option autoImplicit false

namespace LogLine.Text

/-- Where a text stands in a wider field. -/
inductive Alignment where
  /-- At the beginning of the field. -/
  | left
  /-- At the end of the field. -/
  | right
  /-- In the middle, an odd filler after it. -/
  | center
deriving DecidableEq, Repr, Inhabited

/-- The text cut to `precision` characters, if one is given, and then filled to
`width` characters. -/
def justify (alignment : Alignment) (fill : Char) (width : Nat) (precision : Option Nat)
    (s : Text) : Text :=
  let kept := match precision with
    | some n => s.take n
    | none => s
  let missing := width - kept.length
  match alignment with
  | .left => kept ++ List.replicate missing fill
  | .right => List.replicate missing fill ++ kept
  | .center =>
    List.replicate (missing / 2) fill ++ kept ++ List.replicate (missing - missing / 2) fill

end LogLine.Text
