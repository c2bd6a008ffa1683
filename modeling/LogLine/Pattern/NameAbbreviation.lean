/-
  Pattern/NameAbbreviation.lean --- shortening hierarchical names.

  The segments of a name stand between `::`, or between `.` if it has no `::`.
  A precision `N` keeps the last N segments, `-N` drops the first N, and a
  pattern such as `1.`, `1~.` or `3.*` shortens each segment but the last.
-/
import LogLine.Error
import LogLine.Text.Numeral

set_option autoImplicit false

namespace LogLine

/-- How one segment is shortened. -/
structure Fragment where
  /-- How many characters are kept; `none` keeps all. -/
  kept : Option Nat
  /-- What marks a shortened segment. -/
  ellipsis : Option Char
deriving DecidableEq, Repr, Inhabited

/-- A shortened segment. -/
def Fragment.apply (fragment : Fragment) (segment : Text) : Text :=
  match fragment.kept with
  | none => segment
  | some n =>
    if n < segment.length then segment.take n ++ fragment.ellipsis.toList else segment

/-- A way to shorten names. -/
inductive NameAbbreviation where
  /-- Names stay as they are. -/
  | whole
  /-- The last segments are kept. -/
  | keepRight (count : Nat)
  /-- The first segments are dropped. -/
  | dropLeft (count : Nat)
  /-- Each segment but the last is shortened; the last fragment is for all
  segments beyond. -/
  | fragments (fragments : List Fragment)
deriving DecidableEq, Repr, Inhabited

namespace NameAbbreviation

/-! ## Reading a precision -/

/-- Reads one fragment. -/
def readFragment? (part : Text) : Option Fragment :=
  let (kept, rest) : Option Nat × Text := match part with
    | '*' :: rest => (none, rest)
    | part => (some (Text.digitsValue 0 (part.takeWhile Char.isDigit)), part.dropWhile Char.isDigit)
  match rest with
  | [] => some ⟨kept, none⟩
  | [c] => some ⟨kept, some c⟩
  | _ => none

/-- Reads fragments; there has to be at least one. -/
def readFragments? (spec : Text) : Option (List Fragment) :=
  match ((Text.pieces '.' spec).filter (· ≠ [])).mapM readFragment? with
  | some [] => none
  | other => other

/-- Reads a precision. -/
def read (option : Text) : Except Error NameAbbreviation :=
  let spec := Text.trim option
  if spec = [] then .ok .whole
  else
    match Text.readInteger? spec with
    | some n => .ok (if 0 ≤ n then .keepRight (max n.toNat 1) else .dropLeft n.natAbs)
    | none =>
      match readFragments? spec with
      | some list => .ok (.fragments list)
      | none => .error ((Error.new "malformed name abbreviation").withText "pattern" spec)

/-! ## Shortening a name -/

/-- What stands between the segments of a name. -/
def separatorOf (name : Text) : Text :=
  if Text.contains [':', ':'] name then [':', ':'] else ['.']

/-- The text before the `count`-th separator from the right. -/
def beforeLast? (separator : Text) : Nat → Text → Option Text
  | 0, s => some s
  | count + 1, s => (Text.cutAtLast separator s).bind fun cut => beforeLast? separator count cut.1

/-- The text after the `count`-th separator from the left. -/
def afterFirst? (separator : Text) : Nat → Text → Option Text
  | 0, s => some s
  | count + 1, s => (Text.cutAt separator s).bind fun cut => afterFirst? separator count cut.2

/-- Shortens all segments but the last. -/
def shorten (separator : Text) : List Fragment → List Text → Text
  | _, [] => []
  | _, [last] => last
  | [], segment :: rest => segment ++ separator ++ shorten separator [] rest
  | [fragment], segment :: rest =>
    fragment.apply segment ++ separator ++ shorten separator [fragment] rest
  | fragment :: more, segment :: rest =>
    fragment.apply segment ++ separator ++ shorten separator more rest

/-- The short form of a name. -/
def apply (abbreviation : NameAbbreviation) (name : Text) : Text :=
  let separator := separatorOf name
  match abbreviation with
  | .whole => name
  | .keepRight count =>
    match beforeLast? separator count name with
    | some before => name.drop (before.length + separator.length)
    | none => name
  | .dropLeft count => (afterFirst? separator count name).getD name
  | .fragments list => shorten separator list (Text.piecesAt separator name)

end NameAbbreviation

end LogLine
