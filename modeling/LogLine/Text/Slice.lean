/-
  Text/Slice.lean --- parts of a text by positions and by bytes.

  A position past the end and a slice whose ends are out of order give `none`.
  A character takes one to four bytes, so that a cut at a number of bytes can
  also fall inside one, and gives `none` there.
-/
import LogLine.Text.Basic

set_option autoImplicit false

namespace LogLine.Text

/-! ## Positions -/

/-- The characters from the position `i` up to the position `j`; `none` if these
are out of order or past the end. -/
def slice? (s : Text) (i j : Nat) : Option Text :=
  if i ≤ j ∧ j ≤ s.length then some ((s.take j).drop i) else none

/-! ## Bytes -/

/-- Cuts a text a number of bytes before its end; `none` if that is inside a
character. -/
def cutBytesBeforeEnd? (bytes : Nat) (s : Text) : Option (Text × Text) :=
  if s.byteLength = bytes then some ([], s)
  else
    match s with
    | [] => none
    | c :: rest => (cutBytesBeforeEnd? bytes rest).map fun cut => (c :: cut.1, cut.2)

/-- Cuts a text a number of bytes after its beginning; `none` if that is inside
a character or past the end. -/
def cutBytes? (bytes : Nat) (s : Text) : Option (Text × Text) :=
  if bytes = 0 then some ([], s)
  else
    match s with
    | [] => none
    | c :: rest =>
      if c.utf8Size ≤ bytes then
        (cutBytes? (bytes - c.utf8Size) rest).map fun cut => (c :: cut.1, cut.2)
      else none

/-- The text from one number of bytes up to another; `none` if these are out of
order, inside a character or past the end. -/
def sliceBytes? (s : Text) (i j : Nat) : Option Text :=
  if i ≤ j then do
    let (_, rest) ← cutBytes? i s
    let (slice, _) ← cutBytes? (j - i) rest
    some slice
  else none

/-- The offset in bytes of the character at a position; `none` past the end. -/
def charOffset? : Nat → Text → Option Nat
  | _, [] => none
  | 0, _ :: _ => some 0
  | position + 1, c :: rest => (charOffset? position rest).map (c.utf8Size + ·)

end LogLine.Text
