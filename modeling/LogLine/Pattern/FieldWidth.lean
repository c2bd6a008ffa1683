/-
  Pattern/FieldWidth.lean --- the least and the greatest width of a field.

  A field is first cut to its greatest width and then filled with spaces to its
  least one.  A left-aligned field keeps its end when it is cut and is filled
  after its text; a right-aligned one keeps its beginning and is filled before
  its text.  In a buffer the field begins at a byte, and it can be edited there, at
  the byte offsets of characters.
-/
import LogLine.Text.Numeral
import LogLine.Text.Slice

set_option autoImplicit false

namespace LogLine

/-- Alignment and widths of a field, in characters. -/
structure FieldWidth where
  /-- Whether the field is left-aligned. -/
  left : Bool := false
  /-- The least width. -/
  least : Nat := 0
  /-- The greatest width; `none` does not bound it. -/
  most : Option Nat := none
deriving DecidableEq, Repr, Inhabited

namespace FieldWidth

/-- The widths that change nothing. -/
def natural : FieldWidth := {}

/-- The part of a field that its greatest width keeps. -/
def cut (width : FieldWidth) (field : Text) : Text :=
  match width.most with
  | none => field
  | some bound =>
    if field.length ≤ bound then field
    else if width.left then field.drop (field.length - bound)
    else field.take bound

/-- A field filled with spaces to its least width. -/
def fill (width : FieldWidth) (field : Text) : Text :=
  let spaces := List.replicate (width.least - field.length) ' '
  if width.left then field ++ spaces else spaces ++ field

/-- The field as it stands in the output. -/
def fit (width : FieldWidth) (field : Text) : Text := width.fill (width.cut field)

/-- Fits what was written to a buffer since it had `start` characters. -/
def adjust (width : FieldWidth) (start : Nat) (buffer : Text) : Text :=
  if width.least = 0 ∧ width.most = none then buffer
  else buffer.take start ++ width.fit (buffer.drop start)

theorem cut_of_most_none {width : FieldWidth} (h : width.most = none) (field : Text) :
    width.cut field = field := by
  simp [cut, h]

theorem length_fill (width : FieldWidth) (field : Text) :
    (width.fill field).length = max width.least field.length := by
  unfold fill
  split <;> simp <;> omega

theorem fill_of_least_zero {width : FieldWidth} (h : width.least = 0) (field : Text) :
    width.fill field = field := by
  simp [fill, h]

/-- The widths that bound nothing are no exception to the rule. -/
theorem adjust_eq (width : FieldWidth) (start : Nat) (buffer : Text) :
    width.adjust start buffer = buffer.take start ++ width.fit (buffer.drop start) := by
  unfold adjust
  split
  · rename_i h
    simp [fit, cut_of_most_none h.2, fill_of_least_zero h.1]
  · rfl

/-- Only the field changes, never the text before it. -/
theorem adjust_append (width : FieldWidth) (before field : Text) :
    width.adjust before.length (before ++ field) = before ++ width.fit field := by
  simp [adjust_eq]

/-! ## Edits at byte offsets -/

/-- The greatest width as a size: the greatest size stands for none. -/
def bound (width : FieldWidth) : Nat := width.most.getD maxSize

/-- How many of some characters are kept. -/
def keptLength (width : FieldWidth) (count : Nat) : Nat := min count width.bound

/-- Cuts the text of a buffer since a byte offset to the greatest width: either
the bytes of its first characters are taken out, or the buffer ends with the bytes
of those that are kept. -/
def shortened? (width : FieldWidth) (start : Nat) (buffer : Text) : Option Text := do
  let (before, field) ← Text.cutBytes? start buffer
  if field.length ≤ width.bound then some buffer
  else if width.left then
    let excess := (Text.charOffset? (field.length - width.bound) field).getD (Text.byteLength field)
    let (_, kept) ← Text.cutBytes? (start + excess) buffer
    some (before ++ kept)
  else
    let keep := (Text.charOffset? width.bound field).getD (Text.byteLength field)
    let (kept, _) ← Text.cutBytes? (start + keep) buffer
    some kept

/-- Puts spaces at the end of a buffer, or in at a byte offset of it. -/
def padded? (width : FieldWidth) (start missing : Nat) (buffer : Text) : Option Text :=
  if width.left then some (buffer ++ List.replicate missing ' ')
  else do
    let (before, field) ← Text.cutBytes? start buffer
    some (before ++ List.replicate missing ' ' ++ field)

/-- Edits the text of a buffer since a byte offset; `none` if some offset is inside
a character or past the end. -/
def edited? (width : FieldWidth) (start : Nat) (buffer : Text) : Option Text := do
  let (_, field) ← Text.cutBytes? start buffer
  let count := width.keptLength field.length
  let cut ← width.shortened? start buffer
  if count < width.least then width.padded? start (width.least - count) cut else some cut

/-- Leaves the edits out for widths that bound nothing. -/
def editedIfBounded? (width : FieldWidth) (start : Nat) (buffer : Text) : Option Text :=
  if width.least = 0 ∧ width.bound = maxSize then some buffer else width.edited? start buffer

end FieldWidth

end LogLine
