/-
  Proofs/Pattern/FittedField.lean --- a field in its widths.

  A field keeps the lesser of its length and its greatest width, and it is filled
  up to its least one.  `Fitted` says this of characters.  In a buffer the field
  begins at a byte, and it is edited there: characters are counted, the offset of
  one of them is looked for, and the buffer is cut or spaces are put in at an
  offset.  Each of these offsets is between two characters, and the edits come to
  what the widths ask for:

      FieldWidth.fitted_fit             the widths as they are applied to a field
      FieldWidth.shortened?_append      the cut at byte offsets
      FieldWidth.edited?_append         all edits at byte offsets
      FieldWidth.adjust_fits            both, and once again
-/
import LogLine.Pattern.FieldWidth
import LogLine.Proofs.Text.Slices

set_option autoImplicit false

namespace LogLine

namespace Text

/-- Up to a position, or the end if there is no such character. -/
theorem charOffset?_getD (position : Nat) (s : Text) :
    (charOffset? position s).getD (byteLength s) = byteLength (s.take position) := by
  induction s generalizing position with
  | nil => simp [charOffset?]
  | cons c rest ih =>
    cases position with
    | zero => rfl
    | succ position =>
      rw [List.take_succ_cons, byteLength_cons, byteLength_cons, ← ih position, charOffset?]
      cases charOffset? position rest <;> rfl

end Text

namespace FieldWidth

/-- What a field is to become: the last characters it keeps and spaces after
them if it is left-aligned, and spaces and the first ones if it is not, in as many
characters as the widths ask for. -/
structure Fitted (width : FieldWidth) (field shown : Text) : Prop where
  length : shown.length = max width.least (width.keptLength field.length)
  left : width.left = true →
    shown = field.drop (field.length - width.keptLength field.length) ++
      List.replicate (width.least - width.keptLength field.length) ' '
  right : width.left = false →
    shown = List.replicate (width.least - width.keptLength field.length) ' ' ++
      field.take (width.keptLength field.length)

section

-- The greatest size stands for no bound, so no text may be longer than that.
variable (width : FieldWidth) {field : Text}

theorem cut_eq (h : width.bound = maxSize → field.length ≤ maxSize) :
    width.cut field =
      if width.left then field.drop (field.length - width.keptLength field.length)
      else field.take (width.keptLength field.length) := by
  have hshort : field.length ≤ width.bound → width.keptLength field.length = field.length :=
    Nat.min_eq_left
  unfold cut
  split
  · rename_i hnone
    have hbound : width.bound = maxSize := by rw [bound, hnone]; rfl
    rw [hshort (hbound ▸ h hbound)]
    simp
  · rename_i most hsome
    have hbound : width.bound = most := by rw [bound, hsome]; rfl
    rw [← hbound]
    split
    · rename_i hle
      rw [hshort hle]
      simp
    · rename_i hlong
      rw [keptLength, Nat.min_eq_right (Nat.le_of_not_le hlong)]

theorem length_cut (h : width.bound = maxSize → field.length ≤ maxSize) :
    (width.cut field).length = width.keptLength field.length := by
  have hkept : width.keptLength field.length ≤ field.length := Nat.min_le_left _ _
  rw [cut_eq width h]
  split
  · rw [List.length_drop]
    omega
  · rw [List.length_take, Nat.min_eq_left hkept]

/-- Cutting and then filling a field gives what the widths ask for. -/
theorem fitted_fit (h : width.bound = maxSize → field.length ≤ maxSize) :
    width.Fitted field (width.fit field) := by
  refine ⟨?_, fun hleft => ?_, fun hright => ?_⟩
  · rw [fit, length_fill, length_cut width h]
  · rw [fit, fill, length_cut width h, cut_eq width h]
    simp [hleft]
  · rw [fit, fill, length_cut width h, cut_eq width h]
    simp [hright]

/-- A field that is not longer than its greatest width and not shorter than its
least one stays as it is. -/
theorem fit_of_length {shown : Text} (hleast : width.least ≤ shown.length)
    (hmost : shown.length ≤ width.bound) : width.fit shown = shown := by
  have hcut : width.cut shown = shown := by
    unfold cut
    split
    · rfl
    · rename_i most hsome
      have hbound : width.bound = most := by rw [bound, hsome]; rfl
      rw [if_pos (hbound ▸ hmost)]
  rw [fit, hcut, fill, Nat.sub_eq_zero_of_le hleast]
  simp

end

/-! ## Edits at byte offsets -/

section

variable (width : FieldWidth) (before : Text) {field : Text}

theorem shortened?_append (h : width.bound = maxSize → field.length ≤ maxSize) :
    width.shortened? (Text.byteLength before) (before ++ field) =
      some (before ++ width.cut field) := by
  have hcut : ∀ position, Text.cutBytes?
      (Text.byteLength before + Text.byteLength (field.take position)) (before ++ field) =
        some (before ++ field.take position, field.drop position) := by
    intro position
    have happend := Text.cutBytes?_append (before ++ field.take position) (field.drop position)
    rwa [List.append_assoc, List.take_append_drop, Text.byteLength_append] at happend
  rw [cut_eq width h]
  simp only [shortened?, Text.cutBytes?_append, Option.bind_eq_bind, Option.bind_some,
    Text.charOffset?_getD, hcut]
  split
  · rename_i hshort
    rw [keptLength, Nat.min_eq_left hshort]
    simp
  · rename_i hlong
    rw [keptLength, Nat.min_eq_right (Nat.le_of_not_le hlong)]
    split <;> rfl

theorem padded?_append (missing : Nat) (text : Text) :
    width.padded? (Text.byteLength before) missing (before ++ text) =
      some (before ++ if width.left then text ++ List.replicate missing ' '
        else List.replicate missing ' ' ++ text) := by
  unfold padded?
  split
  · rw [List.append_assoc]
  · simp only [Text.cutBytes?_append, Option.bind_eq_bind, Option.bind_some, List.append_assoc]

/-- Each edit is made between two characters, and together they fit the field. -/
theorem edited?_append (h : width.bound = maxSize → field.length ≤ maxSize) :
    width.edited? (Text.byteLength before) (before ++ field) =
      some (before ++ width.fit field) := by
  simp only [edited?, Text.cutBytes?_append, shortened?_append width before h,
    Option.bind_eq_bind, Option.bind_some]
  split
  · rw [padded?_append, fit, fill, length_cut width h]
  · rename_i hfull
    rw [fit, fill, length_cut width h, Nat.sub_eq_zero_of_le (Nat.le_of_not_lt hfull)]
    simp

/-- Widths that bound nothing leave a field as it is. -/
theorem editedIfBounded?_append (h : width.bound = maxSize → field.length ≤ maxSize) :
    width.editedIfBounded? (Text.byteLength before) (before ++ field) =
      some (before ++ width.fit field) := by
  unfold editedIfBounded?
  split
  · rename_i hnone
    have hleast : width.least ≤ field.length := hnone.1 ▸ Nat.zero_le _
    rw [fit_of_length width hleast (hnone.2.symm ▸ h hnone.2)]
  · exact edited?_append width before h

/-- The law of field widths.  A field, wherever it stands in a buffer, becomes what
its widths ask for, and the text before it stays; and so do the edits at byte
offsets, whether those for widths that bound nothing are left out or not.  Where
the least width does not pass the greatest, doing it once more changes nothing. -/
theorem adjust_fits (h : field.length ≤ maxSize) :
    ∃ shown, width.Fitted field shown ∧
      width.adjust before.length (before ++ field) = before ++ shown ∧
      width.edited? (Text.byteLength before) (before ++ field) = some (before ++ shown) ∧
      width.editedIfBounded? (Text.byteLength before) (before ++ field) = some (before ++ shown) ∧
      (width.least ≤ width.bound →
        width.adjust before.length (before ++ shown) = before ++ shown ∧
          width.editedIfBounded? (Text.byteLength before) (before ++ shown) =
            some (before ++ shown)) := by
  have hfitted := fitted_fit width fun _ => h
  refine ⟨width.fit field, hfitted, adjust_append width before field,
    edited?_append width before fun _ => h, editedIfBounded?_append width before fun _ => h,
    fun hwidths => ?_⟩
  have hleast : width.least ≤ (width.fit field).length := by
    rw [hfitted.length]
    exact Nat.le_max_left _ _
  have hmost : (width.fit field).length ≤ width.bound := by
    rw [hfitted.length]
    exact Nat.max_le.2 ⟨hwidths, Nat.min_le_right _ _⟩
  have hagain := fit_of_length width hleast hmost
  have hbytes := editedIfBounded?_append width before fun hbound => hbound ▸ hmost
  rw [adjust_append, hbytes, hagain]
  exact ⟨rfl, rfl⟩

/-- A left-aligned field of three or four characters. -/
def narrow : FieldWidth := { left := true, least := 3, most := some 4 }

theorem adjust_fits_narrow :
    "naïve".toList.length ≤ maxSize ∧ narrow.least ≤ narrow.bound ∧
      narrow.adjust 2 "日:naïve".toList = "日:aïve".toList ∧
      narrow.edited? 4 "日:naïve".toList = some "日:aïve".toList ∧
      narrow.editedIfBounded? 4 "日:aïve".toList = some "日:aïve".toList := by
  have hlength : "naïve".toList.length ≤ maxSize := by decide
  have hwidths : narrow.least ≤ narrow.bound := by decide
  obtain ⟨shown, hfitted, hadjust, hedited, -, hagain⟩ :=
    adjust_fits narrow "日:".toList hlength
  obtain rfl : shown = "aïve".toList := hfitted.left rfl
  exact ⟨hlength, hwidths, hadjust, hedited, (hagain hwidths).2⟩

end

end FieldWidth

end LogLine
