/-
  Proofs/Pattern/NameSegments.lean --- names shortened by a number of segments.

  A precision of digits keeps so many segments at the end of a name, and one with
  a minus sign drops so many at its beginning.  The first search goes from the
  right and the second from the left; in a name without three colons in a row
  both find the same segments.  A number too great for 64 bits is read as a
  fragment that keeps more characters than any segment has:

      NameAbbreviation.afterFirst?_eq      from the left
      NameAbbreviation.beforeLast?_eq      from the right
      NameAbbreviation.exists_read_digits  precisions of digits
      NameAbbreviation.exists_read_minus   precisions with a minus sign
      NameAbbreviation.apply_precision     both, and how they agree
-/
import LogLine.Pattern.NameAbbreviation
import LogLine.Proofs.Lists
import LogLine.Proofs.Text.ReadNumeral
import LogLine.Proofs.Text.Segments

set_option autoImplicit false

namespace LogLine.NameAbbreviation

/-- The segments of a name: what stands between `::`, or between `.` if there is
no `::`. -/
def segments (name : Text) : List Text := Text.piecesAt (separatorOf name) name

/-- The last segments of a name; the name itself if it has no more. -/
def lastSegments (count : Nat) (name : Text) : Text :=
  if (segments name).length ≤ count then name
  else (separatorOf name).intercalate ((segments name).drop ((segments name).length - count))

/-- A name without its first segments; the name itself if it has no more. -/
def withoutFirst (count : Nat) (name : Text) : Text :=
  if (segments name).length ≤ count then name
  else (separatorOf name).intercalate ((segments name).drop count)

theorem separatorOf_eq (name : Text) :
    separatorOf name = if [':', ':'] <:+: name then [':', ':'] else ['.'] := by
  unfold separatorOf Text.contains
  cases hcut : Text.cutAt [':', ':'] name with
  | none => exact (if_neg (Text.cutAt_eq_none_iff.1 hcut)).symm
  | some cut =>
    have hinfix : [':', ':'] <:+: name := ⟨cut.1, cut.2, Text.append_of_cutAt hcut⟩
    exact (if_pos hinfix).symm

theorem separatorOf_ne_nil (name : Text) : separatorOf name ≠ [] := by
  unfold separatorOf
  split <;> exact List.cons_ne_nil _ _

theorem intercalate_segments (name : Text) :
    (separatorOf name).intercalate (segments name) = name :=
  Text.intercalate_piecesAt (separatorOf_ne_nil name) name

/-- Separators do not overlap unless three colons stand in a row. -/
theorem apart_separatorOf {name : Text} (h : ¬ [':', ':', ':'] <:+: name) :
    Text.Apart (separatorOf name) name := by
  unfold separatorOf
  split
  · intro p q p' q' hp hp' hlt
    by_contra hover
    simp only [List.length_cons, List.length_nil] at hover
    rw [List.append_assoc] at hp
    obtain ⟨middle, rfl, hmiddle⟩ := Text.exists_between
      (hp.symm.trans (hp'.trans (List.append_assoc p' _ q'))) (Nat.le_of_lt hlt)
    -- the second occurrence begins a character after the first
    have hone : middle.length = 1 := by
      rw [List.length_append] at hlt hover
      omega
    obtain ⟨c, rfl⟩ := List.length_eq_one_iff.1 hone
    obtain rfl : ':' = c := (List.cons.inj hmiddle).1
    exact h ⟨p, q', by rw [hp']; simp⟩
  · exact Text.apart_singleton '.' name

/-! ## Searching -/

section

variable {separator : Text} (hseparator : separator ≠ [])

include hseparator

/-- From the left, so many segments are passed. -/
theorem afterFirst?_eq (count : Nat) (s : Text) :
    afterFirst? separator count s =
      if count < (Text.piecesAt separator s).length then
        some (separator.intercalate ((Text.piecesAt separator s).drop count))
      else none := by
  induction count generalizing s with
  | zero =>
    have hpos := List.length_pos_iff.2 (Text.piecesAt_ne_nil separator s)
    rw [if_pos hpos, List.drop_zero, Text.intercalate_piecesAt hseparator, afterFirst?]
  | succ count ih =>
    rw [afterFirst?]
    cases hcut : Text.cutAt separator s with
    | none =>
      rw [Text.piecesAt_of_cutAt_eq_none hcut, List.length_singleton, if_neg (by omega)]
      rfl
    | some cut =>
      rw [Text.piecesAt_of_cutAt hseparator hcut, List.length_cons, List.drop_succ_cons,
        Option.bind_some, ih]
      simp only [Nat.add_lt_add_iff_right]

/-- From the right, so many segments are passed. -/
theorem beforeLast?_eq (count : Nat) {s : Text} (hapart : Text.Apart separator s) :
    beforeLast? separator count s =
      if count < (Text.piecesAt separator s).length then
        some (separator.intercalate
          ((Text.piecesAt separator s).take ((Text.piecesAt separator s).length - count)))
      else none := by
  induction count generalizing s with
  | zero =>
    have hpos := List.length_pos_iff.2 (Text.piecesAt_ne_nil separator s)
    rw [if_pos hpos, Nat.sub_zero, List.take_length, Text.intercalate_piecesAt hseparator,
      beforeLast?]
  | succ count ih =>
    rw [beforeLast?]
    cases hcut : Text.cutAtLast separator s with
    | none =>
      have hnone := Text.cutAt_eq_none_iff.2 (Text.cutAtLast_eq_none_iff.1 hcut)
      rw [Text.piecesAt_of_cutAt_eq_none hnone, List.length_singleton, if_neg (by omega)]
      rfl
    | some cut =>
      have hbefore : Text.Apart separator cut.1 := by
        have hs := Text.append_of_cutAtLast hcut
        rw [← hs, List.append_assoc] at hapart
        exact hapart.of_append_right
      rw [Text.piecesAt_of_cutAtLast hseparator hapart hcut, List.length_append,
        List.length_singleton, Option.bind_some, ih hbefore]
      simp only [Nat.add_lt_add_iff_right, Nat.add_sub_add_right]
      rw [List.take_append_of_le_length (Nat.sub_le _ _)]

end

/-- Segments are kept from the right. -/
theorem apply_keepRight {name : Text} (h : ¬ [':', ':', ':'] <:+: name) {count : Nat}
    (hcount : 0 < count) : (keepRight count).apply name = lastSegments count name := by
  have hbefore := beforeLast?_eq (separatorOf_ne_nil name) count (apart_separatorOf h)
  rw [← segments] at hbefore
  simp only [apply, hbefore, lastSegments]
  by_cases hall : (segments name).length ≤ count
  · rw [if_pos hall, if_neg (Nat.not_lt.2 hall)]
  · rw [if_neg hall, if_pos (Nat.lt_of_not_le hall)]
    simp only
    -- the name is what stands before the last segments, a separator, and these
    have hname : name =
        (separatorOf name).intercalate ((segments name).take ((segments name).length - count)) ++
          separatorOf name ++
          (separatorOf name).intercalate
            ((segments name).drop ((segments name).length - count)) := by
      have htake : (segments name).take ((segments name).length - count) ≠ [] := by
        refine List.length_pos_iff.1 ?_
        rw [List.length_take]
        omega
      have hdrop : (segments name).drop ((segments name).length - count) ≠ [] := by
        refine List.length_pos_iff.1 ?_
        rw [List.length_drop]
        omega
      rw [← Text.intercalate_append htake hdrop, List.take_append_drop, intercalate_segments]
    conv => lhs; arg 2; rw [hname]
    rw [← List.length_append, List.drop_left]

/-- Segments are dropped from the left. -/
theorem apply_dropLeft (name : Text) (count : Nat) :
    (dropLeft count).apply name = withoutFirst count name := by
  have hafter := afterFirst?_eq (separatorOf_ne_nil name) count name
  rw [← segments] at hafter
  simp only [apply, hafter, withoutFirst]
  by_cases hall : (segments name).length ≤ count
  · rw [if_pos hall, if_neg (Nat.not_lt.2 hall)]
    rfl
  · rw [if_neg hall, if_pos (Nat.lt_of_not_le hall)]
    rfl

/-! ## Fragments that keep everything -/

/-- A fragment that keeps each segment whole leaves the name as it is. -/
theorem shorten_of_whole {separator : Text} {fragment : Fragment} {parts : List Text}
    (h : ∀ part ∈ parts, fragment.apply part = part) :
    shorten separator [fragment] parts = separator.intercalate parts := by
  induction parts with
  | nil => rfl
  | cons first rest ih =>
    rw [List.forall_mem_cons] at h
    cases rest with
    | nil => rw [shorten, List.intercalate_singleton]
    | cons second rest =>
      rw [shorten, h.1, ih h.2, List.intercalate_cons_cons]
      exact List.cons_ne_nil second rest

/-- A fragment that keeps as many characters as the name has. -/
theorem apply_fragments_of_long {name : Text} {kept : Nat} (h : name.length ≤ kept) :
    (fragments [⟨some kept, none⟩]).apply name = name := by
  have hwhole : ∀ part ∈ segments name, Fragment.apply ⟨some kept, none⟩ part = part := by
    intro part hpart
    have hle := Text.length_le_of_mem_piecesAt (separatorOf_ne_nil name) hpart
    have hkept : ¬ kept < part.length := by omega
    rw [Fragment.apply]
    exact if_neg hkept
  exact (shorten_of_whole hwhole).trans (intercalate_segments name)

/-! ## Precisions -/

section

variable {digits : Text} (h : Text.IsNumeral digits)

include h

theorem readFragments?_digits :
    readFragments? digits = some [⟨some (Text.digitsValue 0 digits), none⟩] := by
  have hdot : '.' ∉ digits := h.not_mem rfl
  obtain ⟨hne, hdigits⟩ := h
  have htake : digits.takeWhile Char.isDigit = digits := List.takeWhile_eq_self_iff.2 hdigits
  have hdrop : digits.dropWhile Char.isDigit = [] := List.dropWhile_eq_nil_iff.2 hdigits
  have hread : readFragment? digits = some ⟨some (Text.digitsValue 0 digits), none⟩ := by
    unfold readFragment?
    split
    rename_i kept rest hparts
    split at hparts
    · exact absurd (hdigits '*' List.mem_cons_self) (by decide)
    · rw [htake, hdrop, Prod.mk.injEq] at hparts
      obtain ⟨rfl, rfl⟩ := hparts
      rfl
  have hfilter : [digits].filter (· ≠ []) = [digits] := by simp [hne]
  rw [readFragments?, Text.pieces_of_not_mem hdot, hfilter, mapM_cons_of_some hread]
  rfl

/-- A precision of digits keeps so many segments, at least one, also if the number
is too great for 64 bits. -/
theorem exists_read_digits {name : Text} (hname : ¬ [':', ':', ':'] <:+: name)
    (hlength : name.length < Nat.pow 2 63) :
    ∃ abbreviation, read digits = .ok abbreviation ∧
      abbreviation.apply name = lastSegments (max (Text.digitsValue 0 digits) 1) name := by
  have htrim : Text.trim digits = digits :=
    Text.trim_eq_self fun c hc => Text.isBlank_of_isDigit (h.2 c hc)
  unfold read
  simp only [htrim, if_neg h.1, Text.readInteger?_digits h]
  by_cases hfits : Text.digitsValue 0 digits ≤ Nat.pow 2 63 - 1
  · rw [if_pos hfits]
    refine ⟨_, rfl, ?_⟩
    rw [if_pos (Int.natCast_nonneg _), Int.toNat_natCast]
    exact apply_keepRight hname (Nat.lt_of_lt_of_le Nat.one_pos (Nat.le_max_right _ _))
  · rw [if_neg hfits, readFragments?_digits h]
    refine ⟨_, rfl, ?_⟩
    have hsegments : (segments name).length ≤ name.length + 1 :=
      Text.length_piecesAt_le (separatorOf_ne_nil name) name
    rw [apply_fragments_of_long (by omega), lastSegments, if_pos (by omega)]

/-- A precision with a minus sign drops so many segments. -/
theorem exists_read_minus (name : Text) (hpos : 1 ≤ Text.digitsValue 0 digits)
    (hfits : Text.digitsValue 0 digits ≤ Nat.pow 2 63) :
    ∃ abbreviation, read ('-' :: digits) = .ok abbreviation ∧
      abbreviation.apply name = withoutFirst (Text.digitsValue 0 digits) name := by
  have htrim : Text.trim ('-' :: digits) = '-' :: digits := by
    refine Text.trim_eq_self (List.forall_mem_cons.2 ⟨by decide, fun c hc => ?_⟩)
    exact Text.isBlank_of_isDigit (h.2 c hc)
  unfold read
  simp only [htrim, if_neg (List.cons_ne_nil _ _), Text.readInteger?_minus h, if_pos hfits]
  refine ⟨_, rfl, ?_⟩
  rw [if_neg (by omega), Int.natAbs_neg, Int.natAbs_natCast]
  exact apply_dropLeft name _

end

/-- In a name without three colons in a row and of less than `2 ^ 63` characters,
the segments are the parts between `::` if the name has that, and between `.`
otherwise.  A precision of digits keeps so many of the last segments, at least
one; a precision with a minus sign and a number from 1 to `2 ^ 63` drops so many of
the first ones; in both cases a name that has no more segments is kept.  So
dropping some segments, but not all, is the same as keeping the others. -/
theorem apply_precision {name : Text} (hname : ¬ [':', ':', ':'] <:+: name)
    (hlength : name.length < Nat.pow 2 63) {digits : Text} (hdigits : Text.IsNumeral digits) :
    (separatorOf name = (if [':', ':'] <:+: name then [':', ':'] else ['.']) ∧
      (separatorOf name).intercalate (segments name) = name ∧
      ∀ segment ∈ segments name, ¬ separatorOf name <:+: segment) ∧
    (∃ abbreviation, read digits = .ok abbreviation ∧
      abbreviation.apply name = lastSegments (max (Text.digitsValue 0 digits) 1) name) ∧
    (1 ≤ Text.digitsValue 0 digits → Text.digitsValue 0 digits ≤ Nat.pow 2 63 →
      ∃ abbreviation, read ('-' :: digits) = .ok abbreviation ∧
        abbreviation.apply name = withoutFirst (Text.digitsValue 0 digits) name) ∧
    ∀ others, Text.IsNumeral others → 1 ≤ Text.digitsValue 0 digits →
      Text.digitsValue 0 digits < (segments name).length →
      Text.digitsValue 0 others = (segments name).length - Text.digitsValue 0 digits →
      ∃ drop keep, read ('-' :: digits) = .ok drop ∧ read others = .ok keep ∧
        drop.apply name = keep.apply name := by
  refine ⟨⟨separatorOf_eq name, intercalate_segments name, fun segment hsegment => ?_⟩,
    exists_read_digits hdigits hname hlength, exists_read_minus hdigits name, ?_⟩
  · exact Text.not_infix_of_mem_piecesAt (separatorOf_ne_nil name) hsegment
  · intro others hothers hpos hlt hsum
    have hsegments : (segments name).length ≤ name.length + 1 :=
      Text.length_piecesAt_le (separatorOf_ne_nil name) name
    obtain ⟨drop, hdrop, hdropped⟩ := exists_read_minus hdigits name hpos (by omega)
    obtain ⟨keep, hkeep, hkept⟩ := exists_read_digits hothers hname hlength
    have hcount : max (Text.digitsValue 0 others) 1 =
        (segments name).length - Text.digitsValue 0 digits := by omega
    have hback : (segments name).length -
        ((segments name).length - Text.digitsValue 0 digits) = Text.digitsValue 0 digits := by
      omega
    refine ⟨drop, keep, hdrop, hkeep, ?_⟩
    rw [hdropped, hkept, hcount, withoutFirst, lastSegments, hback, if_neg (by omega),
      if_neg (by omega)]

/-- A name that begins and ends with a separator and has dots as well. -/
def crowdedName : Text := "::app::db.pool::".toList

theorem apply_precision_crowdedName :
    (¬ [':', ':', ':'] <:+: crowdedName) ∧ crowdedName.length < Nat.pow 2 63 ∧
      Text.IsNumeral "01".toList ∧ Text.IsNumeral "3".toList ∧
      segments crowdedName = ["".toList, "app".toList, "db.pool".toList, "".toList] ∧
      ∃ drop keep, read "-01".toList = .ok drop ∧ read "3".toList = .ok keep ∧
        drop.apply crowdedName = keep.apply crowdedName := by
  have hcolons : ¬ [':', ':', ':'] <:+: crowdedName := by decide
  have hlength : crowdedName.length < Nat.pow 2 63 := by decide
  have hdigits : Text.IsNumeral "01".toList := by decide
  have hothers : Text.IsNumeral "3".toList := by decide
  have hsegments : segments crowdedName =
      ["".toList, "app".toList, "db.pool".toList, "".toList] := by decide
  refine ⟨hcolons, hlength, hdigits, hothers, hsegments, ?_⟩
  exact (apply_precision hcolons hlength hdigits).2.2.2 "3".toList hothers (by decide)
    (by rw [hsegments]; decide) (by rw [hsegments]; decide)

end LogLine.NameAbbreviation
