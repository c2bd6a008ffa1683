/-
  Proofs/Text/LetterCase.lean --- the case of ASCII letters.

  Upper and lower case differ by 32 in the value of a letter, and no other
  character has a case.  Texts are the same up to case exactly when they are the
  same in upper case, and white space has no case:

      Text.toUpper_toLower          case is forgotten either way
      Text.sameIgnoringCase_iff     sameness up to case
      Text.isBlank_toUpper          white space
-/
import LogLine.Proofs.Text.ReadNumeral

set_option autoImplicit false

namespace LogLine.Text

/-! ## Characters -/

theorem toNat_toLower (c : Char) :
    c.toLower.toNat = if 65 ≤ c.toNat ∧ c.toNat ≤ 90 then c.toNat + 32 else c.toNat := by
  unfold Char.toLower
  split
  · rename_i h
    have hletter : 65 ≤ c.toNat ∧ c.toNat ≤ 90 := h
    have hgap : ('a'.val - 'A'.val).toNat = 32 := rfl
    have hsum : (c.val + ('a'.val - 'A'.val)).toNat = c.toNat + 32 := by
      have hvalue : c.val.toNat = c.toNat := rfl
      rw [UInt32.toNat_add, hgap, hvalue]
      omega
    rw [if_pos hletter]
    exact hsum
  · rename_i h
    exact (if_neg (c := 65 ≤ c.toNat ∧ c.toNat ≤ 90) h).symm

theorem toNat_toUpper (c : Char) :
    c.toUpper.toNat = if 97 ≤ c.toNat ∧ c.toNat ≤ 122 then c.toNat - 32 else c.toNat := by
  unfold Char.toUpper
  split
  · rename_i h
    have hletter : 97 ≤ c.toNat ∧ c.toNat ≤ 122 := h
    -- the gap is added as its complement in 32 bits
    have hgap : ('A'.val - 'a'.val).toNat = 4294967264 := rfl
    have hsum : (c.val + ('A'.val - 'a'.val)).toNat = c.toNat - 32 := by
      have hvalue : c.val.toNat = c.toNat := rfl
      rw [UInt32.toNat_add, hgap, hvalue]
      omega
    rw [if_pos hletter]
    exact hsum
  · rename_i h
    exact (if_neg (c := 97 ≤ c.toNat ∧ c.toNat ≤ 122) h).symm

theorem toUpper_toLower (c : Char) : c.toLower.toUpper = c.toUpper := by
  rw [← Char.toNat_inj, toNat_toUpper, toNat_toUpper, toNat_toLower]
  by_cases hupper : 65 ≤ c.toNat ∧ c.toNat ≤ 90
  · rw [if_pos hupper, if_pos (by omega), if_neg (by omega), Nat.add_sub_cancel]
  · rw [if_neg hupper]

theorem toLower_toUpper (c : Char) : c.toUpper.toLower = c.toLower := by
  rw [← Char.toNat_inj, toNat_toLower, toNat_toLower, toNat_toUpper]
  by_cases hlower : 97 ≤ c.toNat ∧ c.toNat ≤ 122
  · rw [if_pos hlower, if_pos (by omega), if_neg (by omega), Nat.sub_add_cancel (by omega)]
  · rw [if_neg hlower]

/-- A character is in upper case already, or is a letter in lower case. -/
theorem toUpper_eq_self_or (c : Char) :
    c.toUpper = c ∨ 97 ≤ c.toNat ∧ c.toNat ≤ 122 ∧ c.toUpper.toNat = c.toNat - 32 := by
  by_cases hlower : 97 ≤ c.toNat ∧ c.toNat ≤ 122
  · exact .inr ⟨hlower.1, hlower.2, by rw [toNat_toUpper, if_pos hlower]⟩
  · left
    rw [← Char.toNat_inj, toNat_toUpper, if_neg hlower]

/-- White space is no letter, in either case. -/
theorem isBlank_toUpper (c : Char) : isBlank c.toUpper = isBlank c := by
  rcases toUpper_eq_self_or c with hsame | ⟨hlow, hhigh, hupper⟩
  · rw [hsame]
  · rw [isBlank_eq_false (c := c) (by omega) (by omega),
      isBlank_eq_false (c := c.toUpper) (by omega) (by omega)]

/-! ## Texts -/

theorem asciiUpper_asciiLower (s : Text) : asciiUpper (asciiLower s) = asciiUpper s := by
  rw [asciiUpper, asciiLower, List.map_map]
  exact List.map_congr_left fun c _ => toUpper_toLower c

theorem asciiLower_asciiUpper (s : Text) : asciiLower (asciiUpper s) = asciiLower s := by
  rw [asciiLower, asciiUpper, List.map_map]
  exact List.map_congr_left fun c _ => toLower_toUpper c

theorem asciiUpper_asciiUpper (s : Text) : asciiUpper (asciiUpper s) = asciiUpper s := by
  rw [← asciiUpper_asciiLower (asciiUpper s), asciiLower_asciiUpper, asciiUpper_asciiLower]

/-- Texts are the same up to case if they are the same in upper case. -/
theorem sameIgnoringCase_iff {a b : Text} :
    sameIgnoringCase a b = true ↔ asciiUpper a = asciiUpper b := by
  rw [sameIgnoringCase, beq_iff_eq]
  constructor
  · intro h
    rw [← asciiUpper_asciiLower a, h, asciiUpper_asciiLower]
  · intro h
    rw [← asciiLower_asciiUpper a, h, asciiLower_asciiUpper]

end LogLine.Text
