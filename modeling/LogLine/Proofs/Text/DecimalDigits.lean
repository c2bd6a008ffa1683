/-
  Proofs/Text/DecimalDigits.lean --- numbers in decimal are read back.

  Padding with zeros does not change the value of the digits, and the digits of
  a padded number can be taken off one by one from the right:

      Text.digitsValue_ofNat            digits are read back
      Text.digitsValue_zeroPadded       and so are padded ones
      Text.zeroPadded_succ              the last digit of a padded number
      Text.exists_zeroPadded_nine       the first three of nine digits
-/
import LogLine.Text.Numeral

set_option autoImplicit false

namespace LogLine.Text

theorem toNat_of_isDigit {c : Char} (h : c.isDigit = true) : 48 ≤ c.toNat ∧ c.toNat ≤ 57 := by
  simp only [Char.isDigit, Bool.and_eq_true, decide_eq_true_eq, UInt32.le_iff_toNat_le] at h
  exact h

theorem toNat_lt_of_isDigit {c : Char} (h : c.isDigit = true) : c.toNat < 128 :=
  Nat.lt_of_le_of_lt (toNat_of_isDigit h).2 (by decide)

theorem digitsValue_eq_ofDigitChars (acc : Nat) (digits : Text) :
    digitsValue acc digits = Nat.ofDigitChars 10 digits acc := by
  rw [Nat.ofDigitChars_eq_foldl, digitsValue]
  congr 1
  funext value c
  rw [Nat.mul_comm]
  rfl

theorem digitsValue_ofNat (n : Nat) : digitsValue 0 (ofNat n) = n := by
  rw [digitsValue_eq_ofDigitChars]
  exact Nat.ofDigitChars_ten_toDigits

/-! ## Padding -/

theorem zeroPadded_natCast (width n : Nat) :
    zeroPadded width (n : Int) = List.replicate (width - (ofNat n).length) '0' ++ ofNat n := by
  have hneg : ¬ (n : Int) < 0 := by omega
  rw [zeroPadded, if_neg hneg, Int.natAbs_natCast]

theorem le_length_zeroPadded (width n : Nat) : width ≤ (zeroPadded width (n : Int)).length := by
  rw [zeroPadded_natCast, List.length_append, List.length_replicate]
  omega

/-- Padding with zeros does not change the value. -/
theorem digitsValue_zeroPadded (width n : Nat) :
    digitsValue 0 (zeroPadded width (n : Int)) = n := by
  have hzeros : ∀ k, digitsValue 0 (List.replicate k '0') = 0 := by
    intro k
    induction k with
    | zero => rfl
    | succ k ih => exact ih
  have happend : ∀ a b : Text, digitsValue 0 (a ++ b) = digitsValue (digitsValue 0 a) b := by
    intro a b
    exact List.foldl_append
  rw [zeroPadded_natCast, happend, hzeros, digitsValue_ofNat]

/-- Numbers with the same padded digits are the same. -/
theorem zeroPadded_inj {width n m : Nat}
    (h : zeroPadded width (n : Int) = zeroPadded width (m : Int)) : n = m := by
  rw [← digitsValue_zeroPadded width n, h, digitsValue_zeroPadded]

/-- A number has no more digits than it is padded to, if it is below that power
of ten. -/
theorem length_zeroPadded {width n : Nat} (hwidth : 0 < width) (h : n < Nat.pow 10 width) :
    (zeroPadded width (n : Int)).length = width := by
  have hdigits : (ofNat n).length ≤ width := (Nat.length_toDigits_le_iff (by decide) hwidth).2 h
  rw [zeroPadded_natCast, List.length_append, List.length_replicate, Nat.sub_add_cancel hdigits]

/-- The last digit of a padded number. -/
theorem zeroPadded_succ {width : Nat} (h : 0 < width) (n : Nat) :
    zeroPadded (width + 1) (n : Int) =
      zeroPadded width (n / 10 : Nat) ++ [Nat.digitChar (n % 10)] := by
  rw [zeroPadded_natCast, zeroPadded_natCast]
  by_cases hn : n < 10
  · have hdigits : ofNat n = [Nat.digitChar n] := Nat.toDigits_of_lt_base hn
    have hzero : ofNat (n / 10) = ['0'] := by
      rw [Nat.div_eq_of_lt hn]
      rfl
    obtain ⟨k, rfl⟩ := Nat.exists_eq_add_of_lt h
    rw [hdigits, hzero, Nat.mod_eq_of_lt hn]
    simp [List.replicate_succ']
  · have hdigits : ofNat n = ofNat (n / 10) ++ [Nat.digitChar (n % 10)] :=
      Nat.toDigits_of_base_le (by decide) (Nat.le_of_not_lt hn)
    rw [hdigits, List.length_append, List.length_singleton, Nat.add_sub_add_right,
      List.append_assoc]

/-- The first three of nine digits are those of the millions. -/
theorem exists_zeroPadded_nine (n : Nat) :
    ∃ tail, zeroPadded 9 (n : Int) = zeroPadded 3 (n / 1000000 : Nat) ++ tail := by
  have hdiv : n / 10 / 10 / 10 / 10 / 10 / 10 = n / 1000000 := by omega
  rw [zeroPadded_succ (by decide), zeroPadded_succ (by decide), zeroPadded_succ (by decide),
    zeroPadded_succ (by decide), zeroPadded_succ (by decide), zeroPadded_succ (by decide), hdiv]
  simp only [List.append_assoc]
  exact ⟨_, rfl⟩

end LogLine.Text
