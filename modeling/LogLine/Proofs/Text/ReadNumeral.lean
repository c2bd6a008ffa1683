/-
  Proofs/Text/ReadNumeral.lean --- texts of digits are read as their numbers.

  Digits are visible, so trimming leaves them alone, and they are read up to the
  limit of the number, however many zeros come first:

      Text.trim_eq_self             texts without white space
      Text.isNumeral_zeroPadded     padded numbers are numerals
      Text.readDigits_eq            digits up to a limit
      Text.readInteger?_digits      signed numbers without a sign
      Text.readInteger?_minus       and with a minus sign
-/
import LogLine.Proofs.Text.DecimalDigits

set_option autoImplicit false

namespace LogLine.Text

/-! ## Visible characters -/

/-- What is visible in ASCII is no white space. -/
theorem isBlank_eq_false {c : Char} (hlow : 0x20 < c.toNat) (hhigh : c.toNat < 0x80) :
    isBlank c = false := by
  simp only [isBlank, blanks, CharSet.has, CharSet.hasValue, List.any_cons, List.any_nil,
    Bool.or_false, Bool.or_eq_false_iff, Bool.and_eq_false_iff, decide_eq_false_iff_not]
  omega

theorem trim_eq_self {s : Text} (h : ∀ c ∈ s, isBlank c = false) : trim s = s := by
  have hdrop : ∀ t : Text, (∀ c ∈ t, isBlank c = false) → t.dropWhile isBlank = t := by
    intro t ht
    cases t with
    | nil => rfl
    | cons c t =>
      have hc := ht c List.mem_cons_self
      exact List.dropWhile_cons_of_neg (Bool.eq_false_iff.1 hc)
  have hreverse : ∀ c ∈ s.reverse, isBlank c = false := fun c hc => h c (List.mem_reverse.1 hc)
  rw [trim, trimStart, hdrop s h, trimEnd, hdrop _ hreverse, List.reverse_reverse]

/-- Trimming takes nothing from between two visible characters. -/
theorem trim_cons_concat {c d : Char} (hc : isBlank c = false) (hd : isBlank d = false)
    (middle : Text) : trim (c :: (middle ++ [d])) = c :: (middle ++ [d]) := by
  have hstart : trimStart (c :: (middle ++ [d])) = c :: (middle ++ [d]) :=
    List.dropWhile_cons_of_neg (Bool.eq_false_iff.1 hc)
  have hreverse : (c :: (middle ++ [d])).reverse = d :: (c :: middle).reverse := by simp
  rw [trim, hstart, trimEnd, hreverse, List.dropWhile_cons_of_neg (Bool.eq_false_iff.1 hd),
    ← hreverse, List.reverse_reverse]

theorem isBlank_of_isDigit {c : Char} (h : c.isDigit = true) : isBlank c = false := by
  have hbounds := toNat_of_isDigit h
  exact isBlank_eq_false (by omega) (by omega)

/-- Trimming brings no new character. -/
theorem mem_of_mem_trim {s : Text} {c : Char} (h : c ∈ trim s) : c ∈ s := by
  have hend := List.dropWhile_subset _ (List.mem_reverse.1 h)
  exact List.dropWhile_subset _ (List.mem_reverse.1 hend)

/-! ## Numbers -/

/-- A text of digits, at least one. -/
def IsNumeral (digits : Text) : Prop := digits ≠ [] ∧ ∀ c ∈ digits, c.isDigit = true

instance (digits : Text) : Decidable (IsNumeral digits) :=
  decidable_of_iff (digits ≠ [] ∧ digits.all Char.isDigit = true)
    (and_congr_right fun _ => List.all_eq_true)

theorem IsNumeral.not_mem {digits : Text} (h : IsNumeral digits) {c : Char}
    (hc : c.isDigit = false) : c ∉ digits := by
  intro hmem
  rw [h.2 c hmem] at hc
  cases hc

theorem isNumeral_ofNat (n : Nat) : IsNumeral (ofNat n) :=
  ⟨Nat.toDigits_ne_nil, fun _ hc => Nat.isDigit_of_mem_toDigits (by decide) (by decide) hc⟩

theorem isNumeral_zeroPadded (width n : Nat) : IsNumeral (zeroPadded width (n : Int)) := by
  obtain ⟨hne, hdigits⟩ := isNumeral_ofNat n
  rw [zeroPadded_natCast]
  refine ⟨fun h => hne (List.append_eq_nil_iff.1 h).2, List.forall_mem_append.2 ⟨?_, hdigits⟩⟩
  intro c hc
  rw [List.eq_of_mem_replicate hc]
  rfl

theorem le_digitsValue (acc : Nat) (digits : Text) : acc ≤ digitsValue acc digits := by
  induction digits generalizing acc with
  | nil => exact Nat.le_refl acc
  | cons c rest ih =>
    have hrest := ih (acc * 10 + digitValue c)
    rw [digitsValue] at hrest ⊢
    rw [List.foldl_cons]
    omega

/-- Digits are read as long as their value does not pass the limit. -/
theorem readDigits_eq {limit acc : Nat} {digits : Text} (h : ∀ c ∈ digits, c.isDigit = true)
    (hacc : acc ≤ limit) :
    readDigits limit acc digits =
      if digitsValue acc digits ≤ limit then .ok (digitsValue acc digits)
      else .error .tooLarge := by
  induction digits generalizing acc with
  | nil => exact (if_pos hacc).symm
  | cons c rest ih =>
    rw [List.forall_mem_cons] at h
    have hcons : digitsValue acc (c :: rest) = digitsValue (acc * 10 + digitValue c) rest := rfl
    rw [readDigits, if_pos h.1, hcons]
    split
    · rename_i hle
      exact ih h.2 hle
    · rename_i hgt
      have hlarger := le_digitsValue (acc * 10 + digitValue c) rest
      exact (if_neg (by omega)).symm

theorem readNumber_eq {limit : Nat} {digits : Text} (h : IsNumeral digits) :
    (readNumber limit digits).toOption =
      if digitsValue 0 digits ≤ limit then some (digitsValue 0 digits) else none := by
  obtain ⟨c, rest, rfl⟩ := List.exists_cons_of_ne_nil h.1
  rw [readNumber, readDigits_eq h.2 (Nat.zero_le limit)]
  · split <;> rfl
  · exact List.cons_ne_nil c rest

/-- A number without a sign. -/
theorem readInteger?_digits {digits : Text} (h : IsNumeral digits) :
    readInteger? digits =
      if digitsValue 0 digits ≤ Nat.pow 2 63 - 1 then some (digitsValue 0 digits : Int)
      else none := by
  have hsign : ∀ sign rest, digits = sign :: rest → sign.isDigit = true := by
    rintro sign rest rfl
    exact h.2 sign List.mem_cons_self
  unfold readInteger?
  split
  · exact absurd (hsign _ _ rfl) (by decide)
  · exact absurd (hsign _ _ rfl) (by decide)
  · rw [readNumber_eq h]
    split <;> rfl

/-- A number after a minus sign. -/
theorem readInteger?_minus {digits : Text} (h : IsNumeral digits) :
    readInteger? ('-' :: digits) =
      if digitsValue 0 digits ≤ Nat.pow 2 63 then some (-(digitsValue 0 digits : Int))
      else none := by
  rw [readInteger?, readNumber_eq h]
  split <;> rfl

end LogLine.Text
