/-
  Proofs/Text/TextOrder.lean --- texts in code point order.

  The first character that differs decides, and a text comes after its beginnings.
  Numbers that are padded to one width come in the order of their values:

      Text.precedes_asymm             no two texts come before each other
      Text.eq_or_precedes             one of two different texts comes first
      Text.precedes_append_iff        what follows counts where texts agree
      Text.precedes_zeroPadded_iff    padded numbers
-/
import LogLine.Proofs.Text.DecimalDigits

set_option autoImplicit false

namespace LogLine.Text

/-! ## The order -/

theorem precedes_nil (a : Text) : precedes a [] = false := by
  simp [precedes]

theorem precedes_cons_iff {c d : Char} {s t : Text} :
    precedes (c :: s) (d :: t) = true ↔ c.toNat < d.toNat ∨ c = d ∧ precedes s t = true := by
  have hchar : c < d ↔ c.toNat < d.toNat := Iff.rfl
  simp only [precedes, decide_eq_true_eq, List.cons_lt_cons_iff, hchar]

theorem precedes_self (a : Text) : precedes a a = false := by
  simp [precedes]

theorem precedes_asymm {a b : Text} (h : precedes a b = true) : precedes b a = false := by
  induction a generalizing b with
  | nil => exact precedes_nil b
  | cons c s ih =>
    cases b with
    | nil => rw [precedes_nil] at h; cases h
    | cons d t =>
      refine Bool.eq_false_iff.2 fun hback => ?_
      rw [precedes_cons_iff] at h hback
      rcases h with h | ⟨rfl, h⟩
      · rcases hback with hback | ⟨rfl, -⟩
        · exact Nat.lt_asymm h hback
        · exact Nat.lt_irrefl _ h
      · rcases hback with hback | ⟨-, hback⟩
        · exact Nat.lt_irrefl _ hback
        · rw [ih h] at hback
          cases hback

theorem precedes_trans {a b c : Text} (hab : precedes a b = true) (hbc : precedes b c = true) :
    precedes a c = true := by
  simp only [precedes, decide_eq_true_eq] at hab hbc ⊢
  exact List.lt_trans hab hbc

/-- Of two texts one comes first, or they are the same. -/
theorem eq_or_precedes (a b : Text) :
    a = b ∨ precedes a b = true ∨ precedes b a = true := by
  induction a generalizing b with
  | nil =>
    cases b with
    | nil => exact .inl rfl
    | cons d t => exact .inr (.inl rfl)
  | cons c s ih =>
    cases b with
    | nil => exact .inr (.inr rfl)
    | cons d t =>
      rw [precedes_cons_iff, precedes_cons_iff, List.cons.injEq]
      rcases Nat.lt_trichotomy c.toNat d.toNat with hlt | heq | hgt
      · exact .inr (.inl (.inl hlt))
      · obtain rfl := Char.toNat_inj.1 heq
        rcases ih t with rfl | hst | hts
        · exact .inl ⟨rfl, rfl⟩
        · exact .inr (.inl (.inr ⟨rfl, hst⟩))
        · exact .inr (.inr (.inr ⟨rfl, hts⟩))
      · exact .inr (.inr (.inl hgt))

/-- After texts of one length, what follows counts where these are the same. -/
theorem precedes_append_iff {a b : Text} (h : a.length = b.length) (s t : Text) :
    precedes (a ++ s) (b ++ t) = true ↔ precedes a b = true ∨ a = b ∧ precedes s t = true := by
  induction a generalizing b with
  | nil =>
    obtain rfl := List.eq_nil_of_length_eq_zero h.symm
    simp [precedes_nil]
  | cons c a ih =>
    obtain ⟨d, b, rfl⟩ := List.exists_cons_of_length_eq_add_one h.symm
    rw [List.cons_append, List.cons_append, precedes_cons_iff, precedes_cons_iff,
      ih (Nat.succ.inj h), List.cons.injEq, and_or_left, or_assoc, and_assoc]

/-! ## Padded numbers -/

theorem toNat_digitChar : ∀ digit < 10, (Nat.digitChar digit).toNat = 48 + digit := by
  decide

/-- Numbers that are padded to one width come in the order of their values. -/
theorem precedes_zeroPadded_iff {width n m : Nat} (hwidth : 0 < width)
    (hn : n < Nat.pow 10 width) (hm : m < Nat.pow 10 width) :
    precedes (zeroPadded width (n : Int)) (zeroPadded width (m : Int)) = true ↔ n < m := by
  induction width generalizing n m with
  | zero => exact absurd hwidth (Nat.lt_irrefl 0)
  | succ width ih =>
    have hpow : Nat.pow 10 (width + 1) = Nat.pow 10 width * 10 := rfl
    rw [hpow] at hn hm
    have hlastN : n % 10 < 10 := Nat.mod_lt n (by decide)
    have hlastM : m % 10 < 10 := Nat.mod_lt m (by decide)
    cases width with
    | zero =>
      have hone : ∀ k : Nat, k < 10 → zeroPadded 1 (k : Int) = [Nat.digitChar k] := by decide
      rw [hone n hn, hone m hm, precedes_cons_iff, toNat_digitChar n hn, toNat_digitChar m hm]
      simp [precedes_nil]
    | succ width =>
      have hpos : 0 < width + 1 := Nat.succ_pos width
      have hn' : n / 10 < Nat.pow 10 (width + 1) := Nat.div_lt_of_lt_mul (Nat.mul_comm _ _ ▸ hn)
      have hm' : m / 10 < Nat.pow 10 (width + 1) := Nat.div_lt_of_lt_mul (Nat.mul_comm _ _ ▸ hm)
      have hlength : (zeroPadded (width + 1) (n / 10 : Nat)).length =
          (zeroPadded (width + 1) (m / 10 : Nat)).length := by
        rw [length_zeroPadded hpos hn', length_zeroPadded hpos hm']
      rw [zeroPadded_succ hpos, zeroPadded_succ hpos, precedes_append_iff hlength, ih hpos hn' hm',
        precedes_cons_iff, toNat_digitChar _ hlastN, toNat_digitChar _ hlastM]
      have hinj : zeroPadded (width + 1) (n / 10 : Nat) = zeroPadded (width + 1) (m / 10 : Nat) ↔
          n / 10 = m / 10 := ⟨zeroPadded_inj, fun heq => by rw [heq]⟩
      rw [hinj]
      simp only [precedes_nil, Bool.false_eq_true, and_false, or_false]
      omega

end LogLine.Text
