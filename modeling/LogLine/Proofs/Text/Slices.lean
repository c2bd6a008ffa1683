/-
  Proofs/Text/Slices.lean --- which parts of a text are found by positions and by
  bytes.

  A cut at a number of bytes can fall inside a character.  Where it does not, the
  two parts are determined:

      Text.slice?_append                    a text between two others is found
      Text.cutBytesBeforeEnd?_eq_some_iff   the part after the cut has these bytes
      Text.cutBytes?_append                 a cut between two texts is found
      Text.sliceBytes?_append               and so is a text between two others
-/
import LogLine.Text.Slice

set_option autoImplicit false

namespace LogLine.Text

/-! ## Positions -/

theorem slice?_append (before middle after : Text) :
    slice? (before ++ (middle ++ after)) before.length (before.length + middle.length) =
      some middle := by
  have hend : before.length + middle.length ≤ (before ++ (middle ++ after)).length := by
    simp only [List.length_append]
    omega
  rw [slice?, if_pos ⟨Nat.le_add_right _ _, hend⟩, ← List.append_assoc, ← List.length_append,
    List.take_left, List.drop_left]

/-- The slice up to the end. -/
theorem slice?_length (before middle : Text) :
    slice? (before ++ middle) before.length (before ++ middle).length = some middle := by
  have h := slice?_append before middle []
  rwa [List.append_nil, ← List.length_append] at h

theorem getElem?_append_cons (before : Text) (c : Char) (t : Text) :
    (before ++ c :: t)[before.length]? = some c := by
  simp

theorem append_cons_eq (before : Text) (c : Char) (t : Text) :
    before ++ c :: t = before ++ [c] ++ t := by
  simp

theorem lt_length_append_cons (before : Text) (c : Char) (t : Text) :
    before.length < (before ++ c :: t).length := by
  simp

theorem length_append_singleton (before : Text) (c : Char) :
    before.length + 1 = (before ++ [c]).length := by
  simp

/-! ## Cutting at a character -/

theorem splitOnce_eq_none_iff {sep : Char} {s : Text} : splitOnce sep s = none ↔ sep ∉ s := by
  induction s with
  | nil => simp [splitOnce]
  | cons c rest ih =>
    unfold splitOnce
    by_cases hc : c = sep
    · simp [hc]
    · rw [if_neg hc, Option.map_eq_none_iff, ih, List.mem_cons, not_or]
      exact ⟨fun h => ⟨fun heq => hc heq.symm, h⟩, fun h => h.2⟩

/-- The cut is at the first occurrence. -/
theorem splitOnce_eq_some_iff {sep : Char} {s before after : Text} :
    splitOnce sep s = some (before, after) ↔ s = before ++ sep :: after ∧ sep ∉ before := by
  constructor
  · intro h
    refine ⟨(append_of_splitOnce h).symm, ?_⟩
    induction s generalizing before with
    | nil => cases h
    | cons c rest ih =>
      unfold splitOnce at h
      split at h
      · cases h
        exact List.not_mem_nil
      · rename_i hc
        obtain ⟨cut, hcut, heq⟩ := Option.map_eq_some_iff.1 h
        cases heq
        rw [List.mem_cons, not_or]
        exact ⟨Ne.symm hc, ih hcut⟩
  · rintro ⟨rfl, hbefore⟩
    induction before with
    | nil => exact if_pos rfl
    | cons c before ih =>
      rw [List.mem_cons, not_or] at hbefore
      rw [List.cons_append, splitOnce, if_neg (Ne.symm hbefore.1), ih hbefore.2]
      rfl

/-- Cutting at a character is cutting at a mark of one character. -/
theorem splitOnce_eq_cutAt (sep : Char) (s : Text) : splitOnce sep s = cutAt [sep] s := by
  induction s with
  | nil => rfl
  | cons c rest ih =>
    rw [splitOnce, cutAt, isPrefixOf?_cons_cons, ih]
    by_cases hc : c = sep
    · rw [if_pos hc, if_pos hc.symm]
      rfl
    · rw [if_neg hc, if_neg (Ne.symm hc)]

/-- The cut is at the first character of the kind. -/
theorem splitOnceWhere_append {p : Char → Bool} {before : Text} {c : Char}
    (hbefore : before.any p = false) (hc : p c = true) (after : Text) :
    splitOnceWhere p (before ++ c :: after) = some (before, after) := by
  induction before with
  | nil => exact if_pos hc
  | cons d before ih =>
    rw [List.any_cons, Bool.or_eq_false_iff] at hbefore
    rw [List.cons_append, splitOnceWhere, if_neg (Bool.eq_false_iff.1 hbefore.1), ih hbefore.2]
    rfl

theorem splitOnceWhere_eq_none {p : Char → Bool} {s : Text} (h : s.any p = false) :
    splitOnceWhere p s = none := by
  induction s with
  | nil => rfl
  | cons c rest ih =>
    rw [List.any_cons, Bool.or_eq_false_iff] at h
    rw [splitOnceWhere, if_neg (Bool.eq_false_iff.1 h.1), ih h.2]
    rfl

/-! ## The length in bytes -/

theorem byteLength_nil : byteLength [] = 0 := rfl

theorem byteLength_cons (c : Char) (s : Text) :
    byteLength (c :: s) = c.utf8Size + byteLength s := rfl

theorem byteLength_append (s t : Text) : byteLength (s ++ t) = byteLength s + byteLength t := by
  induction s with
  | nil => rw [List.nil_append, byteLength_nil, Nat.zero_add]
  | cons c s ih => rw [List.cons_append, byteLength_cons, byteLength_cons, ih, Nat.add_assoc]

theorem byteLength_pos {s : Text} (h : s ≠ []) : 0 < byteLength s := by
  obtain ⟨c, t, rfl⟩ := List.exists_cons_of_ne_nil h
  rw [byteLength_cons]
  have := Char.utf8Size_pos c
  omega

/-- Characters of ASCII have one byte. -/
theorem byteLength_eq_length {s : Text} (h : ∀ c ∈ s, c.toNat < 128) :
    byteLength s = s.length := by
  induction s with
  | nil => rfl
  | cons c s ih =>
    rw [List.forall_mem_cons] at h
    have hc : c.utf8Size = 1 :=
      Char.utf8Size_eq_one_iff.2 (UInt32.le_iff_toNat_le.2 (Nat.le_of_lt_succ h.1))
    rw [byteLength_cons, hc, ih h.2, List.length_cons, Nat.add_comm]

/-! ## Cutting before the end -/

/-- Between two texts the cut is found: what is longer than the second has more
bytes. -/
theorem cutBytesBeforeEnd?_append (before after : Text) :
    cutBytesBeforeEnd? (byteLength after) (before ++ after) = some (before, after) := by
  induction before with
  | nil =>
    unfold cutBytesBeforeEnd?
    rw [List.nil_append, if_pos rfl]
  | cons c before ih =>
    have hlong : byteLength (c :: (before ++ after)) ≠ byteLength after := by
      have hpos := byteLength_pos (List.cons_ne_nil c before)
      rw [← List.cons_append, byteLength_append]
      omega
    unfold cutBytesBeforeEnd?
    rw [List.cons_append, if_neg hlong]
    simp only [ih, Option.map_some]

theorem cutBytesBeforeEnd?_sound {bytes : Nat} {s before after : Text}
    (h : cutBytesBeforeEnd? bytes s = some (before, after)) :
    s = before ++ after ∧ byteLength after = bytes := by
  induction s generalizing before with
  | nil =>
    unfold cutBytesBeforeEnd? at h
    split at h
    · rename_i hbytes
      simp only [Option.some.injEq, Prod.mk.injEq] at h
      obtain ⟨rfl, rfl⟩ := h
      exact ⟨rfl, hbytes⟩
    · cases h
  | cons c s ih =>
    unfold cutBytesBeforeEnd? at h
    split at h
    · rename_i hbytes
      simp only [Option.some.injEq, Prod.mk.injEq] at h
      obtain ⟨rfl, rfl⟩ := h
      exact ⟨rfl, hbytes⟩
    · obtain ⟨cut, found, hcut⟩ := Option.map_eq_some_iff.1 h
      simp only [Prod.mk.injEq] at hcut
      obtain ⟨rfl, rfl⟩ := hcut
      obtain ⟨rfl, hbytes⟩ := ih found
      exact ⟨rfl, hbytes⟩

theorem cutBytesBeforeEnd?_eq_some_iff {bytes : Nat} {s before after : Text} :
    cutBytesBeforeEnd? bytes s = some (before, after) ↔
      s = before ++ after ∧ byteLength after = bytes := by
  constructor
  · exact cutBytesBeforeEnd?_sound
  · rintro ⟨rfl, rfl⟩
    exact cutBytesBeforeEnd?_append before after

/-- The cut is inside a character if no end of the text has these bytes. -/
theorem cutBytesBeforeEnd?_eq_none_iff {bytes : Nat} {s : Text} :
    cutBytesBeforeEnd? bytes s = none ↔
      ∀ before after, s = before ++ after → byteLength after ≠ bytes := by
  constructor
  · intro h before after hs hbytes
    rw [cutBytesBeforeEnd?_eq_some_iff.2 ⟨hs, hbytes⟩] at h
    cases h
  · intro h
    cases hcut : cutBytesBeforeEnd? bytes s with
    | none => rfl
    | some cut =>
      obtain ⟨hs, hbytes⟩ := cutBytesBeforeEnd?_sound hcut
      exact absurd hbytes (h cut.1 cut.2 hs)

/-! ## Cutting after the beginning -/

theorem cutBytes?_append (before after : Text) :
    cutBytes? (byteLength before) (before ++ after) = some (before, after) := by
  induction before with
  | nil =>
    unfold cutBytes?
    rw [byteLength_nil, if_pos rfl, List.nil_append]
  | cons c before ih =>
    have hpos := Char.utf8Size_pos c
    have hne : c.utf8Size + byteLength before ≠ 0 := by omega
    unfold cutBytes?
    rw [byteLength_cons, List.cons_append, if_neg hne]
    simp only [if_pos (Nat.le_add_right _ _), Nat.add_sub_cancel_left, ih, Option.map_some]

theorem sliceBytes?_append (before middle after : Text) :
    sliceBytes? (before ++ (middle ++ after)) (byteLength before)
      (byteLength before + byteLength middle) = some middle := by
  rw [sliceBytes?, if_pos (Nat.le_add_right _ _), cutBytes?_append, Nat.add_sub_cancel_left]
  simp only [Option.bind_eq_bind, Option.bind_some, cutBytes?_append]

end LogLine.Text
