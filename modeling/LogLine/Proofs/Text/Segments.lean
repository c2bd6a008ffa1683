/-
  Proofs/Text/Segments.lean --- the pieces of a text between the occurrences of
  a mark.

  A cut from the left is at the first occurrence of the mark and a cut from the
  right at the last one.  Where no two occurrences overlap, both ways lead to the
  same pieces:

      Text.cutAt_eq_some_iff        the first occurrence
      Text.cutAtLast_eq_some_iff    the last occurrence
      Text.intercalate_piecesAt     the pieces make the text again
      Text.piecesAt_of_cutAtLast    the last piece
-/
import LogLine.Text.Basic

set_option autoImplicit false

namespace LogLine.Text

variable {mark s : Text}

/-! ## Occurrences -/

/-- What begins a text and is no longer than another beginning of it begins that
one too. -/
theorem exists_between {a b c d : Text} (h : a ++ b = c ++ d) (hlength : a.length ≤ c.length) :
    ∃ middle, c = a ++ middle ∧ b = middle ++ d := by
  have hprefix : a <+: c ++ d := h ▸ List.prefix_append a b
  obtain ⟨middle, rfl⟩ := List.prefix_of_prefix_length_le hprefix (List.prefix_append c d) hlength
  rw [List.append_assoc] at h
  exact ⟨middle, rfl, List.append_cancel_left h⟩

theorem isPrefixOf?_append (mark rest : Text) : mark.isPrefixOf? (mark ++ rest) = some rest := by
  induction mark with
  | nil => rfl
  | cons m mark ih => rw [List.cons_append, isPrefixOf?_cons_cons, if_pos rfl, ih]

theorem exists_cutAt (mark before after : Text) :
    ∃ cut, cutAt mark (before ++ mark ++ after) = some cut := by
  induction before with
  | nil =>
    rw [List.nil_append]
    cases hs : mark ++ after with
    | nil =>
      obtain ⟨rfl, -⟩ := List.append_eq_nil_iff.1 hs
      exact ⟨_, rfl⟩
    | cons c rest =>
      rw [cutAt, ← hs, isPrefixOf?_append]
      exact ⟨_, rfl⟩
  | cons c before ih =>
    obtain ⟨cut, hcut⟩ := ih
    rw [List.cons_append, List.cons_append, cutAt, hcut]
    cases mark.isPrefixOf? (c :: (before ++ mark ++ after)) with
    | none => exact ⟨_, rfl⟩
    | some after => exact ⟨_, rfl⟩

/-- No occurrence stands before the first one. -/
theorem length_le_of_cutAt {before after p q : Text} (h : cutAt mark s = some (before, after))
    (hs : s = p ++ mark ++ q) : before.length ≤ p.length := by
  induction s generalizing before p with
  | nil =>
    rw [cutAt] at h
    split at h
    · cases h
      exact Nat.zero_le _
    · cases h
  | cons c rest ih =>
    rw [cutAt] at h
    split at h
    · cases h
      exact Nat.zero_le _
    · rename_i hbegins
      obtain ⟨cut, hcut, heq⟩ := Option.map_eq_some_iff.1 h
      cases heq
      cases p with
      | nil =>
        rw [hs, List.nil_append, isPrefixOf?_append] at hbegins
        cases hbegins
      | cons d p =>
        have hrest : rest = p ++ mark ++ q := (List.cons.inj hs).2
        exact Nat.succ_le_succ (ih hcut hrest)

/-- A cut from the left is at the first occurrence. -/
theorem cutAt_eq_some_iff {before after : Text} :
    cutAt mark s = some (before, after) ↔
      s = before ++ mark ++ after ∧ ∀ p q, s = p ++ mark ++ q → before.length ≤ p.length := by
  constructor
  · intro h
    exact ⟨(append_of_cutAt h).symm, fun p q hs => length_le_of_cutAt h hs⟩
  · rintro ⟨rfl, hfirst⟩
    obtain ⟨cut, hcut⟩ := exists_cutAt mark before after
    have hsplit := append_of_cutAt hcut
    have hle := hfirst cut.1 cut.2 hsplit.symm
    have hge := length_le_of_cutAt hcut rfl
    rw [List.append_assoc, List.append_assoc] at hsplit
    obtain ⟨hbefore, hrest⟩ := List.append_inj hsplit (Nat.le_antisymm hge hle)
    rw [hcut, ← hbefore, ← List.append_cancel_left hrest]

/-- The text before the first occurrence has none. -/
theorem not_infix_of_cutAt (hmark : mark ≠ []) {before after : Text}
    (h : cutAt mark s = some (before, after)) : ¬ mark <:+: before := by
  rintro ⟨p, q, rfl⟩
  have hs := append_of_cutAt h
  have hfirst := length_le_of_cutAt h (p := p) (q := q ++ (mark ++ after))
    (by rw [← hs]; simp only [List.append_assoc])
  have hpos := List.length_pos_iff.2 hmark
  simp only [List.length_append] at hfirst
  omega

theorem cutAt_eq_none_iff : cutAt mark s = none ↔ ¬ mark <:+: s := by
  constructor
  · rintro h ⟨before, after, rfl⟩
    obtain ⟨cut, hcut⟩ := exists_cutAt mark before after
    rw [h] at hcut
    cases hcut
  · intro h
    cases hcut : cutAt mark s with
    | none => rfl
    | some cut => exact absurd ⟨cut.1, cut.2, append_of_cutAt hcut⟩ h

theorem exists_cutAtLast (mark before after : Text) :
    ∃ cut, cutAtLast mark (before ++ mark ++ after) = some cut := by
  induction before with
  | nil =>
    rw [List.nil_append]
    cases hs : mark ++ after with
    | nil =>
      obtain ⟨rfl, -⟩ := List.append_eq_nil_iff.1 hs
      exact ⟨_, rfl⟩
    | cons c rest =>
      rw [cutAtLast]
      cases cutAtLast mark rest with
      | some cut => exact ⟨_, rfl⟩
      | none =>
        rw [← hs, isPrefixOf?_append]
        exact ⟨_, rfl⟩
  | cons c before ih =>
    obtain ⟨cut, hcut⟩ := ih
    rw [List.cons_append, List.cons_append, cutAtLast, hcut]
    exact ⟨_, rfl⟩

/-- No occurrence stands after the last one. -/
theorem length_le_of_cutAtLast {before after p q : Text}
    (h : cutAtLast mark s = some (before, after)) (hs : s = p ++ mark ++ q) :
    p.length ≤ before.length := by
  induction s generalizing before p with
  | nil =>
    obtain ⟨hp, -⟩ := List.append_eq_nil_iff.1 (List.append_eq_nil_iff.1 hs.symm).1
    rw [hp]
    exact Nat.zero_le _
  | cons c rest ih =>
    cases p with
    | nil => exact Nat.zero_le _
    | cons d p =>
      have hrest : rest = p ++ mark ++ q := (List.cons.inj hs).2
      obtain ⟨cut, hcut⟩ := exists_cutAtLast mark p q
      rw [← hrest] at hcut
      rw [cutAtLast, hcut] at h
      cases h
      exact Nat.succ_le_succ (ih hcut hrest)

/-- A cut from the right is at the last occurrence. -/
theorem cutAtLast_eq_some_iff {before after : Text} :
    cutAtLast mark s = some (before, after) ↔
      s = before ++ mark ++ after ∧ ∀ p q, s = p ++ mark ++ q → p.length ≤ before.length := by
  constructor
  · intro h
    exact ⟨(append_of_cutAtLast h).symm, fun p q hs => length_le_of_cutAtLast h hs⟩
  · rintro ⟨rfl, hlast⟩
    obtain ⟨cut, hcut⟩ := exists_cutAtLast mark before after
    have hsplit := append_of_cutAtLast hcut
    have hle := hlast cut.1 cut.2 hsplit.symm
    have hge := length_le_of_cutAtLast hcut rfl
    rw [List.append_assoc, List.append_assoc] at hsplit
    obtain ⟨hbefore, hrest⟩ := List.append_inj hsplit (Nat.le_antisymm hle hge)
    rw [hcut, ← hbefore, ← List.append_cancel_left hrest]

theorem cutAtLast_eq_none_iff : cutAtLast mark s = none ↔ ¬ mark <:+: s := by
  constructor
  · rintro h ⟨before, after, rfl⟩
    obtain ⟨cut, hcut⟩ := exists_cutAtLast mark before after
    rw [h] at hcut
    cases hcut
  · intro h
    cases hcut : cutAtLast mark s with
    | none => rfl
    | some cut => exact absurd ⟨cut.1, cut.2, append_of_cutAtLast hcut⟩ h

/-! ## Pieces -/

theorem length_lt_of_cutAt (hmark : mark ≠ []) {before after : Text}
    (h : cutAt mark s = some (before, after)) : after.length < s.length := by
  have hpos := List.length_pos_iff.2 hmark
  rw [← append_of_cutAt h]
  simp only [List.length_append]
  omega

/-- As many cuts as characters are enough. -/
theorem piecesAtWithin_congr (hmark : mark ≠ []) {n m : Nat} (hn : s.length ≤ n)
    (hm : s.length ≤ m) : piecesAtWithin mark n s = piecesAtWithin mark m s := by
  have hnil : cutAt mark [] = none := by rw [cutAt, if_neg hmark]
  induction n generalizing m s with
  | zero =>
    obtain rfl := List.length_eq_zero_iff.1 (Nat.le_zero.1 hn)
    cases m with
    | zero => rfl
    | succ m => rw [piecesAtWithin, piecesAtWithin, hnil]
  | succ n ih =>
    cases m with
    | zero =>
      obtain rfl := List.length_eq_zero_iff.1 (Nat.le_zero.1 hm)
      rw [piecesAtWithin, piecesAtWithin, hnil]
    | succ m =>
      rw [piecesAtWithin, piecesAtWithin]
      split
      · rfl
      · rename_i before after hcut
        have hshorter := length_lt_of_cutAt hmark hcut
        rw [@ih after m (by omega) (by omega)]

theorem piecesAt_of_cutAt_eq_none (h : cutAt mark s = none) : piecesAt mark s = [s] := by
  rw [piecesAt]
  cases s with
  | nil => rfl
  | cons c rest => rw [List.length_cons, piecesAtWithin, h]

theorem piecesAt_of_cutAt (hmark : mark ≠ []) {before after : Text}
    (h : cutAt mark s = some (before, after)) :
    piecesAt mark s = before :: piecesAt mark after := by
  have hshorter := length_lt_of_cutAt hmark h
  obtain ⟨n, hn⟩ := Nat.exists_eq_add_one_of_ne_zero (Nat.ne_zero_of_lt hshorter)
  rw [piecesAt, hn, piecesAtWithin, h]
  exact congrArg _ (piecesAtWithin_congr hmark (by omega) (Nat.le_refl _))

theorem pieces_append_separator (sep : Char) (a b : Text) :
    pieces sep (a ++ sep :: b) = pieces sep a ++ pieces sep b := by
  induction a with
  | nil => exact if_pos rfl
  | cons c a ih =>
    rw [List.cons_append, pieces, pieces, ih]
    split
    · rfl
    · obtain ⟨first, others, hpieces⟩ := List.exists_cons_of_ne_nil (pieces_ne_nil sep a)
      rw [hpieces]
      rfl

theorem pieces_of_not_mem {sep : Char} (h : sep ∉ s) : pieces sep s = [s] := by
  induction s with
  | nil => rfl
  | cons c rest ih =>
    rw [List.mem_cons, not_or] at h
    rw [pieces, if_neg (Ne.symm h.1), ih h.2, List.modifyHead_cons]

/-- The separator does not occur in a piece. -/
theorem not_mem_of_mem_pieces {sep : Char} {s piece : Text} (h : piece ∈ pieces sep s) :
    sep ∉ piece := by
  by_cases hmem : sep ∈ s
  · obtain ⟨before, after, rfl, hbefore⟩ := List.eq_append_cons_of_mem hmem
    rw [pieces_append_separator, pieces_of_not_mem hbefore, List.singleton_append] at h
    rcases List.mem_cons.1 h with rfl | h
    · exact hbefore
    · exact not_mem_of_mem_pieces h
  · rw [pieces_of_not_mem hmem, List.mem_singleton] at h
    exact h ▸ hmem
termination_by s.length
decreasing_by
  subst_vars
  simp only [List.length_append, List.length_cons]
  omega

theorem piecesAt_ne_nil (mark s : Text) : piecesAt mark s ≠ [] := by
  rw [piecesAt]
  cases s.length with
  | zero => exact List.cons_ne_nil s []
  | succ n =>
    rw [piecesAtWithin]
    split
    · exact List.cons_ne_nil _ _
    · exact List.cons_ne_nil _ _

theorem intercalate_cons {first : Text} {rest : List Text} (h : rest ≠ []) :
    mark.intercalate (first :: rest) = first ++ mark ++ mark.intercalate rest := by
  obtain ⟨second, later, rfl⟩ := List.exists_cons_of_ne_nil h
  exact List.intercalate_cons_cons

theorem intercalate_append {a b : List Text} (ha : a ≠ []) (hb : b ≠ []) :
    mark.intercalate (a ++ b) = mark.intercalate a ++ mark ++ mark.intercalate b := by
  induction a with
  | nil => exact absurd rfl ha
  | cons first rest ih =>
    cases rest with
    | nil => rw [List.singleton_append, intercalate_cons hb, List.intercalate_singleton]
    | cons second rest =>
      have hrest : second :: rest ≠ [] := List.cons_ne_nil _ _
      rw [List.cons_append, intercalate_cons (by simp), ih hrest, intercalate_cons hrest]
      simp only [List.append_assoc]

/-- Pieces by the first occurrence: nothing to cut, or a first piece and those of
a shorter text. -/
theorem piecesAt_induction (hmark : mark ≠ []) {P : Text → Prop}
    (whole : ∀ s, cutAt mark s = none → P s)
    (cut : ∀ s before after, cutAt mark s = some (before, after) → P after → P s) (s : Text) :
    P s := by
  cases h : cutAt mark s with
  | none => exact whole s h
  | some parts =>
    have hshorter : parts.2.length < s.length := length_lt_of_cutAt hmark h
    exact cut s parts.1 parts.2 h (piecesAt_induction hmark whole cut parts.2)
termination_by s.length

/-- The pieces make the text again. -/
theorem intercalate_piecesAt (hmark : mark ≠ []) (s : Text) :
    mark.intercalate (piecesAt mark s) = s := by
  induction s using piecesAt_induction hmark with
  | whole s h => rw [piecesAt_of_cutAt_eq_none h, List.intercalate_singleton]
  | cut s before after h ih =>
    rw [piecesAt_of_cutAt hmark h, intercalate_cons (piecesAt_ne_nil mark after), ih,
      append_of_cutAt h]

/-- The mark does not occur in a piece. -/
theorem not_infix_of_mem_piecesAt (hmark : mark ≠ []) {piece : Text}
    (h : piece ∈ piecesAt mark s) : ¬ mark <:+: piece := by
  induction s using piecesAt_induction hmark with
  | whole s hcut =>
    rw [piecesAt_of_cutAt_eq_none hcut, List.mem_singleton] at h
    rw [h]
    exact cutAt_eq_none_iff.1 hcut
  | cut s before after hcut ih =>
    rw [piecesAt_of_cutAt hmark hcut] at h
    rcases List.mem_cons.1 h with rfl | h
    · exact not_infix_of_cutAt hmark hcut
    · exact ih h

/-- There are at most as many cuts as characters. -/
theorem length_piecesAt_le (hmark : mark ≠ []) (s : Text) :
    (piecesAt mark s).length ≤ s.length + 1 := by
  induction s using piecesAt_induction hmark with
  | whole s h =>
    rw [piecesAt_of_cutAt_eq_none h, List.length_singleton]
    omega
  | cut s before after h ih =>
    have hshorter := length_lt_of_cutAt hmark h
    rw [piecesAt_of_cutAt hmark h, List.length_cons]
    omega

/-- A piece is no longer than the text. -/
theorem length_le_of_mem_piecesAt (hmark : mark ≠ []) {piece : Text}
    (h : piece ∈ piecesAt mark s) : piece.length ≤ s.length := by
  induction s using piecesAt_induction hmark with
  | whole s hcut =>
    rw [piecesAt_of_cutAt_eq_none hcut, List.mem_singleton] at h
    exact Nat.le_of_eq (congrArg List.length h)
  | cut s before after hcut ih =>
    have hlength := congrArg List.length (append_of_cutAt hcut)
    simp only [List.length_append] at hlength
    rw [piecesAt_of_cutAt hmark hcut] at h
    rcases List.mem_cons.1 h with rfl | h
    · omega
    · have hpiece := ih h
      omega

/-! ## From the right -/

/-- No two occurrences of the mark overlap. -/
def Apart (mark s : Text) : Prop :=
  ∀ p q p' q', s = p ++ mark ++ q → s = p' ++ mark ++ q' → p.length < p'.length →
    p.length + mark.length ≤ p'.length

theorem apart_singleton (c : Char) (s : Text) : Apart [c] s := fun _ _ _ _ _ _ hlt => hlt

/-- What a text is a part of has all of its occurrences. -/
theorem Apart.of_append_left {front : Text} (h : Apart mark (front ++ s)) : Apart mark s := by
  intro p q p' q' hp hp' hlt
  have hmoved := h (front ++ p) q (front ++ p') q' (by rw [hp]; simp only [List.append_assoc])
    (by rw [hp']; simp only [List.append_assoc]) (by simp only [List.length_append]; omega)
  simp only [List.length_append] at hmoved
  omega

theorem Apart.of_append_right {back : Text} (h : Apart mark (s ++ back)) : Apart mark s := by
  intro p q p' q' hp hp' hlt
  exact h p (q ++ back) p' (q' ++ back) (by rw [hp]; simp only [List.append_assoc])
    (by rw [hp']; simp only [List.append_assoc]) hlt

/-- The last piece is what stands after the last occurrence, and the others are
those of the text before it. -/
theorem piecesAt_of_cutAtLast (hmark : mark ≠ []) (hapart : Apart mark s) {before after : Text}
    (h : cutAtLast mark s = some (before, after)) :
    piecesAt mark s = piecesAt mark before ++ [after] := by
  induction s using piecesAt_induction hmark generalizing before with
  | whole s hcut =>
    rw [cutAt_eq_none_iff] at hcut
    rw [cutAtLast_eq_none_iff.2 hcut] at h
    cases h
  | cut s first rest hcut ih =>
    obtain ⟨hs, hfirst⟩ := cutAt_eq_some_iff.1 hcut
    obtain ⟨hs', hlast⟩ := cutAtLast_eq_some_iff.1 h
    rw [piecesAt_of_cutAt hmark hcut]
    rcases Nat.lt_or_ge first.length before.length with hlt | hge
    · -- the last occurrence is one of the rest, as it does not overlap the first
      have hbehind := hapart first rest before after hs hs' hlt
      have hwhole : first ++ mark ++ rest = before ++ (mark ++ after) := by
        rw [← hs, hs', List.append_assoc]
      obtain ⟨middle, rfl, hrest⟩ := exists_between hwhole
        (by simp only [List.length_append]; omega)
      have hlastRest : cutAtLast mark rest = some (middle, after) := by
        refine cutAtLast_eq_some_iff.2 ⟨by rw [hrest, List.append_assoc], fun p q hp => ?_⟩
        have hle := hlast (first ++ mark ++ p) q (by rw [hs, hp]; simp only [List.append_assoc])
        simp only [List.length_append] at hle
        omega
      have hfirstBefore : cutAt mark (first ++ mark ++ middle) = some (first, middle) := by
        refine cutAt_eq_some_iff.2 ⟨rfl, fun p q hp => ?_⟩
        refine hfirst p (q ++ (mark ++ after)) ?_
        rw [hs', hp]
        simp only [List.append_assoc]
      have hapartRest : Apart mark rest := Apart.of_append_left (hs ▸ hapart)
      rw [ih hapartRest hlastRest, piecesAt_of_cutAt hmark hfirstBefore, List.cons_append]
    · -- the first occurrence is the last one as well
      have hle := hlast first rest hs
      rw [hs, List.append_assoc, List.append_assoc] at hs'
      obtain ⟨rfl, hrest⟩ := List.append_inj hs' (Nat.le_antisymm hle hge)
      obtain rfl := List.append_cancel_left hrest
      have hnoneBefore : cutAt mark first = none :=
        cutAt_eq_none_iff.2 (not_infix_of_cutAt hmark hcut)
      have hnoneAfter : cutAt mark rest = none := by
        rw [cutAt_eq_none_iff]
        rintro ⟨p, q, rfl⟩
        have hlong := hlast (first ++ mark ++ p) q (by rw [hs]; simp only [List.append_assoc])
        have hpos := List.length_pos_iff.2 hmark
        simp only [List.length_append] at hlong
        omega
      rw [piecesAt_of_cutAt_eq_none hnoneBefore, piecesAt_of_cutAt_eq_none hnoneAfter,
        List.singleton_append]

end LogLine.Text
