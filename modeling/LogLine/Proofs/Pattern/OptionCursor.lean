/-
  Proofs/Pattern/OptionCursor.lean --- keys and options read by positions.

  Of the characters and slices that are taken by their positions for a name or for
  options none is out of range, and what is found is what the scanner finds:

      Cursor.readName_eq         the characters of a name
      Cursor.readOptions_eq      the options, and where reading goes on
-/
import LogLine.Pattern.Cursor
import LogLine.Proofs.Pattern.SpecifierForm
import LogLine.Proofs.Text.Slices

set_option autoImplicit false

namespace LogLine.Pattern

namespace Cursor

theorem readName_eq (before t : Text) :
    readName (before ++ t) before.length =
      some (t.takeWhile Text.isNamePart,
        before.length + (t.takeWhile Text.isNamePart).length) := by
  induction t generalizing before with
  | nil => simp [readName]
  | cons c t ih =>
    rw [readName, if_pos (Text.lt_length_append_cons before c t), Text.getElem?_append_cons]
    simp only [Option.bind_eq_bind, Option.bind_some]
    by_cases hc : Text.isNamePart c
    · rw [if_pos hc, Text.append_cons_eq, Text.length_append_singleton before c, ih,
        List.takeWhile_cons_of_pos hc]
      simp only [Option.bind_some, List.length_append, List.length_cons, List.length_nil]
      congr 2
      omega
    · rw [if_neg hc, List.takeWhile_cons_of_neg hc]
      rfl

/-- One character of a group. -/
theorem skipGroup_cons (before t : Text) (c : Char) (depth : Nat) :
    skipGroup (before ++ c :: t) (depth + 1) before.length =
      skipGroup (before ++ [c] ++ t)
        (if c = '{' then depth + 2 else if c = '}' then depth else depth + 1)
        (before ++ [c]).length := by
  rw [skipGroup, if_pos ⟨Nat.succ_pos depth, Text.lt_length_append_cons before c t⟩,
    Text.getElem?_append_cons, ← Text.append_cons_eq, ← Text.length_append_singleton]
  rfl

theorem skipGroup_of_closeGroup {depth : Nat} {t option rest : Text} (before : Text)
    (h : closeGroup depth t = some (option, rest)) :
    skipGroup (before ++ t) (depth + 1) before.length =
      some (0, before.length + option.length + 1) := by
  obtain ⟨hb, rfl⟩ := closeGroup_eq_some_iff.1 h
  clear h
  induction option generalizing depth before with
  | nil =>
    obtain rfl := balancedFrom_nil.1 hb
    rw [List.nil_append, skipGroup_cons, if_neg (by decide), if_pos rfl, skipGroup]
    simp
  | cons c option ih =>
    have hlen : (before ++ [c]).length + option.length + 1 =
        before.length + (c :: option).length + 1 := by
      simp only [List.length_append, List.length_cons, List.length_nil]
      omega
    rw [List.cons_append, skipGroup_cons, ← hlen]
    by_cases ho : c = '{'
    · subst ho
      rw [if_pos rfl]
      exact ih _ (balancedFrom_open.1 hb)
    · rw [if_neg ho]
      by_cases hc : c = '}'
      · subst hc
        obtain ⟨below, rfl, hbelow⟩ := balancedFrom_close.1 hb
        rw [if_pos rfl]
        exact ih _ hbelow
      · rw [if_neg hc]
        exact ih _ ((balancedFrom_other ho hc).1 hb)

theorem skipGroup_of_unclosed {depth : Nat} {t : Text} (before : Text)
    (h : closeGroup depth t = none) :
    ∃ left, skipGroup (before ++ t) (depth + 1) before.length =
      some (left + 1, (before ++ t).length) := by
  induction t generalizing depth before with
  | nil =>
    refine ⟨depth, ?_⟩
    rw [skipGroup, if_neg (by simp)]
    simp
  | cons c t ih =>
    unfold closeGroup at h
    rw [skipGroup_cons, Text.append_cons_eq before c t]
    by_cases ho : c = '{'
    · rw [if_pos ho, Option.map_eq_none_iff] at h
      rw [if_pos ho]
      exact ih _ h
    · rw [if_neg ho] at h ⊢
      by_cases hc : c = '}'
      · rw [if_pos hc] at h ⊢
        cases depth with
        | zero => cases h
        | succ below => exact ih _ (Option.map_eq_none_iff.1 h)
      · rw [if_neg hc] at h ⊢
        exact ih _ (Option.map_eq_none_iff.1 h)

theorem lastBrace?_of_mem {before after : Text} (h : '}' ∉ after) :
    lastBrace? (before ++ '}' :: after) = some before.length := by
  rw [lastBrace?, cutAtLast_append h]
  rfl

theorem lt_of_lastBrace? {before u : Text} {last : Nat} (hu : '}' ∉ u)
    (h : lastBrace? (before ++ u) = some last) : last < before.length := by
  by_cases hb : '}' ∈ before
  · obtain ⟨front, back, rfl, hback⟩ := exists_last_of_mem hb
    have hsplit : front ++ '}' :: back ++ u = front ++ '}' :: (back ++ u) := by simp
    rw [hsplit, lastBrace?_of_mem (by simp [hback, hu]), Option.some.injEq] at h
    rw [← h]
    exact Text.lt_length_append_cons front '}' back
  · rw [lastBrace?, cutAtLast_eq_none (by simp [hb, hu])] at h
    cases h

/-- The last closing brace is searched in all of the text, but counts only since
the options began: reading goes on where `resumption` says. -/
theorem unclosed_stop (pre u before inside : Text) (hs : pre ++ u = before ++ '{' :: inside) :
    (lastBrace? (pre ++ u)).elim (before.length + 1)
        (fun last => if pre.length ≤ last then last + 1 else before.length + 1) +
      (resumption u inside).length = (pre ++ u).length := by
  by_cases hu : '}' ∈ u
  · obtain ⟨front, after, rfl, hafter⟩ := exists_last_of_mem hu
    have hlast : lastBrace? (pre ++ (front ++ '}' :: after)) = some (pre ++ front).length := by
      rw [← List.append_assoc, lastBrace?_of_mem hafter]
    rw [hlast, resumption_of_mem rfl hafter, Option.elim_some, if_pos (by simp)]
    simp only [List.length_append, List.length_cons]
    omega
  · have hlen : before.length + 1 + inside.length = (pre ++ u).length := by
      rw [hs]
      simp only [List.length_append, List.length_cons]
      omega
    rw [resumption_of_not_mem hu]
    cases hlast : lastBrace? (pre ++ u) with
    | none => exact hlen
    | some last => rwa [Option.elim_some, if_neg (Nat.not_le.2 (lt_of_lastBrace? hu hlast))]

/-- A group that is closed is one option, and reading goes on after it. -/
theorem readOptions_of_closeGroup (start : Nat) (before : Text) {rest option after : Text}
    (h : closeGroup 0 rest = some (option, after)) :
    readOptions (before ++ '{' :: rest) start before.length =
      (readOptions (before ++ '{' :: rest) start (before.length + 1 + option.length + 1)).map
        fun more => (option :: more.1, more.2) := by
  have hskip := skipGroup_of_closeGroup (before ++ ['{']) h
  rw [← Text.append_cons_eq, ← Text.length_append_singleton] at hskip
  have hslice : Text.slice? (before ++ '{' :: rest) (before.length + 1)
      (before.length + 1 + option.length + 1 - 1) = some option := by
    have hpart := Text.slice?_append (before ++ ['{']) option ('}' :: after)
    rwa [closeGroup_append h, ← Text.append_cons_eq, ← Text.length_append_singleton] at hpart
  rw [readOptions, if_pos (Text.lt_length_append_cons before '{' rest), Text.getElem?_append_cons]
  simp only [Option.bind_eq_bind, Option.bind_some, if_true]
  split
  · rename_i hnone
    rw [hskip] at hnone
    cases hnone
  · rename_i stop hclosed
    rw [hskip, Option.some.injEq, Prod.mk.injEq] at hclosed
    obtain ⟨-, rfl⟩ := hclosed
    rw [hslice, Option.bind_some]
    cases readOptions (before ++ '{' :: rest) start (before.length + 1 + option.length + 1) <;> rfl
  · rename_i left stop hopen
    rw [hskip, Option.some.injEq, Prod.mk.injEq] at hopen
    cases hopen.1

/-- A group that is not closed gives no option. -/
theorem readOptions_of_unclosed (start : Nat) (before : Text) {rest : Text}
    (h : closeGroup 0 rest = none) :
    readOptions (before ++ '{' :: rest) start before.length =
      some ([], (lastBrace? (before ++ '{' :: rest)).elim (before.length + 1)
        fun last => if start ≤ last then last + 1 else before.length + 1) := by
  obtain ⟨left, hskip⟩ := skipGroup_of_unclosed (before ++ ['{']) h
  rw [← Text.append_cons_eq, ← Text.length_append_singleton] at hskip
  rw [readOptions, if_pos (Text.lt_length_append_cons before '{' rest), Text.getElem?_append_cons]
  simp only [Option.bind_eq_bind, Option.bind_some, if_true]
  split
  · rename_i hnone
    rw [hskip] at hnone
    cases hnone
  · rename_i stop hclosed
    rw [hskip, Option.some.injEq, Prod.mk.injEq] at hclosed
    cases hclosed.1
  · cases lastBrace? (before ++ '{' :: rest) <;> rfl

theorem readOptions_eq {pre u before t : Text} (hs : pre ++ u = before ++ t) :
    ∃ stop, readOptions (before ++ t) pre.length before.length =
        some ((optionGroups u t).1, stop) ∧
      stop + (optionGroups u t).2.length = (before ++ t).length := by
  fun_induction optionGroups u t generalizing before with
  | case1 =>
    refine ⟨before.length, ?_, by simp⟩
    rw [readOptions, if_neg (by simp)]
  | case2 rest option after found more =>
    rename_i ih
    have hagain : before ++ '{' :: rest = before ++ '{' :: option ++ ['}'] ++ after := by
      simp [← closeGroup_append found]
    have hplace : (before ++ '{' :: option ++ ['}']).length =
        before.length + 1 + option.length + 1 := by
      simp only [List.length_append, List.length_cons, List.length_nil]
      omega
    obtain ⟨stop, hread, hstop⟩ := ih (hs.trans hagain)
    rw [← hagain] at hread hstop
    rw [hplace] at hread
    refine ⟨stop, ?_, hstop⟩
    rw [readOptions_of_closeGroup pre.length before found, hread]
    rfl
  | case3 rest missing =>
    refine ⟨_, readOptions_of_unclosed pre.length before missing, ?_⟩
    rw [← hs]
    exact unclosed_stop pre u before rest hs
  | case4 c rest hc =>
    refine ⟨before.length, ?_, by simp⟩
    rw [readOptions, if_pos (Text.lt_length_append_cons before c rest), Text.getElem?_append_cons]
    simp [hc]

end Cursor

end LogLine.Pattern
