/-
  Proofs/Pattern/Cursor.lean --- a pattern read by positions.

  The cursor that goes over the characters of a pattern stays in it and finds the
  pieces that the scanner finds:

      Cursor.exists_of_finish     how far a specifier takes the cursor
      Cursor.run_eq_scan          no access is out of range, and the pieces are the same
-/
import LogLine.Proofs.Pattern.OptionCursor

set_option autoImplicit false

namespace LogLine.Pattern

namespace Cursor

/-! ### Completing a specifier -/

/-- Completing a specifier takes its key and its options, and the cursor stands
where these end. -/
theorem exists_finish_eq {s before t : Text} {cursor : Cursor} (c : Char) (hs : s = before ++ t)
    (hplace : cursor.place = before.length) :
    ∃ stop, stop + (optionGroups (keyAt c t).2 (keyAt c t).2).2.length = s.length ∧
      finish s cursor c = (Text.slice? s cursor.origin stop).map fun raw =>
        ([.specifier
            { position := cursor.origin, raw, width := cursor.width, key := (keyAt c t).1,
              options := (optionGroups (keyAt c t).2 (keyAt c t).2).1 }],
          { place := stop }) := by
  subst hs
  by_cases hc : Text.isLetter c = true
  · have hkey : keyAt c t =
        (c :: t.takeWhile Text.isNamePart, t.dropWhile Text.isNamePart) := by
      rw [keyAt, if_pos hc]
    have hsplit : before ++ t.takeWhile Text.isNamePart ++ t.dropWhile Text.isNamePart =
        before ++ t := by
      rw [List.append_assoc, List.takeWhile_append_dropWhile]
    obtain ⟨stop, hread, hstop⟩ := @readOptions_eq (before ++ t.takeWhile Text.isNamePart)
      (t.dropWhile Text.isNamePart) _ _ rfl
    rw [hsplit, List.length_append] at hread
    rw [hsplit] at hstop
    refine ⟨stop, by rw [hkey]; exact hstop, ?_⟩
    rw [finish, if_pos hc, hplace, readName_eq, hkey]
    simp only [Option.bind_eq_bind, Option.bind_some, hread, if_pos hc]
    cases Text.slice? (before ++ t) cursor.origin stop <;> rfl
  · have hkey : keyAt c t = ([], t) := by
      rw [keyAt, if_neg hc]
    obtain ⟨stop, hread, hstop⟩ := @readOptions_eq before t _ _ rfl
    refine ⟨stop, by rw [hkey]; exact hstop, ?_⟩
    rw [finish, if_neg hc, hplace, hkey]
    simp only [Option.bind_eq_bind, Option.bind_some, hread, if_neg hc]
    cases Text.slice? (before ++ t) cursor.origin stop <;> rfl

/-- The cursor stays in the text and goes past every option of the specifier. -/
theorem exists_of_finish {s : Text} {cursor next : Cursor} {c : Char} {pieces : List Piece}
    (hplace : cursor.place ≤ s.length) (h : finish s cursor c = some (pieces, next)) :
    ∃ spec, pieces = [.specifier spec] ∧ cursor.place ≤ next.place ∧ next.place ≤ s.length ∧
      ∀ option ∈ spec.options, cursor.place + option.length + 2 ≤ next.place := by
  have hlen : cursor.place = (s.take cursor.place).length := by
    rw [List.length_take, Nat.min_eq_left hplace]
  obtain ⟨stop, hstop, hfinish⟩ :=
    exists_finish_eq c (List.take_append_drop cursor.place s).symm hlen
  have hkey := (keyAt_suffix c (s.drop cursor.place)).length_le
  rw [List.length_drop] at hkey
  generalize keyAt c (s.drop cursor.place) = key at hstop hfinish hkey
  obtain ⟨⟨options, rest⟩, hgroups⟩ : ∃ groups, optionGroups key.2 key.2 = groups := ⟨_, rfl⟩
  rw [hgroups] at hstop hfinish
  obtain ⟨skipped, hsplit, -, -⟩ := optionGroups_iff.1 hgroups
  have hlength := congrArg List.length hsplit
  simp only [List.length_append] at hlength
  rw [hfinish] at h
  obtain ⟨raw, _, hnext⟩ := Option.map_eq_some_iff.1 h
  obtain ⟨rfl, rfl⟩ := Prod.mk.inj hnext
  simp only at hstop
  refine ⟨_, rfl, ?_, ?_, fun option hoption => ?_⟩
  · show cursor.place ≤ stop
    omega
  · show stop ≤ s.length
    omega
  · have hpast : option.length + 1 < (options.flatMap braced).length :=
      length_lt_flatMap_braced hoption
    show cursor.place + option.length + 2 ≤ stop
    omega

/-- A specifier that is complete with a character takes the cursor past all of its
options. -/
theorem exists_of_completed {s : Text} {cursor begun next : Cursor} {c : Char}
    {pieces : List Piece} (hplace : begun.place = cursor.place + 1) (hle : begun.place ≤ s.length)
    (hfinish : finish s begun c = some (pieces, next)) :
    ∃ spec, pieces = [.specifier spec] ∧ cursor.place < next.place ∧ next.place ≤ s.length ∧
      ∀ option ∈ spec.options, cursor.place + option.length + 3 ≤ next.place := by
  obtain ⟨spec, hpieces, hgoes, hend, hoptions⟩ := exists_of_finish hle hfinish
  refine ⟨spec, hpieces, by omega, hend, fun option hoption => ?_⟩
  have hpast := hoptions option hoption
  omega

/-! ### Steps in turn -/

theorem run_of_step {s : Text} {cursor next : Cursor} {pieces : List Piece}
    (h : step s cursor = some (pieces, next)) :
    run s cursor = (run s next).map (pieces ++ ·) := by
  obtain ⟨c, hc, _⟩ := Option.bind_eq_some_iff.1 h
  obtain ⟨hlt, _⟩ := List.getElem?_eq_some_iff.1 hc
  rw [run, if_pos hlt]
  split
  · rename_i hnone
    rw [h] at hnone
    cases hnone
  · rename_i pieces' next' hsome
    rw [h, Option.some.injEq, Prod.mk.injEq] at hsome
    obtain ⟨rfl, rfl⟩ := hsome
    rfl

/-- A step that completes no piece. -/
theorem run_of_silent_step {s : Text} {cursor next : Cursor} (h : step s cursor = some ([], next)) :
    run s cursor = run s next := by
  rw [run_of_step h]
  cases run s next <;> rfl

theorem run_of_end {s : Text} {cursor : Cursor} (hplace : cursor.place = s.length)
    (hphase : cursor.phase ≠ .literal) :
    run s cursor = (Text.slice? s cursor.origin s.length).map fun raw => [.unfinished raw] := by
  rw [run, if_neg (by omega), if_neg hphase]

/-! ### Dashes and digits -/

theorem accumulate_min (value : Nat) (c : Char) :
    accumulate (min value maxSize) c = min (value * 10 + Text.digitValue c) maxSize := by
  unfold accumulate
  omega

theorem foldl_accumulate (value : Nat) (digits : Text) :
    digits.foldl accumulate (min value maxSize) = min (Text.digitsValue value digits) maxSize := by
  induction digits generalizing value with
  | nil => rfl
  | cons c digits ih =>
    rw [List.foldl_cons, accumulate_min, ih]
    rfl

/-- A width read digit by digit is that of all digits. -/
theorem foldl_accumulate_digitValue {c : Char} (hc : c.isDigit = true) (digits : Text) :
    digits.foldl accumulate (Text.digitValue c) = saturated (c :: digits) := by
  have hle : Text.digitValue c ≤ maxSize :=
    Nat.le_trans (Nat.sub_le _ _)
      (Nat.le_trans (Nat.le_of_lt (Text.toNat_lt_of_isDigit hc)) (by decide))
  have h := foldl_accumulate (Text.digitValue c) digits
  rw [Nat.min_eq_left hle] at h
  rw [h, saturated, Text.digitsValue, Text.digitsValue, List.foldl_cons, Nat.zero_mul, Nat.zero_add]

/-- The cursor after a dash. -/
def afterDash (cursor : Cursor) (_ : Char) : Cursor :=
  { cursor with place := cursor.place + 1, left := true }

/-- The cursor after a digit of the least width. -/
def afterLeastDigit (cursor : Cursor) (c : Char) : Cursor :=
  { cursor with place := cursor.place + 1, least := accumulate cursor.least c }

/-- The cursor after a digit of the greatest width. -/
def afterMostDigit (cursor : Cursor) (c : Char) : Cursor :=
  { cursor with place := cursor.place + 1, most := accumulate cursor.most c }

theorem foldl_afterDash (cursor : Cursor) (n : Nat) :
    (List.replicate n '-').foldl afterDash cursor =
      { cursor with place := cursor.place + n, left := cursor.left || decide (0 < n) } := by
  induction n generalizing cursor with
  | zero => simp
  | succ n ih =>
    rw [List.replicate_succ, List.foldl_cons, ih]
    simp [afterDash, Nat.add_assoc, Nat.add_comm 1 n]

theorem foldl_afterLeastDigit (cursor : Cursor) (digits : Text) :
    digits.foldl afterLeastDigit cursor =
      { cursor with place := cursor.place + digits.length
                    least := digits.foldl accumulate cursor.least } := by
  induction digits generalizing cursor with
  | nil => rfl
  | cons c digits ih =>
    rw [List.foldl_cons, ih]
    simp [afterLeastDigit, Nat.add_assoc, Nat.add_comm 1 digits.length]

theorem foldl_afterMostDigit (cursor : Cursor) (digits : Text) :
    digits.foldl afterMostDigit cursor =
      { cursor with place := cursor.place + digits.length
                    most := digits.foldl accumulate cursor.most } := by
  induction digits generalizing cursor with
  | nil => rfl
  | cons c digits ih =>
    rw [List.foldl_cons, ih]
    simp [afterMostDigit, Nat.add_assoc, Nat.add_comm 1 digits.length]

/-- Characters that each move the cursor on and complete no piece. -/
theorem run_foldl {s before chars v : Text} {cursor : Cursor} {next : Cursor → Char → Cursor}
    (hnext : ∀ cursor c, (next cursor c).place = cursor.place + 1 ∧
      (next cursor c).phase = cursor.phase)
    (hstep : ∀ (at_ : Cursor) (c : Char), at_.phase = cursor.phase → c ∈ chars →
      s[at_.place]? = some c → step s at_ = some ([], next at_ c))
    (hs : s = before ++ (chars ++ v)) (hplace : cursor.place = before.length) :
    run s cursor = run s (chars.foldl next cursor) := by
  induction chars generalizing before cursor with
  | nil => rfl
  | cons c chars ih =>
    have hc : s[cursor.place]? = some c := by
      rw [hs, hplace]
      exact Text.getElem?_append_cons before c (chars ++ v)
    rw [run_of_silent_step (hstep cursor c rfl List.mem_cons_self hc), List.foldl_cons]
    have hsplit : s = before ++ [c] ++ (chars ++ v) := by
      rw [hs]
      simp
    refine ih ?_ hsplit ?_
    · intro at_ d hphase hd
      exact hstep at_ d (hphase.trans (hnext cursor c).2) (List.mem_cons_of_mem _ hd)
    · rw [(hnext cursor c).1, hplace]
      simp

theorem run_dashes {s before v : Text} {cursor : Cursor} (n : Nat)
    (hs : s = before ++ (List.replicate n '-' ++ v)) (hphase : cursor.phase = .flags)
    (hplace : cursor.place = before.length) :
    run s cursor =
      run s { cursor with place := cursor.place + n, left := cursor.left || decide (0 < n) } := by
  rw [← foldl_afterDash]
  refine run_foldl (fun _ _ => ⟨rfl, rfl⟩) ?_ hs hplace
  intro at_ c hat hc hget
  obtain rfl := List.eq_of_mem_replicate hc
  simp [step, hget, hat, hphase, afterDash]

theorem run_leastDigits {s before digits v : Text} {cursor : Cursor} (hdigits : IsDigits digits)
    (hs : s = before ++ (digits ++ v)) (hphase : cursor.phase = .least)
    (hplace : cursor.place = before.length) :
    run s cursor =
      run s { cursor with place := cursor.place + digits.length
                          least := digits.foldl accumulate cursor.least } := by
  rw [← foldl_afterLeastDigit]
  refine run_foldl (fun _ _ => ⟨rfl, rfl⟩) ?_ hs hplace
  intro at_ c hat hc hget
  simp [step, hget, hat, hphase, hdigits c hc, afterLeastDigit]

theorem run_mostDigits {s before digits v : Text} {cursor : Cursor} (hdigits : IsDigits digits)
    (hs : s = before ++ (digits ++ v)) (hphase : cursor.phase = .most)
    (hplace : cursor.place = before.length) :
    run s cursor =
      run s { cursor with place := cursor.place + digits.length
                          most := digits.foldl accumulate cursor.most } := by
  rw [← foldl_afterMostDigit]
  refine run_foldl (fun _ _ => ⟨rfl, rfl⟩) ?_ hs hplace
  intro at_ c hat hc hget
  simp [step, hget, hat, hphase, hdigits c hc, afterMostDigit]

/-! ### Specifiers -/

/-- Reading on after what the percent sign at `origin` begins. -/
def resume (s : Text) (origin : Nat) : Attempt → Option (List Piece)
  | .specifier spec rest => (run s { place := s.length - rest.length }).map (.specifier spec :: ·)
  | .malformedDot raw found rest =>
    (run s { place := s.length - rest.length }).map
      (.malformedDot raw (origin + raw.length) found :: ·)
  | .unfinished => (Text.slice? s origin s.length).map fun raw => [.unfinished raw]

/-- After all flags and widths there is the end, or a character that completes
the specifier. -/
def afterWidths (position : Nat) (s : Text) (width : FieldWidth) : Text → Attempt
  | [] => .unfinished
  | c :: rest => complete position s width c rest

section

variable {s pre w t : Text} {cursor : Cursor}

/-- The characters from a percent sign to what follows it. -/
theorem slice?_of_suffix {u rest : Text} {stop : Nat} (hs : s = pre ++ '%' :: u)
    (hrest : rest <:+ u) (hstop : stop + rest.length = s.length) :
    Text.slice? s pre.length stop = some ('%' :: u.take (u.length - rest.length)) := by
  obtain ⟨middle, rfl⟩ := hrest
  have hplace : stop = pre.length + ('%' :: middle).length := by
    rw [hs] at hstop
    simp only [List.length_append, List.length_cons] at hstop ⊢
    omega
  have hsplit : s = pre ++ (('%' :: middle) ++ rest) := hs
  rw [hplace, hsplit, Text.slice?_append, List.length_append, Nat.add_sub_cancel, List.take_left]

/-- The character at the cursor. -/
theorem getElem?_of_place {c : Char} (hs : s = pre ++ '%' :: (w ++ c :: t))
    (hplace : cursor.place = pre.length + 1 + w.length) : s[cursor.place]? = some c := by
  have hlen : cursor.place = (pre ++ '%' :: w).length := by
    simp only [hplace, List.length_append, List.length_cons]
    omega
  have hsplit : s = (pre ++ '%' :: w) ++ c :: t := by
    rw [hs]
    simp
  rw [hsplit, hlen]
  exact Text.getElem?_append_cons _ c t

theorem run_finish {c : Char} (hs : s = pre ++ '%' :: (w ++ c :: t))
    (hplace : cursor.place = pre.length + 1 + w.length) (horigin : cursor.origin = pre.length)
    (hstep : step s cursor = finish s { cursor with place := cursor.place + 1 } c) :
    run s cursor =
      resume s pre.length (complete pre.length (w ++ c :: t) cursor.width c t) := by
  have hsplit : s = pre ++ '%' :: w ++ [c] ++ t := by
    rw [hs]
    simp
  have hlen : ({ cursor with place := cursor.place + 1 } : Cursor).place =
      (pre ++ '%' :: w ++ [c]).length := by
    simp only [hplace, List.length_append, List.length_cons, List.length_nil]
    omega
  obtain ⟨stop, hstop, hfinish⟩ := exists_finish_eq c hsplit hlen
  have hrest : (optionGroups (keyAt c t).2 (keyAt c t).2).2 <:+ w ++ c :: t :=
    ((optionGroups_suffix (List.suffix_refl _)).trans (keyAt_suffix c t)).trans
      ⟨w ++ [c], by simp⟩
  have hslice := slice?_of_suffix hs hrest hstop
  rw [show ({ cursor with place := cursor.place + 1 } : Cursor).origin = pre.length from horigin,
    hslice, Option.map_some] at hfinish
  rw [horigin] at hstep
  rw [run_of_step (hstep.trans hfinish), complete, resume, ← hstop, Nat.add_sub_cancel]
  rfl

theorem run_afterWidths (hs : s = pre ++ '%' :: (w ++ t))
    (hplace : cursor.place = pre.length + 1 + w.length) (horigin : cursor.origin = pre.length)
    (hphase : cursor.phase ≠ .literal)
    (hstep : ∀ c ∈ t.head?, s[cursor.place]? = some c →
      step s cursor = finish s { cursor with place := cursor.place + 1 } c) :
    run s cursor = resume s pre.length (afterWidths pre.length (w ++ t) cursor.width t) := by
  cases t with
  | nil =>
    have hend : cursor.place = s.length := by
      rw [hs, hplace]
      simp only [List.length_append, List.length_cons, List.length_nil]
      omega
    rw [run_of_end hend hphase, horigin]
    rfl
  | cons c t => exact run_finish hs hplace horigin (hstep c rfl (getElem?_of_place hs hplace))

/-- After a dot that no digit follows. -/
theorem run_dot_of_not_isDigit {d : Char} (hs : s = pre ++ '%' :: (w ++ '.' :: d :: t))
    (hd : d.isDigit = false) (hphase : cursor.phase = .dot)
    (hplace : cursor.place = pre.length + 1 + (w ++ ['.']).length)
    (horigin : cursor.origin = pre.length) :
    run s cursor = resume s pre.length
      (afterLeast pre.length (w ++ '.' :: d :: t) cursor.width ('.' :: d :: t)) := by
  have hsplit : s = pre ++ '%' :: (w ++ ['.'] ++ d :: t) := by
    rw [hs]
    simp
  have hget : s[cursor.place]? = some d := getElem?_of_place hsplit hplace
  have hstop : cursor.place + (d :: t).length = s.length := by
    rw [hplace, hsplit]
    simp only [List.length_append, List.length_cons]
    omega
  have hslice := slice?_of_suffix hs ⟨w ++ ['.'], by simp⟩ hstop
  have hstep : step s cursor =
      some ([.malformedDot ('%' :: (w ++ '.' :: d :: t).take
        ((w ++ '.' :: d :: t).length - (d :: t).length)) cursor.place d],
        { place := cursor.place }) := by
    simp [step, hget, hphase, hd, horigin, hslice]
  have hraw : pre.length + ('%' :: (w ++ '.' :: d :: t).take
      ((w ++ '.' :: d :: t).length - (d :: t).length)).length = cursor.place := by
    simp only [hplace, List.length_cons, List.length_take, List.length_append, List.length_nil]
    omega
  have hplace' : s.length - (d :: t).length = cursor.place := by omega
  simp only [afterLeast, if_true, hd, Bool.false_eq_true, if_false, resume, hraw, hplace']
  rw [run_of_step hstep]
  rfl

/-- After a dot and the digits of the greatest width. -/
theorem run_dot_of_digits {d : Char} {digits : Text}
    (hs : s = pre ++ '%' :: (w ++ '.' :: d :: (digits ++ t))) (hdigits : IsDigits (d :: digits))
    (ht : ∀ c ∈ t.head?, c.isDigit = false) (hphase : cursor.phase = .dot)
    (hplace : cursor.place = pre.length + 1 + (w ++ ['.']).length)
    (horigin : cursor.origin = pre.length) :
    run s cursor = resume s pre.length (afterLeast pre.length (w ++ '.' :: d :: (digits ++ t))
      cursor.width ('.' :: d :: (digits ++ t))) := by
  have hd : d.isDigit = true := hdigits d List.mem_cons_self
  have hsplit : s = pre ++ '%' :: (w ++ ['.'] ++ d :: (digits ++ t)) := by
    rw [hs]
    simp
  have hstep : step s cursor = some ([], { cursor with
      place := cursor.place + 1, phase := .most, most := Text.digitValue d }) := by
    simp [step, getElem?_of_place hsplit hplace, hphase, hd]
  have hmore : s = (pre ++ '%' :: (w ++ ['.', d])) ++ (digits ++ t) := by
    rw [hs]
    simp
  have hlen : cursor.place + 1 = (pre ++ '%' :: (w ++ ['.', d])).length := by
    simp only [hplace, List.length_append, List.length_cons, List.length_nil]
    omega
  have hread : afterLeast pre.length (w ++ '.' :: d :: (digits ++ t)) cursor.width
      ('.' :: d :: (digits ++ t)) =
      afterWidths pre.length (w ++ ['.', d] ++ digits ++ t)
        { cursor.width with most := boundOf (d :: digits) } t := by
    have htake : (d :: (digits ++ t)).takeWhile Char.isDigit = d :: digits :=
      takeWhile_run hdigits ht
    have hdrop : (d :: (digits ++ t)).dropWhile Char.isDigit = t := dropWhile_run hdigits ht
    have hagain : w ++ '.' :: d :: (digits ++ t) = w ++ ['.', d] ++ digits ++ t := by simp
    rw [hagain]
    simp only [afterLeast, if_true, hd, htake, hdrop]
    cases t <;> rfl
  have hfinal : s = pre ++ '%' :: (w ++ ['.', d] ++ digits ++ t) := by
    rw [hs]
    simp
  rw [run_of_silent_step hstep, run_mostDigits (fun c hc => hdigits c (List.mem_cons_of_mem d hc))
    hmore rfl hlen, foldl_accumulate_digitValue hd, hread]
  refine run_afterWidths hfinal ?_ horigin (by simp) ?_
  · simp only [hplace, List.length_append, List.length_cons, List.length_nil]
    omega
  · intro c hc hget
    simp [step, hget, ht c hc]

/-- After a dot. -/
theorem run_dot (hs : s = pre ++ '%' :: (w ++ '.' :: t)) (hphase : cursor.phase = .dot)
    (hplace : cursor.place = pre.length + 1 + (w ++ ['.']).length)
    (horigin : cursor.origin = pre.length) :
    run s cursor = resume s pre.length
      (afterLeast pre.length (w ++ '.' :: t) cursor.width ('.' :: t)) := by
  cases t with
  | nil =>
    have hsplit : s = pre ++ '%' :: (w ++ ['.'] ++ []) := by rw [hs, List.append_nil]
    exact run_afterWidths hsplit hplace horigin (by simp [hphase]) (by rintro c ⟨⟩)
  | cons d tail =>
    cases hd : d.isDigit with
    | false => exact run_dot_of_not_isDigit hs hd hphase hplace horigin
    | true =>
      obtain ⟨digits, after, rfl, hdigits, hafter⟩ := exists_run Char.isDigit tail
      have hall : IsDigits (d :: digits) := by
        intro c hc
        rcases List.mem_cons.1 hc with rfl | hc
        · exact hd
        · exact hdigits c hc
      exact run_dot_of_digits hs hall hafter hphase hplace horigin

/-- After the dashes and the digits of the least width. -/
theorem run_afterLeast (hs : s = pre ++ '%' :: (w ++ t))
    (hphase : cursor.phase = .flags ∧ (∀ c ∈ t.head?, c ≠ '-') ∨ cursor.phase = .least)
    (ht : ∀ c ∈ t.head?, c.isDigit = false)
    (hplace : cursor.place = pre.length + 1 + w.length) (horigin : cursor.origin = pre.length) :
    run s cursor = resume s pre.length (afterLeast pre.length (w ++ t) cursor.width t) := by
  have hne : cursor.phase ≠ .literal := by
    rcases hphase with ⟨h, _⟩ | h <;> simp [h]
  cases t with
  | nil => exact run_afterWidths hs hplace horigin hne (by rintro c ⟨⟩)
  | cons c t =>
    have hget : s[cursor.place]? = some c := getElem?_of_place hs hplace
    by_cases hdot : c = '.'
    · subst hdot
      have hstep : step s cursor =
          some ([], { cursor with place := cursor.place + 1, phase := .dot }) := by
        rcases hphase with ⟨h, _⟩ | h <;> simp [step, hget, h]
      rw [run_of_silent_step hstep]
      have hdotPlace : cursor.place + 1 = pre.length + 1 + (w ++ ['.']).length := by
        rw [hplace, List.length_append, List.length_singleton, Nat.add_assoc]
      exact @run_dot s pre w t { cursor with place := cursor.place + 1, phase := .dot } hs rfl
        hdotPlace horigin
    · have hstep : step s cursor = finish s { cursor with place := cursor.place + 1 } c := by
        rcases hphase with ⟨h, hdash⟩ | h
        · simp [step, hget, h, hdot, ht c rfl, hdash c rfl]
        · simp [step, hget, h, hdot, ht c rfl]
      rw [run_finish hs hplace horigin hstep]
      simp only [afterLeast, if_neg hdot]

/-- After the dashes. -/
theorem run_afterDashes {least : Text} (hs : s = pre ++ '%' :: (w ++ (least ++ t)))
    (hleast : IsDigits least) (hflag : ∀ c ∈ (least ++ t).head?, c ≠ '-')
    (ht : ∀ c ∈ t.head?, c.isDigit = false) (hphase : cursor.phase = .flags)
    (hplace : cursor.place = pre.length + 1 + w.length) (horigin : cursor.origin = pre.length)
    (hzero : cursor.least = 0) :
    run s cursor = resume s pre.length (afterLeast pre.length (w ++ (least ++ t))
      { cursor.width with least := saturated least } t) := by
  cases least with
  | nil =>
    have hwidth : { cursor.width with least := saturated [] } = cursor.width := by
      simp [width, saturated, Text.digitsValue, hzero]
    rw [hwidth]
    exact run_afterLeast hs (.inl ⟨hphase, hflag⟩) ht hplace horigin
  | cons d digits =>
    have hd : d.isDigit = true := hleast d List.mem_cons_self
    have hdash : d ≠ '-' := hflag d rfl
    have hdot : d ≠ '.' := by
      rintro rfl
      cases hd
    have hdigits : IsDigits digits := fun c hc => hleast c (List.mem_cons_of_mem d hc)
    have hget : s[cursor.place]? = some d := getElem?_of_place hs hplace
    have hstep : step s cursor = some ([], { cursor with
        place := cursor.place + 1, phase := .least, least := Text.digitValue d }) := by
      simp [step, hget, hphase, hdash, hdot, hd]
    have hmore : s = (pre ++ '%' :: (w ++ [d])) ++ (digits ++ t) := by
      rw [hs]
      simp
    have hlen : cursor.place + 1 = (pre ++ '%' :: (w ++ [d])).length := by
      simp only [hplace, List.length_append, List.length_cons, List.length_nil]
      omega
    have hrest : s = pre ++ '%' :: (w ++ d :: digits ++ t) := by
      rw [hs]
      simp
    rw [run_of_silent_step hstep, run_leastDigits hdigits hmore rfl hlen,
      foldl_accumulate_digitValue hd]
    refine (run_afterLeast hrest (.inr ?_) ht ?_ ?_).trans ?_
    · rfl
    · simp only [hplace, List.length_append, List.length_cons]
      omega
    · exact horigin
    · rw [List.append_assoc]
      rfl

/-- What the cursor reads after a percent sign is what `attempt` reads there. -/
theorem run_attempt {u : Text} (hs : s = pre ++ '%' :: u) :
    run s { phase := .flags, place := pre.length + 1, origin := pre.length } =
      resume s pre.length (attempt pre.length u) := by
  obtain ⟨n, least, t, rfl, hleast, hflag, ht⟩ := exists_flags u
  have hdashes : s = (pre ++ ['%']) ++ (List.replicate n '-' ++ (least ++ t)) := by
    rw [hs]
    simp
  rw [attempt_eq_afterLeast hleast hflag ht, run_dashes n hdashes rfl (by simp),
    run_afterDashes hs hleast hflag ht rfl (by simp) rfl rfl]
  simp [width]

end

/-- Where reading on gives the pieces of what is left, it gives those of the
specifier before them as well. -/
theorem resume_attempt {before u : Text} (hne : u ≠ []) (hd : u.head? ≠ some '%')
    (hrest : ∀ rest : Text, rest <:+ u →
      run (before ++ '%' :: u) { place := (before ++ '%' :: u).length - rest.length } =
        some (scanFrom ((before ++ '%' :: u).length - rest.length) rest)) :
    resume (before ++ '%' :: u) before.length (attempt before.length u) =
      some (scanFrom before.length ('%' :: u)) := by
  have hplace : ∀ rest raw : Text, rest.length < u.length →
      raw = '%' :: u.take (u.length - rest.length) →
      (before ++ '%' :: u).length - rest.length = before.length + raw.length := by
    rintro rest raw hlt rfl
    simp only [List.length_append, List.length_cons, List.length_take]
    omega
  rw [scanFrom_eq_attempt hne hd]
  cases hread : attempt before.length u with
  | specifier spec rest =>
    obtain ⟨hsuffix, hlt, hraw⟩ := attempt_specifier hread
    have h := hrest rest hsuffix
    rw [hplace rest spec.raw hlt hraw] at h
    rw [resume, hplace rest spec.raw hlt hraw, h]
    rfl
  | malformedDot raw found rest =>
    obtain ⟨hsuffix, hlt, hraw⟩ := attempt_malformedDot hread
    have h := hrest rest hsuffix
    rw [hplace rest raw hlt hraw] at h
    rw [resume, hplace rest raw hlt hraw, h]
    rfl
  | unfinished =>
    rw [resume, Text.slice?_length]
    rfl

/-- The cursor reads literal text and specifiers as the scanner does. -/
theorem run_append (before t : Text) :
    run (before ++ t) { place := before.length } = some (scanFrom before.length t) := by
  induction hlen : t.length using Nat.strong_induction_on generalizing before t
  rename_i n ih
  subst hlen
  have hrest : ∀ rest : Text, rest <:+ t → rest.length < t.length →
      run (before ++ t) { place := (before ++ t).length - rest.length } =
        some (scanFrom ((before ++ t).length - rest.length) rest) := by
    rintro rest ⟨middle, rfl⟩ hlt
    have h := ih rest.length hlt (before ++ middle) rest rfl
    have hplace :
        (before ++ (middle ++ rest)).length - rest.length = (before ++ middle).length := by
      simp only [List.length_append]
      omega
    rwa [hplace, ← List.append_assoc]
  cases t with
  | nil =>
    rw [run, if_neg (by simp), scanFrom]
    rfl
  | cons c t =>
    have hget : (before ++ c :: t)[before.length]? = some c := Text.getElem?_append_cons before c t
    by_cases hliteral : t = [] ∨ c ≠ '%'
    · have hstep : step (before ++ c :: t) { place := before.length } =
          some ([.literal c], { place := before.length + 1 }) := by
        rcases hliteral with rfl | hc
        · simp [step]
        · simp [step, hc]
      have hscan : scanFrom before.length (c :: t) =
          .literal c :: scanFrom (before.length + 1) t := by
        rcases hliteral with rfl | hc
        · simp [scanFrom]
        · exact scanFrom_literal hc t
      have hplace : (before ++ c :: t).length - t.length = before.length + 1 := by
        simp only [List.length_append, List.length_cons]
        omega
      have h := hrest t (List.suffix_cons c t) (by simp)
      rw [hplace] at h
      rw [run_of_step hstep, h, hscan]
      rfl
    · obtain ⟨hne, hc⟩ := not_or.1 hliteral
      obtain rfl : c = '%' := not_not.1 hc
      by_cases hd : t.head? = some '%'
      · obtain ⟨tail, rfl⟩ := List.head?_eq_some_iff.1 hd
        have hstep : step (before ++ '%' :: '%' :: tail) { place := before.length } =
            some ([.percent], { place := before.length + 2 }) := by
          simp [step]
        have hplace : (before ++ '%' :: '%' :: tail).length - tail.length = before.length + 2 := by
          simp only [List.length_append, List.length_cons]
          omega
        have h := hrest tail ⟨['%', '%'], rfl⟩ (by simp only [List.length_cons]; omega)
        rw [hplace] at h
        rw [run_of_step hstep, h, scanFrom_percent]
        rfl
      · obtain ⟨d, tail, rfl⟩ := List.exists_cons_of_ne_nil hne
        have hpercent : d ≠ '%' := fun e => hd (by rw [e]; rfl)
        have hstep : step (before ++ '%' :: d :: tail) { place := before.length } =
            some ([],
              { phase := .flags, place := before.length + 1, origin := before.length }) := by
          simp [step, hpercent]
        rw [run_of_silent_step hstep, run_attempt rfl]
        refine resume_attempt hne hd fun rest hsuffix => hrest rest ?_ ?_
        · exact hsuffix.trans (List.suffix_cons _ _)
        · exact Nat.lt_succ_of_le hsuffix.length_le

/-- No access by position is out of range, and the pieces are those of the
scanner. -/
theorem run_eq_scan (pattern : Text) : run pattern {} = some (scan pattern) :=
  run_append [] pattern

end Cursor

end LogLine.Pattern
