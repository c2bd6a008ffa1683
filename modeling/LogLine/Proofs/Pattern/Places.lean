/-
  Proofs/Pattern/Places.lean --- where the pieces of a pattern stand.

  A scan goes through a pattern from the left, and each piece begins where the
  characters of those before it end.  `Begins` says all that the scan can take
  from there:

      begins_of_scanFrom         one piece
      exists_begins_of_scan      any piece, after the characters of those before
      Begins.specifier_place     a specifier knows its place
      Begins.malformedDot_place  and so does a dot without digit
-/
import LogLine.Proofs.Pattern.SpecifierForm

set_option autoImplicit false

namespace LogLine.Pattern

/-! ## What a percent sign begins -/

/-- Reading runs into the end, comes to the character that completes the
specifier, or to a dot that no digit follows. -/
theorem attempt_cases (position : Nat) (s : Text) :
    attempt position s = .unfinished ∨
      (∃ width c t, attempt position s = complete position s width c t) ∨
      ∃ init found rest, found.isDigit = false ∧
        attempt position s = .malformedDot ('%' :: (init ++ ['.'])) found (found :: rest) := by
  obtain ⟨n, least, t, rfl, hleast, hflag, ht⟩ := exists_flags s
  rw [attempt_eq_afterLeast hleast hflag ht]
  cases t with
  | nil => exact .inl rfl
  | cons c t =>
    by_cases hdot : c = '.'
    · subst hdot
      cases t with
      | nil => exact .inl rfl
      | cons d tail =>
        cases hd : d.isDigit with
        | false =>
          have hsplit : List.replicate n '-' ++ (least ++ '.' :: d :: tail) =
              (List.replicate n '-' ++ least ++ ['.']) ++ (d :: tail) := by simp
          refine .inr (.inr ⟨List.replicate n '-' ++ least, d, tail, hd, ?_⟩)
          simp only [afterLeast, if_true, hd, Bool.false_eq_true, if_false]
          rw [hsplit, List.length_append, Nat.add_sub_cancel, List.take_left]
        | true =>
          cases hdrop : (d :: tail).dropWhile Char.isDigit with
          | nil => exact .inl (by simp only [afterLeast, if_true, hd, hdrop])
          | cons c' after =>
            simp only [afterLeast, if_true, hd, hdrop]
            exact .inr (.inl ⟨_, c', after, rfl⟩)
    · simp only [afterLeast, if_neg hdot]
      exact .inr (.inl ⟨_, c, t, rfl⟩)

theorem exists_complete_of_attempt {position : Nat} {s rest : Text} {spec : Specifier}
    (h : attempt position s = .specifier spec rest) :
    ∃ width c t, complete position s width c t = .specifier spec rest := by
  rcases attempt_cases position s with hread | ⟨width, c, t, hread⟩ | ⟨_, _, _, -, hread⟩
  · rw [hread] at h
    cases h
  · exact ⟨width, c, t, hread.symm.trans h⟩
  · rw [hread] at h
    cases h

theorem position_of_attempt {position : Nat} {s rest : Text} {spec : Specifier}
    (h : attempt position s = .specifier spec rest) : spec.position = position := by
  obtain ⟨width, c, t, hcomplete⟩ := exists_complete_of_attempt h
  simp only [complete, Attempt.specifier.injEq] at hcomplete
  rw [← hcomplete.1]

/-- A key holds letters, numbers and underscores only. -/
theorem isNamePart_of_attempt {position : Nat} {s rest : Text} {spec : Specifier}
    (h : attempt position s = .specifier spec rest) :
    ∀ c ∈ spec.key, Text.isNamePart c = true := by
  obtain ⟨width, c, t, hcomplete⟩ := exists_complete_of_attempt h
  simp only [complete, Attempt.specifier.injEq] at hcomplete
  rw [← hcomplete.1]
  simp only [keyAt]
  split
  · rename_i hc
    refine List.forall_mem_cons.2 ⟨Text.isNamePart_of_isLetter hc, ?_⟩
    exact fun d hd => List.mem_takeWhile_imp hd
  · exact fun d hd => absurd hd List.not_mem_nil

/-- A dot without digit ends what was read, and what follows it is no digit. -/
theorem exists_dot_of_attempt {position : Nat} {s raw rest : Text} {found : Char}
    (h : attempt position s = .malformedDot raw found rest) :
    (∃ init, raw = '%' :: (init ++ ['.'])) ∧ rest.head? = some found ∧
      found.isDigit = false := by
  rcases attempt_cases position s with hread | ⟨width, c, t, hread⟩ | ⟨init, _, _, hdigit, hread⟩
  · rw [hread] at h
    cases h
  · rw [hread] at h
    cases h
  · rw [hread] at h
    cases h
    exact ⟨⟨init, rfl⟩, rfl, hdigit⟩

/-! ## What a text begins with -/

/-- From `position` on, the text begins with a piece and goes on with the rest. -/
inductive Begins (position : Nat) : Text → Piece → Text → Prop where
  | literal (c : Char) (rest : Text) : Begins position (c :: rest) (.literal c) rest
  | percent (rest : Text) : Begins position ('%' :: '%' :: rest) .percent rest
  | specifier {s rest : Text} {spec : Specifier} (h : attempt position s = .specifier spec rest) :
      Begins position ('%' :: s) (.specifier spec) rest
  | malformedDot {s raw rest : Text} {found : Char}
      (h : attempt position s = .malformedDot raw found rest) :
      Begins position ('%' :: s) (.malformedDot raw (position + raw.length) found) rest
  | unfinished {s : Text} (h : attempt position s = .unfinished) :
      Begins position ('%' :: s) (.unfinished ('%' :: s)) []

/-- A piece stands for the characters that it begins with. -/
theorem Begins.source {position : Nat} {s rest : Text} {piece : Piece}
    (h : Begins position s piece rest) : s = piece.source ++ rest := by
  cases h with
  | literal | percent => rfl
  | specifier h =>
    obtain ⟨hsuffix, -, hraw⟩ := attempt_specifier h
    rw [Piece.source, hraw, List.cons_append, take_append_of_suffix hsuffix]
  | malformedDot h =>
    obtain ⟨hsuffix, -, hraw⟩ := attempt_malformedDot h
    rw [Piece.source, hraw, List.cons_append, take_append_of_suffix hsuffix]
  | unfinished => exact (List.append_nil _).symm

/-- The scan takes one piece, and goes on after its characters. -/
theorem begins_of_scanFrom {position : Nat} {s : Text} {piece : Piece} {pieces : List Piece}
    (h : scanFrom position s = piece :: pieces) :
    ∃ rest, Begins position s piece rest ∧
      scanFrom (position + piece.source.length) rest = pieces := by
  have hnil : ∀ n, scanFrom n [] = [] := fun n => by rw [scanFrom]
  rw [scanFrom.eq_def] at h
  split at h
  · cases h
  · obtain ⟨rfl, rfl⟩ := List.cons.inj h
    exact ⟨[], .literal _ _, hnil _⟩
  · split at h
    · obtain ⟨rfl, rfl⟩ := List.cons.inj h
      exact ⟨_, .literal _ _, rfl⟩
    rename_i hc
    obtain rfl := not_not.1 hc
    split at h
    · rename_i hd
      subst hd
      obtain ⟨rfl, rfl⟩ := List.cons.inj h
      exact ⟨_, .percent _, rfl⟩
    · split at h <;> rename_i hread <;> obtain ⟨rfl, rfl⟩ := List.cons.inj h
      · exact ⟨_, .specifier hread, rfl⟩
      · exact ⟨_, .malformedDot hread, rfl⟩
      · exact ⟨_, .unfinished hread, hnil _⟩

/-- After some pieces the scan is where their characters end. -/
theorem exists_scanFrom_of_append {position : Nat} {s : Text} {before after : List Piece}
    (h : scanFrom position s = before ++ after) :
    ∃ rest, s = before.flatMap Piece.source ++ rest ∧
      scanFrom (position + (before.flatMap Piece.source).length) rest = after := by
  induction before generalizing position s with
  | nil => exact ⟨s, rfl, h⟩
  | cons piece before ih =>
    obtain ⟨t, hbegins, ht⟩ := begins_of_scanFrom h
    obtain ⟨rest, rfl, hrest⟩ := ih ht
    refine ⟨rest, ?_, ?_⟩
    · rw [hbegins.source, List.flatMap_cons, List.append_assoc]
    · rw [List.flatMap_cons, List.length_append, ← Nat.add_assoc]
      exact hrest

/-- Each piece begins where the characters of the pieces before it end. -/
theorem exists_begins_of_scan {pattern : Text} {before after : List Piece} {piece : Piece}
    (h : scan pattern = before ++ piece :: after) :
    ∃ rest, pattern = before.flatMap Piece.source ++ (piece.source ++ rest) ∧
      Begins (before.flatMap Piece.source).length (piece.source ++ rest) piece rest := by
  obtain ⟨t, rfl, ht⟩ := exists_scanFrom_of_append h
  obtain ⟨rest, hbegins, -⟩ := begins_of_scanFrom ht
  rw [Nat.zero_add] at hbegins
  have hsource := hbegins.source
  subst hsource
  exact ⟨rest, rfl, hbegins⟩

/-! ## Places -/

/-- A specifier begins with a percent sign, at the place that it knows. -/
theorem Begins.specifier_place {position : Nat} {s rest : Text} {spec : Specifier}
    (h : Begins position s (.specifier spec) rest) :
    spec.position = position ∧ spec.raw.head? = some '%' := by
  cases h with
  | specifier h =>
    obtain ⟨-, -, hraw⟩ := attempt_specifier h
    exact ⟨position_of_attempt h, by rw [hraw]; rfl⟩

/-- A dot without digit knows the place of the character after it. -/
theorem Begins.malformedDot_place {position place : Nat} {s raw rest : Text} {found : Char}
    (h : Begins position s (.malformedDot raw place found) rest) :
    place = position + raw.length ∧ (∃ init, raw = '%' :: (init ++ ['.'])) ∧
      rest.head? = some found ∧ found.isDigit = false := by
  cases h with
  | malformedDot h => exact ⟨rfl, exists_dot_of_attempt h⟩

theorem Begins.exists_attempt {position : Nat} {s rest : Text} {spec : Specifier}
    (h : Begins position s (.specifier spec) rest) :
    ∃ t, attempt position t = .specifier spec rest := by
  cases h with
  | specifier h => exact ⟨_, h⟩

theorem exists_attempt_of_mem_scan {pattern : Text} {spec : Specifier}
    (h : .specifier spec ∈ scan pattern) :
    ∃ position s rest, attempt position s = .specifier spec rest := by
  obtain ⟨before, after, hsplit⟩ := List.append_of_mem h
  obtain ⟨rest, -, hbegins⟩ := exists_begins_of_scan hsplit
  obtain ⟨s, hread⟩ := hbegins.exists_attempt
  exact ⟨_, s, rest, hread⟩

end LogLine.Pattern
