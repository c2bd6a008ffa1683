/-
  Proofs/Text/Lines.lean --- the lines of a text.

  A newline ends a line and takes one carriage return before it along; what
  follows the last newline is a line of its own unless it is empty.  `HasLines`
  has one constructor for each way in which a line ends:

      Text.hasLines_iff        the lines of a text, and no others
-/
import LogLine.Proofs.Text.Segments

set_option autoImplicit false

namespace LogLine.Text

/-! ## Ends of a text -/

theorem dropEnding?_eq_some_iff {ending s before : Text} :
    dropEnding? ending s = some before ↔ s = before ++ ending := by
  rw [dropEnding?, Option.map_eq_some_iff]
  constructor
  · rintro ⟨rest, hrest, rfl⟩
    have h := congrArg List.reverse (append_of_isPrefixOf? hrest)
    rw [List.reverse_append, List.reverse_reverse, List.reverse_reverse] at h
    exact h.symm
  · rintro rfl
    refine ⟨before.reverse, ?_, List.reverse_reverse before⟩
    rw [List.reverse_append]
    exact isPrefixOf?_append ending.reverse before.reverse

theorem dropReturn_append_return (line : Text) : dropReturn (line ++ ['\r']) = line := by
  rw [dropReturn, dropEnding?_eq_some_iff.2 rfl, Option.getD_some]

theorem dropReturn_of_getLast? {line : Text} (h : line.getLast? ≠ some '\r') :
    dropReturn line = line := by
  cases hdrop : dropEnding? ['\r'] line with
  | none => rw [dropReturn, hdrop, Option.getD_none]
  | some before =>
    rw [dropEnding?_eq_some_iff.1 hdrop, List.getLast?_concat] at h
    exact absurd rfl h

/-! ## Lines -/

/-- The lines that a text is made of. -/
inductive HasLines : Text → List Text → Prop where
  /-- There are none in an empty text. -/
  | nil : HasLines [] []
  /-- The last line needs no newline. -/
  | last {line : Text} (hne : line ≠ []) (hline : '\n' ∉ line) : HasLines line [line]
  /-- A newline ends a line. -/
  | newline {line rest : Text} {lines : List Text} (hline : '\n' ∉ line)
      (hend : line.getLast? ≠ some '\r') (h : HasLines rest lines) :
      HasLines (line ++ '\n' :: rest) (line :: lines)
  /-- So does a newline after a carriage return. -/
  | returned {line rest : Text} {lines : List Text} (hline : '\n' ∉ line)
      (h : HasLines rest lines) : HasLines (line ++ '\r' :: '\n' :: rest) (line :: lines)

theorem lines_of_not_mem {line : Text} (h : '\n' ∉ line) :
    lines line = if line = [] then [] else [line] := by
  rw [lines, pieces_of_not_mem h, linesOfPieces]

theorem lines_append_newline {line : Text} (h : '\n' ∉ line) (rest : Text) :
    lines (line ++ '\n' :: rest) = dropReturn line :: lines rest := by
  have hpieces := pieces_append_separator '\n' line rest
  rw [pieces_of_not_mem h, List.singleton_append] at hpieces
  rw [lines, hpieces, linesOfPieces]
  · rfl
  · exact pieces_ne_nil '\n' rest

theorem hasLines_lines (s : Text) : HasLines s (lines s) := by
  by_cases hmem : '\n' ∈ s
  · obtain ⟨line, rest, rfl, hline⟩ := List.eq_append_cons_of_mem hmem
    have hrest := hasLines_lines rest
    rw [lines_append_newline hline]
    by_cases hend : line.getLast? = some '\r'
    · obtain ⟨front, rfl⟩ := List.getLast?_eq_some_iff.1 hend
      rw [dropReturn_append_return, List.append_assoc, List.singleton_append]
      exact .returned (fun h => hline (List.mem_append_left _ h)) hrest
    · rw [dropReturn_of_getLast? hend]
      exact .newline hline hend hrest
  · rw [lines_of_not_mem hmem]
    by_cases hne : s = []
    · rw [if_pos hne, hne]
      exact .nil
    · rw [if_neg hne]
      exact .last hne hmem
termination_by s.length
decreasing_by
  subst_vars
  simp only [List.length_append, List.length_cons]
  omega

/-- A text has its lines and no others. -/
theorem hasLines_iff {s : Text} {list : List Text} : HasLines s list ↔ lines s = list := by
  constructor
  · intro h
    induction h with
    | nil => rfl
    | last hne hline => rw [lines_of_not_mem hline, if_neg hne]
    | newline hline hend _ ih => rw [lines_append_newline hline, dropReturn_of_getLast? hend, ih]
    | @returned line rest list hline _ ih =>
      have hreturn : '\n' ∉ line ++ ['\r'] := by simp [hline]
      have hsplit : line ++ '\r' :: '\n' :: rest = line ++ ['\r'] ++ '\n' :: rest := by simp
      rw [hsplit, lines_append_newline hreturn, dropReturn_append_return, ih]
  · rintro rfl
    exact hasLines_lines s

end LogLine.Text
