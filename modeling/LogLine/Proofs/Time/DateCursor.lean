/-
  Proofs/Time/DateCursor.lean --- a date pattern read by positions.

  The tokens that are read with characters and slices taken by their positions are
  those of the pattern:

      tokensAt_append      no access is out of range, and the tokens are the same
-/
import LogLine.Proofs.Text.Slices
import LogLine.Time.DatePattern

set_option autoImplicit false

namespace LogLine.DatePattern

theorem getElem?_next (before : Text) (c : Char) (t : Text) :
    (before ++ c :: t)[before.length + 1]? = t.head? := by
  rw [Text.append_cons_eq, Text.length_append_singleton before c, List.getElem?_append_right
    (Nat.le_refl _), Nat.sub_self, List.head?_eq_getElem?]

/-- Where the text goes on, its characters are found. -/
theorem tokensAt_cons (before : Text) (c : Char) (t : Text) :
    tokensAt (before ++ c :: t) before.length =
      if c = '\'' then
        if t.head? = some '\'' then
          (tokensAt (before ++ c :: t) (before.length + 2)).map fun tokens =>
            tokens.map (prepend ['\''])
        else
          (quotedAt (before ++ c :: t) (before.length + 1)).elim
            (some (.error .unterminatedQuote)) fun cut =>
              (tokensAt (before ++ c :: t) cut.2).map fun tokens => tokens.map (prepend cut.1)
      else if c.isAlpha then
        (DateField.ofLetter? c).elim (some (.error (.unsupportedLetter c))) fun field =>
          (tokensAt (before ++ c :: t) (before.length + runLength c (c :: t))).map fun tokens =>
            tokens.map (.field field (runLength c (c :: t)) :: ·)
      else
        (tokensAt (before ++ c :: t) (before.length + 1)).map fun tokens =>
          tokens.map (prepend [c]) := by
  have hget := Text.getElem?_append_cons before c t
  have hslice := Text.slice?_length before (c :: t)
  rw [tokensAt, if_pos (Text.lt_length_append_cons before c t)]
  split
  · rename_i hnone
    rw [hget] at hnone
    cases hnone
  · rename_i d hsome
    rw [hget, Option.some.injEq] at hsome
    subst hsome
    rw [getElem?_next]
    split
    · cases quotedAt (before ++ c :: t) (before.length + 1) <;> rfl
    · split
      · split
        · rename_i hnone
          rw [hslice] at hnone
          cases hnone
        · rename_i rest hrest
          rw [hslice, Option.some.injEq] at hrest
          rw [hrest]
          cases DateField.ofLetter? c <;> rfl
      · rfl

theorem quotedAt_cons (before : Text) (c : Char) (t : Text) :
    quotedAt (before ++ c :: t) before.length =
      if c = '\'' then
        if t.head? = some '\'' then
          (quotedAt (before ++ c :: t) (before.length + 2)).map fun cut => ('\'' :: cut.1, cut.2)
        else some ([], before.length + 1)
      else
        (quotedAt (before ++ c :: t) (before.length + 1)).map fun cut => (c :: cut.1, cut.2) := by
  have hget := Text.getElem?_append_cons before c t
  rw [quotedAt]
  split
  · rename_i hnone
    rw [hget] at hnone
    cases hnone
  · rename_i d hsome
    rw [hget, Option.some.injEq] at hsome
    subst hsome
    rw [getElem?_next]

theorem quotedAt_append (before t : Text) :
    quotedAt (before ++ t) before.length =
      (quotedText t).map fun cut => (cut.1, (before ++ t).length - cut.2.length) := by
  fun_induction quotedText t generalizing before with
  | case1 =>
    rw [quotedAt]
    split
    · rfl
    · rename_i c hsome
      simp at hsome
  | case2 =>
    rw [quotedAt_cons, if_pos rfl, if_neg (by simp)]
    simp
  | case3 tail ih =>
    have hsplit : before ++ '\'' :: '\'' :: tail = before ++ ['\'', '\''] ++ tail := by simp
    have hplace : before.length + 2 = (before ++ ['\'', '\'']).length := by simp
    rw [quotedAt_cons, if_pos rfl, if_pos List.head?_cons, hsplit, hplace, ih]
    cases quotedText tail <;> rfl
  | case4 rest hone htwo =>
    have hhead : rest.head? ≠ some '\'' := by
      intro hhead
      obtain ⟨tail, rfl⟩ := List.head?_eq_some_iff.1 hhead
      exact htwo tail rfl
    rw [quotedAt_cons, if_pos rfl, if_neg hhead]
    simp only [Option.map_some, List.length_append, List.length_cons, Option.some.injEq,
      Prod.mk.injEq, true_and]
    omega
  | case5 c tail _ _ hquote ih =>
    rw [quotedAt_cons, if_neg hquote, Text.append_cons_eq, Text.length_append_singleton before c,
      ih]
    cases quotedText tail <;> rfl

theorem suffix_of_quotedText {s text rest : Text} (h : quotedText s = some (text, rest)) :
    rest <:+ s := by
  fun_induction quotedText s generalizing text with
  | case1 => cases h
  | case2 =>
    cases h
    exact List.nil_suffix
  | case3 tail ih =>
    obtain ⟨cut, found, hcut⟩ := Option.map_eq_some_iff.1 h
    rw [Prod.mk.injEq] at hcut
    have hsuffix : rest <:+ tail := ih (found.trans (congrArg _ (Prod.ext rfl hcut.2)))
    exact (hsuffix.trans (List.suffix_cons _ _)).trans (List.suffix_cons _ _)
  | case4 =>
    cases h
    exact List.suffix_cons _ _
  | case5 c tail _ _ _ ih =>
    obtain ⟨cut, found, hcut⟩ := Option.map_eq_some_iff.1 h
    rw [Prod.mk.injEq] at hcut
    have hsuffix : rest <:+ tail := ih (found.trans (congrArg _ (Prod.ext rfl hcut.2)))
    exact hsuffix.trans (List.suffix_cons _ _)

/-- No access is out of range. -/
theorem tokensAt_append (before t : Text) :
    tokensAt (before ++ t) before.length = some (tokens t) := by
  fun_induction tokens t generalizing before with
  | case1 =>
    rw [tokensAt, if_neg (by simp)]
  | case2 rest hnext ih =>
    obtain ⟨tail, rfl⟩ := List.head?_eq_some_iff.1 hnext
    have hsplit : before ++ '\'' :: '\'' :: tail = before ++ ['\'', '\''] ++ tail := by simp
    have hplace : before.length + 2 = (before ++ ['\'', '\'']).length := by simp
    rw [tokensAt_cons, if_pos rfl, if_pos hnext, hsplit, hplace]
    exact congrArg _ (ih _)
  | case3 rest hnext missing =>
    have hquoted := quotedAt_append (before ++ ['\'']) rest
    rw [missing, ← Text.append_cons_eq, ← Text.length_append_singleton] at hquoted
    rw [tokensAt_cons, if_pos rfl, if_neg hnext, hquoted]
    rfl
  | case4 rest hnext text after found ih =>
    have hquoted := quotedAt_append (before ++ ['\'']) rest
    rw [found, ← Text.append_cons_eq, ← Text.length_append_singleton] at hquoted
    obtain ⟨quoted, rfl⟩ := suffix_of_quotedText found
    have hsplit : before ++ '\'' :: (quoted ++ after) = before ++ '\'' :: quoted ++ after := by simp
    have hplace : (before ++ '\'' :: (quoted ++ after)).length - after.length =
        (before ++ '\'' :: quoted).length := by
      rw [hsplit, List.length_append, Nat.add_sub_cancel]
    rw [tokensAt_cons, if_pos rfl, if_neg hnext, hquoted]
    simp only [Option.map_some, Option.elim_some, hplace]
    rw [hsplit, ih]
    rfl
  | case5 c rest hquote halpha hletter =>
    rw [tokensAt_cons, if_neg hquote, if_pos halpha, hletter]
    rfl
  | case6 c rest hquote halpha field hletter ih =>
    have hrun : runLength c (c :: rest) = (rest.takeWhile (· == c)).length + 1 := by
      rw [runLength, List.takeWhile_cons_of_pos (by simp), List.length_cons]
    have hsplit : before ++ c :: rest =
        before ++ c :: rest.takeWhile (· == c) ++ rest.dropWhile (· == c) := by
      rw [List.append_assoc, List.cons_append, List.takeWhile_append_dropWhile]
    have hplace : before.length + ((rest.takeWhile (· == c)).length + 1) =
        (before ++ c :: rest.takeWhile (· == c)).length := by
      rw [List.length_append, List.length_cons]
    rw [tokensAt_cons, if_neg hquote, if_pos halpha, hletter]
    simp only [Option.elim_some, hrun]
    rw [hplace, hsplit, ih]
    rfl
  | case7 c rest hquote halpha ih =>
    rw [tokensAt_cons, if_neg hquote, if_neg halpha, Text.append_cons_eq,
      Text.length_append_singleton before c, ih]
    rfl

end LogLine.DatePattern
