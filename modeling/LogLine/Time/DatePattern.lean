/-
  Time/DatePattern.lean --- date patterns and their tokens.

  A run of one letter is a field as wide as the run; other characters stand for
  themselves, and so does text in single quotes, where two quotes are one.  The
  tokens can also be read with characters and slices taken by their positions.
-/
import LogLine.Error
import LogLine.Text.Slice

set_option autoImplicit false

namespace LogLine

/-- What a field of a date shows. -/
inductive DateField where
  | year
  | month
  | day
  /-- The hour from 0 to 23. -/
  | hour24
  /-- The hour from 1 to 12. -/
  | hour12
  | minute
  | second
  /-- The fraction of the second. -/
  | fraction
  | weekday
  /-- The half of the day. -/
  | halfDay
  /-- The offset as `+HHMM`. -/
  | plainOffset
  /-- The offset as `Z`, `+HH`, `+HHMM` or `+HH:MM`. -/
  | isoOffset
  | zoneName
deriving DecidableEq, Repr, Inhabited

/-- The field that a letter stands for. -/
def DateField.ofLetter? : Char → Option DateField
  | 'y' | 'u' => some .year
  | 'M' | 'L' => some .month
  | 'd' => some .day
  | 'H' => some .hour24
  | 'h' => some .hour12
  | 'm' => some .minute
  | 's' => some .second
  | 'S' => some .fraction
  | 'E' => some .weekday
  | 'a' => some .halfDay
  | 'Z' => some .plainOffset
  | 'X' | 'x' => some .isoOffset
  | 'z' => some .zoneName
  | _ => none

/-- A part of a date pattern. -/
inductive DateToken where
  /-- Text that stands for itself. -/
  | literal (text : Text)
  /-- A field and its width. -/
  | field (field : DateField) (width : Nat)
deriving DecidableEq, Repr, Inhabited

/-- Why a date pattern has no tokens. -/
inductive DatePatternFault where
  /-- A quote is never closed. -/
  | unterminatedQuote
  /-- A letter stands for no field. -/
  | unsupportedLetter (letter : Char)
deriving DecidableEq, Repr, Inhabited

/-- The error for a pattern. -/
def DatePatternFault.toError (pattern : Text) : DatePatternFault → Error
  | .unterminatedQuote =>
    (Error.new "unterminated quote in date pattern").withText "pattern" pattern
  | .unsupportedLetter letter =>
    ((Error.new "unsupported date pattern letter").withText "letter" [letter]).withText "pattern"
      pattern

namespace DatePattern

/-- Puts literal text before tokens, as one literal with a literal there. -/
def prepend (text : Text) : List DateToken → List DateToken
  | .literal later :: rest => .literal (text ++ later) :: rest
  | tokens => .literal text :: tokens

/-- The text up to the quote that closes it, and the text after that quote. -/
def quotedText : Text → Option (Text × Text)
  | [] => none
  | ['\''] => some ([], [])
  | '\'' :: '\'' :: rest => (quotedText rest).map fun cut => ('\'' :: cut.1, cut.2)
  | '\'' :: rest => some ([], rest)
  | c :: rest => (quotedText rest).map fun cut => (c :: cut.1, cut.2)

theorem length_lt_of_quotedText {s text rest : Text} (h : quotedText s = some (text, rest)) :
    rest.length < s.length := by
  fun_induction quotedText s generalizing text with
  | case1 => cases h
  | case2 => simp at h; simp [← h.2]
  | case3 tail ih =>
    cases ht : quotedText tail with
    | none => simp [ht] at h
    | some cut =>
      simp [ht] at h
      have found : quotedText tail = some (cut.1, rest) := by simp [ht, ← h.2]
      have := ih found
      simp only [List.length_cons]
      omega
  | case4 => simp at h; simp [← h.2]
  | case5 c tail _ _ _ ih =>
    cases ht : quotedText tail with
    | none => simp [ht] at h
    | some cut =>
      simp [ht] at h
      have found : quotedText tail = some (cut.1, rest) := by simp [ht, ← h.2]
      have := ih found
      simp only [List.length_cons]
      omega

/-- The tokens of a date pattern. -/
def tokens (s : Text) : Except DatePatternFault (List DateToken) :=
  match s with
  | [] => .ok []
  | c :: rest =>
    if c = '\'' then
      if rest.head? = some '\'' then (tokens rest.tail).map (prepend ['\''])
      else
        match _closed : quotedText rest with
        | none => .error .unterminatedQuote
        | some (text, after) => (tokens after).map (prepend text)
    else if c.isAlpha then
      match DateField.ofLetter? c with
      | none => .error (.unsupportedLetter c)
      | some field =>
        (tokens (rest.dropWhile (· == c))).map
          (.field field ((rest.takeWhile (· == c)).length + 1) :: ·)
    else (tokens rest).map (prepend [c])
termination_by s.length
decreasing_by
  · simp only [List.length_tail, List.length_cons]; omega
  · have := length_lt_of_quotedText _closed
    simp only [List.length_cons]
    omega
  · have := (List.dropWhile_suffix (l := rest) (· == c)).length_le
    simp only [List.length_cons]
    omega
  · simp

/-! ## Reading by positions -/

/-- Reads quoted text from `i` on: the text, and the position after the quote
that closes it. -/
def quotedAt (s : Text) (i : Nat) : Option (Text × Nat) :=
  match _here : s[i]? with
  | none => none
  | some c =>
    if c = '\'' then
      if s[i + 1]? = some '\'' then
        (quotedAt s (i + 2)).map fun cut => ('\'' :: cut.1, cut.2)
      else some ([], i + 1)
    else (quotedAt s (i + 1)).map fun cut => (c :: cut.1, cut.2)
termination_by s.length - i
decreasing_by
  all_goals
    have := (List.getElem?_eq_some_iff.1 _here).1
    omega

theorem lt_of_quotedAt {s text : Text} {i stop : Nat} (h : quotedAt s i = some (text, stop)) :
    i < stop := by
  fun_induction quotedAt s i generalizing text with
  | case1 => cases h
  | case2 i _ _ ih =>
    obtain ⟨cut, found, hcut⟩ := Option.map_eq_some_iff.1 h
    rw [Prod.mk.injEq] at hcut
    have hlt : i + 2 < stop := ih (found.trans (congrArg _ (Prod.ext rfl hcut.2)))
    omega
  | case3 =>
    simp only [Option.some.injEq, Prod.mk.injEq] at h
    omega
  | case4 i _ _ _ ih =>
    obtain ⟨cut, found, hcut⟩ := Option.map_eq_some_iff.1 h
    rw [Prod.mk.injEq] at hcut
    have hlt : i + 1 < stop := ih (found.trans (congrArg _ (Prod.ext rfl hcut.2)))
    omega

/-- The length of the run of one character at the beginning of a text. -/
def runLength (c : Char) (s : Text) : Nat := (s.takeWhile (· == c)).length

theorem runLength_pos {s rest : Text} {i : Nat} {c : Char} (hc : s[i]? = some c)
    (hrest : Text.slice? s i s.length = some rest) : 0 < runLength c rest := by
  obtain ⟨hlt, hget⟩ := List.getElem?_eq_some_iff.1 hc
  rw [Text.slice?, if_pos ⟨Nat.le_of_lt hlt, Nat.le_refl _⟩, Option.some.injEq,
    List.take_length] at hrest
  rw [← hrest, List.drop_eq_getElem_cons hlt, hget, runLength, List.takeWhile_cons_of_pos (by simp)]
  exact Nat.succ_pos _

/-- The tokens from `i` on; `none` if an access is out of range. -/
def tokensAt (s : Text) (i : Nat) : Option (Except DatePatternFault (List DateToken)) :=
  if i < s.length then
    match _here : s[i]? with
    | none => none
    | some c =>
      if c = '\'' then
        if s[i + 1]? = some '\'' then
          (tokensAt s (i + 2)).map fun tokens => tokens.map (prepend ['\''])
        else
          match _closed : quotedAt s (i + 1) with
          | none => some (.error .unterminatedQuote)
          | some (text, stop) => (tokensAt s stop).map fun tokens => tokens.map (prepend text)
      else if c.isAlpha then
        match _slice : Text.slice? s i s.length with
        | none => none
        | some rest =>
          match DateField.ofLetter? c with
          | none => some (.error (.unsupportedLetter c))
          | some field =>
            (tokensAt s (i + runLength c rest)).map fun tokens =>
              tokens.map (.field field (runLength c rest) :: ·)
      else (tokensAt s (i + 1)).map fun tokens => tokens.map (prepend [c])
  else some (.ok [])
termination_by s.length - i
decreasing_by
  · omega
  · have := lt_of_quotedAt _closed
    omega
  · have := runLength_pos _here _slice
    omega
  · omega

end DatePattern

end LogLine
