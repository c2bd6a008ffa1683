/-
  Pattern/Scanner.lean --- reading a pattern into its pieces.

  The scanner knows nothing of conversion keys: whether a key is known is
  settled when the pieces are resolved.  It always reads to the end, since
  every piece takes at least one character.  The last character of a pattern
  always stands for itself.

      closeGroup_append        an option and what follows it are the text again
      optionGroups_suffix      what follows the options is the end of the text
      scan_source              the pieces stand for all of the pattern
      length_lt_of_mem_scan    an option is shorter than the pattern around it
-/
import LogLine.Pattern.Piece
import LogLine.Text.Letter

set_option autoImplicit false

namespace LogLine.Pattern

/-! ## Options -/

/-- The text up to the brace that closes the group around it, and the text
after that brace; `depth` further groups are open. -/
def closeGroup : Nat → Text → Option (Text × Text)
  | _, [] => none
  | depth, c :: rest =>
    if c = '{' then (closeGroup (depth + 1) rest).map fun cut => (c :: cut.1, cut.2)
    else if c = '}' then
      match depth with
      | 0 => some ([], rest)
      | depth + 1 => (closeGroup depth rest).map fun cut => (c :: cut.1, cut.2)
    else (closeGroup depth rest).map fun cut => (c :: cut.1, cut.2)

theorem closeGroup_append {depth : Nat} {s option rest : Text}
    (h : closeGroup depth s = some (option, rest)) : option ++ '}' :: rest = s := by
  induction s generalizing depth option with
  | nil => simp [closeGroup] at h
  | cons c s ih =>
    have step : ∀ {depth' : Nat},
        (closeGroup depth' s).map (fun cut => (c :: cut.1, cut.2)) = some (option, rest) →
        option ++ '}' :: rest = c :: s := by
      intro depth' h'
      cases hr : closeGroup depth' s with
      | none => simp [hr] at h'
      | some cut =>
        simp [hr] at h'
        obtain ⟨rfl, rfl⟩ := h'
        have found : closeGroup depth' s = some (cut.1, cut.2) := by simp [hr]
        simp [ih found]
    unfold closeGroup at h
    split at h
    · exact step h
    · split at h
      · split at h
        · simp_all
        · exact step h
      · exact step h

theorem length_lt_of_closeGroup {depth : Nat} {s option rest : Text}
    (h : closeGroup depth s = some (option, rest)) : option.length + rest.length < s.length := by
  rw [← closeGroup_append h]
  simp only [List.length_append, List.length_cons]
  omega

/-- Where reading goes on after a group that is never closed: after the last
closing brace since the options began at `start`, or else, with no such brace,
at `inside`, right after the brace that opened the group. -/
def resumption (start inside : Text) : Text :=
  match Text.cutAtLast ['}'] start with
  | some (_, after) => after
  | none => inside

/-- The options at the beginning of a text, and where reading goes on; the
options as a whole began at `start`. -/
def optionGroups (start s : Text) : List Text × Text :=
  match s with
  | [] => ([], [])
  | c :: rest =>
    if c = '{' then
      match _closed : closeGroup 0 rest with
      | some (option, after) =>
        let more := optionGroups start after
        (option :: more.1, more.2)
      | none => ([], resumption start rest)
    else ([], c :: rest)
termination_by s.length
decreasing_by
  have := length_lt_of_closeGroup _closed
  simp only [List.length_cons]
  omega

theorem resumption_suffix {start inside : Text} (h : inside <:+ start) :
    resumption start inside <:+ start := by
  unfold resumption
  split
  · rename_i before after found
    exact ⟨before ++ ['}'], by simpa using Text.append_of_cutAtLast found⟩
  · exact h

theorem optionGroups_suffix {start s : Text} (h : s <:+ start) :
    (optionGroups start s).2 <:+ start := by
  fun_induction optionGroups start s with
  | case1 => exact List.nil_suffix
  | case2 rest option after found more ih =>
    refine ih (List.IsSuffix.trans ?_ h)
    exact ⟨'{' :: option ++ ['}'], by simp [closeGroup_append found]⟩
  | case3 rest missing =>
    exact resumption_suffix (List.IsSuffix.trans (List.suffix_cons _ _) h)
  | case4 => exact h

theorem length_lt_of_mem_optionGroups {start s option : Text}
    (h : option ∈ (optionGroups start s).1) : option.length < s.length := by
  fun_induction optionGroups start s with
  | case1 => cases h
  | case2 rest first after found more ih =>
    have hlt := length_lt_of_closeGroup found
    simp only [List.length_cons]
    rcases List.mem_cons.1 h with rfl | h
    · omega
    · have := ih h
      omega
  | case3 => cases h
  | case4 => cases h

/-! ## Specifiers -/

/-- What a percent sign begins. -/
inductive Attempt where
  /-- A complete specifier, and the text after it. -/
  | specifier (specifier : Specifier) (rest : Text)
  /-- Text up to a dot that no digit follows, and the text from there on, which
  begins with `found`. -/
  | malformedDot (raw : Text) (found : Char) (rest : Text)
  /-- Nothing complete before the end. -/
  | unfinished
deriving DecidableEq, Repr, Inhabited

/-- The conversion key that begins with `c`, and the text after it.  A key is a
letter and the letters, numbers and underscores that follow; anything else
gives the empty key, and is taken all the same. -/
def keyAt (c : Char) (rest : Text) : Text × Text :=
  if Text.isLetter c then (c :: rest.takeWhile Text.isNamePart, rest.dropWhile Text.isNamePart)
  else ([], rest)

/-- The width that some digits give: at most the greatest size. -/
def saturated (digits : Text) : Nat := Nat.min (Text.digitsValue 0 digits) maxSize

/-- The greatest width that some digits give: the greatest size bounds
nothing. -/
def boundOf (digits : Text) : Option Nat :=
  if saturated digits = maxSize then none else some (saturated digits)

/-- Completes a specifier whose key begins with `c`; `s` is the text after the
percent sign. -/
def complete (position : Nat) (s : Text) (width : FieldWidth) (c : Char) (rest : Text) : Attempt :=
  let key := keyAt c rest
  let options := optionGroups key.2 key.2
  .specifier
    { position, width
      raw := '%' :: s.take (s.length - options.2.length)
      key := key.1
      options := options.1 }
    options.2

/-- Reads what the percent sign before `s` begins. -/
def attempt (position : Nat) (s : Text) : Attempt :=
  let left := s.head? == some '-'
  let afterDashes := s.dropWhile (· == '-')
  let least := saturated (afterDashes.takeWhile Char.isDigit)
  match afterDashes.dropWhile Char.isDigit with
  | [] => .unfinished
  | c :: rest =>
    if c = '.' then
      match rest with
      | [] => .unfinished
      | d :: _ =>
        if d.isDigit then
          match rest.dropWhile Char.isDigit with
          | [] => .unfinished
          | c :: rest' =>
            let most := boundOf (rest.takeWhile Char.isDigit)
            complete position s { left, least, most } c rest'
        else .malformedDot ('%' :: s.take (s.length - rest.length)) d rest
    else complete position s { left, least } c rest

theorem keyAt_suffix (c : Char) (rest : Text) : (keyAt c rest).2 <:+ rest := by
  unfold keyAt
  split
  · exact List.dropWhile_suffix _
  · exact List.suffix_refl rest

theorem rest_suffix_of_complete {position : Nat} {s : Text} {width : FieldWidth} {c : Char}
    {rest : Text} {specifier : Specifier} {after : Text}
    (h : complete position s width c rest = .specifier specifier after) : after <:+ rest := by
  simp only [complete, Attempt.specifier.injEq] at h
  rw [← h.2]
  exact (optionGroups_suffix (List.suffix_refl _)).trans (keyAt_suffix c rest)

/-- The text that a dropped run leaves begins after it. -/
theorem suffix_of_dropWhile_eq_cons {p : Char → Bool} {s rest : Text} {c : Char}
    (h : s.dropWhile p = c :: rest) : c :: rest <:+ s := h ▸ List.dropWhile_suffix p

/-- A complete specifier takes at least one character after its percent sign,
and what follows it is an end of the text. -/
theorem attempt_specifier {position : Nat} {s : Text} {specifier : Specifier} {after : Text}
    (h : attempt position s = .specifier specifier after) :
    after <:+ s ∧ after.length < s.length ∧
      specifier.raw = '%' :: s.take (s.length - after.length) := by
  have finish : ∀ {width : FieldWidth} {c : Char} {rest : Text}, c :: rest <:+ s →
      complete position s width c rest = .specifier specifier after →
      after <:+ s ∧ after.length < s.length ∧
        specifier.raw = '%' :: s.take (s.length - after.length) := by
    intro width c rest hs hc
    have hr := rest_suffix_of_complete hc
    refine ⟨hr.trans ((List.suffix_cons c rest).trans hs), ?_, ?_⟩
    · have h₁ := hr.length_le
      have h₂ := hs.length_le
      simp only [List.length_cons] at h₂
      omega
    · simp only [complete, Attempt.specifier.injEq] at hc
      obtain ⟨rfl, rfl⟩ := hc
      rfl
  simp only [attempt] at h
  split at h
  · cases h
  · rename_i c rest h₁
    have hs₁ : c :: rest <:+ s :=
      (suffix_of_dropWhile_eq_cons h₁).trans (List.dropWhile_suffix _)
    split at h
    · split at h
      · cases h
      · rename_i d tail
        split at h
        · split at h
          · cases h
          · rename_i c' rest' h₂
            refine finish ((suffix_of_dropWhile_eq_cons h₂).trans ?_) h
            exact (List.suffix_cons c _).trans hs₁
        · cases h
    · exact finish hs₁ h

/-- A dot without digit takes at least one character after the percent sign. -/
theorem attempt_malformedDot {position : Nat} {s raw after : Text} {found : Char}
    (h : attempt position s = .malformedDot raw found after) :
    after <:+ s ∧ after.length < s.length ∧ raw = '%' :: s.take (s.length - after.length) := by
  simp only [attempt] at h
  split at h
  · cases h
  · rename_i c rest h₁
    have hs₁ : c :: rest <:+ s :=
      (suffix_of_dropWhile_eq_cons h₁).trans (List.dropWhile_suffix _)
    split at h
    · split at h
      · cases h
      · rename_i d tail
        split at h
        · split at h
          · cases h
          · simp [complete] at h
        · simp only [Attempt.malformedDot.injEq] at h
          obtain ⟨rfl, rfl, rfl⟩ := h
          have := hs₁.length_le
          simp only [List.length_cons] at this
          exact ⟨(List.suffix_cons c _).trans hs₁, by simp only [List.length_cons]; omega, rfl⟩
    · simp [complete] at h

/-! ## Patterns -/

/-- The pieces of the part `s` of a pattern, which begins at `position`. -/
def scanFrom (position : Nat) (s : Text) : List Piece :=
  match s with
  | [] => []
  | [c] => [.literal c]
  | c :: d :: rest =>
    if c ≠ '%' then .literal c :: scanFrom (position + 1) (d :: rest)
    else if d = '%' then .percent :: scanFrom (position + 2) rest
    else
      match _read : attempt position (d :: rest) with
      | .specifier specifier after =>
        .specifier specifier :: scanFrom (position + specifier.raw.length) after
      | .malformedDot raw found after =>
        .malformedDot raw (position + raw.length) found :: scanFrom (position + raw.length) after
      | .unfinished => [.unfinished (c :: d :: rest)]
termination_by s.length
decreasing_by
  · simp
  · simp only [List.length_cons]; omega
  · have := (attempt_specifier _read).2.1
    simp only [List.length_cons] at this ⊢
    omega
  · have := (attempt_malformedDot _read).2.1
    simp only [List.length_cons] at this ⊢
    omega

/-- The pieces of a pattern. -/
def scan (pattern : Text) : List Piece := scanFrom 0 pattern

theorem take_append_of_suffix {s after : Text} (h : after <:+ s) :
    s.take (s.length - after.length) ++ after = s := by
  obtain ⟨before, rfl⟩ := h
  simp

/-- The pieces stand for all of the text, in order. -/
theorem scanFrom_source (position : Nat) (s : Text) :
    (scanFrom position s).flatMap Piece.source = s := by
  fun_induction scanFrom position s with
  | case1 => rfl
  | case2 => rfl
  | case3 position c d rest hc ih => simp [Piece.source, ih]
  | case4 position c rest hc ih =>
    have : c = '%' := by simpa using hc
    simp [Piece.source, ih, this]
  | case5 position c d rest hc hd specifier after h ih =>
    have hc : c = '%' := by simpa using hc
    obtain ⟨hs, _, hraw⟩ := attempt_specifier h
    rw [List.flatMap_cons, ih, Piece.source, hraw, hc, List.cons_append, take_append_of_suffix hs]
  | case6 position c d rest hc hd raw found after h ih =>
    have hc : c = '%' := by simpa using hc
    obtain ⟨hs, _, hraw⟩ := attempt_malformedDot h
    rw [List.flatMap_cons, ih, Piece.source, hraw, hc, List.cons_append, take_append_of_suffix hs]
  | case7 => simp [Piece.source]

/-- The pieces stand for all of the pattern. -/
theorem scan_source (pattern : Text) : (scan pattern).flatMap Piece.source = pattern :=
  scanFrom_source 0 pattern

/-! ## Options are shorter -/

theorem length_lt_of_complete {position : Nat} {s : Text} {width : FieldWidth} {c : Char}
    {rest : Text} {specifier : Specifier} {after option : Text}
    (h : complete position s width c rest = .specifier specifier after)
    (ho : option ∈ specifier.options) : option.length < rest.length := by
  simp only [complete, Attempt.specifier.injEq] at h
  obtain ⟨rfl, _⟩ := h
  exact Nat.lt_of_lt_of_le (length_lt_of_mem_optionGroups ho) (keyAt_suffix c rest).length_le

theorem length_lt_of_attempt {position : Nat} {s : Text} {specifier : Specifier}
    {after option : Text}
    (h : attempt position s = .specifier specifier after)
    (ho : option ∈ specifier.options) : option.length < s.length := by
  have drop : ∀ {t rest : Text} {c : Char}, t.dropWhile Char.isDigit = c :: rest →
      rest.length < t.length := fun hd => by
    have := (suffix_of_dropWhile_eq_cons hd).length_le
    simp only [List.length_cons] at this
    omega
  have dashes := (List.dropWhile_suffix (l := s) (· == '-')).length_le
  simp only [attempt] at h
  split at h
  · cases h
  · rename_i c rest h₁
    have l₁ := drop h₁
    split at h
    · split at h
      · cases h
      · rename_i d tail
        split at h
        · split at h
          · cases h
          · rename_i c' rest' h₂
            have l₂ := drop h₂
            have l₃ := length_lt_of_complete h ho
            omega
        · cases h
    · have l₂ := length_lt_of_complete h ho
      omega

theorem length_lt_of_mem_scanFrom {position : Nat} {s option : Text} {piece : Piece}
    (h : piece ∈ scanFrom position s) (ho : option ∈ piece.options) : option.length < s.length := by
  fun_induction scanFrom position s with
  | case1 => cases h
  | case2 c =>
    rcases List.mem_singleton.1 h with rfl
    cases ho
  | case3 position c d rest hc ih =>
    rcases List.mem_cons.1 h with rfl | h
    · cases ho
    · have := ih h
      simp only [List.length_cons] at this ⊢
      omega
  | case4 position c rest hc ih =>
    rcases List.mem_cons.1 h with rfl | h
    · cases ho
    · have := ih h
      simp only [List.length_cons]
      omega
  | case5 position c d rest hc hd specifier after read ih =>
    rcases List.mem_cons.1 h with rfl | h
    · have := length_lt_of_attempt read ho
      simp only [List.length_cons] at this ⊢
      omega
    · have := ih h
      have := (attempt_specifier read).2.1
      simp only [List.length_cons] at this ⊢
      omega
  | case6 position c d rest hc hd raw found after read ih =>
    rcases List.mem_cons.1 h with rfl | h
    · cases ho
    · have := ih h
      have := (attempt_malformedDot read).2.1
      simp only [List.length_cons] at this ⊢
      omega
  | case7 =>
    rcases List.mem_singleton.1 h with rfl
    cases ho

/-- An option is shorter than the pattern around it. -/
theorem length_lt_of_mem_scan {pattern option : Text} {piece : Piece}
    (h : piece ∈ scan pattern) (ho : option ∈ piece.options) : option.length < pattern.length :=
  length_lt_of_mem_scanFrom h ho

end LogLine.Pattern
