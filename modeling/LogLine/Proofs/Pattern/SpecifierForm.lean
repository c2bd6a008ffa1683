/-
  Proofs/Pattern/SpecifierForm.lean --- how a specifier is written.

  A specifier is a percent sign, any number of dashes, the digits of a least
  width, a dot and the digits of a greatest one, a key and the options in
  braces.  `SpecifierForm` holds those parts, `SpecifierForm.body` writes them
  after the percent sign, and reading is exact in both directions:

      attempt_of_form        what is written so is read so
      exists_form            what is read was written so
      attempt_eq_unfinished_iff
                             only flags and widths may run into the end

  The texts `skipped` are those of `Skips`: what an unclosed group after the
  options loses.
-/
import LogLine.Proofs.Pattern.OptionGroups
import LogLine.Proofs.Text.DecimalDigits

set_option autoImplicit false

namespace LogLine.Pattern

/-! ## Letters are neither digits nor marks -/

theorem not_isDigit_of_isAlpha {c : Char} (h : c.isAlpha = true) : c.isDigit = false := by
  have hge : 'A'.toNat ≤ c.toNat := by
    rcases Bool.or_eq_true_iff.1 (show (c.isUpper || c.isLower) = true from h) with h | h
    · exact (of_decide_eq_true h).1
    · have hlower : decide ('a'.val ≤ c.val) = true := (Bool.and_eq_true_iff.1 h).1
      exact Nat.le_trans (by decide) (of_decide_eq_true hlower)
  simp only [Char.isDigit, Bool.and_eq_false_iff, decide_eq_false_iff_not, UInt32.le_iff_toNat_le]
  exact .inr fun hle => absurd (Nat.le_trans hge hle) (by decide)

theorem not_isDigit_of_isLetter {c : Char} (h : Text.isLetter c = true) : c.isDigit = false := by
  cases hd : c.isDigit with
  | false => rfl
  | true =>
    rw [Text.isLetter_eq_isAlpha (Text.toNat_lt_of_isDigit hd)] at h
    rw [not_isDigit_of_isAlpha h] at hd
    cases hd

theorem ne_of_isLetter {c d : Char} (h : Text.isLetter c = true) (hd : Text.isLetter d = false) :
    c ≠ d := by
  rintro rfl
  rw [h] at hd
  cases hd

/-! ## The written form -/

/-- A key: a letter, and letters, numbers or underscores after it. -/
def IsKey (key : Text) : Prop :=
  ∃ c rest, key = c :: rest ∧ Text.isLetter c = true ∧ ∀ d ∈ rest, Text.isNamePart d = true

theorem ne_nil_of_isKey {key : Text} (h : IsKey key) : key ≠ [] := by
  obtain ⟨c, rest, rfl, _⟩ := h
  exact List.cons_ne_nil c rest

/-- Digits only. -/
def IsDigits (s : Text) : Prop := ∀ c ∈ s, c.isDigit = true

/-- The parts of a specifier, as they are written. -/
structure SpecifierForm where
  /-- How many dashes follow the percent sign. -/
  dashes : Nat
  /-- The digits of the least width; there may be none. -/
  least : Text
  /-- The digits of the greatest width, if there is a dot. -/
  most : Option Text
  /-- The key. -/
  key : Text
  /-- The options. -/
  options : List Text
deriving DecidableEq, Repr, Inhabited

namespace SpecifierForm

/-- The dot and the digits of the greatest width. -/
def bound (form : SpecifierForm) : Text :=
  match form.most with
  | none => []
  | some digits => '.' :: digits

/-- What is written after the percent sign. -/
def body (form : SpecifierForm) : Text :=
  List.replicate form.dashes '-' ++
    (form.least ++ (form.bound ++ (form.key ++ form.options.flatMap braced)))

/-- The widths that the digits give. -/
def width (form : SpecifierForm) : FieldWidth :=
  { left := decide (0 < form.dashes)
    least := saturated form.least
    most := form.most.bind boundOf }

/-- The specifier that is read at `position`, with the text that an unclosed
group after it loses. -/
def toSpecifier (form : SpecifierForm) (position : Nat) (skipped : Text) : Specifier :=
  { position
    raw := '%' :: (form.body ++ skipped)
    width := form.width
    key := form.key
    options := form.options }

/-- Parts that make up a complete specifier. -/
structure WellFormed (form : SpecifierForm) : Prop where
  /-- The least width is written in digits. -/
  least : IsDigits form.least
  /-- So is the greatest, with at least one. -/
  most : ∀ digits ∈ form.most, digits ≠ [] ∧ IsDigits digits
  /-- There is a key. -/
  key : IsKey form.key
  /-- The braces of each option match. -/
  options : ∀ option ∈ form.options, Balanced option

/-- What follows a specifier goes on neither with its options nor, if it has
none, with its key. -/
structure EndsBefore (form : SpecifierForm) (skipped rest : Text) : Prop where
  /-- The rest begins where reading the options goes on. -/
  skips : Skips form.options skipped rest
  /-- The key is not longer than it is. -/
  name : form.options = [] → ∀ c ∈ (skipped ++ rest).head?, Text.isNamePart c = false

end SpecifierForm

/-! ## Flags and widths -/

/-- What is read after the digits of a least width: a dot and more digits, or
the key; `s` is all of the text after the percent sign. -/
def afterLeast (position : Nat) (s : Text) (width : FieldWidth) : Text → Attempt
  | [] => .unfinished
  | c :: rest =>
    if c = '.' then
      match rest with
      | [] => .unfinished
      | d :: _ =>
        if d.isDigit then
          match rest.dropWhile Char.isDigit with
          | [] => .unfinished
          | c :: rest' =>
            complete position s { width with most := boundOf (rest.takeWhile Char.isDigit) } c rest'
        else .malformedDot ('%' :: s.take (s.length - rest.length)) d rest
    else complete position s width c rest

theorem attempt_eq_afterLeast {position n : Nat} {least t : Text} (hleast : IsDigits least)
    (hflag : ∀ c ∈ (least ++ t).head?, c ≠ '-') (ht : ∀ c ∈ t.head?, c.isDigit = false) :
    attempt position (List.replicate n '-' ++ (least ++ t)) =
      afterLeast position (List.replicate n '-' ++ (least ++ t))
        { left := decide (0 < n), least := saturated least } t := by
  have hdash : ∀ c ∈ List.replicate n '-', (c == '-') = true := by
    intro c hc
    simpa using List.eq_of_mem_replicate hc
  have hstop : ∀ c ∈ (least ++ t).head?, (c == '-') = false := by
    intro c hc
    simpa using hflag c hc
  have hleft : ((List.replicate n '-' ++ (least ++ t)).head? == some '-') = decide (0 < n) := by
    cases n with
    | zero =>
      cases hh : (least ++ t).head? with
      | none => simp [hh]
      | some c => simpa [hh] using hflag c hh
    | succ n => simp [List.replicate_succ]
  rw [attempt, dropWhile_run hdash hstop, takeWhile_run hleast ht, dropWhile_run hleast ht, hleft]
  cases t <;> rfl

/-- Every text begins with dashes and digits, and does not go on with either. -/
theorem exists_flags (s : Text) :
    ∃ n least t, s = List.replicate n '-' ++ (least ++ t) ∧ IsDigits least ∧
      (∀ c ∈ (least ++ t).head?, c ≠ '-') ∧ ∀ c ∈ t.head?, c.isDigit = false := by
  obtain ⟨dashes, rest, hs, hdashes, hrest⟩ := exists_run (· == '-') s
  obtain ⟨least, t, hleast, hdigits, ht⟩ := exists_run Char.isDigit rest
  subst hleast
  refine ⟨dashes.length, least, t, ?_, hdigits, ?_, ht⟩
  · rw [hs, ← List.eq_replicate_iff.2 ⟨rfl, fun c hc => by simpa using hdashes c hc⟩]
  · intro c hc
    simpa using hrest c hc

/-! ## The key and the options -/

theorem keyAt_of_isKey {c : Char} {name t : Text} (hc : Text.isLetter c = true)
    (hname : ∀ d ∈ name, Text.isNamePart d = true)
    (ht : ∀ d ∈ t.head?, Text.isNamePart d = false) : keyAt c (name ++ t) = (c :: name, t) := by
  rw [keyAt, if_pos hc, takeWhile_run hname ht, dropWhile_run hname ht]

theorem head?_braced_append {options : List Text} {t : Text} (h : options ≠ []) :
    (options.flatMap braced ++ t).head? = some '{' := by
  cases options with
  | nil => exact absurd rfl h
  | cons option options => rfl

theorem complete_of_key {position : Nat} {before name skipped rest : Text} {width : FieldWidth}
    {c : Char} {options : List Text} (hc : Text.isLetter c = true)
    (hname : ∀ d ∈ name, Text.isNamePart d = true)
    (hopt : ∀ option ∈ options, Balanced option) (hskip : Skips options skipped rest)
    (hend : options = [] → ∀ d ∈ (skipped ++ rest).head?, Text.isNamePart d = false) :
    complete position (before ++ (skipped ++ rest)) width c
        (name ++ (options.flatMap braced ++ (skipped ++ rest))) =
      .specifier
        { position, raw := '%' :: (before ++ skipped), width, key := c :: name, options } rest := by
  have hstop : ∀ d ∈ (options.flatMap braced ++ (skipped ++ rest)).head?,
      Text.isNamePart d = false := by
    by_cases hnil : options = []
    · subst hnil
      exact hend rfl
    · intro d hd
      rw [head?_braced_append hnil] at hd
      cases hd
      decide
  have hgroups : optionGroups (options.flatMap braced ++ (skipped ++ rest))
      (options.flatMap braced ++ (skipped ++ rest)) = (options, rest) :=
    optionGroups_iff.2 ⟨skipped, by rw [List.append_assoc], hopt, hskip⟩
  have htake : (before ++ (skipped ++ rest)).take
      ((before ++ (skipped ++ rest)).length - rest.length) = before ++ skipped := by
    rw [← List.append_assoc, List.length_append, Nat.add_sub_cancel]
    exact List.take_left
  simp only [complete, keyAt_of_isKey hc hname hstop, hgroups, htake]

theorem exists_key_of_complete {position : Nat} {s t : Text} {width : FieldWidth} {c : Char}
    {spec : Specifier} {rest : Text}
    (h : complete position s width c t = .specifier spec rest) (hkey : spec.key ≠ []) :
    ∃ name options skipped, Text.isLetter c = true ∧ (∀ d ∈ name, Text.isNamePart d = true) ∧
      (∀ option ∈ options, Balanced option) ∧ Skips options skipped rest ∧
      (options = [] → ∀ d ∈ (skipped ++ rest).head?, Text.isNamePart d = false) ∧
      t = name ++ (options.flatMap braced ++ (skipped ++ rest)) ∧
      spec = { position, raw := '%' :: s.take (s.length - rest.length), width,
               key := c :: name, options } := by
  simp only [complete, Attempt.specifier.injEq] at h
  obtain ⟨rfl, hrest⟩ := h
  have hc : Text.isLetter c = true := by
    by_contra hc
    rw [keyAt, if_neg hc] at hkey
    exact hkey rfl
  obtain ⟨name, after, rfl, hname, hafter⟩ := exists_run Text.isNamePart t
  rw [keyAt_of_isKey hc hname hafter] at hrest ⊢
  cases hg : optionGroups after after with
  | mk options rest' =>
    simp only [hg] at hrest ⊢
    subst hrest
    obtain ⟨skipped, hs, hbal, hskip⟩ := optionGroups_iff.1 hg
    refine ⟨name, options, skipped, hc, hname, hbal, hskip, ?_, ?_, rfl⟩
    · rintro rfl
      rw [hs] at hafter
      exact hafter
    · rw [← List.append_assoc _ skipped, ← hs]

/-! ## Specifiers -/

/-- Digits and a mark that is no dash do not begin with one. -/
theorem head?_digits_append_ne {digits t : Text} {c : Char} (hdigits : IsDigits digits)
    (hc : c ≠ '-') : ∀ d ∈ (digits ++ c :: t).head?, d ≠ '-' := by
  intro d hd
  cases digits with
  | nil =>
    cases hd
    exact hc
  | cons e digits =>
    cases hd
    have he : d.isDigit = true := hdigits d List.mem_cons_self
    rintro rfl
    exact absurd he (by decide)

/-- What is written as a specifier is read as that specifier. -/
theorem attempt_of_form {form : SpecifierForm} (hform : form.WellFormed) (position : Nat)
    {skipped rest : Text} (hend : form.EndsBefore skipped rest) :
    attempt position (form.body ++ (skipped ++ rest)) =
      .specifier (form.toSpecifier position skipped) rest := by
  obtain ⟨c, name, hkey, hc, hname⟩ := hform.key
  have hdot : c ≠ '.' := ne_of_isLetter hc (by decide)
  have hdash : c ≠ '-' := ne_of_isLetter hc (by decide)
  have hdigit : c.isDigit = false := not_isDigit_of_isLetter hc
  cases hmost : form.most with
  | none =>
    have hbody : form.body = List.replicate form.dashes '-' ++
        (form.least ++ (c :: (name ++ form.options.flatMap braced))) := by
      simp [SpecifierForm.body, SpecifierForm.bound, hmost, hkey]
    have hsplit : form.body ++ (skipped ++ rest) = List.replicate form.dashes '-' ++
        (form.least ++ (c :: (name ++ (form.options.flatMap braced ++ (skipped ++ rest))))) := by
      simp [hbody]
    have hwidth : form.width =
        { left := decide (0 < form.dashes), least := saturated form.least } := by
      simp [SpecifierForm.width, hmost]
    rw [hsplit, attempt_eq_afterLeast hform.least (head?_digits_append_ne hform.least hdash)
        (by rintro d ⟨⟩; exact hdigit), ← hsplit]
    simp only [afterLeast, if_neg hdot]
    rw [complete_of_key hc hname hform.options hend.skips hend.name]
    simp [SpecifierForm.toSpecifier, hwidth, hkey]
  | some digits =>
    obtain ⟨hne, hdigits⟩ := hform.most digits hmost
    have hsplit : form.body ++ (skipped ++ rest) = List.replicate form.dashes '-' ++
        (form.least ++ ('.' :: (digits ++ (c :: (name ++
          (form.options.flatMap braced ++ (skipped ++ rest))))))) := by
      simp [SpecifierForm.body, SpecifierForm.bound, hmost, hkey]
    have hwidth : form.width =
        { left := decide (0 < form.dashes), least := saturated form.least,
          most := boundOf digits } := by
      simp [SpecifierForm.width, hmost]
    have hstop : ∀ d ∈ (c :: (name ++ (form.options.flatMap braced ++ (skipped ++ rest)))).head?,
        d.isDigit = false := by
      rintro d ⟨⟩
      exact hdigit
    rw [hsplit, attempt_eq_afterLeast hform.least (head?_digits_append_ne hform.least (by decide))
        (by rintro d ⟨⟩; decide), ← hsplit]
    obtain ⟨d, digits', rfl⟩ := List.exists_cons_of_ne_nil hne
    simp only [afterLeast, if_true, List.cons_append, hdigits d List.mem_cons_self]
    rw [← List.cons_append, takeWhile_run hdigits hstop, dropWhile_run hdigits hstop]
    simp only
    rw [complete_of_key hc hname hform.options hend.skips hend.name]
    simp [SpecifierForm.toSpecifier, hwidth, hkey]

theorem exists_form_of_complete {position n : Nat} {s least t rest : Text} {most : Option Text}
    {c : Char} {spec : Specifier} (hleast : IsDigits least)
    (hmost : ∀ digits ∈ most, digits ≠ [] ∧ IsDigits digits)
    (hs : s = List.replicate n '-' ++
      (least ++ (SpecifierForm.bound ⟨n, least, most, [], []⟩ ++ c :: t)))
    (h : complete position s (SpecifierForm.width ⟨n, least, most, [], []⟩) c t =
      .specifier spec rest)
    (hkey : spec.key ≠ []) :
    ∃ (form : SpecifierForm) (skipped : Text), form.WellFormed ∧ form.EndsBefore skipped rest ∧
      s = form.body ++ (skipped ++ rest) ∧ spec = form.toSpecifier position skipped := by
  obtain ⟨name, options, skipped, hletter, hname, hbal, hskip, hend, ht, hspec⟩ :=
    exists_key_of_complete h hkey
  have hbody : s =
      SpecifierForm.body ⟨n, least, most, c :: name, options⟩ ++ (skipped ++ rest) := by
    rw [hs, ht]
    simp [SpecifierForm.body, SpecifierForm.bound]
  have htake : s.take (s.length - rest.length) =
      SpecifierForm.body ⟨n, least, most, c :: name, options⟩ ++ skipped := by
    rw [hbody, ← List.append_assoc, List.length_append, Nat.add_sub_cancel]
    exact List.take_left
  refine ⟨⟨n, least, most, c :: name, options⟩, skipped,
    ⟨hleast, hmost, ⟨c, name, rfl, hletter, hname⟩, hbal⟩, ⟨hskip, hend⟩, hbody, ?_⟩
  rw [hspec, htake]
  rfl

/-- What is read as a specifier with a key was written as one. -/
theorem exists_form {position : Nat} {s rest : Text} {spec : Specifier}
    (h : attempt position s = .specifier spec rest) (hkey : spec.key ≠ []) :
    ∃ (form : SpecifierForm) (skipped : Text), form.WellFormed ∧ form.EndsBefore skipped rest ∧
      s = form.body ++ (skipped ++ rest) ∧ spec = form.toSpecifier position skipped := by
  obtain ⟨n, least, t, rfl, hleast, hflag, ht⟩ := exists_flags s
  rw [attempt_eq_afterLeast hleast hflag ht] at h
  cases t with
  | nil => cases h
  | cons c t =>
    by_cases hdot : c = '.'
    · subst hdot
      cases t with
      | nil => cases h
      | cons d tail =>
        obtain ⟨digits, after, hsplit, hdigits, hafter⟩ := exists_run Char.isDigit (d :: tail)
        have htake : (d :: tail).takeWhile Char.isDigit = digits := by
          rw [hsplit, takeWhile_run hdigits hafter]
        have hdrop : (d :: tail).dropWhile Char.isDigit = after := by
          rw [hsplit, dropWhile_run hdigits hafter]
        cases hd : d.isDigit with
        | false => simp [afterLeast, hd] at h
        | true =>
          have hne : digits ≠ [] := by
            rintro rfl
            simp [hd] at htake
          simp only [afterLeast, if_true, hd, htake, hdrop] at h
          cases after with
          | nil => cases h
          | cons c' after =>
            have hmost : ∀ digits' ∈ some digits, digits' ≠ [] ∧ IsDigits digits' := by
              rintro _ ⟨⟩
              exact ⟨hne, hdigits⟩
            exact exists_form_of_complete hleast hmost (by rw [hsplit]; rfl) h hkey
    · simp only [afterLeast, if_neg hdot] at h
      have hmost : ∀ digits ∈ (none : Option Text), digits ≠ [] ∧ IsDigits digits := by
        rintro _ ⟨⟩
      exact exists_form_of_complete hleast hmost rfl h hkey

/-! ## The end of the pattern -/

/-- Flags and widths, and nothing after them. -/
def IsUnfinished (s : Text) : Prop :=
  ∃ (n : Nat) (least bound : Text), s = List.replicate n '-' ++ (least ++ bound) ∧
    IsDigits least ∧ (bound = [] ∨ ∃ digits, bound = '.' :: digits ∧ IsDigits digits)

theorem head?_digits_ne {digits : Text} (hdigits : IsDigits digits) :
    ∀ d ∈ digits.head?, d ≠ '-' := by
  intro d hd
  have he := hdigits d (List.mem_of_mem_head? hd)
  rintro rfl
  exact absurd he (by decide)

/-- Only flags and widths run into the end of a pattern. -/
theorem attempt_eq_unfinished_iff {position : Nat} {s : Text} :
    attempt position s = .unfinished ↔ IsUnfinished s := by
  constructor
  · intro h
    obtain ⟨n, least, t, rfl, hleast, hflag, ht⟩ := exists_flags s
    rw [attempt_eq_afterLeast hleast hflag ht] at h
    refine ⟨n, least, t, rfl, hleast, ?_⟩
    cases t with
    | nil => exact .inl rfl
    | cons c t =>
      by_cases hdot : c = '.'
      · subst hdot
        refine .inr ⟨t, rfl, ?_⟩
        cases t with
        | nil => rintro _ ⟨⟩
        | cons d tail =>
          cases hd : d.isDigit with
          | false => simp [afterLeast, hd] at h
          | true =>
            obtain ⟨digits, after, hsplit, hdigits, hafter⟩ :=
              exists_run Char.isDigit (d :: tail)
            have hdrop : (d :: tail).dropWhile Char.isDigit = after := by
              rw [hsplit, dropWhile_run hdigits hafter]
            simp only [afterLeast, if_true, hd, hdrop] at h
            cases after with
            | nil =>
              rw [hsplit, List.append_nil]
              exact hdigits
            | cons c' after => simp [complete] at h
      · simp [afterLeast, hdot, complete] at h
  · rintro ⟨n, least, bound, rfl, hleast, rfl | ⟨digits, rfl, hdigits⟩⟩
    · have hflag : ∀ d ∈ (least ++ []).head?, d ≠ '-' := by
        rw [List.append_nil]
        exact head?_digits_ne hleast
      rw [attempt_eq_afterLeast hleast hflag (by rintro d ⟨⟩)]
      rfl
    · rw [attempt_eq_afterLeast hleast (head?_digits_append_ne hleast (by decide))
        (by rintro d ⟨⟩; decide)]
      cases digits with
      | nil => rfl
      | cons d digits =>
        have hdrop : (d :: digits).dropWhile Char.isDigit = [] := by
          rw [← List.append_nil (d :: digits), dropWhile_run hdigits (by rintro c ⟨⟩)]
        simp only [afterLeast, if_true, hdigits d List.mem_cons_self, hdrop]

/-! ## The pieces of a pattern -/

theorem scanFrom_literal {position : Nat} {c : Char} (hc : c ≠ '%') (s : Text) :
    scanFrom position (c :: s) = .literal c :: scanFrom (position + 1) s := by
  cases s with
  | nil => simp [scanFrom]
  | cons d s => rw [scanFrom, if_pos hc]

theorem scanFrom_percent (position : Nat) (s : Text) :
    scanFrom position ('%' :: '%' :: s) = .percent :: scanFrom (position + 2) s := by
  simp [scanFrom]

/-- A second percent sign begins no key. -/
theorem exists_attempt_percent (position : Nat) (s : Text) :
    ∃ spec rest, attempt position ('%' :: s) = .specifier spec rest ∧ spec.key = [] := by
  have hflags : attempt position ('%' :: s) = afterLeast position ('%' :: s) {} ('%' :: s) :=
    @attempt_eq_afterLeast position 0 [] ('%' :: s) (fun c hc => absurd hc List.not_mem_nil)
      (by rintro c ⟨⟩; decide) (by rintro c ⟨⟩; decide)
  rw [hflags]
  exact ⟨_, _, rfl, rfl⟩

/-- A percent sign before anything but another one begins what `attempt` reads. -/
theorem scanFrom_eq_attempt {position : Nat} {s : Text} (hne : s ≠ []) (hs : s.head? ≠ some '%') :
    scanFrom position ('%' :: s) =
      match attempt position s with
      | .specifier spec rest => .specifier spec :: scanFrom (position + spec.raw.length) rest
      | .malformedDot raw found rest =>
        .malformedDot raw (position + raw.length) found :: scanFrom (position + raw.length) rest
      | .unfinished => [.unfinished ('%' :: s)] := by
  obtain ⟨d, s, rfl⟩ := List.exists_cons_of_ne_nil hne
  have hd : d ≠ '%' := fun e => hs (by rw [e]; rfl)
  rw [scanFrom.eq_def]
  simp only [ne_eq, not_true, if_false, if_neg hd]
  split <;> rename_i hread <;> rw [hread]

theorem scanFrom_specifier {position : Nat} {s rest : Text} {spec : Specifier}
    (h : attempt position s = .specifier spec rest) (hkey : spec.key ≠ []) :
    scanFrom position ('%' :: s) =
      .specifier spec :: scanFrom (position + spec.raw.length) rest := by
  have hne : s ≠ [] := by
    rintro rfl
    cases h
  have hs : s.head? ≠ some '%' := by
    intro hhead
    obtain ⟨tail, rfl⟩ := List.head?_eq_some_iff.1 hhead
    obtain ⟨spec', rest', h', hnil⟩ := exists_attempt_percent position tail
    rw [h, Attempt.specifier.injEq] at h'
    exact hkey (h'.1 ▸ hnil)
  rw [scanFrom_eq_attempt hne hs, h]

theorem scanFrom_form {form : SpecifierForm} {skipped rest : Text} (hform : form.WellFormed)
    (hend : form.EndsBefore skipped rest) (position : Nat) :
    scanFrom position ('%' :: (form.body ++ (skipped ++ rest))) =
      .specifier (form.toSpecifier position skipped) ::
        scanFrom (position + (form.toSpecifier position skipped).raw.length) rest :=
  scanFrom_specifier (attempt_of_form hform position hend) (ne_nil_of_isKey hform.key)

theorem scanFrom_unfinished {position : Nat} {s : Text} (hne : s ≠ []) (hs : IsUnfinished s) :
    scanFrom position ('%' :: s) = [.unfinished ('%' :: s)] := by
  have hread := (@attempt_eq_unfinished_iff position s).2 hs
  have hhead : s.head? ≠ some '%' := by
    intro hhead
    obtain ⟨tail, rfl⟩ := List.head?_eq_some_iff.1 hhead
    obtain ⟨spec, rest, h, _⟩ := exists_attempt_percent position tail
    rw [h] at hread
    cases hread
  rw [scanFrom_eq_attempt hne hhead, hread]

end LogLine.Pattern
