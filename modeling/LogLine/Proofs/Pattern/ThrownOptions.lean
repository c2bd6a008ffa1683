/-
  Proofs/Pattern/ThrownOptions.lean --- the options of an attached error.

  Groups of options are split at commas, and every part is trimmed before it is
  read.  So an option is what it looks like only where it has no comma, and no
  separator that is read has one:

      ThrownText.read_ofNat               a number is the limit
      ThrownText.separatorOf?_eq_some_iff what gives a separator
      ThrownText.read_separator           a separator without a comma
      ThrownText.mem_separator_of_read    the characters of a separator
-/
import LogLine.Pattern.ThrownText
import LogLine.Proofs.Text.Lines
import LogLine.Proofs.Text.ReadNumeral

set_option autoImplicit false

namespace LogLine.ThrownText

variable {style changed : ThrownText} {s : Text}

/-- A group without a comma is one option. -/
theorem read_of_not_mem (h : ',' ∉ s) : read [s] = applyAll {} [Text.trim s] := by
  rw [read, List.flatMap_singleton, Text.pieces_of_not_mem h, List.map_singleton]

/-! ## Separators -/

/-- What an option that gives a separator begins with. -/
def separatorMark : Text := "separator(".toList

/-- The option that gives the separator `s`. -/
def separatorOption (s : Text) : Text := separatorMark ++ (s ++ [')'])

theorem separatorOf?_eq_some_iff {option separator : Text} :
    separatorOf? option = some separator ↔ option = separatorOption separator := by
  have hcuts : separatorOf? option =
      (separatorMark.isPrefixOf? option).bind (Text.dropEnding? [')']) := rfl
  rw [hcuts, Option.bind_eq_some_iff]
  constructor
  · rintro ⟨rest, hrest, hcut⟩
    rw [← Text.append_of_isPrefixOf? hrest, Text.dropEnding?_eq_some_iff.1 hcut, separatorOption]
  · rintro rfl
    exact ⟨_, Text.isPrefixOf?_append _ _, Text.dropEnding?_eq_some_iff.2 rfl⟩

theorem not_mem_separatorOption {c : Char} (hmark : c ∉ separatorMark) (hs : c ∉ s)
    (hend : c ≠ ')') : c ∉ separatorOption s := by
  rw [separatorOption, List.mem_append, List.mem_append, List.mem_singleton]
  exact not_or.2 ⟨hmark, not_or.2 ⟨hs, hend⟩⟩

/-- It has no white space around it. -/
theorem trim_separatorOption (s : Text) : Text.trim (separatorOption s) = separatorOption s :=
  @Text.trim_cons_concat 's' ')' (by decide) (by decide) (separatorMark.tail ++ s)

/-- A separator without a comma is read as it is. -/
theorem read_separator (h : ',' ∉ s) : read [separatorOption s] = .ok { separator := s } := by
  have hcomma : ',' ∉ separatorOption s := not_mem_separatorOption (by decide) h (by decide)
  have happly : apply {} (separatorOption s) = .ok { separator := s } := by
    rw [apply, separatorOf?_eq_some_iff.2 rfl]
  rw [read_of_not_mem hcomma, trim_separatorOption, applyAll, happly]
  rfl

/-- An option that gives no separator leaves the separator. -/
theorem separator_of_apply {option : Text} (h : style.apply option = .ok changed) :
    changed.separator = (separatorOf? option).getD style.separator := by
  unfold apply at h
  split at h
  · rename_i separator hfound
    obtain rfl := Except.ok.inj h
    rw [hfound, Option.getD_some]
  · rename_i hnone
    rw [hnone, Option.getD_none]
    -- the limit is set in one of four ways, or the option is refused
    repeat' split at h
    all_goals cases h
    all_goals rfl

theorem mem_separator_of_apply {option : Text} {c : Char} (h : style.apply option = .ok changed)
    (hc : c ∈ changed.separator) : c ∈ style.separator ∨ c ∈ option := by
  rw [separator_of_apply h] at hc
  cases hfound : separatorOf? option with
  | none =>
    rw [hfound] at hc
    exact .inl hc
  | some separator =>
    rw [hfound] at hc
    rw [separatorOf?_eq_some_iff.1 hfound]
    exact .inr (List.mem_append_right _ (List.mem_append_left _ hc))

theorem mem_separator_of_applyAll {options : List Text} {c : Char}
    (h : style.applyAll options = .ok changed) (hc : c ∈ changed.separator) :
    c ∈ style.separator ∨ ∃ option ∈ options, c ∈ option := by
  induction options generalizing style with
  | nil =>
    obtain rfl := Except.ok.inj h
    exact .inl hc
  | cons option rest ih =>
    unfold applyAll at h
    split at h
    · rename_i next hnext
      rcases ih h with hmem | ⟨later, hlater, hmem⟩
      · rcases mem_separator_of_apply hnext hmem with hmem | hmem
        · exact .inl hmem
        · exact .inr ⟨option, List.mem_cons_self, hmem⟩
      · exact .inr ⟨later, List.mem_cons_of_mem _ hlater, hmem⟩
    · cases h

/-- A separator is a newline or made of what stands between commas. -/
theorem mem_separator_of_read {groups : List Text} {c : Char} (h : read groups = .ok style)
    (hc : c ∈ style.separator) :
    c = '\n' ∨ ∃ group ∈ groups, ∃ piece ∈ Text.pieces ',' group, c ∈ piece := by
  rcases mem_separator_of_applyAll h hc with hmem | ⟨option, hoption, hmem⟩
  · exact .inl (List.mem_singleton.1 hmem)
  · obtain ⟨piece, hpiece, rfl⟩ := List.mem_map.1 hoption
    obtain ⟨group, hgroup, hpiece⟩ := List.mem_flatMap.1 hpiece
    exact .inr ⟨group, hgroup, piece, hpiece, Text.mem_of_mem_trim hmem⟩

theorem comma_not_mem_separator {groups : List Text} (h : read groups = .ok style) :
    ',' ∉ style.separator := by
  intro hmem
  rcases mem_separator_of_read h hmem with hnewline | ⟨_, -, piece, hpiece, hmem⟩
  · cases hnewline
  · exact Text.not_mem_of_mem_pieces hpiece hmem

/-! ## Limits -/

theorem readSize_ofNat {n : Nat} (h : n ≤ maxSize) : Text.readSize (Text.ofNat n) = .ok n := by
  have hnumeral := Text.isNumeral_ofNat n
  have hread := @Text.readNumber_eq maxSize _ hnumeral
  rw [Text.digitsValue_ofNat, if_pos h] at hread
  have hnumber : Text.readNumber maxSize (Text.ofNat n) = .ok n := by
    cases hnumber : Text.readNumber maxSize (Text.ofNat n) with
    | error fault =>
      rw [hnumber] at hread
      cases hread
    | ok value =>
      rw [hnumber] at hread
      rw [Option.some.inj hread]
  unfold Text.readSize
  split
  · rename_i hnil
    exact absurd hnil hnumeral.1
  · rename_i digits hplus
    have hdigit := hnumeral.2 '+' (hplus ▸ List.mem_cons_self)
    exact absurd hdigit (by decide)
  · exact hnumber

/-- A number as an option is the limit. -/
theorem read_ofNat {n : Nat} (h : n ≤ maxSize) :
    read [Text.ofNat n] = .ok { limit := some n } := by
  have hnumeral := Text.isNumeral_ofNat n
  have htrim : Text.trim (Text.ofNat n) = Text.ofNat n :=
    Text.trim_eq_self fun c hc => Text.isBlank_of_isDigit (hnumeral.2 c hc)
  -- the other options are words
  have hother : ∀ word : Text, (∃ c ∈ word, c.isDigit = false) → Text.ofNat n ≠ word := by
    rintro word ⟨c, hc, hdigit⟩ rfl
    exact hnumeral.not_mem hdigit hc
  have hseparator : separatorOf? (Text.ofNat n) = none := by
    rw [Option.eq_none_iff_forall_ne_some]
    intro separator hfound
    exact hother _ ⟨'s', List.mem_append_left _ (by decide), by decide⟩
      (separatorOf?_eq_some_iff.1 hfound)
  have happly : apply {} (Text.ofNat n) = .ok { limit := some n } := by
    simp only [apply, hseparator, readSize_ofNat h]
    rw [if_neg (not_or.2 ⟨hnumeral.1, hother _ ⟨'f', by decide, by decide⟩⟩),
      if_neg (hother _ ⟨'s', by decide, by decide⟩), if_neg (hother _ ⟨'n', by decide, by decide⟩)]
  rw [read_of_not_mem (hnumeral.not_mem (by decide)), htrim, applyAll, happly]
  rfl

end LogLine.ThrownText
