/-
  Proofs/Pattern/LineSeparator.lean --- separators between the entries of an
  error.

  The pattern `%ex{separator(s)}` asks for all entries of an error with `s`
  between them.  A text without braces reaches the reader of the options in one
  piece, but is then split at its commas, before anything tells that they stand
  inside a separator:

      ThrownText.separator_of_joins            what joins entries by a text
      ThrownText.compile_separatorPattern_iff  how the pattern is read
      ThrownText.joins_separatorPattern_iff    the texts that can be separators
-/
import LogLine.Proofs.Pattern.CauseChain
import LogLine.Proofs.Pattern.Printing

set_option autoImplicit false

namespace LogLine.ThrownText

open Pattern (SpecifierItem Balanced compile compile_print_specifier_iff)

/-! ## Joining -/

/-- A converter that adds the entries of the error of every record, joined by
`s`, after a space if the buffer ends visibly. -/
def Joins (s : Text) (converter : Converter) : Prop :=
  ∀ (scene : Scene) (buffer : Text) (entries : List Text),
    ChainEntries scene.record.thrown entries →
      converter.Adds scene buffer
        ((if Text.endsVisibly buffer then [' '] else []) ++ s.intercalate entries)

theorem joins_separator (s : Text) : Joins s (.throwable { separator := s }) := by
  intro scene buffer entries hentries
  exact adds_throwable_iff.2 (output_eq hentries (by simp) s buffer)

/-- An error with another one behind it tells separators apart. -/
theorem separator_of_joins {style : ThrownText} {s : Text} (h : Joins s (.throwable style)) :
    style.separator = s := by
  obtain ⟨limit, separator⟩ := style
  have hentries : ChainEntries ["a".toList, "b".toList] ["a".toList, "Caused by: b".toList] :=
    chainEntries_iff.2 ⟨by simp, rfl⟩
  have hjoined := adds_throwable_iff.1 (h { record := { thrown := ["a".toList, "b".toList] } } [] _
    hentries)
  have hboth : ∀ mark : Text, mark.intercalate ["a".toList, "Caused by: b".toList] =
      "a".toList ++ mark ++ "Caused by: b".toList := fun mark => by
    rw [Text.intercalate_cons (by simp), List.intercalate_singleton]
  match limit with
  | some 0 =>
    rw [output_of_limit_zero, hboth] at hjoined
    cases hjoined
  | some 1 =>
    rw [output_eq hentries (by simp), hboth] at hjoined
    have hlength := congrArg List.length (List.append_cancel_left hjoined)
    simp [within] at hlength
  | none | some (n + 2) =>
    rw [output_eq hentries (by simp)] at hjoined
    have hsame := List.append_cancel_left hjoined
    simp only [within, List.take_succ_cons, List.take_nil, hboth] at hsame
    exact List.append_cancel_left (List.append_cancel_right hsame)

/-! ## The pattern -/

/-- The pattern `%ex{separator(s)}`. -/
def separatorPattern (s : Text) : Text := "%ex\x7bseparator(".toList ++ s ++ ")\x7d".toList

/-- Its specifier. -/
def separatorItem (s : Text) : SpecifierItem :=
  { left := false, least := none, most := none, key := "ex".toList, options := [separatorOption s] }

theorem print_separatorItem (s : Text) : (separatorItem s).print = separatorPattern s := by
  have hprint : (separatorItem s).print =
      "%ex\x7bseparator(".toList ++ ((s ++ [')']) ++ ['}'] ++ []) := rfl
  have hpattern : separatorPattern s = "%ex\x7bseparator(".toList ++ s ++ ")\x7d".toList := rfl
  rw [hprint, hpattern]
  simp only [List.append_assoc, List.append_nil]
  rfl

theorem valid_separatorItem {s : Text} (hopen : '{' ∉ s) (hclose : '}' ∉ s) :
    (separatorItem s).Valid where
  least := Nat.zero_le _
  key := ⟨'e', ['x'], rfl, by decide, List.all_eq_true.1 (by decide)⟩
  options := by
    intro option hoption
    rw [List.mem_singleton.1 hoption]
    exact Pattern.balanced_of_not_mem (not_mem_separatorOption (by decide) hopen (by decide))
      (not_mem_separatorOption (by decide) hclose (by decide))

theorem compile_separatorPattern_iff (config : Config) {s : Text} (hopen : '{' ∉ s)
    (hclose : '}' ∉ s) {style : ThrownText} :
    compile Builtin.rules config (separatorPattern s) =
        .done [{ converter := .throwable style, width := .natural }] [] ↔
      read [separatorOption s] = .ok style := by
  have hkey : Builtin.rules.find? (separatorItem s).key = some Builtin.throwable := rfl
  have hwidth : FieldWidth.natural = (separatorItem s).width := rfl
  rw [← print_separatorItem, hwidth,
    compile_print_specifier_iff (valid_separatorItem hopen hclose) hkey]
  have hcreate : Builtin.throwable.create config
      (Pattern.argumentsOf Builtin.rules config (separatorItem s).options) =
        .ofExcept ((read [separatorOption s]).map .throwable) := rfl
  rw [hcreate]
  cases read [separatorOption s] with
  | error error => simp [Creation.ofExcept, Except.map]
  | ok style => simp [Creation.ofExcept, Except.map]

/-- A text without braces is read as a separator if and only if it has no comma. -/
theorem joins_separatorPattern_iff (config : Config) {s : Text} (hopen : '{' ∉ s)
    (hclose : '}' ∉ s) :
    (∃ style, compile Builtin.rules config (separatorPattern s) =
        .done [{ converter := .throwable style, width := .natural }] [] ∧
      Joins s (.throwable style)) ↔ ',' ∉ s := by
  simp only [compile_separatorPattern_iff config hopen hclose]
  constructor
  · rintro ⟨style, hread, hjoins⟩
    rw [← separator_of_joins hjoins]
    exact comma_not_mem_separator hread
  · intro hcomma
    exact ⟨_, read_separator hcomma, joins_separator s⟩

theorem joins_separatorPattern_bar :
    '{' ∉ " | ".toList ∧ '}' ∉ " | ".toList ∧
      ∃ style, compile Builtin.rules {} (separatorPattern " | ".toList) =
          .done [{ converter := .throwable style, width := .natural }] [] ∧
        Joins " | ".toList (.throwable style) := by
  have hopen : '{' ∉ " | ".toList := by decide
  have hclose : '}' ∉ " | ".toList := by decide
  exact ⟨hopen, hclose, (joins_separatorPattern_iff {} hopen hclose).2 (by decide)⟩

/-- A comma and a space are no separator: the option is cut between the two. -/
theorem not_joins_separatorPattern_comma :
    '{' ∉ ", ".toList ∧ '}' ∉ ", ".toList ∧
      ¬ ∃ style, compile Builtin.rules {} (separatorPattern ", ".toList) =
          .done [{ converter := .throwable style, width := .natural }] [] ∧
        Joins ", ".toList (.throwable style) := by
  have hopen : '{' ∉ ", ".toList := by decide
  have hclose : '}' ∉ ", ".toList := by decide
  refine ⟨hopen, hclose, ?_⟩
  rintro ⟨style, hdone, hjoins⟩
  have hread := (compile_separatorPattern_iff {} hopen hclose).1 hdone
  have hcomma := comma_not_mem_separator hread
  rw [separator_of_joins hjoins] at hcomma
  exact hcomma (by decide)

end LogLine.ThrownText
