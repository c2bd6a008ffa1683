/-
  Proofs/Pattern/Quoting.lean --- any text can be written as a pattern.

  A pattern escapes twice: the scanner reads `%%` as one percent sign, and the
  literal text that it gathers may have its backslashes read as well.  A text is
  quoted by doubling its backslashes, where they are read, and then its percent
  signs.  Each layer then undoes its own doubling, whatever runs of either
  character the text holds and wherever they stand:

      compile_quote           the text itself, in one field
-/
import LogLine.Proofs.Pattern.Printing

set_option autoImplicit false

namespace LogLine

namespace Literal

/-- A text with its backslashes doubled. -/
def doubleBackslashes (s : Text) : Text := s.flatMap fun c => if c = '\\' then ['\\', '\\'] else [c]

theorem convertBackslashes_cons {c : Char} (hc : c ≠ '\\') (s : Text) :
    convertBackslashes (c :: s) = c :: convertBackslashes s := by
  rw [convertBackslashes]
  · intro hlast
    exact absurd hlast hc
  · intro d rest hescape
    exact absurd hescape hc

/-- Doubled backslashes are read as those that were doubled. -/
theorem convertBackslashes_doubleBackslashes (s : Text) :
    convertBackslashes (doubleBackslashes s) = s := by
  induction s with
  | nil => rfl
  | cons c s ih =>
    by_cases hc : c = '\\'
    · subst hc
      have hdouble : doubleBackslashes ('\\' :: s) = '\\' :: '\\' :: doubleBackslashes s := rfl
      rw [hdouble, convertBackslashes, ih]
      rfl
    · have hkept : doubleBackslashes (c :: s) = c :: doubleBackslashes s := by
        simp [doubleBackslashes, hc]
      rw [hkept, convertBackslashes_cons hc, ih]

end Literal

namespace Pattern

/-- The literal text whose escapes, read as the settings say, give `s`. -/
def quoteLiteral (config : Config) (s : Text) : Text :=
  if config.convertBackslashes then Literal.doubleBackslashes s else s

/-- A text as a pattern that writes it. -/
def quote (config : Config) (s : Text) : Text := Item.escape (quoteLiteral config s)

theorem doubleBackslashes_ne_nil {s : Text} (h : s ≠ []) : Literal.doubleBackslashes s ≠ [] := by
  obtain ⟨c, rest, rfl⟩ := List.exists_cons_of_ne_nil h
  by_cases hc : c = '\\' <;> simp [Literal.doubleBackslashes, hc]

theorem quoteLiteral_ne_nil {s : Text} (h : s ≠ []) (config : Config) :
    quoteLiteral config s ≠ [] := by
  unfold quoteLiteral
  split
  · exact doubleBackslashes_ne_nil h
  · exact h

/-- The fields that write a text as it is: one, or none for the empty text. -/
def verbatimFields (s : Text) : Pattern :=
  if s = [] then [] else [{ converter := .literal (.verbatim s), width := .natural }]

section

variable {config : Config}

theorem literal_quoteLiteral (hl : config.hasLookups = false) (s : Text) :
    Literal.ofConfig config (quoteLiteral config s) = .verbatim s := by
  cases hb : config.convertBackslashes with
  | true =>
    simp [Literal.ofConfig, quoteLiteral, hb, hl, Literal.verbatim,
      Literal.convertBackslashes_doubleBackslashes]
  | false => simp [Literal.ofConfig, quoteLiteral, hb, hl, Literal.verbatim]

theorem flush_quoteLiteral (hl : config.hasLookups = false) (s : Text) :
    flush config (quoteLiteral config s) = verbatimFields s := by
  by_cases hs : s = []
  · subst hs
    cases hb : config.convertBackslashes <;>
      simp [flush, quoteLiteral, hb, Literal.doubleBackslashes, verbatimFields]
  · rw [flush, if_neg (quoteLiteral_ne_nil hs config), verbatimFields, if_neg hs, literalField,
      literal_quoteLiteral hl]

/-- Text with its percent signs doubled is compiled to the literal text alone. -/
theorem compile_escape (rules : Rules) (s : Text) :
    compile rules config (Item.escape s) = .done (flush config s) [] := by
  obtain ⟨position, hread⟩ := @resolve_escape rules config 0 s []
  have hend : scanFrom position [] = [] := by rw [scanFrom]
  rw [List.append_nil, hend, List.map_nil, List.append_nil] at hread
  refine compile_eq_done_nil_iff.2 ⟨s.map fun c => .text [c], ?_, ?_⟩
  · rw [scan, hread, List.map_map]
    rfl
  · have hgather := @gather_text config s []
    rw [List.append_nil] at hgather
    rw [assemble_eq, hgather]
    simp [gather]

theorem writes_verbatimFields (s : Text) : Writes (verbatimFields s) s := by
  by_cases hs : s = []
  · subst hs
    exact writes_nil
  · have hfield : verbatimFields s = [literalField {} s] := by
      rw [verbatimFields, if_neg hs]
      rfl
    rw [hfield]
    exact writes_literalField_verbatim rfl rfl s

/-- A quoted text is compiled to the text itself, with nothing to report: one
field that depends on no record and has no widths, or no field for the empty
text.  It writes exactly that text for every record. -/
theorem compile_quote (hl : config.hasLookups = false) (rules : Rules) (s : Text) :
    ∃ fields, compile rules config (quote config s) = .done fields [] ∧
      fields.length = (if s = [] then 0 else 1) ∧
      (∀ field ∈ fields, field.converter = .literal (.verbatim s) ∧ field.width = .natural ∧
        field.converter.isVariable = false) ∧
      ∀ (scene : Scene) (buffer : Text),
        fields.write scene buffer = { next := fields, buffer := buffer ++ s } := by
  refine ⟨verbatimFields s, ?_, ?_, ?_, writes_verbatimFields s⟩
  · rw [quote, compile_escape, flush_quoteLiteral hl]
  · by_cases hs : s = [] <;> simp [verbatimFields, hs]
  · intro field hfield
    by_cases hs : s = []
    · simp [verbatimFields, hs] at hfield
    · rw [verbatimFields, if_neg hs, List.mem_singleton] at hfield
      subst hfield
      exact ⟨rfl, rfl, rfl⟩

end

/-- Runs of percent signs and of backslashes, at both ends, next to each other
and before letters, and what would be a specifier or a variable. -/
def awkward : Text := "%%\\\\\\n%m\x7bx\x7d$\x7ba\x7d\\%".toList

/-- Both layers are undone, whatever the plugins. -/
theorem compile_quote_awkward :
    ({ convertBackslashes := true } : Config).hasLookups = false ∧
      ∃ fields, compile Builtin.rules { convertBackslashes := true }
          (quote { convertBackslashes := true } awkward) = .done fields [] ∧
        fields.length = 1 ∧
        (∀ field ∈ fields, field.converter = .literal (.verbatim awkward) ∧
          field.width = .natural ∧ field.converter.isVariable = false) ∧
        ∀ (scene : Scene) (buffer : Text),
          fields.write scene buffer = { next := fields, buffer := buffer ++ awkward } :=
  ⟨rfl, compile_quote rfl Builtin.rules awkward⟩

end Pattern

end LogLine
