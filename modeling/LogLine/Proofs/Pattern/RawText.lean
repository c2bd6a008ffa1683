/-
  Proofs/Pattern/RawText.lean --- what is written for a specifier that fails.

  A specifier that fails leaves a field of literal text: all of its characters,
  from the percent sign through the last option.  Literal text is read, however.
  Where backslash escapes are on, or variables are looked up, the options of the
  specifier are read with it, so a backslash or a variable in them is not written
  as it stands:

      writes_literalField_iff       what such a field writes
      writes_raw_of_fails           and when those are the characters themselves
-/
import LogLine.Proofs.Pattern.Problems

set_option autoImplicit false

namespace LogLine.Pattern

theorem writes_literalField_iff {config : Config} {text shown : Text} :
    Writes [literalField config text] shown ↔ (Literal.ofConfig config text).output = shown := by
  have hwrites := writes_literalField config text
  constructor
  · intro h
    have hbuffers := (hwrites { record := {} } []).symm.trans (h { record := {} } [])
    exact congrArg Written.buffer hbuffers
  · rintro rfl
    exact hwrites

/-- A specifier that fails is replaced by a field of its own characters.  It
writes them with their escapes read and their variables replaced, for every
record and after any buffer.  So they are written as they stand, whatever the
variables are, exactly when nothing in them is read: where escapes are, no
backslash stands before the last of them, and where variables are looked up,
there is none. -/
theorem writes_raw_of_fails {rules : Rules} {config : Config} {pattern : Text} {fields : Pattern}
    {reports : List Report} (hcompile : compile rules config pattern = .done fields reports)
    {before after : List Piece} {spec : Specifier}
    (hscan : scan pattern = before ++ .specifier spec :: after) {fault : SpecifierFault}
    {earlier : List Report}
    (h : Fails rules config spec (argumentsOf rules config spec.options) fault earlier) :
    (∃ front back, fields =
      front ++ literalField config spec.raw :: (flush config (leadingText after) ++ back)) ∧
    Writes [literalField config spec.raw] (Literal.ofConfig config spec.raw).output ∧
    ((∀ config' : Config, config'.convertBackslashes = config.convertBackslashes →
        config'.hasLookups = config.hasLookups →
          Writes [literalField config' spec.raw] spec.raw) ↔
      (config.convertBackslashes = true → '\\' ∉ spec.raw.dropLast) ∧
        (config.hasLookups = true → ¬ Literal.HasVariable spec.raw)) := by
  refine ⟨(stands_of_fails hcompile hscan h).2, writes_literalField config spec.raw, ?_⟩
  rw [← Literal.forall_output_eq_self_iff]
  constructor
  · exact fun hwrites config' hb hl => writes_literalField_iff.1 (hwrites config' hb hl)
  · exact fun hkept config' hb hl => writes_literalField_iff.2 (hkept config' hb hl)

/-- Settings with one variable, which is empty. -/
def emptyVariable : Config := { properties := [(['v'], [])] }

/-- An unknown key with a variable in its option. -/
def variableSpecifier : Specifier :=
  ⟨0, "%zz\x7b$\x7bv\x7d\x7d".toList, .natural, ['z', 'z'], ["$\x7bv\x7d".toList]⟩

theorem writes_raw_of_fails_variableSpecifier :
    scan variableSpecifier.raw = [.specifier variableSpecifier] ∧
      Fails {} emptyVariable variableSpecifier
        (argumentsOf {} emptyVariable variableSpecifier.options) (.unknownKey ['z', 'z']) [] ∧
      ∃ fields reports,
        compile {} emptyVariable variableSpecifier.raw = .done fields reports ∧
        ¬ ∀ config' : Config, config'.convertBackslashes = false → config'.hasLookups = true →
          Writes [literalField config' variableSpecifier.raw] variableSpecifier.raw := by
  have hscan : scan variableSpecifier.raw = [.specifier variableSpecifier] := by decide +kernel
  have hfails : Fails {} emptyVariable variableSpecifier
      (argumentsOf {} emptyVariable variableSpecifier.options) (.unknownKey ['z', 'z']) [] := by
    refine .unknownKey (Nat.zero_le _) (by decide) fun used _ _ => rfl
  obtain ⟨fields, reports, hcompile⟩ : ∃ fields reports,
      compile {} emptyVariable variableSpecifier.raw = .done fields reports := by
    rw [compile_eq_mapM, hscan]
    exact ⟨_, _, rfl⟩
  refine ⟨hscan, hfails, fields, reports, hcompile, fun hwrites => ?_⟩
  have hscan' : scan variableSpecifier.raw = [] ++ .specifier variableSpecifier :: [] := hscan
  obtain ⟨-, -, hiff⟩ := writes_raw_of_fails hcompile hscan' hfails
  have hvariable : Literal.HasVariable variableSpecifier.raw :=
    ⟨"%zz\x7b".toList, "v\x7d\x7d".toList, rfl, by decide⟩
  exact (hiff.1 hwrites).2 rfl hvariable

/-- Settings that read backslash escapes. -/
def escaping : Config := { convertBackslashes := true }

/-- An unknown key with a backslash in its option. -/
def escapedSpecifier : Specifier :=
  ⟨0, "%zz\x7ba\\tb\x7d".toList, .natural, ['z', 'z'], ["a\\tb".toList]⟩

/-- With escapes on, a tab is written for the backslash and the letter after it. -/
theorem not_writes_escapedSpecifier :
    scan escapedSpecifier.raw = [.specifier escapedSpecifier] ∧
      Fails Builtin.rules escaping escapedSpecifier
        (argumentsOf Builtin.rules escaping escapedSpecifier.options)
        (.unknownKey ['z', 'z']) [] ∧
      ∃ fields reports,
        compile Builtin.rules escaping escapedSpecifier.raw = .done fields reports ∧
        Writes fields "%zz\x7ba\tb\x7d".toList ∧ ¬ Writes fields escapedSpecifier.raw := by
  have hscan : scan escapedSpecifier.raw = [.specifier escapedSpecifier] := by decide +kernel
  have hnone : Builtin.rules.NoneKnown escapedSpecifier.key := Rules.resolve?_eq_none_iff.1 rfl
  have hfails : Fails Builtin.rules escaping escapedSpecifier
      (argumentsOf Builtin.rules escaping escapedSpecifier.options)
      (.unknownKey ['z', 'z']) [] :=
    .unknownKey (Nat.zero_le _) (by decide) hnone
  have hcompile : compile Builtin.rules escaping escapedSpecifier.raw =
      .done [literalField escaping escapedSpecifier.raw]
        [.failedSpecifier 0 (.unknownKey ['z', 'z'])] := by
    have hresolve : resolvePiece Builtin.rules escaping (.specifier escapedSpecifier) = some _ :=
      (Becomes.failed hfails).resolveSpecifier
    rw [compile_eq_mapM, hscan, List.mapM_cons, hresolve]
    rfl
  refine ⟨hscan, hfails, _, _, hcompile, writes_literalField_iff.2 (by decide), fun hwrites => ?_⟩
  exact absurd (writes_literalField_iff.1 hwrites) (by decide)

end LogLine.Pattern
