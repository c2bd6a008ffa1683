/-
  Proofs/Pattern/LongestKey.lean --- which converter a key stands for, and where
  its rest goes.

  A key is the longest run of letters, numbers and underscores, so text can run
  into it.  The plugin of the longest beginning that is known answers for it, and
  the rest of the key goes back into the literal text, before what follows the
  options:

      exists_stands        where the field of a specifier stands in the pattern
      resolved_by_longest  what that field is, and what is written after it

  Nothing falls back to a shorter key: a plugin that refuses the options leaves
  the specifier unresolved as a whole.
-/
import LogLine.Proofs.Pattern.BrokenCharacter
import LogLine.Proofs.Pattern.LiteralText
import LogLine.Proofs.Pattern.Places

set_option autoImplicit false

namespace LogLine.Pattern

/-! ## Where its field stands -/

/-- The literal text that some pieces begin with. -/
def leadingText : List Piece → Text
  | .literal c :: rest => c :: leadingText rest
  | .percent :: rest => '%' :: leadingText rest
  | _ => []

/-- A specifier becomes a field. -/
theorem exists_field_of_resolveSpecifier {rules : Rules} {config : Config} {spec : Specifier}
    {arguments : List Argument} {part : Resolved} {reports : List Report}
    (h : resolveSpecifier rules config spec arguments = some (part, reports)) :
    ∃ field leftover, part = .field field leftover := by
  cases resolveSpecifier_eq_iff.1 h with
  | made | failed => exact ⟨_, _, rfl⟩

/-- Literal text is gathered up to the first specifier. -/
theorem gather_fst_eq {rules : Rules} {config : Config} {pieces : List Piece}
    {parts : List (Resolved × List Report)}
    (h : pieces.map (resolvePiece rules config) = parts.map some) :
    (gather config (parts.map (·.1))).1 = leadingText pieces := by
  induction pieces generalizing parts with
  | nil =>
    rw [List.map_nil, eq_comm, List.map_eq_nil_iff] at h
    rw [h]
    rfl
  | cons piece pieces ih =>
    rw [List.map_cons, eq_comm, List.map_eq_cons_iff] at h
    obtain ⟨⟨part, own⟩, parts, rfl, hpiece, hpieces⟩ := h
    have hrest := ih hpieces.symm
    cases piece with
    | literal c | percent =>
      cases hpiece
      simp only [List.map_cons, gather, hrest]
      rfl
    | malformedDot | unfinished =>
      cases hpiece
      rfl
    | specifier spec =>
      obtain ⟨field, leftover, rfl⟩ := exists_field_of_resolveSpecifier hpiece.symm
      rfl

theorem gather_append_field (config : Config) (before : List Resolved) (field : Field)
    (leftover : Text) (after : List Resolved) :
    gather config (before ++ .field field leftover :: after) =
      ((gather config before).1, (gather config before).2 ++
        field :: (flush config (leftover ++ (gather config after).1) ++
          (gather config after).2)) := by
  induction before with
  | nil => rfl
  | cons part before ih =>
    cases part with
    | text | restart | field => simp [gather, ih]

/-- Before a field stands what comes of the parts before it, and right after it
the text that it leaves, with the literal text that follows. -/
theorem assemble_append_field (config : Config) (before : List Resolved) (field : Field)
    (leftover : Text) (after : List Resolved) :
    assemble config (before ++ .field field leftover :: after) =
      assemble config before ++ field :: (flush config (leftover ++ (gather config after).1) ++
        (gather config after).2) := by
  rw [assemble_eq, gather_append_field, assemble_eq, List.append_assoc]

/-- The field of a specifier stands in the compiled pattern, and the text that
it leaves joins the literal text after its options. -/
theorem exists_stands {rules : Rules} {config : Config} {pattern : Text} {fields : Pattern}
    {reports : List Report} {spec : Specifier} {before after : List Piece}
    (hcompile : compile rules config pattern = .done fields reports)
    (hscan : scan pattern = before ++ .specifier spec :: after) :
    ∃ field leftover own front back,
      resolveSpecifier rules config spec (argumentsOf rules config spec.options) =
        some (.field field leftover, own) ∧
      own <:+: reports ∧
      fields = front ++ field :: (flush config (leftover ++ leadingText after) ++ back) := by
  obtain ⟨parts, hparts, rfl, rfl⟩ := compile_eq_done_iff.1 hcompile
  rw [hscan, List.map_append, eq_comm, List.map_eq_append_iff] at hparts
  obtain ⟨first, later, rfl, -, hlater⟩ := hparts
  rw [List.map_cons, List.map_eq_cons_iff] at hlater
  obtain ⟨⟨part, own⟩, last, rfl, hpart, hlast⟩ := hlater
  obtain ⟨field, leftover, rfl⟩ := exists_field_of_resolveSpecifier hpart.symm
  have hown : own <:+: (first ++ (.field field leftover, own) :: last).flatMap (·.2) := by
    refine ⟨first.flatMap (·.2), last.flatMap (·.2), ?_⟩
    rw [List.flatMap_append, List.flatMap_cons, List.append_assoc]
  refine ⟨field, leftover, own, assemble config (first.map (·.1)),
    (gather config (last.map (·.1))).2, hpart.symm, hown, ?_⟩
  rw [List.map_append, List.map_cons, assemble_append_field, gather_fst_eq hlast.symm]

/-! ## Leftovers are literal text -/

theorem writes_flush_output (config : Config) (gathered : Text) :
    Writes (flush config gathered) (Literal.ofConfig config gathered).output := by
  unfold flush
  split
  · rename_i h
    rw [h, Literal.output_ofConfig]
    have hread : Literal.unescaped config [] = [] :=
      Literal.unescaped_eq_self_iff.2 fun _ => List.not_mem_nil
    rw [hread]
    split <;> exact writes_nil
  · exact writes_literalField config gathered

theorem not_mem_of_isNamePart {s : Text} (h : ∀ c ∈ s, Text.isNamePart c = true) {c : Char}
    (hc : Text.isNamePart c = false) : c ∉ s := by
  intro hmem
  rw [h c hmem] at hc
  cases hc

/-- The text that a specifier leaves is part of its key. -/
theorem leftover_subset_key {rules : Rules} {config : Config} {spec : Specifier}
    {arguments : List Argument} {field : Field} {leftover : Text} {reports : List Report}
    (h : resolveSpecifier rules config spec arguments = some (.field field leftover, reports)) :
    leftover ⊆ spec.key := by
  cases resolveSpecifier_eq_iff.1 h with
  | made _ hlongest _ =>
    rw [hlongest.split]
    exact List.subset_append_right _ leftover
  | failed => exact List.nil_subset _

/-- For every table, every key and all options: the plugin of the longest
beginning that is known, the cuts made at characters, is the only one that is
asked; it is asked with all the options, and the specifier becomes what it
answers.  In a compiled pattern, the rest of the key stands right after the
field, in one literal text with what follows the options, and is written as it
is. -/
theorem resolved_by_longest (rules : Rules) (config : Config) (spec : Specifier) :
    (∀ plugin leftover, rules.resolveBytes? spec.key = some (some (plugin, leftover)) ↔
      ∃ used, rules.LongestKnown spec.key used leftover plugin) ∧
    (rules.resolveBytes? spec.key = some none ↔ rules.NoneKnown spec.key) ∧
    (∀ arguments outcome, resolveSpecifier rules config spec arguments = outcome ↔
      Becomes rules config spec arguments outcome) ∧
    ∀ pattern fields reports before after,
      compile rules config pattern = .done fields reports →
      scan pattern = before ++ .specifier spec :: after →
      ∃ field leftover own front back,
        Becomes rules config spec (argumentsOf rules config spec.options)
          (some (.field field leftover, own)) ∧
        own <:+: reports ∧
        fields = front ++ field :: (flush config (leftover ++ leadingText after) ++ back) ∧
        Writes (flush config (leftover ++ leadingText after))
          (leftover ++ (Literal.ofConfig config (leadingText after)).output) := by
  refine ⟨fun plugin leftover => ?_, ?_, fun _ _ => resolveSpecifier_eq_iff, ?_⟩
  · rw [Rules.resolveBytes?_eq, Option.some.injEq]
    exact Rules.resolve?_eq_some_iff
  · rw [Rules.resolveBytes?_eq, Option.some.injEq]
    exact Rules.resolve?_eq_none_iff
  · intro pattern fields reports before after hcompile hscan
    obtain ⟨field, leftover, own, front, back, hresolve, hown, hfields⟩ :=
      exists_stands hcompile hscan
    have hspec : .specifier spec ∈ scan pattern := by
      rw [hscan]
      exact List.mem_append_right _ List.mem_cons_self
    obtain ⟨position, s, rest, hread⟩ := exists_attempt_of_mem_scan hspec
    have hname : ∀ c ∈ leftover, Text.isNamePart c = true := fun c hc =>
      isNamePart_of_attempt hread c (leftover_subset_key hresolve hc)
    have hwrites := writes_flush_output config (leftover ++ leadingText after)
    rw [Literal.output_ofConfig_append (not_mem_of_isNamePart hname (by decide))
      (not_mem_of_isNamePart hname (by decide))] at hwrites
    exact ⟨field, leftover, own, front, back, resolveSpecifier_eq_iff.1 hresolve, hown, hfields,
      hwrites⟩

/-- Plugins some of whose keys begin others. -/
def someRules : Rules :=
  (Rules.ofRegistry [Builtin.lineSeparator, Builtin.notEmpty, Builtin.thread] converterCategory).1

/-- A key that begins with a shorter one and whose plugin misses its option. -/
def bareNotEmpty : Specifier := ⟨0, "%notEmpty".toList, .natural, "notEmpty".toList, []⟩

/-- A key that text runs into. -/
def threadInText : Specifier :=
  ⟨9, "%threadé\x7bx\x7d".toList, .natural, "threadé".toList, [['x']]⟩

/-- Both of them, and more text. -/
def overlapping : Text := bareNotEmpty.raw ++ threadInText.raw ++ ['y']

/-- The plugin that misses its option is not passed over for the newline `%n`,
and the text that runs into the other key follows its field, after the option. -/
theorem resolved_by_longest_overlapping :
    (someRules.find? ['n']).isSome ∧
      ∃ fields reports, compile someRules {} overlapping = .done fields reports ∧
        Fails someRules {} bareNotEmpty []
          (.refused "notEmpty".toList "NotEmpty".toList (Error.new "expected a nested pattern"))
          [] ∧
        (∃ front back, fields = front ++ literalField {} "%notEmpty".toList :: back) ∧
        (∃ front back, fields =
          front ++ ⟨.thread, .natural⟩ :: (flush {} "éy".toList ++ back)) ∧
        Writes (flush {} "éy".toList) "éy".toList := by
  have hscan : scan overlapping =
      [.specifier bareNotEmpty, .specifier threadInText, .literal 'y'] := by
    decide +kernel
  have hnotEmpty : someRules.resolve? bareNotEmpty.key = some (Builtin.notEmpty, []) := rfl
  have hthread : someRules.resolve? threadInText.key = some (Builtin.thread, ['é']) := rfl
  have hfails : Fails someRules {} bareNotEmpty [] (.refused "notEmpty".toList "NotEmpty".toList
      (Error.new "expected a nested pattern")) [] := by
    obtain ⟨used, hlongest⟩ := Rules.resolve?_eq_some_iff.1 hnotEmpty
    exact .refused (Nat.zero_le _) hlongest rfl
  have hmade : Becomes someRules {} threadInText
      (argumentsOf someRules {} threadInText.options)
      (some (.field ⟨.thread, .natural⟩ ['é'], [])) := by
    obtain ⟨used, hlongest⟩ := Rules.resolve?_eq_some_iff.1 hthread
    exact .made (Nat.zero_le _) hlongest rfl
  obtain ⟨fields, reports, hcompile⟩ : ∃ fields reports,
      compile someRules {} overlapping = .done fields reports := by
    rw [compile_eq_mapM, hscan]
    exact ⟨_, _, rfl⟩
  obtain ⟨-, -, hiff, hstands⟩ := resolved_by_longest someRules {} bareNotEmpty
  obtain ⟨field, leftover, own, front, back, hbecomes, -, hfields, -⟩ :=
    hstands overlapping _ _ [] _ hcompile hscan
  obtain ⟨-, -, hiff', hstands'⟩ := resolved_by_longest someRules {} threadInText
  obtain ⟨field', leftover', own', front', back', hbecomes', -, hfields', hwrites⟩ :=
    hstands' overlapping _ _ [.specifier bareNotEmpty] _ hcompile hscan
  have hleft := ((hiff _ _).2 (.failed hfails)).symm.trans ((hiff _ _).2 hbecomes)
  have hleft' := ((hiff' _ _).2 hmade).symm.trans ((hiff' _ _).2 hbecomes')
  simp only [Option.some.injEq, Prod.mk.injEq, Resolved.field.injEq] at hleft hleft'
  obtain ⟨⟨rfl, rfl⟩, -⟩ := hleft
  obtain ⟨⟨rfl, rfl⟩, -⟩ := hleft'
  exact ⟨rfl, fields, reports, hcompile, hfails, ⟨front, _, hfields⟩, ⟨front', back', hfields'⟩,
    hwrites⟩

end LogLine.Pattern
