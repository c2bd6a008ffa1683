/-
  Proofs/Pattern/AskedPatterns.lean --- the inner pattern of a specifier.

  A factory gets every option as a text and as a pattern, but it compiles at most
  one of them: the first, if the plugin wraps a pattern and has the other options
  it needs.  What the others would compile to makes no difference:

      Builtin.sameCreation_of_mem      one factory
      Specifier.resolve_eq_of_asks     one specifier
      Specifier.length_lt_of_asks      an inner pattern is shorter
-/
import LogLine.Proofs.Pattern.InnerPatterns

set_option autoImplicit false

namespace LogLine

namespace Builtin

/-! ## What factories compile -/

/-- If two ways of compiling agree on what the factory of the plugin compiles,
then it makes the same with both. -/
def SameCreation (nested nested' : Text → Compilation) (config : Config) (options : List Text)
    (plugin : Plugin) : Prop :=
  (∀ inner, Compiles config plugin options inner → nested inner = nested' inner) →
    plugin.create config (argumentsBy nested options) =
      plugin.create config (argumentsBy nested' options)

section

variable {nested nested' : Text → Compilation} {config : Config} {options : List Text}

theorem sameCreation_message : SameCreation nested nested' config options message := by
  intro _
  have hany : ∀ nested : Text → Compilation, (argumentsBy nested options).any isMarkupOption =
      options.any fun option => Text.sameIgnoringCase (Text.trim option) "ansi".toList := by
    intro nested
    rw [argumentsBy, List.any_map]
    rfl
  show Creation.made (.message (markupOf _ _)) _ = Creation.made (.message (markupOf _ _)) _
  rw [markupOf, markupOf, hany nested, hany nested']

theorem sameCreation_date : SameCreation nested nested' config options date := by
  intro _
  show Creation.ofFaults _ = Creation.ofFaults _
  rw [map_text_argumentsBy, map_text_argumentsBy]

theorem sameCreation_throwable : SameCreation nested nested' config options throwable := by
  intro _
  show Creation.ofExcept _ = Creation.ofExcept _
  rw [map_text_argumentsBy, map_text_argumentsBy]

theorem sameCreation_style : SameCreation nested nested' config options style := by
  intro h
  rcases options with _ | ⟨inner, _ | ⟨names, rest⟩⟩
  · rfl
  · rfl
  · show Creation.ofPattern (nested inner) _ = Creation.ofPattern (nested' inner) _
    rw [h inner (.style inner names rest)]

/-- A plugin that compiles its first option whatever follows it. -/
theorem sameCreation_of_withPattern {plugin : Plugin} {next : List Argument → Pattern → Creation}
    (hcreate : ∀ options, plugin.create config options = withPattern options (next options))
    (hnext : ∀ inner rest, next (argumentsBy nested (inner :: rest)) =
      next (argumentsBy nested' (inner :: rest)))
    (hinner : ∀ inner rest, Compiles config plugin (inner :: rest) inner) :
    SameCreation nested nested' config options plugin := by
  intro h
  rw [hcreate, hcreate]
  cases options with
  | nil => rfl
  | cons inner rest =>
    rw [hnext]
    show Creation.ofPattern (nested inner) _ = Creation.ofPattern (nested' inner) _
    rw [h inner (hinner inner rest)]

theorem sameCreation_replace : SameCreation nested nested' config options replace := by
  intro h
  rcases options with _ | ⟨inner, _ | ⟨expression, _ | ⟨replacement, rest⟩⟩⟩
  · rfl
  · rfl
  · rfl
  · simp only [replace, plugin, argumentsBy, List.map_cons]
    cases hread : Regex.read expression config.host with
    | error error => rfl
    | ok regex =>
      show Creation.ofPattern (nested inner) _ = Creation.ofPattern (nested' inner) _
      rw [h inner (.replace inner expression replacement rest ⟨regex, hread⟩)]

/-- A factory of the library compiles no other option than its inner pattern. -/
theorem sameCreation_of_mem {plugin : Plugin} (h : plugin ∈ registry) :
    SameCreation nested nested' config options plugin := by
  have heach : EachKind (SameCreation nested nested' config options) :=
    { message := sameCreation_message
      level := fun _ => by cases options <;> rfl
      logger := fun _ => by cases options <;> rfl
      date := sameCreation_date
      throwable := sameCreation_throwable
      context := fun _ => by cases options <;> rfl
      processId := fun _ => rfl
      bare := fun _ _ _ _ _ => rfl
      style := sameCreation_style
      namedStyle := fun name key =>
        sameCreation_of_withPattern (fun _ => rfl) (fun _ _ => rfl) (.namedStyle name key)
      highlight := sameCreation_of_withPattern (fun _ => rfl)
        (fun _ rest => by cases rest <;> rfl) .highlight
      notEmpty := sameCreation_of_withPattern (fun _ => rfl) (fun _ _ => rfl) .notEmpty
      maxLength := sameCreation_of_withPattern (fun _ => rfl)
        (fun _ rest => by cases rest <;> rfl) .maxLength
      replace := sameCreation_replace }
  exact heach.of_mem h

end

end Builtin

/-! ## What specifiers compile -/

namespace Specifier

open Pattern (maxFieldWidth resolve scan length_lt_of_mem_scan)

/-- Resolving the specifier compiles an inner pattern. -/
def Asks (spec : Specifier) (config : Config) (inner : Text) : Prop :=
  spec.width.least ≤ maxFieldWidth ∧ ∃ plugin leftover,
    Builtin.rules.resolve? spec.key = some (plugin, leftover) ∧
      Builtin.Compiles config plugin spec.options inner

section

variable {config : Config}

theorem mem_options_of_asks {spec : Specifier} {inner : Text} (h : spec.Asks config inner) :
    inner ∈ spec.options := by
  obtain ⟨-, plugin, leftover, -, hcompiles⟩ := h
  exact Builtin.mem_of_compiles hcompiles

/-- An inner pattern is shorter than the pattern around it. -/
theorem length_lt_of_asks {pattern inner : Text} {spec : Specifier}
    (hspec : .specifier spec ∈ scan pattern) (h : spec.Asks config inner) :
    inner.length < pattern.length :=
  length_lt_of_mem_scan hspec (mem_options_of_asks h)

/-- Resolving a specifier compiles nothing else. -/
theorem resolve_eq_of_asks (spec : Specifier) {nested nested' : Text → Compilation}
    (h : ∀ inner, spec.Asks config inner → nested inner = nested' inner) :
    resolve Builtin.rules config (.specifier spec) (argumentsBy nested spec.options) =
      resolve Builtin.rules config (.specifier spec) (argumentsBy nested' spec.options) := by
  show Pattern.resolveSpecifier _ _ _ _ = Pattern.resolveSpecifier _ _ _ _
  unfold Pattern.resolveSpecifier
  split
  · rfl
  rename_i hleast
  split
  · rfl
  split
  · rfl
  rename_i plugin leftover hfound
  have hplugin : plugin ∈ Builtin.registry := Rules.mem_registry_of_resolve? hfound
  have hsame : plugin.create config (argumentsBy nested spec.options) =
      plugin.create config (argumentsBy nested' spec.options) :=
    Builtin.sameCreation_of_mem hplugin fun inner hinner =>
      h inner ⟨Nat.le_of_not_lt hleast, plugin, leftover, hfound, hinner⟩
  rw [hsame]

end

end Specifier

end LogLine
