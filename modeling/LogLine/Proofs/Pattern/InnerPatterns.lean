/-
  Proofs/Pattern/InnerPatterns.lean --- what the built-in factories compile.

  A factory that wraps a pattern compiles its first option, once it has the
  other options it needs; all others compile nothing.  So there are two ways in
  which making a converter can cut a text inside a character: an inner pattern
  is cut, or it is the zone of a date.

      Rules.mem_registry_of_find?      a key stands for a plugin of the registry
      Builtin.EachKind.of_mem          what holds of each kind holds of the registry
      Builtin.create_eq_broken_iff     the two ways of a factory
-/
import LogLine.Pattern.Builtin
import LogLine.Proofs.Pattern.Resolution
import LogLine.Proofs.Time.OffsetCut

set_option autoImplicit false

namespace LogLine

/-! ## The plugins of a table -/

namespace Rules

theorem mem_enter {key : Text} {plugin : Plugin} {entries : List (Text × Plugin)}
    {entry : Text × Plugin} (h : entry ∈ enter key plugin entries) :
    entry = (key, plugin) ∨ entry ∈ entries := by
  induction entries with
  | nil => exact .inl (List.mem_singleton.1 h)
  | cons first rest ih =>
    unfold enter at h
    split at h
    · rcases List.mem_cons.1 h with h | h
      · exact .inl h
      · exact .inr (List.mem_cons_of_mem first h)
    · rcases List.mem_cons.1 h with rfl | h
      · exact .inr List.mem_cons_self
      · exact (ih h).imp_right (List.mem_cons_of_mem first)

/-- An entry was there before, or it is one of the declarations. -/
theorem mem_declareAll {rules : Rules} {declared : List (Text × Plugin)}
    {entry : Text × Plugin} (h : entry ∈ (rules.declareAll declared).1.entries) :
    entry ∈ rules.entries ∨ entry ∈ declared := by
  induction declared generalizing rules with
  | nil => exact .inl h
  | cons first rest ih =>
    rcases ih h with h | h
    · rcases mem_enter h with rfl | h
      · exact .inr List.mem_cons_self
      · exact .inl h
    · exact .inr (List.mem_cons_of_mem first h)

/-- The plugins of a table are those of the registry it was made from. -/
theorem mem_registry_of_find? {registry : Registry} {category key : Text} {plugin : Plugin}
    (h : (ofRegistry registry category).1.find? key = some plugin) : plugin ∈ registry := by
  rcases mem_declareAll (mem_entries_of_find? h) with h | h
  · cases h
  · obtain ⟨declarer, hdeclarer, hkey⟩ := List.mem_flatMap.1 h
    obtain ⟨_, _, hentry⟩ := List.mem_map.1 hkey
    obtain ⟨-, rfl⟩ := Prod.mk.inj hentry
    exact (List.mem_filter.1 hdeclarer).1

theorem mem_registry_of_resolve? {registry : Registry} {category key leftover : Text}
    {plugin : Plugin}
    (h : (ofRegistry registry category).1.resolve? key = some (plugin, leftover)) :
    plugin ∈ registry := by
  obtain ⟨used, -, hused⟩ := exists_of_resolve? h
  exact mem_registry_of_find? hused

end Rules

/-! ## Options as arguments -/

/-- Options as arguments, with `nested` for compiling them. -/
def argumentsBy (nested : Text → Compilation) (options : List Text) : List Argument :=
  options.map fun option => { text := option, asPattern := Thunk.mk fun _ => nested option }

theorem map_text_argumentsBy (nested : Text → Compilation) (options : List Text) :
    (argumentsBy nested options).map Argument.text = options := by
  rw [argumentsBy, List.map_map]
  exact List.map_id options

namespace Builtin

open Pattern (compile argumentsOf)

/-! ## The built-in plugins -/

/-- The converters that a key alone gives, whatever the settings. -/
def bareConverters : List Converter :=
  [.thread, .lineSeparator, .file, .line, .modulePath, .location]

/-- What holds of each kind of built-in plugin. -/
structure EachKind (P : Plugin → Prop) : Prop where
  message : P message
  level : P level
  logger : P logger
  date : P date
  throwable : P throwable
  context : P context
  processId : P processId
  bare : ∀ name keys, ∀ converter ∈ bareConverters, P (plain name keys fun _ => converter)
  style : P style
  namedStyle : ∀ name key, P (namedStyle name key)
  highlight : P highlight
  notEmpty : P notEmpty
  maxLength : P maxLength
  replace : P replace

/-- The registry holds these kinds. -/
theorem EachKind.of_mem {P : Plugin → Prop} (h : EachKind P) {plugin : Plugin}
    (hplugin : plugin ∈ registry) : P plugin := by
  simp only [registry, List.mem_cons, List.not_mem_nil, or_false] at hplugin
  rcases hplugin with rfl | rfl | rfl | rfl | rfl | rfl | rfl | rfl | rfl | rfl | rfl | rfl | rfl |
    rfl | rfl | rfl | rfl | rfl | hplugin
  · exact h.message
  · exact h.level
  · exact h.logger
  · exact h.bare _ _ _ (by simp [bareConverters])
  · exact h.date
  · exact h.bare _ _ _ (by simp [bareConverters])
  · exact h.throwable
  · exact h.context
  · exact h.bare _ _ _ (by simp [bareConverters])
  · exact h.bare _ _ _ (by simp [bareConverters])
  · exact h.bare _ _ _ (by simp [bareConverters])
  · exact h.bare _ _ _ (by simp [bareConverters])
  · exact h.processId
  · exact h.style
  · exact h.highlight
  · exact h.notEmpty
  · exact h.maxLength
  · exact h.replace
  · rcases hplugin with rfl | rfl | rfl | rfl | rfl | rfl | rfl | rfl <;> exact h.namedStyle _ _

/-! ## What is compiled -/

/-- With these options, the factory of the plugin compiles the first as a
pattern. -/
inductive Compiles (config : Config) : Plugin → List Text → Text → Prop where
  | style (inner names : Text) (rest : List Text) :
      Compiles config style (inner :: names :: rest) inner
  | namedStyle (name key : String) (inner : Text) (rest : List Text) :
      Compiles config (namedStyle name key) (inner :: rest) inner
  | highlight (inner : Text) (rest : List Text) : Compiles config highlight (inner :: rest) inner
  | notEmpty (inner : Text) (rest : List Text) : Compiles config notEmpty (inner :: rest) inner
  | maxLength (inner : Text) (rest : List Text) : Compiles config maxLength (inner :: rest) inner
  /-- The expression is read before the pattern. -/
  | replace (inner expression replacement : Text) (rest : List Text)
      (h : ∃ regex, Regex.read expression config.host = .ok regex) :
      Compiles config replace (inner :: expression :: replacement :: rest) inner

theorem mem_of_compiles {config : Config} {plugin : Plugin} {options : List Text} {inner : Text}
    (h : Compiles config plugin options inner) : inner ∈ options := by
  cases h <;> exact List.mem_cons_self

/-! ## Making a converter -/

theorem ofExcept_ne_broken (x : Except Error Converter) :
    Creation.ofExcept x ≠ .brokenCharacter := by
  cases x <;> exact nofun

theorem ofFaults_eq_broken_iff {x : Except Fault Converter} :
    Creation.ofFaults x = .brokenCharacter ↔ x = .error .brokenCharacter := by
  unfold Creation.ofFaults
  split
  · simp
  · simp
  · simp

theorem after_eq_broken_iff {earlier : List Report} {creation : Creation} :
    creation.after earlier = .brokenCharacter ↔ creation = .brokenCharacter := by
  cases creation <;> simp [Creation.after]

/-- Where nothing is cut after the pattern, the pattern is. -/
theorem eq_broken_of_ofPattern {compilation : Compilation} {next : Pattern → Creation}
    (h : Creation.ofPattern compilation next = .brokenCharacter)
    (hnext : ∀ pattern, next pattern ≠ .brokenCharacter) : compilation = .brokenCharacter := by
  cases compilation with
  | done pattern reports => exact absurd (after_eq_broken_iff.1 h) (hnext pattern)
  | brokenCharacter => rfl

/-- The two ways in which options make a plugin cut a text inside a character. -/
inductive Breaks (rules : Rules) (config : Config) : Plugin → List Text → Prop where
  | zone {options : List Text} (h : DateClock.CutsOffset options) : Breaks rules config date options
  | inner {plugin : Plugin} {options : List Text} {inner : Text}
      (hinner : Compiles config plugin options inner)
      (h : compile rules config inner = .brokenCharacter) : Breaks rules config plugin options

/-! ## From a cut to the options -/

section

variable {rules : Rules} {config : Config} {options : List Text}

theorem date_create (options : List Argument) :
    date.create config options =
      .ofFaults ((DateClock.ofOptions config.host (options.map Argument.text)).map .date) := rfl

theorem map_text_argumentsOf : (argumentsOf rules config options).map Argument.text = options :=
  map_text_argumentsBy (compile rules config) options

theorem breaks_of_date
    (h : date.create config (argumentsOf rules config options) = .brokenCharacter) :
    Breaks rules config date options := by
  rw [date_create, map_text_argumentsOf, ofFaults_eq_broken_iff, map_eq_error_iff] at h
  exact .zone (DateClock.ofOptions_eq_broken_iff.1 h)

theorem breaks_of_style
    (h : style.create config (argumentsOf rules config options) = .brokenCharacter) :
    Breaks rules config style options := by
  rcases options with _ | ⟨inner, _ | ⟨names, rest⟩⟩
  · cases h
  · cases h
  · exact .inner (.style inner names rest) (eq_broken_of_ofPattern h fun _ => nofun)

/-- A plugin that compiles its first option whatever follows it. -/
theorem breaks_of_withPattern {plugin : Plugin} {next : Pattern → Creation}
    (h : withPattern (argumentsOf rules config options) next = .brokenCharacter)
    (hnext : ∀ pattern, next pattern ≠ .brokenCharacter)
    (hinner : ∀ inner rest, Compiles config plugin (inner :: rest) inner) :
    Breaks rules config plugin options := by
  cases options with
  | nil => cases h
  | cons inner rest => exact .inner (hinner inner rest) (eq_broken_of_ofPattern h hnext)

theorem breaks_of_maxLength
    (h : maxLength.create config (argumentsOf rules config options) = .brokenCharacter) :
    Breaks rules config maxLength options := by
  refine breaks_of_withPattern h ?_ .maxLength
  intro pattern
  split
  · exact nofun
  · exact ofExcept_ne_broken _

theorem breaks_of_replace
    (h : replace.create config (argumentsOf rules config options) = .brokenCharacter) :
    Breaks rules config replace options := by
  rcases options with _ | ⟨inner, _ | ⟨expression, _ | ⟨replacement, rest⟩⟩⟩
  · cases h
  · cases h
  · cases h
  · simp only [replace, plugin, argumentsOf, List.map_cons] at h
    split at h
    · cases h
    · rename_i regex hregex
      exact .inner (.replace inner expression replacement rest ⟨regex, hregex⟩)
        (eq_broken_of_ofPattern h fun _ => nofun)

/-- A factory that compiles nothing and reads no zone cuts nothing. -/
def CutsNothing (plugin : Plugin) : Prop :=
  ∀ config options, plugin.create config options ≠ .brokenCharacter

theorem cutsNothing_plain (name : String) (keys : List String) (converter : Config → Converter) :
    CutsNothing (plain name keys converter) :=
  fun _ _ => nofun

theorem cutsNothing_message : CutsNothing message := fun _ _ => nofun

theorem cutsNothing_level : CutsNothing level := by
  intro config options h
  simp only [level, plugin] at h
  split at h
  · cases h
  · split at h <;> cases h

theorem cutsNothing_logger : CutsNothing logger := by
  intro config options h
  simp only [logger, plugin] at h
  split at h
  · cases h
  · exact ofExcept_ne_broken _ h

theorem cutsNothing_throwable : CutsNothing throwable :=
  fun _ _ => ofExcept_ne_broken _

theorem cutsNothing_context : CutsNothing context := by
  intro config options h
  simp only [context, plugin] at h
  split at h <;> cases h

theorem CutsNothing.breaks {plugin : Plugin} (hplugin : CutsNothing plugin)
    (h : plugin.create config (argumentsOf rules config options) = .brokenCharacter) :
    Breaks rules config plugin options :=
  absurd h (hplugin config _)

theorem breaks_of_create {plugin : Plugin} (hplugin : plugin ∈ registry)
    (h : plugin.create config (argumentsOf rules config options) = .brokenCharacter) :
    Breaks rules config plugin options := by
  have heach : EachKind fun plugin =>
      plugin.create config (argumentsOf rules config options) = .brokenCharacter →
        Breaks rules config plugin options :=
    { message := cutsNothing_message.breaks
      level := cutsNothing_level.breaks
      logger := cutsNothing_logger.breaks
      date := breaks_of_date
      throwable := cutsNothing_throwable.breaks
      context := cutsNothing_context.breaks
      processId := (cutsNothing_plain _ _ _).breaks
      bare := fun name keys converter _ => (cutsNothing_plain name keys _).breaks
      style := breaks_of_style
      namedStyle := fun name key h =>
        breaks_of_withPattern h (fun _ => nofun) (.namedStyle name key)
      highlight := fun h => breaks_of_withPattern h (fun _ => nofun) .highlight
      notEmpty := fun h => breaks_of_withPattern h (fun _ => nofun) .notEmpty
      maxLength := breaks_of_maxLength
      replace := breaks_of_replace }
  exact heach.of_mem hplugin h

/-! ## From the options to a cut -/

/-- A factory that compiles an inner pattern goes on with what that gives. -/
theorem exists_create_eq_ofPattern {plugin : Plugin} {inner : Text}
    (h : Compiles config plugin options inner) :
    ∃ next, plugin.create config (argumentsOf rules config options) =
      .ofPattern (compile rules config inner) next := by
  cases h with
  | style => exact ⟨_, rfl⟩
  | namedStyle => exact ⟨_, rfl⟩
  | highlight => exact ⟨_, rfl⟩
  | notEmpty => exact ⟨_, rfl⟩
  | maxLength => exact ⟨_, rfl⟩
  | replace _ expression replacement rest hread =>
    obtain ⟨regex, hregex⟩ := hread
    refine ⟨fun pattern => .made (.wrapped (.replace regex replacement) pattern) [], ?_⟩
    simp only [Builtin.replace, Builtin.plugin, argumentsOf, List.map_cons, hregex]
    rfl

theorem create_of_breaks {plugin : Plugin} (h : Breaks rules config plugin options) :
    plugin.create config (argumentsOf rules config options) = .brokenCharacter := by
  cases h with
  | zone hzone =>
    rw [date_create, map_text_argumentsOf, DateClock.ofOptions_eq_broken_iff.2 hzone]
    rfl
  | inner hinner hbroken =>
    obtain ⟨next, hcreate⟩ := exists_create_eq_ofPattern hinner
    rw [hcreate, hbroken]
    rfl

/-- A built-in factory cuts a text inside a character in exactly two ways. -/
theorem create_eq_broken_iff {plugin : Plugin} (hplugin : plugin ∈ registry) :
    plugin.create config (argumentsOf rules config options) = .brokenCharacter ↔
      Breaks rules config plugin options :=
  ⟨breaks_of_create hplugin, create_of_breaks⟩

end

end Builtin

end LogLine
