/-
  Proofs/Pattern/PlainOutput.lean --- without styles no escape character is
  written.

  The switch for escape sequences is read where a converter is made, by each of
  them for itself, and the options of a highlight can only switch it off.  So
  what a factory makes from options without an escape character is confined, one
  level of inner patterns after the other:

      Builtin.confines_of_mem_registry   what a factory makes
      confined_of_compile                compiled patterns
      escapeFree_of_ansi_disabled        what they write
-/
import LogLine.Proofs.Pattern.Confined
import LogLine.Proofs.Pattern.InnerPatterns
import LogLine.Proofs.Pattern.Places

set_option autoImplicit false

namespace LogLine

open Text (EscapeFree)

/-- Settings that bring in no escape character. -/
structure Config.EscapeFree (config : Config) : Prop where
  /-- The values of variables hold none. -/
  values : ∀ name value, config.find? name = some value → Text.EscapeFree value
  /-- The process identifier is a number. -/
  processId : ∃ n, config.host.processId = Text.ofNat n
  /-- The names of the times of zones hold none. -/
  zones : config.host.zones.NamesEscapeFree
  /-- Replacing matches puts in what the text and the replacement hold. -/
  replaces : config.host.ReplacesWithin

/-- Settings without a source of variables bring in none, at the zones and the
expressions of this library. -/
theorem Config.escapeFree_of_no_lookups {config : Config} (h : config.hasLookups = false) {n : Nat}
    (hid : config.host.processId = Text.ofNat n) (hzones : config.host.zones = Region.database)
    (hregexes : config.host.compileRegex = Regex.compile) : config.EscapeFree := by
  have hnames : config.host.zones.NamesEscapeFree := hzones ▸ Region.namesEscapeFree_database
  refine ⟨fun name value hvalue => ?_, ⟨n, hid⟩, hnames,
    Host.replacesWithin_of_compileRegex hregexes⟩
  simp only [Config.hasLookups, Lookups.isActive, Bool.or_eq_false_iff, Bool.not_eq_false',
    List.isEmpty_iff, Option.isSome_eq_false_iff, Option.isNone_iff_eq_none] at h
  simp only [Config.find?, Lookups.find?, h.1, h.2] at hvalue
  split at hvalue <;> cases hvalue

/-! ## Highlights -/

namespace Style.Highlight

theorem ansi_of_applyOption {host : Host} {state : Highlight × List Error} {pair : Text × Text}
    (h : (applyOption host state pair).1.ansi = true) : state.1.ansi = true := by
  unfold applyOption at h
  simp only at h
  split at h
  · exact h
  split at h
  · exact (Bool.and_eq_true_iff.1 h).1
  split at h
  · exact (Bool.and_eq_true_iff.1 h).1
  split at h
  · exact h
  · exact h

theorem ansi_of_foldl {host : Host} {state : Highlight × List Error} {pairs : List (Text × Text)}
    (h : (pairs.foldl (applyOption host) state).1.ansi = true) : state.1.ansi = true := by
  induction pairs generalizing state with
  | nil => exact h
  | cons pair rest ih => exact ansi_of_applyOption (ih h)

/-- Options switch escape sequences off but never on. -/
theorem ansi_of_read {config : Config} {option : Option Text}
    (h : (read config option).1.ansi = true) : config.isAnsiEnabled = true :=
  ansi_of_foldl h

end Style.Highlight

/-! ## Factories -/

/-- A compiled pattern, if there is one, is confined. -/
def Compilation.Confined (ansi : Bool) : Compilation → Prop
  | .done pattern _ => pattern.Confined ansi
  | .brokenCharacter => True

/-- An option that holds no escape character, as a text and as a pattern. -/
structure Argument.Confined (ansi : Bool) (argument : Argument) : Prop where
  text : Text.EscapeFree argument.text
  asPattern : argument.asPattern.get.Confined ansi

/-- A converter, if there is one, is confined. -/
def Creation.Confined (ansi : Bool) : Creation → Prop
  | .made converter _ => ∀ width, Field.Confined ansi ⟨converter, width⟩
  | .refused _ _ | .brokenCharacter => True

/-- From confined options, the factory makes confined converters. -/
def Plugin.Confines (plugin : Plugin) : Prop :=
  ∀ config arguments, config.EscapeFree →
    (∀ argument ∈ arguments, Argument.Confined config.isAnsiEnabled argument) →
    (plugin.create config arguments).Confined config.isAnsiEnabled

namespace Creation

variable {ansi : Bool}

theorem confined_made {converter : Converter} (h : converter.Confined ansi)
    (reports : List Report) : (made converter reports).Confined ansi :=
  fun _ => .plain h

theorem confined_wrapped {wrapper : Wrapper} (hwrapper : wrapper.Confined ansi)
    {pattern : Pattern} (h : pattern.Confined ansi) (reports : List Report) :
    (made (.wrapped wrapper pattern) reports).Confined ansi :=
  fun _ => .wrapped hwrapper h

theorem confined_ofExcept {α : Type} {x : Except Error α} {f : α → Converter}
    (h : ∀ a, x = .ok a → ∀ width, Field.Confined ansi ⟨f a, width⟩) :
    (ofExcept (x.map f)).Confined ansi := by
  cases x with
  | error error => exact trivial
  | ok a => exact h a rfl

/-- What goes on with a confined pattern. -/
theorem confined_ofPattern {compilation : Compilation} (h : compilation.Confined ansi)
    {next : Pattern → Creation}
    (hnext : ∀ pattern, Pattern.Confined ansi pattern → (next pattern).Confined ansi) :
    (ofPattern compilation next).Confined ansi := by
  cases compilation with
  | brokenCharacter => exact trivial
  | done pattern reports =>
    have hmade := hnext pattern h
    simp only [ofPattern]
    cases hcreation : next pattern with
    | made converter later =>
      rw [hcreation] at hmade
      exact hmade
    | refused | brokenCharacter => exact trivial

end Creation

namespace Builtin

theorem confines_message : message.Confines := by
  intro config arguments _ _
  refine Creation.confined_made ?_ []
  intro depth hmarkup
  unfold markupOf at hmarkup
  split at hmarkup
  · split at hmarkup
    · rename_i hansi
      exact hansi
    · cases hmarkup
  · cases hmarkup

theorem confines_level : level.Confines := by
  intro config arguments _ harguments
  simp only [level, plugin]
  split
  · refine Creation.confined_made ?_ []
    exact fun _ hgiven => absurd hgiven (Option.not_mem_none _)
  · rename_i option rest
    split
    · rename_i labels reports hread
      refine Creation.confined_made ?_ _
      intro given hgiven
      obtain rfl := Option.some.inj hgiven
      have htext := (harguments option List.mem_cons_self).text
      exact LevelLabels.escapeFree_of_read htext (congrArg Prod.fst hread)
    · exact trivial

theorem confines_logger : logger.Confines := by
  intro config arguments _ harguments
  simp only [logger, plugin]
  split
  · refine Creation.confined_made ?_ []
    exact trivial
  · rename_i option rest
    refine Creation.confined_ofExcept fun abbreviation hread width => .plain ?_
    exact NameAbbreviation.escapeFree_of_read (harguments option List.mem_cons_self).text hread

theorem escapeFree_texts {ansi : Bool} {arguments : List Argument}
    (h : ∀ argument ∈ arguments, Argument.Confined ansi argument) :
    ∀ text ∈ arguments.map Argument.text, EscapeFree text := by
  intro text htext
  obtain ⟨argument, hargument, rfl⟩ := List.mem_map.1 htext
  exact (h argument hargument).text

theorem confines_date : date.Confines := by
  intro config arguments hconfig harguments
  rw [date_create]
  cases hread : DateClock.ofOptions config.host (arguments.map Argument.text) with
  | error fault => cases fault <;> exact trivial
  | ok clock =>
    refine Creation.confined_made ?_ []
    exact DateClock.escapeFree_of_ofOptions hconfig.zones (escapeFree_texts harguments) hread

theorem confines_throwable : throwable.Confines := by
  intro config arguments _ harguments
  refine Creation.confined_ofExcept fun style hread width => .plain ?_
  exact ThrownText.escapeFree_of_read (escapeFree_texts harguments) hread

theorem confines_context : context.Confines := by
  intro config arguments _ _
  simp only [context, plugin]
  split
  · refine Creation.confined_made ?_ []
    exact trivial
  · refine Creation.confined_made ?_ []
    exact trivial

theorem confines_plain {name : String} {keys : List String} {converter : Config → Converter}
    (h : ∀ config, config.EscapeFree → (converter config).Confined config.isAnsiEnabled) :
    (plain name keys converter).Confines :=
  fun config _ hconfig _ => Creation.confined_made (h config hconfig) []

theorem confines_processId : processId.Confines := by
  refine confines_plain fun config hconfig => ?_
  obtain ⟨n, hn⟩ := hconfig.processId
  show EscapeFree config.host.processId
  rw [hn]
  exact EscapeFree.ofNat n

/-! ## Factories with an inner pattern -/

theorem confined_withPattern {ansi : Bool} {arguments : List Argument}
    (h : ∀ argument ∈ arguments, Argument.Confined ansi argument) {next : Pattern → Creation}
    (hnext : ∀ pattern, Pattern.Confined ansi pattern → (next pattern).Confined ansi) :
    (withPattern arguments next).Confined ansi := by
  cases arguments with
  | nil => exact trivial
  | cons option rest =>
    exact Creation.confined_ofPattern (h option List.mem_cons_self).asPattern hnext

theorem confined_styled (config : Config) (name names : Text) {pattern : Pattern}
    (h : pattern.Confined config.isAnsiEnabled) :
    (styled config name names pattern).Confined config.isAnsiEnabled := by
  refine Creation.confined_wrapped ?_ h []
  exact fun hon => ⟨hon, Style.isSequence_sequence _ names⟩

theorem confines_style : style.Confines := by
  intro config arguments _ harguments
  simp only [style, plugin]
  split
  · exact Creation.confined_ofPattern (harguments _ List.mem_cons_self).asPattern
      fun _ => confined_styled config _ _
  · exact trivial

theorem confines_namedStyle (name key : String) : (namedStyle name key).Confines :=
  fun config _ _ harguments =>
    confined_withPattern harguments fun _ => confined_styled config _ _

theorem confines_highlight : highlight.Confines := by
  intro config arguments _ harguments
  refine confined_withPattern harguments fun pattern h => ?_
  refine Creation.confined_wrapped ?_ h _
  intro hon
  exact ⟨Style.Highlight.ansi_of_read hon, fun _ => Style.isSequence_sequence _ _⟩

theorem confines_notEmpty : notEmpty.Confines := by
  intro config arguments _ harguments
  refine confined_withPattern harguments fun pattern h => ?_
  refine Creation.confined_wrapped ?_ h []
  exact trivial

theorem confines_maxLength : maxLength.Confines := by
  intro config arguments _ harguments
  refine confined_withPattern harguments fun pattern h => ?_
  split
  · exact trivial
  · exact Creation.confined_ofExcept fun _ _ _ => .wrapped trivial h

theorem confines_replace : replace.Confines := by
  intro config arguments hconfig harguments
  simp only [replace, plugin]
  split
  · rename_i option expression replacement rest
    split
    · exact trivial
    · rename_i regex hregex
      have hreplaces := hconfig.replaces _ _ (Regex.compileRegex_of_read hregex)
      have hreplacement : replacement ∈ option :: expression :: replacement :: rest := by simp
      refine Creation.confined_ofPattern (harguments option List.mem_cons_self).asPattern ?_
      intro pattern h
      refine Creation.confined_wrapped ?_ h []
      exact ⟨hreplaces, (harguments replacement hreplacement).text⟩
  · exact trivial

theorem confines_bare (name : String) (keys : List String) {converter : Converter}
    (h : converter ∈ bareConverters) : (plain name keys fun _ => converter).Confines := by
  refine confines_plain fun config _ => ?_
  simp only [bareConverters, List.mem_cons, List.not_mem_nil, or_false] at h
  rcases h with rfl | rfl | rfl | rfl | rfl | rfl <;> exact trivial

theorem confines_of_mem_registry {plugin : Plugin} (h : plugin ∈ registry) : plugin.Confines := by
  have heach : EachKind Plugin.Confines :=
    { message := confines_message
      level := confines_level
      logger := confines_logger
      date := confines_date
      throwable := confines_throwable
      context := confines_context
      processId := confines_processId
      bare := fun name keys _ => confines_bare name keys
      style := confines_style
      namedStyle := confines_namedStyle
      highlight := confines_highlight
      notEmpty := confines_notEmpty
      maxLength := confines_maxLength
      replace := confines_replace }
  exact heach.of_mem h

end Builtin

namespace Pattern

/-! ## Pieces -/

section

variable {pattern : Text} (hpattern : EscapeFree pattern)

include hpattern

theorem escapeFree_source {piece : Piece} (h : piece ∈ scan pattern) : EscapeFree piece.source := by
  refine hpattern.of_subset fun c hc => ?_
  rw [← scan_source pattern]
  exact List.mem_flatMap.2 ⟨piece, h, hc⟩

/-- The key and the options of a specifier are parts of it. -/
theorem escapeFree_specifier {spec : Specifier} (h : .specifier spec ∈ scan pattern)
    (hkey : spec.key ≠ []) :
    EscapeFree spec.key ∧ ∀ option ∈ spec.options, EscapeFree option := by
  obtain ⟨place, t, rest, hread⟩ := exists_attempt_of_mem_scan h
  obtain ⟨form, skipped, -, -, -, rfl⟩ := exists_form hread hkey
  have hraw := escapeFree_source hpattern h
  simp only [Piece.source, SpecifierForm.toSpecifier, SpecifierForm.body, Text.escapeFree_cons,
    Text.escapeFree_append] at hraw
  obtain ⟨-, ⟨-, -, -, hkey, hoptions⟩, -⟩ := hraw
  refine ⟨hkey, fun option hoption => hoptions.of_subset fun c hc => ?_⟩
  refine List.mem_flatMap.2 ⟨option, hoption, ?_⟩
  exact List.mem_cons_of_mem _ (List.mem_append_left _ hc)

end

/-! ## Resolved pieces -/

/-- Resolved pieces without an escape character of their own. -/
def Resolved.Confined (ansi : Bool) : Resolved → Prop
  | .text gathered | .restart gathered => EscapeFree gathered
  | .field made leftover => made.Confined ansi ∧ EscapeFree leftover

section

variable {config : Config} (hconfig : config.EscapeFree)

include hconfig

theorem confined_literalField {text : Text} (h : EscapeFree text) :
    (literalField config text).Confined config.isAnsiEnabled :=
  .plain (Literal.escapeFree_ofConfig hconfig.values h)

theorem confined_flush {gathered : Text} (h : EscapeFree gathered) :
    Confined config.isAnsiEnabled (flush config gathered) := by
  unfold flush
  split
  · exact fun field hfield => absurd hfield List.not_mem_nil
  · intro field hfield
    obtain rfl := List.mem_singleton.1 hfield
    exact confined_literalField hconfig h

theorem confined_gather {parts : List Resolved}
    (h : ∀ part ∈ parts, part.Confined config.isAnsiEnabled) :
    EscapeFree (gather config parts).1 ∧
      Confined config.isAnsiEnabled (gather config parts).2 := by
  induction parts with
  | nil => exact ⟨Text.escapeFree_nil, fun field hfield => absurd hfield List.not_mem_nil⟩
  | cons part rest ih =>
    rw [List.forall_mem_cons] at h
    obtain ⟨hgathered, hfields⟩ := ih h.2
    cases part with
    | text text => exact ⟨Text.escapeFree_append.2 ⟨h.1, hgathered⟩, hfields⟩
    | restart text =>
      have hflush := confined_flush hconfig (Text.escapeFree_append.2 ⟨h.1, hgathered⟩)
      exact ⟨Text.escapeFree_nil, List.forall_mem_append.2 ⟨hflush, hfields⟩⟩
    | field field leftover =>
      have hflush := confined_flush hconfig (Text.escapeFree_append.2 ⟨h.1.2, hgathered⟩)
      exact ⟨Text.escapeFree_nil,
        List.forall_mem_cons.2 ⟨h.1.1, List.forall_mem_append.2 ⟨hflush, hfields⟩⟩⟩

theorem confined_assemble {parts : List Resolved}
    (h : ∀ part ∈ parts, part.Confined config.isAnsiEnabled) :
    Confined config.isAnsiEnabled (assemble config parts) := by
  obtain ⟨hgathered, hfields⟩ := confined_gather hconfig h
  exact List.forall_mem_append.2 ⟨confined_flush hconfig hgathered, hfields⟩

/-- A specifier is resolved to a confined field if its options are. -/
theorem confined_resolveSpecifier {spec : Specifier} {arguments : List Argument}
    (hraw : EscapeFree spec.raw) (hkey : spec.key ≠ [] → EscapeFree spec.key)
    (harguments : spec.key ≠ [] →
      ∀ argument ∈ arguments, Argument.Confined config.isAnsiEnabled argument)
    {part : Resolved} {reports : List Report}
    (h : resolveSpecifier Builtin.rules config spec arguments = some (part, reports)) :
    part.Confined config.isAnsiEnabled := by
  cases resolveSpecifier_eq_iff.1 h with
  | made _ hlongest hcreate =>
    have hplugin := Rules.mem_registry_of_find? hlongest.known
    have hcreated := Builtin.confines_of_mem_registry hplugin config arguments hconfig
      (harguments hlongest.key_ne_nil)
    rw [hcreate] at hcreated
    have hkeyFree := hkey hlongest.key_ne_nil
    rw [hlongest.split, Text.escapeFree_append] at hkeyFree
    exact ⟨hcreated spec.width, hkeyFree.2⟩
  | failed => exact ⟨confined_literalField hconfig hraw, Text.escapeFree_nil⟩

/-- Compiled patterns are confined. -/
theorem confined_of_compile {pattern : Text} (hpattern : EscapeFree pattern) :
    (compile Builtin.rules config pattern).Confined config.isAnsiEnabled := by
  -- An option is shorter than the pattern around it.
  induction hn : pattern.length using Nat.strong_induction_on generalizing pattern with
  | _ n ih =>
    cases hcompile : compile Builtin.rules config pattern with
    | brokenCharacter => exact trivial
    | done fields reports =>
      obtain ⟨parts, hparts, rfl, -⟩ := compile_eq_done_iff.1 hcompile
      refine confined_assemble hconfig fun part hpart => ?_
      obtain ⟨⟨part, reports⟩, hmem, rfl⟩ := List.mem_map.1 hpart
      have hresolved : some (part, reports) ∈ parts.map some := List.mem_map_of_mem hmem
      rw [← hparts] at hresolved
      obtain ⟨piece, hpiece, hresolve⟩ := List.mem_map.1 hresolved
      have hsource := escapeFree_source hpattern hpiece
      cases piece with
      | specifier spec =>
        have hoptions := escapeFree_specifier hpattern hpiece
        refine confined_resolveSpecifier hconfig hsource (fun hkey => (hoptions hkey).1) ?_ hresolve
        intro hkey argument hargument
        obtain ⟨option, hoption, rfl⟩ := List.mem_map.1 hargument
        have hshorter := length_lt_of_mem_scan hpiece hoption
        have hfree := (hoptions hkey).2 option hoption
        exact ⟨hfree, ih _ (hn ▸ hshorter) hfree rfl⟩
      | literal c =>
        obtain ⟨rfl, -⟩ := Prod.mk.inj (Option.some.inj hresolve)
        exact hsource
      | percent =>
        obtain ⟨rfl, -⟩ := Prod.mk.inj (Option.some.inj hresolve)
        exact (Text.escapeFree_cons.1 hsource).2
      | malformedDot raw position found =>
        obtain ⟨rfl, -⟩ := Prod.mk.inj (Option.some.inj hresolve)
        exact hsource
      | unfinished raw =>
        obtain ⟨rfl, -⟩ := Prod.mk.inj (Option.some.inj hresolve)
        exact hsource

end

/-! ## Records -/

/-- Where escape sequences are switched off, a pattern without an escape
character writes none: each record that holds none adds plain text to the
buffer, whatever the records before it hold, and also where writing it fails.
The names of zones hold none, and expressions put in what their texts hold. -/
theorem escapeFree_of_ansi_disabled {config : Config} (hansi : config.isAnsiEnabled = false)
    (hconfig : config.EscapeFree) {pattern : Text} (hpattern : EscapeFree pattern)
    {fields : Pattern} {reports : List Report}
    (hdone : compile Builtin.rules config pattern = .done fields reports) (buffer : Text)
    (scenes : List Scene) :
    List.Forall₂
      (fun scene written => scene.EscapeFree →
        ∃ text, written.buffer = buffer ++ text ∧ EscapeFree text)
      scenes (fields.writeEach buffer scenes) := by
  have hconfined := confined_of_compile hconfig hpattern
  rw [hdone, hansi] at hconfined
  exact addsPlain_of_writeEach hconfined buffer scenes

/-- Whether a pattern was compiled that passes a test. -/
def isDoneWith (test : Pattern → Bool) : Compilation → Bool
  | .done pattern _ => test pattern
  | .brokenCharacter => false

theorem exists_of_isDoneWith {test : Pattern → Bool} {compilation : Compilation}
    (h : isDoneWith test compilation = true) :
    ∃ fields reports, compilation = .done fields reports ∧ test fields = true := by
  cases compilation with
  | done fields reports => exact ⟨fields, reports, rfl, h⟩
  | brokenCharacter => cases h

/-- Styles in styles around a message with markup, a replacement, a date in a region
and a process identifier. -/
def nestedStyles : Text :=
  "%style\x7b%highlight\x7b%-8.12m\x7bansi\x7d\x7d\x7bERROR=blue\x7d\x7d".toList ++
    "\x7bbold red\x7d %replace\x7b%m\x7d\x7b(l+)o\x7d\x7b<$1>\x7d ".toList ++
    "%d\x7bHH:mm z\x7d\x7bEurope/Paris\x7d %pid".toList

/-- Settings with escape sequences switched off. -/
def quietConfig : Config := { disableAnsi := true, host := { processId := ['7'] } }

/-- A message with markup. -/
def markedScene : Scene := { record := { payload := "@|green hello|@ world".toList } }

theorem escapeFree_markedScene : markedScene.EscapeFree :=
  ⟨⟨by decide, nofun, nofun, nofun, by decide, nofun, nofun⟩, nofun⟩

theorem escapeFree_nestedStyles :
    ∃ fields reports, compile Builtin.rules quietConfig nestedStyles = .done fields reports ∧
      quietConfig.isAnsiEnabled = false ∧ quietConfig.EscapeFree ∧ EscapeFree nestedStyles ∧
      markedScene.EscapeFree ∧ EscapeFree (fields.write markedScene []).buffer ∧
      (fields.write markedScene []).buffer =
        "hello world @|green he<ll>|@ world 01:00 CET 7".toList := by
  have hansi : quietConfig.isAnsiEnabled = false := rfl
  have hconfig : quietConfig.EscapeFree :=
    @Config.escapeFree_of_no_lookups quietConfig rfl 7 rfl rfl rfl
  have hpattern : EscapeFree nestedStyles := by decide
  have hscene := escapeFree_markedScene
  have hdone : isDoneWith (fun fields => (fields.write markedScene []).buffer ==
      "hello world @|green he<ll>|@ world 01:00 CET 7".toList)
      (compile Builtin.rules quietConfig nestedStyles) = true := by decide +kernel
  obtain ⟨fields, reports, hcompile, htext⟩ := exists_of_isDoneWith hdone
  refine ⟨fields, reports, hcompile, hansi, hconfig, hpattern, hscene, ?_, eq_of_beq htext⟩
  cases escapeFree_of_ansi_disabled hansi hconfig hpattern hcompile [] [markedScene] with
  | cons h _ =>
    obtain ⟨text, htext, hfree⟩ := h hscene
    rw [htext]
    exact hfree

end Pattern

end LogLine
