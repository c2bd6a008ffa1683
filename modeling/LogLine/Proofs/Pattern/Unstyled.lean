/-
  Proofs/Pattern/Unstyled.lean --- a pattern with its styles taken out.

  Taking the styles out of a compiled pattern leaves every converter in its
  place: markup is left out of messages, and styles and highlights write their
  inner pattern as it is.  A factory reads the switch for escape sequences for
  nothing else.  So compiling with escape sequences switched off gives the same
  pattern less its styles, and reports the same:

      Builtin.unstyles_of_mem_registry   factories
      compile_disabled                   compiling
-/
import LogLine.Proofs.Pattern.InnerPatterns

set_option autoImplicit false

namespace LogLine

/-! ## Taking styles out -/

/-- The wrapper without its style. -/
def Wrapper.unstyled : Wrapper → Wrapper
  | .style name sequence _ => .style name sequence false
  | .highlight sequences _ => .highlight sequences false
  | wrapper => wrapper

mutual

/-- The converter without its styles and those inside it. -/
def Converter.unstyled : Converter → Converter
  | .message (.rendered _) => .message .stripped
  | .wrapped wrapper fields => .wrapped wrapper.unstyled (Field.unstyledAll fields)
  | converter => converter

/-- The field without its styles. -/
def Field.unstyled : Field → Field
  | .mk converter width => ⟨converter.unstyled, width⟩

/-- The fields without their styles. -/
def Field.unstyledAll : List Field → List Field
  | [] => []
  | field :: rest => field.unstyled :: Field.unstyledAll rest

end

namespace Pattern

/-- The pattern without its styles. -/
def unstyled (pattern : Pattern) : Pattern := Field.unstyledAll pattern

@[simp] theorem unstyled_cons (field : Field) (rest : Pattern) :
    unstyled (field :: rest) = field.unstyled :: unstyled rest := rfl

@[simp] theorem unstyled_append (a b : Pattern) :
    unstyled (a ++ b) = unstyled a ++ unstyled b := by
  induction a with
  | nil => rfl
  | cons field rest ih => rw [List.cons_append, unstyled_cons, ih, unstyled_cons, List.cons_append]

end Pattern

/-- The compiled pattern without its styles. -/
def Compilation.unstyled : Compilation → Compilation
  | .done pattern reports => .done pattern.unstyled reports
  | .brokenCharacter => .brokenCharacter

/-- The converter that was made, without its styles. -/
def Creation.unstyled : Creation → Creation
  | .made converter reports => .made converter.unstyled reports
  | .refused error reports => .refused error reports
  | .brokenCharacter => .brokenCharacter

/-- The option with the styles taken out of the pattern that it is. -/
def Argument.unstyled (argument : Argument) : Argument :=
  { text := argument.text, asPattern := Thunk.mk fun _ => argument.asPattern.get.unstyled }

/-- The settings with escape sequences switched off. -/
def Config.disabled (config : Config) : Config := { config with disableAnsi := true }

/-! ## Factories -/

/-- With escape sequences switched off, the factory makes the same converters
without their styles. -/
def Plugin.Unstyles (plugin : Plugin) : Prop :=
  ∀ config arguments,
    plugin.create config.disabled (arguments.map Argument.unstyled) =
      (plugin.create config arguments).unstyled

namespace Creation

theorem unstyled_after (earlier : List Report) (creation : Creation) :
    (creation.after earlier).unstyled = creation.unstyled.after earlier := by
  cases creation <;> rfl

theorem unstyled_ofPattern {compilation : Compilation} {next next' : Pattern → Creation}
    (h : ∀ pattern, next' pattern.unstyled = (next pattern).unstyled) :
    ofPattern compilation.unstyled next' = (ofPattern compilation next).unstyled := by
  cases compilation with
  | brokenCharacter => rfl
  | done pattern reports =>
    simp only [Compilation.unstyled, ofPattern, unstyled_after, h]

end Creation

namespace Style.Highlight

/-- A highlight with escape sequences switched off, and what is reported. -/
def disabled (state : Highlight × List Error) : Highlight × List Error :=
  ({ state.1 with ansi := false }, state.2)

theorem applyOption_disabled (host : Host) (state : Highlight × List Error) (pair : Text × Text) :
    applyOption host (disabled state) pair = disabled (applyOption host state pair) := by
  unfold applyOption disabled
  simp only [Bool.false_and]
  split
  · rfl
  split
  · rfl
  split
  · rfl
  split <;> rfl

theorem foldl_disabled (host : Host) (state : Highlight × List Error)
    (pairs : List (Text × Text)) :
    pairs.foldl (applyOption host) (disabled state) =
      disabled (pairs.foldl (applyOption host) state) := by
  induction pairs generalizing state with
  | nil => rfl
  | cons pair rest ih => rw [List.foldl_cons, List.foldl_cons, applyOption_disabled, ih]

/-- A highlight with its reports put after earlier ones. -/
def reported (earlier : List Error) (state : Highlight × List Error) : Highlight × List Error :=
  (state.1, earlier ++ state.2)

/-- The switch changes neither the style names nor the reports. -/
theorem read_disabled (config : Config) (option : Option Text) :
    read config.disabled option = disabled (read config option) := by
  have hansi : config.disabled.isAnsiEnabled = false :=
    Config.isAnsiEnabled_eq_false_of_disableAnsi rfl
  have hhost : config.disabled.host = config.host := rfl
  have hgiven : ∀ (pairs : List (Text × Text)) (names : PerLevel Text) (earlier : List Error),
      reported earlier (pairs.foldl (applyOption config.host) (⟨names, false⟩, [])) =
        disabled (reported earlier
          (pairs.foldl (applyOption config.host) (⟨names, config.isAnsiEnabled⟩, []))) := by
    intro pairs names earlier
    have hfold := foldl_disabled config.host (⟨names, config.isAnsiEnabled⟩, []) pairs
    exact congrArg (reported earlier) hfold
  unfold read
  rw [hansi, hhost]
  cases option with
  | none => exact hgiven [] _ _
  | some list => exact hgiven (readPairs list).1 _ _

end Style.Highlight

namespace Builtin

theorem map_text_unstyled (arguments : List Argument) :
    (arguments.map Argument.unstyled).map Argument.text = arguments.map Argument.text := by
  rw [List.map_map]
  rfl

theorem unstyles_plain {name : String} {keys : List String} {converter : Config → Converter}
    (h : ∀ config, converter config.disabled = (converter config).unstyled) :
    (plain name keys converter).Unstyles :=
  fun config _ => congrArg (Creation.made · []) (h config)

theorem unstyles_message : message.Unstyles := by
  intro config arguments
  have hany : (arguments.map Argument.unstyled).any isMarkupOption =
      arguments.any isMarkupOption := by
    rw [List.any_map]
    rfl
  have hansi : config.disabled.isAnsiEnabled = false :=
    Config.isAnsiEnabled_eq_false_of_disableAnsi rfl
  simp only [message, plugin, markupOf, hany, hansi, Bool.false_eq_true, if_false]
  split
  · split <;> rfl
  · rfl

theorem unstyles_level : level.Unstyles := by
  intro config arguments
  cases arguments with
  | nil => rfl
  | cons option rest =>
    simp only [level, plugin, List.map_cons, Argument.unstyled]
    split <;> rfl

theorem unstyles_logger : logger.Unstyles := by
  intro config arguments
  cases arguments with
  | nil => rfl
  | cons option rest =>
    simp only [logger, plugin, List.map_cons, Argument.unstyled]
    cases NameAbbreviation.read option.text <;> rfl

theorem unstyles_date : date.Unstyles := by
  intro config arguments
  have hhost : config.disabled.host = config.host := rfl
  rw [date_create, date_create, map_text_unstyled, hhost]
  cases DateClock.ofOptions config.host (arguments.map Argument.text) with
  | error fault => cases fault <;> rfl
  | ok clock => rfl

theorem unstyles_throwable : throwable.Unstyles := by
  intro config arguments
  simp only [throwable, plugin, map_text_unstyled]
  cases ThrownText.read (arguments.map Argument.text) <;> rfl

theorem unstyles_context : context.Unstyles := by
  intro config arguments
  cases arguments <;> rfl

/-! ## Factories with an inner pattern -/

theorem withPattern_unstyled {arguments : List Argument} {next next' : Pattern → Creation}
    (h : ∀ pattern, next' pattern.unstyled = (next pattern).unstyled) :
    withPattern (arguments.map Argument.unstyled) next' =
      (withPattern arguments next).unstyled := by
  cases arguments with
  | nil => rfl
  | cons option rest => exact Creation.unstyled_ofPattern h

theorem styled_disabled (config : Config) (name names : Text) (pattern : Pattern) :
    styled config.disabled name names pattern.unstyled =
      (styled config name names pattern).unstyled := by
  have hansi : config.disabled.isAnsiEnabled = false :=
    Config.isAnsiEnabled_eq_false_of_disableAnsi rfl
  simp only [styled, hansi]
  rfl

theorem unstyles_style : style.Unstyles := by
  intro config arguments
  rcases arguments with _ | ⟨option, _ | ⟨names, rest⟩⟩
  · rfl
  · rfl
  · exact Creation.unstyled_ofPattern (styled_disabled config _ _)

theorem unstyles_namedStyle (name key : String) : (namedStyle name key).Unstyles :=
  fun config _ => withPattern_unstyled (styled_disabled config _ _)

theorem unstyles_highlight : highlight.Unstyles := by
  intro config arguments
  refine withPattern_unstyled fun pattern => ?_
  have hoption : (arguments.map Argument.unstyled)[1]?.map Argument.text =
      arguments[1]?.map Argument.text := by
    rw [List.getElem?_map, Option.map_map]
    rfl
  rw [hoption, Style.Highlight.read_disabled]
  rfl

theorem unstyles_notEmpty : notEmpty.Unstyles :=
  fun _ _ => withPattern_unstyled fun _ => rfl

theorem unstyles_maxLength : maxLength.Unstyles := by
  intro config arguments
  refine withPattern_unstyled fun pattern => ?_
  rw [List.getElem?_map]
  cases arguments[1]? with
  | none => rfl
  | some option =>
    simp only [Option.map_some, Argument.unstyled]
    cases limitOf option.text <;> rfl

theorem unstyles_replace : replace.Unstyles := by
  intro config arguments
  rcases arguments with _ | ⟨option, _ | ⟨expression, _ | ⟨replacement, rest⟩⟩⟩
  · rfl
  · rfl
  · rfl
  · simp only [replace, plugin, List.map_cons]
    have htext : expression.unstyled.text = expression.text := rfl
    have hhost : config.disabled.host = config.host := rfl
    rw [htext, hhost]
    cases Regex.read expression.text config.host with
    | error error => rfl
    | ok regex => exact Creation.unstyled_ofPattern fun _ => rfl

theorem unstyles_bare (name : String) (keys : List String) {converter : Converter}
    (h : converter ∈ bareConverters) : (plain name keys fun _ => converter).Unstyles := by
  refine unstyles_plain fun config => ?_
  simp only [bareConverters, List.mem_cons, List.not_mem_nil, or_false] at h
  rcases h with rfl | rfl | rfl | rfl | rfl | rfl <;> rfl

theorem unstyles_of_mem_registry {plugin : Plugin} (h : plugin ∈ registry) : plugin.Unstyles := by
  have heach : EachKind Plugin.Unstyles :=
    { message := unstyles_message
      level := unstyles_level
      logger := unstyles_logger
      date := unstyles_date
      throwable := unstyles_throwable
      context := unstyles_context
      processId := unstyles_plain fun _ => rfl
      bare := fun name keys _ => unstyles_bare name keys
      style := unstyles_style
      namedStyle := unstyles_namedStyle
      highlight := unstyles_highlight
      notEmpty := unstyles_notEmpty
      maxLength := unstyles_maxLength
      replace := unstyles_replace }
  exact heach.of_mem h

end Builtin

/-! ## Compiling -/

namespace Pattern

/-- The resolved piece with the styles taken out of its field. -/
def Resolved.unstyled : Resolved → Resolved
  | .text gathered => .text gathered
  | .restart gathered => .restart gathered
  | .field made leftover => .field made.unstyled leftover

theorem unstyled_flush (config : Config) (gathered : Text) :
    unstyled (flush config gathered) = flush config gathered := by
  unfold flush
  split <;> rfl

theorem gather_unstyled (config : Config) (parts : List Resolved) :
    gather config.disabled (parts.map Resolved.unstyled) =
      ((gather config parts).1, unstyled (gather config parts).2) := by
  have hflush : ∀ gathered, flush config.disabled gathered = flush config gathered := fun _ => rfl
  induction parts with
  | nil => rfl
  | cons part rest ih =>
    cases part with
    | text gathered => simp only [List.map_cons, Resolved.unstyled, gather, ih]
    | restart gathered =>
      simp only [List.map_cons, Resolved.unstyled, gather, ih, hflush, unstyled_append,
        unstyled_flush]
    | field made leftover =>
      simp only [List.map_cons, Resolved.unstyled, gather, ih, hflush, unstyled_cons,
        List.cons_append, unstyled_append, unstyled_flush]

theorem assemble_unstyled (config : Config) (parts : List Resolved) :
    assemble config.disabled (parts.map Resolved.unstyled) =
      unstyled (assemble config parts) := by
  rw [assemble_eq, assemble_eq, gather_unstyled, unstyled_append, unstyled_flush]
  rfl

/-- The outcome of a piece with the styles taken out of its field. -/
def unstyledOutcome (outcome : Resolved × List Report) : Resolved × List Report :=
  (outcome.1.unstyled, outcome.2)

theorem resolveSpecifier_unstyled (config : Config) (spec : Specifier) (arguments : List Argument) :
    resolveSpecifier Builtin.rules config.disabled spec (arguments.map Argument.unstyled) =
      (resolveSpecifier Builtin.rules config spec arguments).map unstyledOutcome := by
  unfold resolveSpecifier
  split
  · rfl
  split
  · rfl
  cases hfound : Builtin.rules.resolve? spec.key with
  | none => rfl
  | some found =>
    obtain ⟨plugin, leftover⟩ := found
    have hplugin := Rules.mem_registry_of_resolve? hfound
    have hcreate := Builtin.unstyles_of_mem_registry hplugin config arguments
    simp only [hcreate]
    cases plugin.create config arguments <;> rfl

/-- Compiling with escape sequences switched off gives the same pattern without
its styles, and the same reports. -/
theorem compile_disabled (config : Config) (pattern : Text) :
    compile Builtin.rules config.disabled pattern =
      (compile Builtin.rules config pattern).unstyled := by
  -- An option is shorter than the pattern around it.
  induction hn : pattern.length using Nat.strong_induction_on generalizing pattern with
  | _ n ih =>
    have hpiece : ∀ piece ∈ scan pattern, resolvePiece Builtin.rules config.disabled piece =
        (resolvePiece Builtin.rules config piece).map unstyledOutcome := by
      intro piece hpiece
      cases piece with
      | specifier spec =>
        have harguments : argumentsOf Builtin.rules config.disabled spec.options =
            (argumentsOf Builtin.rules config spec.options).map Argument.unstyled := by
          unfold argumentsOf
          rw [List.map_map]
          refine List.map_congr_left fun option hoption => ?_
          have hshorter := length_lt_of_mem_scan hpiece hoption
          have hoption := ih _ (hn ▸ hshorter) option rfl
          simp only [Function.comp_apply, Argument.unstyled, hoption]
          rfl
        show resolveSpecifier _ _ _ (argumentsOf _ _ spec.options) = _
        rw [harguments]
        exact resolveSpecifier_unstyled config spec _
      | literal | percent | malformedDot | unfinished => rfl
    rw [compile_eq_mapM, compile_eq_mapM, mapM_eq_map_of_forall hpiece]
    cases (scan pattern).mapM (resolvePiece Builtin.rules config) with
    | none => rfl
    | some parts =>
      have hfields := assemble_unstyled config (parts.map (·.1))
      have hreports : (parts.map unstyledOutcome).flatMap (·.2) = parts.flatMap (·.2) := by
        rw [List.flatMap_map]
        rfl
      simp only [Option.map_some, Compilation.unstyled, ← hfields, hreports, List.map_map]
      rfl

end Pattern

end LogLine
