/-
  Proofs/Pattern/Assembly.lean --- how compiled patterns are put together, and
  what they keep about the attached error.

  A pattern is put together from a list of parts, and parts are pushed at its
  end; a part is a converter, or a wrapper around a pattern put together before.
  Whether it shows the attached error is kept with it and brought up to date,
  never looked for again.  All the patterns that the library compiles come about
  like this, a level of inner patterns after the other:

      Assembly.flag_eq                   what is kept is what a search would find
      Assembly.flag_iff                  and holds exactly where a converter shows the error
      Builtin.makesOwn_of_mem_registry   what a factory makes
      Pattern.exists_assembly            compiled patterns
-/
import LogLine.Proofs.Pattern.InnerPatterns

set_option autoImplicit false

namespace LogLine

/-! ## Parts and assemblies -/

/-- Whether a converter is one of this library without an inner pattern. -/
def Converter.isLeaf : Converter → Bool
  | .custom _ | .wrapped _ _ => false
  | _ => true

mutual

/-- How a pattern was put together. -/
inductive Assembly where
  /-- From a list of parts. -/
  | new (parts : List Part)
  /-- By one more part at the end. -/
  | push (assembly : Assembly) (part : Part)

/-- What a pattern is put together from. -/
inductive Part where
  /-- A converter without an inner pattern. -/
  | leaf (converter : Converter) (width : FieldWidth) (h : converter.isLeaf = true)
  /-- A wrapper around a pattern. -/
  | wrapped (wrapper : Wrapper) (inner : Assembly) (width : FieldWidth)

end

mutual

/-- The pattern that was put together. -/
def Assembly.pattern : Assembly → Pattern
  | .new parts => Part.fields parts
  | .push assembly part => assembly.pattern ++ [part.field]

/-- The field that a part is. -/
def Part.field : Part → Field
  | .leaf converter width _ => ⟨converter, width⟩
  | .wrapped wrapper inner width => ⟨.wrapped wrapper inner.pattern, width⟩

/-- The fields that some parts are. -/
def Part.fields : List Part → Pattern
  | [] => []
  | part :: rest => part.field :: Part.fields rest

end

mutual

/-- What is kept of a pattern about the attached error. -/
def Assembly.flag : Assembly → Bool
  | .new parts => Part.anyFlag parts
  | .push assembly part => assembly.flag || part.flag

/-- What a part answers: a wrapper answers what is kept of its pattern. -/
def Part.flag : Part → Bool
  | .leaf converter _ _ => converter.handlesThrown
  | .wrapped _ inner _ => inner.flag

/-- Whether some part answers so. -/
def Part.anyFlag : List Part → Bool
  | [] => false
  | part :: rest => part.flag || Part.anyFlag rest

end

mutual

/-- What is kept is what a search through the pattern would find. -/
theorem Assembly.flag_eq : ∀ assembly : Assembly,
    assembly.flag = Pattern.handlesThrown assembly.pattern
  | .new parts => by
    rw [Assembly.flag, Assembly.pattern, Part.anyFlag_eq]
  | .push assembly part => by
    rw [Assembly.flag, Assembly.pattern, Assembly.flag_eq assembly, Part.flag_eq part,
      Pattern.handlesThrown_append]
    simp [Pattern.handlesThrown]

theorem Part.flag_eq : ∀ part : Part, part.flag = part.field.handlesThrown
  | .leaf converter width h => by
    rw [Part.flag, Part.field, Field.handlesThrown]
  | .wrapped wrapper inner width => by
    rw [Part.flag, Part.field, Field.handlesThrown, Converter.handlesThrown,
      Field.anyHandlesThrown_eq, Assembly.flag_eq inner]

theorem Part.anyFlag_eq : ∀ parts : List Part,
    Part.anyFlag parts = Pattern.handlesThrown (Part.fields parts)
  | [] => rfl
  | part :: rest => by
    rw [Part.anyFlag, Part.fields, Part.flag_eq part, Part.anyFlag_eq rest]
    simp [Pattern.handlesThrown]

end

/-! ## Where the attached error is shown -/

/-- The attached error is written by the converter of a field, or by one inside
it, at any depth. -/
inductive Field.ShowsThrown : Field → Prop where
  | here (style : ThrownText) (width : FieldWidth) : Field.ShowsThrown ⟨.throwable style, width⟩
  | inside {wrapper : Wrapper} {fields : Pattern} {width : FieldWidth} {field : Field}
      (hfield : field ∈ fields) (h : Field.ShowsThrown field) :
      Field.ShowsThrown ⟨.wrapped wrapper fields, width⟩

/-- Some converter of a pattern writes the attached error, at whatever depth. -/
def Pattern.ShowsThrown (pattern : Pattern) : Prop := ∃ field ∈ pattern, field.ShowsThrown

theorem Field.showsThrown_wrapped_iff {wrapper : Wrapper} {fields : Pattern} {width : FieldWidth} :
    Field.ShowsThrown ⟨.wrapped wrapper fields, width⟩ ↔ Pattern.ShowsThrown fields := by
  constructor
  · intro h
    cases h with
    | inside hfield h => exact ⟨_, hfield, h⟩
  · rintro ⟨field, hfield, h⟩
    exact .inside hfield h

theorem Field.showsThrown_leaf_iff {converter : Converter} {width : FieldWidth}
    (h : converter.isLeaf = true) :
    Field.ShowsThrown ⟨converter, width⟩ ↔ converter.handlesThrown = true := by
  constructor
  · intro hshows
    cases hshows with
    | here => rfl
    | inside => cases h
  · intro hhandles
    cases converter with
    | throwable style => exact .here style width
    | custom | wrapped => cases h
    | _ => cases hhandles

theorem Pattern.showsThrown_cons_iff {field : Field} {rest : Pattern} :
    Pattern.ShowsThrown (field :: rest) ↔ field.ShowsThrown ∨ Pattern.ShowsThrown rest := by
  simp only [Pattern.ShowsThrown, List.mem_cons, or_and_right, exists_or, exists_eq_left]

theorem Pattern.showsThrown_append_iff {a b : Pattern} :
    Pattern.ShowsThrown (a ++ b) ↔ Pattern.ShowsThrown a ∨ Pattern.ShowsThrown b := by
  simp only [Pattern.ShowsThrown, List.mem_append, or_and_right, exists_or]

mutual

/-- What is kept holds exactly where some converter shows the error. -/
theorem Assembly.flag_iff : ∀ assembly : Assembly,
    assembly.flag = true ↔ Pattern.ShowsThrown assembly.pattern
  | .new parts => by
    rw [Assembly.flag, Assembly.pattern, Part.anyFlag_iff]
  | .push assembly part => by
    have hpart : Pattern.ShowsThrown [part.field] ↔ part.flag = true := by
      simp [Pattern.ShowsThrown, Part.flag_iff part]
    rw [Assembly.flag, Assembly.pattern, Bool.or_eq_true, Assembly.flag_iff assembly,
      Pattern.showsThrown_append_iff, hpart]

theorem Part.flag_iff : ∀ part : Part, part.flag = true ↔ part.field.ShowsThrown
  | .leaf converter width h => by
    rw [Part.flag, Part.field, Field.showsThrown_leaf_iff h]
  | .wrapped wrapper inner width => by
    rw [Part.flag, Part.field, Field.showsThrown_wrapped_iff, Assembly.flag_iff inner]

theorem Part.anyFlag_iff : ∀ parts : List Part,
    Part.anyFlag parts = true ↔ Pattern.ShowsThrown (Part.fields parts)
  | [] => by simp [Part.anyFlag, Part.fields, Pattern.ShowsThrown]
  | part :: rest => by
    rw [Part.anyFlag, Part.fields, Bool.or_eq_true, Pattern.showsThrown_cons_iff,
      Part.flag_iff part, Part.anyFlag_iff rest]

end

/-- Fields that are parts one by one are the pattern of an assembly. -/
theorem Assembly.exists_of_forall {fields : Pattern}
    (h : ∀ field ∈ fields, ∃ part : Part, part.field = field) :
    ∃ assembly : Assembly, assembly.pattern = fields := by
  have hparts : ∃ parts : List Part, Part.fields parts = fields := by
    induction fields with
    | nil => exact ⟨[], rfl⟩
    | cons field rest ih =>
      rw [List.forall_mem_cons] at h
      obtain ⟨⟨part, hpart⟩, hrest⟩ := h
      obtain ⟨parts, hparts⟩ := ih hrest
      exact ⟨part :: parts, by rw [Part.fields, hpart, hparts]⟩
  obtain ⟨parts, hparts⟩ := hparts
  exact ⟨.new parts, hparts⟩

/-! ## Factories -/

/-- What a factory of this library can make: a converter without an inner
pattern, or a wrapper around the pattern that one of its options is. -/
inductive Converter.MadeFrom (arguments : List Argument) : Converter → Prop where
  | leaf {converter : Converter} (h : converter.isLeaf = true) : MadeFrom arguments converter
  | wrapped {wrapper : Wrapper} {option : Argument} {fields : Pattern} {reports : List Report}
      (hoption : option ∈ arguments) (h : option.asPattern.get = .done fields reports) :
      MadeFrom arguments (.wrapped wrapper fields)

namespace Creation

theorem exists_of_after {creation : Creation} {earlier reports : List Report}
    {converter : Converter} (h : creation.after earlier = .made converter reports) :
    ∃ later, creation = .made converter later := by
  cases creation with
  | made other later =>
    obtain ⟨rfl, -⟩ := Creation.made.inj h
    exact ⟨later, rfl⟩
  | refused | brokenCharacter => cases h

theorem exists_of_ofPattern {compilation : Compilation} {next : Pattern → Creation}
    {converter : Converter} {reports : List Report}
    (h : ofPattern compilation next = .made converter reports) :
    ∃ fields found later, compilation = .done fields found ∧
      next fields = .made converter later := by
  cases compilation with
  | brokenCharacter => cases h
  | done fields found =>
    obtain ⟨later, hnext⟩ := exists_of_after h
    exact ⟨fields, found, later, rfl, hnext⟩

theorem eq_ok_of_ofExcept {x : Except Error Converter} {converter : Converter}
    {reports : List Report} (h : ofExcept x = .made converter reports) : x = .ok converter := by
  cases x with
  | error error => cases h
  | ok other =>
    obtain ⟨rfl, -⟩ := Creation.made.inj h
    rfl

theorem eq_ok_of_ofFaults {x : Except Fault Converter} {converter : Converter}
    {reports : List Report} (h : ofFaults x = .made converter reports) : x = .ok converter := by
  cases x with
  | error fault => cases fault <;> cases h
  | ok other =>
    obtain ⟨rfl, -⟩ := Creation.made.inj h
    rfl

end Creation

namespace Builtin

/-- All that the factory of a plugin makes is made like this. -/
def MakesOwn (plugin : Plugin) : Prop :=
  ∀ config arguments converter reports,
    plugin.create config arguments = .made converter reports →
      Converter.MadeFrom arguments converter

/-- A converter without an inner pattern, made as it is. -/
theorem madeFrom_of_made {arguments : List Argument} {own converter : Converter}
    {found reports : List Report} (h : Creation.made own found = .made converter reports)
    (hleaf : own.isLeaf = true) : Converter.MadeFrom arguments converter := by
  obtain ⟨rfl, -⟩ := Creation.made.inj h
  exact .leaf hleaf

/-- What is read from an option is no wrapper. -/
theorem isLeaf_of_map_eq_ok {α ε : Type} {x : Except ε α} {f : α → Converter}
    {converter : Converter} (h : x.map f = .ok converter) (hleaf : ∀ a, (f a).isLeaf = true) :
    converter.isLeaf = true := by
  obtain ⟨a, -, rfl⟩ := map_eq_ok_iff.1 h
  exact hleaf a

theorem makesOwn_plain {name : String} {keys : List String} {converter : Config → Converter}
    (h : ∀ config, (converter config).isLeaf = true) : MakesOwn (plain name keys converter) := by
  intro config arguments made reports hmade
  exact madeFrom_of_made hmade (h config)

theorem makesOwn_message : MakesOwn message := by
  intro config arguments converter reports h
  exact madeFrom_of_made h rfl

theorem makesOwn_level : MakesOwn level := by
  intro config arguments converter reports h
  simp only [level, plugin] at h
  split at h
  · exact madeFrom_of_made h rfl
  · split at h
    · exact madeFrom_of_made h rfl
    · cases h

theorem makesOwn_logger : MakesOwn logger := by
  intro config arguments converter reports h
  simp only [logger, plugin] at h
  split at h
  · exact madeFrom_of_made h rfl
  · exact .leaf (isLeaf_of_map_eq_ok (Creation.eq_ok_of_ofExcept h) fun _ => rfl)

theorem makesOwn_date : MakesOwn date := by
  intro config arguments converter reports h
  rw [date_create] at h
  exact .leaf (isLeaf_of_map_eq_ok (Creation.eq_ok_of_ofFaults h) fun _ => rfl)

theorem makesOwn_throwable : MakesOwn throwable := by
  intro config arguments converter reports h
  exact .leaf (isLeaf_of_map_eq_ok (Creation.eq_ok_of_ofExcept h) fun _ => rfl)

theorem makesOwn_context : MakesOwn context := by
  intro config arguments converter reports h
  simp only [context, plugin] at h
  split at h
  · exact madeFrom_of_made h rfl
  · exact madeFrom_of_made h rfl

/-- A factory that compiles an option and puts a wrapper around it. -/
theorem madeFrom_of_ofPattern {arguments : List Argument} {option : Argument}
    (hoption : option ∈ arguments) {next : Pattern → Creation} {converter : Converter}
    {reports : List Report}
    (h : Creation.ofPattern option.asPattern.get next = .made converter reports)
    (hnext : ∀ fields later, next fields = .made converter later →
      ∃ wrapper, converter = .wrapped wrapper fields) : Converter.MadeFrom arguments converter := by
  obtain ⟨fields, found, later, hdone, hmade⟩ := Creation.exists_of_ofPattern h
  obtain ⟨wrapper, rfl⟩ := hnext fields later hmade
  exact .wrapped hoption hdone

theorem madeFrom_of_withPattern {arguments : List Argument} {next : Pattern → Creation}
    {converter : Converter} {reports : List Report}
    (h : withPattern arguments next = .made converter reports)
    (hnext : ∀ fields later, next fields = .made converter later →
      ∃ wrapper, converter = .wrapped wrapper fields) : Converter.MadeFrom arguments converter := by
  cases arguments with
  | nil => cases h
  | cons option rest => exact madeFrom_of_ofPattern List.mem_cons_self h hnext

theorem makesOwn_style : MakesOwn style := by
  intro config arguments converter reports h
  simp only [style, plugin] at h
  split at h
  · refine madeFrom_of_ofPattern List.mem_cons_self h fun fields later hmade => ?_
    exact ⟨_, (Creation.made.inj hmade).1.symm⟩
  · cases h

theorem makesOwn_namedStyle (name key : String) : MakesOwn (namedStyle name key) := by
  intro config arguments converter reports h
  refine madeFrom_of_withPattern h fun fields later hmade => ?_
  exact ⟨_, (Creation.made.inj hmade).1.symm⟩

theorem makesOwn_highlight : MakesOwn highlight := by
  intro config arguments converter reports h
  refine madeFrom_of_withPattern h fun fields later hmade => ?_
  exact ⟨_, (Creation.made.inj hmade).1.symm⟩

theorem makesOwn_notEmpty : MakesOwn notEmpty := by
  intro config arguments converter reports h
  refine madeFrom_of_withPattern h fun fields later hmade => ?_
  exact ⟨_, (Creation.made.inj hmade).1.symm⟩

theorem makesOwn_maxLength : MakesOwn maxLength := by
  intro config arguments converter reports h
  refine madeFrom_of_withPattern h fun fields later hmade => ?_
  split at hmade
  · cases hmade
  · rename_i option hoption
    have hread := Creation.eq_ok_of_ofExcept hmade
    cases hlimit : limitOf option.text with
    | error error =>
      rw [hlimit] at hread
      cases hread
    | ok limit =>
      rw [hlimit] at hread
      exact ⟨.maxLength limit, (Except.ok.inj hread).symm⟩

theorem makesOwn_replace : MakesOwn replace := by
  intro config arguments converter reports h
  simp only [replace, plugin] at h
  split at h
  · split at h
    · cases h
    · refine madeFrom_of_ofPattern List.mem_cons_self h fun fields later hmade => ?_
      exact ⟨_, (Creation.made.inj hmade).1.symm⟩
  · cases h

theorem makesOwn_bare (name : String) (keys : List String) {converter : Converter}
    (h : converter ∈ bareConverters) : MakesOwn (plain name keys fun _ => converter) := by
  refine makesOwn_plain fun _ => ?_
  simp only [bareConverters, List.mem_cons, List.not_mem_nil, or_false] at h
  rcases h with rfl | rfl | rfl | rfl | rfl | rfl <;> rfl

/-- What a factory makes. -/
theorem makesOwn_of_mem_registry {plugin : Plugin} (hplugin : plugin ∈ registry) :
    MakesOwn plugin := by
  have heach : EachKind MakesOwn :=
    { message := makesOwn_message
      level := makesOwn_level
      logger := makesOwn_logger
      date := makesOwn_date
      throwable := makesOwn_throwable
      context := makesOwn_context
      processId := makesOwn_plain fun _ => rfl
      bare := fun name keys _ => makesOwn_bare name keys
      style := makesOwn_style
      namedStyle := makesOwn_namedStyle
      highlight := makesOwn_highlight
      notEmpty := makesOwn_notEmpty
      maxLength := makesOwn_maxLength
      replace := makesOwn_replace }
  exact heach.of_mem hplugin

end Builtin

namespace Pattern

/-! ## Compiled patterns -/

theorem mem_flush {config : Config} {gathered : Text} {field : Field}
    (h : field ∈ flush config gathered) : field = literalField config gathered := by
  unfold flush at h
  split at h
  · cases h
  · exact List.mem_singleton.1 h

theorem mem_gather {config : Config} {parts : List Resolved} {field : Field}
    (h : field ∈ (gather config parts).2) :
    (∃ text, field = literalField config text) ∨ ∃ leftover, .field field leftover ∈ parts := by
  induction parts with
  | nil => cases h
  | cons part rest ih =>
    have hlater : field ∈ (gather config rest).2 →
        (∃ text, field = literalField config text) ∨
          ∃ leftover, .field field leftover ∈ part :: rest :=
      fun h => (ih h).imp_right (Exists.imp fun _ => List.mem_cons_of_mem part)
    cases part with
    | text text => exact hlater h
    | restart text =>
      rcases List.mem_append.1 h with h | h
      · exact .inl ⟨_, mem_flush h⟩
      · exact hlater h
    | field own leftover =>
      rcases List.mem_cons.1 h with rfl | h
      · exact .inr ⟨leftover, List.mem_cons_self⟩
      rcases List.mem_append.1 h with h | h
      · exact .inl ⟨_, mem_flush h⟩
      · exact hlater h

/-- Fields put together are literal text, or fields of the resolved pieces. -/
theorem mem_assemble {config : Config} {parts : List Resolved} {field : Field}
    (h : field ∈ assemble config parts) :
    (∃ text, field = literalField config text) ∨ ∃ leftover, .field field leftover ∈ parts := by
  rcases List.mem_append.1 h with h | h
  · exact .inl ⟨_, mem_flush h⟩
  · exact mem_gather h

/-- A specifier becomes literal text, or a converter of the library. -/
theorem field_of_resolveSpecifier {config : Config} {spec : Specifier} {arguments : List Argument}
    {field : Field} {leftover : Text} {reports : List Report}
    (h : resolveSpecifier Builtin.rules config spec arguments =
      some (.field field leftover, reports)) :
    (∃ text, field = literalField config text) ∨ field.converter.MadeFrom arguments := by
  cases resolveSpecifier_eq_iff.1 h with
  | made _ hlongest hcreate =>
    have hown := Builtin.makesOwn_of_mem_registry (Rules.mem_registry_of_find? hlongest.known)
    exact .inr (hown config arguments _ _ hcreate)
  | failed => exact .inl ⟨spec.raw, rfl⟩

/-- A field of a compiled pattern is literal text, or a converter made from the
options of one of its pieces. -/
theorem field_of_compile {config : Config} {pattern : Text} {fields : Pattern}
    {reports : List Report} (h : compile Builtin.rules config pattern = .done fields reports)
    {field : Field} (hfield : field ∈ fields) :
    (∃ text, field = literalField config text) ∨
      ∃ piece ∈ scan pattern,
        field.converter.MadeFrom (argumentsOf Builtin.rules config piece.options) := by
  obtain ⟨parts, hparts, rfl, -⟩ := compile_eq_done_iff.1 h
  rcases mem_assemble hfield with hliteral | ⟨leftover, hpart⟩
  · exact .inl hliteral
  obtain ⟨⟨_, reports⟩, hmem, rfl⟩ := List.mem_map.1 hpart
  have hresolved : some (.field field leftover, reports) ∈ parts.map some :=
    List.mem_map_of_mem hmem
  rw [← hparts] at hresolved
  obtain ⟨piece, hpiece, hresolve⟩ := List.mem_map.1 hresolved
  cases piece with
  | specifier spec =>
    exact (field_of_resolveSpecifier hresolve).imp_right fun hmade => ⟨_, hpiece, hmade⟩
  | literal | percent | malformedDot | unfinished => cases hresolve

/-- What is compiled was put together from parts, and so was every pattern inside
it. -/
theorem exists_assembly {config : Config} {pattern : Text} {fields : Pattern}
    {reports : List Report} (h : compile Builtin.rules config pattern = .done fields reports) :
    ∃ assembly : Assembly, assembly.pattern = fields := by
  -- An option is shorter than the pattern around it.
  induction hn : pattern.length using Nat.strong_induction_on
    generalizing pattern fields reports with
  | _ n ih =>
    refine Assembly.exists_of_forall fun field hfield => ?_
    rcases field_of_compile h hfield with ⟨text, rfl⟩ | ⟨piece, hpiece, hmade⟩
    · exact ⟨.leaf (.literal (Literal.ofConfig config text)) .natural rfl, rfl⟩
    obtain ⟨converter, width⟩ := field
    cases hmade with
    | leaf hleaf => exact ⟨.leaf converter width hleaf, rfl⟩
    | @wrapped wrapper option inner found hoption hdone =>
      obtain ⟨text, htext, rfl⟩ := List.mem_map.1 hoption
      have hshorter := length_lt_of_mem_scan hpiece htext
      obtain ⟨assembly, rfl⟩ := ih _ (hn ▸ hshorter) hdone rfl
      exact ⟨.wrapped wrapper assembly width, rfl⟩

end Pattern

end LogLine
