/-
  Proofs/Pattern/StyledOutput.lean --- styles add escape sequences and nothing
  else.

  A pattern is written twice, with its styles and without them.  The two runs go
  through the same fields, fail at the same one, and add texts that differ by
  escape sequences, so that a text is empty in both or in none: the parts that
  are only written if they are not empty are the same.  A width, a cut or a
  replacement sees the sequences, and the space before an attached error sees the
  character they end in; so none of these may stand around or after a style:

      Field.isLoose                no width, cut or replacement around a style
      Field.Separable.agrees       one field in both runs
      strip_of_disableAnsi         records in turn
-/
import LogLine.Proofs.Pattern.AppendOnly
import LogLine.Proofs.Pattern.PlainOutput
import LogLine.Proofs.Pattern.Unstyled

set_option autoImplicit false

namespace LogLine

/-! ## Where styles stand -/

mutual

/-- Whether a converter is a style, a highlight or a message with markup, or has
one inside it. -/
def Converter.isStyled : Converter → Bool
  | .message .verbatim => false
  | .message _ => true
  | .wrapped (.style _ _ _) _ => true
  | .wrapped (.highlight _ _) _ => true
  | .wrapped _ fields => Field.anyStyled fields
  | _ => false

/-- Whether the converter of a field is one of these. -/
def Field.isStyled : Field → Bool
  | .mk converter _ => converter.isStyled

/-- Whether the converter of some field is one of these. -/
def Field.anyStyled : List Field → Bool
  | [] => false
  | field :: rest => field.isStyled || Field.anyStyled rest

end

/-- Whether the widths change nothing. -/
def FieldWidth.isNatural (width : FieldWidth) : Bool := width.least == 0 && width.most.isNone

theorem FieldWidth.adjust_of_isNatural {width : FieldWidth} (h : width.isNatural = true)
    (start : Nat) (buffer : Text) : width.adjust start buffer = buffer := by
  simp only [FieldWidth.isNatural, Bool.and_eq_true, beq_iff_eq, Option.isNone_iff_eq_none] at h
  rw [FieldWidth.adjust, if_pos h]

mutual

/-- Whether no width, no cut and no replacement inside a converter stands around
a style. -/
def Converter.isLoose : Converter → Bool
  | .wrapped (.maxLength _) fields => !Field.anyStyled fields
  | .wrapped (.replace _ _) fields => !Field.anyStyled fields
  | .wrapped _ fields => Field.allLoose fields
  | _ => true

/-- Whether neither the widths of a field nor anything in it stand around a
style. -/
def Field.isLoose : Field → Bool
  | .mk converter width => (width.isNatural || !converter.isStyled) && converter.isLoose

/-- Whether this holds of all fields. -/
def Field.allLoose : List Field → Bool
  | [] => true
  | field :: rest => field.isLoose && Field.allLoose rest

end

/-- Whether no width, no cut and no replacement in a pattern stands around a
style. -/
def Pattern.isLoose (pattern : Pattern) : Bool := Field.allLoose pattern

namespace Field

theorem anyStyled_eq_false_iff {fields : List Field} :
    anyStyled fields = false ↔ ∀ field ∈ fields, field.isStyled = false := by
  induction fields with
  | nil => simp [anyStyled]
  | cons field rest ih => simp [anyStyled, ih]

theorem allLoose_iff {fields : List Field} :
    allLoose fields = true ↔ ∀ field ∈ fields, field.isLoose = true := by
  induction fields with
  | nil => simp [allLoose]
  | cons field rest ih => simp [allLoose, ih]

theorem anyHandlesThrown_eq_false_iff {fields : List Field} :
    anyHandlesThrown fields = false ↔ ∀ field ∈ fields, field.handlesThrown = false := by
  rw [anyHandlesThrown_eq, Pattern.handlesThrown, List.any_eq_false]
  simp

end Field

/-! ## Fields without a style -/

theorem Wrapper.unstyled_of_confined {wrapper : Wrapper} (h : wrapper.Confined false) :
    wrapper.unstyled = wrapper := by
  cases wrapper with
  | style name sequence on =>
    cases on with
    | false => rfl
    | true => exact absurd (h rfl).1 Bool.false_ne_true
  | highlight sequences on =>
    cases on with
    | false => rfl
    | true => exact absurd (h rfl).1 Bool.false_ne_true
  | notEmpty | maxLength | replace => rfl

theorem Field.unstyledAll_of_forall {fields : List Field}
    (h : ∀ field ∈ fields, field.unstyled = field) : Field.unstyledAll fields = fields := by
  induction fields with
  | nil => rfl
  | cons field rest ih =>
    rw [List.forall_mem_cons] at h
    simp only [Field.unstyledAll, h.1, ih h.2]

/-- Where no escape sequences are written, there are no styles to take out. -/
theorem Field.Confined.unstyled_eq {field : Field} (h : field.Confined false) :
    field.unstyled = field := by
  induction h with
  | @plain converter width h =>
    cases converter with
    | message markup =>
      cases markup with
      | rendered depth => exact absurd (h depth rfl) Bool.false_ne_true
      | verbatim | stripped => rfl
    | wrapped wrapper fields => exact h.elim
    | _ => rfl
  | wrapped hwrapper h ih =>
    simp only [Field.unstyled, Converter.unstyled, Wrapper.unstyled_of_confined hwrapper,
      Field.unstyledAll_of_forall ih]

theorem Field.Confined.of_not_isStyled {field : Field} (h : field.Confined true)
    (hstyled : field.isStyled = false) : field.Confined false := by
  induction h with
  | @plain converter width h =>
    refine .plain ?_
    cases converter with
    | message markup =>
      cases markup with
      | verbatim => exact fun _ => nofun
      | rendered | stripped => cases hstyled
    | _ => exact h
  | @wrapped wrapper fields width hwrapper h ih =>
    have hinner : wrapper.Confined false ∧ Field.anyStyled fields = false := by
      cases wrapper with
      | style | highlight => cases hstyled
      | notEmpty | maxLength | replace => exact ⟨hwrapper, hstyled⟩
    have hfields := Field.anyStyled_eq_false_iff.1 hinner.2
    exact .wrapped hinner.1 fun field hfield => ih field hfield (hfields field hfield)

/-! ## Two runs -/

/-- Two runs, with styles and without, agree: they fail alike, they added texts
that differ by escape sequences to their buffers, and what writes the next record
is the same but for its styles. -/
structure Agrees {α : Type} (unstyle : α → α) (before before' : Text) (styled plain : Written α) :
    Prop where
  failure : plain.failure = styled.failure
  next : plain.next = unstyle styled.next
  buffer : ∃ x y, Style.StripsTo x y ∧ styled.buffer = before ++ x ∧ plain.buffer = before' ++ y

section

variable {scene : Scene}

theorem Field.isVariable_unstyled (field : Field) :
    field.unstyled.converter.isVariable = field.converter.isVariable := by
  obtain ⟨converter, width⟩ := field
  cases converter with
  | message markup => cases markup <;> rfl
  | _ => rfl

/-- Fields agree in both runs if each of them does, and some of them adds to the
buffer in both or in none. -/
theorem Field.agrees_of_writeAll {fields : List Field}
    (h : ∀ field ∈ fields, ∀ buffer buffer', Agrees Field.unstyled buffer buffer'
      (field.write scene buffer) (field.unstyled.write scene buffer')) (buffer buffer' : Text) :
    Agrees Field.unstyledAll buffer buffer' (Field.writeAll scene buffer fields).toWritten
        (Field.writeAll scene buffer' (Field.unstyledAll fields)).toWritten ∧
      (Field.writeAll scene buffer' (Field.unstyledAll fields)).anyVariable =
        (Field.writeAll scene buffer fields).anyVariable := by
  induction fields generalizing buffer buffer' with
  | nil =>
    refine ⟨⟨rfl, rfl, [], [], .refl Text.escapeFree_nil, ?_, ?_⟩, rfl⟩
    · exact (List.append_nil buffer).symm
    · exact (List.append_nil buffer').symm
  | cons field rest ih =>
    rw [List.forall_mem_cons] at h
    obtain ⟨hfailure, hnext, x, y, hstrips, hx, hy⟩ := h.1 buffer buffer'
    simp only [Field.unstyledAll, Field.writeAll, hfailure]
    split
    · exact ⟨⟨rfl, congrArg (· :: Field.unstyledAll rest) hnext, x, y, hstrips, hx, hy⟩, rfl⟩
    · obtain ⟨⟨hlater, hrest, x', y', hstrips', hx', hy'⟩, hvariable⟩ :=
        ih h.2 (field.write scene buffer).buffer (field.unstyled.write scene buffer').buffer
      refine ⟨⟨hlater, ?_, x ++ x', y ++ y', hstrips.append hstrips', ?_, ?_⟩, ?_⟩
      · simp only [hnext, hrest, Field.unstyledAll]
      · rw [hx', hx, List.append_assoc]
      · rw [hy', hy, List.append_assoc]
      · -- a text is empty in both runs or in none
        have hgrows : (buffer.length < (field.write scene buffer).buffer.length) ↔
            (buffer'.length < (field.unstyled.write scene buffer').buffer.length) := by
          rw [hx, hy, List.length_append, List.length_append]
          have hempty := hstrips.nil_iff
          rw [← List.length_eq_zero_iff, ← List.length_eq_zero_iff] at hempty
          omega
        simp only [hvariable, Field.isVariable_unstyled, hgrows]

end

/-! ## Fields whose styles can be taken off -/

/-- Wrappers that add a style to the output of their pattern, or leave it out as
a whole. -/
def Wrapper.keepsText : Wrapper → Bool
  | .style _ _ _ | .highlight _ _ | .notEmpty => true
  | .maxLength _ | .replace _ _ => false

/-- Fields that are not styled, or whose styles nothing is done to. -/
inductive Field.Separable : Field → Prop where
  | plain {converter : Converter} {width : FieldWidth}
      (h : Field.Confined false ⟨converter, width⟩) (hreads : converter.readsBuffer = false) :
      Field.Separable ⟨converter, width⟩
  | markup (depth : Style.ColorDepth) {width : FieldWidth} (hwidth : width.isNatural = true) :
      Field.Separable ⟨.message (.rendered depth), width⟩
  | wrapped {wrapper : Wrapper} {fields : List Field} {width : FieldWidth}
      (hwidth : width.isNatural = true) (hwrapper : wrapper.Confined true)
      (hkeeps : wrapper.keepsText = true) (h : ∀ field ∈ fields, Field.Separable field) :
      Field.Separable ⟨.wrapped wrapper fields, width⟩

theorem Converter.readsBuffer_next {converter : Converter} (h : converter.readsBuffer = false)
    (scene : Scene) (buffer : Text) :
    (converter.write scene buffer).next.readsBuffer = false := by
  cases converter with
  | throwable | custom => cases h
  | date clock =>
    simp only [Converter.write]
    split <;> rfl
  | context keys =>
    simp only [Converter.write]
    split <;> rfl
  | _ => rfl

theorem Field.Separable.next {field : Field} (h : field.Separable) (scene : Scene)
    (buffer : Text) : (field.write scene buffer).next.Separable := by
  induction h generalizing buffer with
  | plain h hreads => exact .plain (h.next buffer) (Converter.readsBuffer_next hreads scene buffer)
  | markup depth hwidth => exact .markup depth hwidth
  | wrapped hwidth hwrapper hkeeps h ih =>
    refine .wrapped hwidth hwrapper hkeeps ?_
    exact Field.forall_mem_next (fun field hfield => ⟨h field hfield, ih field hfield⟩) []

/-- A confined field is one of them if it is loose and shows no attached error. -/
theorem Field.Confined.separable {field : Field} (h : field.Confined true)
    (hthrown : field.handlesThrown = false) (hloose : field.isLoose = true) :
    field.Separable := by
  induction h with
  | @plain converter width h =>
    simp only [Field.isLoose, Bool.and_eq_true, Bool.or_eq_true, Bool.not_eq_true'] at hloose
    cases converter with
    | message markup =>
      cases markup with
      | verbatim => exact .plain (.plain fun _ => nofun) rfl
      | stripped => exact .plain (.plain fun _ => nofun) rfl
      | rendered depth => exact .markup depth (hloose.1.resolve_right Bool.noConfusion)
    | throwable style => cases hthrown
    | custom converter => exact h.elim
    | wrapped wrapper fields => exact h.elim
    | _ => exact .plain (.plain h) rfl
  | @wrapped wrapper fields width hwrapper h ih =>
    cases hstyled : (Converter.wrapped wrapper fields).isStyled with
    | false =>
      have hconfined : Field.Confined true ⟨.wrapped wrapper fields, width⟩ := .wrapped hwrapper h
      exact .plain (hconfined.of_not_isStyled hstyled) rfl
    | true =>
      simp only [Field.isLoose, hstyled, Bool.not_true, Bool.or_false, Bool.and_eq_true] at hloose
      obtain ⟨hwidth, hloose⟩ := hloose
      have hthrown := Field.anyHandlesThrown_eq_false_iff.1 hthrown
      have hinner : Field.allLoose fields = true → ∀ field ∈ fields, field.Separable := by
        intro hall field hfield
        exact ih field hfield (hthrown field hfield) (Field.allLoose_iff.1 hall field hfield)
      cases wrapper with
      | style | highlight | notEmpty => exact .wrapped hwidth hwrapper rfl (hinner hloose)
      | maxLength | replace =>
        -- what is cut or replaced holds no style
        simp only [Converter.isStyled] at hstyled
        simp [Converter.isLoose, hstyled] at hloose

/-- What a wrapper makes of texts that differ by escape sequences. -/
theorem Wrapper.Confined.stripsTo {wrapper : Wrapper} (h : wrapper.Confined true)
    (hkeeps : wrapper.keepsText = true) {x y : Text} (hstrips : Style.StripsTo x y)
    (level : Level) (anyVariable : Bool) :
    Style.StripsTo (wrapper.output level anyVariable x)
      (wrapper.unstyled.output level anyVariable y) := by
  cases wrapper with
  | style name sequence on => exact hstrips.styled (fun hon => (h hon).2) sequence
  | highlight sequences on =>
    exact hstrips.styled (fun hon => (h hon).2 level) (sequences level)
  | notEmpty =>
    simp only [Wrapper.output, Wrapper.unstyled]
    split
    · exact hstrips
    · exact .refl Text.escapeFree_nil
  | maxLength | replace => cases hkeeps

section

variable {scene : Scene} (hscene : scene.EscapeFree)

include hscene

/-- A field agrees in both runs. -/
theorem Field.Separable.agrees {field : Field} (h : field.Separable) (buffer buffer' : Text) :
    Agrees Field.unstyled buffer buffer' (field.write scene buffer)
      (field.unstyled.write scene buffer') := by
  induction h generalizing buffer buffer' with
  | @plain converter width h hreads =>
    obtain ⟨text, htext, hfree⟩ := h.addsPlain hscene []
    have hnext : (Field.write scene [] ⟨converter, width⟩).next.unstyled =
        (Field.write scene [] ⟨converter, width⟩).next := (h.next []).unstyled_eq
    rw [h.unstyled_eq, Field.write_eq_append hreads width scene buffer,
      Field.write_eq_append hreads width scene buffer']
    exact ⟨rfl, hnext.symm, text, text, .refl hfree, by rw [htext, List.nil_append],
      by rw [htext, List.nil_append]⟩
  | @markup depth width hwidth =>
    have hmessage := Style.Markup.render_stripsTo depth hscene.record.payload
    refine ⟨rfl, rfl, _, _, hmessage, ?_, ?_⟩
    · exact FieldWidth.adjust_of_isNatural hwidth _ _
    · exact FieldWidth.adjust_of_isNatural hwidth _ _
  | @wrapped wrapper fields width hwidth hwrapper hkeeps h ih =>
    obtain ⟨⟨hfailure, hnext, x, y, hstrips, hx, hy⟩, hvariable⟩ :=
      Field.agrees_of_writeAll ih [] []
    rw [List.nil_append] at hx hy
    have houtput := hwrapper.stripsTo hkeeps hstrips scene.record.level
      (Field.writeAll scene [] fields).anyVariable
    simp only [Field.unstyled, Converter.unstyled, Field.write, Converter.write,
      FieldWidth.adjust_of_isNatural hwidth, ite_self, hfailure, hnext, hvariable, hx, hy]
    refine ⟨rfl, rfl, ?_⟩
    split
    · exact ⟨[], [], .refl Text.escapeFree_nil, (List.append_nil buffer).symm,
        (List.append_nil buffer').symm⟩
    · exact ⟨_, _, houtput, rfl, rfl⟩

end

namespace Pattern

/-- Records in turn. -/
theorem agrees_of_writeEach {pattern : Pattern} (h : ∀ field ∈ pattern, field.Separable)
    {scenes : List Scene} (hscenes : ∀ scene ∈ scenes, scene.EscapeFree) (buffer : Text) :
    List.Forall₂ (Agrees unstyled buffer buffer) (pattern.writeEach buffer scenes)
      (pattern.unstyled.writeEach buffer scenes) := by
  induction scenes generalizing pattern with
  | nil => exact .nil
  | cons scene rest ih =>
    rw [List.forall_mem_cons] at hscenes
    have hfirst := (Field.agrees_of_writeAll
      (fun field hfield => (h field hfield).agrees hscenes.1) buffer buffer).1
    have hnext : ∀ field ∈ (pattern.write scene buffer).next, field.Separable :=
      Field.forall_mem_next (fun field hfield => ⟨h field hfield, (h field hfield).next scene⟩)
        buffer
    have hplain : (pattern.unstyled.write scene buffer).next =
        (pattern.write scene buffer).next.unstyled := hfirst.next
    refine .cons hfirst ?_
    rw [hplain]
    exact ih hnext hscenes.2

/-- Escape sequences switched off, the same pattern is compiled with the same
reports, and it writes for each record what is left of the text with styles when
its escape sequences are deleted; the two fail alike.  The pattern shows no
attached error, and nothing in it cuts or fills what is written in a style.  The
names of zones hold no escape character, and expressions put in what their texts
hold. -/
theorem strip_of_disableAnsi {config : Config} (hansi : config.isAnsiEnabled = true)
    (hconfig : config.EscapeFree) {pattern : Text} (hpattern : Text.EscapeFree pattern)
    {fields : Pattern} {reports : List Report}
    (hdone : compile Builtin.rules config pattern = .done fields reports)
    (hthrown : fields.handlesThrown = false) (hloose : fields.isLoose = true) :
    ∃ plain, compile Builtin.rules { config with disableAnsi := true } pattern =
        .done plain reports ∧
      ∀ (buffer : Text) (scenes : List Scene), (∀ scene ∈ scenes, scene.EscapeFree) →
        List.Forall₂
          (fun styled quiet => quiet.failure = styled.failure ∧
            ∃ text, styled.buffer = buffer ++ text ∧ quiet.buffer = buffer ++ Style.strip text)
          (fields.writeEach buffer scenes) (plain.writeEach buffer scenes) := by
  have hdisabled := compile_disabled config pattern
  rw [hdone] at hdisabled
  refine ⟨fields.unstyled, hdisabled, fun buffer scenes hscenes => ?_⟩
  have hconfined := confined_of_compile hconfig hpattern
  rw [hdone, hansi] at hconfined
  have hseparable : ∀ field ∈ fields, field.Separable := by
    intro field hfield
    rw [← Field.anyHandlesThrown_eq, Field.anyHandlesThrown_eq_false_iff] at hthrown
    exact (hconfined field hfield).separable (hthrown field hfield)
      (Field.allLoose_iff.1 hloose field hfield)
  refine (agrees_of_writeEach hseparable hscenes buffer).imp fun styled quiet hagrees => ?_
  obtain ⟨hfailure, -, x, y, hstrips, hx, hy⟩ := hagrees
  exact ⟨hfailure, x, hx, by rw [hstrips.strip_eq, hy]⟩

/-- Styles that nothing is done to, and a width, a replacement and a date in a region
where there is no style. -/
def looseStyles : Text :=
  "%style\x7b%notEmpty\x7b[%m\x7bansi\x7d]\x7d%highlight\x7b%p\x7d\x7d\x7bbold\x7d ".toList ++
    "%-8t%replace\x7b%m\x7d\x7b(l+)o\x7d\x7b<$1>\x7d %d\x7bHH:mm z\x7d\x7bAsia/Tokyo\x7d".toList

/-- Settings with escape sequences. -/
def colorfulConfig : Config := { host := { processId := ['7'] } }

theorem strip_looseStyles :
    ∃ fields reports plain,
      compile Builtin.rules colorfulConfig looseStyles = .done fields reports ∧
      fields.handlesThrown = false ∧ fields.isLoose = true ∧
      compile Builtin.rules { colorfulConfig with disableAnsi := true } looseStyles =
        .done plain reports ∧
      (plain.write markedScene []).buffer =
        Style.strip (fields.write markedScene []).buffer ∧
      (plain.write markedScene []).buffer =
        "[hello world]INFO         @|green he<ll>|@ world 09:00 JST".toList := by
  have hconfig : colorfulConfig.EscapeFree :=
    @Config.escapeFree_of_no_lookups colorfulConfig rfl 7 rfl rfl rfl
  have hpattern : Text.EscapeFree looseStyles := by decide
  have hscene := escapeFree_markedScene
  have hfit : isDoneWith (fun fields => (!fields.handlesThrown && fields.isLoose) &&
      Style.strip (fields.write markedScene []).buffer ==
        "[hello world]INFO         @|green he<ll>|@ world 09:00 JST".toList)
      (compile Builtin.rules colorfulConfig looseStyles) = true := by decide +kernel
  obtain ⟨fields, reports, hcompile, htest⟩ := exists_of_isDoneWith hfit
  simp only [Bool.and_eq_true, Bool.not_eq_true', beq_iff_eq] at htest
  obtain ⟨⟨hthrown, hloose⟩, hstrip⟩ := htest
  obtain ⟨plain, hplain, hruns⟩ :=
    strip_of_disableAnsi rfl hconfig hpattern hcompile hthrown hloose
  have hsame : (plain.write markedScene []).buffer =
      Style.strip (fields.write markedScene []).buffer := by
    cases hruns [] [markedScene] (by simpa using hscene) with
    | cons hfirst _ =>
      obtain ⟨-, text, htext, hquiet⟩ := hfirst
      rw [htext, hquiet]
      rfl
  exact ⟨fields, reports, plain, hcompile, hthrown, hloose, hplain, hsame, hsame.trans hstrip⟩

end Pattern

end LogLine
