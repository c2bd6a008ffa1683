/-
  Proofs/Pattern/Confined.lean --- patterns that write escape characters only in
  styles.

  A confined pattern has no escape character in its own texts, and the styles in
  it are escape sequences.  With `ansi` off there are no styles either.  Such a
  pattern writes no escape character for a scene without one, and stays confined
  whatever it writes, failures included:

      Field.Confined.next        the pattern for the next record
      Field.Confined.addsPlain   what a field without styles adds to a buffer
      addsPlain_of_writeEach     the same for records in turn
-/
import LogLine.Proofs.Pattern.ShownTexts
import LogLine.Proofs.Regex.Replaced
import LogLine.Proofs.Style.Strip
import LogLine.Proofs.Time.DateText

set_option autoImplicit false

namespace LogLine

open Text (EscapeFree)

/-! ## Confined patterns -/

/-- Converters without an inner pattern that have no escape character of their
own; only with `ansi` do they render markup. -/
def Converter.Confined (ansi : Bool) : Converter → Prop
  | .literal text => text.EscapeFree
  | .message markup => ∀ depth, markup = .rendered depth → ansi = true
  | .level labels => ∀ given ∈ labels, given.EscapeFree
  | .logger abbreviation => abbreviation.EscapeFree
  | .date clock => clock.EscapeFree
  | .throwable style => EscapeFree style.separator
  | .processId id => EscapeFree id
  | .thread | .lineSeparator | .context _ | .file | .line | .modulePath | .location => True
  | .custom _ | .wrapped _ _ => False

/-- Wrappers whose styles are escape sequences, and written only with `ansi`;
expressions put in what their texts have and nothing else. -/
def Wrapper.Confined (ansi : Bool) : Wrapper → Prop
  | .style _ sequence on => on = true → ansi = true ∧ Style.IsSequence sequence
  | .highlight sequences on => on = true → ansi = true ∧ ∀ level, Style.IsSequence (sequences level)
  | .replace regex replacement => regex.ReplacesWithin ∧ EscapeFree replacement
  | .notEmpty | .maxLength _ => True

/-- Fields all of whose converters, inner ones included, are confined. -/
inductive Field.Confined (ansi : Bool) : Field → Prop where
  | plain {converter : Converter} {width : FieldWidth} (h : converter.Confined ansi) :
      Field.Confined ansi ⟨converter, width⟩
  | wrapped {wrapper : Wrapper} {fields : Pattern} {width : FieldWidth}
      (hwrapper : wrapper.Confined ansi) (h : ∀ field ∈ fields, Field.Confined ansi field) :
      Field.Confined ansi ⟨.wrapped wrapper fields, width⟩

/-- Patterns all of whose fields are confined. -/
def Pattern.Confined (ansi : Bool) (pattern : Pattern) : Prop :=
  ∀ field ∈ pattern, field.Confined ansi

/-! ## The next record -/

section

variable {scene : Scene}

/-- What holds of fields and of what they become holds of all fields after
writing. -/
theorem Field.forall_mem_next {P : Field → Prop} {fields : Pattern}
    (h : ∀ field ∈ fields, P field ∧ ∀ buffer, P (field.write scene buffer).next)
    (buffer : Text) : ∀ field ∈ (Field.writeAll scene buffer fields).next, P field := by
  induction fields generalizing buffer with
  | nil => exact fun field hfield => absurd hfield List.not_mem_nil
  | cons field rest ih =>
    rw [List.forall_mem_cons] at h
    simp only [Field.writeAll]
    split
    · exact List.forall_mem_cons.2 ⟨h.1.2 buffer, fun later hlater => (h.2 later hlater).1⟩
    · exact List.forall_mem_cons.2 ⟨h.1.2 buffer, ih h.2 _⟩

theorem Converter.Confined.next {ansi : Bool} {converter : Converter}
    (h : converter.Confined ansi) (buffer : Text) :
    (converter.write scene buffer).next.Confined ansi := by
  cases converter with
  | date clock =>
    have hclock := (DateClock.EscapeFree.write h scene.record.time).1
    simp only [Converter.write]
    split
    · rename_i next text heq
      rwa [heq] at hclock
    · rename_i next error heq
      rwa [heq] at hclock
  | context keys =>
    simp only [Converter.write]
    split <;> exact trivial
  | custom converter => exact h.elim
  | wrapped wrapper fields => exact h.elim
  | _ => exact h

/-- A confined field stays confined. -/
theorem Field.Confined.next {ansi : Bool} {field : Field} (h : field.Confined ansi)
    (buffer : Text) : (field.write scene buffer).next.Confined ansi := by
  induction h generalizing buffer with
  | plain h => exact .plain (h.next buffer)
  | wrapped hwrapper h ih =>
    refine .wrapped hwrapper ?_
    exact Field.forall_mem_next (fun field hfield => ⟨h field hfield, ih field hfield⟩) []

end

/-! ## What is added to a buffer -/

/-- Text without escape characters was added to a buffer. -/
def AddsPlain (before after : Text) : Prop := ∃ text, after = before ++ text ∧ EscapeFree text

namespace AddsPlain

theorem refl (buffer : Text) : AddsPlain buffer buffer :=
  ⟨[], (List.append_nil buffer).symm, Text.escapeFree_nil⟩

theorem add (buffer : Text) {text : Text} (h : EscapeFree text) :
    AddsPlain buffer (buffer ++ text) := ⟨text, rfl, h⟩

theorem trans {first second third : Text} (h : AddsPlain first second)
    (h' : AddsPlain second third) : AddsPlain first third := by
  obtain ⟨text, rfl, htext⟩ := h
  obtain ⟨later, rfl, hlater⟩ := h'
  exact ⟨text ++ later, List.append_assoc first text later,
    Text.escapeFree_append.2 ⟨htext, hlater⟩⟩

end AddsPlain

theorem FieldWidth.escapeFree_fit (width : FieldWidth) {text : Text} (h : EscapeFree text) :
    EscapeFree (width.fit text) := by
  have hcut : EscapeFree (width.cut text) := by
    unfold FieldWidth.cut
    split
    · exact h
    split
    · exact h
    split
    · exact h.drop _
    · exact h.take _
  have hspaces : ∀ n, EscapeFree (List.replicate n ' ') := EscapeFree.replicate (by decide)
  unfold FieldWidth.fit FieldWidth.fill
  simp only
  split
  · exact Text.escapeFree_append.2 ⟨hcut, hspaces _⟩
  · exact Text.escapeFree_append.2 ⟨hspaces _, hcut⟩

/-- What a wrapper makes of the output of an inner pattern. -/
theorem Wrapper.Confined.output {wrapper : Wrapper} (h : wrapper.Confined false) {text : Text}
    (htext : EscapeFree text) (level : Level) (anyVariable : Bool) :
    EscapeFree (wrapper.output level anyVariable text) := by
  cases wrapper with
  | style name sequence on =>
    cases on with
    | false =>
      simp only [Wrapper.output, Style.styled_false]
      exact htext
    | true => exact absurd (h rfl).1 Bool.false_ne_true
  | highlight sequences on =>
    cases on with
    | false =>
      simp only [Wrapper.output, Style.styled_false]
      exact htext
    | true => exact absurd (h rfl).1 Bool.false_ne_true
  | notEmpty =>
    simp only [Wrapper.output]
    split
    · exact htext
    · exact Text.escapeFree_nil
  | maxLength limit =>
    simp only [Wrapper.output, Wrapper.shortened]
    split
    · exact htext
    · refine Text.escapeFree_append.2 ⟨htext.take limit, ?_⟩
      split <;> decide
  | replace regex replacement =>
    have hboth : EscapeFree (text ++ replacement) := Text.escapeFree_append.2 ⟨htext, h.2⟩
    exact hboth.of_subset (h.1 replacement text)

/-- Fitting what was added to a width adds plain text still. -/
theorem Field.addsPlain_of_converter {scene : Scene} {converter : Converter}
    {buffer : Text}
    (h : AddsPlain buffer (converter.write scene buffer).buffer) (width : FieldWidth) :
    AddsPlain buffer (Field.write scene buffer ⟨converter, width⟩).buffer := by
  simp only [Field.write]
  split
  · exact h
  · obtain ⟨text, htext, hfree⟩ := h
    rw [htext, FieldWidth.adjust_append]
    exact .add buffer (width.escapeFree_fit hfree)

/-- Fields add plain text if each of them does. -/
theorem Field.addsPlain_of_writeAll {scene : Scene} {fields : Pattern}
    (h : ∀ field ∈ fields, ∀ buffer, AddsPlain buffer (field.write scene buffer).buffer)
    (buffer : Text) : AddsPlain buffer (Field.writeAll scene buffer fields).buffer := by
  induction fields generalizing buffer with
  | nil => exact .refl buffer
  | cons field rest ih =>
    rw [List.forall_mem_cons] at h
    simp only [Field.writeAll]
    split
    · exact h.1 buffer
    · exact (h.1 buffer).trans (ih h.2 _)

section

variable {scene : Scene} (hscene : scene.EscapeFree)

include hscene

theorem Converter.Confined.addsPlain {converter : Converter} (h : converter.Confined false)
    (buffer : Text) : AddsPlain buffer (converter.write scene buffer).buffer := by
  have hrecord := hscene.record
  cases converter with
  | literal literal => exact .add buffer h.output
  | message markup =>
    refine .add buffer (Style.Markup.escapeFree_render (fun depth heq => ?_) hrecord.payload)
    exact Bool.false_ne_true (h depth heq)
  | level labels =>
    refine .add buffer ?_
    split
    · rename_i given
      exact (h given rfl).label _
    · exact scene.record.level.escapeFree_name
  | logger abbreviation => exact .add buffer (h.apply hrecord.target)
  | thread => exact .add buffer (EscapeFree.getD hrecord.thread)
  | date clock =>
    have htext := (DateClock.EscapeFree.write h scene.record.time).2
    simp only [Converter.write]
    split
    · rename_i next text heq
      exact .add buffer (htext text (by rw [heq]))
    · exact .refl buffer
  | lineSeparator => exact .add buffer (by decide)
  | throwable style => exact .add buffer (ThrownText.escapeFree_output h hrecord.thrown buffer)
  | context keys =>
    simp only [Converter.write]
    split
    · rename_i text heq
      exact .add buffer (ContextKeys.escapeFree_output hscene heq)
    · exact .refl buffer
  | file => exact .add buffer hrecord.fileName
  | line =>
    refine .add buffer ?_
    split
    · exact EscapeFree.ofNat _
    · exact Text.escapeFree_nil
  | modulePath => exact .add buffer (EscapeFree.getD hrecord.modulePath)
  | location => exact .add buffer hrecord.location
  | processId id => exact .add buffer h
  | custom converter => exact h.elim
  | wrapped wrapper fields => exact h.elim

/-- A field without styles adds plain text, and a failing one too. -/
theorem Field.Confined.addsPlain {field : Field} (h : field.Confined false) (buffer : Text) :
    AddsPlain buffer (field.write scene buffer).buffer := by
  induction h generalizing buffer with
  | plain h => exact Field.addsPlain_of_converter (h.addsPlain hscene buffer) _
  | @wrapped wrapper fields width hwrapper h ih =>
    refine Field.addsPlain_of_converter ?_ width
    simp only [Converter.write]
    split
    · exact .refl buffer
    · obtain ⟨text, htext, hfree⟩ := Field.addsPlain_of_writeAll ih []
      rw [htext, List.nil_append]
      exact .add buffer (hwrapper.output hfree _ _)

end

namespace Pattern

theorem Confined.next {ansi : Bool} {pattern : Pattern} (h : pattern.Confined ansi)
    (scene : Scene) (buffer : Text) : Confined ansi (pattern.write scene buffer).next :=
  Field.forall_mem_next (fun field hfield => ⟨h field hfield, (h field hfield).next⟩) buffer

theorem Confined.addsPlain {pattern : Pattern} (h : pattern.Confined false) {scene : Scene}
    (hscene : scene.EscapeFree) (buffer : Text) :
    AddsPlain buffer (pattern.write scene buffer).buffer :=
  Field.addsPlain_of_writeAll (fun field hfield => (h field hfield).addsPlain hscene) buffer

/-- Records in turn: each that holds no escape character is written without one,
whatever the records before it hold. -/
theorem addsPlain_of_writeEach {pattern : Pattern} (h : pattern.Confined false) (buffer : Text)
    (scenes : List Scene) :
    List.Forall₂ (fun scene written => scene.EscapeFree → AddsPlain buffer written.buffer)
      scenes (pattern.writeEach buffer scenes) := by
  induction scenes generalizing pattern with
  | nil => exact .nil
  | cons scene rest ih =>
    exact .cons (fun hscene => h.addsPlain hscene buffer) (ih (h.next scene buffer))

end Pattern

end LogLine
