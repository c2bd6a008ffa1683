/-
  Proofs/Pattern/AppendOnly.lean --- writing only appends, and of the buffer it
  sees one bit.

  A field is cut and filled in place, but only from where it began.  So whatever
  the widths, a record adds a text to the buffer and leaves what was there.  The
  text depends on the buffer through the space before an attached error alone:
  one, if the buffer ends in a character that is not white space.  Inner patterns
  write to a buffer of their own, which cuts this off:

      Converter.write_eq_append     converters that do not look at the buffer
      Field.sameAddition            one field, from two buffers
      Field.sameAddition_writeAll   fields in turn
      Pattern.write_appends         a record
-/
import LogLine.Pattern.Output

set_option autoImplicit false

namespace LogLine

/-! ## Buffers -/

/-- Whether what a converter adds depends on what the buffer holds. -/
def Converter.readsBuffer : Converter → Bool
  | .throwable _ | .custom _ => true
  | _ => false

/-- A converter that does not read the buffer adds the same text to any. -/
theorem Converter.write_eq_append {converter : Converter} (h : converter.readsBuffer = false)
    (scene : Scene) (buffer : Text) :
    converter.write scene buffer =
      { next := (converter.write scene []).next
        buffer := buffer ++ (converter.write scene []).buffer
        failure := (converter.write scene []).failure } := by
  cases converter with
  | throwable | custom => cases h
  | date clock =>
    simp only [Converter.write]
    split
    · rfl
    · rw [List.append_nil]
  | context keys =>
    simp only [Converter.write]
    split
    · rfl
    · rw [List.append_nil]
  | wrapped wrapper fields =>
    simp only [Converter.write]
    split
    · rw [List.append_nil]
    · rfl
  | _ => rfl

/-- So does its field, whatever the widths. -/
theorem Field.write_eq_append {converter : Converter} (h : converter.readsBuffer = false)
    (width : FieldWidth) (scene : Scene) (buffer : Text) :
    Field.write scene buffer ⟨converter, width⟩ =
      { next := (Field.write scene [] ⟨converter, width⟩).next
        buffer := buffer ++ (Field.write scene [] ⟨converter, width⟩).buffer
        failure := (Field.write scene [] ⟨converter, width⟩).failure } := by
  have hfit := width.adjust_append []
  simp only [List.length_nil, List.nil_append] at hfit
  simp only [Field.write, Converter.write_eq_append h scene buffer]
  split
  · rfl
  · rw [FieldWidth.adjust_append, List.length_nil, hfit]

/-! ## What an attached error sees -/

/-- Whether a text ends in a character that is not white space. -/
def Text.endsVisibly (text : Text) : Bool := text.getLast?.any fun c => !Text.isBlank c

/-- What stands before a text matters only where nothing was added. -/
theorem Text.endsVisibly_append_congr {a b : Text} (h : Text.endsVisibly a = Text.endsVisibly b)
    (text : Text) : Text.endsVisibly (a ++ text) = Text.endsVisibly (b ++ text) := by
  cases hlast : text.getLast? with
  | none =>
    obtain rfl := List.getLast?_eq_none_iff.1 hlast
    rw [List.append_nil, List.append_nil, h]
  | some c => simp only [Text.endsVisibly, List.getLast?_append, hlast, Option.some_or]

theorem ThrownText.leadingSpace_eq (buffer : Text) :
    leadingSpace buffer = if Text.endsVisibly buffer then [' '] else [] := by
  unfold leadingSpace Text.endsVisibly
  cases buffer.getLast? with
  | none => rfl
  | some c =>
    simp only [Option.any_some, Bool.not_eq_true']
    cases hblank : Text.isBlank c with
    | true => simp
    | false => simp

theorem ThrownText.output_congr (style : ThrownText) {buffer buffer' : Text}
    (h : Text.endsVisibly buffer = Text.endsVisibly buffer') (thrown : List Text) :
    style.output buffer thrown = style.output buffer' thrown := by
  simp only [output, leadingSpace_eq, h]

/-! ## Two buffers -/

/-- Whether a converter is one of this library, with whatever is inside it. -/
def Converter.isOwn : Converter → Bool
  | .custom _ => false
  | _ => true

/-- Whether a converter itself writes the attached error. -/
def Converter.isThrowable : Converter → Bool
  | .throwable _ => true
  | _ => false

/-- Two runs from two buffers do the same: they fail alike, they leave the same
to write the next record, and they add the same text. -/
structure SameAddition {α : Type} (before before' : Text) (written written' : Written α) :
    Prop where
  failure : written'.failure = written.failure
  next : written'.next = written.next
  text : ∃ text, written.buffer = before ++ text ∧ written'.buffer = before' ++ text

/-- What was there stays there. -/
theorem SameAddition.isPrefix {α : Type} {before before' : Text} {written written' : Written α}
    (h : SameAddition before before' written written') : before <+: written.buffer := by
  obtain ⟨text, htext, -⟩ := h.text
  exact ⟨text, htext.symm⟩

section

variable (scene : Scene) {buffer buffer' : Text}

theorem Converter.sameAddition {converter : Converter} (hown : converter.isOwn = true)
    (hsees : Text.endsVisibly buffer = Text.endsVisibly buffer' ∨ converter.isThrowable = false) :
    SameAddition buffer buffer' (converter.write scene buffer) (converter.write scene buffer') := by
  cases hreads : converter.readsBuffer with
  | false =>
    rw [Converter.write_eq_append hreads scene buffer,
      Converter.write_eq_append hreads scene buffer']
    exact ⟨rfl, rfl, _, rfl, rfl⟩
  | true =>
    cases converter with
    | throwable style =>
      have hends := hsees.resolve_right Bool.noConfusion
      exact ⟨rfl, rfl, _, rfl, by rw [style.output_congr hends]; rfl⟩
    | custom converter => cases hown
    | _ => cases hreads

/-- A field is fitted from where it began, so its widths change nothing of this. -/
theorem Field.sameAddition {field : Field} (hown : field.converter.isOwn = true)
    (hsees : Text.endsVisibly buffer = Text.endsVisibly buffer' ∨
      field.converter.isThrowable = false) :
    SameAddition buffer buffer' (field.write scene buffer) (field.write scene buffer') := by
  obtain ⟨converter, width⟩ := field
  obtain ⟨hfailure, hnext, text, htext, htext'⟩ :=
    Converter.sameAddition scene hown hsees
  simp only [Field.write, hfailure, hnext, htext, htext', FieldWidth.adjust_append]
  refine ⟨rfl, rfl, ?_⟩
  split
  · exact ⟨text, rfl, rfl⟩
  · exact ⟨width.fit text, rfl, rfl⟩

/-- Fields in turn: where two buffers end alike, so they do after each field. -/
theorem Field.sameAddition_writeAll {fields : List Field}
    (hown : ∀ field ∈ fields, field.converter.isOwn = true)
    (hsees : Text.endsVisibly buffer = Text.endsVisibly buffer' ∨
      ∀ field ∈ fields, field.converter.isThrowable = false) :
    SameAddition buffer buffer' (Field.writeAll scene buffer fields).toWritten
      (Field.writeAll scene buffer' fields).toWritten := by
  induction fields generalizing buffer buffer' with
  | nil => exact ⟨rfl, rfl, [], (List.append_nil _).symm, (List.append_nil _).symm⟩
  | cons field rest ih =>
    rw [List.forall_mem_cons] at hown
    simp only [List.forall_mem_cons] at hsees
    obtain ⟨hfailure, hnext, text, htext, htext'⟩ :=
      Field.sameAddition scene hown.1 (hsees.imp_right And.left)
    simp only [Field.writeAll, hfailure, hnext]
    split
    · exact ⟨rfl, rfl, text, htext, htext'⟩
    · rw [htext, htext']
      have hlater := hsees.imp (fun hends => Text.endsVisibly_append_congr hends text) And.right
      obtain ⟨hfailure, hnext, more, hmore, hmore'⟩ := ih hown.2 hlater
      refine ⟨hfailure, congrArg (_ :: ·) hnext, text ++ more, ?_, ?_⟩
      · rw [hmore, List.append_assoc]
      · rw [hmore', List.append_assoc]

end

namespace Pattern

/-- A pattern of converters of this library leaves what a buffer holds and adds
to it, also where it fails.  To two buffers that end alike, in a character that is
not white space or not, it adds the same text with the same result; and to any
two if the attached error is written only inside other converters, if at all. -/
theorem write_appends {pattern : Pattern}
    (hown : ∀ field ∈ pattern, field.converter.isOwn = true) (scene : Scene) :
    (∀ buffer, buffer <+: (pattern.write scene buffer).buffer) ∧
      ∀ buffer buffer',
        (Text.endsVisibly buffer = Text.endsVisibly buffer' ∨
          ∀ field ∈ pattern, field.converter.isThrowable = false) →
        SameAddition buffer buffer' (pattern.write scene buffer) (pattern.write scene buffer') := by
  refine ⟨fun buffer => ?_, fun buffer buffer' => Field.sameAddition_writeAll scene hown⟩
  have hsame : SameAddition buffer buffer (pattern.write scene buffer)
      (pattern.write scene buffer) := Field.sameAddition_writeAll scene hown (.inl rfl)
  exact hsame.isPrefix

/-- The attached error in a field that is filled, and the beginning of it. -/
def shownTwice : Pattern :=
  [⟨.throwable {}, { left := true, least := 9 }⟩,
    ⟨.wrapped (.maxLength 3) [⟨.throwable {}, {}⟩], {}⟩]

/-- A record with an attached error. -/
def lateScene : Scene := { record := { payload := "tick".toList, thrown := ["late".toList] } }

theorem write_appends_shownTwice :
    (∀ field ∈ shownTwice, field.converter.isOwn = true) ∧
      Text.endsVisibly "ab".toList = Text.endsVisibly "x:".toList ∧
      "ab".toList <+: (shownTwice.write lateScene "ab".toList).buffer ∧
      SameAddition "ab".toList "x:".toList (shownTwice.write lateScene "ab".toList)
        (shownTwice.write lateScene "x:".toList) := by
  have hown : ∀ field ∈ shownTwice, field.converter.isOwn = true := by
    simp [shownTwice, Converter.isOwn]
  have hends : Text.endsVisibly "ab".toList = Text.endsVisibly "x:".toList := by decide
  have happends := write_appends hown lateScene
  exact ⟨hown, hends, happends.1 _, happends.2 _ _ (.inl hends)⟩

/-- White space at the end of the buffer takes the place of the space. -/
example : (shownTwice.write lateScene "ab".toList).buffer = "ab late    lat".toList ∧
    (shownTwice.write lateScene "a ".toList).buffer = "a late     lat".toList := by decide

end Pattern

end LogLine
