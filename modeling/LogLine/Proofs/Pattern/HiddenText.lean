/-
  Proofs/Pattern/HiddenText.lean --- when an inner pattern that shows nothing is
  hidden.

  An inner pattern may be written only if some variable field of it wrote
  something.  What counts is the field as it stands in the buffer, after it was
  cut and filled.  So a converter that adds nothing still counts if its field has
  a least width, since the field is filled with spaces.  Where all variable
  converters are silent, the inner pattern is hidden exactly if none of their
  fields is filled:

      Field.write_of_silent              a silent converter leaves the filling
      Field.anyVariable_of_silent        fields in turn
      Pattern.write_notEmpty_of_silent   what is written of the inner pattern
-/
import LogLine.Proofs.Pattern.AppendOnly
import LogLine.Pattern.Builtin
import LogLine.Proofs.Pattern.Resolution

set_option autoImplicit false

namespace LogLine

/-! ## Silent converters -/

/-- The variable converters of some fields are silent: each leaves the buffer as
the fields before it left it. -/
def Field.VariablesSilent (scene : Scene) (buffer : Text) (fields : Pattern) : Prop :=
  ∀ before field after, fields = before ++ field :: after → field.converter.isVariable = true →
    (field.converter.write scene (Pattern.write before scene buffer).buffer).buffer =
      (Pattern.write before scene buffer).buffer

/-- Whether a field is filled although its output depends on the record. -/
def Field.fillsVariable (field : Field) : Bool :=
  field.converter.isVariable && decide (0 < field.width.least)

/-- A converter that leaves what the buffer holds, whatever it is. -/
def Converter.Appends (converter : Converter) : Prop :=
  ∀ scene buffer, buffer <+: (converter.write scene buffer).buffer

theorem Converter.appends_of_isOwn {converter : Converter} (h : converter.isOwn = true) :
    converter.Appends :=
  fun scene _ => (Converter.sameAddition scene h (.inl rfl)).isPrefix

/-- An empty field is filled to its least width. -/
theorem FieldWidth.fit_nil (width : FieldWidth) :
    width.fit [] = List.replicate width.least ' ' := by
  have hcut : width.cut [] = [] := by
    unfold cut
    split <;> simp
  rw [fit, hcut]
  simp [fill]

section

variable {scene : Scene} {buffer : Text} {field : Field} {fields : Pattern}

/-- The field of a converter that succeeds is cut and filled. -/
theorem Field.buffer_of_success (h : (field.write scene buffer).failure = none) :
    (field.write scene buffer).buffer =
      field.width.adjust buffer.length (field.converter.write scene buffer).buffer := by
  obtain ⟨converter, width⟩ := field
  have hconverter : (converter.write scene buffer).failure = none := h
  simp [Field.write, hconverter]

/-- Of a silent converter, the spaces remain that its field is filled with. -/
theorem Field.write_of_silent (hsuccess : (field.write scene buffer).failure = none)
    (hsilent : (field.converter.write scene buffer).buffer = buffer) :
    (field.write scene buffer).buffer = buffer ++ List.replicate field.width.least ' ' := by
  have hadjust := field.width.adjust_append buffer []
  rw [List.append_nil, FieldWidth.fit_nil] at hadjust
  rw [Field.buffer_of_success hsuccess, hsilent, hadjust]

/-- The field of a converter that appends leaves what the buffer holds. -/
theorem Field.isPrefix_write (happends : field.converter.Appends)
    (hsuccess : (field.write scene buffer).failure = none) :
    buffer <+: (field.write scene buffer).buffer := by
  obtain ⟨text, htext⟩ := happends scene buffer
  rw [Field.buffer_of_success hsuccess, ← htext, FieldWidth.adjust_append]
  exact List.prefix_append _ _

/-! ## Fields in turn -/

/-- Fields succeed if the first one does and the others do after it. -/
theorem Field.failure_writeAll_cons_eq_none_iff :
    (Field.writeAll scene buffer (field :: fields)).failure = none ↔
      (field.write scene buffer).failure = none ∧
        (Field.writeAll scene (field.write scene buffer).buffer fields).failure = none := by
  simp only [Field.writeAll]
  cases hfailure : (field.write scene buffer).failure with
  | none => simp
  | some error => simp

theorem Field.buffer_writeAll_cons (h : (field.write scene buffer).failure = none) :
    (Field.writeAll scene buffer (field :: fields)).buffer =
      (Field.writeAll scene (field.write scene buffer).buffer fields).buffer := by
  simp [Field.writeAll, h]

theorem Field.anyVariable_writeAll_cons (h : (field.write scene buffer).failure = none) :
    (Field.writeAll scene buffer (field :: fields)).anyVariable =
      ((Field.writeAll scene (field.write scene buffer).buffer fields).anyVariable ||
        (field.converter.isVariable &&
          decide (buffer.length < (field.write scene buffer).buffer.length))) := by
  simp [Field.writeAll, h]

theorem Field.variablesSilent_nil : Field.VariablesSilent scene buffer [] := by
  intro before field after heq
  simp at heq

/-- After a first field that succeeds, the others begin with what it left. -/
theorem Field.variablesSilent_cons_iff (hsuccess : (field.write scene buffer).failure = none) :
    Field.VariablesSilent scene buffer (field :: fields) ↔
      (field.converter.isVariable = true →
        (field.converter.write scene buffer).buffer = buffer) ∧
      Field.VariablesSilent scene (field.write scene buffer).buffer fields := by
  have hbuffer : ∀ before : Pattern, (Pattern.write (field :: before) scene buffer).buffer =
      (Pattern.write before scene (field.write scene buffer).buffer).buffer :=
    fun _ => Field.buffer_writeAll_cons hsuccess
  constructor
  · intro h
    refine ⟨h [] field fields rfl, fun before later after heq hvariable => ?_⟩
    have hlater := h (field :: before) later after (congrArg (field :: ·) heq) hvariable
    rwa [hbuffer] at hlater
  · rintro ⟨hfirst, hrest⟩ before later after heq hvariable
    cases before with
    | nil =>
      obtain ⟨rfl, -⟩ := List.cons.inj heq
      exact hfirst hvariable
    | cons first before =>
      obtain ⟨rfl, hfields⟩ := List.cons.inj heq
      rw [hbuffer]
      exact hrest before later after hfields hvariable

/-- Where the variable converters are silent, some variable field adds to the
buffer exactly if one is filled. -/
theorem Field.anyVariable_of_silent
    (hsuccess : (Field.writeAll scene buffer fields).failure = none)
    (hsilent : Field.VariablesSilent scene buffer fields) :
    (Field.writeAll scene buffer fields).anyVariable = fields.any Field.fillsVariable := by
  induction fields generalizing buffer with
  | nil => rfl
  | cons field rest ih =>
    obtain ⟨hfield, hrest⟩ := Field.failure_writeAll_cons_eq_none_iff.1 hsuccess
    obtain ⟨hfirst, hlater⟩ := (Field.variablesSilent_cons_iff hfield).1 hsilent
    -- the buffer grows by the filling alone, so the flag of the field is its least width
    have hflag : (field.converter.isVariable &&
        decide (buffer.length < (field.write scene buffer).buffer.length)) =
          field.fillsVariable := by
      unfold Field.fillsVariable
      cases hvariable : field.converter.isVariable with
      | false => rfl
      | true =>
        rw [Field.write_of_silent hfield (hfirst hvariable)]
        simp
    rw [Field.anyVariable_writeAll_cons hfield, ih hrest hlater, hflag, List.any_cons,
      Bool.or_comm]

/-- Converters that append never take back what a variable field added. -/
theorem Field.length_lt_of_anyVariable (happends : ∀ field ∈ fields, field.converter.Appends)
    (hsuccess : (Field.writeAll scene buffer fields).failure = none) :
    buffer.length ≤ (Field.writeAll scene buffer fields).buffer.length ∧
      ((Field.writeAll scene buffer fields).anyVariable = true →
        buffer.length < (Field.writeAll scene buffer fields).buffer.length) := by
  induction fields generalizing buffer with
  | nil => exact ⟨Nat.le_refl _, nofun⟩
  | cons field rest ih =>
    rw [List.forall_mem_cons] at happends
    obtain ⟨hfield, hrest⟩ := Field.failure_writeAll_cons_eq_none_iff.1 hsuccess
    have hfirst := (Field.isPrefix_write happends.1 hfield).length_le
    obtain ⟨hlater, hadded⟩ := ih happends.2 hrest
    rw [Field.buffer_writeAll_cons hfield, Field.anyVariable_writeAll_cons hfield]
    refine ⟨Nat.le_trans hfirst hlater, fun h => ?_⟩
    rcases Bool.or_eq_true_iff.1 h with h | h
    · exact Nat.lt_of_le_of_lt hfirst (hadded h)
    · simp only [Bool.and_eq_true, decide_eq_true_eq] at h
      exact Nat.lt_of_lt_of_le h.2 hlater

end

/-! ## The inner pattern -/

namespace Pattern

/-- An inner pattern that is to be written only if it shows something variable,
where its variable converters are silent: all of its text is written if the field
of one of them is filled, and nothing otherwise.  So if its converters only
append, it vanishes exactly where none of these fields has a least width. -/
theorem write_notEmpty_of_silent {fields : Pattern} {scene : Scene}
    (hsuccess : (fields.write scene []).failure = none)
    (hsilent : Field.VariablesSilent scene [] fields) (buffer : Text) :
    (Converter.write scene buffer (.wrapped .notEmpty fields)).failure = none ∧
      (Converter.write scene buffer (.wrapped .notEmpty fields)).buffer =
        buffer ++ (if fields.any Field.fillsVariable then (fields.write scene []).buffer else []) ∧
      ((∀ field ∈ fields, field.converter.Appends) →
        ((Converter.write scene buffer (.wrapped .notEmpty fields)).buffer = buffer ↔
          ∀ field ∈ fields, field.converter.isVariable = true → field.width.least = 0)) := by
  have hflag := Field.anyVariable_of_silent hsuccess hsilent
  have hwritten : Converter.write scene buffer (.wrapped .notEmpty fields) =
      { next := .wrapped .notEmpty (fields.write scene []).next
        buffer := buffer ++
          (if fields.any Field.fillsVariable then (fields.write scene []).buffer else []) } := by
    have hinner : (Field.writeAll scene [] fields).failure = none := hsuccess
    simp only [Converter.write, hinner, Wrapper.output, hflag]
    rfl
  rw [hwritten]
  refine ⟨rfl, rfl, fun happends => ?_⟩
  have hnone : (∀ field ∈ fields, field.converter.isVariable = true → field.width.least = 0) ↔
      fields.any Field.fillsVariable = false := by
    simp [Field.fillsVariable]
  rw [hnone]
  cases hfilled : fields.any Field.fillsVariable with
  | false => simp
  | true =>
    have hadded := (Field.length_lt_of_anyVariable happends hsuccess).2 (hflag.trans hfilled)
    have hne : (fields.write scene []).buffer ≠ [] := List.ne_nil_of_length_pos hadded
    simpa using hne

/-- A value of the context that is cut, the attached error, and brackets. -/
def cutUser : Pattern :=
  [literalField {} ['['], ⟨.context ⟨["user".toList]⟩, { left := true, most := some 3 }⟩,
    ⟨.throwable {}, {}⟩, literalField {} [']', ' ']]

/-- A record without entries and without an error. -/
def bareScene : Scene := { record := {} }

theorem write_notEmpty_of_silent_cutUser :
    (cutUser.write bareScene []).failure = none ∧
      Field.VariablesSilent bareScene [] cutUser ∧
      (∀ field ∈ cutUser, field.converter.Appends) ∧
      (Converter.write bareScene "ab".toList (.wrapped .notEmpty cutUser)).buffer =
        "ab".toList := by
  have hsuccess : (cutUser.write bareScene []).failure = none := rfl
  have hsilent : Field.VariablesSilent bareScene [] cutUser := by
    refine (Field.variablesSilent_cons_iff rfl).2 ⟨nofun, ?_⟩
    refine (Field.variablesSilent_cons_iff rfl).2 ⟨fun _ => rfl, ?_⟩
    refine (Field.variablesSilent_cons_iff rfl).2 ⟨fun _ => rfl, ?_⟩
    exact (Field.variablesSilent_cons_iff rfl).2 ⟨nofun, Field.variablesSilent_nil⟩
  have happends : ∀ field ∈ cutUser, field.converter.Appends := by
    have hown : ∀ field ∈ cutUser, field.converter.isOwn = true := by
      simp [cutUser, literalField, Converter.isOwn]
    exact fun field hfield => Converter.appends_of_isOwn (hown field hfield)
  refine ⟨hsuccess, hsilent, happends, ?_⟩
  have hhidden := (write_notEmpty_of_silent hsuccess hsilent "ab".toList).2.2 happends
  refine hhidden.2 ?_
  simp [cutUser, literalField, FieldWidth.natural]

/-- A value of the context in a field of eight characters, between brackets. -/
def filledUser : Pattern :=
  [literalField {} ['['], ⟨.context ⟨["user".toList]⟩, { left := true, least := 8 }⟩,
    literalField {} [']', ' ']]

/-- The text of that pattern. -/
def filledText : Text := "[%-8X\x7buser\x7d] ".toList

/-- A specifier that is to hide it. -/
def hidingText : Text := "%notEmpty\x7b".toList ++ filledText ++ ['\x7d']

/-- Without that value the brackets are written all the same, with the spaces that
the field is filled with between them. -/
theorem not_hidden_filledUser :
    compile Builtin.rules {} hidingText = .done [⟨.wrapped .notEmpty filledUser, .natural⟩] [] ∧
      (filledUser.write bareScene []).failure = none ∧
      Field.VariablesSilent bareScene [] filledUser ∧
      (Converter.write bareScene [] (.wrapped .notEmpty filledUser)).buffer =
        "[        ] ".toList ∧
      (Converter.write bareScene [] (.wrapped .notEmpty filledUser)).buffer ≠ [] := by
  have hinner : compile Builtin.rules {} filledText = .done filledUser [] := by
    have hscan : scan filledText =
        [.literal '[', .specifier ⟨1, "%-8X\x7buser\x7d".toList, { left := true, least := 8 },
          ['X'], ["user".toList]⟩, .literal ']', .literal ' '] := by
      decide +kernel
    refine compile_eq_done_nil_iff.2 ⟨[.text ['['], .field ⟨.context ⟨["user".toList]⟩,
      { left := true, least := 8 }⟩ [], .text [']'], .text [' ']], ?_, rfl⟩
    rw [hscan]
    rfl
  have hcreate : Builtin.notEmpty.create {} (argumentsOf Builtin.rules {} [filledText]) =
      .made (.wrapped .notEmpty filledUser) [] := by
    show Creation.ofPattern (compile Builtin.rules {} filledText) _ = _
    rw [hinner]
    rfl
  have hcompile : compile Builtin.rules {} hidingText =
      .done [⟨.wrapped .notEmpty filledUser, .natural⟩] [] := by
    have hscan : scan hidingText =
        [.specifier ⟨0, hidingText, .natural, "notEmpty".toList, [filledText]⟩] := by
      decide +kernel
    refine compile_eq_done_nil_iff.2
      ⟨[.field ⟨.wrapped .notEmpty filledUser, .natural⟩ []], ?_, rfl⟩
    rw [hscan]
    refine congrArg (· :: []) (resolvePiece_specifier_iff.2 ⟨Nat.zero_le _, by decide, ?_⟩)
    exact ⟨_, _, _, rfl, hcreate, rfl⟩
  have hsilent : Field.VariablesSilent bareScene [] filledUser := by
    refine (Field.variablesSilent_cons_iff rfl).2 ⟨nofun, ?_⟩
    refine (Field.variablesSilent_cons_iff rfl).2 ⟨fun _ => rfl, ?_⟩
    exact (Field.variablesSilent_cons_iff rfl).2 ⟨nofun, Field.variablesSilent_nil⟩
  exact ⟨hcompile, rfl, hsilent, rfl, by decide⟩

end Pattern

end LogLine
