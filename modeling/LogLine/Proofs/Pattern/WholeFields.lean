/-
  Proofs/Pattern/WholeFields.lean --- a record that fails leaves whole fields.

  Writing stops at the first field that fails.  A converter of this library fails
  before it adds anything to the buffer: entries are collected and a time is
  checked before their text is made, and an inner pattern, whatever it holds,
  writes to a buffer of its own, which is dropped.  So the buffer keeps the fields
  before the failing one, each cut and filled to its widths, and nothing else:

      Converter.write_of_failure        a converter that fails leaves the buffer
      WrittenWhole.write_append         whole fields, and the fields after them
      Pattern.whole_fields_of_failure   a pattern
-/
import LogLine.Proofs.Pattern.AppendOnly
import LogLine.Proofs.Pattern.Resolution

set_option autoImplicit false

namespace LogLine

/-! ## One converter -/

section

variable {scene : Scene} {buffer : Text} {converter : Converter}

/-- What a converter of this library left, if it failed, is what was there. -/
theorem Converter.buffer_of_failure (hown : converter.isOwn = true) {error : Error}
    (h : (converter.write scene buffer).failure = some error) :
    (converter.write scene buffer).buffer = buffer := by
  cases converter with
  | date clock =>
    simp only [Converter.write] at h ⊢
    split
    · rename_i written
      rw [written] at h
      cases h
    · rfl
  | context keys =>
    simp only [Converter.write] at h ⊢
    split
    · rename_i written
      rw [written] at h
      cases h
    · rfl
  | wrapped wrapper fields =>
    simp only [Converter.write] at h ⊢
    rw [h]
    rfl
  | custom custom => cases hown
  | _ => cases h

theorem Converter.write_of_failure (hown : converter.isOwn = true) {error : Error}
    (h : (converter.write scene buffer).failure = some error) :
    ∃ next, converter.write scene buffer = { next, buffer, failure := some error } := by
  have hbuffer := Converter.buffer_of_failure hown h
  generalize converter.write scene buffer = written at h hbuffer ⊢
  obtain ⟨next, after, failure⟩ := written
  obtain rfl : after = buffer := hbuffer
  obtain rfl : failure = some error := h
  exact ⟨next, rfl⟩

theorem Converter.write_of_success (hown : converter.isOwn = true)
    (h : (converter.write scene buffer).failure = none) :
    ∃ next text, converter.write scene buffer = { next, buffer := buffer ++ text } := by
  obtain ⟨-, -, text, htext, -⟩ :=
    Converter.sameAddition scene hown (.inl (Eq.refl (Text.endsVisibly buffer)))
  generalize converter.write scene buffer = written at h htext ⊢
  obtain ⟨next, after, failure⟩ := written
  obtain rfl : after = buffer ++ text := htext
  obtain rfl : failure = none := h
  exact ⟨next, text, rfl⟩

end

/-! ## Whole fields -/

/-- Whether a text is another one in its widths: of a left-aligned field the last
characters that the greatest width keeps, and spaces after them up to the least one;
of a right-aligned field the first ones, and spaces before them. -/
def FieldWidth.ShownAs (width : FieldWidth) (field shown : Text) : Prop :=
  ∃ kept spaces, kept.length = (width.most.elim field.length fun most => min most field.length) ∧
    spaces = List.replicate (width.least - kept.length) ' ' ∧
    (width.left = true → kept <:+ field ∧ shown = kept ++ spaces) ∧
    (width.left = false → kept <+: field ∧ shown = spaces ++ kept)

theorem FieldWidth.shownAs_fit (width : FieldWidth) (field : Text) :
    width.ShownAs field (width.fit field) := by
  refine ⟨width.cut field, _, ?_, rfl, fun hleft => ⟨?_, ?_⟩, fun hright => ⟨?_, ?_⟩⟩
  · unfold cut
    cases width.most with
    | none => rfl
    | some most =>
      simp only [Option.elim_some]
      split
      · omega
      · split
        · rw [List.length_drop]
          omega
        · rw [List.length_take]
  · unfold cut
    split
    · exact List.suffix_rfl
    · split
      · exact List.suffix_rfl
      · exact List.drop_suffix _ _
  · rw [fit, fill, if_pos hleft]
  · unfold cut
    split
    · exact List.prefix_rfl
    · split
      · exact List.prefix_rfl
      · rw [hright, if_neg Bool.false_ne_true]
        exact List.take_prefix _ _
  · rw [fit, fill, hright, if_neg Bool.false_ne_true]

/-- There is one text in the widths. -/
theorem FieldWidth.ShownAs.eq_fit {width : FieldWidth} {field shown : Text}
    (h : width.ShownAs field shown) : shown = width.fit field := by
  obtain ⟨kept, spaces, hlength, rfl, hleft, hright⟩ := h
  obtain ⟨kept', spaces', hlength', rfl, hleft', hright'⟩ := width.shownAs_fit field
  have hsame : kept.length = kept'.length := hlength.trans hlength'.symm
  cases hside : width.left with
  | true =>
    obtain ⟨hkept, rfl⟩ := hleft hside
    obtain ⟨hkept', hfit⟩ := hleft' hside
    rw [hfit, (List.suffix_of_suffix_length_le hkept hkept' hsame.le).eq_of_length hsame]
  | false =>
    obtain ⟨hkept, rfl⟩ := hright hside
    obtain ⟨hkept', hfit⟩ := hright' hside
    rw [hfit, (List.prefix_of_prefix_length_le hkept hkept' hsame.le).eq_of_length hsame]

/-- Fields that are written after the text of a buffer, each of them whole: the
buffer goes on with the text of its converter, cut and filled to its widths.  The
lists hold the fields, what writes the next record, and the texts as they stand
in the output. -/
inductive WrittenWhole (scene : Scene) : Text → Pattern → Pattern → List Text → Prop where
  /-- No field. -/
  | nil {buffer : Text} : WrittenWhole scene buffer [] [] []
  /-- A field that does not fail, and those after it. -/
  | cons {buffer text shown : Text} {converter next : Converter} {width : FieldWidth}
      {fields nexts : Pattern} {texts : List Text}
      (hwrite : converter.write scene buffer = { next, buffer := buffer ++ text })
      (hshown : width.ShownAs text shown)
      (hrest : WrittenWhole scene (buffer ++ shown) fields nexts texts) :
      WrittenWhole scene buffer (⟨converter, width⟩ :: fields) (⟨next, width⟩ :: nexts)
        (shown :: texts)

section

variable {scene : Scene} {buffer text : Text} {converter next : Converter} {error : Error}

/-- A field of a converter that does not fail is cut and filled. -/
theorem Field.write_of_success
    (h : converter.write scene buffer = { next, buffer := buffer ++ text }) (width : FieldWidth) :
    Field.write scene buffer ⟨converter, width⟩ =
      { next := ⟨next, width⟩, buffer := buffer ++ width.fit text } := by
  simp [Field.write, h, FieldWidth.adjust_append]

/-- A field of a converter that fails without a trace leaves none either. -/
theorem Field.write_of_failure
    (h : converter.write scene buffer = { next, buffer, failure := some error })
    (width : FieldWidth) :
    Field.write scene buffer ⟨converter, width⟩ =
      { next := ⟨next, width⟩, buffer, failure := some error } := by
  simp [Field.write, h]

/-- Fields after whole ones begin where those end. -/
theorem WrittenWhole.write_append {fields nexts : Pattern} {texts : List Text}
    (h : WrittenWhole scene buffer fields nexts texts) (later : Pattern) :
    Pattern.write (fields ++ later) scene buffer =
      { next := nexts ++ (later.write scene (buffer ++ texts.flatten)).next
        buffer := (later.write scene (buffer ++ texts.flatten)).buffer
        failure := (later.write scene (buffer ++ texts.flatten)).failure } := by
  induction h with
  | nil => simp
  | cons hwrite hshown hrest ih =>
    obtain rfl := hshown.eq_fit
    rw [List.cons_append, Pattern.write_cons, Field.write_of_success hwrite]
    simp [ih]

/-- The first field that fails stops writing; no field after it is looked at. -/
theorem Pattern.write_cons_of_failure
    (h : converter.write scene buffer = { next, buffer, failure := some error })
    (width : FieldWidth) (later : Pattern) :
    Pattern.write (⟨converter, width⟩ :: later) scene buffer =
      { next := ⟨next, width⟩ :: later, buffer, failure := some error } := by
  rw [Pattern.write_cons, Field.write_of_failure h]
  rfl

end

/-- Where a pattern fails: the fields before are whole, and this converter fails
after them and adds nothing. -/
structure FailsAt (scene : Scene) (buffer : Text) (error : Error) (before nexts : Pattern)
    (texts : List Text) (converter next : Converter) : Prop where
  /-- The fields before it. -/
  whole : WrittenWhole scene buffer before nexts texts
  /-- The converter that fails. -/
  failing : converter.write scene (buffer ++ texts.flatten) =
    { next, buffer := buffer ++ texts.flatten, failure := some error }

namespace Pattern

/-- A pattern that fails has a first field that does. -/
theorem exists_failsAt {pattern : Pattern} (hown : ∀ field ∈ pattern, field.converter.isOwn = true)
    {scene : Scene} {buffer : Text} {error : Error}
    (h : (pattern.write scene buffer).failure = some error) :
    ∃ before converter width after nexts texts next,
      pattern = before ++ ⟨converter, width⟩ :: after ∧
      FailsAt scene buffer error before nexts texts converter next := by
  induction pattern generalizing buffer with
  | nil => cases h
  | cons field rest ih =>
    obtain ⟨converter, width⟩ := field
    rw [List.forall_mem_cons] at hown
    cases hfailure : (converter.write scene buffer).failure with
    | some found =>
      obtain ⟨next, hwrite⟩ := Converter.write_of_failure hown.1 hfailure
      rw [write_cons_of_failure hwrite] at h
      obtain rfl : found = error := Option.some.inj h
      refine ⟨[], converter, width, rest, [], [], next, rfl, .nil, ?_⟩
      rw [List.flatten_nil, List.append_nil]
      exact hwrite
    | none =>
      obtain ⟨next, text, hwrite⟩ := Converter.write_of_success hown.1 hfailure
      rw [write_cons, Field.write_of_success hwrite] at h
      obtain ⟨before, failing, width', after, nexts, texts, next', rfl, hwhole, hfailing⟩ :=
        ih hown.2 h
      refine ⟨_, failing, width', after, _, _, next', rfl,
        .cons hwrite (width.shownAs_fit text) hwhole, ?_⟩
      rw [List.flatten_cons, ← List.append_assoc]
      exact hfailing

/-- A pattern of converters of this library, with whatever is inside them, that
fails for a record leaves exactly what the buffer held and the whole fields before
the first one that fails.  That one adds nothing, and the fields after it are not
run: any others in their place give the same result and stay as they are. -/
theorem whole_fields_of_failure {pattern : Pattern}
    (hown : ∀ field ∈ pattern, field.converter.isOwn = true) {scene : Scene} {buffer : Text}
    {error : Error} (h : (pattern.write scene buffer).failure = some error) :
    ∃ before converter width after nexts texts next,
      pattern = before ++ ⟨converter, width⟩ :: after ∧
      FailsAt scene buffer error before nexts texts converter next ∧
      ∀ later : Pattern, Pattern.write (before ++ ⟨converter, width⟩ :: later) scene buffer =
        { next := nexts ++ ⟨next, width⟩ :: later
          buffer := buffer ++ texts.flatten
          failure := some error } := by
  obtain ⟨before, converter, width, after, nexts, texts, next, hpattern, hfails⟩ :=
    exists_failsAt hown h
  refine ⟨before, converter, width, after, nexts, texts, next, hpattern, hfails, ?_⟩
  intro later
  rw [hfails.whole.write_append, write_cons_of_failure hfails.failing]

/-- A converter that adds a text and then fails. -/
def halfBroken : CustomConverter :=
  { name := "Broken".toList
    write := fun _ buffer => (buffer ++ "half".toList, some (Error.new "converter broke")) }

/-- A message that is filled, a thread that is cut, an inner pattern that fails in the
middle, and a newline. -/
def brokenInside : Pattern :=
  [⟨.message .verbatim, { least := 6 }⟩, ⟨.thread, { left := true, most := some 2 }⟩,
    ⟨.wrapped .notEmpty [⟨.thread, {}⟩, ⟨.custom halfBroken, {}⟩], { least := 9 }⟩,
    ⟨.lineSeparator, {}⟩]

/-- A record with a message from a thread. -/
def tickScene : Scene := { record := { payload := "tick".toList, thread := some "pool-12".toList } }

theorem whole_fields_of_failure_brokenInside :
    (∀ field ∈ brokenInside, field.converter.isOwn = true) ∧
      (brokenInside.write tickScene "ab".toList).failure = some (Error.new "converter broke") ∧
      ∃ before converter width after nexts texts next,
        brokenInside = before ++ ⟨converter, width⟩ :: after ∧
        FailsAt tickScene "ab".toList (Error.new "converter broke") before nexts texts converter
          next ∧
        texts.flatten = "  tick12".toList ∧
        ∀ later : Pattern,
          Pattern.write (before ++ ⟨converter, width⟩ :: later) tickScene "ab".toList =
            { next := nexts ++ ⟨next, width⟩ :: later
              buffer := "ab  tick12".toList
              failure := some (Error.new "converter broke") } := by
  have hown : ∀ field ∈ brokenInside, field.converter.isOwn = true := by
    simp [brokenInside, Converter.isOwn]
  have hfailure : (brokenInside.write tickScene "ab".toList).failure =
      some (Error.new "converter broke") := rfl
  have hbuffer : (brokenInside.write tickScene "ab".toList).buffer = "ab  tick12".toList := by
    decide +kernel
  obtain ⟨before, converter, width, after, nexts, texts, next, hpattern, hfails, hwrite⟩ :=
    whole_fields_of_failure hown hfailure
  have htexts : "ab".toList ++ texts.flatten = "ab".toList ++ "  tick12".toList := by
    rw [hpattern, hwrite after] at hbuffer
    exact hbuffer.trans (by decide +kernel)
  have hshown := List.append_cancel_left htexts
  refine ⟨hown, hfailure, before, converter, width, after, nexts, texts, next, hpattern, hfails,
    hshown, ?_⟩
  intro later
  rw [hwrite later, hshown]
  rfl

end Pattern

end LogLine
