/-
  Proofs/Pattern/Resolution.lean --- a pattern is resolved piece by piece.

  Compiling has two outcomes, and each is decided by the pieces alone: the
  pattern is done when all of them are resolved, and a text was cut inside a
  character when one of them cut it.

      compile_eq_done_iff     the fields and the reports are those of the pieces
      compile_eq_broken_iff   the cut is that of a piece

  The fields of literal text are found again in what a pattern writes:

      writes_assemble         fields that write their own characters
-/
import Mathlib.Data.List.Forall2
import LogLine.Pattern.Output
import LogLine.Proofs.Lists
import LogLine.Proofs.Pattern.Outcomes

set_option autoImplicit false

namespace LogLine

namespace Rules

theorem mem_entries_of_find? {rules : Rules} {key : Text} {plugin : Plugin}
    (h : rules.find? key = some plugin) : (key, plugin) ∈ rules.entries := by
  obtain ⟨entry, hentry, rfl⟩ := Option.map_eq_some_iff.1 h
  have hkey : entry.1 = key := by simpa using List.find?_some hentry
  rw [← hkey]
  exact List.mem_of_find?_eq_some hentry

end Rules

namespace Pattern

/-! ## Outcomes -/

/-- What a piece of a pattern is resolved to. -/
def resolvePiece (rules : Rules) (config : Config) (piece : Piece) :
    Option (Resolved × List Report) :=
  resolve rules config piece (argumentsOf rules config piece.options)

theorem compile_eq_mapM (rules : Rules) (config : Config) (pattern : Text) :
    compile rules config pattern =
      match (scan pattern).mapM (resolvePiece rules config) with
      | none => .brokenCharacter
      | some parts => .done (assemble config (parts.map (·.1))) (parts.flatMap (·.2)) := by
  have hmap : ((scan pattern).map (resolvePiece rules config)).mapM id =
      (scan pattern).mapM (resolvePiece rules config) := List.mapM_map
  rw [← hmap]
  exact compile_eq rules config pattern

theorem assemble_eq (config : Config) (parts : List Resolved) :
    assemble config parts = flush config (gather config parts).1 ++ (gather config parts).2 := rfl

/-- A pattern is done when all of its pieces are resolved: its fields are put
together from what they become, and its reports are theirs in order. -/
theorem compile_eq_done_iff {rules : Rules} {config : Config} {pattern : Text} {fields : Pattern}
    {reports : List Report} :
    compile rules config pattern = .done fields reports ↔
      ∃ parts : List (Resolved × List Report),
        (scan pattern).map (resolvePiece rules config) = parts.map some ∧
          fields = assemble config (parts.map (·.1)) ∧ reports = parts.flatMap (·.2) := by
  rw [compile_eq_mapM]
  constructor
  · intro h
    split at h
    · cases h
    · rename_i parts hparts
      injection h with hfields hreports
      exact ⟨parts, mapM_eq_some_iff.1 hparts, hfields.symm, hreports.symm⟩
  · rintro ⟨parts, hparts, rfl, rfl⟩
    rw [mapM_eq_some_iff.2 hparts]

/-- A pattern is done without a problem when every piece is resolved without one. -/
theorem compile_eq_done_nil_iff {rules : Rules} {config : Config} {pattern : Text}
    {fields : Pattern} :
    compile rules config pattern = .done fields [] ↔
      ∃ parts : List Resolved,
        (scan pattern).map (resolvePiece rules config) = parts.map (fun part => some (part, [])) ∧
          fields = assemble config parts := by
  rw [compile_eq_done_iff]
  constructor
  · rintro ⟨parts, hparts, hfields, hreports⟩
    refine ⟨parts.map (·.1), ?_, hfields⟩
    rw [hparts, List.map_map]
    refine List.map_congr_left fun part hpart => ?_
    have hnil : part.2 = [] := List.flatMap_eq_nil_iff.1 hreports.symm part hpart
    rw [Function.comp_apply, ← hnil]
  · rintro ⟨parts, hparts, rfl⟩
    refine ⟨parts.map fun part => (part, []), ?_, ?_, ?_⟩
    · rw [hparts, List.map_map]
      rfl
    · rw [List.map_map]
      congr 1
      exact (List.map_id parts).symm
    · rw [List.flatMap_map]
      simp

/-- A specifier is resolved without a problem when its least width is allowed
and the plugin of its key makes a converter without one. -/
theorem resolvePiece_specifier_iff {rules : Rules} {config : Config} {spec : Specifier}
    {part : Resolved} :
    resolvePiece rules config (.specifier spec) = some (part, []) ↔
      spec.width.least ≤ maxFieldWidth ∧ spec.key ≠ [] ∧
        ∃ plugin leftover converter, rules.resolve? spec.key = some (plugin, leftover) ∧
          plugin.create config (argumentsOf rules config spec.options) = .made converter [] ∧
          part = .field { converter, width := spec.width } leftover := by
  have hpiece : resolvePiece rules config (.specifier spec) =
      resolveSpecifier rules config spec (argumentsOf rules config spec.options) := rfl
  rw [hpiece]
  constructor
  · intro h
    generalize hreports : ([] : List Report) = reports at h
    cases resolveSpecifier_eq_iff.1 h with
    | made hleast hlongest hcreate =>
      subst hreports
      exact ⟨hleast, hlongest.key_ne_nil, _, _, _, hlongest.resolve?, hcreate, rfl⟩
    | failed => cases List.append_ne_nil_of_right_ne_nil _ (List.cons_ne_nil _ _) hreports.symm
  · rintro ⟨hleast, -, plugin, leftover, converter, hfound, hcreate, rfl⟩
    obtain ⟨used, hlongest⟩ := Rules.resolve?_eq_some_iff.1 hfound
    exact (Becomes.made hleast hlongest hcreate).resolveSpecifier

/-- A text was cut inside a character when resolving some piece cut it. -/
theorem compile_eq_broken_iff {rules : Rules} {config : Config} {pattern : Text} :
    compile rules config pattern = .brokenCharacter ↔
      ∃ piece ∈ scan pattern, resolvePiece rules config piece = none := by
  rw [compile_eq_mapM, ← mapM_eq_none_iff]
  split
  · rename_i h
    simp [h]
  · rename_i h
    simp [h]

/-- Only a plugin can cut one, when a specifier asks it. -/
theorem compile_eq_broken_iff_becomes {rules : Rules} {config : Config} {pattern : Text} :
    compile rules config pattern = .brokenCharacter ↔
      ∃ spec, .specifier spec ∈ scan pattern ∧
        Becomes rules config spec (argumentsOf rules config spec.options) none := by
  rw [compile_eq_broken_iff]
  constructor
  · rintro ⟨piece, hpiece, hnone⟩
    cases piece with
    | specifier spec => exact ⟨spec, hpiece, resolveSpecifier_eq_iff.1 hnone⟩
    | literal | percent | malformedDot | unfinished => cases hnone
  · rintro ⟨spec, hspec, hbecomes⟩
    exact ⟨_, hspec, hbecomes.resolveSpecifier⟩

/-! ## Writing the fields of literal text -/

/-- Some fields write the text `s` after any buffer and for any record, and stay
as they are. -/
def Writes (fields : Pattern) (s : Text) : Prop :=
  ∀ (scene : Scene) (buffer : Text),
    fields.write scene buffer = { next := fields, buffer := buffer ++ s }

theorem write_cons (field : Field) (rest : Pattern) (scene : Scene) (buffer : Text) :
    Pattern.write (field :: rest) scene buffer =
      let written := Field.write scene buffer field
      if written.failure.isSome then
        { next := written.next :: rest, buffer := written.buffer, failure := written.failure }
      else
        let later := Pattern.write rest scene written.buffer
        { next := written.next :: later.next
          buffer := later.buffer
          failure := later.failure } := by
  simp only [Pattern.write, Field.writeAll]
  split <;> rfl

/-- Fields are written after those before them, unless one of those fails. -/
theorem write_append (a b : Pattern) (scene : Scene) (buffer : Text) :
    Pattern.write (a ++ b) scene buffer =
      let first := a.write scene buffer
      if first.failure.isSome then
        { next := first.next ++ b, buffer := first.buffer, failure := first.failure }
      else
        let later := b.write scene first.buffer
        { next := first.next ++ later.next, buffer := later.buffer, failure := later.failure } := by
  induction a generalizing buffer with
  | nil => simp [Pattern.write, Field.writeAll]
  | cons field rest ih =>
    rw [List.cons_append, write_cons, write_cons]
    by_cases hfield : (Field.write scene buffer field).failure.isSome
    · simp [hfield]
    · simp only [hfield, Bool.false_eq_true, if_false, ih]
      by_cases hrest : (write rest scene (Field.write scene buffer field).buffer).failure.isSome
      · simp [hrest]
      · simp [hrest]

theorem writes_nil : Writes [] [] := by
  intro scene buffer
  simp [Pattern.write, Field.writeAll]

theorem Writes.append {a b : Pattern} {s t : Text} (ha : Writes a s) (hb : Writes b t) :
    Writes (a ++ b) (s ++ t) := by
  intro scene buffer
  rw [write_append, ha scene buffer]
  simp only [Option.isSome_none, Bool.false_eq_true, if_false]
  rw [hb scene (buffer ++ s), List.append_assoc]

/-- A field of literal text writes that text with its escapes read and its
variables replaced. -/
theorem writes_literalField (config : Config) (text : Text) :
    Writes [literalField config text] (Literal.ofConfig config text).output := by
  intro scene buffer
  simp [Pattern.write, Field.writeAll, Field.write, Converter.write, literalField,
    FieldWidth.natural, FieldWidth.adjust]

section Verbatim

variable {config : Config} (hb : config.convertBackslashes = false)
  (hl : config.hasLookups = false)

include hb hl

theorem writes_literalField_verbatim (text : Text) : Writes [literalField config text] text := by
  have h := writes_literalField config text
  rwa [Literal.output_ofConfig_of_no_lookups text hb hl] at h

theorem writes_flush (gathered : Text) : Writes (flush config gathered) gathered := by
  unfold flush
  split
  · rename_i h
    rw [h]
    exact writes_nil
  · exact writes_literalField_verbatim hb hl gathered

/-- A resolved piece whose own characters are `s`: literal text, or a field that
writes what comes before its leftover. -/
inductive Resolved.Shows : Resolved → Text → Prop where
  | text (s : Text) : Shows (.text s) s
  | restart (s : Text) : Shows (.restart s) s
  | field {field : Field} {s : Text} (leftover : Text) (h : Writes [field] s) :
      Shows (.field field leftover) (s ++ leftover)

theorem writes_gather {parts : List Resolved} {shown : List Text}
    (h : List.Forall₂ Resolved.Shows parts shown) :
    ∃ s, Writes (gather config parts).2 s ∧ shown.flatten = (gather config parts).1 ++ s := by
  induction h with
  | nil => exact ⟨[], writes_nil, rfl⟩
  | @cons part own parts shown hpart _ ih =>
    obtain ⟨s, hs, hshown⟩ := ih
    rw [List.flatten_cons, hshown]
    cases hpart with
    | text => exact ⟨s, hs, by simp [gather]⟩
    | restart =>
      have hflush := writes_flush hb hl (own ++ (gather config parts).1)
      exact ⟨_, hflush.append hs, by simp [gather]⟩
    | @field field before leftover hfield =>
      have hflush := writes_flush hb hl (leftover ++ (gather config parts).1)
      exact ⟨_, hfield.append (hflush.append hs), by simp [gather]⟩

/-- Fields put together write the characters of their pieces in order. -/
theorem writes_assemble {parts : List Resolved} {shown : List Text}
    (h : List.Forall₂ Resolved.Shows parts shown) :
    Writes (assemble config parts) shown.flatten := by
  obtain ⟨s, hs, hshown⟩ := writes_gather hb hl h
  rw [hshown]
  exact (writes_flush hb hl _).append hs

end Verbatim

end Pattern

end LogLine
