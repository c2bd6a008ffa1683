/-
  Proofs/Pattern/Verbatim.lean --- a pattern that nothing resolves is written as
  it stands.

  Every way to fail keeps the characters it was read from: an unknown key, a
  refused option and a width that is too large become a field of their raw text,
  a dot without digit and an unfinished specifier go back into the literal text.
  Only `%%` does not stand for itself, so patterns with two percent signs in a
  row are left out.

      write_eq_pattern        for every record and every buffer
-/
import LogLine.Proofs.Pattern.Resolution

set_option autoImplicit false

namespace LogLine.Pattern

/-- A specifier that becomes no converter: no beginning of its key is known, or
the plugin of the longest one refuses its options. -/
def Unresolvable (rules : Rules) (config : Config) (spec : Specifier) : Prop :=
  match rules.resolve? spec.key with
  | none => True
  | some (plugin, _) =>
    ∃ error reports,
      plugin.create config (argumentsOf rules config spec.options) = .refused error reports

/-- Such a specifier is left unresolved, whatever its widths are. -/
theorem resolveSpecifier_of_unresolvable {rules : Rules} {config : Config} {spec : Specifier}
    (h : Unresolvable rules config spec) :
    ∃ reports, resolveSpecifier rules config spec (argumentsOf rules config spec.options) =
      some (.field (literalField config spec.raw) [], reports) := by
  unfold Unresolvable at h
  generalize hres : resolveSpecifier rules config spec (argumentsOf rules config spec.options) = res
  cases resolveSpecifier_eq_iff.1 hres with
  | failed => exact ⟨_, rfl⟩
  | made _ hlongest hcreate | broken _ hlongest hcreate =>
    rw [hlongest.resolve?] at h
    obtain ⟨error, reports, hrefused⟩ := h
    rw [hcreate] at hrefused
    cases hrefused

/-- Two percent signs that stand for one are two in a row. -/
theorem percent_not_mem_scan {pattern : Text} (h : ¬ ['%', '%'] <:+: pattern) :
    Piece.percent ∉ scan pattern := by
  intro hmem
  obtain ⟨before, after, hsplit⟩ := List.append_of_mem hmem
  have hsource := scan_source pattern
  rw [hsplit, List.flatMap_append, List.flatMap_cons] at hsource
  exact h ⟨before.flatMap Piece.source, after.flatMap Piece.source, by
    rw [← hsource, List.append_assoc]
    rfl⟩

section

variable {rules : Rules} {config : Config}

/-- A piece other than `%%` shows its own characters if it is not resolved. -/
theorem exists_shows_source (hb : config.convertBackslashes = false)
    (hl : config.hasLookups = false) {piece : Piece} (hpercent : piece ≠ .percent)
    (hspec : ∀ spec, piece = .specifier spec → Unresolvable rules config spec) :
    ∃ part reports, resolvePiece rules config piece = some (part, reports) ∧
      part.Shows piece.source := by
  cases piece with
  | literal c => exact ⟨_, _, rfl, .text [c]⟩
  | percent => exact absurd rfl hpercent
  | specifier spec =>
    obtain ⟨reports, hres⟩ := resolveSpecifier_of_unresolvable (hspec spec rfl)
    refine ⟨_, reports, hres, ?_⟩
    have hshows := Resolved.Shows.field [] (writes_literalField_verbatim hb hl spec.raw)
    rwa [List.append_nil] at hshows
  | malformedDot raw position found => exact ⟨_, _, rfl, .restart raw⟩
  | unfinished raw => exact ⟨_, _, rfl, .restart raw⟩

/-- Pieces that show their own characters are resolved to parts that do. -/
theorem exists_parts_show_source {pieces : List Piece}
    (h : ∀ piece ∈ pieces, ∃ part reports,
      resolvePiece rules config piece = some (part, reports) ∧ part.Shows piece.source) :
    ∃ parts : List (Resolved × List Report),
      pieces.map (resolvePiece rules config) = parts.map some ∧
        List.Forall₂ Resolved.Shows (parts.map (·.1)) (pieces.map Piece.source) := by
  induction pieces with
  | nil => exact ⟨[], rfl, .nil⟩
  | cons piece pieces ih =>
    obtain ⟨part, reports, hres, hshows⟩ := h piece List.mem_cons_self
    obtain ⟨parts, hparts, hall⟩ := ih fun p hp => h p (List.mem_cons_of_mem _ hp)
    refine ⟨(part, reports) :: parts, ?_, .cons hshows hall⟩
    rw [List.map_cons, List.map_cons, hres, hparts]

/-- A pattern without two percent signs in a row, none of whose specifiers is
resolved, writes exactly its own characters: for every record, after whatever
the buffer holds, and again for the next record. -/
theorem write_eq_pattern {pattern : Text} (hb : config.convertBackslashes = false)
    (hl : config.hasLookups = false) (hpercent : ¬ ['%', '%'] <:+: pattern)
    (hspec : ∀ spec, .specifier spec ∈ scan pattern → Unresolvable rules config spec) :
    ∃ fields reports, compile rules config pattern = .done fields reports ∧
      ∀ (scene : Scene) (buffer : Text),
        fields.write scene buffer = { next := fields, buffer := buffer ++ pattern } := by
  obtain ⟨parts, hparts, hshows⟩ := exists_parts_show_source fun piece hpiece =>
    exists_shows_source hb hl (fun e => percent_not_mem_scan hpercent (e ▸ hpiece))
      fun spec e => hspec spec (e ▸ hpiece)
  refine ⟨_, _, compile_eq_done_iff.2 ⟨parts, hparts, rfl, rfl⟩, ?_⟩
  have hwrites := writes_assemble hb hl hshows
  rw [← List.flatMap_def, scan_source] at hwrites
  exact hwrites

end

/-- A plugin that refuses all options. -/
def refusing : Plugin :=
  { name := "Refusing".toList, category := converterCategory, keys := [['q']]
    create := fun _ _ => .refused (Error.new "refused") [] }

/-- Flags, widths, a dot without digit, options that nest and one that is not
closed, and an unfinished end. -/
def tangled : Text :=
  "a %-5q\x7bx\x7by\x7dz\x7d %.q|%99999qq\x7b1\x7d\x7b %3.-% %q\x7b %-9".toList

theorem write_eq_tangled :
    ¬ ['%', '%'] <:+: tangled ∧
      ∃ fields reports,
        compile (Rules.ofRegistry [refusing] converterCategory).1 {} tangled =
          .done fields reports ∧
        ∀ (scene : Scene) (buffer : Text),
          fields.write scene buffer = { next := fields, buffer := buffer ++ tangled } := by
  have hpercent : ¬ ['%', '%'] <:+: tangled := by decide +kernel
  refine ⟨hpercent, write_eq_pattern rfl rfl hpercent ?_⟩
  intro spec _
  unfold Unresolvable
  split
  · trivial
  · rename_i plugin leftover hfound
    obtain ⟨used, _, hused⟩ := Rules.exists_of_resolve? hfound
    have hmem := Rules.mem_entries_of_find? hused
    have hentries : (Rules.ofRegistry [refusing] converterCategory).1.entries =
        [(['q'], refusing)] := rfl
    rw [hentries, List.mem_singleton, Prod.mk.injEq] at hmem
    rw [hmem.2]
    exact ⟨_, _, rfl⟩

end LogLine.Pattern
