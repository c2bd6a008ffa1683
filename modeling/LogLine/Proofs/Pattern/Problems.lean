/-
  Proofs/Pattern/Problems.lean --- one report for each problem of a pattern.

  A specifier that fails and a dot without digit are problems; nothing else is.
  With plugins that report nothing by themselves, the reports of a pattern are
  those of its problems, one for each and in their order:

      Problem                    the problem of a piece and its report
      reported_of_resolved       one report for each problem
      Reported.exists_positions  their places never decrease
      reports_of_compile         where each of them is found in the pattern

  A character after a dot is read again, so the next specifier may begin where
  the dot is reported: places can repeat.
-/
import LogLine.Proofs.Pattern.LongestKey
import LogLine.Proofs.Pattern.Verbatim

set_option autoImplicit false

namespace LogLine

/-! ## Reports and their places -/

/-- The place in the pattern that a report names. -/
def Report.position? : Report → Option Nat
  | .malformedDot position _ => some position
  | .failedSpecifier position _ => some position
  | .ignoredOption _ => none

/-- What a plugin reports on its way to a converter. -/
def Creation.reports : Creation → List Report
  | .made _ reports => reports
  | .refused _ reports => reports
  | .brokenCharacter => []

/-- No plugin of a table reports anything by itself. -/
def Rules.Quiet (rules : Rules) : Prop :=
  ∀ key plugin, rules.find? key = some plugin →
    ∀ config arguments, (plugin.create config arguments).reports = []

namespace Pattern

/-- The plugin that a specifier asks reports nothing by itself. -/
def IsQuiet (rules : Rules) (config : Config) (spec : Specifier) : Prop :=
  ∀ used leftover plugin, rules.LongestKnown spec.key used leftover plugin →
    (plugin.create config (argumentsOf rules config spec.options)).reports = []

/-- Quiet plugins are asked quietly by every specifier. -/
theorem isQuiet_of_quiet {rules : Rules} (h : rules.Quiet) (config : Config) (spec : Specifier) :
    IsQuiet rules config spec :=
  fun _ _ plugin hlongest => h _ plugin hlongest.known config _

/-- A piece of a pattern is a problem, and this is its report. -/
inductive Problem (rules : Rules) (config : Config) : Piece → Report → Prop where
  /-- A specifier that fails is reported at its percent sign. -/
  | failed {spec : Specifier} {fault : SpecifierFault} {earlier : List Report}
      (h : Fails rules config spec (argumentsOf rules config spec.options) fault earlier) :
      Problem rules config (.specifier spec) (.failedSpecifier spec.position fault)
  /-- A dot without digit is reported at the character after it. -/
  | malformedDot (raw : Text) (position : Nat) (found : Char) :
      Problem rules config (.malformedDot raw position found) (.malformedDot position found)

/-- The reports are those of the pieces that are problems: one for each, in
order, and no others. -/
inductive Reported (rules : Rules) (config : Config) : List Piece → List Report → Prop where
  | nil : Reported rules config [] []
  | problem {piece : Piece} {report : Report} {pieces : List Piece} {reports : List Report}
      (h : Problem rules config piece report) (hrest : Reported rules config pieces reports) :
      Reported rules config (piece :: pieces) (report :: reports)
  | fine {piece : Piece} {pieces : List Piece} {reports : List Report}
      (h : ∀ report, ¬ Problem rules config piece report)
      (hrest : Reported rules config pieces reports) :
      Reported rules config (piece :: pieces) reports

section

variable {rules : Rules} {config : Config}

/-! ## One report for each problem -/

theorem Fails.earlier_eq_nil {spec : Specifier} {fault : SpecifierFault} {earlier : List Report}
    (h : Fails rules config spec (argumentsOf rules config spec.options) fault earlier)
    (hquiet : IsQuiet rules config spec) : earlier = [] := by
  cases h with
  | widthTooLarge | emptyKey | unknownKey => rfl
  | refused _ hlongest hcreate =>
    have hnil := hquiet _ _ _ hlongest
    rwa [hcreate] at hnil

/-- A specifier that fails becomes no converter. -/
theorem Fails.not_made {spec : Specifier} {arguments : List Argument} {fault : SpecifierFault}
    {earlier : List Report} (h : Fails rules config spec arguments fault earlier)
    {used leftover : Text} {plugin : Plugin} {converter : Converter} {reports : List Report}
    (hleast : spec.width.least ≤ maxFieldWidth)
    (hlongest : rules.LongestKnown spec.key used leftover plugin) :
    plugin.create config arguments ≠ .made converter reports := by
  intro hcreate
  cases h with
  | widthTooLarge hlarge => exact absurd hlarge (Nat.not_lt.2 hleast)
  | emptyKey _ hkey => exact hlongest.key_ne_nil hkey
  | unknownKey _ _ hnone => exact hlongest.not_noneKnown hnone
  | refused _ hlongest' hrefused =>
    obtain ⟨-, -, rfl⟩ := hlongest.unique hlongest'
    rw [hcreate] at hrefused
    cases hrefused

/-- One piece: it is a problem and its report is all there is, or it is none and
there is nothing. -/
theorem problem_or_fine {piece : Piece}
    (hquiet : ∀ spec, piece = .specifier spec → IsQuiet rules config spec)
    {part : Resolved} {own : List Report}
    (h : resolvePiece rules config piece = some (part, own)) :
    (∃ report, Problem rules config piece report ∧ own = [report]) ∨
      (∀ report, ¬ Problem rules config piece report) ∧ own = [] := by
  cases piece with
  | literal | percent | unfinished =>
    cases h
    refine .inr ⟨?_, rfl⟩
    rintro _ ⟨⟩
  | malformedDot raw position found =>
    cases h
    exact .inl ⟨_, .malformedDot raw position found, rfl⟩
  | specifier spec =>
    have hspec : resolveSpecifier rules config spec (argumentsOf rules config spec.options) =
        some (part, own) := h
    cases resolveSpecifier_eq_iff.1 hspec with
    | made hleast hlongest hcreate =>
      have hnil := hquiet spec rfl _ _ _ hlongest
      rw [hcreate] at hnil
      refine .inr ⟨?_, hnil⟩
      rintro _ (hfails | _)
      exact hfails.not_made hleast hlongest hcreate
    | failed hfails =>
      obtain rfl := hfails.earlier_eq_nil (hquiet spec rfl)
      exact .inl ⟨_, .failed hfails, rfl⟩

/-- All pieces. -/
theorem reported_of_resolved {pieces : List Piece}
    (hquiet : ∀ spec, .specifier spec ∈ pieces → IsQuiet rules config spec)
    {parts : List (Resolved × List Report)}
    (h : pieces.map (resolvePiece rules config) = parts.map some) :
    Reported rules config pieces (parts.flatMap (·.2)) := by
  induction pieces generalizing parts with
  | nil =>
    rw [List.map_nil, eq_comm, List.map_eq_nil_iff] at h
    rw [h]
    exact .nil
  | cons piece pieces ih =>
    rw [List.map_cons, eq_comm, List.map_eq_cons_iff] at h
    obtain ⟨⟨part, own⟩, parts, rfl, hpiece, hpieces⟩ := h
    have hrest := ih (fun spec hspec => hquiet spec (List.mem_cons_of_mem _ hspec)) hpieces.symm
    have hown := problem_or_fine (fun spec hspec => hquiet spec (hspec ▸ List.mem_cons_self))
      hpiece.symm
    rw [List.flatMap_cons]
    rcases hown with ⟨report, hproblem, rfl⟩ | ⟨hfine, rfl⟩
    · exact .problem hproblem hrest
    · exact .fine hfine hrest

/-! ## Places -/

/-- A problem is reported inside its piece, or right after it. -/
theorem Problem.exists_position {position : Nat} {s rest : Text} {piece : Piece} {report : Report}
    (h : Problem rules config piece report) (hbegins : Begins position s piece rest) :
    ∃ n, report.position? = some n ∧ position ≤ n ∧ n ≤ position + piece.source.length := by
  cases h with
  | failed =>
    obtain ⟨hposition, -⟩ := hbegins.specifier_place
    exact ⟨_, rfl, Nat.le_of_eq hposition.symm, hposition ▸ Nat.le_add_right _ _⟩
  | malformedDot raw place found =>
    obtain ⟨hplace, -⟩ := hbegins.malformedDot_place
    exact ⟨_, rfl, hplace ▸ Nat.le_add_right _ _, Nat.le_of_eq hplace⟩

/-- The places that are reported never decrease. -/
theorem Reported.exists_positions {pieces : List Piece} {reports : List Report}
    (h : Reported rules config pieces reports) {position : Nat} {s : Text}
    (hscan : scanFrom position s = pieces) :
    ∃ positions : List Nat, reports.map Report.position? = positions.map some ∧
      positions.Pairwise (· ≤ ·) ∧ ∀ n ∈ positions, position ≤ n := by
  induction h generalizing position s with
  | nil => exact ⟨[], rfl, .nil, fun n hn => absurd hn List.not_mem_nil⟩
  | problem hproblem _ ih =>
    obtain ⟨rest, hbegins, hrest⟩ := begins_of_scanFrom hscan
    obtain ⟨n, hn, hfirst, hlast⟩ := hproblem.exists_position hbegins
    obtain ⟨positions, hpositions, hordered, hafter⟩ := ih hrest
    refine ⟨n :: positions, ?_, ?_, ?_⟩
    · rw [List.map_cons, List.map_cons, hn, hpositions]
    · exact List.pairwise_cons.2 ⟨fun m hm => hlast.trans (hafter m hm), hordered⟩
    · refine List.forall_mem_cons.2 ⟨hfirst, fun m hm => ?_⟩
      exact hfirst.trans (hlast.trans (hafter m hm))
  | fine _ _ ih =>
    obtain ⟨rest, -, hrest⟩ := begins_of_scanFrom hscan
    obtain ⟨positions, hpositions, hordered, hafter⟩ := ih hrest
    exact ⟨positions, hpositions, hordered, fun m hm => (Nat.le_add_right _ _).trans (hafter m hm)⟩

/-- The error of a report carries its place, whatever else it carries. -/
theorem find?_position_toError {report : Report} {n : Nat} (h : report.position? = some n) :
    report.toError.find? "position" = some (toString n) := by
  cases report with
  | malformedDot position found =>
    cases h
    rfl
  | failedSpecifier position fault =>
    cases h
    cases fault <;> rfl
  | ignoredOption error => cases h

/-! ## In the pattern -/

/-- A specifier that fails stands in the pattern at its place, and a field of its
characters stands for it. -/
theorem stands_of_fails {pattern : Text} {fields : Pattern} {reports : List Report}
    (hcompile : compile rules config pattern = .done fields reports) {before after : List Piece}
    {spec : Specifier} (hscan : scan pattern = before ++ .specifier spec :: after)
    {fault : SpecifierFault} {earlier : List Report}
    (h : Fails rules config spec (argumentsOf rules config spec.options) fault earlier) :
    (∃ front back, pattern = front ++ (spec.raw ++ back) ∧ spec.position = front.length ∧
      spec.raw.head? = some '%') ∧
    ∃ front back, fields =
      front ++ literalField config spec.raw :: (flush config (leadingText after) ++ back) := by
  constructor
  · obtain ⟨rest, hpattern, hbegins⟩ := exists_begins_of_scan hscan
    obtain ⟨hposition, hhead⟩ := hbegins.specifier_place
    exact ⟨_, rest, hpattern, hposition, hhead⟩
  · obtain ⟨field, leftover, own, front, back, hresolve, -, hfields⟩ :=
      exists_stands hcompile hscan
    rw [(Becomes.failed h).resolveSpecifier] at hresolve
    simp only [Option.some.injEq, Prod.mk.injEq, Resolved.field.injEq] at hresolve
    obtain ⟨⟨rfl, rfl⟩, -⟩ := hresolve
    exact ⟨front, back, hfields⟩

/-- A dot without digit stands right before its place, and no digit stands
there. -/
theorem stands_of_malformedDot {pattern raw : Text} {position : Nat} {found : Char}
    {before after : List Piece}
    (hscan : scan pattern = before ++ .malformedDot raw position found :: after) :
    ∃ front back, pattern = front ++ '.' :: found :: back ∧ position = front.length + 1 ∧
      found.isDigit = false := by
  obtain ⟨rest, hpattern, hbegins⟩ := exists_begins_of_scan hscan
  obtain ⟨hplace, ⟨init, hraw⟩, hhead, hdigit⟩ := hbegins.malformedDot_place
  obtain ⟨back, rfl⟩ := List.head?_eq_some_iff.1 hhead
  refine ⟨before.flatMap Piece.source ++ '%' :: init, back, ?_, ?_, hdigit⟩
  · rw [hpattern, Piece.source, hraw]
    simp
  · rw [hplace, hraw]
    simp only [List.length_append, List.length_cons, List.length_nil]
    omega

/-- A pattern that asks its plugins quietly has an outcome unless one of them
cuts a text inside a character, and then its reports are those of its problems:
one for each and in order.  Each names a place and its error carries it, and the
places never decrease.  The place of a specifier that fails is that of its
percent sign, where the characters that are written for it begin; that of a dot
is the place of the character after it. -/
theorem reports_of_compile {pattern : Text}
    (hquiet : ∀ spec, .specifier spec ∈ scan pattern → IsQuiet rules config spec) :
    (compile rules config pattern = .brokenCharacter ↔
      ∃ spec, .specifier spec ∈ scan pattern ∧
        Becomes rules config spec (argumentsOf rules config spec.options) none) ∧
    ∀ fields reports, compile rules config pattern = .done fields reports →
      Reported rules config (scan pattern) reports ∧
      (∃ positions : List Nat, reports.map Report.position? = positions.map some ∧
        positions.Pairwise (· ≤ ·)) ∧
      (∀ report ∈ reports, ∀ n, report.position? = some n →
        report.toError.find? "position" = some (toString n)) ∧
      (∀ before after spec fault earlier,
        scan pattern = before ++ .specifier spec :: after →
        Fails rules config spec (argumentsOf rules config spec.options) fault earlier →
        (∃ front back, pattern = front ++ (spec.raw ++ back) ∧ spec.position = front.length ∧
          spec.raw.head? = some '%') ∧
        ∃ front back, fields =
          front ++ literalField config spec.raw :: (flush config (leadingText after) ++ back)) ∧
      ∀ before after raw position found,
        scan pattern = before ++ .malformedDot raw position found :: after →
        ∃ front back, pattern = front ++ '.' :: found :: back ∧ position = front.length + 1 ∧
          found.isDigit = false := by
  refine ⟨compile_eq_broken_iff_becomes, ?_⟩
  intro fields reports hcompile
  obtain ⟨parts, hparts, -, hreports⟩ := compile_eq_done_iff.1 hcompile
  have hreported : Reported rules config (scan pattern) reports := by
    rw [hreports]
    exact reported_of_resolved hquiet hparts
  obtain ⟨positions, hpositions, hordered, -⟩ := hreported.exists_positions rfl
  refine ⟨hreported, ⟨positions, hpositions, hordered⟩, ?_, ?_, ?_⟩
  · exact fun report _ n hn => find?_position_toError hn
  · exact fun before after spec fault earlier hscan hfails =>
      stands_of_fails hcompile hscan hfails
  · exact fun before after raw position found hscan => stands_of_malformedDot hscan

end

/-- A table of one plugin, which refuses all options. -/
def refusingRules : Rules := (Rules.ofRegistry [refusing] converterCategory).1

theorem quiet_refusingRules : refusingRules.Quiet := by
  intro key plugin hfound config arguments
  have hentry := Rules.mem_entries_of_find? hfound
  have hentries : refusingRules.entries = [(['q'], refusing)] := rfl
  rw [hentries, List.mem_singleton, Prod.mk.injEq] at hentry
  rw [hentry.2]
  rfl

/-- A refusal, a dot before a percent sign, an unknown key, a width that is too
large, two percent signs, an empty key and an unfinished end. -/
def troubled : Text := "%q%.%zz %70000m%%% x%-".toList

/-- Its problems. -/
def troubles : List Report :=
  [.failedSpecifier 0 (.refused ['q'] "Refusing".toList (Error.new "refused")),
   .malformedDot 4 '%',
   .failedSpecifier 4 (.unknownKey ['z', 'z']),
   .failedSpecifier 8 (.widthTooLarge 70000 maxFieldWidth),
   .failedSpecifier 17 .emptyKey]

theorem reports_of_compile_troubled :
    (∀ spec, .specifier spec ∈ scan troubled → IsQuiet refusingRules {} spec) ∧
      ∃ fields, compile refusingRules {} troubled = .done fields troubles ∧
        Reported refusingRules {} (scan troubled) troubles ∧
        troubles.map Report.position? = [some 0, some 4, some 4, some 8, some 17] := by
  have hquiet : ∀ spec, .specifier spec ∈ scan troubled → IsQuiet refusingRules {} spec :=
    fun spec _ => isQuiet_of_quiet quiet_refusingRules {} spec
  have hscan : scan troubled =
      [.specifier ⟨0, ['%', 'q'], .natural, ['q'], []⟩,
       .malformedDot ['%', '.'] 4 '%',
       .specifier ⟨4, ['%', 'z', 'z'], .natural, ['z', 'z'], []⟩,
       .literal ' ',
       .specifier ⟨8, "%70000m".toList, { least := 70000 }, ['m'], []⟩,
       .percent,
       .specifier ⟨17, ['%', ' '], .natural, [], []⟩,
       .literal 'x',
       .unfinished ['%', '-']] := by
    decide +kernel
  obtain ⟨fields, hcompile⟩ : ∃ fields,
      compile refusingRules {} troubled = .done fields troubles := by
    rw [compile_eq_mapM, hscan]
    exact ⟨_, rfl⟩
  obtain ⟨hreported, -⟩ := (reports_of_compile hquiet).2 fields troubles hcompile
  exact ⟨hquiet, fields, hcompile, hreported, rfl⟩

end Pattern

end LogLine
