/-
  Proofs/Pattern/OptionSpans.lean --- where the options of a specifier stand.

  Reading options goes on from a position to a later one, which the search for a
  last closing brace does not move back, although it looks at the whole text.
  Each option is a part of the text in between, and each ends before the next one
  begins:

      Cursor.spansFrom             the positions of options
      Cursor.exists_readOptions    the options, their positions, and the last one
-/
import Mathlib.Data.List.Forall2
import LogLine.Proofs.Pattern.OptionCursor

set_option autoImplicit false

namespace LogLine.Pattern.Cursor

/-! ## Positions of options -/

/-- The first position of each option and the one after it, for groups that
begin at `i`. -/
def spansFrom (i : Nat) : List Text → List (Nat × Nat)
  | [] => []
  | option :: options =>
    (i + 1, i + 1 + option.length) :: spansFrom (i + (braced option).length) options

/-- An option stands at some positions, after `start` and before `stop`. -/
structure StandsAt (s : Text) (start stop : Nat) (span : Nat × Nat) (option : Text) : Prop where
  /-- It is the text between them. -/
  found : Text.slice? s span.1 span.2 = some option
  /-- Its braces match. -/
  balanced : Balanced option
  /-- The brace before it does not stand before `start`. -/
  after : start < span.1
  /-- The brace after it stands before `stop`. -/
  before : span.2 < stop

theorem StandsAt.mono {s : Text} {start start' stop : Nat} {span : Nat × Nat} {option : Text}
    (h : StandsAt s start stop span option) (hle : start' ≤ start) :
    StandsAt s start' stop span option :=
  ⟨h.found, h.balanced, Nat.lt_of_le_of_lt hle h.after, h.before⟩

/-- Groups that follow each other stand at their positions. -/
theorem standsAt_spansFrom {options : List Text} (h : ∀ option ∈ options, Balanced option)
    (before tail : Text) (stop : Nat)
    (hstop : before.length + (options.flatMap braced).length ≤ stop) :
    List.Forall₂ (StandsAt (before ++ (options.flatMap braced ++ tail)) before.length stop)
      (spansFrom before.length options) options := by
  induction options generalizing before with
  | nil => exact .nil
  | cons option options ih =>
    rw [List.forall_mem_cons] at h
    rw [List.flatMap_cons, List.length_append, length_braced] at hstop
    have hnext : (before ++ braced option).length = before.length + (braced option).length :=
      List.length_append
    have hlength := length_braced option
    have hsplit : before ++ (List.flatMap braced (option :: options) ++ tail) =
        before ++ braced option ++ (options.flatMap braced ++ tail) := by
      simp only [List.flatMap_cons, List.append_assoc]
    rw [hsplit, spansFrom]
    constructor
    · refine ⟨?_, h.1, Nat.lt_succ_self _, ?_⟩
      · have hslice := Text.slice?_append (before ++ ['{']) option
          ('}' :: (options.flatMap braced ++ tail))
        rw [← Text.length_append_singleton] at hslice
        simpa [braced] using hslice
      · show before.length + 1 + option.length < stop
        omega
    · rw [← hnext]
      have hrest := ih h.2 (before ++ braced option) (by omega)
      exact hrest.imp fun _ _ hstands => hstands.mono (by omega)

theorem lt_of_mem_spansFrom {i : Nat} {options : List Text} {span : Nat × Nat}
    (h : span ∈ spansFrom i options) : i < span.1 := by
  induction options generalizing i with
  | nil => cases h
  | cons option options ih =>
    rcases List.mem_cons.1 h with rfl | h
    · exact Nat.lt_succ_self i
    · exact Nat.lt_of_le_of_lt (Nat.le_add_right _ _) (ih h)

/-- Each option ends before the next one begins. -/
theorem pairwise_spansFrom (i : Nat) (options : List Text) :
    (spansFrom i options).Pairwise fun a b => a.2 < b.1 := by
  induction options generalizing i with
  | nil => exact .nil
  | cons option options ih =>
    refine .cons (fun span hspan => ?_) (ih _)
    have hlater := lt_of_mem_spansFrom hspan
    rw [length_braced] at hlater
    show i + 1 + option.length < span.1
    omega

/-! ## Reading them -/

/-- An opening brace is not what reading goes on with at once. -/
theorem length_pos_of_skips {options : List Text} {skipped rest inside : Text}
    (h : Skips options skipped rest)
    (hopen : options.flatMap braced ++ skipped ++ rest = '{' :: inside) :
    0 < (options.flatMap braced).length + skipped.length := by
  cases options with
  | cons option options =>
    rw [List.flatMap_cons, List.length_append, length_braced]
    omega
  | nil =>
    cases h with
    | nothing hhead =>
      rw [List.flatMap_nil, List.nil_append, List.nil_append] at hopen
      exact absurd (congrArg List.head? hopen) hhead
    | kept hopt => exact absurd rfl hopt
    | brace => exact Nat.lt_add_left _ Nat.one_pos
    | group => exact Nat.lt_add_left _ (Nat.succ_pos _)

/-- Reading options from any position of a text ends at a position that is not
before it, and after it where a brace opens there; the options stand in between,
one after the other. -/
theorem exists_readOptions {s : Text} {start : Nat} (h : start ≤ s.length) :
    ∃ options stop, readOptions s start start = some (options, stop) ∧
      start ≤ stop ∧ stop ≤ s.length ∧ (s[start]? = some '{' → start < stop) ∧
      List.Forall₂ (StandsAt s start stop) (spansFrom start options) options ∧
      (spansFrom start options).Pairwise fun a b => a.2 < b.1 := by
  obtain ⟨pre, u, rfl, rfl⟩ : ∃ pre u, s = pre ++ u ∧ start = pre.length :=
    ⟨s.take start, s.drop start, (List.take_append_drop start s).symm,
      (List.length_take_of_le h).symm⟩
  obtain ⟨stop, hread, hstop⟩ := @readOptions_eq pre u pre u rfl
  obtain ⟨skipped, hu, hall, hskips⟩ := optionGroups_iff.1 (rfl : optionGroups u u = _)
  have hlength := congrArg List.length hu
  simp only [List.length_append] at hlength hstop
  refine ⟨_, stop, hread, by omega, ?_, fun hopen => ?_, ?_, pairwise_spansFrom _ _⟩
  · rw [List.length_append]
    omega
  · rw [List.getElem?_append_right (Nat.le_refl _), Nat.sub_self, ← List.head?_eq_getElem?] at hopen
    obtain ⟨inside, hinside⟩ := List.head?_eq_some_iff.1 hopen
    have hpos := length_pos_of_skips hskips (hu.symm.trans hinside)
    omega
  · have hstands := standsAt_spansFrom hall pre (skipped ++ (optionGroups u u).2) stop (by omega)
    rwa [← List.append_assoc (List.flatMap _ _), ← hu] at hstands

end LogLine.Pattern.Cursor
