/-
  Proofs/Text/Enclosed.lean --- texts with items between two marks.

  A scan that replaces what stands between an opening and a closing mark cuts at
  the first opening mark, then at the first closing one after it, and goes on
  behind that.  A text that was put together from plain text and items between
  marks comes apart in the same places, even where a mark touches the characters
  that it is made of, and every text can be put together so:

      Text.cutAt_of_apart             a mark is found where it was put
      Enclosure.Replaces.scan_write   the items are replaced, and nothing else
      Enclosure.exists_parts          every text has its parts
-/
import LogLine.Proofs.Text.Segments

set_option autoImplicit false

namespace LogLine

/-! ## Marks -/

namespace Text

/-- The first character of a mark does not come again in it. -/
def BeginsOnce (mark : Text) : Prop := ∃ first rest, mark = first :: rest ∧ first ∉ rest

theorem BeginsOnce.ne_nil {mark : Text} (h : BeginsOnce mark) : mark ≠ [] := by
  obtain ⟨first, rest, rfl, -⟩ := h
  exact List.cons_ne_nil first rest

/-- Occurrences of such a mark do not overlap: the second one would begin inside
the first. -/
theorem BeginsOnce.apart {mark : Text} (h : BeginsOnce mark) (s : Text) : Apart mark s := by
  intro p q p' q' hp hp' hlt
  refine Nat.le_of_not_lt fun hoverlap => ?_
  have hboth : p ++ (mark ++ q) = p' ++ (mark ++ q') := by
    rw [← List.append_assoc, ← hp, hp', List.append_assoc]
  obtain ⟨front, rfl, hfront⟩ := exists_between hboth (Nat.le_of_lt hlt)
  simp only [List.length_append] at hlt hoverlap
  obtain ⟨back, hmark, hback⟩ := exists_between hfront.symm (by omega)
  obtain ⟨first, rest, rfl, hfirst⟩ := h
  cases front with
  | nil => simp at hlt
  | cons c front =>
    cases back with
    | nil =>
      have hlength := congrArg List.length hmark
      simp only [List.length_append, List.length_cons, List.length_nil] at hlength hoverlap
      omega
    | cons d back =>
      obtain rfl : first = d := (List.cons.inj hback).1
      have hrest : rest = front ++ first :: back := (List.cons.inj hmark).2
      exact hfirst (by rw [hrest]; simp)

/-- A mark is found where it was put, if it does not occur before. -/
theorem cutAt_of_apart {mark before after : Text} (hapart : Apart mark (before ++ mark ++ after))
    (hbefore : ¬ mark <:+: before) :
    cutAt mark (before ++ mark ++ after) = some (before, after) := by
  refine cutAt_eq_some_iff.2 ⟨rfl, fun p q hs => Nat.le_of_not_lt fun hlt => ?_⟩
  have hend := hapart p q before after hs rfl hlt
  have hsame : p ++ mark ++ q = before ++ (mark ++ after) := by rw [← hs, List.append_assoc]
  obtain ⟨middle, hmiddle, -⟩ := exists_between hsame (by rwa [List.length_append])
  exact hbefore ⟨p, middle, hmiddle.symm⟩

/-! ## Parts -/

/-- A part of a text. -/
inductive Stretch (α : Type) where
  /-- Plain text. -/
  | plain (text : Text)
  /-- An item between marks. -/
  | enclosed (item : α)

/-- What is shown of a part: plain text itself, and something for an item. -/
def Stretch.show {α : Type} (shown : α → Text) : Stretch α → Text
  | .plain text => text
  | .enclosed item => shown item

/-- The items of a text. -/
def items {α : Type} : List (Stretch α) → List α
  | [] => []
  | .plain _ :: rest => items rest
  | .enclosed item :: rest => item :: items rest

/-- The plain text before each item and at the end, that of neighbours joined. -/
def plainRuns {α : Type} : List (Stretch α) → List Text
  | [] => [[]]
  | .plain text :: rest => (plainRuns rest).modifyHead (text ++ ·)
  | .enclosed _ :: rest => [] :: plainRuns rest

theorem modifyHead_nil_append (runs : List Text) : runs.modifyHead ([] ++ ·) = runs := by
  cases runs with
  | nil => rfl
  | cons run rest => rw [List.modifyHead_cons, List.nil_append]

end Text

open Text (Stretch items plainRuns)

/-- How items are written between two marks. -/
structure Enclosure (α : Type) where
  /-- What opens an item. -/
  opening : Text
  /-- What closes an item. -/
  closing : Text
  /-- What stands between the marks. -/
  inside : α → Text
  opening_once : Text.BeginsOnce opening
  closing_once : Text.BeginsOnce closing

namespace Enclosure

variable {α : Type} (enclosure : Enclosure α)

/-- A part as it is written. -/
def writeStretch : Stretch α → Text
  | .plain text => text
  | .enclosed item => enclosure.opening ++ enclosure.inside item ++ enclosure.closing

/-- The end of a text: nothing, or an opening mark that is not closed and what
follows it. -/
def writeEnd : Option Text → Text
  | none => []
  | some text => enclosure.opening ++ text

/-- The text that parts and an end make. -/
def write (parts : List (Stretch α)) (unclosed : Option Text) : Text :=
  parts.flatMap enclosure.writeStretch ++ enclosure.writeEnd unclosed

/-- Parts that come apart as they were put together: no opening mark is in plain
text, and no closing mark in an item or at the end. -/
structure WellFormed (parts : List (Stretch α)) (unclosed : Option Text) : Prop where
  plain : ∀ run ∈ plainRuns parts, ¬ enclosure.opening <:+: run
  inside : ∀ item ∈ items parts, ¬ enclosure.closing <:+: enclosure.inside item
  unclosed : ∀ text ∈ unclosed, ¬ enclosure.closing <:+: text

/-- A scan that replaces what stands between the marks; the number bounds how many
times. -/
structure Replaces (replaced : Text → Text) (scan : Nat → Text → Text) : Prop where
  /-- Without an opening mark nothing changes. -/
  unopened : ∀ fuel s, Text.cutAt enclosure.opening s = none → scan fuel s = s
  /-- Without a closing mark nothing changes. -/
  unclosed : ∀ fuel s before body, Text.cutAt enclosure.opening s = some (before, body) →
    Text.cutAt enclosure.closing body = none → scan fuel s = s
  /-- An item is replaced, and the scan goes on behind it. -/
  enclosed : ∀ fuel s before body inside rest,
    Text.cutAt enclosure.opening s = some (before, body) →
    Text.cutAt enclosure.closing body = some (inside, rest) →
    scan (fuel + 1) s = before ++ replaced inside ++ scan fuel rest

variable {enclosure} {replaced : Text → Text} {scan : Nat → Text → Text} {shown : α → Text}

theorem cutAt_opening {before : Text} (h : ¬ enclosure.opening <:+: before) (after : Text) :
    Text.cutAt enclosure.opening (before ++ enclosure.opening ++ after) = some (before, after) :=
  Text.cutAt_of_apart (enclosure.opening_once.apart _) h

theorem cutAt_closing {before : Text} (h : ¬ enclosure.closing <:+: before) (after : Text) :
    Text.cutAt enclosure.closing (before ++ enclosure.closing ++ after) = some (before, after) :=
  Text.cutAt_of_apart (enclosure.closing_once.apart _) h

/-- The end of a text is kept, with the plain text before it. -/
theorem Replaces.scan_end (h : enclosure.Replaces replaced scan) {before : Text}
    (hbefore : ¬ enclosure.opening <:+: before) {unclosed : Option Text}
    (hunclosed : ∀ text ∈ unclosed, ¬ enclosure.closing <:+: text) (fuel : Nat) :
    scan fuel (before ++ enclosure.writeEnd unclosed) = before ++ enclosure.writeEnd unclosed := by
  cases unclosed with
  | none =>
    refine h.unopened _ _ (Text.cutAt_eq_none_iff.2 ?_)
    rwa [writeEnd, List.append_nil]
  | some text =>
    rw [writeEnd, ← List.append_assoc]
    exact h.unclosed _ _ _ _ (cutAt_opening hbefore text)
      (Text.cutAt_eq_none_iff.2 (hunclosed text rfl))

/-- Parts are shown one by one, after plain text that goes on in the first of
them. -/
theorem Replaces.scan_after (h : enclosure.Replaces replaced scan) {parts : List (Stretch α)}
    {unclosed : Option Text} {before : Text}
    (hplain : ∀ run ∈ (plainRuns parts).modifyHead (before ++ ·), ¬ enclosure.opening <:+: run)
    (hinside : ∀ item ∈ items parts, ¬ enclosure.closing <:+: enclosure.inside item)
    (hunclosed : ∀ text ∈ unclosed, ¬ enclosure.closing <:+: text)
    (hshown : ∀ item ∈ items parts, replaced (enclosure.inside item) = shown item)
    {fuel : Nat} (hfuel : (before ++ enclosure.write parts unclosed).length ≤ fuel) :
    scan fuel (before ++ enclosure.write parts unclosed) =
      before ++ parts.flatMap (Stretch.show shown) ++ enclosure.writeEnd unclosed := by
  induction parts generalizing before fuel with
  | nil =>
    rw [plainRuns, List.modifyHead_cons, List.append_nil] at hplain
    rw [List.flatMap_nil, List.append_nil]
    exact h.scan_end (hplain before List.mem_cons_self) hunclosed fuel
  | cons part rest ih =>
    cases part with
    | plain text =>
      have hsplit : before ++ enclosure.write (.plain text :: rest) unclosed =
          before ++ text ++ enclosure.write rest unclosed := by
        simp only [write, List.flatMap_cons, writeStretch, List.append_assoc]
      have hjoined : ∀ run ∈ (plainRuns rest).modifyHead (before ++ text ++ ·),
          ¬ enclosure.opening <:+: run := by
        rw [plainRuns, List.modifyHead_modifyHead] at hplain
        simpa only [Function.comp_def, ← List.append_assoc] using hplain
      rw [hsplit] at hfuel ⊢
      rw [ih hjoined hinside hshown hfuel, List.flatMap_cons, Stretch.show]
      simp only [List.append_assoc]
    | enclosed item =>
      rw [plainRuns, List.modifyHead_cons, List.append_nil, List.forall_mem_cons] at hplain
      rw [items, List.forall_mem_cons] at hinside hshown
      have hsplit : before ++ enclosure.write (.enclosed item :: rest) unclosed =
          before ++ enclosure.opening ++
            (enclosure.inside item ++ enclosure.closing ++ enclosure.write rest unclosed) := by
        simp only [write, List.flatMap_cons, writeStretch, List.append_assoc]
      have hlater : ∀ run ∈ (plainRuns rest).modifyHead ([] ++ ·),
          ¬ enclosure.opening <:+: run := by
        rw [Text.modifyHead_nil_append]
        exact hplain.2
      have hpos := List.length_pos_iff.2 enclosure.opening_once.ne_nil
      rw [hsplit] at hfuel ⊢
      simp only [List.length_append] at hfuel
      obtain ⟨fuel, rfl⟩ := Nat.exists_eq_add_one_of_ne_zero (show fuel ≠ 0 by omega)
      have hshorter : ([] ++ enclosure.write rest unclosed).length ≤ fuel := by
        rw [List.nil_append]
        omega
      have hbehind := ih hlater hinside.2 hshown.2 hshorter
      rw [List.nil_append, List.nil_append] at hbehind
      rw [h.enclosed _ _ _ _ _ _ (cutAt_opening hplain.1 _)
        (cutAt_closing hinside.1 _), hbehind, hshown.1, List.flatMap_cons, Stretch.show]
      simp only [List.append_assoc]

/-- The items of a text are replaced, and nothing else. -/
theorem Replaces.scan_write (h : enclosure.Replaces replaced scan) {parts : List (Stretch α)}
    {unclosed : Option Text} (hparts : enclosure.WellFormed parts unclosed)
    (hshown : ∀ item ∈ items parts, replaced (enclosure.inside item) = shown item) :
    scan (enclosure.write parts unclosed).length (enclosure.write parts unclosed) =
      parts.flatMap (Stretch.show shown) ++ enclosure.writeEnd unclosed := by
  have hplain : ∀ run ∈ (plainRuns parts).modifyHead ([] ++ ·), ¬ enclosure.opening <:+: run := by
    rw [Text.modifyHead_nil_append]
    exact hparts.plain
  exact h.scan_after hplain hparts.inside hparts.unclosed hshown (Nat.le_refl _)

/-- Every text can be put together from parts, if every text without a closing
mark is the inside of an item. -/
theorem exists_parts {P : α → Prop}
    (hitem : ∀ inside, ¬ enclosure.closing <:+: inside →
      ∃ item, enclosure.inside item = inside ∧ P item) (s : Text) :
    ∃ parts unclosed, s = enclosure.write parts unclosed ∧
      enclosure.WellFormed parts unclosed ∧ ∀ item ∈ items parts, P item := by
  cases hopen : Text.cutAt enclosure.opening s with
  | none =>
    refine ⟨[.plain s], none, by simp [write, writeStretch, writeEnd], ⟨?_, ?_, ?_⟩, ?_⟩
    · simpa [plainRuns] using Text.cutAt_eq_none_iff.1 hopen
    · exact fun _ hitem => absurd hitem List.not_mem_nil
    · exact fun _ htext => Option.not_mem_none _ htext |>.elim
    · exact fun _ hitem => absurd hitem List.not_mem_nil
  | some cut =>
    obtain ⟨before, body⟩ := cut
    have hs := Text.append_of_cutAt hopen
    have hbefore := Text.not_infix_of_cutAt enclosure.opening_once.ne_nil hopen
    cases hclose : Text.cutAt enclosure.closing body with
    | none =>
      refine ⟨[.plain before], some body, ?_, ⟨?_, ?_, ?_⟩, ?_⟩
      · rw [← hs]
        simp [write, writeStretch, writeEnd]
      · simpa [plainRuns] using hbefore
      · exact fun _ hitem => absurd hitem List.not_mem_nil
      · simpa using Text.cutAt_eq_none_iff.1 hclose
      · exact fun _ hitem => absurd hitem List.not_mem_nil
    | some parted =>
      obtain ⟨inside, rest⟩ := parted
      have hbody := Text.append_of_cutAt hclose
      have hinside := Text.not_infix_of_cutAt enclosure.closing_once.ne_nil hclose
      have hshorter : rest.length < s.length := by
        have hlength := congrArg List.length hs
        have hlength' := congrArg List.length hbody
        have hpos := List.length_pos_iff.2 enclosure.opening_once.ne_nil
        simp only [List.length_append] at hlength hlength'
        omega
      obtain ⟨item, hwritten, hP⟩ := hitem inside hinside
      obtain ⟨parts, unclosed, hrest, hparts, hall⟩ := exists_parts hitem rest
      refine ⟨.plain before :: .enclosed item :: parts, unclosed, ?_, ⟨?_, ?_, hparts.unclosed⟩, ?_⟩
      · rw [← hs, ← hbody, hrest, ← hwritten]
        simp only [write, writeStretch, List.flatMap_cons, List.append_assoc]
      · rw [plainRuns, plainRuns, List.modifyHead_cons, List.append_nil, List.forall_mem_cons]
        exact ⟨hbefore, hparts.plain⟩
      · rw [items, items, List.forall_mem_cons, hwritten]
        exact ⟨hinside, hparts.inside⟩
      · rw [items, items, List.forall_mem_cons]
        exact ⟨hP, hall⟩
termination_by s.length

end Enclosure

end LogLine
