/-
  Proofs/Text/TrimmedPieces.lean --- the texts of a list with separators, without
  the white space around them.

  A text has one part between white space that neither begins nor ends with white
  space, and one way to be put together from parts without the separator.  Trimming
  and splitting find these:

      Text.trim_eq_iff          the text between white space
      Text.pieces_eq_iff        the parts between separators
      Text.trimmedPieces_iff    the parts trimmed, without empty ones
-/
import Mathlib.Data.List.Forall2
import LogLine.Proofs.Lists
import LogLine.Proofs.Text.Segments

set_option autoImplicit false

namespace LogLine.Text

/-! ## White space around a text -/

/-- Whether a text is another one with white space around it, which itself begins and
ends with none. -/
def Trims (s inner : Text) : Prop :=
  ∃ before after, s = before ++ (inner ++ after) ∧ (∀ c ∈ before, isBlank c = true) ∧
    (∀ c ∈ after, isBlank c = true) ∧ (∀ c ∈ inner.head?, isBlank c = false) ∧
    ∀ c ∈ inner.getLast?, isBlank c = false

theorem trims_trim (s : Text) : Trims s (trim s) := by
  obtain ⟨before, inner, rfl, hbefore, hinner⟩ := exists_run isBlank s
  obtain ⟨after, kept, hkept, hafter, hlast⟩ := exists_run isBlank inner.reverse
  obtain rfl : inner = kept.reverse ++ after.reverse := by
    rw [← List.reverse_append, ← hkept, List.reverse_reverse]
  have htrim : trim (before ++ (kept.reverse ++ after.reverse)) = kept.reverse := by
    rw [trim, trimStart, dropWhile_run hbefore hinner, trimEnd, hkept,
      dropWhile_run hafter hlast]
  rw [htrim]
  refine ⟨before, after.reverse, rfl, hbefore, ?_, ?_, ?_⟩
  · exact fun c hc => hafter c (List.mem_reverse.1 hc)
  · intro c hc
    refine hinner c ?_
    rw [List.head?_append, hc]
    rfl
  · intro c hc
    rw [List.getLast?_reverse] at hc
    exact hlast c hc

theorem Trims.trim_eq {s inner : Text} (h : Trims s inner) : trim s = inner := by
  obtain ⟨before, after, rfl, hbefore, hafter, hfirst, hlast⟩ := h
  cases inner with
  | nil =>
    have hblank : ∀ c ∈ before ++ after, isBlank c = true := by
      simpa [or_imp, forall_and] using ⟨hbefore, hafter⟩
    rw [List.nil_append, trim, trimStart,
      List.dropWhile_eq_nil_iff.2 fun c hc => hblank c hc]
    rfl
  | cons c inner =>
    have hstart : ∀ d ∈ (c :: inner ++ after).head?, isBlank d = false := by
      simpa using hfirst
    have hend : ∀ d ∈ (c :: inner).reverse.head?, isBlank d = false := by
      rwa [List.head?_reverse]
    rw [trim, trimStart, dropWhile_run hbefore hstart, trimEnd, List.reverse_append,
      dropWhile_run (fun d hd => hafter d (List.mem_reverse.1 hd)) hend, List.reverse_reverse]

theorem trim_eq_iff {s inner : Text} : trim s = inner ↔ Trims s inner :=
  ⟨fun h => h ▸ trims_trim s, Trims.trim_eq⟩

/-! ## Parts between separators -/

theorem pieces_intercalate {sep : Char} {parts : List Text} (hne : parts ≠ [])
    (hfree : ∀ part ∈ parts, sep ∉ part) : pieces sep ([sep].intercalate parts) = parts := by
  induction parts with
  | nil => exact absurd rfl hne
  | cons part parts ih =>
    obtain ⟨hpart, hparts⟩ := List.forall_mem_cons.1 hfree
    cases parts with
    | nil =>
      rw [List.intercalate_singleton]
      exact pieces_of_not_mem hpart
    | cons next parts =>
      rw [intercalate_cons (List.cons_ne_nil next parts), List.append_assoc,
        List.singleton_append, pieces_append_separator, pieces_of_not_mem hpart,
        ih (List.cons_ne_nil next parts) hparts]
      rfl

theorem pieces_eq_iff {sep : Char} {s : Text} {parts : List Text} :
    pieces sep s = parts ↔
      parts ≠ [] ∧ s = [sep].intercalate parts ∧ ∀ part ∈ parts, sep ∉ part := by
  constructor
  · rintro rfl
    exact ⟨pieces_ne_nil sep s, (intercalate_pieces sep s).symm,
      fun _ hpart => not_mem_of_mem_pieces hpart⟩
  · rintro ⟨hne, rfl, hfree⟩
    exact pieces_intercalate hne hfree

/-- Whether these are the parts of a text between separators, each without the white
space around it, and without those that are nothing else. -/
def TrimmedPieces (sep : Char) (s : Text) (names : List Text) : Prop :=
  ∃ parts inners, parts ≠ [] ∧ s = [sep].intercalate parts ∧ (∀ part ∈ parts, sep ∉ part) ∧
    List.Forall₂ Trims parts inners ∧ names = inners.filter (· ≠ [])

theorem trimmedPieces_iff {sep : Char} {s : Text} {names : List Text} :
    TrimmedPieces sep s names ↔ ((pieces sep s).map trim).filter (· ≠ []) = names := by
  have htrim : ∀ parts inners, List.Forall₂ Trims parts inners ↔ parts.map trim = inners := by
    intro parts inners
    rw [← List.forall₂_eq_eq_eq, List.forall₂_map_left_iff]
    simp only [trim_eq_iff]
  constructor
  · rintro ⟨parts, inners, hne, hjoined, hfree, hinners, rfl⟩
    rw [pieces_eq_iff.2 ⟨hne, hjoined, hfree⟩, (htrim _ _).1 hinners]
  · rintro rfl
    obtain ⟨hne, hjoined, hfree⟩ := pieces_eq_iff.1 (rfl : pieces sep s = pieces sep s)
    exact ⟨_, _, hne, hjoined, hfree, (htrim _ _).2 rfl, rfl⟩

end LogLine.Text
