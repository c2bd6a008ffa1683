/-
  Proofs/Regex/Replaced.lean --- what stands in a text after replacing matches.

  Matches and groups are slices of the text, and the parts of a replacement are
  its own characters or groups.  So nothing comes in but what was in one of the
  two:

      readReplacement_char          a part that is a character is one of the replacement
      Compiled.replaceAll_subset    the characters of the result

  Elsewhere no more than that is asked of the expressions that a process has:

      Host.ReplacesWithin           nothing else is put in
-/
import LogLine.Host

set_option autoImplicit false

namespace LogLine

namespace Regex

theorem reference?_subset {s rest : Text} {group : GroupName}
    (h : reference? s = some (group, rest)) : rest ⊆ s := by
  unfold reference? at h
  split at h
  · obtain ⟨⟨before, after⟩, hcut, heq⟩ := Option.map_eq_some_iff.1 h
    simp only [Prod.mk.injEq] at heq
    obtain ⟨-, rfl⟩ := heq
    rw [← Text.append_of_splitOnce hcut]
    intro c hc
    simp [hc]
  · simp only at h
    split at h
    · cases h
    · simp only [Option.some.injEq, Prod.mk.injEq] at h
      obtain ⟨-, rfl⟩ := h
      exact (List.dropWhile_suffix _).subset

theorem mem_of_char_mem_readReplacementWithin {fuel : Nat} {s : Text} {c : Char}
    (h : .char c ∈ readReplacementWithin fuel s) : c ∈ s := by
  fun_induction readReplacementWithin fuel s with
  | case1 => cases h
  | case2 => cases h
  | case3 fuel rest hnext ih =>
    rcases List.mem_cons.1 h with h | h
    · injection h with h
      exact h ▸ List.mem_cons_self
    · exact List.mem_cons_of_mem _ (List.mem_of_mem_tail (ih h))
  | case4 fuel rest hnext group after hfound ih =>
    rcases List.mem_cons.1 h with h | h
    · cases h
    · exact List.mem_cons_of_mem _ (reference?_subset hfound (ih h))
  | case5 fuel rest hnext hfound ih =>
    rcases List.mem_cons.1 h with h | h
    · injection h with h
      exact h ▸ List.mem_cons_self
    · exact List.mem_cons_of_mem _ (ih h)
  | case6 fuel d rest hd ih =>
    rcases List.mem_cons.1 h with h | h
    · injection h with h
      exact h ▸ List.mem_cons_self
    · exact List.mem_cons_of_mem _ (ih h)

/-- A part of a replacement that is a character is one of its own. -/
theorem readReplacement_char {s : Text} {c : Char} (h : .char c ∈ readReplacement s) : c ∈ s :=
  mem_of_char_mem_readReplacementWithin h

theorem groupText_subset (found : Match) (text : Text) (group : Nat) :
    found.groupText text group ⊆ text := by
  unfold Match.groupText
  split
  · exact List.Subset.trans (List.take_subset _ _) (List.drop_subset _ _)
  · exact List.nil_subset text

end Regex

namespace Regex.Compiled

theorem partText_subset (compiled : Compiled) {replacement : Text} (text : Text) (found : Match)
    {part : ReplacementPart} (h : part ∈ readReplacement replacement) :
    compiled.partText text found part ⊆ text ++ replacement := by
  cases part with
  | char c =>
    intro d hd
    rw [partText, List.mem_singleton] at hd
    exact List.mem_append_right text (hd ▸ readReplacement_char h)
  | group name =>
    simp only [partText]
    split
    · exact List.subset_append_of_subset_left replacement (groupText_subset found text _)
    · exact List.nil_subset (text ++ replacement)

theorem replaceMatches_subset (compiled : Compiled) (replacement text : Text) (position : Nat)
    (occurrences : List Match) :
    compiled.replaceMatches (readReplacement replacement) text position occurrences ⊆
      text ++ replacement := by
  have hslice : ∀ n, text.drop n ⊆ text ++ replacement := fun n =>
    List.subset_append_of_subset_left replacement (List.drop_subset n text)
  induction occurrences generalizing position with
  | nil => exact hslice position
  | cons found rest ih =>
    refine List.append_subset.2 ⟨List.append_subset.2 ⟨?_, ?_⟩, ih found.last⟩
    · exact List.Subset.trans (List.take_subset _ _) (hslice position)
    · intro c hc
      obtain ⟨part, hpart, hc⟩ := List.mem_flatMap.1 hc
      exact partText_subset compiled text found hpart hc

/-- Replacing matches brings in no character but those of the replacement. -/
theorem replaceAll_subset (compiled : Compiled) (replacement text : Text) :
    compiled.replaceAll replacement text ⊆ text ++ replacement :=
  compiled.replaceMatches_subset replacement text 0 (compiled.findAll text)

end Regex.Compiled

/-- An expression that puts no character in the place of its matches but those of
the text and of the replacement. -/
def Regex.ReplacesWithin (regex : Regex) : Prop :=
  ∀ replacement text, regex.replaceAll replacement text ⊆ text ++ replacement

/-- A process whose expressions are all such. -/
def Host.ReplacesWithin (host : Host) : Prop :=
  ∀ expression regex, host.compileRegex expression = .ok regex → regex.ReplacesWithin

/-- An expression that is read was compiled. -/
theorem Regex.compileRegex_of_read {expression : Text} {host : Host} {regex : Regex}
    (h : read expression host = .ok regex) : host.compileRegex expression = .ok regex := by
  unfold read at h
  split at h
  · rename_i compiled hcompiled
    rw [hcompiled, Except.ok.inj h]
  · cases h

/-- A process that has the expressions of this library is one of them. -/
theorem Host.replacesWithin_of_compileRegex {host : Host} (h : host.compileRegex = Regex.compile) :
    host.ReplacesWithin := by
  intro expression regex hregex
  rw [h, Regex.compile] at hregex
  split at hregex
  · obtain rfl := Except.ok.inj hregex
    exact Regex.Compiled.replaceAll_subset _
  · cases hregex

end LogLine
