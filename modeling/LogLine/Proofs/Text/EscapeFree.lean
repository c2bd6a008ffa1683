/-
  Proofs/Text/EscapeFree.lean --- texts without the character that begins escape
  sequences.

  Cutting, trimming and joining texts bring no new character, and neither do
  numbers or a change of case.  So what is made of texts without an escape
  character has none, as long as what is put between them has none either:

      EscapeFree.of_subset         parts of a text
      EscapeFree.intercalate       texts that are joined
      EscapeFree.zeroPadded        numbers
-/
import LogLine.Proofs.Lists
import LogLine.Text.Numeral

set_option autoImplicit false

namespace LogLine.Text

/-- A text that does not hold the escape character. -/
def EscapeFree (s : Text) : Prop := '\x1b' ∉ s

instance (s : Text) : Decidable (EscapeFree s) := inferInstanceAs (Decidable ('\x1b' ∉ s))

@[simp] theorem escapeFree_nil : EscapeFree [] := List.not_mem_nil

@[simp] theorem escapeFree_cons {c : Char} {s : Text} :
    EscapeFree (c :: s) ↔ c ≠ '\x1b' ∧ EscapeFree s := by
  unfold EscapeFree
  rw [List.mem_cons, not_or, ne_comm]

@[simp] theorem escapeFree_append {s t : Text} :
    EscapeFree (s ++ t) ↔ EscapeFree s ∧ EscapeFree t := by
  unfold EscapeFree
  rw [List.mem_append, not_or]

theorem escapeFree_iff {s : Text} : EscapeFree s ↔ ∀ c ∈ s, c ≠ '\x1b' := by
  constructor
  · rintro h c hc rfl
    exact h hc
  · intro h hmem
    exact h _ hmem rfl

namespace EscapeFree

variable {s t before after mark : Text}

/-! ## Parts -/

theorem of_subset (h : EscapeFree s) (hsub : t ⊆ s) : EscapeFree t := fun hmem => h (hsub hmem)

theorem take (h : EscapeFree s) (n : Nat) : EscapeFree (s.take n) :=
  h.of_subset (List.take_subset n s)

theorem drop (h : EscapeFree s) (n : Nat) : EscapeFree (s.drop n) :=
  h.of_subset (List.drop_subset n s)

theorem dropWhile (h : EscapeFree s) (p : Char → Bool) : EscapeFree (s.dropWhile p) :=
  h.of_subset (List.dropWhile_suffix p).subset

theorem reverse (h : EscapeFree s) : EscapeFree s.reverse :=
  h.of_subset fun _ hc => List.mem_reverse.1 hc

theorem trim (h : EscapeFree s) : EscapeFree (Text.trim s) :=
  ((h.dropWhile isBlank).reverse.dropWhile isBlank).reverse

theorem of_cutAt (h : EscapeFree s) (hcut : cutAt mark s = some (before, after)) :
    EscapeFree before ∧ EscapeFree after := by
  rw [← append_of_cutAt hcut] at h
  simp only [escapeFree_append] at h
  exact ⟨h.1.1, h.2⟩

theorem of_splitOnce {sep : Char} (h : EscapeFree s)
    (hcut : splitOnce sep s = some (before, after)) : EscapeFree before ∧ EscapeFree after := by
  rw [← append_of_splitOnce hcut] at h
  simp only [escapeFree_append, escapeFree_cons] at h
  exact ⟨h.1, h.2.2⟩

theorem of_splitOnceWhere {p : Char → Bool} (h : EscapeFree s)
    (hcut : splitOnceWhere p s = some (before, after)) :
    EscapeFree before ∧ EscapeFree after := by
  induction s generalizing before with
  | nil => cases hcut
  | cons c rest ih =>
    obtain ⟨hc, hrest⟩ := escapeFree_cons.1 h
    unfold splitOnceWhere at hcut
    split at hcut
    · simp only [Option.some.injEq, Prod.mk.injEq] at hcut
      obtain ⟨rfl, rfl⟩ := hcut
      exact ⟨escapeFree_nil, hrest⟩
    · obtain ⟨cut, hfound, hcut⟩ := Option.map_eq_some_iff.1 hcut
      simp only [Prod.mk.injEq] at hcut
      obtain ⟨rfl, rfl⟩ := hcut
      have hparts := ih hrest hfound
      exact ⟨escapeFree_cons.2 ⟨hc, hparts.1⟩, hparts.2⟩

theorem of_isPrefixOf? (h : EscapeFree s) (hcut : mark.isPrefixOf? s = some after) :
    EscapeFree after := by
  rw [← append_of_isPrefixOf? hcut] at h
  exact (escapeFree_append.1 h).2

theorem of_dropEnding? {ending : Text} (h : EscapeFree s)
    (hcut : dropEnding? ending s = some before) : EscapeFree before := by
  obtain ⟨rest, hrest, rfl⟩ := Option.map_eq_some_iff.1 hcut
  exact (h.reverse.of_isPrefixOf? hrest).reverse

/-- Pieces are parts of the text. -/
theorem of_mem_pieces {sep : Char} (h : EscapeFree s) {piece : Text}
    (hpiece : piece ∈ pieces sep s) : EscapeFree piece := by
  induction s generalizing piece with
  | nil =>
    rw [pieces, List.mem_singleton] at hpiece
    rw [hpiece]
    exact escapeFree_nil
  | cons c rest ih =>
    obtain ⟨hc, hrest⟩ := escapeFree_cons.1 h
    unfold pieces at hpiece
    split at hpiece
    · rcases List.mem_cons.1 hpiece with rfl | hpiece
      · exact escapeFree_nil
      · exact ih hrest hpiece
    · cases hpieces : pieces sep rest with
      | nil => exact absurd hpieces (pieces_ne_nil sep rest)
      | cons first more =>
        rw [hpieces] at hpiece
        have hall : ∀ p ∈ first :: more, EscapeFree p := fun p hp => ih hrest (hpieces ▸ hp)
        rcases List.mem_cons.1 hpiece with rfl | hpiece
        · exact escapeFree_cons.2 ⟨hc, hall first List.mem_cons_self⟩
        · exact hall piece (List.mem_cons_of_mem first hpiece)

theorem of_mem_piecesAt {piece : Text} (h : EscapeFree s) (hpiece : piece ∈ piecesAt mark s) :
    EscapeFree piece := by
  have hwithin : ∀ (fuel : Nat) (s : Text), EscapeFree s → piece ∈ piecesAtWithin mark fuel s →
      EscapeFree piece := by
    intro fuel
    induction fuel with
    | zero =>
      intro s hs hp
      rw [piecesAtWithin, List.mem_singleton] at hp
      exact hp ▸ hs
    | succ fuel ih =>
      intro s hs hp
      unfold piecesAtWithin at hp
      split at hp
      · exact List.mem_singleton.1 hp ▸ hs
      · rename_i before after hcut
        obtain ⟨hbefore, hafter⟩ := hs.of_cutAt hcut
        rcases List.mem_cons.1 hp with rfl | hp
        · exact hbefore
        · exact ih after hafter hp
  exact hwithin s.length s h hpiece

/-- Lines are parts of the text. -/
theorem of_mem_lines {line : Text} (h : EscapeFree s) (hline : line ∈ lines s) :
    EscapeFree line := by
  have hreturn : ∀ piece : Text, EscapeFree piece → EscapeFree (dropReturn piece) := by
    intro piece hpiece
    unfold dropReturn
    cases hdrop : dropEnding? ['\r'] piece with
    | none => exact hpiece
    | some kept => exact hpiece.of_dropEnding? hdrop
  have hpieces : ∀ list : List Text, (∀ p ∈ list, EscapeFree p) → line ∈ linesOfPieces list →
      EscapeFree line := by
    intro list
    fun_induction linesOfPieces list with
    | case1 => exact fun _ hmem => absurd hmem List.not_mem_nil
    | case2 => exact fun _ hmem => absurd hmem List.not_mem_nil
    | case3 last =>
      intro hall hmem
      exact hall line hmem
    | case4 first rest _ ih =>
      intro hall hmem
      rcases List.mem_cons.1 hmem with rfl | hmem
      · exact hreturn first (hall first List.mem_cons_self)
      · exact ih (fun p hp => hall p (List.mem_cons_of_mem first hp)) hmem
  exact hpieces _ (fun _ => h.of_mem_pieces) hline

/-! ## Joined texts -/

theorem replicate {c : Char} (hc : c ≠ '\x1b') (n : Nat) : EscapeFree (List.replicate n c) :=
  fun hmem => hc (List.eq_of_mem_replicate hmem).symm

theorem flatMap {α : Type} {l : List α} {f : α → Text} (h : ∀ a ∈ l, EscapeFree (f a)) :
    EscapeFree (l.flatMap f) := by
  intro hmem
  obtain ⟨a, ha, hmem⟩ := List.mem_flatMap.1 hmem
  exact h a ha hmem

theorem intercalate {list : List Text} (hmark : EscapeFree mark)
    (h : ∀ text ∈ list, EscapeFree text) : EscapeFree (mark.intercalate list) :=
  escapeFree_iff.2 (forall_mem_intercalate (escapeFree_iff.1 hmark)
    fun text htext => escapeFree_iff.1 (h text htext))

theorem getD {option : Option Text} (h : ∀ text ∈ option, EscapeFree text) :
    EscapeFree (option.getD []) := by
  cases option with
  | none => exact escapeFree_nil
  | some text => exact h text rfl

/-! ## Case and numbers -/

theorem toLower_ne_escape {c : Char} (h : c ≠ '\x1b') : c.toLower ≠ '\x1b' := by
  intro hlower
  unfold Char.toLower at hlower
  split at hlower
  · rename_i hupper
    have hleast : 65 ≤ c.val.toNat := hupper.1
    have hmost : c.val.toNat ≤ 90 := hupper.2
    have hvalue : (c.val + 32).toNat = 27 := congrArg Char.toNat hlower
    simp only [UInt32.toNat_add, UInt32.reduceToNat] at hvalue
    omega
  · exact h hlower

theorem asciiLower (h : EscapeFree s) : EscapeFree (Text.asciiLower s) := by
  intro hmem
  obtain ⟨c, hc, hlower⟩ := List.mem_map.1 hmem
  exact toLower_ne_escape (escapeFree_iff.1 h c hc) hlower

theorem of_all_isDigit (h : ∀ c ∈ s, c.isDigit = true) : EscapeFree s := by
  intro hmem
  exact absurd (h _ hmem) (by decide)

theorem ofNat (n : Nat) : EscapeFree (Text.ofNat n) :=
  of_all_isDigit fun _ hc => Nat.isDigit_of_mem_toDigits (by decide) (by decide) hc

theorem ofInt (n : Int) : EscapeFree (Text.ofInt n) := by
  cases n with
  | ofNat n => exact ofNat n
  | negSucc n => exact escapeFree_cons.2 ⟨by decide, ofNat (n + 1)⟩

theorem zeroPadded (width : Nat) (n : Int) : EscapeFree (Text.zeroPadded width n) := by
  have hzeros : ∀ k, EscapeFree (List.replicate k '0') := replicate (by decide)
  unfold Text.zeroPadded
  split
  · exact escapeFree_cons.2 ⟨by decide, escapeFree_append.2 ⟨hzeros _, ofNat _⟩⟩
  · exact escapeFree_append.2 ⟨hzeros _, ofNat _⟩

end EscapeFree

end LogLine.Text
