/-
  Proofs/Style/Strip.lean --- texts without their escape sequences.

  A sequence is an escape character, a bracket, digits and semicolons, and the
  letter `m`.  What styles add to a text are such sequences, so deleting them
  gives the text again.  Deleting also goes through whatever is written after:
  each text `x` comes with the text `y` that is left of it before any other text
  (`StripsTo x y`), and texts that follow each other are left in the same order:

      strip_append              texts without escape characters stay
      isSequence_sequence       the sequence of a list of style names
      StripsTo.styled           a text in a style
      Markup.render_stripsTo    a message with and without its markup
-/
import LogLine.Proofs.Text.EscapeFree
import LogLine.Style.Markup

set_option autoImplicit false

namespace LogLine.Style

open Text (EscapeFree)

/-! ## Deleting sequences -/

/-- The characters between the bracket and the last letter of a sequence. -/
def isParameter (c : Char) : Bool := c.isDigit || c == ';'

/-- What comes after a sequence, given what comes after its escape character. -/
def afterSequence? : Text → Option Text
  | '[' :: rest =>
    match rest.dropWhile isParameter with
    | 'm' :: after => some after
    | _ => none
  | _ => none

theorem length_lt_of_afterSequence? {s after : Text} (h : afterSequence? s = some after) :
    after.length < s.length := by
  unfold afterSequence? at h
  split at h
  · split at h
    · rename_i rest _ later hdrop
      obtain rfl := Option.some.inj h
      have hle := (List.dropWhile_suffix (l := rest) isParameter).length_le
      rw [hdrop] at hle
      simp only [List.length_cons] at hle ⊢
      omega
    · cases h
  · cases h

/-- A text without its escape sequences. -/
def strip (s : Text) : Text :=
  match s with
  | [] => []
  | c :: rest =>
    if c = '\x1b' then
      match _found : afterSequence? rest with
      | some after => strip after
      | none => c :: strip rest
    else c :: strip rest
termination_by s.length
decreasing_by
  · have := length_lt_of_afterSequence? _found
    simp only [List.length_cons]
    omega
  · simp
  · simp

theorem strip_nil : strip [] = [] := by
  rw [strip]

theorem strip_cons {c : Char} (hc : c ≠ '\x1b') (rest : Text) :
    strip (c :: rest) = c :: strip rest := by
  rw [strip, if_neg hc]

theorem strip_escape {rest after : Text} (h : afterSequence? rest = some after) :
    strip ('\x1b' :: rest) = strip after := by
  rw [strip.eq_def]
  simp only [if_true]
  split
  · rename_i later hfound
    rw [h] at hfound
    rw [Option.some.inj hfound]
  · rename_i hfound
    rw [h] at hfound
    cases hfound

/-- Nothing is deleted from a text without escape characters. -/
theorem strip_append {s : Text} (h : EscapeFree s) (rest : Text) :
    strip (s ++ rest) = s ++ strip rest := by
  induction s with
  | nil => rfl
  | cons c s ih =>
    obtain ⟨hc, hs⟩ := Text.escapeFree_cons.1 h
    rw [List.cons_append, strip_cons hc, ih hs, List.cons_append]

/-! ## Sequences -/

/-- Without escape sequences a style adds nothing. -/
theorem styled_false (style text : Text) : styled false style text = text := by
  unfold styled
  split
  · rename_i htext
    exact htext.symm
  · rfl

/-- An escape sequence, or nothing. -/
inductive IsSequence : Text → Prop where
  | empty : IsSequence []
  | select {parameters : Text} (h : ∀ c ∈ parameters, isParameter c = true) :
      IsSequence (introducer ++ parameters ++ ['m'])

/-- A sequence is deleted as a whole. -/
theorem IsSequence.strip_append {s : Text} (h : IsSequence s) (rest : Text) :
    strip (s ++ rest) = strip rest := by
  cases h with
  | empty => rfl
  | @select parameters h =>
    have hdrop : (parameters ++ 'm' :: rest).dropWhile isParameter = 'm' :: rest :=
      dropWhile_run h (by rintro c ⟨⟩; rfl)
    have hfound : afterSequence? ('[' :: (parameters ++ 'm' :: rest)) = some rest := by
      simp only [afterSequence?, hdrop]
    have hsplit : introducer ++ parameters ++ ['m'] ++ rest =
        '\x1b' :: '[' :: (parameters ++ 'm' :: rest) := by
      simp [introducer]
    rw [hsplit, strip_escape hfound]

theorem isParameter_of_mem_joinNumbers (numbers : List Nat) :
    ∀ c ∈ joinNumbers numbers, isParameter c = true := by
  unfold joinNumbers
  refine forall_mem_intercalate ?_ fun text htext c hc => ?_
  · rintro c hc
    obtain rfl := List.mem_singleton.1 hc
    rfl
  · obtain ⟨n, -, rfl⟩ := List.mem_map.1 htext
    have hdigit : c.isDigit = true := Nat.isDigit_of_mem_toDigits (by decide) (by decide) hc
    rw [isParameter, hdigit, Bool.true_or]

/-- The sequence of a list of style names. -/
theorem isSequence_sequence (depth : ColorDepth) (names : Text) :
    IsSequence (sequence depth names) := by
  unfold sequence
  split
  · exact .empty
  · exact .select (isParameter_of_mem_joinNumbers _)

theorem isSequence_reset : IsSequence reset := by
  have h : IsSequence (introducer ++ ['0'] ++ ['m']) := by
    refine .select fun c hc => ?_
    obtain rfl := List.mem_singleton.1 hc
    rfl
  exact h

/-! ## Texts and what is left of them -/

/-- Deleting sequences leaves `y` of `x` before any other text, and something of
it if there is something. -/
structure StripsTo (x y : Text) : Prop where
  strip_append : ∀ rest, strip (x ++ rest) = y ++ strip rest
  nil_iff : x = [] ↔ y = []

namespace StripsTo

variable {x y x' y' : Text}

theorem strip_eq (h : StripsTo x y) : strip x = y := by
  have happend := h.strip_append []
  rwa [List.append_nil, strip_nil, List.append_nil] at happend

theorem refl (h : EscapeFree x) : StripsTo x x := ⟨Style.strip_append h, Iff.rfl⟩

theorem append (h : StripsTo x y) (h' : StripsTo x' y') : StripsTo (x ++ x') (y ++ y') := by
  refine ⟨fun rest => ?_, ?_⟩
  · rw [List.append_assoc, h.strip_append, h'.strip_append, List.append_assoc]
  · rw [List.append_eq_nil_iff, List.append_eq_nil_iff, h.nil_iff, h'.nil_iff]

/-- A style adds sequences to a text, where it adds anything. -/
theorem styled (h : StripsTo x y) {ansi : Bool} {style : Text}
    (hstyle : ansi = true → IsSequence style) (other : Text) :
    StripsTo (styled ansi style x) (styled false other y) := by
  rw [styled_false]
  unfold Style.styled
  split
  · rename_i hx
    have hy : y = [] := h.nil_iff.1 hx
    rw [hy]
    exact .refl Text.escapeFree_nil
  split
  · rename_i hx hon
    refine ⟨fun rest => ?_, ?_⟩
    · rw [List.append_assoc, List.append_assoc, (hstyle hon.1).strip_append, h.strip_append,
        isSequence_reset.strip_append]
    · refine iff_of_false ?_ fun hy => hx (h.nil_iff.2 hy)
      simp [hx]
  · exact h

end StripsTo

/-! ## Markup -/

namespace Markup

theorem escapeFree_span {markup : Markup} (h : ∀ depth, markup ≠ .rendered depth) {inside : Text}
    (hinside : EscapeFree inside) : EscapeFree (markup.span inside) := by
  unfold span
  split
  · rename_i names text hcut
    have hplain : markup.styledSpan names text = text := by
      cases markup with
      | rendered depth => exact absurd rfl (h depth)
      | verbatim | stripped => exact styled_false [] text
    rw [hplain]
    exact (hinside.of_splitOnceWhere hcut).2
  · simp only [Text.escapeFree_append]
    exact ⟨⟨by decide, hinside⟩, by decide⟩

/-- What is not rendered brings in no escape character. -/
theorem escapeFree_render {markup : Markup} (h : ∀ depth, markup ≠ .rendered depth)
    {message : Text} (hmessage : EscapeFree message) : EscapeFree (markup.render message) := by
  have hwithin : ∀ fuel message, EscapeFree message →
      EscapeFree (markup.renderWithin fuel message) := by
    intro fuel
    induction fuel with
    | zero => exact fun _ hmessage => hmessage
    | succ fuel ih =>
      intro message hmessage
      unfold renderWithin
      split
      · exact hmessage
      · rename_i before body hopen
        split
        · exact hmessage
        · rename_i inside rest hclose
          have hparts := hmessage.of_cutAt hopen
          have hinside := hparts.2.of_cutAt hclose
          simp only [Text.escapeFree_append]
          exact ⟨⟨hparts.1, escapeFree_span h hinside.1⟩, ih rest hinside.2⟩
  unfold render
  split
  · exact hmessage
  · exact hwithin _ message hmessage

theorem span_stripsTo (depth : ColorDepth) {inside : Text} (h : EscapeFree inside) :
    StripsTo ((rendered depth).span inside) (stripped.span inside) := by
  unfold span
  split
  · rename_i names text hcut
    have htext := (h.of_splitOnceWhere hcut).2
    exact (StripsTo.refl htext).styled (fun _ => isSequence_sequence depth names) []
  · refine .refl ?_
    simp only [Text.escapeFree_append]
    exact ⟨⟨by decide, h⟩, by decide⟩

theorem renderWithin_stripsTo (depth : ColorDepth) (fuel : Nat) {message : Text}
    (h : EscapeFree message) :
    StripsTo ((rendered depth).renderWithin fuel message) (stripped.renderWithin fuel message) := by
  induction fuel generalizing message with
  | zero => exact .refl h
  | succ fuel ih =>
    unfold renderWithin
    split
    · exact .refl h
    · rename_i before body hopen
      split
      · exact .refl h
      · rename_i inside rest hclose
        have hparts := h.of_cutAt hopen
        have hinside := hparts.2.of_cutAt hclose
        exact ((StripsTo.refl hparts.1).append (span_stripsTo depth hinside.1)).append
          (ih hinside.2)

/-- A message with its markup rendered, less its sequences, is the message with
its markup left out. -/
theorem render_stripsTo (depth : ColorDepth) {message : Text} (h : EscapeFree message) :
    StripsTo ((rendered depth).render message) (stripped.render message) :=
  renderWithin_stripsTo depth message.length h

end Markup

end LogLine.Style
