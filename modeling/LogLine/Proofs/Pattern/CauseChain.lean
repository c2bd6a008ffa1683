/-
  Proofs/Pattern/CauseChain.lean --- the entries that an attached error is
  written in.

  The message of an error is written line by line, and so is the message of each
  error behind it, with a mark before its first line.  A message without lines
  still leaves its mark, so that every later entry moves down by one.  The limit
  of a converter counts entries, wherever the messages end:

      ThrownText.chainEntries_iff          the entries of a chain, and no others
      ThrownText.output_eq                 the first of them, after a space
      ThrownText.output_isPrefix           a smaller limit writes a beginning
      ThrownText.writes_first_entries      the converter, under any limit
-/
import LogLine.Proofs.Pattern.AppendOnly
import LogLine.Proofs.Pattern.ThrownOptions
import LogLine.Proofs.Text.Lines

set_option autoImplicit false

namespace LogLine

/-- A converter adds a text to a buffer, and writes the next record as it is. -/
def Converter.Adds (converter : Converter) (scene : Scene) (buffer text : Text) : Prop :=
  converter.write scene buffer = { next := converter, buffer := buffer ++ text }

namespace ThrownText

/-! ## Chains of errors -/

/-- The entries of the errors behind an error, by their messages: the first line
of each is marked, and a message without lines leaves the mark alone. -/
inductive CauseEntries : (causes entries : List Text) → Prop where
  | nil : CauseEntries [] []
  | empty {message : Text} {causes entries : List Text} (h : Text.HasLines message [])
      (hcauses : CauseEntries causes entries) :
      CauseEntries (message :: causes) ("Caused by: ".toList :: entries)
  | lines {message first : Text} {more causes entries : List Text}
      (h : Text.HasLines message (first :: more)) (hcauses : CauseEntries causes entries) :
      CauseEntries (message :: causes) (("Caused by: ".toList ++ first) :: more ++ entries)

/-- The entries of an error and of those behind it, by their messages. -/
inductive ChainEntries : (thrown entries : List Text) → Prop where
  | mk {message : Text} {causes own behind : List Text} (h : Text.HasLines message own)
      (hcauses : CauseEntries causes behind) : ChainEntries (message :: causes) (own ++ behind)

theorem causeEntries_iff {causes entries : List Text} :
    CauseEntries causes entries ↔ causes.flatMap causeLines = entries := by
  constructor
  · intro h
    induction h with
    | nil => rfl
    | empty h _ ih =>
      rw [List.flatMap_cons, ih, causeLines, Text.hasLines_iff.1 h]
      rfl
    | lines h _ ih =>
      rw [List.flatMap_cons, ih, causeLines, Text.hasLines_iff.1 h]
      rfl
  · rintro rfl
    induction causes with
    | nil => exact .nil
    | cons message causes ih =>
      rw [List.flatMap_cons, causeLines]
      cases hlines : Text.lines message with
      | nil => exact .empty (Text.hasLines_iff.2 hlines) ih
      | cons first more => exact .lines (Text.hasLines_iff.2 hlines) ih

/-- Every error has its entries and no others. -/
theorem chainEntries_iff {thrown entries : List Text} :
    ChainEntries thrown entries ↔ thrown ≠ [] ∧ lines thrown = entries := by
  constructor
  · rintro ⟨h, hcauses⟩
    rw [lines, Text.hasLines_iff.1 h, causeEntries_iff.1 hcauses]
    exact ⟨List.cons_ne_nil _ _, rfl⟩
  · rintro ⟨hne, rfl⟩
    obtain ⟨message, causes, rfl⟩ := List.exists_cons_of_ne_nil hne
    exact .mk (Text.hasLines_lines message) (causeEntries_iff.2 rfl)

/-! ## What is written -/

/-- The entries that a limit leaves; there may be none. -/
def within (limit : Option Nat) (entries : List Text) : List Text :=
  match limit with
  | none => entries
  | some n => entries.take n

theorem output_nil (style : ThrownText) (buffer : Text) : style.output buffer [] = [] := by
  rw [output, if_pos (.inl rfl)]

theorem output_of_limit_zero (separator buffer : Text) (thrown : List Text) :
    output ⟨some 0, separator⟩ buffer thrown = [] := by
  rw [output, if_pos (.inr rfl)]

/-- The entries are joined, after a space if the buffer ends visibly. -/
theorem output_eq {limit : Option Nat} {thrown entries : List Text}
    (h : ChainEntries thrown entries) (hlimit : limit ≠ some 0) (separator buffer : Text) :
    output ⟨limit, separator⟩ buffer thrown =
      (if Text.endsVisibly buffer then [' '] else []) ++
        separator.intercalate (within limit entries) := by
  obtain ⟨hne, rfl⟩ := chainEntries_iff.1 h
  rw [output, if_neg (not_or.2 ⟨hne, hlimit⟩), leadingSpace_eq]
  cases limit <;> rfl

theorem intercalate_isPrefix (mark : Text) (a b : List Text) :
    mark.intercalate a <+: mark.intercalate (a ++ b) := by
  by_cases ha : a = []
  · rw [ha]
    exact List.nil_prefix
  by_cases hb : b = []
  · have hsame : mark.intercalate (a ++ b) = mark.intercalate a := by rw [hb, List.append_nil]
    exact hsame ▸ List.prefix_refl (mark.intercalate a)
  · rw [Text.intercalate_append ha hb, List.append_assoc]
    exact List.prefix_append _ _

/-- A limit that leaves fewer entries writes a beginning of what is written
under one that leaves more. -/
theorem output_isPrefix {less more : Option Nat} (hless : less ≠ some 0) (hmore : more ≠ some 0)
    (h : ∀ entries, within less entries <+: within more entries) (separator buffer : Text)
    (thrown : List Text) :
    output ⟨less, separator⟩ buffer thrown <+: output ⟨more, separator⟩ buffer thrown := by
  by_cases hne : thrown = []
  · rw [hne, output_nil]
    exact List.nil_prefix
  · have hentries : ChainEntries thrown (lines thrown) := chainEntries_iff.2 ⟨hne, rfl⟩
    obtain ⟨rest, hrest⟩ := h (lines thrown)
    rw [output_eq hentries hless, output_eq hentries hmore, ← hrest]
    exact (List.prefix_append_right_inj _).2 (intercalate_isPrefix separator _ rest)

/-! ## The converter -/

theorem adds_throwable_iff {style : ThrownText} {scene : Scene} {buffer text : Text} :
    Converter.Adds (.throwable style) scene buffer text ↔
      style.output buffer scene.record.thrown = text := by
  constructor
  · intro h
    exact List.append_cancel_left (congrArg Written.buffer h)
  · rintro rfl
    rfl

/-- An error is written after a space, if the buffer ends in a character that is
not white space, as its first entries with the separator between them, as many
as the limit allows; so a smaller limit writes a beginning of what a greater one
does.  Nothing is written under the limit zero or without an error.  A number as
an option is the limit itself, the limit of `short` is one, and that of `none` is
zero. -/
theorem writes_first_entries (scene : Scene) (separator buffer : Text) :
    (scene.record.thrown ≠ [] → ∃ entries, ChainEntries scene.record.thrown entries ∧
      (∀ n, 1 ≤ n → Converter.Adds (.throwable ⟨some n, separator⟩) scene buffer
        ((if Text.endsVisibly buffer then [' '] else []) ++
          separator.intercalate (entries.take n))) ∧
      Converter.Adds (.throwable ⟨none, separator⟩) scene buffer
        ((if Text.endsVisibly buffer then [' '] else []) ++ separator.intercalate entries)) ∧
    (scene.record.thrown = [] → ∀ limit,
      Converter.Adds (.throwable ⟨limit, separator⟩) scene buffer []) ∧
    Converter.Adds (.throwable ⟨some 0, separator⟩) scene buffer [] ∧
    (∀ n m, 1 ≤ n → n ≤ m →
      (Converter.write scene buffer (.throwable ⟨some n, separator⟩)).buffer <+:
          (Converter.write scene buffer (.throwable ⟨some m, separator⟩)).buffer ∧
        (Converter.write scene buffer (.throwable ⟨some m, separator⟩)).buffer <+:
          (Converter.write scene buffer (.throwable ⟨none, separator⟩)).buffer) ∧
    (∀ n, n ≤ maxSize → read [Text.ofNat n] = .ok { limit := some n }) ∧
    read ["short".toList] = .ok { limit := some 1 } ∧
    read ["none".toList] = .ok { limit := some 0 } := by
  refine ⟨fun hne => ?_, fun hnone limit => ?_, ?_, ?_, fun n => read_ofNat, rfl, rfl⟩
  · have hentries : ChainEntries scene.record.thrown (lines scene.record.thrown) :=
      chainEntries_iff.2 ⟨hne, rfl⟩
    refine ⟨_, hentries, fun n hpos => ?_, ?_⟩
    · exact adds_throwable_iff.2 (output_eq hentries (by simp; omega) separator buffer)
    · exact adds_throwable_iff.2 (output_eq hentries (by simp) separator buffer)
  · exact adds_throwable_iff.2 (hnone ▸ output_nil _ buffer)
  · exact adds_throwable_iff.2 (output_of_limit_zero separator buffer _)
  · intro n m hpos hle
    have hn : some n ≠ some 0 := by simp; omega
    have hm : some m ≠ some 0 := by simp; omega
    have hnone : (none : Option Nat) ≠ some 0 := by simp
    have hfewer := output_isPrefix hn hm (fun _ => List.take_prefix_take_left hle) separator buffer
      scene.record.thrown
    have hsome := output_isPrefix hm hnone (List.take_prefix m) separator buffer
      scene.record.thrown
    exact ⟨(List.prefix_append_right_inj buffer).2 hfewer,
      (List.prefix_append_right_inj buffer).2 hsome⟩

/-- An error of two lines; of the two behind it, the first has no message. -/
def silentCauseScene : Scene :=
  { record := { thrown := ["a\r\nb\n".toList, [], "c".toList] } }

theorem writes_first_entries_silentCause :
    silentCauseScene.record.thrown ≠ [] ∧
    Converter.Adds (.throwable ⟨some 3, "; ".toList⟩) silentCauseScene "failed".toList
      " a; b; Caused by: ".toList ∧
    Converter.Adds (.throwable ⟨none, "; ".toList⟩) silentCauseScene "failed".toList
      " a; b; Caused by: ; Caused by: c".toList ∧
    (Converter.write silentCauseScene "failed".toList
        (.throwable ⟨some 3, "; ".toList⟩)).buffer <+:
      (Converter.write silentCauseScene "failed".toList
        (.throwable ⟨some 4, "; ".toList⟩)).buffer ∧
    read [Text.ofNat 3] = .ok { limit := some 3 } := by
  have hne : silentCauseScene.record.thrown ≠ [] := by decide
  obtain ⟨hwrites, -, -, hbegins, hread, -, -⟩ :=
    writes_first_entries silentCauseScene "; ".toList "failed".toList
  obtain ⟨entries, hentries, hfirst, hall⟩ := hwrites hne
  obtain ⟨-, rfl⟩ := chainEntries_iff.1 hentries
  exact ⟨hne, hfirst 3 (by decide), hall, (hbegins 3 4 (by decide) (by decide)).1,
    hread 3 (by decide)⟩

end ThrownText

end LogLine
