/-
  Text/Basic.lean --- texts as lists of characters, and the ways to cut them.

  Patterns, options, record fields and output buffers are all texts, so that
  lengths and positions count characters.  The cuts of this file lose nothing:

      Text.append_of_cutAt        before ++ mark ++ after is the text again
      Text.append_of_cutAtLast    the same for the last occurrence
      Text.append_of_splitOnce    the same for a single character
      Text.intercalate_pieces     joining the pieces gives the text again
-/
import LogLine.Text.Blank

set_option autoImplicit false

namespace LogLine

/-- A text: its Unicode scalar values in order. -/
abbrev Text := List Char

namespace Text

/-- The length of a text in bytes. -/
def byteLength : Text → Nat
  | [] => 0
  | c :: rest => c.utf8Size + byteLength rest

/-! ## Cutting at a character -/

/-- The pieces of a text between the occurrences of `sep`.  There is always at
least one, and there is one more than there are separators. -/
def pieces (sep : Char) : Text → List Text
  | [] => [[]]
  | c :: rest =>
    if c = sep then [] :: pieces sep rest
    else (pieces sep rest).modifyHead (c :: ·)

theorem pieces_ne_nil (sep : Char) (s : Text) : pieces sep s ≠ [] := by
  induction s with
  | nil => simp [pieces]
  | cons c rest ih =>
    unfold pieces
    split
    · simp
    · cases h : pieces sep rest with
      | nil => exact absurd h ih
      | cons p ps => simp

theorem intercalate_pieces (sep : Char) (s : Text) : [sep].intercalate (pieces sep s) = s := by
  induction s with
  | nil => rfl
  | cons c rest ih =>
    unfold pieces
    cases h : pieces sep rest with
    | nil => exact absurd h (pieces_ne_nil sep rest)
    | cons p ps =>
      rw [h] at ih
      split
      · subst c
        simp [List.intercalate, List.intersperse] at ih ⊢
        cases ps <;> simp_all
      · simp [List.intercalate] at ih ⊢
        cases ps <;> simp_all

/-- The text before and after the first `sep`, if there is one. -/
def splitOnce (sep : Char) : Text → Option (Text × Text)
  | [] => none
  | c :: rest =>
    if c = sep then some ([], rest)
    else (splitOnce sep rest).map fun cut => (c :: cut.1, cut.2)

theorem append_of_splitOnce {sep : Char} {s before after : Text}
    (h : splitOnce sep s = some (before, after)) : before ++ sep :: after = s := by
  induction s generalizing before with
  | nil => simp [splitOnce] at h
  | cons c rest ih =>
    unfold splitOnce at h
    split at h
    · simp_all
    · cases hr : splitOnce sep rest with
      | none => simp [hr] at h
      | some cut =>
        simp [hr] at h
        obtain ⟨rfl, rfl⟩ := h
        have found : splitOnce sep rest = some (cut.1, cut.2) := by simp [hr]
        simp [ih found]

/-- The text before the first character that satisfies `p`, and the text after
that character. -/
def splitOnceWhere (p : Char → Bool) : Text → Option (Text × Text)
  | [] => none
  | c :: rest =>
    if p c then some ([], rest)
    else (splitOnceWhere p rest).map fun cut => (c :: cut.1, cut.2)

/-- The runs of characters that do not satisfy `p`. -/
def words (p : Char → Bool) : Text → List Text
  | [] => []
  | c :: rest =>
    if p c then words p rest
    else
      match rest with
      | [] => [[c]]
      | d :: _ => if p d then [c] :: words p rest else (words p rest).modifyHead (c :: ·)

/-! ## Cutting at a mark -/

/-- The text before and after the first occurrence of `mark`. -/
def cutAt (mark : Text) : Text → Option (Text × Text)
  | [] => if mark = [] then some ([], []) else none
  | c :: rest =>
    match mark.isPrefixOf? (c :: rest) with
    | some after => some ([], after)
    | none => (cutAt mark rest).map fun cut => (c :: cut.1, cut.2)

/-- The text before and after the last occurrence of `mark`. -/
def cutAtLast (mark : Text) : Text → Option (Text × Text)
  | [] => if mark = [] then some ([], []) else none
  | c :: rest =>
    match cutAtLast mark rest with
    | some cut => some (c :: cut.1, cut.2)
    | none => (mark.isPrefixOf? (c :: rest)).map fun after => ([], after)

theorem isPrefixOf?_cons_cons (m c : Char) (mark s : Text) :
    (m :: mark).isPrefixOf? (c :: s) = if m = c then mark.isPrefixOf? s else none := by
  have h : (m :: mark).isPrefixOf? (c :: s) = if m == c then mark.isPrefixOf? s else none := rfl
  rw [h]
  simp only [beq_iff_eq]

theorem append_of_isPrefixOf? {mark s after : Text} (h : mark.isPrefixOf? s = some after) :
    mark ++ after = s := by
  induction mark generalizing s with
  | nil => exact (Option.some.inj h).symm
  | cons m mark ih =>
    cases s with
    | nil => cases h
    | cons c s =>
      rw [isPrefixOf?_cons_cons] at h
      split at h
      · subst m
        rw [List.cons_append, ih h]
      · cases h

theorem append_of_cutAt {mark s before after : Text}
    (h : cutAt mark s = some (before, after)) : before ++ mark ++ after = s := by
  induction s generalizing before with
  | nil =>
    simp only [cutAt] at h
    split at h <;> simp_all
  | cons c rest ih =>
    simp only [cutAt] at h
    split at h
    · rename_i found
      simp at h
      obtain ⟨rfl, rfl⟩ := h
      simpa using append_of_isPrefixOf? found
    · cases hr : cutAt mark rest with
      | none => simp [hr] at h
      | some cut =>
        simp [hr] at h
        obtain ⟨rfl, rfl⟩ := h
        have found : cutAt mark rest = some (cut.1, cut.2) := by simp [hr]
        simpa using ih found

theorem append_of_cutAtLast {mark s before after : Text}
    (h : cutAtLast mark s = some (before, after)) : before ++ mark ++ after = s := by
  induction s generalizing before with
  | nil =>
    simp only [cutAtLast] at h
    split at h <;> simp_all
  | cons c rest ih =>
    simp only [cutAtLast] at h
    split at h
    · rename_i cut found
      simp at h
      obtain ⟨rfl, rfl⟩ := h
      have again : cutAtLast mark rest = some (cut.1, cut.2) := by simp [found]
      simpa using ih again
    · cases hp : mark.isPrefixOf? (c :: rest) with
      | none => simp [hp] at h
      | some tail =>
        simp [hp] at h
        obtain ⟨rfl, rfl⟩ := h
        simpa using append_of_isPrefixOf? hp

/-- At most `fuel` cuts at `mark`, from the left. -/
def piecesAtWithin (mark : Text) : Nat → Text → List Text
  | 0, s => [s]
  | fuel + 1, s =>
    match cutAt mark s with
    | none => [s]
    | some (before, after) => before :: piecesAtWithin mark fuel after

/-- The pieces of a text between the occurrences of a non-empty mark, found
from the left and without overlap. -/
def piecesAt (mark s : Text) : List Text := piecesAtWithin mark s.length s

/-- Whether `mark` occurs in the text. -/
def contains (mark s : Text) : Bool := (cutAt mark s).isSome

/-! ## Ends of a text -/

/-- The text without the white space before it. -/
def trimStart (s : Text) : Text := s.dropWhile isBlank

/-- The text without the white space after it. -/
def trimEnd (s : Text) : Text := (s.reverse.dropWhile isBlank).reverse

/-- The text without the white space around it. -/
def trim (s : Text) : Text := trimEnd (trimStart s)

/-- What stands before `ending`, if the text ends so. -/
def dropEnding? (ending s : Text) : Option Text :=
  (ending.reverse.isPrefixOf? s.reverse).map List.reverse

/-! ## ASCII case -/

/-- The text with its ASCII letters in upper case. -/
def asciiUpper (s : Text) : Text := s.map Char.toUpper

/-- The text with its ASCII letters in lower case. -/
def asciiLower (s : Text) : Text := s.map Char.toLower

/-- Equality up to the case of ASCII letters. -/
def sameIgnoringCase (a b : Text) : Bool := asciiLower a == asciiLower b

/-! ## Lines -/

/-- A piece that a newline ended, without the carriage return before it. -/
def dropReturn (line : Text) : Text := (dropEnding? ['\r'] line).getD line

/-- The lines among the pieces between newlines: a last piece that is empty is
no line, and only a newline takes a carriage return with it. -/
def linesOfPieces : List Text → List Text
  | [] => []
  | [last] => if last = [] then [] else [last]
  | line :: rest => dropReturn line :: linesOfPieces rest

/-- The lines of a text. -/
def lines (s : Text) : List Text := linesOfPieces (pieces '\n' s)

/-! ## Order -/

/-- Whether `a` comes before `b` in code point order. -/
def precedes (a b : Text) : Bool := decide (a < b)

end Text

end LogLine
