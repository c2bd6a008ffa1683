/-
  Regex/Parser/Blank.lean --- what does not count in a verbose expression, and
  numbers, whose digits it may stand between.

  Under the flag `x` white space does not count, nor does a comment from `#` to
  the end of its line.  That holds between the tokens of an expression and also
  within most of them.
-/
import LogLine.Regex.Flags
import LogLine.Text.Numeral

set_option autoImplicit false

namespace LogLine.Regex.Parser

/-! ## Skipping -/

/-- Skips white space and comments. -/
def dropBlanks (inComment : Bool) : Text → Text
  | [] => []
  | c :: rest =>
    if inComment then dropBlanks (c != '\n') rest
    else if Text.isBlank c then dropBlanks false rest
    else if c = '#' then dropBlanks true rest
    else c :: rest

/-- Skips what does not count under the flags. -/
def skipBlanks (flags : Flags) (s : Text) : Text :=
  if flags.verbose then dropBlanks false s else s

theorem length_dropBlanks_le (inComment : Bool) (s : Text) :
    (dropBlanks inComment s).length ≤ s.length := by
  induction s generalizing inComment with
  | nil => simp [dropBlanks]
  | cons c rest ih =>
    unfold dropBlanks
    split
    · exact Nat.le_succ_of_le (ih _)
    · split
      · exact Nat.le_succ_of_le (ih _)
      · split
        · exact Nat.le_succ_of_le (ih _)
        · exact Nat.le_refl _

theorem length_skipBlanks_le (flags : Flags) (s : Text) :
    (skipBlanks flags s).length ≤ s.length := by
  unfold skipBlanks
  split
  · exact length_dropBlanks_le _ _
  · exact Nat.le_refl _

/-- The characters up to the first that does not satisfy `p`, without the blanks
after each of them, and the text from there on. -/
def collect (flags : Flags) (p : Char → Bool) : Text → Text × Text
  | [] => ([], [])
  | c :: rest =>
    if p c then
      let more := collect flags p (skipBlanks flags rest)
      (c :: more.1, more.2)
    else ([], c :: rest)
termination_by s => s.length
decreasing_by
  have := length_skipBlanks_le flags rest
  simp only [List.length_cons]
  omega

/-- A number of characters, without the blanks after each of them, and the text
after those. -/
def collectCount? (flags : Flags) : Nat → Text → Option (Text × Text)
  | 0, s => some ([], s)
  | _ + 1, [] => none
  | n + 1, c :: rest =>
    (collectCount? flags n (skipBlanks flags rest)).map fun more => (c :: more.1, more.2)

/-! ## Numbers -/

/-- A decimal number with white space around it; comments may stand behind its
first digit only. -/
def decimal? (flags : Flags) (s : Text) : Option (Nat × Text) :=
  let (digits, rest) := collect flags Char.isDigit (s.dropWhile Text.isBlank)
  let n := Text.digitsValue 0 digits
  if digits = [] ∨ Nat.pow 2 32 ≤ n then none else some (n, (collect flags Text.isBlank rest).2)

/-- The value of a hexadecimal digit. -/
def hexValue? (c : Char) : Option Nat :=
  if c.isDigit then some (c.toNat - '0'.toNat)
  else if 'a' ≤ c ∧ c ≤ 'f' then some (c.toNat - 'a'.toNat + 10)
  else if 'A' ≤ c ∧ c ≤ 'F' then some (c.toNat - 'A'.toNat + 10)
  else none

/-- The character with a scalar value. -/
def scalar? (n : Nat) : Option Char := if n.isValidChar then some (Char.ofNat n) else none

/-- The character that hexadecimal digits give; there has to be one. -/
def hexChar? (digits : Text) : Option Char :=
  if digits = [] then none
  else
    match digits.mapM hexValue? with
    | some values => scalar? (values.foldl (fun n d => 16 * n + d) 0)
    | none => none

end LogLine.Regex.Parser
