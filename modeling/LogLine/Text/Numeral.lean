/-
  Text/Numeral.lean --- reading and writing decimal numbers.

  Sizes (widths, limits, line counts) are natural numbers up to `maxSize`.
  Reading one goes from left to right: the first character that is no digit,
  or the first digit that passes the limit, decides the fault.
-/
import LogLine.Text.Basic

set_option autoImplicit false

namespace LogLine

/-- The greatest size: sizes are 64 bits wide. -/
def maxSize : Nat := Nat.pow 2 64 - 1

/-- Why a text is no number. -/
inductive NumberFault where
  /-- There is no character at all. -/
  | empty
  /-- Some character is no digit. -/
  | invalidDigit
  /-- The number passes the limit. -/
  | tooLarge
deriving DecidableEq, Repr, Inhabited

/-- The wording of a number fault. -/
def NumberFault.message : NumberFault → String
  | .empty => "cannot parse integer from empty string"
  | .invalidDigit => "invalid digit found in string"
  | .tooLarge => "number too large to fit in target type"

namespace Text

/-- The value of an ASCII digit. -/
def digitValue (c : Char) : Nat := c.toNat - '0'.toNat

/-- The value of a run of digits, continued from `acc`. -/
def digitsValue (acc : Nat) (digits : Text) : Nat :=
  digits.foldl (fun value c => value * 10 + digitValue c) acc

/-- Reads digits after those that made `acc`, up to a limit. -/
def readDigits (limit : Nat) : Nat → Text → Except NumberFault Nat
  | acc, [] => .ok acc
  | acc, c :: rest =>
    if c.isDigit then
      if acc * 10 + digitValue c ≤ limit then readDigits limit (acc * 10 + digitValue c) rest
      else .error .tooLarge
    else .error .invalidDigit

/-- Reads at least one digit. -/
def readNumber (limit : Nat) : Text → Except NumberFault Nat
  | [] => .error .invalidDigit
  | digits => readDigits limit 0 digits

/-- Reads a size: an optional plus sign and digits. -/
def readSize : Text → Except NumberFault Nat
  | [] => .error .empty
  | '+' :: digits => readNumber maxSize digits
  | digits => readNumber maxSize digits

/-- Reads a signed number of 64 bits. -/
def readInteger? : Text → Option Int
  | '-' :: digits => (readNumber (Nat.pow 2 63) digits).toOption.map fun n => -(n : Int)
  | '+' :: digits => (readNumber (Nat.pow 2 63 - 1) digits).toOption.map Int.ofNat
  | digits => (readNumber (Nat.pow 2 63 - 1) digits).toOption.map Int.ofNat

/-- The decimal digits of a number. -/
def ofNat (n : Nat) : Text := Nat.toDigits 10 n

/-- The decimal text of a signed number. -/
def ofInt : Int → Text
  | .ofNat n => ofNat n
  | .negSucc n => '-' :: ofNat (n + 1)

/-- A number padded with zeros to `width` characters, its sign counted. -/
def zeroPadded (width : Nat) (n : Int) : Text :=
  let digits := ofNat n.natAbs
  if n < 0 then '-' :: (List.replicate (width - 1 - digits.length) '0' ++ digits)
  else List.replicate (width - digits.length) '0' ++ digits

end Text

end LogLine
