/-
  Text/Quoted.lean --- a text between double quotes, as an error message shows it.
-/
import LogLine.Text.Basic
import LogLine.Text.Printable

set_option autoImplicit false

namespace LogLine.Text

/-- The lower-case hexadecimal digits of a number. -/
def hexadecimal (n : Nat) : Text := Nat.toDigits 16 n

/-- One character of a quoted text. -/
def quoteChar (c : Char) : Text :=
  match c with
  | '"' => ['\\', '"']
  | '\\' => ['\\', '\\']
  | '\n' => ['\\', 'n']
  | '\r' => ['\\', 'r']
  | '\t' => ['\\', 't']
  | '\x00' => ['\\', '0']
  | c =>
    if isPlainlyPrintable c then [c]
    else ['\\', 'u', '\x7b'] ++ hexadecimal c.toNat ++ ['\x7d']

/-- The text in double quotes, with escapes for what would not show. -/
def quoted (s : Text) : Text := ['"'] ++ s.flatMap quoteChar ++ ['"']

end LogLine.Text
