/-
  Regex/Class.lean --- classes of characters in regular expressions.

  A class is a set of characters in normal form.  It is put together from
  ranges, properties and the named classes of this file, and it can be closed
  under case.
-/
import LogLine.Text.Basic
import LogLine.Unicode.Property

set_option autoImplicit false

namespace LogLine.Regex

/-! ## Named classes -/

/-- Characters of words: letters, marks, decimal digits, connectors and joiners. -/
def wordChars : CharSet :=
  CharSet.unionOf [Unicode.alphabetic, Unicode.mark, Unicode.decimalNumber,
    Unicode.connectorPunctuation, Unicode.joinControl]

/-- The ASCII classes, by name. -/
def asciiClasses : List (String × CharSet) :=
  [("alnum", [(48, 57), (65, 90), (97, 122)]), ("alpha", [(65, 90), (97, 122)]),
   ("ascii", [(0, 127)]), ("blank", [(9, 9), (32, 32)]), ("cntrl", [(0, 31), (127, 127)]),
   ("digit", [(48, 57)]), ("graph", [(33, 126)]), ("lower", [(97, 122)]), ("print", [(32, 126)]),
   ("punct", [(33, 47), (58, 64), (91, 96), (123, 126)]), ("space", [(9, 13), (32, 32)]),
   ("upper", [(65, 90)]), ("word", [(48, 57), (65, 90), (95, 95), (97, 122)]),
   ("xdigit", [(48, 57), (65, 70), (97, 102)])]

/-- The ASCII class with this name. -/
def asciiClass? (name : Text) : Option CharSet :=
  (asciiClasses.find? (·.1.toList == name)).map (·.2)

/-- The classes that a letter after a backslash names. -/
inductive LetterClass where
  | digit
  | space
  | word
deriving DecidableEq, Repr, Inhabited

/-- The characters of a class among those of Unicode. -/
def LetterClass.set : LetterClass → CharSet
  | .digit => Unicode.decimalNumber
  | .space => Text.blanks
  | .word => wordChars

/-- The characters of a class among those of ASCII. -/
def LetterClass.asciiSet : LetterClass → CharSet
  | .digit => [(48, 57)]
  | .space => [(9, 13), (32, 32)]
  | .word => [(48, 57), (65, 90), (95, 95), (97, 122)]

/-! ## Words -/

/-- Whether a character belongs to words. -/
def isWordChar (unicode : Bool) (c : Char) : Bool :=
  if unicode then
    if c.toNat < 128 then c.isAlphanum || c == '_' else wordChars.has c
  else c.isAlphanum || c == '_'

/-! ## Case -/

/-- The set with the other case of every ASCII letter in it. -/
def foldAsciiCase (set : CharSet) : CharSet :=
  CharSet.unionOf [set,
    (set.intersection [(65, 90)]).map fun range => (range.1 + 32, range.2 + 32),
    (set.intersection [(97, 122)]).map fun range => (range.1 - 32, range.2 - 32)]

end LogLine.Regex
