/-
  Text/Blank.lean --- the white space of Unicode.

  Trimming, splitting style names, markup and the space before a thrown error
  all use this one property (`White_Space`).
-/
import LogLine.Text.CharSet

set_option autoImplicit false

namespace LogLine.Text

/-- The characters with the property `White_Space`. -/
def blanks : CharSet :=
  [(0x9, 0xD), (0x20, 0x20), (0x85, 0x85), (0xA0, 0xA0), (0x1680, 0x1680), (0x2000, 0x200A),
   (0x2028, 0x2029), (0x202F, 0x202F), (0x205F, 0x205F), (0x3000, 0x3000)]

/-- Whether a character is white space. -/
def isBlank (c : Char) : Bool := blanks.has c

end LogLine.Text
