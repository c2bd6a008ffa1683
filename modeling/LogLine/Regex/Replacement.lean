/-
  Regex/Replacement.lean --- the text that takes the place of a match.

  A replacement refers to groups by number or name, as `$1`, `$name`, `${1}` or
  `${name}`; two dollar signs stand for one.  A dollar sign that begins none of
  these stands for itself.
-/
import LogLine.Text.Numeral

set_option autoImplicit false

namespace LogLine.Regex

/-- A reference to a group. -/
inductive GroupName where
  | number (index : Nat)
  | name (name : Text)
deriving DecidableEq, Repr, Inhabited

/-- The group that a text names: a number if it is one. -/
def GroupName.read (text : Text) : GroupName :=
  match Text.readSize text with
  | .ok index => .number index
  | .error _ => .name text

/-- A part of a replacement. -/
inductive ReplacementPart where
  /-- A character that stands for itself. -/
  | char (c : Char)
  /-- The text of a group. -/
  | group (group : GroupName)
deriving DecidableEq, Repr, Inhabited

/-- Whether a character may stand in the name of a group without braces. -/
def isReferencePart (c : Char) : Bool := c.isAlphanum || c == '_'

/-- What follows a dollar sign, if it is a reference: the group, and the text
after it. -/
def reference? (s : Text) : Option (GroupName × Text) :=
  match s with
  | '\x7b' :: rest => (Text.splitOnce '\x7d' rest).map fun cut => (GroupName.read cut.1, cut.2)
  | s =>
    let name := s.takeWhile isReferencePart
    if name = [] then none else some (GroupName.read name, s.dropWhile isReferencePart)

/-- Reads the parts of a replacement; `fuel` bounds their number. -/
def readReplacementWithin : Nat → Text → List ReplacementPart
  | 0, _ => []
  | _, [] => []
  | fuel + 1, c :: rest =>
    if c = '$' then
      if rest.head? = some '$' then .char '$' :: readReplacementWithin fuel rest.tail
      else
        match reference? rest with
        | some (group, rest) => .group group :: readReplacementWithin fuel rest
        | none => .char '$' :: readReplacementWithin fuel rest
    else .char c :: readReplacementWithin fuel rest

/-- The parts of a replacement. -/
def readReplacement (s : Text) : List ReplacementPart := readReplacementWithin s.length s

end LogLine.Regex
