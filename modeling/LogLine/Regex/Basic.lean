/-
  Regex/Basic.lean --- regular expressions: compiling one, finding and replacing
  its matches.

  All that is asked of an expression is to replace its matches.  The expressions
  of this library do so by a program: matches are found from left to right and do
  not overlap; an empty match does not stand directly after another match.
-/
import LogLine.Regex.Machine
import LogLine.Regex.Parser
import LogLine.Regex.Replacement

set_option autoImplicit false

namespace LogLine

/-- A regular expression that is ready to run. -/
structure Regex where
  /-- A text with every match replaced, given the replacement. -/
  replaceAll (replacement text : Text) : Text

/-- A regular expression as a program. -/
structure Regex.Compiled where
  /-- The program that finds matches. -/
  program : Array Regex.Instruction
  /-- How many groups there are, the whole match not counted. -/
  groups : Nat
  /-- The names of groups. -/
  names : List (Text × Nat)
deriving DecidableEq, Repr

namespace Regex

/-- A match: the positions that its groups noted. -/
structure Match where
  /-- The beginning and the end of each group. -/
  slots : Slots
deriving DecidableEq, Repr

namespace Match

/-- Where a group begins and ends, if it took part in the match. -/
def range? (found : Match) (group : Nat) : Option (Nat × Nat) :=
  match found.slots.getD (2 * group) none, found.slots.getD (2 * group + 1) none with
  | some first, some last => some (first, last)
  | _, _ => none

/-- Where the match begins. -/
def first (found : Match) : Nat := ((found.range? 0).map (·.1)).getD 0

/-- Where the match ends. -/
def last (found : Match) : Nat := ((found.range? 0).map (·.2)).getD 0

/-- The text of a group, empty if it took no part in the match. -/
def groupText (found : Match) (text : Text) (group : Nat) : Text :=
  match found.range? group with
  | some (first, last) => (text.drop first).take (last - first)
  | none => []

end Match

namespace Compiled

/-- The first match at or after a place. -/
def findFrom (compiled : Compiled) (cursor : Cursor) : Option Match :=
  (search compiled.program (2 * (compiled.groups + 1)) cursor).map Match.mk

/-- The first match at or after a place that is no empty match at `last`, the
end of the match before. -/
def findNext (compiled : Compiled) (last : Option Nat) (cursor : Cursor) : Option Match :=
  match compiled.findFrom cursor with
  | none => none
  | some found =>
    if found.first = found.last ∧ some found.last = last then
      cursor.next?.bind compiled.findFrom
    else some found

/-- The matches from a place on; `fuel` bounds their number. -/
def findAllWithin (compiled : Compiled) : Nat → Option Nat → Cursor → List Match
  | 0, _, _ => []
  | fuel + 1, last, cursor =>
    match compiled.findNext last cursor with
    | none => []
    | some found =>
      found :: compiled.findAllWithin fuel (some found.last)
        (cursor.skip (found.last - cursor.position))

/-- All matches in a text: at most one ends at each place. -/
def findAll (compiled : Compiled) (text : Text) : List Match :=
  compiled.findAllWithin (text.length + 2) none { rest := text }

/-- The number of a group, if there is one with this name. -/
def groupIndex? (compiled : Compiled) : GroupName → Option Nat
  | .number index => some index
  | .name name => (compiled.names.find? (·.1 == name)).map (·.2)

/-- What a part of a replacement is written as. -/
def partText (compiled : Compiled) (text : Text) (found : Match) : ReplacementPart → Text
  | .char c => [c]
  | .group group =>
    match compiled.groupIndex? group with
    | some index => found.groupText text index
    | none => []

/-- Writes a text with matches replaced; `position` is the place up to which it
is written. -/
def replaceMatches (compiled : Compiled) (parts : List ReplacementPart) (text : Text)
    (position : Nat) : List Match → Text
  | [] => text.drop position
  | found :: rest =>
    (text.drop position).take (found.first - position)
      ++ parts.flatMap (compiled.partText text found)
      ++ replaceMatches compiled parts text found.last rest

/-- Replaces every match in a text. -/
def replaceAll (compiled : Compiled) (replacement text : Text) : Text :=
  compiled.replaceMatches (readReplacement replacement) text 0 (compiled.findAll text)

end Compiled

/-- Compiles a regular expression. -/
def compile (expression : Text) : Except String Regex :=
  match Parser.read? expression with
  | some (node, groups, names) =>
    let compiled : Compiled := { program := node.program, groups, names }
    .ok { replaceAll := compiled.replaceAll }
  | none => .error "<regex error>"

end Regex

end LogLine
