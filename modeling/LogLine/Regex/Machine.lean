/-
  Regex/Machine.lean --- running a program over a text.

  All ways through the program are followed at once, one character after the
  other, in order of preference; a way that comes to a place where a preferred
  one has been is given up.  A match gives up all ways behind it, and the last
  match found is the preferred one of those that begin leftmost.
-/
import LogLine.Regex.Program
import LogLine.Text.Basic

set_option autoImplicit false

namespace LogLine.Regex

/-- The positions noted so far, by slot. -/
abbrev Slots := Array (Option Nat)

/-- One way through a program: where it stands and what it noted. -/
structure Way where
  /-- The place of the next instruction. -/
  place : Nat
  /-- What it noted. -/
  slots : Slots
deriving DecidableEq, Repr, Inhabited

/-- A place in a text: the character before it, its position, and the text
after it. -/
structure Cursor where
  /-- The character before it. -/
  before : Option Char := none
  /-- How many characters are before it. -/
  position : Nat := 0
  /-- The text after it. -/
  rest : Text
deriving DecidableEq, Repr, Inhabited

namespace Cursor

/-- The place one character further on, if there is one. -/
def next? (cursor : Cursor) : Option Cursor :=
  match cursor.rest with
  | [] => none
  | c :: rest => some ⟨some c, cursor.position + 1, rest⟩

/-- The place a number of characters further on, at most at the end. -/
def skip : Nat → Cursor → Cursor
  | 0, cursor => cursor
  | n + 1, cursor =>
    match cursor.next? with
    | none => cursor
    | some cursor => skip n cursor

end Cursor

/-- The ways at one position. -/
structure Front where
  /-- For every place the last round in which some way came there. -/
  visited : Array Nat
  /-- The ways that wait for a character or have matched, the preferred ones
  last. -/
  waiting : List Way := []

namespace Front

/-- No way at all, for a program of some size; rounds are counted from 1. -/
def empty (size : Nat) : Front := { visited := Array.replicate size 0 }

/-- Follows the ways of a stack as far as they go without a character; `fuel`
bounds the number of instructions. -/
def follow (program : Array Instruction) (cursor : Cursor) :
    Nat → List Way → Front → Front
  | 0, _, front => front
  | _, [], front => front
  | fuel + 1, way :: stack, front =>
    let round := cursor.position + 1
    if front.visited.getD way.place round = round then follow program cursor fuel stack front
    else
      let front : Front := { front with visited := front.visited.setIfInBounds way.place round }
      match program.getD way.place .done with
      | .chars _ | .done =>
        follow program cursor fuel stack { front with waiting := way :: front.waiting }
      | .look condition =>
        if condition.holds cursor.before cursor.rest.head? then
          follow program cursor fuel ({ way with place := way.place + 1 } :: stack) front
        else follow program cursor fuel stack front
      | .save slot =>
        follow program cursor fuel
          (⟨way.place + 1, way.slots.setIfInBounds slot (some cursor.position)⟩ :: stack) front
      | .fork first second =>
        follow program cursor fuel
          ({ way with place := first } :: { way with place := second } :: stack) front
      | .jump target => follow program cursor fuel ({ way with place := target } :: stack) front

/-- The ways that wait after some ways have been followed; in one round each
instruction is met at most once and leads to at most two places. -/
def settle (program : Array Instruction) (cursor : Cursor) (ways : List Way) (front : Front) :
    Front :=
  follow program cursor (2 * program.size + ways.length + 1) ways { front with waiting := [] }

end Front

/-- The ways that go on after a character, up to the first one that has
matched, and what that one noted; `kept` are those before, the last one first. -/
def advance (program : Array Instruction) (c : Option Char) :
    List Way → (kept : List Way) → List Way × Option Slots
  | [], kept => (kept.reverse, none)
  | way :: rest, kept =>
    match program.getD way.place .done with
    | .done => (kept.reverse, some way.slots)
    | .chars set =>
      if c.any set.has then advance program c rest ({ way with place := way.place + 1 } :: kept)
      else advance program c rest kept
    | _ => advance program c rest kept

/-- Runs a program from some ways on; while nothing has matched, a new way
begins at every position. -/
def run (program : Array Instruction) (slots : Nat) (ways : List Way) (front : Front)
    (found : Option Slots) (before : Option Char) (position : Nat) (rest : Text) :
    Option Slots :=
  let started := if found.isSome then ways else ways ++ [⟨0, Array.replicate slots none⟩]
  let front := front.settle program ⟨before, position, rest⟩ started
  let (ways, matched) := advance program rest.head? front.waiting.reverse []
  let found := matched.or found
  match rest with
  | [] => found
  | c :: rest =>
    if ways.isEmpty && found.isSome then found
    else run program slots ways front found (some c) (position + 1) rest
termination_by structural rest

/-- The first match at or after a place: the positions it noted. -/
def search (program : Array Instruction) (slots : Nat) (cursor : Cursor) : Option Slots :=
  run program slots [] (Front.empty program.size) none cursor.before cursor.position cursor.rest

end LogLine.Regex
