/-
  Regex/Program.lean --- regular expressions as programs.

  An expression is laid out as instructions that follow one another.  Where a
  way divides, the branch that is preferred comes first, so that the order in
  which the branches are tried is the order of preference of the expression.
  How many instructions an expression takes is known before they are laid out,
  and so is every place that a way goes on at.
-/
import LogLine.Regex.Node

set_option autoImplicit false

namespace LogLine.Regex

/-- An instruction; unless it says otherwise, the next one follows. -/
inductive Instruction where
  /-- Takes one character of a set. -/
  | chars (set : CharSet)
  /-- Goes on only where a condition holds. -/
  | look (condition : Look)
  /-- Notes the position in a slot. -/
  | save (slot : Nat)
  /-- Goes on at the first place, or else at the second one. -/
  | fork (first second : Nat)
  /-- Goes on at a place. -/
  | jump (target : Nat)
  /-- Has found a match. -/
  | done
deriving DecidableEq, Repr, Inhabited

/-- A fork between entering a body and leaving it. -/
def Instruction.enterOrLeave (greedy : Bool) (body exit : Nat) : Instruction :=
  if greedy then .fork body exit else .fork exit body

namespace Node

/-- How many instructions an expression takes. -/
def width : Node → Nat
  | .empty => 0
  | .literal text => text.length
  | .chars _ => 1
  | .look _ => 1
  | .seq a b => a.width + b.width
  | .either a b => a.width + b.width + 2
  | .group _ body => body.width + 2
  | .repeated least most _ body =>
    match least, most with
    | 0, none => body.width + 2
    | n + 1, none => (n + 1) * body.width + 1
    | n, some m => n * body.width + (m - n) * (body.width + 1)

end Node

/-- Code that is laid out from a given place on. -/
abbrev Code := Nat → List Instruction

namespace Code

/-- Code of some width repeated a number of times. -/
def times (code : Code) (width n : Nat) : Code := fun start =>
  (List.range n).flatMap fun i => code (start + i * width)

/-- Code that may be repeated up to a number of times; every repetition can be
left to the place after the last one. -/
def upTo (code : Code) (width : Nat) (greedy : Bool) (n : Nat) : Code := fun start =>
  let exit := start + n * (width + 1)
  (List.range n).flatMap fun i =>
    let body := start + i * (width + 1) + 1
    Instruction.enterOrLeave greedy body exit :: code body

/-- Code repeated any number of times.  A body that can match the empty text is
entered once and then repeated, which keeps the order of preference. -/
def star (code : Code) (width : Nat) (canBeEmpty greedy : Bool) : Code := fun start =>
  let exit := start + width + 2
  let again :=
    if canBeEmpty then Instruction.enterOrLeave greedy (start + 1) exit else .jump start
  Instruction.enterOrLeave greedy (start + 1) exit :: code (start + 1) ++ [again]

/-- Code repeated more than `n` times. -/
def plus (code : Code) (width n : Nat) (greedy : Bool) : Code := fun start =>
  let last := start + n * width
  times code width (n + 1) start ++ [Instruction.enterOrLeave greedy last (last + width + 1)]

end Code

/-- The code of an expression. -/
def Node.code : Node → Code
  | .empty => fun _ => []
  | .literal text => fun _ => text.map fun c => .chars (CharSet.singleton c)
  | .chars set => fun _ => [.chars set]
  | .look condition => fun _ => [.look condition]
  | .seq a b => fun start => a.code start ++ b.code (start + a.width)
  | .either a b => fun start =>
    let second := start + a.width + 2
    .fork (start + 1) second :: a.code (start + 1) ++
      .jump (second + b.width) :: b.code second
  | .group index body => fun start =>
    .save (2 * index) :: body.code (start + 1) ++ [.save (2 * index + 1)]
  | .repeated least most greedy body =>
    match least, most with
    | 0, none => Code.star body.code body.width (body.leastLength == some 0) greedy
    | n + 1, none => Code.plus body.code body.width n greedy
    | n, some m => fun start =>
      Code.times body.code body.width n start ++
        Code.upTo body.code body.width greedy (m - n) (start + n * body.width)

/-- The program of an expression: the whole match is group 0. -/
def Node.program (node : Node) : Array Instruction :=
  ((Node.group 0 node).code 0 ++ [Instruction.done]).toArray

end LogLine.Regex
