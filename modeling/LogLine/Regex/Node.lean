/-
  Regex/Node.lean --- regular expressions as trees.

  Trees are built by the functions of this file, which keep them in normal
  form: sequences and alternatives lean to the right, literals that follow one
  another are one, alternatives that are single characters are a class, and a
  beginning that all alternatives share stands before them.

      Node.ofParts       expressions one after the other
      Node.ofBranches    alternatives in order
      Node.ofSet         one character of a set
      Node.times         repetitions
-/
import LogLine.Regex.Class

set_option autoImplicit false

namespace LogLine.Regex

/-! ## Conditions on a place -/

/-- Conditions on a place between characters. -/
inductive Look where
  | textStart
  | textEnd
  /-- After a newline, or at the start; with carriage returns after one of them
  too, but not between it and a newline. -/
  | lineStart (carriageReturn : Bool)
  /-- Before a newline, or at the end; with carriage returns before one of them
  too, but not between it and a newline. -/
  | lineEnd (carriageReturn : Bool)
  /-- Between a character of a word and one that is none; the words are those
  of Unicode or of ASCII. -/
  | wordBoundary (unicode : Bool)
  | notWordBoundary (unicode : Bool)
  | wordStart (unicode : Bool)
  | wordEnd (unicode : Bool)
  /-- Where no character of a word stands before. -/
  | notAfterWord (unicode : Bool)
  /-- Where no character of a word follows. -/
  | notBeforeWord (unicode : Bool)
deriving DecidableEq, Repr, Inhabited

/-- Whether a condition holds between two characters, where `none` stands for
the ends of the text. -/
def Look.holds (before after : Option Char) : Look → Bool
  | .textStart => before.isNone
  | .textEnd => after.isNone
  | .lineStart false => before.isNone || before == some '\n'
  | .lineStart true =>
    before.isNone || before == some '\n' || (before == some '\r' && after != some '\n')
  | .lineEnd false => after.isNone || after == some '\n'
  | .lineEnd true =>
    after.isNone || after == some '\r' || (after == some '\n' && before != some '\r')
  | .wordBoundary unicode => before.any (isWordChar unicode) != after.any (isWordChar unicode)
  | .notWordBoundary unicode => before.any (isWordChar unicode) == after.any (isWordChar unicode)
  | .wordStart unicode => !before.any (isWordChar unicode) && after.any (isWordChar unicode)
  | .wordEnd unicode => before.any (isWordChar unicode) && !after.any (isWordChar unicode)
  | .notAfterWord unicode => !before.any (isWordChar unicode)
  | .notBeforeWord unicode => !after.any (isWordChar unicode)

/-! ## Trees -/

/-- A regular expression. -/
inductive Node where
  /-- Matches the empty text. -/
  | empty
  /-- Matches a text, which is not empty. -/
  | literal (text : Text)
  /-- Matches one character of a set. -/
  | chars (set : CharSet)
  /-- Matches the empty text where a condition holds. -/
  | look (condition : Look)
  /-- The first, then the second. -/
  | seq (a b : Node)
  /-- The first, or else the second. -/
  | either (a b : Node)
  /-- At least `least` and at most `most` times, as often or as seldom as
  possible. -/
  | repeated (least : Nat) (most : Option Nat) (greedy : Bool) (body : Node)
  /-- A group that is captured, by its number. -/
  | group (index : Nat) (body : Node)
deriving DecidableEq, Repr, Inhabited

namespace Node

/-! ## Lengths of matches -/

/-- How many bytes the scalar value `n` takes in UTF-8. -/
def valueLength (n : Nat) : Nat :=
  if n < 0x80 then 1 else if n < 0x800 then 2 else if n < 0x10000 then 3 else 4

/-- The bytes of a shortest match; `none` if there may be no match at all. -/
def leastLength : Node → Option Nat
  | .empty => some 0
  | .literal text => some text.byteLength
  | .chars set => set.head?.map fun range => valueLength range.1
  | .look _ => some 0
  | .seq a b =>
    match a.leastLength, b.leastLength with
    | some m, some n => some (m + n)
    | _, _ => none
  | .either a b =>
    match a.leastLength, b.leastLength with
    | some m, some n => some (min m n)
    | _, _ => none
  | .repeated least _ _ body => body.leastLength.map (· * least)
  | .group _ body => body.leastLength

/-- The bytes of a longest match; `none` if there is no bound. -/
def greatestLength : Node → Option Nat
  | .empty => some 0
  | .literal text => some text.byteLength
  | .chars set => set.getLast?.map fun range => valueLength range.2
  | .look _ => some 0
  | .seq a b =>
    match a.greatestLength, b.greatestLength with
    | some m, some n => some (m + n)
    | _, _ => none
  | .either a b =>
    match a.greatestLength, b.greatestLength with
    | some m, some n => some (max m n)
    | _, _ => none
  | .repeated _ most _ body =>
    match most, body.greatestLength with
    | some most, some n => some (n * most)
    | _, _ => none
  | .group _ body => body.greatestLength

/-- Whether every match begins at the start of the text. -/
def isAtStart : Node → Bool
  | .look condition => condition == .textStart
  | .seq a b => a.isAtStart || (a.greatestLength == some 0 && b.isAtStart)
  | .either a b => a.isAtStart && b.isAtStart
  | .repeated least _ _ body => 0 < least && body.isAtStart
  | .group _ body => body.isAtStart
  | _ => false

/-- Whether every match ends at the end of the text. -/
def isAtEnd : Node → Bool
  | .look condition => condition == .textEnd
  | .seq a b => b.isAtEnd || (b.greatestLength == some 0 && a.isAtEnd)
  | .either a b => a.isAtEnd && b.isAtEnd
  | .repeated least _ _ body => 0 < least && body.isAtEnd
  | .group _ body => body.isAtEnd
  | _ => false

/-! ## Characters and repetitions -/

/-- One character of a set; a set of one character is a literal. -/
def ofSet : CharSet → Node
  | [range] => if range.1 = range.2 then .literal [Char.ofNat range.1] else .chars [range]
  | set => .chars set

/-- Repetitions.  What matches the empty text alone is repeated once at most. -/
def times (least : Nat) (most : Option Nat) (greedy : Bool) (body : Node) : Node :=
  let (least, most) :=
    if body.greatestLength = some 0 then (min least 1, some (min (most.getD 1) 1))
    else (least, most)
  if most = some 0 then .empty
  else if least = 1 ∧ most = some 1 then body
  else .repeated least most greedy body

/-! ## Sequences -/

/-- The expressions of a sequence; those that are empty are left out. -/
def parts : Node → List Node
  | .empty => []
  | .seq a b => a.parts ++ b.parts
  | node => [node]

/-- Joins the literals that follow one another. -/
def joinLiterals : List Node → List Node
  | [] => []
  | node :: rest =>
    match node, joinLiterals rest with
    | .literal a, .literal b :: rest => .literal (a ++ b) :: rest
    | node, rest => node :: rest

/-- A sequence that leans to the right. -/
def sequence : List Node → Node
  | [] => .empty
  | [a] => a
  | a :: rest => .seq a (sequence rest)

/-- Expressions one after the other. -/
def ofParts (nodes : List Node) : Node := sequence (joinLiterals (nodes.flatMap parts))

/-! ## Alternatives -/

/-- The alternatives of an expression. -/
def branches : Node → List Node
  | .either a b => a.branches ++ b.branches
  | node => [node]

/-- Alternatives that lean to the right. -/
def alternatives : List Node → Node
  | [] => .chars []
  | [a] => a
  | a :: rest => .either a (alternatives rest)

/-- The characters that an expression of one character matches, if it is a
literal. -/
def singleChar? : Node → Option CharSet
  | .literal [c] => some (CharSet.singleton c)
  | _ => none

/-- The characters that an expression of one character matches, if it is a
class. -/
def charSet? : Node → Option CharSet
  | .chars set => some set
  | _ => none

/-- The class that alternatives are together: all of them are single characters,
or all of them are classes. -/
def commonSet? (nodes : List Node) : Option CharSet :=
  ((nodes.mapM singleChar?).or (nodes.mapM charSet?)).map CharSet.unionOf

/-- How many expressions two lists have in common at the beginning. -/
def sharedLength : List Node → List Node → Nat
  | a :: as, b :: bs => if a = b then sharedLength as bs + 1 else 0
  | _, _ => 0

/-- Whether an expression is a sequence of several. -/
def isSequence : Node → Bool
  | .seq _ _ => true
  | _ => false

/-- How many expressions all of some sequences have in common at the beginning. -/
def sharedParts : List Node → Nat
  | [] => 0
  | first :: rest =>
    if (first :: rest).all isSequence then
      rest.foldl (fun n node => min n (sharedLength first.parts node.parts)) first.parts.length
    else 0

/-- Alternatives in order.  Each sharing of a beginning makes the sequences
shorter; `fuel` bounds how often that happens. -/
def ofBranchesWithin : Nat → List Node → Node
  | fuel, nodes =>
    match nodes.flatMap branches with
    | [] => .chars []
    | [node] => node
    | nodes =>
      match commonSet? nodes with
      | some set => ofSet set
      | none =>
        match fuel, sharedParts nodes with
        | fuel + 1, n + 1 =>
          let shared := (nodes.head?.map parts).getD [] |>.take (n + 1)
          let rests := nodes.map fun node => ofParts (node.parts.drop (n + 1))
          ofParts (shared ++ [ofBranchesWithin fuel rests])
        | _, _ => alternatives nodes

/-- Alternatives in order. -/
def ofBranches (nodes : List Node) : Node :=
  ofBranchesWithin (nodes.foldl (fun total node => total + node.parts.length) 0) nodes

end Node

end LogLine.Regex
