/-
  Regex/Parser/Bracket.lean --- classes in brackets.

  The brackets that are open are kept on a stack, and every step reads an item
  or an operator of the innermost one.  An operator takes all items before it
  as its left side.  Beside the characters of a class its depth is counted,
  since expressions may not be nested without bound.
-/
import LogLine.Regex.Parser.Escape

set_option autoImplicit false

namespace LogLine.Regex.Parser

/-- The greatest depth to which expressions may be nested. -/
def depthLimit : Nat := 250

/-! ## Open brackets -/

/-- Operators between classes. -/
inductive ClassOperator where
  | intersection
  | difference
  | symmetricDifference
deriving DecidableEq, Repr, Inhabited

/-- Applies an operator. -/
def ClassOperator.apply : ClassOperator → CharSet → CharSet → CharSet
  | .intersection => CharSet.intersection
  | .difference => CharSet.difference
  | .symmetricDifference => CharSet.symmetricDifference

/-- A class and its depth. -/
structure DeepSet where
  /-- The characters. -/
  set : CharSet
  /-- How deep it is nested. -/
  depth : Nat
deriving DecidableEq, Repr, Inhabited

/-- A bracket that is open. -/
structure OpenBracket where
  /-- Whether the class is negated. -/
  negated : Bool
  /-- The ranges of the items since the last operator. -/
  ranges : CharSet := []
  /-- How many items these are. -/
  count : Nat := 0
  /-- The depth of the deepest of them. -/
  depth : Nat := 0
  /-- The operator that waits for its right side, and its left side. -/
  waiting : Option (ClassOperator × DeepSet) := none
deriving DecidableEq, Repr, Inhabited

namespace OpenBracket

/-- Adds an item. -/
def add (bracket : OpenBracket) (item : CharSet) (depth : Nat) : OpenBracket :=
  { bracket with
    ranges := item ++ bracket.ranges
    count := bracket.count + 1
    depth := max depth bracket.depth }

/-- The items so far, joined to what an operator waits with. -/
def operand (flags : Flags) (bracket : OpenBracket) : DeepSet :=
  let set := bracket.ranges.normalize
  let depth := if 2 ≤ bracket.count then bracket.depth + 1 else bracket.depth
  match bracket.waiting with
  | some (operator, left) =>
    ⟨operator.apply (flags.fold left.set) (flags.fold set), max left.depth depth + 1⟩
  | none => ⟨set, depth⟩

/-- Begins the right side of an operator. -/
def operate (flags : Flags) (bracket : OpenBracket) (operator : ClassOperator) : OpenBracket :=
  { negated := bracket.negated, waiting := some (operator, bracket.operand flags) }

/-- The class of a bracket that is closed. -/
def close? (flags : Flags) (bracket : OpenBracket) : Option DeepSet :=
  let whole := bracket.operand flags
  (flags.foldAndNegate? bracket.negated whole.set).map fun set => ⟨set, whole.depth + 1⟩

end OpenBracket

/-! ## Items -/

/-- An ASCII class such as `:digit:]`, after its opening bracket: whether it is
negated, its characters, and the text after it. -/
def asciiItem? (s : Text) : Option (Bool × CharSet × Text) :=
  match s with
  | ':' :: rest =>
    let (negated, rest) := match rest with
      | '^' :: rest => (true, rest)
      | rest => (false, rest)
    match Text.cutAt [':', ']'] rest with
    | some (name, rest) => (asciiClass? name).map fun set => (negated, set, rest)
    | none => none
  | _ => none

/-- A character of a class; without Unicode it has to be ASCII. -/
def classChar? (flags : Flags) (c : Char) : Option Char :=
  if flags.unicode || c.toNat < 128 then some c else none

/-- Reads one end of a range, or a single item. -/
def classItem? (flags : Flags) : Text → Option (Primitive × Text)
  | [] => none
  | '\\' :: rest => escape? flags rest
  | c :: rest => some (.char c, rest)

/-- The character that decides whether a hyphen stands for itself, given the
text after the hyphen: the next one that is no white space, where the sign that
begins a comment does not count. -/
def afterHyphen? (flags : Flags) (s : Text) : Option Char :=
  if flags.verbose then
    let shown := match s.dropWhile Text.isBlank with
      | '#' :: rest => rest.dropWhile Text.isBlank
      | rest => rest
    shown.head?.or s.head?
  else s.head?

/-- The set of a single item. -/
def itemSet? (flags : Flags) : Primitive → Option CharSet
  | .char c => (classChar? flags c).map CharSet.singleton
  | .chars set => some set
  | .look _ => none

/-- The set of a range. -/
def rangeSet? (flags : Flags) : Primitive → Primitive → Option CharSet
  | .char low, .char high =>
    match classChar? flags low, classChar? flags high with
    | some low, some high => if low ≤ high then some (CharSet.between low high) else none
    | _, _ => none
  | _, _ => none

/-- An item or a range of a class. -/
def classRange? (flags : Flags) (s : Text) : Option (CharSet × Text) :=
  match classItem? flags s with
  | none => none
  | some (first, rest) =>
    match skipBlanks flags rest with
    | [] => none
    | '-' :: after =>
      if afterHyphen? flags after = some ']' ∨ afterHyphen? flags after = some '-' then
        (itemSet? flags first).map (·, '-' :: after)
      else
        match classItem? flags (skipBlanks flags after) with
        | some (second, rest) => (rangeSet? flags first second).map (·, rest)
        | none => none
    | rest => (itemSet? flags first).map (·, rest)

/-! ## Brackets -/

/-- Opens a bracket: a caret negates, and hyphens and a closing bracket that
stand first stand for themselves. -/
def openBracket (flags : Flags) (s : Text) : OpenBracket × Text :=
  let s := skipBlanks flags s
  let (negated, s) := match s with
    | '^' :: rest => (true, skipBlanks flags rest)
    | s => (false, s)
  let (hyphens, s) := collect flags (· == '-') s
  match hyphens, s with
  | [], ']' :: rest =>
    (OpenBracket.add { negated } (CharSet.singleton ']') 0, skipBlanks flags rest)
  | hyphens, s =>
    (hyphens.foldl (fun bracket c => bracket.add (CharSet.singleton c) 0) { negated }, s)

/-- Reads the items of the brackets that are open, the innermost first, up to
the end of the outermost one; `fuel` bounds their number. -/
def closeBrackets? (flags : Flags) : Nat → OpenBracket → List OpenBracket → Text →
    Option (DeepSet × Text)
  | 0, _, _, _ => none
  | fuel + 1, bracket, outer, s =>
    match skipBlanks flags s with
    | [] => none
    | '[' :: rest =>
      match asciiItem? rest with
      | some (negated, set, rest) =>
        match flags.foldAndNegate? negated set with
        | some set => closeBrackets? flags fuel (bracket.add set 0) outer rest
        | none => none
      | none =>
        let (inner, rest) := openBracket flags rest
        closeBrackets? flags fuel inner (bracket :: outer) rest
    | ']' :: rest =>
      match bracket.close? flags, outer with
      | none, _ => none
      | some whole, [] => some (whole, rest)
      | some whole, bracket :: outer =>
        closeBrackets? flags fuel (bracket.add whole.set whole.depth) outer rest
    | '&' :: '&' :: rest =>
      closeBrackets? flags fuel (bracket.operate flags .intersection) outer rest
    | '-' :: '-' :: rest =>
      closeBrackets? flags fuel (bracket.operate flags .difference) outer rest
    | '~' :: '~' :: rest =>
      closeBrackets? flags fuel (bracket.operate flags .symmetricDifference) outer rest
    | s =>
      match classRange? flags s with
      | some (set, rest) => closeBrackets? flags fuel (bracket.add set 0) outer rest
      | none => none

/-- Reads a class after its opening bracket. -/
def bracketClass? (flags : Flags) (s : Text) : Option (DeepSet × Text) :=
  let (bracket, rest) := openBracket flags s
  closeBrackets? flags (s.length + 1) bracket [] rest

end LogLine.Regex.Parser
