/-
  Regex/Parser.lean --- reading regular expressions.

  The reader keeps the groups that are open on a stack and takes one step for
  each construct, so that every step uses up at least one character.  Whether
  an expression is well formed is all that a caller learns of a bad one; one
  that is nested too deep or takes too much memory counts as bad.
-/
import LogLine.Regex.Footprint
import LogLine.Regex.Parser.Bracket
import LogLine.Text.Letter

set_option autoImplicit false

namespace LogLine.Regex

namespace Parser

/-! ## Parts of expressions -/

/-- An expression and its depth. -/
structure DeepNode where
  /-- The expression. -/
  node : Node
  /-- How deep it is nested. -/
  depth : Nat := 0
deriving Repr, Inhabited

/-- A part of a sequence. -/
inductive Item where
  /-- An expression. -/
  | node (deep : DeepNode)
  /-- A change of flags, which nothing can repeat. -/
  | flags

namespace Item

/-- The expression of a part. -/
def node? : Item → Option Node
  | .node deep => some deep.node
  | .flags => none

/-- How deep a part is nested. -/
def depth : Item → Nat
  | .node deep => deep.depth
  | .flags => 0

end Item

/-- The depth of what has some parts: one more than that of the deepest part,
unless there is but one. -/
def depthOver (depths : List Nat) : Nat :=
  let deepest := depths.foldl max 0
  if 2 ≤ depths.length then deepest + 1 else deepest

/-- Parts one after the other. -/
def sequenceOf (items : List Item) : DeepNode :=
  ⟨Node.ofParts (items.filterMap Item.node?), depthOver (items.map Item.depth)⟩

/-- Alternatives in order. -/
def alternativesOf (branches : List DeepNode) : DeepNode :=
  ⟨Node.ofBranches (branches.map (·.node)), depthOver (branches.map (·.depth))⟩

/-! ## The state of the reader -/

/-- A group that is open: what stood before it. -/
structure Frame where
  /-- The number of the group, if it is captured. -/
  index : Option Nat
  /-- The flags before it. -/
  flags : Flags
  /-- The sequence before it, the last part first. -/
  items : List Item
  /-- The alternatives before that sequence, the last one first. -/
  alternatives : List DeepNode

/-- How far reading has come. -/
structure State where
  /-- The text still to be read. -/
  rest : Text
  /-- The flags in force. -/
  flags : Flags := {}
  /-- The sequence being read, the last part first. -/
  items : List Item := []
  /-- The alternatives before it, the last one first. -/
  alternatives : List DeepNode := []
  /-- The open groups, the innermost first. -/
  frames : List Frame := []
  /-- How many groups are captured so far. -/
  groups : Nat := 0
  /-- The names of groups. -/
  names : List (Text × Nat) := []

namespace State

/-- The sequence being read. -/
def sequence (state : State) : DeepNode := sequenceOf state.items.reverse

/-- The alternatives being read. -/
def expression (state : State) : DeepNode :=
  alternativesOf (state.alternatives.reverse ++ [state.sequence])

/-- Adds an expression to the sequence, unless it is nested too deep. -/
def addDeep? (state : State) (deep : DeepNode) (rest : Text) : Option State :=
  if deep.depth ≤ depthLimit then some { state with rest, items := .node deep :: state.items }
  else none

/-- Adds an expression that has no parts. -/
def add (state : State) (node : Node) (rest : Text) : State :=
  { state with rest, items := .node { node } :: state.items }

/-- Ends the sequence and begins the next alternative. -/
def divide (state : State) (rest : Text) : State :=
  { state with rest, items := [], alternatives := state.sequence :: state.alternatives }

/-- Opens a group. -/
def openGroup (state : State) (index : Option Nat) (flags : Flags) (rest : Text) : State :=
  { state with
    rest, flags, items := [], alternatives := []
    frames := ⟨index, state.flags, state.items, state.alternatives⟩ :: state.frames }

/-- Closes the innermost group. -/
def closeGroup? (state : State) (rest : Text) : Option State :=
  match state.frames with
  | [] => none
  | frame :: frames =>
    let inner := state.expression
    let node := match frame.index with
      | some index => .group index inner.node
      | none => inner.node
    let outer : State :=
      { state with
        frames, flags := frame.flags, items := frame.items, alternatives := frame.alternatives }
    outer.addDeep? ⟨node, inner.depth + 1⟩ rest

/-- Repeats the last part of the sequence. -/
def repeat? (state : State) (least : Nat) (most : Option Nat) (greedy : Bool) (rest : Text) :
    Option State :=
  match state.items with
  | .node deep :: items =>
    let greedy := greedy != state.flags.swapGreed
    let before : State := { state with items }
    before.addDeep? ⟨Node.times least most greedy deep.node, deep.depth + 1⟩ rest
  | _ => none

end State

/-! ## Repetitions -/

/-- Whether a repetition is greedy, which a question mark behind it denies, and
the text after it. -/
def greed : Text → Bool × Text
  | '?' :: rest => (false, rest)
  | rest => (true, rest)

/-- Repeats the last part of a sequence, given a sign for it. -/
def signed? (state : State) (least : Nat) (most : Option Nat) (s : Text) : Option State :=
  state.repeat? least most (greed s).1 (greed s).2

/-- The least and the greatest number of a counted repetition, after its opening
brace, and the text after its closing one. -/
def bounds? (flags : Flags) (s : Text) : Option (Nat × Option Nat × Text) :=
  match decimal? flags (skipBlanks flags s) with
  | some (least, '\x7d' :: rest) => some (least, some least, rest)
  | some (least, ',' :: rest) =>
    match skipBlanks flags rest with
    | '\x7d' :: rest => some (least, none, rest)
    | rest =>
      match decimal? flags rest with
      | some (most, '\x7d' :: rest) =>
        if least ≤ most then some (least, some most, rest) else none
      | _ => none
  | _ => none

/-- A counted repetition, after its opening brace. -/
def counted? (state : State) (s : Text) : Option State :=
  match bounds? state.flags s with
  | some (least, most, rest) => signed? state least most (skipBlanks state.flags rest)
  | none => none

/-! ## Groups -/

/-- Whether a character may stand in the name of a group. -/
def isGroupNamePart (first : Bool) (c : Char) : Bool :=
  c == '_' || Text.isLetter c
    || (!first && (Text.isNumeric c || c == '.' || c == '[' || c == ']'))

/-- Opens a group with a name, which has to be new. -/
def openNamed? (state : State) (s : Text) : Option State :=
  match Text.splitOnce '>' s with
  | none => none
  | some (name, rest) =>
    match name with
    | [] => none
    | first :: more =>
      if isGroupNamePart true first && more.all (isGroupNamePart false)
          && (state.names.find? (·.1 == name)).isNone then
        let index := state.groups + 1
        let named : State :=
          { state with groups := index, names := state.names ++ [(name, index)] }
        some (named.openGroup (some index) state.flags rest)
      else none

/-- Reads flags up to a colon or a parenthesis: the flags, whether there was
any, the character that ended them, and the text after it. -/
def flagList? : Text → (flags : Flags) → (seen : List Char) → (value fresh : Bool) →
    Option (Flags × Bool × Char × Text)
  | [], _, _, _, _ => none
  | c :: rest, flags, seen, value, fresh =>
    if c = ':' ∨ c = ')' then
      if fresh && !value then none else some (flags, !seen.isEmpty, c, rest)
    else if c = '-' then
      if value then flagList? rest flags seen false true else none
    else if seen.contains c then none
    else
      match flags.put? c value with
      | some flags => flagList? rest flags (c :: seen) value false
      | none => none

/-- Opens a group, or changes flags, after an opening parenthesis. -/
def openParenthesis? (state : State) (s : Text) : Option State :=
  match skipBlanks state.flags s with
  | '?' :: 'P' :: '<' :: rest => openNamed? state rest
  | '?' :: '<' :: '=' :: _ => none
  | '?' :: '<' :: '!' :: _ => none
  | '?' :: '<' :: rest => openNamed? state rest
  | '?' :: rest =>
    match flagList? rest state.flags [] true true with
    | some (flags, _, ':', rest) => some (state.openGroup none flags rest)
    | some (flags, true, _, rest) => some { state with rest, flags, items := .flags :: state.items }
    | _ => none
  | rest =>
    let index := state.groups + 1
    let numbered : State := { state with groups := index }
    some (numbered.openGroup (some index) state.flags rest)

/-! ## Single characters -/

/-- The expression of one character under the flags. -/
def charNode (flags : Flags) (c : Char) : Node := Node.ofSet (flags.foldChar c)

/-- What `.` matches; without Unicode it would match parts of characters. -/
def dotNode? (flags : Flags) : Option Node :=
  if flags.unicode then
    let lineEnds : CharSet :=
      if flags.carriageReturn then [(0xA, 0xA), (0xD, 0xD)] else [(0xA, 0xA)]
    some (.chars (if flags.dotAll then CharSet.everything else lineEnds.complement))
  else none

/-- The condition that `^` stands for. -/
def startLook (flags : Flags) : Look :=
  if flags.multiLine then .lineStart flags.carriageReturn else .textStart

/-- The condition that `$` stands for. -/
def endLook (flags : Flags) : Look :=
  if flags.multiLine then .lineEnd flags.carriageReturn else .textEnd

/-! ## Reading -/

/-- Reads one construct. -/
def step? (state : State) : Option State :=
  match state.rest with
  | [] => some state
  | c :: rest =>
    match c with
    | '(' => openParenthesis? state rest
    | ')' => state.closeGroup? rest
    | '|' => some (state.divide rest)
    | '[' =>
      match bracketClass? state.flags rest with
      | some (deep, rest) => state.addDeep? ⟨Node.ofSet deep.set, deep.depth⟩ rest
      | none => none
    | '?' => signed? state 0 (some 1) rest
    | '*' => signed? state 0 none rest
    | '+' => signed? state 1 none rest
    | '\x7b' => counted? state rest
    | '.' => (dotNode? state.flags).map fun node => state.add node rest
    | '^' => some (state.add (.look (startLook state.flags)) rest)
    | '$' => some (state.add (.look (endLook state.flags)) rest)
    | '\\' => (escape? state.flags rest).map fun r =>
        match r.1 with
        | .char c => state.add (charNode state.flags c) r.2
        | .chars set => state.add (Node.ofSet set) r.2
        | .look condition => state.add (.look condition) r.2
    | c => some (state.add (charNode state.flags c) rest)

/-- Takes steps until the text is read; `fuel` bounds their number. -/
def run? : Nat → State → Option State
  | 0, state => some state
  | fuel + 1, state =>
    let state := { state with rest := skipBlanks state.flags state.rest }
    if state.rest = [] then some state else (step? state).bind (run? fuel)

/-- Reads an expression: its tree, the number of its groups and their names. -/
def read? (s : Text) : Option (Node × Nat × List (Text × Nat)) :=
  match run? (s.length + 1) { rest := s } with
  | some state =>
    let whole := state.expression
    if state.frames.isEmpty && whole.depth ≤ depthLimit && whole.node.fits then
      some (whole.node, state.groups, state.names)
    else none
  | none => none

end Parser

end LogLine.Regex
