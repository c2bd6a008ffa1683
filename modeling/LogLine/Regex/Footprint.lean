/-
  Regex/Footprint.lean --- how much memory an expression takes as an automaton.

  An expression is run over the bytes of a text by an automaton, from left to
  right and, to find where a match begins, from right to left.  Neither of the
  two may take more than ten mebibytes.  A state takes 32 bytes, and beside them
  8 bytes for each of its byte ranges, if it branches on bytes, or 4 bytes for
  each way on, if it branches without reading.

  This file counts states and bytes without building the automata; only for sets
  of characters it has to follow which states are shared.
-/
import LogLine.Regex.Bytes
import LogLine.Regex.Node
import Std.Data.HashMap

set_option autoImplicit false

namespace LogLine.Regex

/-! ## Counting -/

/-- The directions in which an automaton reads. -/
inductive Direction where
  | forward
  | backward
deriving DecidableEq, Repr, Inhabited

/-- What has been counted so far. -/
structure Footprint where
  /-- The number of states; a new state has it as its name. -/
  states : Nat := 0
  /-- The bytes that the states take beside 32 each. -/
  extras : Nat := 0
deriving DecidableEq, Repr, Inhabited

/-- What has been counted up to the end of an expression. -/
structure Measured where
  /-- What has been counted. -/
  footprint : Footprint
  /-- Whether the expression ends in a state that branches, which takes one way
  more to go on. -/
  isOpen : Bool := false
deriving DecidableEq, Repr, Inhabited

namespace Footprint

/-- The greatest number of bytes that an automaton takes. -/
def limit : Nat := 10 * Nat.pow 2 20

/-- The bytes that have been counted. -/
def bytes (footprint : Footprint) : Nat := 32 * footprint.states + footprint.extras

/-- Counts some states and bytes more, unless they pass the limit. -/
def add? (footprint : Footprint) (states extras : Nat) : Option Footprint :=
  let footprint : Footprint := ⟨footprint.states + states, footprint.extras + extras⟩
  if footprint.bytes ≤ limit then some footprint else none

/-- Counts an expression that is made of some states and ends in one that does
not branch. -/
def addClosed? (footprint : Footprint) (states extras : Nat) : Option Measured :=
  (footprint.add? states extras).map fun footprint => { footprint }

end Footprint

/-- The bytes that it takes to go on after an expression. -/
def Measured.link (measured : Measured) : Nat := if measured.isOpen then 4 else 0

/-! ## Tables of states

States that agree are shared, as far as a table of limited size remembers them:
a state's place in the table is computed from its contents, and a later state
takes the place of an earlier one. -/

/-- One step of the computation of a place. -/
def mix (hash : UInt64) (n : Nat) : UInt64 := (hash ^^^ n.toUInt64) * 1099511628211

/-- The place of some contents in a table. -/
def tablePlace (size : Nat) (contents : List Nat) : Nat :=
  (contents.foldl mix 14695981039346656037).toNat % size

/-- The states that a table remembers, by their places. -/
structure StateTable where
  /-- The number of places. -/
  size : Nat
  /-- The contents and the name of the state at a place. -/
  entries : Std.HashMap Nat (List Nat × Nat) := {}

namespace StateTable

/-- The name of a state with these contents, if the table remembers one. -/
def find? (table : StateTable) (contents : List Nat) : Option Nat :=
  match table.entries[tablePlace table.size contents]? with
  | some (known, name) => if known == contents then some name else none
  | none => none

/-- Remembers a state. -/
def insert (table : StateTable) (contents : List Nat) (name : Nat) : StateTable :=
  { table with entries := table.entries.insert (tablePlace table.size contents) (contents, name) }

end StateTable

/-! ## Sets of characters -/

/-- A part of an automaton that is being built. -/
structure SharedStates where
  /-- What has been counted. -/
  footprint : Footprint
  /-- The states that can be shared. -/
  table : StateTable

/-- A state that still gets byte ranges: those that lead on, as contents of a
table and the last one first, and the one whose goal is not yet known. -/
structure GrowingState where
  /-- The first and the last byte and the goal of every range. -/
  contents : List (ByteRange × Nat) := []
  /-- The range whose goal is not yet known. -/
  last : Option ByteRange := none

namespace GrowingState

/-- The state with the goal of its last range. -/
def finish (state : GrowingState) (goal : Nat) : List (ByteRange × Nat) :=
  match state.last with
  | some range => (range, goal) :: state.contents
  | none => state.contents

end GrowingState

namespace SharedStates

/-- A state with these ranges: its name, after it has been added unless it is
shared. -/
def place (shared : SharedStates) (ranges : List (ByteRange × Nat)) : Nat × SharedStates :=
  let contents := ranges.reverse.flatMap fun range => [range.1.1, range.1.2, range.2]
  match shared.table.find? contents with
  | some name => (name, shared)
  | none =>
    let name := shared.footprint.states
    (name, ⟨⟨name + 1, shared.footprint.extras + 8 * ranges.length⟩,
      shared.table.insert contents name⟩)

/-- Places a chain of growing states, of which each leads to the next one and
the last one to `goal`. -/
def placeChain (goal : Nat) : List GrowingState → SharedStates → Nat × SharedStates
  | [], shared => (goal, shared)
  | state :: rest, shared =>
    let (next, shared) := placeChain goal rest shared
    shared.place (state.finish next)

/-- Adds a byte sequence to a chain of growing states.  What it shares with the
sequence before it stays as it is; the states behind that are placed. -/
def extend (goal : Nat) :
    List GrowingState → List ByteRange → SharedStates → List GrowingState × SharedStates
  | state :: rest, range :: ranges, shared =>
    if state.last = some range then
      let (rest, shared) := extend goal rest ranges shared
      (state :: rest, shared)
    else
      let (next, shared) := placeChain goal rest shared
      (⟨state.finish next, some range⟩ :: ranges.map fun range => { last := some range }, shared)
  | states, _, shared => (states, shared)

end SharedStates

namespace Footprint

/-- Counts a set of characters that is read forward: the states of byte
sequences that end alike are shared. -/
def addForward (footprint : Footprint) (set : CharSet) : Footprint :=
  let goal := footprint.states
  let shared : SharedStates := ⟨⟨goal + 1, footprint.extras⟩, { size := 10000 }⟩
  let (states, shared) := (byteSequences set).foldl
    (fun (states, shared) ranges => SharedStates.extend goal states ranges shared) ([{}], shared)
  (SharedStates.placeChain goal states shared).2.footprint

/-- Counts a byte sequence that is read backward, up to the state `goal`. -/
def addBackwardSequence : List ByteRange → Nat → SharedStates → SharedStates
  | [], _, shared => shared
  | range :: ranges, goal, shared =>
    let contents := [goal, range.1, range.2]
    match shared.table.find? contents with
    | some name => addBackwardSequence ranges name shared
    | none =>
      let name := shared.footprint.states
      addBackwardSequence ranges name
        ⟨⟨name + 1, shared.footprint.extras⟩, shared.table.insert contents name⟩

/-- Counts a set of characters that is read backward: a state that branches has
a way on for every byte sequence, and sequences that begin alike share states. -/
def addBackward (footprint : Footprint) (set : CharSet) : Footprint :=
  let sequences := byteSequences set
  let goal := footprint.states + 1
  let shared : SharedStates :=
    ⟨⟨goal + 1, footprint.extras + 4 * sequences.length⟩, { size := 1000 }⟩
  (sequences.foldl (fun shared ranges => addBackwardSequence ranges goal shared) shared).footprint

/-- Counts a set of characters.  The byte ranges of an ASCII set are those of a
single state. -/
def addSet? (direction : Direction) (set : CharSet) (footprint : Footprint) : Option Measured :=
  if set.all (·.2 < 128) then footprint.addClosed? 2 (8 * set.length)
  else
    match direction with
    | .forward => (footprint.addForward set).addClosed? 0 0
    | .backward => (footprint.addBackward set).addClosed? 0 0

end Footprint

/-! ## Alternatives that are literals

Literals are alternatives of one another in a tree of bytes.  A node of the tree
branches to its parts: where a literal ends, the ways on are divided into those
that are preferred to its end and those that are not. -/

/-- The parts of a list of words between its empty words. -/
def wordParts : List (List Nat) → List (List (List Nat))
  | [] => [[]]
  | [] :: rest => [] :: wordParts rest
  | word :: rest => (wordParts rest).modifyHead (word :: ·)

/-- Leaves out what is repeated of an empty word at the beginning. -/
def dropRepeatedEnds : List (List (List Nat)) → List (List (List Nat))
  | [] :: [] :: rest => dropRepeatedEnds ([] :: rest)
  | parts => parts

/-- The words of a list by their first bytes. -/
def groupWords (words : List (List Nat)) : List (Nat × List (List Nat)) :=
  words.foldr
    (fun word groups =>
      match word with
      | [] => groups
      | byte :: rest =>
        match groups.find? (·.1 == byte) with
        | some group => (byte, rest :: group.2) :: groups.filter (·.1 != byte)
        | none => (byte, [rest]) :: groups)
    []

/-- Counts the node of the tree that has some words behind it; `fuel` bounds the
length of the words. -/
def addWords : Nat → List (List Nat) → Footprint → Footprint
  | 0, _, footprint => footprint
  | fuel + 1, words, footprint =>
    let parts := dropRepeatedEnds (wordParts words)
    let full := (parts.filter (· ≠ [])).map groupWords
    let footprint : Footprint :=
      ⟨footprint.states + 1 + full.length,
        footprint.extras + 4 * (full.length + (parts.length - 1))
          + full.foldl
            (fun total groups => total + if groups.length ≤ 1 then 0 else 8 * groups.length) 0⟩
    ((full.flatten.map (·.2)).filter (·.any (· ≠ []))).foldl
      (fun footprint words => addWords fuel words footprint) footprint

/-- The bytes of a literal. -/
def literalBytes (text : Text) : List Nat := text.flatMap fun c => valueBytes c.toNat

/-- The bytes of an expression, if it is a literal. -/
def Node.literalBytes? : Node → Option (List Nat)
  | .literal text => some (literalBytes text)
  | _ => none

/-- Counts alternatives that are literals. -/
def Footprint.addLiterals? (direction : Direction) (words : List (List Nat))
    (footprint : Footprint) : Option Measured :=
  let words := match direction with
    | .forward => words
    | .backward => words.map List.reverse
  (addWords ((words.map List.length).foldl max 0 + 1) words
    { footprint with states := footprint.states + 1 }).addClosed? 0 0

/-! ## Expressions -/

/-- Counts an expression a number of times more. -/
def Measured.addCopies? (count : Footprint → Option Measured) : Nat → Measured → Option Measured
  | 0, measured => some measured
  | n + 1, measured => do
    let next ← count (← measured.footprint.add? 0 measured.link)
    addCopies? count n next

/-- Counts an expression a number of times. -/
def Footprint.addCopies? (count : Footprint → Option Measured) :
    Nat → Footprint → Option Measured
  | 0, footprint => footprint.addClosed? 1 0
  | n + 1, footprint => do Measured.addCopies? count n (← count footprint)

/-- Counts an expression a number of times more, where each time may be the
last. -/
def Measured.addOptionalCopies? (count : Footprint → Option Measured) :
    Nat → Measured → Option Measured
  | 0, measured => measured.footprint.addClosed? 0 measured.link
  | n + 1, measured => do
    let next ← count (← measured.footprint.add? 1 (8 + measured.link))
    addOptionalCopies? count n next

/-- Counts what leads to an expression and away from it, if it is an alternative
of others.  Two states belong to all alternatives; they come after the second. -/
def Measured.asBranch? (branch : Option Bool) (measured : Measured) : Option Measured :=
  match branch with
  | none => some measured
  | some isSecond =>
    measured.footprint.addClosed? (if isSecond then 2 else 0) (4 + measured.link)

/-- Counts an expression.  Of alternatives, `branch` tells the second one and
those behind it. -/
def Node.count? (direction : Direction) :
    Node → (branch : Option Bool) → Footprint → Option Measured
  | .empty, branch, footprint => do (← footprint.addClosed? 1 0).asBranch? branch
  | .literal text, branch, footprint => do
    (← footprint.addClosed? text.byteLength 0).asBranch? branch
  | .chars set, branch, footprint => do (← footprint.addSet? direction set).asBranch? branch
  | .look _, branch, footprint => do (← footprint.addClosed? 1 0).asBranch? branch
  | .seq a b, branch, footprint => do
    let whole ← match direction with
      | .forward => do
        let first ← a.count? direction none footprint
        b.count? direction none (← first.footprint.add? 0 first.link)
      | .backward => do
        let first ← b.count? direction none footprint
        a.count? direction none (← first.footprint.add? 0 first.link)
    whole.asBranch? branch
  | .either a b, branch, footprint =>
    let words? := if branch.isNone then (Node.either a b).branches.mapM literalBytes? else none
    match words? with
    | some words => footprint.addLiterals? direction words
    | none => do
      let first ← a.count? direction none footprint
      let first ← first.asBranch? (some (branch == some true))
      b.count? direction (some branch.isNone) first.footprint
  | .repeated least most _ body, branch, footprint => do
    let count := body.count? direction none
    let whole ← match least, most with
      | 0, some 1 => do
        let once ← count (← footprint.add? 1 0)
        once.footprint.addClosed? 1 (8 + once.link)
      | 0, none =>
        if body.leastLength.any (0 < ·) then do
          let once ← count (← footprint.add? 1 0)
          let footprint ← once.footprint.add? 0 (4 + once.link)
          some { footprint, isOpen := true }
        else do
          let once ← count footprint
          once.footprint.addClosed? 3 (16 + once.link)
      | n + 1, none => do
        let copies ← footprint.addCopies? count (n + 1)
        let footprint ← copies.footprint.add? 1 (4 + copies.link)
        some { footprint, isOpen := true }
      | n, some m =>
        if n = m then footprint.addCopies? count n
        else do
          let copies ← footprint.addCopies? count n
          let footprint ← copies.footprint.add? 1 0
          Measured.addOptionalCopies? count (m - n) { copies with footprint }
    whole.asBranch? branch
  | .group _ body, branch, footprint => do
    let whole ← match direction with
      | .forward => do
        let inner ← body.count? direction none (← footprint.add? 1 0)
        inner.footprint.addClosed? 1 inner.link
      | .backward => body.count? direction none footprint
    whole.asBranch? branch

/-- What the automaton has before an expression: it skips bytes up to the match,
unless every match is at the end where it starts. -/
def Footprint.lead (isAtEdge : Bool) : Footprint := if isAtEdge then ⟨1, 0⟩ else ⟨3, 16⟩

/-- Whether the automata of an expression keep to the limit. -/
def Node.fits (node : Node) : Bool :=
  let forward := (Node.group 0 node).count? .forward none (Footprint.lead node.isAtStart)
  let backward := node.count? .backward none (Footprint.lead node.isAtEnd)
  (forward.bind fun whole => whole.footprint.add? 1 whole.link).isSome
    && (backward.bind fun whole => whole.footprint.add? 1 whole.link).isSome

end LogLine.Regex
