/-
  Regex/Parser/Escape.lean --- what follows a backslash.

  An escape stands for a character, for a class of characters or for a condition
  on a place.
-/
import LogLine.Regex.Node
import LogLine.Regex.Parser.Blank
import LogLine.Unicode.Query

set_option autoImplicit false

namespace LogLine.Regex.Parser

/-- What an escape stands for. -/
inductive Primitive where
  | char (c : Char)
  | chars (set : CharSet)
  | look (condition : Look)
deriving DecidableEq, Repr, Inhabited

/-! ## Characters by number -/

/-- The character after `\x`, `\u` or `\U`: `count` digits, or any number in
braces. -/
def hexEscape? (flags : Flags) (count : Nat) (s : Text) : Option (Char × Text) :=
  match skipBlanks flags s with
  | '\x7b' :: rest =>
    match collect flags (· != '\x7d') (skipBlanks flags rest) with
    | (digits, '\x7d' :: rest) => (hexChar? digits).map (·, skipBlanks flags rest)
    | _ => none
  | s =>
    match collectCount? flags count s with
    | some (digits, rest) => (hexChar? digits).map (·, rest)
    | none => none

/-- The character after `\x`.  Without Unicode two digits name a byte, and a byte
above 0x7F is no text. -/
def byteEscape? (flags : Flags) (s : Text) : Option (Char × Text) :=
  match hexEscape? flags 2 s with
  | some (c, rest) =>
    if flags.unicode || (skipBlanks flags s).head? == some '\x7b' || c.toNat < 128 then
      some (c, rest)
    else none
  | none => none

/-! ## Classes -/

/-- The class of a letter, or its complement.  Without Unicode the class is that
of ASCII, and its complement, which would match parts of characters, is
refused. -/
def letterClass? (flags : Flags) (cls : LetterClass) (negated : Bool) : Option CharSet :=
  if flags.unicode then some (if negated then cls.set.complement else cls.set)
  else if negated then none
  else some cls.asciiSet

/-- The text before and after an operator of a property's query: `!=`, or else
`:`, or else `=`; the flag tells the first of them. -/
def splitQuery (query : Text) : Option (Text × Bool × Text) :=
  match Text.cutAt ['!', '='] query with
  | some (name, value) => some (name, true, value)
  | none =>
    ((Text.splitOnce ':' query).or (Text.splitOnce '=' query)).map fun cut =>
      (cut.1, false, cut.2)

/-- The class of a query: a name, or a property with its value. -/
def queryClass? (flags : Flags) (negated : Bool) (query : Text) : Option CharSet :=
  match splitQuery query with
  | some (name, differs, value) =>
    (Unicode.setOfValue? name value).bind (flags.foldAndNegate? (negated != differs))
  | none => (Unicode.setOfName? query).bind (flags.foldAndNegate? negated)

/-- The class after `\p` or `\P`: a query in braces, or a name of one letter. -/
def propertyEscape? (flags : Flags) (negated : Bool) (s : Text) : Option (CharSet × Text) :=
  if flags.unicode then
    match skipBlanks flags s with
    | '\x7b' :: rest =>
      match collect flags (· != '\x7d') (skipBlanks flags rest) with
      | (query, '\x7d' :: rest) => (queryClass? flags negated query).map (·, rest)
      | _ => none
    | c :: rest =>
      if c = '\\' then none
      else
        ((Unicode.setOfName? [c]).bind (flags.foldAndNegate? negated)).map
          (·, skipBlanks flags rest)
    | [] => none
  else none

/-! ## Conditions -/

/-- The boundaries of words that have names. -/
def namedBoundary? (flags : Flags) (name : Text) : Option Look :=
  if name = "start".toList then some (.wordStart flags.unicode)
  else if name = "end".toList then some (.wordEnd flags.unicode)
  else if name = "start-half".toList then some (.notAfterWord flags.unicode)
  else if name = "end-half".toList then some (.notBeforeWord flags.unicode)
  else none

/-- Whether a character may stand in the name of a boundary. -/
def isBoundaryNamePart (c : Char) : Bool := c.isAlpha || c == '-'

/-- The boundary after `\b`.  It may have a name in braces; braces that begin
with anything else count repetitions. -/
def boundary? (flags : Flags) (s : Text) : Option (Look × Text) :=
  match s with
  | '\x7b' :: rest =>
    match skipBlanks flags rest with
    | [] => none
    | c :: more =>
      if isBoundaryNamePart c then
        match collect flags isBoundaryNamePart (c :: more) with
        | (name, '\x7d' :: rest) => (namedBoundary? flags name).map (·, rest)
        | _ => none
      else some (.wordBoundary flags.unicode, s)
  | s => some (.wordBoundary flags.unicode, s)

/-! ## Escapes -/

/-- Whether an escaped character stands for itself: ASCII, and neither letter
nor digit. -/
def isEscapable (c : Char) : Bool := c.toNat < 128 && !c.isAlphanum

/-- The letters that stand for classes: the class, and whether it is negated. -/
def letterClassOf? : Char → Option (LetterClass × Bool)
  | 'd' => some (.digit, false)
  | 'D' => some (.digit, true)
  | 's' => some (.space, false)
  | 'S' => some (.space, true)
  | 'w' => some (.word, false)
  | 'W' => some (.word, true)
  | _ => none

/-- What a single character after a backslash stands for. -/
def shortEscape? (flags : Flags) (c : Char) : Option Primitive :=
  match letterClassOf? c with
  | some (cls, negated) => (letterClass? flags cls negated).map .chars
  | none =>
    match c with
    | 'a' => some (.char '\x07')
    | 'f' => some (.char '\x0c')
    | 't' => some (.char '\t')
    | 'n' => some (.char '\n')
    | 'r' => some (.char '\r')
    | 'v' => some (.char '\x0b')
    | 'A' => some (.look .textStart)
    | 'z' => some (.look .textEnd)
    | 'B' => some (.look (.notWordBoundary flags.unicode))
    | '<' => some (.look (.wordStart flags.unicode))
    | '>' => some (.look (.wordEnd flags.unicode))
    | c => if isEscapable c then some (.char c) else none

/-- Reads what follows a backslash. -/
def escape? (flags : Flags) : Text → Option (Primitive × Text)
  | [] => none
  | c :: rest =>
    match c with
    | 'x' => (byteEscape? flags rest).map fun r => (.char r.1, r.2)
    | 'u' => (hexEscape? flags 4 rest).map fun r => (.char r.1, r.2)
    | 'U' => (hexEscape? flags 8 rest).map fun r => (.char r.1, r.2)
    | 'p' => (propertyEscape? flags false rest).map fun r => (.chars r.1, r.2)
    | 'P' => (propertyEscape? flags true rest).map fun r => (.chars r.1, r.2)
    | 'b' => (boundary? flags rest).map fun r => (.look r.1, r.2)
    | c => (shortEscape? flags c).map (·, rest)

end LogLine.Regex.Parser
