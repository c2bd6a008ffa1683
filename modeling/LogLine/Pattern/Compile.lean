/-
  Pattern/Compile.lean --- from the text of a pattern to its fields.

  Each piece of a pattern is resolved by itself; the fields are then put
  together, with literal text gathered between them.  A specifier that is not
  resolved becomes a field of its own that writes its characters.  Options that
  are patterns are compiled the same way: they are shorter than the pattern
  around them.

      compile_eq        a pattern is compiled piece by piece
-/
import LogLine.Pattern.Rules
import LogLine.Pattern.Scanner

set_option autoImplicit false

namespace LogLine.Pattern

/-- The greatest least width of a field. -/
def maxFieldWidth : Nat := Nat.pow 2 16

/-! ## One piece -/

/-- What a piece becomes. -/
inductive Resolved where
  /-- Text that joins the literal text before it. -/
  | text (text : Text)
  /-- Text that begins new literal text. -/
  | restart (text : Text)
  /-- A field, and the text that begins the literal text after it. -/
  | field (field : Field) (leftover : Text)

/-- A field of literal text. -/
def literalField (config : Config) (text : Text) : Field :=
  { converter := .literal (Literal.ofConfig config text), width := .natural }

/-- A specifier that is not resolved writes its characters and is reported. -/
def unresolved (config : Config) (spec : Specifier) (fault : SpecifierFault) :
    Resolved × List Report :=
  (.field (literalField config spec.raw) [], [.failedSpecifier spec.position fault])

/-- Resolves a specifier; `none` if a text was cut inside a character. -/
def resolveSpecifier (rules : Rules) (config : Config) (spec : Specifier)
    (arguments : List Argument) : Option (Resolved × List Report) :=
  if maxFieldWidth < spec.width.least then
    some (unresolved config spec (.widthTooLarge spec.width.least maxFieldWidth))
  else if spec.key = [] then some (unresolved config spec .emptyKey)
  else
    match rules.resolve? spec.key with
    | none => some (unresolved config spec (.unknownKey spec.key))
    | some (plugin, leftover) =>
      match plugin.create config arguments with
      | .made converter reports =>
        some (.field { converter, width := spec.width } leftover, reports)
      | .refused error reports =>
        let failed := unresolved config spec (.refused spec.key plugin.name error)
        some (failed.1, reports ++ failed.2)
      | .brokenCharacter => none

/-- Resolves a piece, given the arguments that its options are. -/
def resolve (rules : Rules) (config : Config) (piece : Piece) (arguments : List Argument) :
    Option (Resolved × List Report) :=
  match piece with
  | .literal c => some (.text [c], [])
  | .percent => some (.text ['%'], [])
  | .specifier spec => resolveSpecifier rules config spec arguments
  | .malformedDot raw position found => some (.restart raw, [.malformedDot position found])
  | .unfinished raw => some (.restart raw, [])

/-! ## All pieces -/

/-- The field of gathered literal text, if there is any. -/
def flush (config : Config) (gathered : Text) : Pattern :=
  if gathered = [] then [] else [literalField config gathered]

/-- The literal text that resolved pieces begin with, and the fields after it. -/
def gather (config : Config) : List Resolved → Text × Pattern
  | [] => ([], [])
  | .text text :: rest =>
    let (gathered, fields) := gather config rest
    (text ++ gathered, fields)
  | .restart text :: rest =>
    let (gathered, fields) := gather config rest
    ([], flush config (text ++ gathered) ++ fields)
  | .field field leftover :: rest =>
    let (gathered, fields) := gather config rest
    ([], field :: flush config (leftover ++ gathered) ++ fields)

/-- Puts the fields of resolved pieces together. -/
def assemble (config : Config) (pieces : List Resolved) : Pattern :=
  let (gathered, fields) := gather config pieces
  flush config gathered ++ fields

/-- The pattern and the problems that resolved pieces give. -/
def ofResolved (config : Config) (pieces : List (Option (Resolved × List Report))) : Compilation :=
  match pieces.mapM id with
  | none => .brokenCharacter
  | some pieces => .done (assemble config (pieces.map (·.1))) (pieces.flatMap (·.2))

/-- Compiles a pattern. -/
def compile (rules : Rules) (config : Config) (pattern : Text) : Compilation :=
  ofResolved config ((scan pattern).attach.map fun piece =>
    resolve rules config piece.val (piece.val.options.attach.map fun option =>
      { text := option.val, asPattern := Thunk.mk fun _ => compile rules config option.val }))
termination_by pattern.length
decreasing_by exact length_lt_of_mem_scan piece.property option.property

/-- The arguments that some options are. -/
def argumentsOf (rules : Rules) (config : Config) (options : List Text) : List Argument :=
  options.map fun option =>
    { text := option, asPattern := Thunk.mk fun _ => compile rules config option }

/-- A pattern is compiled piece by piece. -/
theorem compile_eq (rules : Rules) (config : Config) (pattern : Text) :
    compile rules config pattern =
      ofResolved config ((scan pattern).map fun piece =>
        resolve rules config piece (argumentsOf rules config piece.options)) := by
  rw [compile]
  congr 1
  exact List.attach_map_val (f := fun piece => resolve rules config piece
    ((piece.options.attach.map fun option => Argument.mk option.val
      (Thunk.mk fun _ => compile rules config option.val)))) |>.trans
    (List.map_congr_left fun piece _ => congrArg (resolve rules config piece)
      (List.attach_map_val (f := fun option => Argument.mk option
        (Thunk.mk fun _ => compile rules config option))))

end LogLine.Pattern
