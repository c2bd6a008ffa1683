/-
  Logger/Directives.lean --- filters given by a text such as `warn,app=debug`.

  A directive sets the most verbose level for the targets that begin with a
  name, or for all targets.  The longest matching name decides.  A text that
  names no level passes everything; parts that cannot be read are left out, and
  their number is known.
-/
import LogLine.Host
import LogLine.Logger.Filter

set_option autoImplicit false

namespace LogLine

/-- The most verbose level of some targets. -/
structure Directive where
  /-- What the targets begin with; `none` stands for all targets. -/
  name : Option Text
  /-- The most verbose level that passes. -/
  most : FacadeFilter
deriving DecidableEq, Repr, Inhabited

namespace Directive

/-- The length of the name in bytes; no name counts as empty. -/
def nameLength (directive : Directive) : Nat := (directive.name.getD []).byteLength

/-- Whether the directive is for a target. -/
def covers (directive : Directive) (target : Text) : Bool :=
  match directive.name with
  | none => true
  | some name => name.isPrefixOf target

/-- Whether a level passes. -/
def passes (directive : Directive) (level : Level) : Bool :=
  match directive.most with
  | none => false
  | some most => level.toFacade.rank ≤ most.rank

/-- Reads a directive without white space around it. -/
def read? (item : Text) : Option Directive :=
  match Text.pieces '=' item with
  | [name] =>
    match FacadeFilter.ofName? name with
    | some most => some ⟨none, most⟩
    | none => some ⟨some name, some .trace⟩
  | [name, level] =>
    let level := Text.trim level
    if level = [] then some ⟨some name, some .trace⟩
    else (FacadeFilter.ofName? level).map fun most => ⟨some name, most⟩
  | _ => none

end Directive

/-- A filter made of directives. -/
structure Directives where
  /-- The directives, each name once, in the order the names came first. -/
  given : List Directive := []
deriving DecidableEq, Repr, Inhabited

namespace Directives

/-- A list with a directive more, in place of one with the same name. -/
def enter (directive : Directive) : List Directive → List Directive
  | [] => [directive]
  | other :: rest =>
    if other.name = directive.name then directive :: rest else other :: enter directive rest

/-- Adds a directive. -/
def add (directives : Directives) (directive : Directive) : Directives :=
  ⟨enter directive directives.given⟩

/-- Adds directives in turn. -/
def addAll (directives : Directives) (more : List Directive) : Directives :=
  more.foldl add directives

/-- Reads directives with commas between them: those that can be read, and how
many cannot. -/
def readItems (list : Text) : List Directive × Nat :=
  let items := ((Text.pieces ',' list).map Text.trim).filter (· ≠ [])
  (items.filterMap Directive.read?, (items.filter fun item => (Directive.read? item).isNone).length)

/-- Reads a text of directives and, after a slash, an expression, which is only
checked; also how many warnings it gives. -/
def read (text : Text) (host : Host := {}) : Directives × Nat :=
  match Text.pieces '/' text with
  | [list] => let (items, warnings) := readItems list; (addAll {} items, warnings)
  | [list, expression] =>
    let (items, warnings) := readItems list
    (addAll {} items, warnings + if (host.compileRegex expression).isOk then 0 else 1)
  | _ => ({}, 1)

/-- The variable that is read unless another one is named. -/
def defaultVariable : Text := "RUST_LOG".toList

/-- Reads the directives of a variable of the environment, or others if it is
not set. -/
def ofEnvironment (environment : Entries) (variableName : Text) (otherwise : Option Text)
    (host : Host := {}) : Directives × Nat :=
  match (environment.valueOf? variableName).or otherwise with
  | some text => read text host
  | none => ({}, 0)

/-- The directives in force, the longest name last; without any, errors pass. -/
def inForce (directives : Directives) : List Directive :=
  if directives.given.isEmpty then [⟨none, some .error⟩]
  else directives.given.mergeSort fun a b => a.nameLength ≤ b.nameLength

/-- Whether a level passes for a target. -/
def passes (directives : Directives) (level : Level) (target : Text) : Bool :=
  match directives.inForce.reverse.find? (·.covers target) with
  | some directive => directive.passes level
  | none => false

/-- The filter that directives make. -/
def filter (directives : Directives) : Filter :=
  .ofMetadata fun metadata => .ofBool (directives.passes metadata.level metadata.target)

end Directives

end LogLine
