/-
  Layout.lean --- from a record to the text that is appended.

  A layout writes its pattern, then the error attached to the record if the
  pattern has no converter for it, and then replaces matches of an expression
  in all of that.
-/
import LogLine.Pattern.Builtin
import LogLine.Pattern.Output

set_option autoImplicit false

namespace LogLine

/-- A layout. -/
structure Layout where
  /-- The compiled pattern. -/
  pattern : Pattern
  /-- How the error attached to a record is written after the pattern; `none`
  leaves it out. -/
  thrown : Option ThrownText := none
  /-- The expression whose matches are replaced, and the replacement. -/
  replacement : Option (Regex × Text) := none

/-- What a layout is built from. -/
structure LayoutSettings where
  /-- The text of the pattern. -/
  pattern : Text
  /-- The settings of the pattern. -/
  config : Config := {}
  /-- The plugins; `none` stands for those of the library. -/
  registry : Option Registry := none
  /-- Whether an attached error is written even if the pattern has no converter
  for it. -/
  alwaysWriteThrown : Bool := true
  /-- The expression whose matches are replaced, and the replacement. -/
  replace : Option (Text × Text) := none

namespace Layout

/-- The pattern of a layout without settings. -/
def defaultPattern : Text := ['%', 'm', '%', 'n']

/-- A layout for a compiled pattern: it writes attached errors itself if it is
to and the pattern does not. -/
def ofPattern (pattern : Pattern) (alwaysWriteThrown : Bool)
    (replacement : Option (Regex × Text)) : Layout :=
  { pattern
    thrown := if alwaysWriteThrown && !Pattern.handlesThrown pattern then some {} else none
    replacement }

/-- Reads the expression to replace, if there is one. -/
def readReplacement (host : Host) : Option (Text × Text) → Except Error (Option (Regex × Text))
  | none => .ok none
  | some (expression, replacement) =>
    (Regex.read expression host).map fun regex => some (regex, replacement)

/-- The table of keys that settings ask for, and what is reported of it. -/
def rulesOf (registry : Option Registry) : Rules × List DuplicateKey :=
  Rules.ofRegistry (registry.getD Builtin.registry) converterCategory

/-- Builds a layout; also what is reported on the way. -/
def build (settings : LayoutSettings) : Except Fault (Layout × List Error) :=
  match readReplacement settings.config.host settings.replace with
  | .error error => .error (.error error)
  | .ok replacement =>
    let (rules, duplicates) := rulesOf settings.registry
    match Pattern.compile rules settings.config settings.pattern with
    | .brokenCharacter => .error .brokenCharacter
    | .done pattern reports =>
      .ok (ofPattern pattern settings.alwaysWriteThrown replacement,
        duplicates.map DuplicateKey.toError ++ reports.map Report.toError)

/-- What a layout appends to the output of its pattern for an attached error. -/
def thrownText (layout : Layout) (record : Record) (text : Text) : Text :=
  match layout.thrown with
  | none => []
  | some style => if record.thrown = [] then [] else style.output text record.thrown ++ ['\n']

/-- A text with the matches of the layout's expression replaced. -/
def replaced (layout : Layout) (text : Text) : Text :=
  match layout.replacement with
  | none => text
  | some (regex, replacement) => regex.replaceAll replacement text

/-- The text of a record; also the layout for the next record. -/
def write (layout : Layout) (scene : Scene) : Layout × Except Error Text :=
  let written := layout.pattern.write scene []
  ({ layout with pattern := written.next },
    match written.failure with
    | some error => .error error
    | none =>
      .ok (layout.replaced (written.buffer ++ layout.thrownText scene.record written.buffer)))

/-- The texts of records in turn. -/
def writeEach (layout : Layout) : List Scene → List (Except Error Text)
  | [] => []
  | scene :: rest =>
    let (layout, text) := layout.write scene
    text :: layout.writeEach rest

end Layout

end LogLine
