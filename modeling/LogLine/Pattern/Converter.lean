/-
  Pattern/Converter.lean --- compiled patterns: converters and their fields.

  A pattern is a list of fields, each a converter and the widths of what it
  writes.  A converter shows something of a record, or works on what another
  pattern writes.  A compiled pattern is a tree, since such inner patterns nest
  to any depth.
-/
import LogLine.Context
import LogLine.Pattern.ContextKeys
import LogLine.Pattern.FieldWidth
import LogLine.Pattern.LevelLabels
import LogLine.Pattern.Literal
import LogLine.Pattern.NameAbbreviation
import LogLine.Pattern.ThrownText
import LogLine.Regex.Basic
import LogLine.Style.Markup
import LogLine.Time.DateFormat

set_option autoImplicit false

namespace LogLine

/-- A converter from outside this library. -/
structure CustomConverter where
  /-- Its name. -/
  name : Text
  /-- A hint for layouts that write markup. -/
  styleClass : Option Text := none
  /-- Whether its output depends on the record. -/
  isVariable : Bool := true
  /-- Whether it shows the error attached to a record. -/
  handlesThrown : Bool := false
  /-- Writes to a buffer: what becomes of the buffer, and the failure if
  writing fails. -/
  write : Scene → Text → Text × Option Error

/-- What is done to the output of an inner pattern. -/
inductive Wrapper where
  /-- It is written in a style, under the name of the converter. -/
  | style (name : Text) (sequence : Text) (ansi : Bool)
  /-- It is written in the style of the record's level. -/
  | highlight (sequences : Style.PerLevel Text) (ansi : Bool)
  /-- It is written only if some variable field of it wrote something. -/
  | notEmpty
  /-- It is cut after a number of characters. -/
  | maxLength (limit : Nat)
  /-- Matches of an expression in it are replaced. -/
  | replace (regex : Regex) (replacement : Text)

mutual

/-- A converter of a pattern. -/
inductive Converter where
  /-- Text of the pattern itself. -/
  | literal (literal : Literal)
  /-- The message. -/
  | message (markup : Style.Markup)
  /-- The level, under its own name or under labels. -/
  | level (labels : Option LevelLabels)
  /-- The target. -/
  | logger (abbreviation : NameAbbreviation)
  /-- The name of the thread. -/
  | thread
  /-- The time. -/
  | date (clock : DateClock)
  /-- A newline. -/
  | lineSeparator
  /-- The error attached to the record. -/
  | throwable (style : ThrownText)
  /-- Entries of the record and of its surroundings. -/
  | context (keys : ContextKeys)
  /-- The name of the file. -/
  | file
  /-- The line. -/
  | line
  /-- The path of the module. -/
  | modulePath
  /-- Module, file and line. -/
  | location
  /-- The process identifier. -/
  | processId (id : Text)
  /-- Something from outside this library. -/
  | custom (converter : CustomConverter)
  /-- The output of an inner pattern, worked on. -/
  | wrapped (wrapper : Wrapper) (fields : List Field)

/-- A converter and the widths of what it writes. -/
structure Field where
  /-- The converter. -/
  converter : Converter
  /-- The widths. -/
  width : FieldWidth

end

/-- A compiled pattern: its fields in order. -/
abbrev Pattern := List Field

instance : Inhabited Converter := ⟨.thread⟩

instance : Inhabited Field := ⟨⟨default, {}⟩⟩

/-! ## Errors attached to records -/

mutual

/-- Whether a converter shows the error attached to a record. -/
def Converter.handlesThrown : Converter → Bool
  | .throwable _ => true
  | .custom converter => converter.handlesThrown
  | .wrapped _ fields => Field.anyHandlesThrown fields
  | _ => false

/-- Whether the converter of a field shows that error. -/
def Field.handlesThrown : Field → Bool
  | .mk converter _ => converter.handlesThrown

/-- Whether a converter of some fields shows that error. -/
def Field.anyHandlesThrown : List Field → Bool
  | [] => false
  | field :: rest => field.handlesThrown || Field.anyHandlesThrown rest

end

/-- Whether a pattern shows the error attached to a record. -/
def Pattern.handlesThrown (pattern : Pattern) : Bool := pattern.any Field.handlesThrown

theorem Field.anyHandlesThrown_eq (fields : List Field) :
    Field.anyHandlesThrown fields = Pattern.handlesThrown fields := by
  induction fields with
  | nil => rfl
  | cons field rest ih => simp [Field.anyHandlesThrown, Pattern.handlesThrown, ih]

theorem Pattern.handlesThrown_append (a b : Pattern) :
    Pattern.handlesThrown (a ++ b) = (Pattern.handlesThrown a || Pattern.handlesThrown b) := by
  simp [Pattern.handlesThrown]

/-! ## Descriptions -/

namespace Wrapper

/-- The name of a converter with an inner pattern. -/
def name : Wrapper → Text
  | .style name _ _ => name
  | .highlight _ _ => "Highlight".toList
  | .notEmpty => "NotEmpty".toList
  | .maxLength _ => "MaxLength".toList
  | .replace _ _ => "Replace".toList

end Wrapper

namespace Converter

/-- The name of a converter. -/
def name : Converter → Text
  | .literal _ => "Literal".toList
  | .message _ => "Message".toList
  | .level _ => "Level".toList
  | .logger _ => "Logger".toList
  | .thread => "Thread".toList
  | .date _ => "Date".toList
  | .lineSeparator => "LineSeparator".toList
  | .throwable _ => "Throwable".toList
  | .context _ => "Mdc".toList
  | .file => "File".toList
  | .line => "Line".toList
  | .modulePath => "Module".toList
  | .location => "Location".toList
  | .processId _ => "ProcessId".toList
  | .custom converter => converter.name
  | .wrapped wrapper _ => wrapper.name

/-- A hint for layouts that write markup. -/
def styleClass : Converter → Option Text
  | .message _ => some "message".toList
  | .level _ => some "level".toList
  | .logger _ => some "logger".toList
  | .thread => some "thread".toList
  | .date _ => some "date".toList
  | .throwable _ => some "throwable".toList
  | .context _ => some "mdc".toList
  | .file => some "file".toList
  | .line => some "line".toList
  | .location => some "locationInfo".toList
  | .custom converter => converter.styleClass
  | _ => none

/-- Whether the output of a converter depends on the record: only text of the
pattern without variables is sure not to. -/
def isVariable : Converter → Bool
  | .literal text => text.isVariable
  | .custom converter => converter.isVariable
  | _ => true

end Converter

end LogLine
