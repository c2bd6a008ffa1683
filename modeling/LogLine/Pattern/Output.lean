/-
  Pattern/Output.lean --- what a pattern writes for a record.

  A pattern writes to a buffer, field after field, and stops at the first
  failure.  The buffer then holds what was there before, the fields before the
  failing one, and whatever the failing converter left there.  Inner patterns
  write to a buffer of their own, so a failure inside leaves nothing behind.

  Writing also gives the pattern that writes the next record: dates keep the
  text of the last millisecond.
-/
import LogLine.Pattern.Converter

set_option autoImplicit false

namespace LogLine

/-- What writing did. -/
structure Written (α : Type) where
  /-- What writes the next record. -/
  next : α
  /-- The buffer as it was left. -/
  buffer : Text
  /-- The failure that ended writing, if there was one. -/
  failure : Option Error := none

/-- What writing some fields did. -/
structure FieldsWritten extends Written (List Field) where
  /-- Whether some field whose output depends on the record added to the
  buffer. -/
  anyVariable : Bool := false

namespace Wrapper

/-- What marks a text that was cut. -/
def ellipsis : Text := ['.', '.', '.']

/-- Limits up to this one are too narrow for the mark. -/
def ellipsisThreshold : Nat := 20

/-- A text cut after a number of characters. -/
def shortened (limit : Nat) (text : Text) : Text :=
  if text.length ≤ limit then text
  else text.take limit ++ (if ellipsisThreshold < limit then ellipsis else [])

/-- What is written for the output of an inner pattern. -/
def output (wrapper : Wrapper) (level : Level) (anyVariable : Bool) (text : Text) : Text :=
  match wrapper with
  | .style _ sequence ansi => Style.styled ansi sequence text
  | .highlight sequences ansi => Style.styled ansi (sequences level) text
  | .notEmpty => if anyVariable then text else []
  | .maxLength limit => shortened limit text
  | .replace regex replacement => regex.replaceAll replacement text

end Wrapper

/-- The place of a record as `module(file:line)`; the target stands for a
module that is not known. -/
def Record.location (record : Record) : Text :=
  let file := if record.fileName = [] then ['?'] else record.fileName
  record.modulePath.getD record.target ++ ['('] ++ file
    ++ (match record.line with
        | some line => ':' :: Text.ofNat line
        | none => [])
    ++ [')']

mutual

/-- Writes what a converter shows after the text of a buffer. -/
def Converter.write (scene : Scene) (buffer : Text) : Converter → Written Converter
  | .literal text => { next := .literal text, buffer := buffer ++ text.output }
  | .message markup =>
    { next := .message markup, buffer := buffer ++ markup.render scene.record.payload }
  | .level labels =>
    { next := .level labels
      buffer := buffer ++ (match labels with
        | some labels => labels.label scene.record.level
        | none => scene.record.level.name) }
  | .logger abbreviation =>
    { next := .logger abbreviation, buffer := buffer ++ abbreviation.apply scene.record.target }
  | .thread => { next := .thread, buffer := buffer ++ scene.record.thread.getD [] }
  | .date clock =>
    match clock.write scene.record.time with
    | (clock, .ok text) => { next := .date clock, buffer := buffer ++ text }
    | (clock, .error error) => { next := .date clock, buffer, failure := some error }
  | .lineSeparator => { next := .lineSeparator, buffer := buffer ++ ['\n'] }
  | .throwable style =>
    { next := .throwable style, buffer := buffer ++ style.output buffer scene.record.thrown }
  | .context keys =>
    match keys.output scene with
    | .ok text => { next := .context keys, buffer := buffer ++ text }
    | .error error => { next := .context keys, buffer, failure := some error }
  | .file => { next := .file, buffer := buffer ++ scene.record.fileName }
  | .line =>
    { next := .line
      buffer := buffer ++ (match scene.record.line with
        | some line => Text.ofNat line
        | none => []) }
  | .modulePath =>
    { next := .modulePath, buffer := buffer ++ scene.record.modulePath.getD [] }
  | .location => { next := .location, buffer := buffer ++ scene.record.location }
  | .processId id => { next := .processId id, buffer := buffer ++ id }
  | .custom converter =>
    let (buffer, failure) := converter.write scene buffer
    { next := .custom converter, buffer, failure }
  | .wrapped wrapper fields =>
    let inner := Field.writeAll scene [] fields
    { next := .wrapped wrapper inner.next
      buffer :=
        if inner.failure.isSome then buffer
        else buffer ++ wrapper.output scene.record.level inner.anyVariable inner.buffer
      failure := inner.failure }

/-- Writes a field: what its converter shows, fitted to its widths unless that
failed. -/
def Field.write (scene : Scene) (buffer : Text) : Field → Written Field
  | ⟨converter, width⟩ =>
    let written := Converter.write scene buffer converter
    { next := ⟨written.next, width⟩
      buffer :=
        if written.failure.isSome then written.buffer
        else width.adjust buffer.length written.buffer
      failure := written.failure }

/-- Writes fields in turn, up to the first failure. -/
def Field.writeAll (scene : Scene) (buffer : Text) : List Field → FieldsWritten
  | [] => { next := [], buffer }
  | field :: rest =>
    let written := Field.write scene buffer field
    if written.failure.isSome then
      { next := written.next :: rest, buffer := written.buffer, failure := written.failure }
    else
      let later := Field.writeAll scene written.buffer rest
      { next := written.next :: later.next
        buffer := later.buffer
        failure := later.failure
        anyVariable := later.anyVariable
          || (field.converter.isVariable && buffer.length < written.buffer.length) }

end

namespace Pattern

/-- Writes a record after the text of a buffer. -/
def write (pattern : Pattern) (scene : Scene) (buffer : Text) : Written Pattern :=
  (Field.writeAll scene buffer pattern).toWritten

/-- Writes records in turn, each to a buffer that begins the same way. -/
def writeEach (pattern : Pattern) (buffer : Text) : List Scene → List (Written Pattern)
  | [] => []
  | scene :: rest =>
    let written := pattern.write scene buffer
    written :: writeEach written.next buffer rest

end Pattern

end LogLine
