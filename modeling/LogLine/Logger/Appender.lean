/-
  Logger/Appender.lean --- where records go.

  An appender takes a record or a request to flush.  It may change, it has
  effects of its own kind, and it may fail.
-/
import LogLine.Layout

set_option autoImplicit false

namespace LogLine

/-- What an appender did. -/
structure Appended (α ε : Type) where
  /-- The appender for what comes next. -/
  next : α
  /-- What it did, in order. -/
  effects : List ε := []
  /-- Its failure, if it failed. -/
  failure : Option Error := none

/-- The appenders of a type, with their effects. -/
class Appender (α : Type) (ε : outParam Type) where
  /-- Appends a record. -/
  append : α → Scene → Appended α ε
  /-- Flushes what is still held; by default there is nothing to do. -/
  flush : α → Appended α ε := fun appender => { next := appender }

/-- A stream of the process. -/
inductive Stream where
  | stdout
  | stderr
deriving DecidableEq, Repr, Inhabited

/-- A text written to a stream. -/
structure StreamOutput where
  /-- The stream. -/
  stream : Stream
  /-- The text. -/
  text : Text
deriving DecidableEq, Repr, Inhabited

/-- An appender that writes the text of its layout to a stream. -/
structure StreamAppender where
  /-- The stream. -/
  stream : Stream
  /-- The layout. -/
  layout : Layout

instance : Appender StreamAppender StreamOutput where
  append appender scene :=
    match appender.layout.write scene with
    | (layout, .ok text) =>
      { next := { appender with layout }, effects := [⟨appender.stream, text⟩] }
    | (layout, .error error) => { next := { appender with layout }, failure := some error }

end LogLine
