/-
  Record/Basic.lean --- one log record.
-/
import LogLine.Record.Entries
import LogLine.Record.Level
import LogLine.Time.Instant

set_option autoImplicit false

namespace LogLine

/-- What filters know of a record: its level and its target. -/
structure Metadata where
  /-- The level. -/
  level : Level := .info
  /-- The hierarchical name of the logger. -/
  target : Text := []
deriving DecidableEq, Repr, Inhabited

/-- One log record. -/
structure Record where
  /-- When the record was made. -/
  time : Instant := ⟨0⟩
  /-- Its level and target. -/
  metadata : Metadata := {}
  /-- The path of the module that made it. -/
  modulePath : Option Text := none
  /-- The path of the file of that place. -/
  file : Option Text := none
  /-- The line of that place. -/
  line : Option Nat := none
  /-- The name of the thread that made it. -/
  thread : Option Text := none
  /-- The message. -/
  payload : Text := []
  /-- The messages of the error attached to the record and of the errors behind
  it, the outermost first; none without such an error. -/
  thrown : List Text := []
  /-- The entries attached to the record, in order. -/
  entries : Entries := []
deriving DecidableEq, Repr, Inhabited

namespace Record

/-- The level. -/
def level (record : Record) : Level := record.metadata.level

/-- The target. -/
def target (record : Record) : Text := record.metadata.target

/-- The last name of a path: empty parts and parts `.` do not count, and `..`
names nothing. -/
def lastName (path : Text) : Text :=
  match ((Text.pieces '/' path).filter fun part => part != [] && part != ['.']).getLast? with
  | some name => if name = ['.', '.'] then [] else name
  | none => []

/-- The name of the file without its directories, empty if there is none. -/
def fileName (record : Record) : Text :=
  match record.file with
  | some path => lastName path
  | none => []

/-- The record with another level. -/
def withLevel (record : Record) (level : Level) : Record :=
  { record with metadata := { record.metadata with level } }

/-- The record with new metadata. -/
def withMetadata (record : Record) (metadata : Metadata) : Record :=
  { record with metadata }

/-- The record with another message. -/
def withPayload (record : Record) (payload : Text) : Record := { record with payload }

end Record

end LogLine
