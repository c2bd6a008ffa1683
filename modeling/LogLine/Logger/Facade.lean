/-
  Logger/Facade.lean --- records that come through the logging facade.

  The facade is the interface that programs call whatever logger is installed.
  Its values have types, and it leaves the thread and the time of a record to
  the logger.
-/
import LogLine.Logger.Basic

set_option autoImplicit false

namespace LogLine

/-- A value attached to a record of the facade. -/
inductive FacadeValue where
  | text (text : Text)
  | integer (value : Int)
  | boolean (value : Bool)
  | nothing
deriving DecidableEq, Repr, Inhabited

/-- The text of a value. -/
def FacadeValue.display : FacadeValue → Text
  | .text s => s
  | .integer value => Text.ofInt value
  | .boolean true => "true".toList
  | .boolean false => "false".toList
  | .nothing => "None".toList

/-- A record of the facade. -/
structure FacadeRecord where
  /-- The level. -/
  level : FacadeLevel := .info
  /-- The target. -/
  target : Text := []
  /-- The path of the module. -/
  modulePath : Option Text := none
  /-- The path of the file. -/
  file : Option Text := none
  /-- The line. -/
  line : Option Nat := none
  /-- The message. -/
  payload : Text := []
  /-- The values attached, in order. -/
  values : List (Text × FacadeValue) := []
deriving DecidableEq, Repr, Inhabited

namespace FacadeRecord

/-- The record that a logger gets, made by a thread at an instant. -/
def toRecord (record : FacadeRecord) (thread : Option Text) (time : Instant) : Record :=
  { time
    metadata := { level := record.level.toLevel, target := record.target }
    modulePath := record.modulePath
    file := record.file
    line := record.line
    thread
    payload := record.payload
    entries := record.values.map fun entry => (entry.1, entry.2.display) }

end FacadeRecord

/-- The metadata that stands for metadata of the facade. -/
def Metadata.ofFacade (level : FacadeLevel) (target : Text) : Metadata :=
  { level := level.toLevel, target }

end LogLine
