/-
  Logger/Basic.lean --- loggers: records go through dispatches to appenders.

  A dispatch passes a record on if its filters let it, to all of its appenders:
  the failure of one does not stop the others.  Failures are trapped after the
  appenders of their dispatch, before the next dispatch.
-/
import LogLine.Logger.Appender
import LogLine.Logger.Filter

set_option autoImplicit false

namespace LogLine

/-- What happens while a logger works. -/
inductive LoggerEvent (ε : Type) where
  /-- An appender did something. -/
  | effect (effect : ε)
  /-- An error was trapped. -/
  | trapped (error : Error)

/-- Appenders behind filters. -/
structure Dispatch (α : Type) where
  /-- The filters, in order. -/
  filters : List Filter := []
  /-- The sources of further entries. -/
  sources : List ContextSource := []
  /-- The appenders, in order. -/
  appenders : List α

/-- What some appenders did. -/
structure AllAppended (α ε : Type) where
  /-- The appenders for what comes next. -/
  next : List α
  /-- What they did, in order. -/
  effects : List ε
  /-- The failures, in order. -/
  failures : List Error

/-- What appenders did one after the other. -/
def AllAppended.ofList {α ε : Type} (all : List (Appended α ε)) : AllAppended α ε :=
  { next := all.map (·.next)
    effects := all.flatMap (·.effects)
    failures := all.filterMap (·.failure) }

namespace Dispatch

variable {α ε : Type}

/-- What the dispatch knows besides a record. -/
def surroundings (dispatch : Dispatch α) (threadEntries : Entries) : Surroundings :=
  { sources := dispatch.sources, threadEntries }

/-- A record as the dispatch sees it. -/
def scene (dispatch : Dispatch α) (threadEntries : Entries) (record : Record) : Scene :=
  { dispatch.surroundings threadEntries with record }

/-- Whether records with this metadata may pass. -/
def enabled (dispatch : Dispatch α) (threadEntries : Entries) (metadata : Metadata) : Bool :=
  Verdict.passes (dispatch.filters.map fun filter =>
    filter.onMetadata (dispatch.surroundings threadEntries) metadata)

/-- Whether a record passes. -/
def accepts (dispatch : Dispatch α) (threadEntries : Entries) (record : Record) : Bool :=
  Verdict.passes (dispatch.filters.map fun filter =>
    filter.onRecord (dispatch.scene threadEntries record))

variable [Appender α ε]

/-- The dispatch after its appenders worked, and what happened. -/
def after (dispatch : Dispatch α) (all : AllAppended α ε) (trapped : Error → Error) :
    Dispatch α × List (LoggerEvent ε) :=
  ({ dispatch with appenders := all.next },
    all.effects.map .effect ++ all.failures.map fun error => .trapped (trapped error))

/-- The error that is trapped when a record could not be appended. -/
def appendFailure (record : Record) (error : Error) : Error :=
  (error.withText "target" record.target).withText "payload" record.payload

/-- Passes a record to the appenders, if it passes the filters. -/
def log (dispatch : Dispatch α) (threadEntries : Entries) (record : Record) :
    Dispatch α × List (LoggerEvent ε) :=
  if dispatch.accepts threadEntries record then
    dispatch.after
      (.ofList (dispatch.appenders.map fun appender =>
        Appender.append appender (dispatch.scene threadEntries record)))
      (appendFailure record)
  else (dispatch, [])

/-- Flushes the appenders. -/
def flush (dispatch : Dispatch α) : Dispatch α × List (LoggerEvent ε) :=
  dispatch.after (.ofList (dispatch.appenders.map Appender.flush)) id

end Dispatch

/-- A logger: its dispatches, in order. -/
structure Logger (α : Type) where
  /-- The dispatches. -/
  dispatches : List (Dispatch α) := []

namespace Logger

variable {α ε : Type}

/-- Whether records with this metadata may pass some dispatch. -/
def enabled (logger : Logger α) (threadEntries : Entries) (metadata : Metadata) : Bool :=
  logger.dispatches.any fun dispatch => dispatch.enabled threadEntries metadata

/-- The logger after its dispatches worked in turn, and what happened. -/
def ofSteps (steps : List (Dispatch α × List (LoggerEvent ε))) :
    Logger α × List (LoggerEvent ε) :=
  ({ dispatches := steps.map (·.1) }, steps.flatMap (·.2))

variable [Appender α ε]

/-- Logs a record; the entries are those of the thread. -/
def log (logger : Logger α) (threadEntries : Entries) (record : Record) :
    Logger α × List (LoggerEvent ε) :=
  ofSteps (logger.dispatches.map fun dispatch => dispatch.log threadEntries record)

/-- Flushes all appenders. -/
def flush (logger : Logger α) : Logger α × List (LoggerEvent ε) :=
  ofSteps (logger.dispatches.map Dispatch.flush)

/-! ## Whole runs -/

/-- A call of a logger. -/
inductive Call where
  /-- Logs a record, with the entries of the thread. -/
  | log (threadEntries : Entries) (record : Record)
  /-- Flushes the appenders. -/
  | flush

/-- One call. -/
def step (logger : Logger α) : Call → Logger α × List (LoggerEvent ε)
  | .log threadEntries record => logger.log threadEntries record
  | .flush => logger.flush

/-- Calls in turn: the logger after them, and what each of them did. -/
def run (logger : Logger α) : List Call → Logger α × List (List (LoggerEvent ε))
  | [] => (logger, [])
  | call :: rest =>
    let (logger, events) := logger.step call
    let (logger, later) := logger.run rest
    (logger, events :: later)

/-! ## Trapped errors -/

/-- What is written to the standard error stream for an error that no trap of
the program takes. -/
def trapLine (error : Error) : Text := ("logforth-pattern: " ++ error.display ++ "\n").toList

/-! ## The logger of the process -/

/-- Makes a logger that of the process; there can only be one. -/
def install (installed : Option (Logger α)) (logger : Logger α) : Except Error (Logger α) :=
  match installed with
  | none => .ok logger
  | some _ =>
    .error ((Error.new "failed to set the global logger").withCause
      (.foreign "attempted to set a logger after the logging system was already initialized"))

end Logger

end LogLine
