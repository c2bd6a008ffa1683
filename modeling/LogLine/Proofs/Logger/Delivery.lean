/-
  Proofs/Logger/Delivery.lean --- what reaches the appenders of a logger.

  A record reaches the appenders of a dispatch if its filters let it, a request
  to flush always does.  Nothing else counts: not what other dispatches do, and
  not what other appenders do or whether they fail.  So a run is known from what
  each call brings to each dispatch:

      Dispatch.delivery?        what a call brings to the appenders of a dispatch
      Logger.step_eq            one call
      Logger.run_dispatches     the appenders after any calls
      Logger.run_events         what happens at each of them
-/
import LogLine.Logger.Basic

set_option autoImplicit false

namespace LogLine

open Logger (Call)

/-! ## Deliveries -/

/-- What reaches an appender. -/
inductive Delivery where
  /-- A record, as its dispatch sees it. -/
  | record (scene : Scene)
  /-- A request to flush. -/
  | flush

namespace Delivery

variable {α ε : Type} [Appender α ε]

/-- What an appender does with it. -/
def reach (delivery : Delivery) (appender : α) : Appended α ε :=
  match delivery with
  | .record scene => Appender.append appender scene
  | .flush => Appender.flush appender

/-- An appender after deliveries in turn. -/
def reachAll (deliveries : List Delivery) (appender : α) : α :=
  deliveries.foldl (fun appender delivery => (delivery.reach appender).next) appender

end Delivery

/-- The error that is trapped for a failure at a call: one of appending names the
record. -/
def Logger.Call.trapped : Call → Error → Error
  | .log _ record, error =>
    .mk error.message
      (error.context ++
        [("target", String.ofList record.target), ("payload", String.ofList record.payload)])
      error.causes
  | .flush, error => error

namespace Dispatch

variable {α ε : Type}

/-- The first verdict that is not neutral on a record among the dispatch's own
sources. -/
def verdict? (dispatch : Dispatch α) (threadEntries : Entries) (record : Record) :
    Option Verdict :=
  (dispatch.filters.map fun filter =>
    filter.onRecord { record, sources := dispatch.sources, threadEntries }).find? (· != .neutral)

/-- What a call brings to each appender of a dispatch: a record unless the first
verdict that is not neutral rejects it, and every flush. -/
def delivery? (dispatch : Dispatch α) : Call → Option Delivery
  | .log threadEntries record =>
    match dispatch.verdict? threadEntries record with
    | none => some (.record { record, sources := dispatch.sources, threadEntries })
    | some .accept => some (.record { record, sources := dispatch.sources, threadEntries })
    | some _ => none
  | .flush => some .flush

/-- What calls in turn bring to each appender. -/
def deliveries (dispatch : Dispatch α) (calls : List Call) : List Delivery :=
  calls.filterMap dispatch.delivery?

section

variable [Appender α ε]

/-- A dispatch after calls in turn. -/
def afterCalls (dispatch : Dispatch α) (calls : List Call) : Dispatch α :=
  { dispatch with
    appenders := dispatch.appenders.map (Delivery.reachAll (dispatch.deliveries calls)) }

/-- What the appenders of a dispatch do at a call, in their order. -/
def answers (dispatch : Dispatch α) (call : Call) : List (Appended α ε) :=
  match dispatch.delivery? call with
  | none => []
  | some delivery => dispatch.appenders.map delivery.reach

/-- What happens in a dispatch at a call: all appenders work, then their failures
are trapped in the same order. -/
def eventsAt (dispatch : Dispatch α) (call : Call) : List (LoggerEvent ε) :=
  (dispatch.answers call).flatMap (fun answer => answer.effects.map .effect) ++
    ((dispatch.answers call).filterMap (·.failure)).map fun error => .trapped (call.trapped error)

end

/-! ## One call -/

theorem verdict?_ne_neutral (dispatch : Dispatch α) (threadEntries : Entries) (record : Record) :
    dispatch.verdict? threadEntries record ≠ some .neutral := by
  intro h
  exact absurd (List.find?_some h) (by decide)

/-- A record is delivered if it passes the filters. -/
theorem delivery?_log (dispatch : Dispatch α) (threadEntries : Entries) (record : Record) :
    dispatch.delivery? (.log threadEntries record) =
      if dispatch.accepts threadEntries record then
        some (.record (dispatch.scene threadEntries record))
      else none := by
  have hne := dispatch.verdict?_ne_neutral threadEntries record
  have haccepts : dispatch.accepts threadEntries record =
      (dispatch.verdict? threadEntries record != some .reject) := Verdict.passes_eq _
  rw [haccepts, delivery?]
  cases h : dispatch.verdict? threadEntries record with
  | none => rfl
  | some verdict =>
    cases verdict with
    | accept => rfl
    | reject => rfl
    | neutral => exact absurd h hne

section

variable [Appender α ε] {dispatch : Dispatch α} {call : Call}

theorem afterCalls_of_no_delivery (h : dispatch.delivery? call = none) :
    dispatch.afterCalls [call] = dispatch := by
  have hid : Delivery.reachAll (α := α) [] = id := rfl
  simp only [afterCalls, deliveries, List.filterMap_cons, h, List.filterMap_nil, hid, List.map_id]

/-- Where nothing is delivered, nothing happens. -/
theorem eventsAt_of_no_delivery (h : dispatch.delivery? call = none) :
    dispatch.eventsAt call = [] := by
  simp only [eventsAt, answers, h, List.flatMap_nil, List.filterMap_nil, List.map_nil,
    List.append_nil]

/-- What is delivered reaches all appenders in turn. -/
theorem after_reach {delivery : Delivery} (h : dispatch.delivery? call = some delivery) :
    dispatch.after (.ofList (dispatch.appenders.map delivery.reach)) call.trapped =
      (dispatch.afterCalls [call], dispatch.eventsAt call) := by
  simp only [after, AllAppended.ofList, afterCalls, deliveries, eventsAt, answers, h,
    List.filterMap_cons, List.filterMap_nil, List.map_map, List.map_flatMap]
  rfl

end

section

variable [Appender α ε] (dispatch : Dispatch α)

theorem appendFailure_eq (threadEntries : Entries) (record : Record) :
    appendFailure record = Call.trapped (.log threadEntries record) := by
  funext error
  simp only [appendFailure, Call.trapped, Error.withText, Error.withContext, Error.message,
    Error.context, Error.causes, List.append_assoc, List.cons_append, List.nil_append]

theorem log_eq (threadEntries : Entries) (record : Record) :
    dispatch.log threadEntries record =
      (dispatch.afterCalls [.log threadEntries record],
        dispatch.eventsAt (.log threadEntries record)) := by
  have hdelivery := dispatch.delivery?_log threadEntries record
  rw [log, appendFailure_eq threadEntries record]
  by_cases h : dispatch.accepts threadEntries record = true
  · rw [if_pos h] at hdelivery ⊢
    exact after_reach hdelivery
  · rw [if_neg h] at hdelivery ⊢
    rw [afterCalls_of_no_delivery hdelivery, eventsAt_of_no_delivery hdelivery]

theorem flush_eq :
    dispatch.flush = (dispatch.afterCalls [.flush], dispatch.eventsAt .flush) := by
  have hdelivery : dispatch.delivery? .flush = some .flush := rfl
  exact after_reach hdelivery

theorem afterCalls_nil : dispatch.afterCalls [] = dispatch := by
  have hid : Delivery.reachAll (α := α) [] = id := rfl
  simp only [afterCalls, deliveries, List.filterMap_nil, hid, List.map_id]

/-- Calls in turn: the first one, then the others. -/
theorem afterCalls_append (earlier later : List Call) :
    dispatch.afterCalls (earlier ++ later) = (dispatch.afterCalls earlier).afterCalls later := by
  have hdeliveries :
      (dispatch.afterCalls earlier).deliveries later = dispatch.deliveries later := rfl
  rw [afterCalls, afterCalls, hdeliveries, deliveries, List.filterMap_append]
  simp only [afterCalls, List.map_map]
  congr 2
  funext appender
  exact List.foldl_append

end

end Dispatch

/-! ## Calls in turn -/

namespace Logger

variable {α ε : Type} [Appender α ε]

theorem ofSteps_map {call : Call} {answer : Dispatch α → Dispatch α × List (LoggerEvent ε)}
    (h : ∀ dispatch, answer dispatch = (dispatch.afterCalls [call], dispatch.eventsAt call))
    (dispatches : List (Dispatch α)) :
    ofSteps (dispatches.map answer) =
      ({ dispatches := dispatches.map (·.afterCalls [call]) },
        dispatches.flatMap (·.eventsAt call)) := by
  obtain rfl : answer = fun dispatch => (dispatch.afterCalls [call], dispatch.eventsAt call) :=
    funext h
  simp only [ofSteps, List.map_map, List.flatMap_map]
  rfl

/-- A call is answered by each dispatch on its own, one after the other. -/
theorem step_eq (logger : Logger α) (call : Call) :
    logger.step call =
      ({ dispatches := logger.dispatches.map (·.afterCalls [call]) },
        logger.dispatches.flatMap (·.eventsAt call)) := by
  cases call with
  | log threadEntries record =>
    exact ofSteps_map (fun dispatch => dispatch.log_eq threadEntries record) logger.dispatches
  | flush => exact ofSteps_map Dispatch.flush_eq logger.dispatches

/-- After any calls, each appender is as what reached it left it. -/
theorem run_dispatches (logger : Logger α) (calls : List Call) :
    (logger.run calls).1.dispatches = logger.dispatches.map (·.afterCalls calls) := by
  induction calls generalizing logger with
  | nil => simp only [run, Dispatch.afterCalls_nil, List.map_id']
  | cons call rest ih =>
    have hcalls : ∀ dispatch : Dispatch α,
        dispatch.afterCalls (call :: rest) = (dispatch.afterCalls [call]).afterCalls rest :=
      fun dispatch => dispatch.afterCalls_append [call] rest
    simp only [run, ih, step_eq, List.map_map, hcalls]
    rfl

theorem run_append (logger : Logger α) (earlier later : List Call) :
    logger.run (earlier ++ later) =
      (((logger.run earlier).1.run later).1,
        (logger.run earlier).2 ++ ((logger.run earlier).1.run later).2) := by
  induction earlier generalizing logger with
  | nil => rfl
  | cons call rest ih => simp only [List.cons_append, run, ih]

theorem length_run (logger : Logger α) (calls : List Call) :
    (logger.run calls).2.length = calls.length := by
  induction calls generalizing logger with
  | nil => rfl
  | cons call rest ih => simp only [run, List.length_cons, ih]

/-- What happens at a call: one dispatch after the other answers it, as the calls
before it left the dispatch. -/
theorem run_events (logger : Logger α) (earlier : List Call) (call : Call) (later : List Call) :
    (logger.run (earlier ++ call :: later)).2[earlier.length]? =
      some (logger.dispatches.flatMap fun dispatch =>
        (dispatch.afterCalls earlier).eventsAt call) := by
  have hlength : (logger.run earlier).2.length = earlier.length := logger.length_run earlier
  rw [run_append, List.getElem?_append_right (Nat.le_of_eq hlength), hlength, Nat.sub_self]
  simp only [run, List.getElem?_cons_zero, step_eq, run_dispatches, List.flatMap_map]

end Logger

end LogLine
