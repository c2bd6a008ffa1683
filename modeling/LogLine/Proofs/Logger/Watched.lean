/-
  Proofs/Logger/Watched.lean --- what each appender of a logger receives.

  An appender under watch keeps all that reaches it, and shows each delivery as
  an effect of its own.  Watching changes nothing of what a logger does, so runs
  of watched appenders say what runs of any appenders are: each appender receives
  what its dispatch lets pass, once and in the order of the calls, and failures
  are trapped between the appenders of one dispatch and those of the next:

      Logger.forget_run       watching changes nothing
      Logger.received_eq      what an appender receives
      Logger.run_receipts     what happens at a call
      Logger.run_delivers     these together, and each appender by itself
-/
import LogLine.Proofs.Logger.Delivery

set_option autoImplicit false

namespace LogLine

open Logger (Call)

/-! ## Appenders under watch -/

/-- An appender and all that has reached it. -/
structure Watched (α : Type) where
  /-- The appender. -/
  appender : α
  /-- What has reached it, in order. -/
  received : List Delivery := []

/-- What a watched appender was seen to do. -/
structure Receipt (α ε : Type) where
  /-- The appender as the delivery reached it. -/
  appender : α
  /-- What reached it. -/
  delivery : Delivery
  /-- What it did, in order. -/
  effects : List ε

section

variable {α ε : Type}

section

variable [Appender α ε]

/-- Passes on what reaches a watched appender, and keeps it. -/
def Watched.take (watched : Watched α) (delivery : Delivery) :
    Appended (Watched α) (Receipt α ε) :=
  let answer := delivery.reach watched.appender
  { next := ⟨answer.next, watched.received ++ [delivery]⟩
    effects := [⟨watched.appender, delivery, answer.effects⟩]
    failure := answer.failure }

instance : Appender (Watched α) (Receipt α ε) where
  append watched scene := watched.take (.record scene)
  flush watched := watched.take .flush

theorem Watched.reach_eq (watched : Watched α) (delivery : Delivery) :
    delivery.reach watched = watched.take delivery := by
  cases delivery <;> rfl

theorem Watched.reachAll_eq (watched : Watched α) (deliveries : List Delivery) :
    Delivery.reachAll deliveries watched =
      ⟨Delivery.reachAll deliveries watched.appender, watched.received ++ deliveries⟩ := by
  induction deliveries generalizing watched with
  | nil => rw [List.append_nil]; rfl
  | cons delivery rest ih =>
    have hcons : Delivery.reachAll (delivery :: rest) watched =
        Delivery.reachAll rest (watched.take delivery).next := by
      rw [← Watched.reach_eq]
      rfl
    rw [hcons, ih, Watched.take, List.append_assoc]
    rfl

end

/-- A dispatch whose appenders are watched from now on. -/
def Dispatch.watched (dispatch : Dispatch α) : Dispatch (Watched α) :=
  { filters := dispatch.filters
    sources := dispatch.sources
    appenders := dispatch.appenders.map fun appender => { appender } }

/-- A dispatch whose appenders are not watched any more. -/
def Dispatch.forget (dispatch : Dispatch (Watched α)) : Dispatch α :=
  { filters := dispatch.filters
    sources := dispatch.sources
    appenders := dispatch.appenders.map (·.appender) }

/-- A logger whose appenders are watched from now on. -/
def Logger.watched (logger : Logger α) : Logger (Watched α) :=
  { dispatches := logger.dispatches.map Dispatch.watched }

/-- A logger whose appenders are not watched any more. -/
def Logger.forget (logger : Logger (Watched α)) : Logger α :=
  { dispatches := logger.dispatches.map Dispatch.forget }

/-- What happened, apart from the watching. -/
def LoggerEvent.forget : LoggerEvent (Receipt α ε) → List (LoggerEvent ε)
  | .effect receipt => receipt.effects.map .effect
  | .trapped error => [.trapped error]

/-- What a watched appender in some place of a logger has received after calls in
turn. -/
def Logger.received [Appender α ε] (logger : Logger α) (calls : List Call)
    (place index : Nat) : Option (List Delivery) :=
  ((logger.watched.run calls).1.dispatches[place]?.bind fun dispatch =>
    dispatch.appenders[index]?).map (·.received)

/-- What is seen in a dispatch at a call after others: the delivery to each
appender in turn, if there is one, and then the failures in the same order. -/
def Dispatch.receiptsAt [Appender α ε] (dispatch : Dispatch α) (earlier : List Call)
    (call : Call) : List (LoggerEvent (Receipt α ε)) :=
  match dispatch.delivery? call with
  | none => []
  | some delivery =>
    let reached := dispatch.appenders.map (Delivery.reachAll (dispatch.deliveries earlier))
    reached.map (fun appender =>
        .effect ⟨appender, delivery, (delivery.reach appender).effects⟩) ++
      (reached.filterMap fun appender => (delivery.reach appender).failure).map fun error =>
        .trapped (call.trapped error)

end

/-! ## Watching changes nothing -/

section

variable {α ε : Type}

theorem Logger.forget_watched (logger : Logger α) : logger.watched.forget = logger := by
  have hdispatch : ∀ dispatch : Dispatch α, dispatch.watched.forget = dispatch := by
    intro dispatch
    simp only [Dispatch.watched, Dispatch.forget, List.map_map, Function.comp_def, List.map_id']
  simp only [watched, forget, List.map_map, Function.comp_def, hdispatch, List.map_id']

variable [Appender α ε]

theorem Dispatch.forget_afterCalls (dispatch : Dispatch (Watched α)) (calls : List Call) :
    (dispatch.afterCalls calls).forget = dispatch.forget.afterCalls calls := by
  simp only [afterCalls, forget, List.map_map, Function.comp_def, Watched.reachAll_eq]
  rfl

theorem Dispatch.forget_eventsAt (dispatch : Dispatch (Watched α)) (call : Call) :
    (dispatch.eventsAt call).flatMap LoggerEvent.forget = dispatch.forget.eventsAt call := by
  have hdelivery : dispatch.forget.delivery? call = dispatch.delivery? call := rfl
  simp only [eventsAt, answers, hdelivery]
  cases dispatch.delivery? call with
  | none => rfl
  | some delivery =>
    simp only [forget, List.flatMap_append, List.flatMap_map, List.map_map, List.flatMap_assoc,
      List.filterMap_map, Function.comp_def, Watched.reach_eq, Watched.take, List.map_cons,
      List.map_nil, List.flatMap_cons, List.flatMap_nil, List.append_nil, LoggerEvent.forget]
    rw [← List.map_eq_flatMap]

theorem Logger.forget_step (logger : Logger (Watched α)) (call : Call) :
    logger.forget.step call =
      ((logger.step call).1.forget, (logger.step call).2.flatMap LoggerEvent.forget) := by
  simp only [step_eq, forget, List.map_map, List.flatMap_map, List.flatMap_assoc,
    Function.comp_def, Dispatch.forget_afterCalls, Dispatch.forget_eventsAt]

/-- Watched appenders do in a run what they do otherwise. -/
theorem Logger.forget_run (logger : Logger (Watched α)) (calls : List Call) :
    logger.forget.run calls =
      ((logger.run calls).1.forget,
        (logger.run calls).2.map (·.flatMap LoggerEvent.forget)) := by
  induction calls generalizing logger with
  | nil => rfl
  | cons call rest ih => simp only [run, forget_step, ih, List.map_cons]

/-! ## What is received -/

theorem Dispatch.afterCalls_watched (dispatch : Dispatch α) (calls : List Call) :
    dispatch.watched.afterCalls calls =
      { filters := dispatch.filters
        sources := dispatch.sources
        appenders := dispatch.appenders.map fun appender =>
          ⟨Delivery.reachAll (dispatch.deliveries calls) appender,
            dispatch.deliveries calls⟩ } := by
  have hdeliveries : dispatch.watched.deliveries = dispatch.deliveries := rfl
  simp only [afterCalls, hdeliveries]
  simp only [watched, List.map_map, Function.comp_def, Watched.reachAll_eq, List.nil_append]

theorem Logger.received_eq (logger : Logger α) (calls : List Call) (place index : Nat) :
    logger.received calls place index =
      logger.dispatches[place]?.bind fun dispatch =>
        dispatch.appenders[index]?.map fun _ => dispatch.deliveries calls := by
  simp only [received, run_dispatches, watched, List.map_map, List.getElem?_map]
  cases logger.dispatches[place]? with
  | none => rfl
  | some dispatch =>
    simp only [Option.map_some, Option.bind_some, Function.comp_apply,
      Dispatch.afterCalls_watched, List.getElem?_map, Option.map_map]
    rfl

/-- A record that is received is one that was logged, among the dispatch's own
sources. -/
theorem Dispatch.exists_call_of_mem_deliveries {dispatch : Dispatch α} {calls : List Call}
    {scene : Scene} (h : .record scene ∈ dispatch.deliveries calls) :
    ∃ threadEntries record, .log threadEntries record ∈ calls ∧
      scene = { record, sources := dispatch.sources, threadEntries } := by
  obtain ⟨call, hcall, hdelivery⟩ := List.mem_filterMap.1 h
  cases call with
  | flush => cases hdelivery
  | log threadEntries record =>
    rw [delivery?] at hdelivery
    refine ⟨threadEntries, record, hcall, ?_⟩
    split at hdelivery <;> cases hdelivery <;> rfl

theorem Dispatch.eventsAt_watched (dispatch : Dispatch α) (earlier : List Call) (call : Call) :
    (dispatch.watched.afterCalls earlier).eventsAt call = dispatch.receiptsAt earlier call := by
  have hdelivery : (dispatch.watched.afterCalls earlier).delivery? call =
      dispatch.delivery? call := rfl
  simp only [eventsAt, answers, hdelivery, receiptsAt]
  cases dispatch.delivery? call with
  | none => rfl
  | some delivery =>
    simp only [afterCalls_watched, List.flatMap_map, List.map_map, List.filterMap_map,
      Function.comp_def, Watched.reach_eq, Watched.take, List.map_cons, List.map_nil]
    rw [← List.map_eq_flatMap]

/-- What is seen at a call: one dispatch after the other. -/
theorem Logger.run_receipts (logger : Logger α) (earlier : List Call) (call : Call)
    (later : List Call) :
    (logger.watched.run (earlier ++ call :: later)).2[earlier.length]? =
      some (logger.dispatches.flatMap fun dispatch => dispatch.receiptsAt earlier call) := by
  simp only [run_events, watched, List.flatMap_map, Dispatch.eventsAt_watched]

/-- A logger delivers: watching its appenders changes nothing of what it does, and
shows that

* each appender receives what calls in turn bring to its dispatch, that is, each
  record that the first verdict that is not neutral accepts, or for which there
  is no such verdict, and each flush, once and in the order of the calls;
* a record that is received is one that was logged, with the entries of its thread
  and the sources of the dispatch;
* at each call, one dispatch after the other, all appenders of the dispatch are
  reached in order, and then each failure among them is trapped once, in the same
  order, with the target and the message of the record if it was to be appended;
* an appender receives what it would if it stood alone in a logger, whatever the
  other appenders and dispatches are and do. -/
theorem Logger.run_delivers (logger : Logger α) :
    (∀ calls, logger.run calls =
      ((logger.watched.run calls).1.forget,
        (logger.watched.run calls).2.map (·.flatMap LoggerEvent.forget))) ∧
    (∀ calls place index, logger.received calls place index =
      logger.dispatches[place]?.bind fun dispatch =>
        dispatch.appenders[index]?.map fun _ => dispatch.deliveries calls) ∧
    (∀ calls place index dispatch received scene, logger.dispatches[place]? = some dispatch →
      logger.received calls place index = some received → .record scene ∈ received →
      ∃ threadEntries record, .log threadEntries record ∈ calls ∧
        scene = { record, sources := dispatch.sources, threadEntries }) ∧
    (∀ earlier call later,
      (logger.watched.run (earlier ++ call :: later)).2[earlier.length]? =
        some (logger.dispatches.flatMap fun dispatch => dispatch.receiptsAt earlier call)) ∧
    (∀ (calls : List Call) (before after : List (Dispatch α)) (filters : List Filter)
        (sources : List ContextSource) (front back : List α) (appender : α),
      received ⟨before ++ ⟨filters, sources, front ++ appender :: back⟩ :: after⟩ calls
          before.length front.length =
        received ⟨[⟨filters, sources, [appender]⟩]⟩ calls 0 0) := by
  refine ⟨fun calls => ?_, logger.received_eq, ?_, logger.run_receipts, ?_⟩
  · rw [← forget_run, forget_watched]
  · intro calls place index dispatch received scene hdispatch hreceived hscene
    rw [received_eq, hdispatch, Option.bind_some] at hreceived
    obtain ⟨_, -, rfl⟩ := Option.map_eq_some_iff.1 hreceived
    exact Dispatch.exists_call_of_mem_deliveries hscene
  · intro calls before after filters sources front back appender
    rw [received_eq, received_eq, List.getElem?_append_right (Nat.le_refl _), Nat.sub_self,
      List.getElem?_cons_zero, List.getElem?_cons_zero, Option.bind_some, Option.bind_some,
      List.getElem?_append_right (Nat.le_refl _), Nat.sub_self]
    rfl

end

end LogLine
