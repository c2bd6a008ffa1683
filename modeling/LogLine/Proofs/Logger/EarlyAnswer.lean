/-
  Proofs/Logger/EarlyAnswer.lean --- what the answer on metadata says of records.

  Before a record is made, a logger can be asked with its metadata whether it may
  be logged.  Both questions go through the filters up to the first verdict that
  is not neutral, but they can stop at different filters: one that says nothing
  of the metadata may accept the record, and one behind it reject the metadata.
  Then the record is logged although the answer was no, and this is the only way:

      Dispatch.overtaken_iff          the filters that make it so
      Logger.reaches_iff              when some appender is called
      Logger.enabled_of_reaches_iff   when the answer can be relied on
-/
import LogLine.Proofs.Logger.Watched

set_option autoImplicit false

namespace LogLine

/-! ## The first verdict that counts -/

namespace Verdict

variable {β : Type} {verdict : β → Verdict}

theorem passes_map_of_neutral {before : List β}
    (h : ∀ earlier ∈ before, verdict earlier = .neutral) (after : List β) :
    passes ((before ++ after).map verdict) = passes (after.map verdict) := by
  induction before with
  | nil => rfl
  | cons item rest ih =>
    rw [List.forall_mem_cons] at h
    rw [List.cons_append, List.map_cons, h.1, passes, ih h.2]

/-- Verdicts do not pass if the first one that is not neutral rejects. -/
theorem passes_map_eq_false_iff {items : List β} :
    passes (items.map verdict) = false ↔
      ∃ before item after, items = before ++ item :: after ∧
        (∀ earlier ∈ before, verdict earlier = .neutral) ∧ verdict item = .reject := by
  constructor
  · intro h
    induction items with
    | nil => cases h
    | cons item rest ih =>
      cases hitem : verdict item with
      | accept =>
        rw [List.map_cons, hitem] at h
        cases h
      | reject => exact ⟨[], item, rest, rfl, fun _ hmem => absurd hmem List.not_mem_nil, hitem⟩
      | neutral =>
        rw [List.map_cons, hitem, passes] at h
        obtain ⟨before, rejecting, after, rfl, hbefore, hrejecting⟩ := ih h
        exact ⟨item :: before, rejecting, after, rfl, List.forall_mem_cons.2 ⟨hitem, hbefore⟩,
          hrejecting⟩
  · rintro ⟨before, item, after, rfl, hbefore, hitem⟩
    rw [passes_map_of_neutral hbefore, List.map_cons, hitem, passes]

/-- Verdicts that pass although one of them rejects have an accepting one before
it. -/
theorem exists_accept_of_passes {before after : List β} {item : β}
    (h : passes ((before ++ item :: after).map verdict) = true) (hitem : verdict item = .reject) :
    ∃ front accepting back, before = front ++ accepting :: back ∧
      (∀ earlier ∈ front, verdict earlier = .neutral) ∧ verdict accepting = .accept := by
  induction before with
  | nil =>
    rw [List.nil_append, List.map_cons, hitem] at h
    cases h
  | cons first rest ih =>
    cases hfirst : verdict first with
    | accept => exact ⟨[], first, rest, rfl, fun _ hmem => absurd hmem List.not_mem_nil, hfirst⟩
    | reject =>
      rw [List.cons_append, List.map_cons, hfirst] at h
      cases h
    | neutral =>
      rw [List.cons_append, List.map_cons, hfirst, passes] at h
      obtain ⟨front, accepting, back, rfl, hfront, haccepting⟩ := ih h
      exact ⟨first :: front, accepting, back, rfl, List.forall_mem_cons.2 ⟨hfirst, hfront⟩,
        haccepting⟩

end Verdict

/-! ## One dispatch -/

/-- Whatever metadata the filter rejects, it rejects all records with it. -/
def Filter.Consistent (filter : Filter) : Prop :=
  ∀ (surroundings : Surroundings) (record : Record),
    filter.onMetadata surroundings record.metadata = .reject →
      filter.onRecord { surroundings with record } = .reject

theorem Filter.consistent_ofMetadata (verdict : Metadata → Verdict) :
    (ofMetadata verdict).Consistent :=
  fun _ _ h => h

namespace Dispatch

variable {α : Type} (dispatch : Dispatch α) (threadEntries : Entries)

/-- The first verdict on the metadata that is not neutral rejects it. -/
def RejectsEarly (metadata : Metadata) : Prop :=
  ∃ before rejecting after, dispatch.filters = before ++ rejecting :: after ∧
    (∀ filter ∈ before,
      filter.onMetadata (dispatch.surroundings threadEntries) metadata = .neutral) ∧
    rejecting.onMetadata (dispatch.surroundings threadEntries) metadata = .reject

/-- A filter that says nothing of the metadata accepts the record, and one behind
it is the first that says something of the metadata, and rejects it. -/
def Overtaken (record : Record) : Prop :=
  ∃ front accepting back rejecting after,
    dispatch.filters = front ++ accepting :: back ++ rejecting :: after ∧
    (∀ filter ∈ front,
      filter.onRecord (dispatch.scene threadEntries record) = .neutral) ∧
    accepting.onRecord (dispatch.scene threadEntries record) = .accept ∧
    (∀ filter ∈ front ++ accepting :: back,
      filter.onMetadata (dispatch.surroundings threadEntries) record.metadata = .neutral) ∧
    rejecting.onMetadata (dispatch.surroundings threadEntries) record.metadata = .reject

variable {dispatch threadEntries}

theorem enabled_eq_false_iff {metadata : Metadata} :
    dispatch.enabled threadEntries metadata = false ↔
      dispatch.RejectsEarly threadEntries metadata :=
  Verdict.passes_map_eq_false_iff

/-- Where filters are consistent, a record passes against the answer on its
metadata only if a rejecting filter was overtaken. -/
theorem overtaken_iff (hconsistent : ∀ filter ∈ dispatch.filters, filter.Consistent)
    {record : Record} :
    dispatch.Overtaken threadEntries record ↔
      dispatch.accepts threadEntries record = true ∧
        dispatch.RejectsEarly threadEntries record.metadata := by
  constructor
  · rintro ⟨front, accepting, back, rejecting, after, hfilters, hfront, haccepting, hneutral,
      hrejecting⟩
    refine ⟨?_, front ++ accepting :: back, rejecting, after, hfilters, hneutral, hrejecting⟩
    rw [accepts, hfilters, List.append_assoc, Verdict.passes_map_of_neutral hfront,
      List.cons_append, List.map_cons, haccepting, Verdict.passes]
  · rintro ⟨haccepts, before, rejecting, after, hfilters, hneutral, hrejecting⟩
    have hmem : rejecting ∈ dispatch.filters := by
      rw [hfilters]
      exact List.mem_append_right before List.mem_cons_self
    have hrecord : rejecting.onRecord (dispatch.scene threadEntries record) = .reject :=
      hconsistent rejecting hmem (dispatch.surroundings threadEntries) record hrejecting
    rw [accepts, hfilters] at haccepts
    obtain ⟨front, accepting, back, rfl, hfront, haccepting⟩ :=
      Verdict.exists_accept_of_passes haccepts hrecord
    exact ⟨front, accepting, back, rejecting, after, hfilters, hfront, haccepting, hneutral,
      hrejecting⟩

end Dispatch

/-! ## Loggers -/

namespace Logger

variable {α ε : Type} [Appender α ε]

/-- Whether some appender is called when a record is logged. -/
def Reaches (logger : Logger α) (threadEntries : Entries) (record : Record) : Prop :=
  ∃ receipt, LoggerEvent.effect receipt ∈ (logger.watched.log threadEntries record).2

/-- An appender is seen to work if there is one and something is delivered. -/
theorem exists_receipt_iff {dispatch : Dispatch α} {call : Call} :
    (∃ receipt, LoggerEvent.effect receipt ∈ dispatch.receiptsAt [] call) ↔
      dispatch.appenders ≠ [] ∧ dispatch.delivery? call ≠ none := by
  unfold Dispatch.receiptsAt
  cases dispatch.delivery? call with
  | none => simp
  | some delivery =>
    cases happenders : dispatch.appenders with
    | nil => simp
    | cons appender rest => simp

/-- A record reaches an appender if a dispatch that has appenders accepts it. -/
theorem reaches_iff {logger : Logger α} {threadEntries : Entries} {record : Record} :
    logger.Reaches threadEntries record ↔
      ∃ dispatch ∈ logger.dispatches,
        dispatch.appenders ≠ [] ∧ dispatch.accepts threadEntries record = true := by
  have hevents : (logger.watched.log threadEntries record).2 =
      logger.dispatches.flatMap fun dispatch =>
        dispatch.receiptsAt [] (.log threadEntries record) :=
    Option.some.inj (logger.run_receipts [] (.log threadEntries record) [])
  have hdelivery : ∀ dispatch : Dispatch α,
      dispatch.delivery? (.log threadEntries record) ≠ none ↔
        dispatch.accepts threadEntries record = true := by
    intro dispatch
    rw [Dispatch.delivery?_log]
    split <;> simp_all
  simp only [Reaches, hevents, List.mem_flatMap]
  constructor
  · rintro ⟨receipt, dispatch, hdispatch, hreceipt⟩
    have hseen := exists_receipt_iff.1 ⟨receipt, hreceipt⟩
    exact ⟨dispatch, hdispatch, hseen.1, (hdelivery dispatch).1 hseen.2⟩
  · rintro ⟨dispatch, hdispatch, happenders, haccepts⟩
    obtain ⟨receipt, hreceipt⟩ :=
      exists_receipt_iff.2 ⟨happenders, (hdelivery dispatch).2 haccepts⟩
    exact ⟨receipt, dispatch, hdispatch, hreceipt⟩

theorem enabled_eq_false_iff {logger : Logger α} {threadEntries : Entries} {metadata : Metadata} :
    logger.enabled threadEntries metadata = false ↔
      ∀ dispatch ∈ logger.dispatches, dispatch.RejectsEarly threadEntries metadata := by
  simp only [enabled, List.any_eq_false, Bool.not_eq_true, Dispatch.enabled_eq_false_iff]

/-- Where filters are consistent, the answer on the metadata of a record that
reaches an appender is yes, unless all dispatches reject the metadata and one
that has appenders is overtaken. -/
theorem enabled_of_reaches_iff {logger : Logger α}
    (hconsistent : ∀ dispatch ∈ logger.dispatches, ∀ filter ∈ dispatch.filters,
      filter.Consistent)
    (threadEntries : Entries) (record : Record) :
    (logger.Reaches threadEntries record →
        logger.enabled threadEntries record.metadata = true) ↔
      ¬ ((∀ dispatch ∈ logger.dispatches,
            dispatch.RejectsEarly threadEntries record.metadata) ∧
          ∃ dispatch ∈ logger.dispatches,
            dispatch.appenders ≠ [] ∧ dispatch.Overtaken threadEntries record) := by
  rw [← enabled_eq_false_iff, reaches_iff]
  constructor
  · rintro h ⟨hdisabled, dispatch, hdispatch, happenders, hovertaken⟩
    have haccepts := ((dispatch.overtaken_iff (hconsistent dispatch hdispatch)).1 hovertaken).1
    have henabled := h ⟨dispatch, hdispatch, happenders, haccepts⟩
    exact Bool.false_ne_true (hdisabled.symm.trans henabled)
  · rintro h ⟨dispatch, hdispatch, happenders, haccepts⟩
    cases hdisabled : logger.enabled threadEntries record.metadata with
    | true => rfl
    | false =>
      have hrejects := enabled_eq_false_iff.1 hdisabled dispatch hdispatch
      have hovertaken := (Dispatch.overtaken_iff (hconsistent dispatch hdispatch)).2
        ⟨haccepts, hrejects⟩
      exact absurd ⟨hdisabled, dispatch, hdispatch, happenders, hovertaken⟩ h

/-! ## A filter on the message before one on the level -/

/-- Accepts the message `boom` and says nothing of others. -/
def boomFilter : Filter :=
  { onMetadata := fun _ _ => .neutral
    onRecord := fun scene => if scene.record.payload = "boom".toList then .accept else .neutral }

/-- A logger that passes errors, and the message `boom` whatever its level. -/
def boomLogger : Logger StreamAppender :=
  { dispatches :=
      [{ filters := [boomFilter, .ofLevel (.moreSevereEqual .error)]
         appenders := [⟨.stdout, { pattern := [] }⟩] }] }

/-- The message `boom` at some level. -/
def boomRecord (level : Level) : Record := { metadata := { level }, payload := "boom".toList }

theorem consistent_boomLogger :
    ∀ dispatch ∈ boomLogger.dispatches, ∀ filter ∈ dispatch.filters, filter.Consistent := by
  have hboom : boomFilter.Consistent := fun _ _ h => nomatch h
  simp only [boomLogger, List.forall_mem_cons]
  exact ⟨⟨hboom, Filter.consistent_ofMetadata _, nofun⟩, nofun⟩

theorem enabled_boomLogger_error :
    (∀ dispatch ∈ boomLogger.dispatches, ∀ filter ∈ dispatch.filters, filter.Consistent) ∧
      boomLogger.Reaches [] (boomRecord .error) ∧
      boomLogger.enabled [] (boomRecord .error).metadata = true := by
  have hreaches : boomLogger.Reaches [] (boomRecord .error) :=
    reaches_iff.2 ⟨_, List.mem_cons_self, by simp, by decide⟩
  refine ⟨consistent_boomLogger, hreaches, ?_⟩
  refine (enabled_of_reaches_iff consistent_boomLogger [] (boomRecord .error)).2 ?_ hreaches
  rintro ⟨hrejects, -⟩
  exact absurd (enabled_eq_false_iff.2 hrejects) (by decide)

/-- The message `boom` reaches an appender at a level that is not enabled. -/
theorem not_enabled_boomLogger_info :
    (∀ dispatch ∈ boomLogger.dispatches, ∀ filter ∈ dispatch.filters, filter.Consistent) ∧
      boomLogger.Reaches [] (boomRecord .info) ∧
      boomLogger.enabled [] (boomRecord .info).metadata = false :=
  ⟨consistent_boomLogger, reaches_iff.2 ⟨_, List.mem_cons_self, by simp, by decide⟩, by decide⟩

end Logger

end LogLine
