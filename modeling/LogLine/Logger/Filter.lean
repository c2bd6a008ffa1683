/-
  Logger/Filter.lean --- which records pass.

  A filter gives a verdict on the metadata of a record, before the record is
  made, and one on the record itself.  Filters are asked in order, and the first
  verdict that is not neutral counts.
-/
import LogLine.Context

set_option autoImplicit false

namespace LogLine

/-- What a filter says. -/
inductive Verdict where
  /-- The record passes, whatever later filters say. -/
  | accept
  /-- The record does not pass. -/
  | reject
  /-- Later filters decide. -/
  | neutral
deriving DecidableEq, Repr, Inhabited

namespace Verdict

/-- Neutral or reject. -/
def ofBool (passes : Bool) : Verdict := if passes then .neutral else .reject

/-- What verdicts in order come to: the first one that is not neutral counts,
and a record passes if there is none. -/
def passes : List Verdict → Bool
  | [] => true
  | .accept :: _ => true
  | .reject :: _ => false
  | .neutral :: rest => passes rest

theorem passes_eq (verdicts : List Verdict) :
    passes verdicts = (verdicts.find? (· != .neutral) != some .reject) := by
  induction verdicts with
  | nil => rfl
  | cons verdict rest ih => cases verdict <;> simp_all [passes]

end Verdict

/-- A filter of records. -/
structure Filter where
  /-- The verdict on the metadata of a record. -/
  onMetadata : Surroundings → Metadata → Verdict
  /-- The verdict on a record. -/
  onRecord : Scene → Verdict

namespace Filter

/-- A filter that only looks at metadata. -/
def ofMetadata (verdict : Metadata → Verdict) : Filter :=
  { onMetadata := fun _ metadata => verdict metadata
    onRecord := fun scene => verdict scene.record.metadata }

/-- A filter on the level. -/
def ofLevel (filter : LevelFilter) : Filter :=
  ofMetadata fun metadata => .ofBool (filter.passes metadata.level)

/-- A filter of the facade. -/
def ofFacade (filter : FacadeFilter) : Filter := ofLevel (.ofFacade filter)

end Filter

end LogLine
