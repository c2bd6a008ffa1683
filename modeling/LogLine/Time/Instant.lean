/-
  Time/Instant.lean --- instants, in nanoseconds from the epoch.
-/

set_option autoImplicit false

namespace LogLine

/-- An instant: the nanoseconds since 1970-01-01T00:00:00Z, negative before. -/
structure Instant where
  /-- The nanoseconds since the epoch. -/
  nanos : Int
deriving DecidableEq, Repr, Inhabited

namespace Instant

/-- The nanoseconds of a second. -/
def nanosPerSecond : Int := 1000000000

/-- The instant some whole seconds and some nanoseconds after the epoch. -/
def ofSeconds (seconds : Int) (nanos : Nat) : Instant := ⟨seconds * nanosPerSecond + nanos⟩

/-- The second that the instant lies in. -/
def second (t : Instant) : Int := t.nanos.fdiv nanosPerSecond

/-- The nanoseconds since the beginning of its second. -/
def subsecond (t : Instant) : Nat := (t.nanos.fmod nanosPerSecond).toNat

/-- The seconds since the epoch, cut toward zero. -/
def truncatedSeconds (t : Instant) : Int := t.nanos.tdiv nanosPerSecond

/-- The milliseconds since the epoch, cut toward zero. -/
def truncatedMillis (t : Instant) : Int := t.nanos.tdiv 1000000

/-- The millisecond that the instant lies in. -/
def millisecond (t : Instant) : Int := t.nanos.fdiv 1000000

/-- The first instant that has a civil time. -/
def first : Instant := ofSeconds (-377705023201) 0

/-- The last instant that has a civil time. -/
def last : Instant := ofSeconds 253402207200 999999999

/-- Whether the instant has a civil time in every zone. -/
def inRange (t : Instant) : Bool := first.nanos ≤ t.nanos && t.nanos ≤ last.nanos

end Instant

end LogLine
