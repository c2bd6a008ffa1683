/-
  Context.lean --- entries that come from the surroundings of a record.

  Besides the entries of the record itself, a pattern can show entries that
  are fixed, that belong to the thread, or that some other source gives.  A
  source may fail after some of its entries.
-/
import LogLine.Error
import LogLine.Record.Basic

set_option autoImplicit false

namespace LogLine

/-- Passes entries in turn to a visitor, up to the first one it refuses. -/
def Entries.visit {σ : Type} (visitor : σ → Entry → Except Error σ) (state : σ) :
    Entries → σ × Option Error
  | [] => (state, none)
  | entry :: rest =>
    match visitor state entry with
    | .ok state => Entries.visit visitor state rest
    | .error error => (state, some error)

/-- A source of entries. -/
inductive ContextSource where
  /-- Entries that stay the same, sorted by key. -/
  | fixed (entries : Entries)
  /-- The entries of the thread. -/
  | thread
  /-- Entries of another kind, and the failure that follows them. -/
  | custom (entries : Entries) (failure : Option Error)

namespace ContextSource

/-- The entries of a source, given those of the thread, and its failure. -/
def contents (threadEntries : Entries) : ContextSource → Entries × Option Error
  | .fixed entries => (entries, none)
  | .thread => (threadEntries, none)
  | .custom entries failure => (entries, failure)

/-- Passes the entries of a source to a visitor; a refusal comes before the
source's own failure. -/
def visit {σ : Type} (threadEntries : Entries) (visitor : σ → Entry → Except Error σ)
    (source : ContextSource) (state : σ) : σ × Option Error :=
  let (entries, failure) := source.contents threadEntries
  match entries.visit visitor state with
  | (state, some error) => (state, some error)
  | (state, none) => (state, failure)

end ContextSource

/-- What is known besides a record. -/
structure Surroundings where
  /-- The sources of further entries, in order. -/
  sources : List ContextSource := []
  /-- The entries of the thread, sorted by key. -/
  threadEntries : Entries := []

/-- A record and its surroundings. -/
structure Scene extends Surroundings where
  /-- The record. -/
  record : Record

end LogLine
