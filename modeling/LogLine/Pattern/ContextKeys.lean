/-
  Pattern/ContextKeys.lean --- the entries that a pattern shows.

  Entries of the record come first, then those of each source in turn; the
  first value of a key counts.  One key alone shows its value, several keys (or
  none, which stands for all) show a list sorted by key.
-/
import LogLine.Context

set_option autoImplicit false

namespace LogLine

/-- The keys to show; none stands for all. -/
structure ContextKeys where
  /-- The keys, in the order given. -/
  keys : List Text := []
deriving DecidableEq, Repr, Inhabited

namespace ContextKeys

/-- Reads keys with commas between them. -/
def read (list : Text) : ContextKeys :=
  ⟨((Text.pieces ',' list).map Text.trim).filter (· ≠ [])⟩

/-- Whether a key is to be shown. -/
def wants (keys : ContextKeys) (key : Text) : Bool := keys.keys.isEmpty || keys.keys.contains key

/-- Collects an entry unless its key is there already. -/
def collect (keys : ContextKeys) (collected : Entries) (entry : Entry) : Except Error Entries :=
  if keys.wants entry.1 && (collected.valueOf? entry.1).isNone then
    .ok (collected.put entry.1 entry.2)
  else .ok collected

/-- Collects from sources in turn, up to the first failure. -/
def collectAll (keys : ContextKeys) (threadEntries : Entries) (collected : Entries) :
    List ContextSource → Except Error Entries
  | [] => .ok collected
  | source :: rest =>
    match source.visit threadEntries keys.collect collected with
    | (_, some error) => .error error
    | (collected, none) => collectAll keys threadEntries collected rest

/-- The entries to show, sorted by key. -/
def entries (keys : ContextKeys) (scene : Scene) : Except Error Entries :=
  match scene.record.entries.visit keys.collect [] with
  | (_, some error) => .error error
  | (collected, none) => keys.collectAll scene.threadEntries collected scene.sources

/-- Entries between braces. -/
def list (entries : Entries) : Text :=
  ['\x7b'] ++ [',', ' '].intercalate (entries.map fun entry => entry.1 ++ ['='] ++ entry.2)
    ++ ['\x7d']

/-- The text that shows the entries. -/
def output (keys : ContextKeys) (scene : Scene) : Except Error Text :=
  match keys.entries scene with
  | .error error => .error error
  | .ok entries =>
    match keys.keys with
    | [key] => .ok ((entries.valueOf? key).getD [])
    | _ => .ok (list entries)

end ContextKeys

end LogLine
