/-
  Pattern/Rules.lean --- the table from keys to plugins.

  The plugins of a category are entered in order.  A plugin that declares a key
  anew takes it over, and the declaration is reported.
-/
import LogLine.Pattern.Plugin
import LogLine.Text.Slice

set_option autoImplicit false

namespace LogLine

/-- A key that was declared again. -/
structure DuplicateKey where
  /-- The key. -/
  key : Text
  /-- The name of the plugin that held it. -/
  previous : Text
  /-- The name of the plugin that takes it over. -/
  current : Text
deriving DecidableEq, Repr, Inhabited

/-- The error that a duplicate key is reported as. -/
def DuplicateKey.toError (duplicate : DuplicateKey) : Error :=
  (((Error.new "duplicate converter key, the later plugin wins").withText "key"
    duplicate.key).withText "previous" duplicate.previous).withText "current" duplicate.current

/-- The table from keys to plugins; each key stands there once. -/
structure Rules where
  /-- The keys and their plugins, in the order the keys were first declared. -/
  entries : List (Text × Plugin) := []

namespace Rules

/-- The plugin of a key. -/
def find? (rules : Rules) (key : Text) : Option Plugin :=
  (rules.entries.find? (·.1 == key)).map (·.2)

/-- The number of keys. -/
def size (rules : Rules) : Nat := rules.entries.length

/-- Entries with one more declaration. -/
def enter (key : Text) (plugin : Plugin) : List (Text × Plugin) → List (Text × Plugin)
  | [] => [(key, plugin)]
  | entry :: rest =>
    if entry.1 = key then (key, plugin) :: rest else entry :: enter key plugin rest

/-- The table with one more declaration, and the report if the key was there. -/
def declare (rules : Rules) (key : Text) (plugin : Plugin) : Rules × Option DuplicateKey :=
  (⟨enter key plugin rules.entries⟩,
    (rules.find? key).map fun previous => ⟨key, previous.name, plugin.name⟩)

/-- The table with declarations entered in turn, and what is reported. -/
def declareAll (rules : Rules) : List (Text × Plugin) → Rules × List DuplicateKey
  | [] => (rules, [])
  | (key, plugin) :: rest =>
    let (rules, duplicate) := rules.declare key plugin
    let (rules, later) := rules.declareAll rest
    (rules, duplicate.toList ++ later)

/-- The declarations of a category, in order. -/
def declarations (registry : Registry) (category : Text) : List (Text × Plugin) :=
  (registry.filter (·.category == category)).flatMap fun plugin => plugin.keys.map (·, plugin)

/-- The table of a category, and what is reported. -/
def ofRegistry (registry : Registry) (category : Text) : Rules × List DuplicateKey :=
  declareAll {} (declarations registry category)

/-! ## Looking up -/

theorem find?_enter (key other : Text) (plugin : Plugin) (entries : List (Text × Plugin)) :
    (Rules.mk (enter key plugin entries)).find? other =
      if key = other then some plugin else (Rules.mk entries).find? other := by
  induction entries with
  | nil => by_cases h : key = other <;> simp [find?, enter, h]
  | cons entry rest ih =>
    by_cases he : entry.1 = key
    · by_cases h : key = other <;> simp [find?, enter, he, h]
    · by_cases ho : entry.1 = other
      · have h : ¬ key = other := fun h => he (ho.trans h.symm)
        have h' : ¬ other = key := fun e => h e.symm
        simp [find?, enter, ho, h, h']
      · simp only [find?] at ih
        simp [find?, enter, he, ho, ih]

/-- The plugin of the longest beginning of a key that is known and has at least
one and at most `most` characters, and the rest of the key. -/
def resolveWithin (rules : Rules) (key : Text) : (most : Nat) → Option (Plugin × Text)
  | 0 => none
  | n + 1 =>
    match rules.find? (key.take (n + 1)) with
    | some plugin => some (plugin, key.drop (n + 1))
    | none => resolveWithin rules key n

/-- The plugin of the longest beginning of a key that is known, and the rest of
the key. -/
def resolve? (rules : Rules) (key : Text) : Option (Plugin × Text) :=
  rules.resolveWithin key key.length

/-! ## Looking up by bytes -/

/-- The bytes that the first characters of a key take, as many as each number. -/
def ends (key : Text) (most : Nat) : List Nat :=
  (List.range most).map fun i => Text.byteLength (key.take (i + 1))

/-- The plugin of the first beginning that is known, cut after each number of
bytes in turn; `none` if a cut is inside a character. -/
def resolveAt? (rules : Rules) (key : Text) : List Nat → Option (Option (Plugin × Text))
  | [] => some none
  | bytes :: shorter => do
    let (used, leftover) ← Text.cutBytes? bytes key
    match rules.find? used with
    | some plugin => some (some (plugin, leftover))
    | none => rules.resolveAt? key shorter

/-- The plugin of the longest beginning of a key that is known, cut by bytes. -/
def resolveBytes? (rules : Rules) (key : Text) : Option (Option (Plugin × Text)) :=
  rules.resolveAt? key (ends key key.length).reverse

end Rules

end LogLine
