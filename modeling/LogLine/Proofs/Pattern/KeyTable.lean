/-
  Proofs/Pattern/KeyTable.lean --- the table that a registry gives.

  The declarations of a category are entered in turn.  After each of them the
  table holds every key that was declared, once, under the plugin that declared
  it last (`Holds`), and a declaration is reported if its key was held before.
  So the table and the reports can be read off the declarations alone:

      Rules.Holds.declare          one declaration
      Rules.holds_declareAll       all of them
      Rules.size_declareAll        each is a new key or a report
      Rules.table_of_registry      the table of a registry, and what is reported
-/
import Mathlib.Data.List.Nodup
import LogLine.Pattern.Rules

set_option autoImplicit false

namespace LogLine

/-- A plugin declares a key in a category. -/
def Plugin.Declares (plugin : Plugin) (category key : Text) : Prop :=
  plugin.category = category ∧ key ∈ plugin.keys

instance (plugin : Plugin) (category key : Text) : Decidable (plugin.Declares category key) :=
  inferInstanceAs (Decidable (_ ∧ _))

/-- The report names the key, the plugin that held it and the one that takes it
over. -/
theorem DuplicateKey.context_toError (duplicate : DuplicateKey) :
    duplicate.toError.context =
      [("key", String.ofList duplicate.key), ("previous", String.ofList duplicate.previous),
        ("current", String.ofList duplicate.current)] := rfl

namespace Rules

/-- The keys of a table. -/
def keys (rules : Rules) : List Text := rules.entries.map (·.1)

/-! ## Declarations in turn -/

/-- The plugin of the last declaration of a key. -/
def holder? (declared : List (Text × Plugin)) (key : Text) : Option Plugin :=
  (declared.filter (·.1 == key)).getLast?.map (·.2)

/-- What is reported of the declaration at a place: a plugin that held its key
until then, and its own. -/
def repetition? (declared : List (Text × Plugin)) (place : Nat) : Option DuplicateKey :=
  declared[place]?.bind fun entry =>
    (holder? (declared.take place) entry.1).map fun previous =>
      ⟨entry.1, previous.name, entry.2.name⟩

theorem holder?_append (a b : List (Text × Plugin)) (key : Text) :
    holder? (a ++ b) key = (holder? b key).or (holder? a key) := by
  simp [holder?, List.getLast?_append, Option.map_or]

theorem holder?_concat (declared : List (Text × Plugin)) (key other : Text) (plugin : Plugin) :
    holder? (declared ++ [(key, plugin)]) other =
      if key = other then some plugin else holder? declared other := by
  rw [holder?_append]
  by_cases h : key = other <;> simp [holder?, h]

/-- What is reported of a declaration, those after it aside. -/
theorem repetition?_append_cons (before after : List (Text × Plugin)) (key : Text)
    (plugin : Plugin) :
    repetition? (before ++ (key, plugin) :: after) before.length =
      (holder? before key).map fun previous => ⟨key, previous.name, plugin.name⟩ := by
  have hplace : (before ++ (key, plugin) :: after)[before.length]? = some (key, plugin) := by
    simp
  have hbefore : (before ++ (key, plugin) :: after).take before.length = before := by simp
  rw [repetition?, hplace, hbefore, Option.bind_some]

/-! ## One declaration -/

/-- A table holds each key that was declared, under the plugin that declared it
last, and no key twice. -/
structure Holds (rules : Rules) (declared : List (Text × Plugin)) : Prop where
  find? : ∀ key, rules.find? key = holder? declared key
  nodup : rules.keys.Nodup

theorem find?_eq_none_iff {rules : Rules} {key : Text} :
    rules.find? key = none ↔ key ∉ rules.keys := by
  rw [Rules.find?, Option.map_eq_none_iff, List.find?_eq_none, keys, List.mem_map]
  constructor
  · rintro h ⟨entry, hentry, hkey⟩
    exact h entry hentry (beq_iff_eq.2 hkey)
  · intro h entry hentry hkey
    exact h ⟨entry, hentry, beq_iff_eq.1 hkey⟩

/-- A key stays where it is, and a new one comes last. -/
theorem keys_enter (key : Text) (plugin : Plugin) (entries : List (Text × Plugin)) :
    (enter key plugin entries).map (·.1) =
      if key ∈ entries.map (·.1) then entries.map (·.1) else entries.map (·.1) ++ [key] := by
  induction entries with
  | nil => rfl
  | cons entry rest ih =>
    by_cases hentry : entry.1 = key
    · simp [enter, hentry]
    · have hother : ¬ key = entry.1 := fun h => hentry h.symm
      rw [enter, if_neg hentry, List.map_cons, ih]
      by_cases hrest : key ∈ rest.map (·.1)
      · rw [if_pos hrest, List.map_cons, if_pos (List.mem_cons_of_mem _ hrest)]
      · rw [if_neg hrest, List.map_cons, if_neg (by simp only [List.mem_cons, hother, hrest]; simp)]
        rfl

section

variable {rules : Rules} {declared : List (Text × Plugin)}

theorem holds_empty : Holds {} [] := ⟨fun _ => rfl, List.nodup_nil⟩

theorem Holds.declare (h : rules.Holds declared) (key : Text) (plugin : Plugin) :
    (rules.declare key plugin).1.Holds (declared ++ [(key, plugin)]) where
  find? := by
    intro other
    rw [holder?_concat, ← h.find? other]
    exact find?_enter key other plugin rules.entries
  nodup := by
    have hkeys : (rules.declare key plugin).1.keys =
        if key ∈ rules.keys then rules.keys else rules.keys ++ [key] :=
      keys_enter key plugin rules.entries
    rw [hkeys]
    split
    · exact h.nodup
    · rename_i hnew
      exact List.nodup_append.2 ⟨h.nodup, List.nodup_singleton key,
        fun other hother _ hkey e => hnew (List.mem_singleton.1 hkey ▸ e ▸ hother)⟩

/-- A declaration is reported if its key is held, with the plugin that holds it. -/
theorem Holds.report (h : rules.Holds declared) (key : Text) (plugin : Plugin) :
    (rules.declare key plugin).2 =
      (holder? declared key).map fun previous => ⟨key, previous.name, plugin.name⟩ :=
  congrArg (Option.map _) (h.find? key)

/-- A declaration adds a key, or it is reported. -/
theorem size_declare (rules : Rules) (key : Text) (plugin : Plugin) :
    (rules.declare key plugin).1.size + (rules.declare key plugin).2.toList.length =
      rules.size + 1 := by
  have hsize : (rules.declare key plugin).1.size =
      (if key ∈ rules.keys then rules.keys else rules.keys ++ [key]).length := by
    rw [keys, ← keys_enter key plugin, List.length_map]
    rfl
  have hlength : rules.keys.length = rules.size := List.length_map _
  have hreport : (rules.declare key plugin).2.toList.length =
      if key ∈ rules.keys then 1 else 0 := by
    cases hfound : rules.find? key with
    | none => simp [Rules.declare, hfound, find?_eq_none_iff.1 hfound]
    | some previous =>
      have hmem : key ∈ rules.keys := by
        by_contra hnot
        rw [find?_eq_none_iff.2 hnot] at hfound
        cases hfound
      simp [Rules.declare, hfound, hmem]
  rw [hsize, hreport]
  split
  · rw [hlength]
  · rw [List.length_append, hlength]
    rfl

/-! ## All declarations -/

theorem holds_declareAll (h : rules.Holds declared) (rest : List (Text × Plugin)) :
    (rules.declareAll rest).1.Holds (declared ++ rest) := by
  induction rest generalizing rules declared with
  | nil => rwa [List.append_nil]
  | cons first rest ih =>
    have hrest := ih (h.declare first.1 first.2)
    rwa [List.append_assoc, List.singleton_append] at hrest

/-- What is reported of each declaration in turn is decided by those before it. -/
theorem reports_declareAll (h : rules.Holds declared) (rest : List (Text × Plugin)) :
    (rules.declareAll rest).2 =
      (List.range rest.length).filterMap fun place =>
        repetition? (declared ++ rest) (declared.length + place) := by
  induction rest generalizing rules declared with
  | nil => rfl
  | cons first rest ih =>
    have hrest := ih (h.declare first.1 first.2)
    have hfirst := h.report first.1 first.2
    rw [← repetition?_append_cons declared rest] at hfirst
    have hstep : (rules.declareAll (first :: rest)).2 =
        (rules.declare first.1 first.2).2.toList ++
          ((rules.declare first.1 first.2).1.declareAll rest).2 := rfl
    rw [hstep, hfirst, hrest, List.length_cons, List.range_succ_eq_map, List.filterMap_cons,
      List.filterMap_map, List.append_assoc, List.length_append, List.length_singleton]
    have hplaces : (fun place => repetition? (declared ++ ([first] ++ rest))
          (declared.length + 1 + place)) =
        (fun place => repetition? (declared ++ first :: rest) (declared.length + place)) ∘
          Nat.succ := by
      funext place
      rw [Function.comp_apply, Nat.succ_eq_add_one, Nat.add_assoc, Nat.add_comm 1 place]
      rfl
    rw [hplaces, Nat.add_zero]
    cases repetition? (declared ++ first :: rest) declared.length <;> rfl

/-- Each declaration adds a key, or it is reported. -/
theorem size_declareAll (rules : Rules) (rest : List (Text × Plugin)) :
    (rules.declareAll rest).1.size + (rules.declareAll rest).2.length =
      rules.size + rest.length := by
  induction rest generalizing rules with
  | nil => rfl
  | cons first rest ih =>
    have hfirst := size_declare rules first.1 first.2
    have hrest := ih (rules.declare first.1 first.2).1
    have htable : (rules.declareAll (first :: rest)).1 =
        ((rules.declare first.1 first.2).1.declareAll rest).1 := rfl
    have hreports : (rules.declareAll (first :: rest)).2.length =
        (rules.declare first.1 first.2).2.toList.length +
          ((rules.declare first.1 first.2).1.declareAll rest).2.length := List.length_append
    rw [htable, hreports, List.length_cons]
    omega

end

/-! ## The table of a registry -/

section

variable (registry : Registry) (category : Text)

theorem declarations_cons (plugin : Plugin) :
    declarations (plugin :: registry) category =
      (if plugin.category = category then plugin.keys.map (·, plugin) else []) ++
        declarations registry category := by
  by_cases h : plugin.category = category <;> simp [declarations, h]

theorem holder?_map_keys (plugin : Plugin) (keys : List Text) (key : Text) :
    holder? (keys.map (·, plugin)) key = if key ∈ keys then some plugin else none := by
  induction keys with
  | nil => rfl
  | cons first rest ih =>
    rw [List.map_cons, ← List.singleton_append, holder?_append, ih]
    by_cases hrest : key ∈ rest
    · simp [hrest]
    · by_cases hfirst : first = key
      · simp [holder?, hrest, hfirst]
      · have hother : ¬ key = first := fun h => hfirst h.symm
        simp [holder?, hrest, hfirst, hother]

/-- The last declaration of a key is that of the last plugin that declares it. -/
theorem holder?_declarations (key : Text) :
    holder? (declarations registry category) key =
      (registry.filter fun plugin => plugin.Declares category key).getLast? := by
  induction registry with
  | nil => rfl
  | cons plugin registry ih =>
    have hfirst : holder?
        (if plugin.category = category then plugin.keys.map (·, plugin) else []) key =
          if plugin.Declares category key then some plugin else none := by
      by_cases hcategory : plugin.category = category
      · simp [hcategory, holder?_map_keys, Plugin.Declares]
      · rw [if_neg hcategory, if_neg fun h => hcategory h.1]
        rfl
    rw [declarations_cons, holder?_append, ih, hfirst]
    by_cases hdeclares : plugin.Declares category key
    · rw [if_pos hdeclares, List.filter_cons_of_pos (by simpa using hdeclares),
        List.getLast?_cons]
      cases (registry.filter fun plugin => plugin.Declares category key).getLast? <;> rfl
    · rw [if_neg hdeclares, List.filter_cons_of_neg (by simpa using hdeclares), Option.or_none]

/-- The declarations of a category in turn: plugin after plugin, and of each plugin of
the category key after key. -/
inductive Declared (category : Text) : Registry → List (Text × Plugin) → Prop where
  | nil : Declared category [] []
  | other {plugin : Plugin} {registry : Registry} {declared : List (Text × Plugin)}
      (h : plugin.category ≠ category) (hrest : Declared category registry declared) :
      Declared category (plugin :: registry) declared
  | own {plugin : Plugin} {registry : Registry} {declared : List (Text × Plugin)}
      (h : plugin.category = category) (hrest : Declared category registry declared) :
      Declared category (plugin :: registry)
        (plugin.keys.map (fun key => (key, plugin)) ++ declared)

theorem declared_iff {declared : List (Text × Plugin)} :
    Declared category registry declared ↔ declared = declarations registry category := by
  constructor
  · intro h
    induction h with
    | nil => rfl
    | other h _ ih => rw [declarations_cons, if_neg h, ih, List.nil_append]
    | own h _ ih => rw [declarations_cons, if_pos h, ih]
  · rintro rfl
    induction registry with
    | nil => exact .nil
    | cons plugin registry ih =>
      rw [declarations_cons]
      by_cases h : plugin.category = category
      · rw [if_pos h]
        exact .own h ih
      · rw [if_neg h]
        exact .other h ih

theorem length_declarations :
    (declarations registry category).length =
      ((registry.filter (·.category == category)).flatMap Plugin.keys).length := by
  simp [declarations, List.length_flatMap]

/-- The table of a category holds each key that one of its plugins declares, once,
under the last plugin that does, and no other key.  Declarations come plugin after
plugin and key after key.  Each declaration of a key that was held is reported, in
this order, with the plugin that held it and the one that takes it over; so keys and
reports together are as many as declarations.
Plugins of other categories change nothing. -/
theorem table_of_registry :
    (∀ key, (ofRegistry registry category).1.find? key =
      (registry.filter fun plugin => plugin.Declares category key).getLast?) ∧
    (ofRegistry registry category).1.keys.Nodup ∧
    (∀ key, key ∈ (ofRegistry registry category).1.keys ↔
      ∃ plugin ∈ registry, plugin.Declares category key) ∧
    (∃ declared, Declared category registry declared) ∧
    (∀ declared, Declared category registry declared → (ofRegistry registry category).2 =
      (List.range declared.length).filterMap (repetition? declared)) ∧
    (∀ duplicate ∈ (ofRegistry registry category).2, duplicate.toError.context =
      [("key", String.ofList duplicate.key), ("previous", String.ofList duplicate.previous),
        ("current", String.ofList duplicate.current)]) ∧
    (ofRegistry registry category).1.size + (ofRegistry registry category).2.length =
      ((registry.filter (·.category == category)).flatMap Plugin.keys).length ∧
    ofRegistry (registry.filter (·.category == category)) category =
      ofRegistry registry category := by
  have hholds : (ofRegistry registry category).1.Holds (declarations registry category) :=
    holds_declareAll holds_empty (declarations registry category)
  have hfind : ∀ key, (ofRegistry registry category).1.find? key =
      (registry.filter fun plugin => plugin.Declares category key).getLast? := fun key =>
    (hholds.find? key).trans (holder?_declarations registry category key)
  refine ⟨hfind, hholds.nodup, fun key => ?_, ⟨_, (declared_iff registry category).2 rfl⟩, ?_,
    fun duplicate _ => duplicate.context_toError, ?_, ?_⟩
  · rw [← not_iff_not, ← find?_eq_none_iff, hfind, List.getLast?_eq_none_iff,
      List.filter_eq_nil_iff]
    simp
  · intro declared hdeclared
    obtain rfl := (declared_iff registry category).1 hdeclared
    have hreports := reports_declareAll holds_empty (declarations registry category)
    simp only [List.nil_append, List.length_nil, Nat.zero_add] at hreports
    exact hreports
  · rw [← length_declarations]
    have hsize := size_declareAll {} (declarations registry category)
    rwa [show Rules.size {} = 0 from rfl, Nat.zero_add] at hsize
  · simp [ofRegistry, declarations]

/-- A key that three declarations share, two of them in one plugin, and a plugin
of another category between them. -/
example (create : Config → List Argument → Creation) :
    (ofRegistry
        [⟨['A'], ['C'], [['x'], ['y']], create⟩, ⟨['B'], ['D'], [['x']], create⟩,
          ⟨['E'], ['C'], [['x'], ['x'], ['X']], create⟩] ['C']).2 =
      [⟨['x'], ['A'], ['E']⟩, ⟨['x'], ['E'], ['E']⟩] := rfl

end

end Rules

end LogLine
