/-
  Proofs/Pattern/Outcomes.lean --- what becomes of a specifier.

  The plugin of the longest beginning of a key that is known answers for the
  specifier: it makes a converter, refuses, or cuts a text inside a character.
  All else is known before it is asked.  `Becomes` lists the outcomes with all
  that holds of each, so that a proof about resolved specifiers is a proof by
  cases on it:

      Rules.resolve?_eq_some_iff       the longest beginning, and no other
      Rules.resolve?_eq_none_iff       none that is known
      Pattern.resolveSpecifier_eq_iff  the outcomes of a specifier
-/
import Mathlib.Data.List.Infix
import LogLine.Pattern.Compile

set_option autoImplicit false

namespace LogLine

/-! ## Keys -/

namespace Rules

/-- The longest beginning of a key that is known. -/
structure LongestKnown (rules : Rules) (key used leftover : Text) (plugin : Plugin) : Prop where
  /-- It begins the key, and this is the rest. -/
  split : key = used ++ leftover
  /-- It is not empty. -/
  nonempty : used ≠ []
  /-- The plugin answers to it. -/
  known : rules.find? used = some plugin
  /-- No plugin answers to a longer one. -/
  longest : ∀ longer, longer <+: key → used.length < longer.length → rules.find? longer = none

/-- No beginning of a key is known, but for the empty one. -/
def NoneKnown (rules : Rules) (key : Text) : Prop :=
  ∀ used, used <+: key → used ≠ [] → rules.find? used = none

section

variable {rules : Rules} {key used leftover : Text} {plugin : Plugin}

theorem LongestKnown.isPrefix (h : rules.LongestKnown key used leftover plugin) : used <+: key :=
  ⟨leftover, h.split.symm⟩

theorem LongestKnown.key_ne_nil (h : rules.LongestKnown key used leftover plugin) : key ≠ [] := by
  rw [h.split]
  exact List.append_ne_nil_of_left_ne_nil h.nonempty leftover

/-- There is at most one. -/
theorem LongestKnown.unique (h : rules.LongestKnown key used leftover plugin)
    {used' leftover' : Text} {plugin' : Plugin}
    (h' : rules.LongestKnown key used' leftover' plugin') :
    used = used' ∧ leftover = leftover' ∧ plugin = plugin' := by
  have hle : used'.length ≤ used.length := by
    by_contra hlt
    have hnone := h.longest used' h'.isPrefix (Nat.lt_of_not_le hlt)
    rw [h'.known] at hnone
    cases hnone
  have hge : used.length ≤ used'.length := by
    by_contra hlt
    have hnone := h'.longest used h.isPrefix (Nat.lt_of_not_le hlt)
    rw [h.known] at hnone
    cases hnone
  obtain ⟨rfl, rfl⟩ := List.append_inj (h.split.symm.trans h'.split) (Nat.le_antisymm hge hle)
  exact ⟨rfl, rfl, Option.some.inj (h.known.symm.trans h'.known)⟩

/-- A beginning of a given greatest length is shorter, or all of that length. -/
theorem length_le_or_eq_take {used : Text} (h : used <+: key) {n : Nat}
    (hlength : used.length ≤ n + 1) : used.length ≤ n ∨ used = key.take (n + 1) := by
  rcases Nat.lt_or_eq_of_le hlength with hlt | heq
  · exact .inl (Nat.le_of_lt_succ hlt)
  · refine .inr ?_
    rw [← heq]
    exact List.prefix_iff_eq_take.1 h

/-- Where the search finds nothing, nothing up to its length is known. -/
theorem find?_eq_none_of_resolveWithin {most : Nat} (h : rules.resolveWithin key most = none)
    {used : Text} (hbegins : used <+: key) (hne : used ≠ []) (hlength : used.length ≤ most) :
    rules.find? used = none := by
  induction most with
  | zero => exact absurd (List.length_eq_zero_iff.1 (Nat.le_zero.1 hlength)) hne
  | succ n ih =>
    rw [resolveWithin] at h
    split at h
    · cases h
    · rename_i hunknown
      rcases length_le_or_eq_take hbegins hlength with hle | rfl
      · exact ih h hle
      · exact hunknown

/-- What the search finds is the longest beginning up to its length. -/
theorem exists_longest_of_resolveWithin {most : Nat} (hmost : most ≤ key.length)
    (h : rules.resolveWithin key most = some (plugin, leftover)) :
    ∃ used, key = used ++ leftover ∧ used ≠ [] ∧ rules.find? used = some plugin ∧
      ∀ longer, longer <+: key → used.length < longer.length → longer.length ≤ most →
        rules.find? longer = none := by
  induction most with
  | zero => cases h
  | succ n ih =>
    rw [resolveWithin] at h
    split at h
    · rename_i found hknown
      simp only [Option.some.injEq, Prod.mk.injEq] at h
      obtain ⟨rfl, rfl⟩ := h
      have hlength : (key.take (n + 1)).length = n + 1 := by
        rw [List.length_take, Nat.min_eq_left hmost]
      refine ⟨key.take (n + 1), (List.take_append_drop (n + 1) key).symm, ?_, hknown, ?_⟩
      · exact List.ne_nil_of_length_eq_add_one hlength
      · intro longer _ hlt hle
        exact absurd (hlength ▸ hlt) (Nat.not_lt.2 hle)
    · rename_i hunknown
      obtain ⟨used, hsplit, hne, hknown, hlongest⟩ := ih (Nat.le_of_succ_le hmost) h
      refine ⟨used, hsplit, hne, hknown, fun longer hbegins hlt hle => ?_⟩
      rcases length_le_or_eq_take hbegins hle with hle | rfl
      · exact hlongest longer hbegins hlt hle
      · exact hunknown

theorem exists_longestKnown_of_resolve? (h : rules.resolve? key = some (plugin, leftover)) :
    ∃ used, rules.LongestKnown key used leftover plugin := by
  obtain ⟨used, hsplit, hne, hknown, hlongest⟩ :=
    exists_longest_of_resolveWithin (Nat.le_refl _) h
  exact ⟨used, hsplit, hne, hknown, fun longer hbegins hlt =>
    hlongest longer hbegins hlt hbegins.length_le⟩

theorem noneKnown_of_resolve? (h : rules.resolve? key = none) : rules.NoneKnown key :=
  fun _ hbegins hne => find?_eq_none_of_resolveWithin h hbegins hne hbegins.length_le

theorem LongestKnown.not_noneKnown (h : rules.LongestKnown key used leftover plugin) :
    ¬ rules.NoneKnown key := by
  intro hnone
  have hunknown := hnone used h.isPrefix h.nonempty
  rw [h.known] at hunknown
  cases hunknown

theorem LongestKnown.resolve? (h : rules.LongestKnown key used leftover plugin) :
    rules.resolve? key = some (plugin, leftover) := by
  cases hfound : rules.resolve? key with
  | none => exact absurd (noneKnown_of_resolve? hfound) h.not_noneKnown
  | some found =>
    obtain ⟨used', h'⟩ := exists_longestKnown_of_resolve? hfound
    obtain ⟨-, rfl, rfl⟩ := h.unique h'
    rfl

theorem NoneKnown.resolve? (h : rules.NoneKnown key) : rules.resolve? key = none := by
  cases hfound : rules.resolve? key with
  | none => rfl
  | some found =>
    obtain ⟨used, hlongest⟩ := exists_longestKnown_of_resolve? hfound
    exact absurd h hlongest.not_noneKnown

/-- A key is resolved by its longest beginning that is known. -/
theorem resolve?_eq_some_iff :
    rules.resolve? key = some (plugin, leftover) ↔
      ∃ used, rules.LongestKnown key used leftover plugin :=
  ⟨exists_longestKnown_of_resolve?, fun ⟨_, h⟩ => h.resolve?⟩

theorem resolve?_eq_none_iff : rules.resolve? key = none ↔ rules.NoneKnown key :=
  ⟨noneKnown_of_resolve?, NoneKnown.resolve?⟩

/-- A key that is resolved begins with one that is known. -/
theorem exists_of_resolve? (h : rules.resolve? key = some (plugin, leftover)) :
    ∃ used, key = used ++ leftover ∧ rules.find? used = some plugin := by
  obtain ⟨used, hlongest⟩ := resolve?_eq_some_iff.1 h
  exact ⟨used, hlongest.split, hlongest.known⟩

/-- A key that is known is its own longest beginning. -/
theorem resolve?_of_find? (hne : key ≠ []) (h : rules.find? key = some plugin) :
    rules.resolve? key = some (plugin, []) := by
  refine resolve?_eq_some_iff.2 ⟨key, (List.append_nil key).symm, hne, h, ?_⟩
  exact fun longer hbegins hlt => absurd hbegins.length_le (Nat.not_le.2 hlt)

end

end Rules

namespace Pattern

/-! ## What becomes of a specifier -/

/-- A specifier fails with a fault, after what a plugin reported before. -/
inductive Fails (rules : Rules) (config : Config) (spec : Specifier) (arguments : List Argument) :
    SpecifierFault → List Report → Prop where
  /-- Its least width passes the limit, whatever its key is. -/
  | widthTooLarge (h : maxFieldWidth < spec.width.least) :
      Fails rules config spec arguments (.widthTooLarge spec.width.least maxFieldWidth) []
  /-- It has no key. -/
  | emptyKey (hleast : spec.width.least ≤ maxFieldWidth) (hkey : spec.key = []) :
      Fails rules config spec arguments .emptyKey []
  /-- No beginning of its key is known. -/
  | unknownKey (hleast : spec.width.least ≤ maxFieldWidth) (hkey : spec.key ≠ [])
      (h : rules.NoneKnown spec.key) : Fails rules config spec arguments (.unknownKey spec.key) []
  /-- The plugin of the longest beginning refuses the options. -/
  | refused {used leftover : Text} {plugin : Plugin} {error : Error} {earlier : List Report}
      (hleast : spec.width.least ≤ maxFieldWidth)
      (h : rules.LongestKnown spec.key used leftover plugin)
      (hcreate : plugin.create config arguments = .refused error earlier) :
      Fails rules config spec arguments (.refused spec.key plugin.name error) earlier

/-- All that can become of a specifier. -/
inductive Becomes (rules : Rules) (config : Config) (spec : Specifier)
    (arguments : List Argument) : Option (Resolved × List Report) → Prop where
  /-- The plugin of the longest beginning makes a converter; the rest of the key
  goes back into the literal text. -/
  | made {used leftover : Text} {plugin : Plugin} {converter : Converter} {reports : List Report}
      (hleast : spec.width.least ≤ maxFieldWidth)
      (h : rules.LongestKnown spec.key used leftover plugin)
      (hcreate : plugin.create config arguments = .made converter reports) :
      Becomes rules config spec arguments
        (some (.field { converter, width := spec.width } leftover, reports))
  /-- It fails, and is literal text as a whole. -/
  | failed {fault : SpecifierFault} {earlier : List Report}
      (h : Fails rules config spec arguments fault earlier) :
      Becomes rules config spec arguments
        (some (.field (literalField config spec.raw) [],
          earlier ++ [.failedSpecifier spec.position fault]))
  /-- The plugin of the longest beginning cuts a text inside a character. -/
  | broken {used leftover : Text} {plugin : Plugin}
      (hleast : spec.width.least ≤ maxFieldWidth)
      (h : rules.LongestKnown spec.key used leftover plugin)
      (hcreate : plugin.create config arguments = .brokenCharacter) :
      Becomes rules config spec arguments none

section

variable {rules : Rules} {config : Config} {spec : Specifier} {arguments : List Argument}

theorem becomes_resolveSpecifier (rules : Rules) (config : Config) (spec : Specifier)
    (arguments : List Argument) :
    Becomes rules config spec arguments (resolveSpecifier rules config spec arguments) := by
  unfold resolveSpecifier
  split
  · rename_i hleast
    exact .failed (.widthTooLarge hleast)
  rename_i hleast
  have hleast := Nat.le_of_not_lt hleast
  split
  · rename_i hkey
    exact .failed (.emptyKey hleast hkey)
  rename_i hkey
  split
  · rename_i hfound
    exact .failed (.unknownKey hleast hkey (Rules.resolve?_eq_none_iff.1 hfound))
  · rename_i plugin leftover hfound
    obtain ⟨used, hlongest⟩ := Rules.resolve?_eq_some_iff.1 hfound
    split
    · rename_i converter reports hcreate
      exact .made hleast hlongest hcreate
    · rename_i error reports hcreate
      exact .failed (.refused hleast hlongest hcreate)
    · rename_i hcreate
      exact .broken hleast hlongest hcreate

theorem Becomes.resolveSpecifier {outcome : Option (Resolved × List Report)}
    (h : Becomes rules config spec arguments outcome) :
    resolveSpecifier rules config spec arguments = outcome := by
  unfold Pattern.resolveSpecifier
  cases h with
  | made hleast h hcreate =>
    rw [if_neg (Nat.not_lt.2 hleast), if_neg h.key_ne_nil, h.resolve?]
    simp only [hcreate]
  | broken hleast h hcreate =>
    rw [if_neg (Nat.not_lt.2 hleast), if_neg h.key_ne_nil, h.resolve?]
    simp only [hcreate]
  | failed h =>
    cases h with
    | widthTooLarge h =>
      rw [if_pos h]
      rfl
    | emptyKey hleast hkey =>
      rw [if_neg (Nat.not_lt.2 hleast), if_pos hkey]
      rfl
    | unknownKey hleast hkey h =>
      rw [if_neg (Nat.not_lt.2 hleast), if_neg hkey, h.resolve?]
      rfl
    | refused hleast h hcreate =>
      rw [if_neg (Nat.not_lt.2 hleast), if_neg h.key_ne_nil, h.resolve?]
      simp only [hcreate]
      rfl

/-- What becomes of a specifier is decided by its widths, its key and the plugin
of the longest beginning alone. -/
theorem resolveSpecifier_eq_iff {outcome : Option (Resolved × List Report)} :
    resolveSpecifier rules config spec arguments = outcome ↔
      Becomes rules config spec arguments outcome := by
  constructor
  · rintro rfl
    exact becomes_resolveSpecifier rules config spec arguments
  · exact Becomes.resolveSpecifier

end

end Pattern

end LogLine
