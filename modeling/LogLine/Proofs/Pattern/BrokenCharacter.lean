/-
  Proofs/Pattern/BrokenCharacter.lean --- where compiling cuts a character.

  Compiling takes characters and slices by their positions and cuts keys, colors
  and offsets by bytes.  Each access is in range and each cut at a boundary, with
  one exception: the zone of a date, wherever a specifier with a date stands, at
  any depth of inner patterns.

      Rules.resolveBytes?_eq          no cut of a key is inside a character
      compile_broken_iff              a date whose zone is cut, at any depth
      accesses_found_and_broken_iff   that, and all other accesses

  The scan, the tokens of a date and the mix of a color are read by positions
  and by bytes in `Pattern/Cursor.lean`, `Time/DatePattern.lean` and
  `Style/Sequence.lean`.
-/
import LogLine.Proofs.Pattern.Cursor
import LogLine.Proofs.Pattern.InnerPatterns
import LogLine.Proofs.Style.HexColor
import LogLine.Proofs.Time.DateCursor

set_option autoImplicit false

namespace LogLine

/-! ## Keys cut by bytes -/

namespace Rules

theorem cutBytes?_take (key : Text) (i : Nat) :
    Text.cutBytes? (Text.byteLength (key.take i)) key = some (key.take i, key.drop i) := by
  have h := Text.cutBytes?_append (key.take i) (key.drop i)
  rwa [List.take_append_drop] at h

theorem resolveAt?_ends (rules : Rules) (key : Text) (most : Nat) :
    rules.resolveAt? key (ends key most).reverse = some (rules.resolveWithin key most) := by
  induction most with
  | zero => rfl
  | succ n ih =>
    have hends : (ends key (n + 1)).reverse =
        Text.byteLength (key.take (n + 1)) :: (ends key n).reverse := by
      rw [ends, List.range_succ, List.map_append, List.reverse_append]
      rfl
    rw [hends, resolveAt?, cutBytes?_take, resolveWithin]
    simp only [Option.bind_eq_bind, Option.bind_some]
    cases rules.find? (key.take (n + 1)) with
    | some plugin => rfl
    | none => exact ih

/-- No cut of a key is inside a character. -/
theorem resolveBytes?_eq (rules : Rules) (key : Text) :
    rules.resolveBytes? key = some (rules.resolve? key) :=
  resolveAt?_ends rules key key.length

end Rules

namespace Pattern

open Builtin (Breaks Compiles)

/-! ## Factories that are called -/

/-- A specifier of the pattern has the factory of a plugin called with some
options. -/
def Calls (pattern : Text) (plugin : Plugin) (options : List Text) : Prop :=
  ∃ spec leftover, .specifier spec ∈ scan pattern ∧ spec.width.least ≤ maxFieldWidth ∧
    Builtin.rules.resolve? spec.key = some (plugin, leftover) ∧ options = spec.options

/-- A pattern with a date whose zone is cut inside a character, its own or that
of an inner pattern. -/
inductive CutsCharacter (config : Config) : Text → Prop where
  | zone {pattern : Text} {options : List Text} (hcalls : Calls pattern Builtin.date options)
      (hzone : DateClock.CutsOffset options) : CutsCharacter config pattern
  | inner {pattern inner : Text} {plugin : Plugin} {options : List Text}
      (hcalls : Calls pattern plugin options)
      (hinner : Compiles config plugin options inner) (h : CutsCharacter config inner) :
      CutsCharacter config pattern

theorem mem_registry_of_calls {pattern : Text} {plugin : Plugin} {options : List Text}
    (h : Calls pattern plugin options) : plugin ∈ Builtin.registry := by
  obtain ⟨spec, leftover, -, -, hfound, -⟩ := h
  exact Rules.mem_registry_of_resolve? hfound

/-- An inner pattern is shorter than the pattern around it. -/
theorem length_lt_of_compiles {config : Config} {pattern inner : Text} {plugin : Plugin}
    {options : List Text} (hcalls : Calls pattern plugin options)
    (hinner : Compiles config plugin options inner) :
    inner.length < pattern.length := by
  obtain ⟨spec, leftover, hspec, -, -, rfl⟩ := hcalls
  exact length_lt_of_mem_scan hspec (Builtin.mem_of_compiles hinner)

/-- One level: a factory that is called has its options cut. -/
theorem compile_broken_iff_breaks {config : Config} {pattern : Text} :
    compile Builtin.rules config pattern = .brokenCharacter ↔
      ∃ plugin options, Calls pattern plugin options ∧
        Breaks Builtin.rules config plugin options := by
  rw [compile_eq_broken_iff_becomes]
  constructor
  · rintro ⟨spec, hspec, hbecomes⟩
    cases hbecomes with
    | broken hleast hlongest hcreate =>
      have hcalls : Calls pattern _ spec.options :=
        ⟨spec, _, hspec, hleast, hlongest.resolve?, rfl⟩
      exact ⟨_, spec.options, hcalls,
        (Builtin.create_eq_broken_iff (mem_registry_of_calls hcalls)).1 hcreate⟩
  · rintro ⟨plugin, options, hcalls, hbreaks⟩
    have hcreate := (Builtin.create_eq_broken_iff (mem_registry_of_calls hcalls)).2 hbreaks
    obtain ⟨spec, leftover, hspec, hleast, hfound, rfl⟩ := hcalls
    obtain ⟨used, hlongest⟩ := Rules.resolve?_eq_some_iff.1 hfound
    exact ⟨spec, hspec, .broken hleast hlongest hcreate⟩

/-! ## All levels -/

theorem cutsCharacter_of_compile {config : Config} {pattern : Text}
    (h : compile Builtin.rules config pattern = .brokenCharacter) :
    CutsCharacter config pattern := by
  -- An inner pattern is shorter.
  induction hn : pattern.length using Nat.strong_induction_on generalizing pattern with
  | _ n ih =>
    obtain ⟨plugin, options, hcalls, hbreaks⟩ := compile_broken_iff_breaks.1 h
    cases hbreaks with
    | zone hzone => exact .zone hcalls hzone
    | inner hinner hbroken =>
      have hlt := length_lt_of_compiles hcalls hinner
      exact .inner hcalls hinner (ih _ (hn ▸ hlt) hbroken rfl)

theorem compile_of_cutsCharacter {config : Config} {pattern : Text}
    (h : CutsCharacter config pattern) :
    compile Builtin.rules config pattern = .brokenCharacter := by
  induction h with
  | zone hcalls hzone => exact compile_broken_iff_breaks.2 ⟨_, _, hcalls, .zone hzone⟩
  | inner hcalls hinner _ ih =>
    exact compile_broken_iff_breaks.2 ⟨_, _, hcalls, .inner hinner ih⟩

/-- Compiling cuts a text inside a character exactly when a date at some depth
has a zone that is cut. -/
theorem compile_broken_iff {config : Config} {pattern : Text} :
    compile Builtin.rules config pattern = .brokenCharacter ↔ CutsCharacter config pattern :=
  ⟨cutsCharacter_of_compile, compile_of_cutsCharacter⟩

/-- Every access of the scan, of the keys, of the colors and of the dates is in
range and at a boundary, and compiling has an outcome unless a zone is cut. -/
theorem accesses_found_and_broken_iff (config : Config) (pattern : Text) :
    Cursor.run pattern {} = some (scan pattern) ∧
      (∀ key, Builtin.rules.resolveBytes? key = some (Builtin.rules.resolve? key)) ∧
      (∀ digits, Style.mixOfHexBytes? digits = some (Style.mixOfHex? digits)) ∧
      (∀ date, DatePattern.tokensAt date 0 = some (DatePattern.tokens date)) ∧
      (compile Builtin.rules config pattern = .brokenCharacter ↔ CutsCharacter config pattern) :=
  ⟨Cursor.run_eq_scan pattern, Builtin.rules.resolveBytes?_eq, Style.mixOfHexBytes?_eq,
    DatePattern.tokensAt_append [], compile_broken_iff⟩

/-- A date with an offset of one character, which has three bytes. -/
def cutZone : Text := "%d\x7bHH\x7d\x7b+日\x7d".toList

theorem compile_cutZone : compile Builtin.rules {} cutZone = .brokenCharacter := by
  have hscan : scan cutZone =
      [.specifier ⟨0, cutZone, .natural, ['d'], [['H', 'H'], ['+', '日']]⟩] := by
    decide +kernel
  have hresolve : (resolvePiece Builtin.rules {}
      (.specifier ⟨0, cutZone, .natural, ['d'], [['H', 'H'], ['+', '日']]⟩)).isNone := by
    decide +kernel
  refine compile_eq_broken_iff.2 ⟨_, ?_, Option.isNone_iff_eq_none.1 hresolve⟩
  rw [hscan]
  exact List.mem_singleton_self _

end Pattern

end LogLine
