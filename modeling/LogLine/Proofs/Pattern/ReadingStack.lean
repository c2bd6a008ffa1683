/-
  Proofs/Pattern/ReadingStack.lean --- every pattern is read to its end.

  THE LOOP.  Every step of the cursor goes on or takes a dot back, and then the
  next step goes on.  So the loop over a pattern ends, after at most two steps
  for each character:

      Cursor.Sound.goesOn          one step
      Cursor.exists_takes_end      the whole loop

  THE STACK.  Resolving a specifier reads its inner pattern from the beginning,
  before reading goes on around it.  `Advances` has one constructor for each way
  in which the stack of patterns that are being read can change.  An inner
  pattern is shorter than what its specifier took, so that what is left to do on
  the whole stack goes down even where a pattern is added to it:

      effort_lt_of_advances        one step
      reads_to_end                 the whole run, and what it is made of
-/
import LogLine.Proofs.Pattern.AskedPatterns
import LogLine.Proofs.Pattern.Cursor
import LogLine.Proofs.Pattern.OptionSpans

set_option autoImplicit false

namespace LogLine.Pattern

/-! ## Numbers of steps -/

section

variable {α : Type} {step : α → α → Prop}

/-- So many steps lead from one state to another. -/
inductive Takes (step : α → α → Prop) : Nat → α → α → Prop where
  | done (a : α) : Takes step 0 a a
  | next {n : Nat} {a b c : α} (h : step a b) (hrest : Takes step n b c) : Takes step (n + 1) a c

/-- What goes down with every step bounds their number. -/
theorem Takes.add_le {effort : α → Nat} (hless : ∀ a b, step a b → effort b < effort a) {n : Nat}
    {a b : α} (h : Takes step n a b) : n + effort b ≤ effort a := by
  induction h with
  | done => exact Nat.le_of_eq (Nat.zero_add _)
  | @next n a b c hstep _ ih =>
    have hlt := hless a b hstep
    omega

theorem Takes.preserves {P : α → Prop} (hkeep : ∀ a b, P a → step a b → P b) {n : Nat} {a b : α}
    (h : Takes step n a b) (ha : P a) : P b := by
  induction h with
  | done => exact ha
  | next hstep _ ih => exact ih (hkeep _ _ ha hstep)

/-- Where a step is possible from every state but the last ones, these are
reached. -/
theorem exists_takes {effort : α → Nat} (hless : ∀ a b, step a b → effort b < effort a)
    {P last : α → Prop} (hkeep : ∀ a b, P a → step a b → P b)
    (hgo : ∀ a, P a → ¬ last a → ∃ b, step a b) {a : α} (ha : P a) :
    ∃ n b, Takes step n a b ∧ last b := by
  induction hn : effort a using Nat.strong_induction_on generalizing a with
  | _ n ih =>
    by_cases hlast : last a
    · exact ⟨0, a, .done a, hlast⟩
    · obtain ⟨b, hstep⟩ := hgo a ha hlast
      obtain ⟨m, c, htakes, hc⟩ := ih _ (hn ▸ hless a b hstep) (hkeep a b ha hstep) rfl
      exact ⟨m + 1, c, .next hstep htakes, hc⟩

end

/-! ## The loop over one pattern -/

namespace Cursor

variable {s : Text} {cursor next : Cursor} {pieces : List Piece}

/-- One step of the loop. -/
def Next (s : Text) (cursor next : Cursor) : Prop := ∃ pieces, step s cursor = some (pieces, next)

/-- A cursor in the text, from which nothing out of range is read. -/
structure Sound (s : Text) (cursor : Cursor) : Prop where
  within : cursor.place ≤ s.length
  readable : run s cursor ≠ none

theorem sound_start (s : Text) : Sound s {} where
  within := Nat.zero_le _
  readable := by
    rw [run_eq_scan]
    exact Option.some_ne_none _

theorem Sound.step (h : Sound s cursor) (hstep : step s cursor = some (pieces, next)) :
    Sound s next where
  within := by
    cases moves_of_step hstep with
    | onward _ _ hle => exact hle
    | completed hplace hle hfinish =>
      obtain ⟨spec, -, -, hend, -⟩ := exists_of_completed hplace hle hfinish
      exact hend
    | takenBack => exact h.within
  readable := by
    intro hnone
    have hrun := run_of_step hstep
    rw [hnone] at hrun
    exact h.readable hrun

theorem Sound.exists_step (h : Sound s cursor) (hlt : cursor.place < s.length) :
    ∃ pieces next, Cursor.step s cursor = some (pieces, next) := by
  have hrun := h.readable
  rw [run, if_pos hlt] at hrun
  split at hrun
  · exact absurd rfl hrun
  · rename_i pieces next hstep
    exact ⟨pieces, next, hstep⟩

/-- A step is possible that stays in the text, and it goes on, or else takes a
dot back and is followed by one that goes on. -/
def GoesOn (s : Text) (cursor : Cursor) : Prop :=
  ∃ pieces next, step s cursor = some (pieces, next) ∧ next.place ≤ s.length ∧
    (cursor.place < next.place ∨
      cursor.phase = .dot ∧ next.place = cursor.place ∧
        ∃ pieces' later, step s next = some (pieces', later) ∧ next.place < later.place)

theorem Sound.goesOn (h : Sound s cursor) (hlt : cursor.place < s.length) : GoesOn s cursor := by
  obtain ⟨pieces, next, hstep⟩ := h.exists_step hlt
  have hnext := h.step hstep
  refine ⟨pieces, next, hstep, hnext.within, ?_⟩
  cases moves_of_step hstep with
  | onward _ hgoes => exact .inl hgoes
  | completed hplace hle hfinish =>
    obtain ⟨spec, -, hgoes, -⟩ := exists_of_completed hplace hle hfinish
    exact .inl hgoes
  | takenBack hphase =>
    obtain ⟨pieces', later, hstep'⟩ := hnext.exists_step hlt
    refine .inr ⟨hphase, rfl, pieces', later, hstep', ?_⟩
    cases moves_of_step hstep' with
    | onward _ hgoes => exact hgoes
    | completed hplace hle hfinish =>
      obtain ⟨spec, -, hgoes, -⟩ := exists_of_completed hplace hle hfinish
      exact hgoes
    | takenBack hphase' => cases hphase'

theorem effort_lt_of_next (cursor next : Cursor) (h : Next s cursor next) :
    effort s next < effort s cursor := by
  obtain ⟨pieces, hstep⟩ := h
  exact effort_lt_of_step hstep

theorem sound_of_next (cursor next : Cursor) (h : Sound s cursor) (hnext : Next s cursor next) :
    Sound s next := by
  obtain ⟨pieces, hstep⟩ := hnext
  exact h.step hstep

/-- The loop ends at the end of the text. -/
theorem exists_takes_end (s : Text) :
    ∃ n cursor, Takes (Next s) n {} cursor ∧ cursor.place = s.length := by
  have hgo : ∀ cursor, Sound s cursor → ¬ s.length ≤ cursor.place → ∃ next, Next s cursor next := by
    intro cursor h hlast
    obtain ⟨pieces, next, hstep⟩ := h.exists_step (Nat.lt_of_not_le hlast)
    exact ⟨next, pieces, hstep⟩
  obtain ⟨n, cursor, htakes, hend⟩ :=
    exists_takes effort_lt_of_next sound_of_next hgo (sound_start s)
  have hsound := htakes.preserves sound_of_next (sound_start s)
  exact ⟨n, cursor, htakes, Nat.le_antisymm hsound.within hend⟩

/-- The cursor goes past an inner pattern by more than its length. -/
theorem length_lt_of_step {config : Config} {spec : Specifier} {inner : Text}
    (hstep : Cursor.step s cursor = some (pieces, next)) (hspec : .specifier spec ∈ pieces)
    (hasks : spec.Asks config inner) :
    cursor.place + inner.length + 3 ≤ next.place ∧ next.place ≤ s.length := by
  cases moves_of_step hstep with
  | onward hplain => exact absurd hspec (hplain spec)
  | completed hplace hle hfinish =>
    obtain ⟨spec', rfl, -, hend, hoptions⟩ := exists_of_completed hplace hle hfinish
    obtain rfl := Piece.specifier.inj (List.mem_singleton.1 hspec)
    exact ⟨hoptions inner (Specifier.mem_options_of_asks hasks), hend⟩
  | takenBack => cases List.mem_singleton.1 hspec

end Cursor

/-! ## The stack of patterns -/

/-- A pattern that is being read. -/
structure Reading where
  /-- The pattern. -/
  pattern : Text
  /-- Where reading it stands. -/
  cursor : Cursor := {}

/-- One step on the patterns that are being read, the innermost first. -/
inductive Advances (config : Config) : List Reading → List Reading → Prop where
  /-- A character is read, and nothing has to be compiled for it. -/
  | reads {pattern : Text} {cursor next : Cursor} {pieces : List Piece} {below : List Reading}
      (hstep : cursor.step pattern = some (pieces, next))
      (hnone : ∀ spec inner, .specifier spec ∈ pieces → ¬ spec.Asks config inner) :
      Advances config (⟨pattern, cursor⟩ :: below) (⟨pattern, next⟩ :: below)
  /-- A specifier is complete, and its inner pattern is read next. -/
  | enters {pattern inner : Text} {cursor next : Cursor} {pieces : List Piece} {spec : Specifier}
      {below : List Reading} (hstep : cursor.step pattern = some (pieces, next))
      (hspec : .specifier spec ∈ pieces) (hasks : spec.Asks config inner) :
      Advances config (⟨pattern, cursor⟩ :: below) (⟨inner, {}⟩ :: ⟨pattern, next⟩ :: below)
  /-- A pattern was read to its end. -/
  | leaves {pattern : Text} {cursor : Cursor} {below : List Reading}
      (hend : cursor.place = pattern.length) : Advances config (⟨pattern, cursor⟩ :: below) below

section

variable {config : Config}

/-- What is left to do on the stack, with one step for leaving each pattern. -/
def effort : List Reading → Nat
  | [] => 0
  | reading :: below => Cursor.effort reading.pattern reading.cursor + 1 + effort below

/-- Every step leaves less to do: what an inner pattern adds is less than what
its specifier took. -/
theorem effort_lt_of_advances (readings next : List Reading)
    (h : Advances config readings next) :
    effort next < effort readings := by
  cases h with
  | reads hstep =>
    have hlt := Cursor.effort_lt_of_step hstep
    simp only [effort]
    omega
  | @enters pattern inner cursor next _ _ below hstep hspec hasks =>
    obtain ⟨hpast, hle⟩ := Cursor.length_lt_of_step hstep hspec hasks
    have hinner : Cursor.effort inner {} = 2 * inner.length := rfl
    have hbefore : 2 * (pattern.length - cursor.place) ≤ Cursor.effort pattern cursor :=
      Nat.le_add_right _ _
    have hafter : Cursor.effort pattern next ≤ 2 * (pattern.length - next.place) + 1 := by
      unfold Cursor.effort
      split <;> omega
    -- the cursor went three characters farther than the inner pattern is long: its braces
    -- and a letter of the key, which is more than entering and leaving it takes
    simp only [effort, hinner]
    omega
  | leaves =>
    simp only [effort]
    omega

/-- Readings from which nothing out of range is read, each of a shorter pattern
than those around it. -/
structure SoundStack (readings : List Reading) : Prop where
  sound : ∀ reading ∈ readings, Cursor.Sound reading.pattern reading.cursor
  nested : readings.Pairwise fun inner outer => inner.pattern.length < outer.pattern.length

theorem soundStack_start (pattern : Text) : SoundStack [{ pattern }] where
  sound := by
    rintro reading hreading
    rw [List.mem_singleton.1 hreading]
    exact Cursor.sound_start pattern
  nested := List.pairwise_singleton _ _

theorem soundStack_of_advances (readings next : List Reading) (h : SoundStack readings)
    (hadvances : Advances config readings next) : SoundStack next := by
  obtain ⟨hsound, hnested⟩ := h
  cases hadvances with
  | reads hstep =>
    rw [List.forall_mem_cons] at hsound
    rw [List.pairwise_cons] at hnested
    exact ⟨List.forall_mem_cons.2 ⟨hsound.1.step hstep, hsound.2⟩, List.pairwise_cons.2 hnested⟩
  | @enters pattern inner cursor next _ _ below hstep hspec hasks =>
    rw [List.forall_mem_cons] at hsound
    rw [List.pairwise_cons] at hnested
    obtain ⟨hpast, hle⟩ := Cursor.length_lt_of_step hstep hspec hasks
    have hlt : inner.length < pattern.length := by omega
    refine ⟨?_, ?_⟩
    · exact List.forall_mem_cons.2 ⟨Cursor.sound_start inner,
        List.forall_mem_cons.2 ⟨hsound.1.step hstep, hsound.2⟩⟩
    · refine List.pairwise_cons.2 ⟨?_, List.pairwise_cons.2 hnested⟩
      exact List.forall_mem_cons.2
        ⟨hlt, fun outer houter => Nat.lt_trans hlt (hnested.1 outer houter)⟩
  | leaves =>
    exact ⟨fun reading hreading => hsound reading (List.mem_cons_of_mem _ hreading),
      (List.pairwise_cons.1 hnested).2⟩

/-- As long as a pattern is being read, a step is possible. -/
theorem exists_advances (readings : List Reading) (h : SoundStack readings) (hne : readings ≠ []) :
    ∃ next, Advances config readings next := by
  obtain ⟨⟨pattern, cursor⟩, below, rfl⟩ := List.exists_cons_of_ne_nil hne
  have hsound : Cursor.Sound pattern cursor := h.sound _ List.mem_cons_self
  rcases Nat.lt_or_ge cursor.place pattern.length with hlt | hge
  · obtain ⟨pieces, next, hstep⟩ := hsound.exists_step hlt
    by_cases hasks : ∃ spec inner, .specifier spec ∈ pieces ∧ spec.Asks config inner
    · obtain ⟨spec, inner, hspec, hasks⟩ := hasks
      exact ⟨_, .enters hstep hspec hasks⟩
    · exact ⟨_, .reads hstep fun spec inner hspec h => hasks ⟨spec, inner, hspec, h⟩⟩
  · exact ⟨_, .leaves (Nat.le_antisymm hsound.within hge)⟩

/-! ## The whole run -/

/-- Compiling a pattern takes the inner patterns of its specifiers and no other
pattern. -/
theorem compile_eq_of_asks {pattern : Text} {nested : Text → Compilation}
    (h : ∀ spec inner, .specifier spec ∈ scan pattern → spec.Asks config inner →
      nested inner = compile Builtin.rules config inner) :
    compile Builtin.rules config pattern =
      ofResolved config ((scan pattern).map fun piece =>
        resolve Builtin.rules config piece (argumentsBy nested piece.options)) := by
  rw [compile_eq]
  congr 1
  refine List.map_congr_left fun piece hpiece => ?_
  cases piece with
  | specifier spec =>
    exact Specifier.resolve_eq_of_asks spec fun inner hasks =>
      (h spec inner hpiece hasks).symm
  | literal | percent | malformedDot | unfinished => rfl

end

/-- Reading options never goes back, and goes on where a brace opens; the options
are balanced, and each ends before the next one begins, in what is read.  So an
inner pattern is shorter, and compiling a pattern needs inner patterns only.  The
loop that gives the pieces takes at most two steps for each character: each step
before the end goes on, or takes a dot back and is followed by one that does.
With the loops over inner patterns, at any depth, a run takes at most one step
more, every pattern in it is inside longer ones only, and it ends. -/
theorem reads_to_end (config : Config) (pattern : Text) :
    (∀ start, start ≤ pattern.length → ∃ options stop,
      Cursor.readOptions pattern start start = some (options, stop) ∧
      start ≤ stop ∧ stop ≤ pattern.length ∧ (pattern[start]? = some '{' → start < stop) ∧
      ∃ spans, List.Forall₂ (Cursor.StandsAt pattern start stop) spans options ∧
        spans.Pairwise fun a b => a.2 < b.1) ∧
    (∀ spec inner, .specifier spec ∈ scan pattern → spec.Asks config inner →
      inner.length < pattern.length) ∧
    (∀ nested,
      (∀ spec inner, .specifier spec ∈ scan pattern → spec.Asks config inner →
        nested inner = compile Builtin.rules config inner) →
      compile Builtin.rules config pattern =
        ofResolved config ((scan pattern).map fun piece =>
          resolve Builtin.rules config piece (argumentsBy nested piece.options))) ∧
    Cursor.run pattern {} = some (scan pattern) ∧
    (∀ n cursor, Takes (Cursor.Next pattern) n {} cursor →
      n ≤ 2 * pattern.length ∧ (cursor.place < pattern.length → Cursor.GoesOn pattern cursor)) ∧
    (∃ n cursor, Takes (Cursor.Next pattern) n {} cursor ∧ cursor.place = pattern.length) ∧
    (∀ n readings, Takes (Advances config) n [{ pattern }] readings →
      n ≤ 2 * pattern.length + 1 ∧
      (readings.Pairwise fun inner outer => inner.pattern.length < outer.pattern.length) ∧
      (readings ≠ [] → ∃ next, Advances config readings next)) ∧
    ∃ n, Takes (Advances config) n [{ pattern }] [] := by
  refine ⟨fun start hstart => ?_, fun spec inner => Specifier.length_lt_of_asks,
    fun nested => compile_eq_of_asks, Cursor.run_eq_scan pattern,
    fun n cursor htakes => ?_, Cursor.exists_takes_end pattern, fun n readings htakes => ?_, ?_⟩
  · obtain ⟨options, stop, hread, hle, hlength, hopen, hstands, happart⟩ :=
      Cursor.exists_readOptions hstart
    exact ⟨options, stop, hread, hle, hlength, hopen, _, hstands, happart⟩
  · have hbound := htakes.add_le Cursor.effort_lt_of_next
    have hstart : Cursor.effort pattern {} = 2 * pattern.length := rfl
    have hsound := htakes.preserves Cursor.sound_of_next (Cursor.sound_start pattern)
    exact ⟨by omega, hsound.goesOn⟩
  · have hbound := htakes.add_le effort_lt_of_advances
    have hstart : effort [{ pattern }] = 2 * pattern.length + 1 := rfl
    have hsound := htakes.preserves soundStack_of_advances (soundStack_start pattern)
    exact ⟨by omega, hsound.nested, exists_advances readings hsound⟩
  · obtain ⟨n, readings, htakes, rfl⟩ := exists_takes effort_lt_of_advances soundStack_of_advances
      exists_advances (soundStack_start pattern)
    exact ⟨n, htakes⟩

/-- A dot without digit, an inner pattern and a group that is not closed. -/
def unclosedRed : Text := "%5.x%red\x7b%m\x7d\x7bb".toList

/-- A way of compiling that knows the inner pattern only. -/
def compileMessage (inner : Text) : Compilation :=
  if inner = "%m".toList then compile Builtin.rules {} inner else .brokenCharacter

theorem reads_to_end_unclosedRed :
    unclosedRed[8]? = some '{' ∧
    (∃ options stop, Cursor.readOptions unclosedRed 8 8 = some (options, stop) ∧ 8 < stop) ∧
    (∃ spec inner, .specifier spec ∈ scan unclosedRed ∧ spec.Asks {} inner ∧
      inner.length < unclosedRed.length) ∧
    compile Builtin.rules {} unclosedRed =
      ofResolved {} ((scan unclosedRed).map fun piece =>
        resolve Builtin.rules {} piece (argumentsBy compileMessage piece.options)) ∧
    (∃ cursor, Takes (Cursor.Next unclosedRed) 3 {} cursor ∧ cursor.phase = .dot ∧
      Cursor.GoesOn unclosedRed cursor) ∧
    ∃ readings, Takes (Advances {}) 1 [{ pattern := unclosedRed }] readings ∧ readings ≠ [] ∧
      ∃ next, Advances {} readings next := by
  have hopen : unclosedRed[8]? = some '{' := by decide
  obtain ⟨hoptions, hshorter, hcompile, -, hloop, -, hrun, -⟩ := reads_to_end {} unclosedRed
  refine ⟨hopen, ?_, ?_, ?_, ?_, ?_⟩
  · obtain ⟨options, stop, hread, -, -, hlt, -⟩ := hoptions 8 (by decide)
    exact ⟨options, stop, hread, hlt hopen⟩
  · have hspec : .specifier ⟨4, "%red\x7b%m\x7d".toList, .natural, "red".toList, ["%m".toList]⟩ ∈
        scan unclosedRed := by
      decide +kernel
    have hasks : Specifier.Asks
        ⟨4, "%red\x7b%m\x7d".toList, .natural, "red".toList, ["%m".toList]⟩ {} "%m".toList :=
      ⟨by decide, Builtin.namedStyle "Red" "red", [], rfl, .namedStyle "Red" "red" _ []⟩
    exact ⟨_, _, hspec, hasks, hshorter _ _ hspec hasks⟩
  · have honly : ∀ piece ∈ scan unclosedRed, ∀ option ∈ piece.options, option = "%m".toList := by
      decide +kernel
    refine hcompile compileMessage fun spec inner hspec hasks => ?_
    have hinner := honly _ hspec inner (Specifier.mem_options_of_asks hasks)
    rw [compileMessage, if_pos hinner]
  · have htakes : Takes (Cursor.Next unclosedRed) 3 {} { phase := .dot, place := 3, least := 5 } :=
      .next ⟨[], rfl⟩ (.next ⟨[], rfl⟩ (.next ⟨[], rfl⟩ (.done _)))
    exact ⟨_, htakes, rfl, (hloop _ _ htakes).2 (by decide)⟩
  · have htakes : Takes (Advances {}) 1 [{ pattern := unclosedRed }]
        [⟨unclosedRed, { phase := .flags, place := 1 }⟩] :=
      .next (.reads rfl (by simp)) (.done _)
    exact ⟨_, htakes, by simp, (hrun _ _ htakes).2.2 (by simp)⟩

end LogLine.Pattern
