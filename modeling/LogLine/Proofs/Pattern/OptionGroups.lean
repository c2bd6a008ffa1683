/-
  Proofs/Pattern/OptionGroups.lean --- which texts are options, and what an
  unclosed group loses.

  WHAT AN OPTION IS.  The text between the braces of a group is one whose braces
  match: no beginning of it closes more braces than it opens, and all of it
  closes as many as it opens (`Balanced`).  Reading a group is exact in both
  directions:

      closeGroup_eq_some_iff     closed there  <->  balanced up to there

  WHERE READING GOES ON.  After the options there is either no brace, or one
  that nothing closes.  In the second case reading goes on after the last
  closing brace since the options began, so that the text in between is passed
  over.  `Skips` has one constructor for each way this can go:

      optionGroups_iff           the options, the text passed over, and the rest
-/
import LogLine.Pattern.Scanner
import LogLine.Proofs.Lists

set_option autoImplicit false

namespace LogLine.Pattern

/-! ## Texts whose braces match -/

/-- A text that closes `depth` braces more than it opens, and no beginning of
which closes more than that. -/
structure BalancedFrom (depth : Nat) (s : Text) : Prop where
  /-- No beginning closes more braces than are open there. -/
  bounded : ∀ p, p <+: s → p.count '}' ≤ depth + p.count '{'
  /-- The whole text closes all of them. -/
  closed : s.count '}' = depth + s.count '{'

/-- A text whose braces match. -/
abbrev Balanced (s : Text) : Prop := BalancedFrom 0 s

instance (depth : Nat) (s : Text) : Decidable (BalancedFrom depth s) :=
  decidable_of_iff
    ((∀ p ∈ s.inits, p.count '}' ≤ depth + p.count '{') ∧ s.count '}' = depth + s.count '{')
    ⟨fun h => ⟨fun p hp => h.1 p ((List.mem_inits p s).2 hp), h.2⟩,
      fun h => ⟨fun p hp => h.bounded p ((List.mem_inits p s).1 hp), h.closed⟩⟩

theorem balancedFrom_nil {depth : Nat} : BalancedFrom depth [] ↔ depth = 0 := by
  constructor
  · intro h
    simpa using h.closed.symm
  · rintro rfl
    exact ⟨fun p hp => by simp [List.prefix_nil.1 hp], rfl⟩

theorem balancedFrom_open {depth : Nat} {s : Text} :
    BalancedFrom depth ('{' :: s) ↔ BalancedFrom (depth + 1) s := by
  have opens : ∀ p : Text, ('{' :: p).count '}' = p.count '}' ∧
      ('{' :: p).count '{' = p.count '{' + 1 := fun p => by simp
  constructor
  · intro h
    have hb := (forall_prefix_cons.1 h.bounded).2
    refine ⟨fun p hp => ?_, ?_⟩
    · have := hb p hp
      rw [(opens p).1, (opens p).2] at this
      omega
    · have := h.closed
      rw [(opens s).1, (opens s).2] at this
      omega
  · intro h
    refine ⟨forall_prefix_cons.2 ⟨by simp, fun p hp => ?_⟩, ?_⟩
    · have := h.bounded p hp
      rw [(opens p).1, (opens p).2]
      omega
    · have := h.closed
      rw [(opens s).1, (opens s).2]
      omega

theorem balancedFrom_close {depth : Nat} {s : Text} :
    BalancedFrom depth ('}' :: s) ↔ ∃ below, depth = below + 1 ∧ BalancedFrom below s := by
  have closes : ∀ p : Text, ('}' :: p).count '}' = p.count '}' + 1 ∧
      ('}' :: p).count '{' = p.count '{' := fun p => by simp
  constructor
  · intro h
    have hb := (forall_prefix_cons.1 h.bounded).2
    have hpos : 1 ≤ depth := by simpa using hb [] List.nil_prefix
    refine ⟨depth - 1, by omega, fun p hp => ?_, ?_⟩
    · have := hb p hp
      rw [(closes p).1, (closes p).2] at this
      omega
    · have := h.closed
      rw [(closes s).1, (closes s).2] at this
      omega
  · rintro ⟨below, rfl, h⟩
    refine ⟨forall_prefix_cons.2 ⟨by simp, fun p hp => ?_⟩, ?_⟩
    · have := h.bounded p hp
      rw [(closes p).1, (closes p).2]
      omega
    · have := h.closed
      rw [(closes s).1, (closes s).2]
      omega

theorem balancedFrom_other {depth : Nat} {c : Char} {s : Text} (ho : c ≠ '{') (hc : c ≠ '}') :
    BalancedFrom depth (c :: s) ↔ BalancedFrom depth s := by
  have same : ∀ p : Text, (c :: p).count '}' = p.count '}' ∧
      (c :: p).count '{' = p.count '{' := fun p => by simp [ho, hc]
  constructor
  · intro h
    have hb := (forall_prefix_cons.1 h.bounded).2
    refine ⟨fun p hp => ?_, ?_⟩
    · have := hb p hp
      rwa [(same p).1, (same p).2] at this
    · have := h.closed
      rwa [(same s).1, (same s).2] at this
  · intro h
    refine ⟨forall_prefix_cons.2 ⟨by simp, fun p hp => ?_⟩, ?_⟩
    · rw [(same p).1, (same p).2]
      exact h.bounded p hp
    · rw [(same s).1, (same s).2]
      exact h.closed

/-- The braces of a text without braces match. -/
theorem balanced_of_not_mem {s : Text} (ho : '{' ∉ s) (hc : '}' ∉ s) : Balanced s where
  bounded p hp := by simp [List.count_eq_zero.2 fun hmem => hc (hp.subset hmem)]
  closed := by rw [List.count_eq_zero.2 ho, List.count_eq_zero.2 hc]

/-! ## Reading one group -/

theorem closeGroup_of_balancedFrom {depth : Nat} {option : Text} (rest : Text)
    (h : BalancedFrom depth option) :
    closeGroup depth (option ++ '}' :: rest) = some (option, rest) := by
  induction option generalizing depth with
  | nil =>
    obtain rfl := balancedFrom_nil.1 h
    simp [closeGroup]
  | cons c s ih =>
    rw [List.cons_append]
    unfold closeGroup
    by_cases ho : c = '{'
    · subst ho
      rw [if_pos rfl, ih (balancedFrom_open.1 h)]
      rfl
    · rw [if_neg ho]
      by_cases hc : c = '}'
      · subst hc
        obtain ⟨below, rfl, hb⟩ := balancedFrom_close.1 h
        simp [ih hb]
      · rw [if_neg hc, ih ((balancedFrom_other ho hc).1 h)]
        rfl

theorem balancedFrom_of_closeGroup {depth : Nat} {s option rest : Text}
    (h : closeGroup depth s = some (option, rest)) : BalancedFrom depth option := by
  induction s generalizing depth option with
  | nil => simp [closeGroup] at h
  | cons c s ih =>
    -- Every character but the closing brace itself joins the option found after it.
    have step : ∀ {depth' : Nat},
        (closeGroup depth' s).map (fun cut => (c :: cut.1, cut.2)) = some (option, rest) →
        ∃ tail, option = c :: tail ∧ BalancedFrom depth' tail := by
      intro depth' h'
      obtain ⟨cut, found, hcut⟩ := Option.map_eq_some_iff.1 h'
      simp only [Prod.mk.injEq] at hcut
      obtain ⟨rfl, rfl⟩ := hcut
      exact ⟨cut.1, rfl, ih found⟩
    unfold closeGroup at h
    by_cases ho : c = '{'
    · rw [if_pos ho] at h
      obtain ⟨tail, rfl, hb⟩ := step h
      rw [ho]
      exact balancedFrom_open.2 hb
    · rw [if_neg ho] at h
      by_cases hc : c = '}'
      · rw [if_pos hc] at h
        cases depth with
        | zero =>
          simp only [Option.some.injEq, Prod.mk.injEq] at h
          rw [← h.1]
          exact balancedFrom_nil.2 rfl
        | succ below =>
          obtain ⟨tail, rfl, hb⟩ := step h
          rw [hc]
          exact balancedFrom_close.2 ⟨below, rfl, hb⟩
      · rw [if_neg hc] at h
        obtain ⟨tail, rfl, hb⟩ := step h
        exact (balancedFrom_other ho hc).2 hb

/-- A group is closed where the text before has matching braces, and nowhere
else. -/
theorem closeGroup_eq_some_iff {depth : Nat} {s option rest : Text} :
    closeGroup depth s = some (option, rest) ↔
      BalancedFrom depth option ∧ s = option ++ '}' :: rest := by
  constructor
  · intro h
    exact ⟨balancedFrom_of_closeGroup h, (closeGroup_append h).symm⟩
  · rintro ⟨h, rfl⟩
    exact closeGroup_of_balancedFrom rest h

/-- A text that begins no closed group: it is not an option, a closing brace and
more. -/
def Unclosed (inside : Text) : Prop :=
  ∀ option rest, Balanced option → inside ≠ option ++ '}' :: rest

theorem closeGroup_eq_none_iff {inside : Text} : closeGroup 0 inside = none ↔ Unclosed inside := by
  constructor
  · intro h option rest hb heq
    have := closeGroup_eq_some_iff.2 ⟨hb, heq⟩
    rw [h] at this
    cases this
  · intro h
    cases found : closeGroup 0 inside with
    | none => rfl
    | some cut =>
      obtain ⟨hb, heq⟩ := closeGroup_eq_some_iff.1 found
      exact absurd heq (h cut.1 cut.2 hb)

theorem unclosed_of_not_mem {inside : Text} (h : '}' ∉ inside) : Unclosed inside := by
  intro option rest _ heq
  exact h (by simp [heq])

/-! ## Where reading goes on -/

/-- An option between its braces. -/
def braced (option : Text) : Text := '{' :: option ++ ['}']

theorem length_braced (option : Text) : (braced option).length = option.length + 2 := by
  simp [braced]

/-- Groups take more characters than any of their options. -/
theorem length_lt_flatMap_braced {options : List Text} {option : Text} (h : option ∈ options) :
    option.length + 1 < (options.flatMap braced).length := by
  obtain ⟨front, back, rfl⟩ := List.append_of_mem h
  rw [List.flatMap_append, List.flatMap_cons, List.length_append, List.length_append, length_braced]
  omega

/-- What is passed over after the options of a specifier: the text `skipped`
stands between the options and `rest`, with which reading goes on. -/
inductive Skips (options : List Text) : (skipped rest : Text) → Prop where
  /-- No brace follows. -/
  | nothing {rest : Text} (h : rest.head? ≠ some '{') : Skips options [] rest
  /-- A brace follows that nothing closes, but the last option was closed: the
  brace stays in the text. -/
  | kept {inside : Text} (hopt : options ≠ []) (hin : '}' ∉ inside) :
      Skips options [] ('{' :: inside)
  /-- A brace follows that nothing closes, and no brace was closed before it: it
  is passed over. -/
  | brace {inside : Text} (hopt : options = []) (hin : '}' ∉ inside) :
      Skips options ['{'] inside
  /-- A group begins that is not closed, though braces inside it are: all is
  passed over through the last of those. -/
  | group {before rest : Text} (hun : Unclosed (before ++ '}' :: rest)) (hin : '}' ∉ rest) :
      Skips options ('{' :: before ++ ['}']) rest

theorem isPrefixOf?_singleton (m c : Char) (s : Text) :
    [m].isPrefixOf? (c :: s) = if m = c then some s else none :=
  Text.isPrefixOf?_cons_cons m c [] s

theorem cutAtLast_eq_none {m : Char} {s : Text} (h : m ∉ s) : Text.cutAtLast [m] s = none := by
  induction s with
  | nil => simp [Text.cutAtLast]
  | cons c s ih =>
    rw [List.mem_cons, not_or] at h
    simp [Text.cutAtLast, ih h.2, isPrefixOf?_singleton, h.1]

theorem cutAtLast_append {m : Char} {before after : Text} (h : m ∉ after) :
    Text.cutAtLast [m] (before ++ m :: after) = some (before, after) := by
  induction before with
  | nil => simp [Text.cutAtLast, cutAtLast_eq_none h, isPrefixOf?_singleton]
  | cons c before ih => simp [Text.cutAtLast, ih]

theorem resumption_of_mem {start before rest inside : Text}
    (h : start = before ++ '}' :: rest) (hin : '}' ∉ rest) : resumption start inside = rest := by
  subst h
  simp [resumption, cutAtLast_append hin]

theorem resumption_of_not_mem {start inside : Text} (h : '}' ∉ start) :
    resumption start inside = inside := by
  simp [resumption, cutAtLast_eq_none h]

/-- The text of some options ends in a closing brace. -/
theorem exists_flatMap_braced_eq {options : List Text} (h : options ≠ []) :
    ∃ before, options.flatMap braced = before ++ ['}'] := by
  obtain ⟨front, last, rfl⟩ := List.eq_nil_or_concat options |>.resolve_left h
  exact ⟨front.flatMap braced ++ '{' :: last, by simp [braced]⟩

/-! ## Reading all groups -/

theorem optionGroups_braced {start option s : Text} (h : Balanced option) :
    optionGroups start (braced option ++ s) =
      (option :: (optionGroups start s).1, (optionGroups start s).2) := by
  have found : closeGroup 0 (option ++ '}' :: s) = some (option, s) :=
    closeGroup_of_balancedFrom s h
  have split : braced option ++ s = '{' :: (option ++ '}' :: s) := by simp [braced]
  rw [split, optionGroups.eq_def]
  simp only [if_true]
  split
  · rename_i first after found'
    rw [found, Option.some.injEq, Prod.mk.injEq] at found'
    obtain ⟨rfl, rfl⟩ := found'
    rfl
  · rename_i missing
    rw [found] at missing
    cases missing

theorem optionGroups_flatMap {start s : Text} {options : List Text}
    (h : ∀ option ∈ options, Balanced option) :
    optionGroups start (options.flatMap braced ++ s) =
      (options ++ (optionGroups start s).1, (optionGroups start s).2) := by
  induction options with
  | nil => rfl
  | cons option options ih =>
    have hopt := h option List.mem_cons_self
    have hrest := ih fun o ho => h o (List.mem_cons_of_mem _ ho)
    rw [List.flatMap_cons, List.append_assoc, optionGroups_braced hopt, hrest]
    rfl

theorem optionGroups_of_head {start s : Text} (h : s.head? ≠ some '{') :
    optionGroups start s = ([], s) := by
  cases s with
  | nil => simp [optionGroups]
  | cons c s =>
    have hc : c ≠ '{' := fun e => h (by rw [e]; rfl)
    simp [optionGroups, hc]

theorem optionGroups_of_unclosed {start inside : Text} (h : Unclosed inside) :
    optionGroups start ('{' :: inside) = ([], resumption start inside) := by
  rw [optionGroups.eq_def]
  simp only [if_true]
  split
  · rename_i option after found
    rw [closeGroup_eq_none_iff.2 h] at found
    cases found
  · rfl

/-- A text that does not begin with an option between its braces. -/
def BeginsNoGroup (s : Text) : Prop :=
  ∀ option rest, Balanced option → s ≠ braced option ++ rest

theorem beginsNoGroup_of_head {s : Text} (h : s.head? ≠ some '{') : BeginsNoGroup s := by
  rintro option rest _ rfl
  exact h rfl

theorem beginsNoGroup_open_iff {inside : Text} :
    BeginsNoGroup ('{' :: inside) ↔ Unclosed inside := by
  have split : ∀ option rest : Text,
      '{' :: inside = braced option ++ rest ↔ inside = option ++ '}' :: rest := by
    intro option rest
    simp [braced]
  simp only [BeginsNoGroup, Unclosed, ne_eq, split]

/-- The options are read as long as groups are closed. -/
theorem optionGroups_sound (start s : Text) :
    ∃ tail, s = (optionGroups start s).1.flatMap braced ++ tail ∧
      (∀ option ∈ (optionGroups start s).1, Balanced option) ∧ BeginsNoGroup tail := by
  fun_induction optionGroups start s with
  | case1 => exact ⟨[], rfl, by simp, beginsNoGroup_of_head (by simp)⟩
  | case2 rest option after found more ih =>
    obtain ⟨hb, hrest⟩ := closeGroup_eq_some_iff.1 found
    obtain ⟨tail, htail, hall, hend⟩ := ih
    refine ⟨tail, ?_, ?_, hend⟩
    · rw [hrest, List.flatMap_cons, List.append_assoc, ← htail]
      simp [braced]
    · intro o ho
      rcases List.mem_cons.1 ho with rfl | ho
      · exact hb
      · exact hall o ho
  | case3 rest missing =>
    exact ⟨'{' :: rest, rfl, by simp, beginsNoGroup_open_iff.2 (closeGroup_eq_none_iff.1 missing)⟩
  | case4 c rest hc =>
    exact ⟨c :: rest, rfl, by simp, beginsNoGroup_of_head (by simpa using hc)⟩

/-- What follows the last option says what is passed over. -/
theorem exists_skips (options : List Text) {tail : Text} (h : BeginsNoGroup tail) :
    ∃ skipped rest, tail = skipped ++ rest ∧ Skips options skipped rest := by
  by_cases hhead : tail.head? = some '{'
  · obtain ⟨inside, rfl⟩ := List.head?_eq_some_iff.1 hhead
    by_cases hin : '}' ∈ inside
    · obtain ⟨before, rest, rfl, hrest⟩ := exists_last_of_mem hin
      exact ⟨'{' :: before ++ ['}'], rest, by simp, .group (beginsNoGroup_open_iff.1 h) hrest⟩
    · by_cases hopt : options = []
      · exact ⟨['{'], inside, rfl, .brace hopt hin⟩
      · exact ⟨[], '{' :: inside, rfl, .kept hopt hin⟩
  · exact ⟨[], tail, rfl, .nothing hhead⟩

theorem optionGroups_of_skips {options : List Text} {skipped rest : Text}
    (hall : ∀ option ∈ options, Balanced option) (hskip : Skips options skipped rest) :
    optionGroups (options.flatMap braced ++ skipped ++ rest)
      (options.flatMap braced ++ skipped ++ rest) = (options, rest) := by
  generalize hs : options.flatMap braced ++ skipped ++ rest = s
  have key : optionGroups s (options.flatMap braced ++ (skipped ++ rest)) =
      (options ++ (optionGroups s (skipped ++ rest)).1,
        (optionGroups s (skipped ++ rest)).2) := optionGroups_flatMap hall
  rw [← List.append_assoc, hs] at key
  rw [key]
  cases hskip with
  | nothing h => simp [optionGroups_of_head h]
  | @kept inside hopt hin =>
    -- the last closing brace is that of the last option
    obtain ⟨before, hbefore⟩ := exists_flatMap_braced_eq hopt
    have hres : resumption s inside = '{' :: inside :=
      resumption_of_mem (by rw [← hs, hbefore, List.append_nil, List.append_assoc]; rfl)
        (by simpa using hin)
    rw [List.nil_append, optionGroups_of_unclosed (unclosed_of_not_mem hin), hres,
      List.append_nil]
  | brace hopt hin =>
    subst hopt
    have hres : resumption s rest = rest :=
      resumption_of_not_mem (by rw [← hs]; simpa using hin)
    rw [List.singleton_append, optionGroups_of_unclosed (unclosed_of_not_mem hin), hres]
    rfl
  | @group before _ hun hin =>
    -- the last closing brace stands inside the group that is not closed
    have split : '{' :: before ++ ['}'] ++ rest = '{' :: (before ++ '}' :: rest) := by simp
    have hstart : s = options.flatMap braced ++ '{' :: before ++ '}' :: rest := by
      rw [← hs]
      simp
    have hres : resumption s (before ++ '}' :: rest) = rest := resumption_of_mem hstart hin
    rw [split, optionGroups_of_unclosed hun, hres, List.append_nil]

/-- The options at the beginning of a text, the text passed over after them, and
the rest with which reading goes on. -/
theorem optionGroups_iff {s rest : Text} {options : List Text} :
    optionGroups s s = (options, rest) ↔
      ∃ skipped, s = options.flatMap braced ++ skipped ++ rest ∧
        (∀ option ∈ options, Balanced option) ∧ Skips options skipped rest := by
  constructor
  · intro h
    obtain ⟨tail, hs, hall, hend⟩ := optionGroups_sound s s
    simp only [h] at hs hall
    obtain ⟨skipped, rest', rfl, hskip⟩ := exists_skips options hend
    have hread := optionGroups_of_skips hall hskip
    rw [List.append_assoc, ← hs, h, Prod.mk.injEq] at hread
    obtain ⟨_, rfl⟩ := hread
    exact ⟨skipped, by rw [List.append_assoc, ← hs], hall, hskip⟩
  · rintro ⟨skipped, rfl, hall, hskip⟩
    exact optionGroups_of_skips hall hskip

/-! ## Braces that are not closed -/

/-- In a text that begins no closed group, no beginning closes more braces than
it opens. -/
theorem count_le_of_closeGroup_eq_none {depth : Nat} {p s : Text}
    (h : closeGroup depth (p ++ s) = none) : p.count '}' ≤ depth + p.count '{' := by
  induction p generalizing depth with
  | nil => simp
  | cons c p ih =>
    rw [List.cons_append] at h
    unfold closeGroup at h
    by_cases ho : c = '{'
    · rw [if_pos ho, Option.map_eq_none_iff] at h
      have := ih h
      simp only [ho, List.count_cons_self, List.count_cons_of_ne (show '{' ≠ '}' by decide)]
      omega
    · rw [if_neg ho] at h
      by_cases hc : c = '}'
      · rw [if_pos hc] at h
        cases depth with
        | zero => cases h
        | succ below =>
          have := ih (Option.map_eq_none_iff.1 h)
          simp only [hc, List.count_cons_self, List.count_cons_of_ne (show '}' ≠ '{' by decide)]
          omega
      · rw [if_neg hc, Option.map_eq_none_iff] at h
        have := ih h
        rwa [List.count_cons_of_ne ho, List.count_cons_of_ne hc]

theorem count_flatMap_braced {options : List Text} (h : ∀ option ∈ options, Balanced option) :
    (options.flatMap braced).count '}' = (options.flatMap braced).count '{' := by
  induction options with
  | nil => rfl
  | cons option options ih =>
    have hopt := (h option List.mem_cons_self).closed
    have hrest := ih fun o ho => h o (List.mem_cons_of_mem _ ho)
    have hfirst : ∀ c, (braced option).count c =
        (['{', '}'].count c) + option.count c := by
      intro c
      simp only [braced, List.count_append, List.count_cons, List.count_nil, List.cons_append]
      omega
    rw [List.flatMap_cons, List.count_append, List.count_append, hfirst, hfirst, hrest, hopt]
    simp

/-- Text that is passed over opens more braces than it closes. -/
theorem count_lt_of_skips {options : List Text} {skipped rest : Text}
    (h : Skips options skipped rest) (hne : skipped ≠ []) :
    skipped.count '}' < skipped.count '{' := by
  cases h with
  | nothing => exact absurd rfl hne
  | kept => exact absurd rfl hne
  | brace => decide
  | @group before _ hun hin =>
    have hun' : Unclosed (before ++ ['}'] ++ rest) := by simpa using hun
    have hle := count_le_of_closeGroup_eq_none (closeGroup_eq_none_iff.2 hun')
    rw [List.cons_append, List.count_cons_self, List.count_cons_of_ne (by decide)]
    omega

end LogLine.Pattern
