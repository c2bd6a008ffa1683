/-
  Proofs/Lists.lean --- runs and last places in a list, and values that may be
  missing or errors.

      exists_run             a list is a run and a rest that does not go on with it
      exists_last_of_mem     a list is cut at the last place of a member
      forall_mem_intercalate the members of joined lists
      eq_of_flatMap_eq       the parts of joined lists
      mapM_eq_some_iff       no value is missing
      mapM_eq_none_iff       some value is missing
      perm_filterMap_or      values of one of two kinds
      foldl_getLast?         the last step that gives a value
      map_eq_ok_iff          values are mapped
      map_eq_error_iff       errors are kept
-/
import Mathlib.Data.List.TakeWhile
import Mathlib.Data.List.Infix

set_option autoImplicit false

namespace LogLine

section

variable {α β : Type}

/-! ## Runs -/

theorem takeWhile_run {p : α → Bool} {run rest : List α} (hrun : ∀ c ∈ run, p c = true)
    (hrest : ∀ c ∈ rest.head?, p c = false) : (run ++ rest).takeWhile p = run := by
  rw [List.takeWhile_append_of_pos hrun]
  cases rest with
  | nil => simp
  | cons c rest => simp [hrest c rfl]

theorem dropWhile_run {p : α → Bool} {run rest : List α} (hrun : ∀ c ∈ run, p c = true)
    (hrest : ∀ c ∈ rest.head?, p c = false) : (run ++ rest).dropWhile p = rest := by
  rw [List.dropWhile_append_of_pos hrun]
  cases rest with
  | nil => rfl
  | cons c rest => simp [hrest c rfl]

/-- Every list is a run and a rest that does not go on with it. -/
theorem exists_run (p : α → Bool) (s : List α) :
    ∃ run rest, s = run ++ rest ∧ (∀ c ∈ run, p c = true) ∧ ∀ c ∈ rest.head?, p c = false := by
  refine ⟨s.takeWhile p, s.dropWhile p, List.takeWhile_append_dropWhile.symm, ?_, ?_⟩
  · exact fun c hc => List.mem_takeWhile_imp hc
  · intro c hc
    have := List.head?_dropWhile_not p s
    rw [Option.mem_def.1 hc] at this
    exact this

/-! ## Beginnings and last places -/

/-- What holds of every beginning of `c :: s` holds of the empty one and of
those that begin with `c`. -/
theorem forall_prefix_cons {P : List α → Prop} {c : α} {s : List α} :
    (∀ p, p <+: c :: s → P p) ↔ P [] ∧ ∀ p, p <+: s → P (c :: p) := by
  constructor
  · intro h
    exact ⟨h [] List.nil_prefix, fun p hp => h (c :: p) ((List.prefix_cons_inj c).2 hp)⟩
  · rintro ⟨hnil, hcons⟩ p hp
    rcases List.prefix_cons_iff.1 hp with rfl | ⟨t, rfl, ht⟩
    · exact hnil
    · exact hcons t ht

/-- A list is cut at the last place of a member. -/
theorem exists_last_of_mem [DecidableEq α] {m : α} {s : List α} (h : m ∈ s) :
    ∃ before after, s = before ++ m :: after ∧ m ∉ after := by
  induction s with
  | nil => cases h
  | cons c s ih =>
    by_cases hs : m ∈ s
    · obtain ⟨before, after, rfl, hafter⟩ := ih hs
      exact ⟨c :: before, after, rfl, hafter⟩
    · rcases List.mem_cons.1 h with rfl | h
      · exact ⟨[], s, rfl, hs⟩
      · exact absurd h hs

/-- What ends in a member has nothing after the last place of that member. -/
theorem eq_nil_of_append_singleton_eq {c : α} {front before after : List α}
    (h : front ++ [c] = before ++ c :: after) (hafter : c ∉ after) : after = [] := by
  rcases List.eq_nil_or_concat after with hnil | ⟨init, d, rfl⟩
  · exact hnil
  · have hlast := congrArg List.getLast? h
    simp only [List.concat_eq_append, ← List.cons_append, ← List.append_assoc,
      List.getLast?_append, List.getLast?_singleton, Option.some_or, Option.some.injEq] at hlast
    exact absurd (by simp [hlast]) hafter

/-- The members of joined lists are those of the lists and of the mark between
them. -/
theorem forall_mem_intercalate {P : α → Prop} {mark : List α} {lists : List (List α)}
    (hmark : ∀ a ∈ mark, P a) (h : ∀ l ∈ lists, ∀ a ∈ l, P a) :
    ∀ a ∈ mark.intercalate lists, P a := by
  induction lists with
  | nil => exact fun a ha => absurd ha List.not_mem_nil
  | cons first rest ih =>
    rw [List.forall_mem_cons] at h
    cases rest with
    | nil =>
      rw [List.intercalate_singleton]
      exact h.1
    | cons second rest =>
      rw [List.intercalate_cons_cons, List.forall_mem_append, List.forall_mem_append]
      exact ⟨⟨h.1, hmark⟩, ih h.2⟩

/-- Where the parts of two texts have the same lengths, the texts are the same
only if all parts are. -/
theorem eq_of_flatMap_eq {f g : α → List β} {l : List α}
    (hlength : ∀ a ∈ l, (f a).length = (g a).length) (h : l.flatMap f = l.flatMap g) :
    ∀ a ∈ l, f a = g a := by
  induction l with
  | nil => exact fun a ha => absurd ha List.not_mem_nil
  | cons first rest ih =>
    rw [List.forall_mem_cons] at hlength ⊢
    rw [List.flatMap_cons, List.flatMap_cons] at h
    obtain ⟨hfirst, hrest⟩ := List.append_inj h hlength.1
    exact ⟨hfirst, ih hlength.2 hrest⟩

/-! ## Values that may be missing -/

theorem mapM_cons_of_some {f : α → Option β} {a : α} {b : β} (h : f a = some b) (l : List α) :
    (a :: l).mapM f = (l.mapM f).map (b :: ·) := by
  rw [List.mapM_cons, h]
  cases l.mapM f <;> rfl

theorem mapM_cons_of_none {f : α → Option β} {a : α} (h : f a = none) (l : List α) :
    (a :: l).mapM f = none := by
  rw [List.mapM_cons, h]
  rfl

theorem mapM_eq_some_iff {f : α → Option β} {l : List α} {xs : List β} :
    l.mapM f = some xs ↔ l.map f = xs.map some := by
  induction l generalizing xs with
  | nil =>
    have hnil : ([] : List α).mapM f = some [] := rfl
    rw [hnil, Option.some.injEq, List.map_nil, eq_comm, @eq_comm _ [], List.map_eq_nil_iff]
  | cons a l ih =>
    cases ha : f a with
    | none =>
      rw [mapM_cons_of_none ha, List.map_cons, ha]
      cases xs <;> simp
    | some b =>
      rw [mapM_cons_of_some ha, Option.map_eq_some_iff, List.map_cons, ha]
      constructor
      · rintro ⟨ys, hys, rfl⟩
        rw [ih.1 hys, List.map_cons]
      · intro h
        cases xs with
        | nil => cases h
        | cons x xs =>
          rw [List.map_cons, List.cons.injEq, Option.some.injEq] at h
          exact ⟨xs, ih.2 h.2, by rw [h.1]⟩

/-- Where the values of one function are images of those of another, so are the
lists of them. -/
theorem mapM_eq_map_of_forall {f f' : α → Option β} {g : β → β} {l : List α}
    (h : ∀ a ∈ l, f' a = (f a).map g) : l.mapM f' = (l.mapM f).map (List.map g) := by
  induction l with
  | nil => rfl
  | cons a l ih =>
    rw [List.forall_mem_cons] at h
    cases ha : f a with
    | none =>
      have ha' : f' a = none := by rw [h.1, ha, Option.map_none]
      rw [mapM_cons_of_none ha, mapM_cons_of_none ha', Option.map_none]
    | some b =>
      have ha' : f' a = some (g b) := by rw [h.1, ha, Option.map_some]
      rw [mapM_cons_of_some ha, mapM_cons_of_some ha', ih h.2]
      cases l.mapM f <;> rfl

theorem mapM_eq_none_iff {f : α → Option β} {l : List α} :
    l.mapM f = none ↔ ∃ a ∈ l, f a = none := by
  induction l with
  | nil => simp
  | cons a l ih =>
    cases ha : f a with
    | none => simp [mapM_cons_of_none ha, ha]
    | some b =>
      rw [mapM_cons_of_some ha, Option.map_eq_none_iff, ih]
      simp [ha]

/-- Where at most one of two functions gives a value, the values of both are those
of the first that gives one, in some order. -/
theorem perm_filterMap_or {f g : α → Option β} (h : ∀ a, f a = none ∨ g a = none) (l : List α) :
    (l.filterMap f ++ l.filterMap g).Perm (l.filterMap fun a => (f a).or (g a)) := by
  induction l with
  | nil => exact .refl _
  | cons a l ih =>
    cases hf : f a with
    | some b =>
      have hg : g a = none := (h a).resolve_left (by rw [hf]; exact nofun)
      rw [List.filterMap_cons_some hf, List.filterMap_cons_none hg,
        List.filterMap_cons_some (b := b) (by rw [hf]; rfl), List.cons_append]
      exact ih.cons b
    | none =>
      cases hg : g a with
      | some b =>
        rw [List.filterMap_cons_none hf, List.filterMap_cons_some hg,
          List.filterMap_cons_some (b := b) (by rw [hf, hg]; rfl)]
        exact List.perm_middle.trans (ih.cons b)
      | none =>
        rw [List.filterMap_cons_none hf, List.filterMap_cons_none hg,
          List.filterMap_cons_none (by rw [hf, hg]; rfl)]
        exact ih

/-! ## Runs of steps -/

section

variable {σ : Type} {step : σ → α → σ}

/-- Where each step replaces a value or keeps it, the last one that replaces it
counts. -/
theorem foldl_getLast? {v : σ → β} {given : α → Option β}
    (h : ∀ state a, v (step state a) = (given a).getD (v state)) (state : σ) (l : List α) :
    v (l.foldl step state) = (l.filterMap given).getLast?.getD (v state) := by
  induction l generalizing state with
  | nil => rfl
  | cons a l ih =>
    rw [List.foldl_cons, ih, h]
    cases ha : given a with
    | none => rw [List.filterMap_cons_none ha, Option.getD_none]
    | some b =>
      rw [List.filterMap_cons_some ha, List.getLast?_cons, Option.getD_some, Option.getD_some]

/-- Where each step adds a value or none, all of them are there in order. -/
theorem foldl_append {v : σ → List β} {given : α → Option β}
    (h : ∀ state a, v (step state a) = v state ++ (given a).toList) (state : σ)
    (l : List α) : v (l.foldl step state) = v state ++ l.filterMap given := by
  induction l generalizing state with
  | nil => rw [List.filterMap_nil, List.append_nil, List.foldl_nil]
  | cons a l ih =>
    rw [List.foldl_cons, ih, h, List.append_assoc]
    cases ha : given a with
    | none => rw [List.filterMap_cons_none ha]; rfl
    | some b => rw [List.filterMap_cons_some ha]; rfl

/-- Where each step keeps a flag or takes it back, the flag stays if all keep it. -/
theorem foldl_all {v : σ → Bool} {keeps : α → Bool}
    (h : ∀ state a, v (step state a) = (v state && keeps a)) (state : σ) (l : List α) :
    v (l.foldl step state) = (v state && l.all keeps) := by
  induction l generalizing state with
  | nil => rw [List.all_nil, Bool.and_true, List.foldl_nil]
  | cons a l ih => rw [List.foldl_cons, ih, h, List.all_cons, Bool.and_assoc]

end

/-! ## Values or errors -/

theorem map_eq_error_iff {ε : Type} {f : α → β} {x : Except ε α} {error : ε} :
    x.map f = .error error ↔ x = .error error := by
  cases x <;> simp [Except.map]

theorem map_eq_ok_iff {ε : Type} {f : α → β} {x : Except ε α} {b : β} :
    x.map f = .ok b ↔ ∃ a, x = .ok a ∧ f a = b := by
  cases x <;> simp [Except.map]

/-- A value that can be decided for is there. -/
theorem eq_ok_of_toOption {ε : Type} {x : Except ε α} {a : α} (h : x.toOption = some a) :
    x = .ok a := by
  cases x with
  | error => cases h
  | ok b => exact congrArg Except.ok (Option.some.inj h)

theorem map_map {ε γ : Type} (x : Except ε α) (f : α → β) (g : β → γ) :
    (x.map f).map g = x.map fun a => g (f a) := by
  cases x <;> rfl

end

end LogLine
