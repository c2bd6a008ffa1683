/-
  Proofs/Record/SortedEntries.lean --- entries sorted by key.

  Sorted entries have each key once, in code point order.  Putting a value under a
  key keeps them sorted, and they are determined by the values of their keys:

      Entries.sorted_put           putting keeps the order
      Entries.Sorted.mem_iff       sorted entries are the values of their keys
      Entries.eq_of_sorted         sorted entries with the same values are the same
-/
import LogLine.Proofs.Text.TextOrder
import LogLine.Record.Entries

set_option autoImplicit false

namespace LogLine.Entries

/-- Entries in code point order of their keys, each key once. -/
def Sorted (entries : Entries) : Prop :=
  entries.Pairwise fun a b => Text.precedes a.1 b.1 = true

theorem valueOf?_nil (key : Text) : valueOf? [] key = none := rfl

theorem valueOf?_cons (entry : Entry) (rest : Entries) (key : Text) :
    valueOf? (entry :: rest) key = if entry.1 = key then some entry.2 else valueOf? rest key := by
  by_cases h : entry.1 = key
  · simp [valueOf?, h]
  · simp [valueOf?, h]

/-- Earlier entries count first. -/
theorem valueOf?_append (a b : Entries) (key : Text) :
    valueOf? (a ++ b) key = (valueOf? a key).or (valueOf? b key) := by
  induction a with
  | nil => rfl
  | cons entry rest ih =>
    rw [List.cons_append, valueOf?_cons, valueOf?_cons, ih]
    split <;> rfl

theorem valueOf?_eq_none_iff {entries : Entries} {key : Text} :
    valueOf? entries key = none ↔ ∀ entry ∈ entries, entry.1 ≠ key := by
  simp [valueOf?]

/-- Whether an entry is the first one with its key. -/
def IsFirst (entries : Entries) (entry : Entry) : Prop :=
  ∃ before after, entries = before ++ entry :: after ∧ ∀ earlier ∈ before, earlier.1 ≠ entry.1

theorem valueOf?_eq_some_iff {entries : Entries} {key value : Text} :
    valueOf? entries key = some value ↔ IsFirst entries (key, value) := by
  constructor
  · intro h
    obtain ⟨entry, hfound, rfl⟩ := Option.map_eq_some_iff.1 h
    obtain ⟨hkey, before, after, rfl, hbefore⟩ := List.find?_eq_some_iff_append.1 hfound
    obtain rfl := beq_iff_eq.1 hkey
    exact ⟨before, after, rfl, fun earlier hearlier => by simpa using hbefore earlier hearlier⟩
  · rintro ⟨before, after, rfl, hbefore⟩
    rw [valueOf?_append, valueOf?_eq_none_iff.2 hbefore, Option.none_or, valueOf?_cons, if_pos rfl]

theorem mem_put {key value : Text} {entries : Entries} {entry : Entry}
    (h : entry ∈ put key value entries) : entry = (key, value) ∨ entry ∈ entries := by
  induction entries with
  | nil => exact .inl (List.mem_singleton.1 h)
  | cons first rest ih =>
    unfold put at h
    split at h
    · exact (List.mem_cons.1 h).imp id (List.mem_cons_of_mem first)
    · split at h
      · exact List.mem_cons.1 h
      · rcases List.mem_cons.1 h with rfl | h
        · exact .inr List.mem_cons_self
        · exact (ih h).imp id (List.mem_cons_of_mem first)

theorem sorted_put {entries : Entries} (h : Sorted entries) (key value : Text) :
    Sorted (put key value entries) := by
  induction entries with
  | nil => exact List.pairwise_singleton _ _
  | cons first rest ih =>
    obtain ⟨hfirst, hrest⟩ := List.pairwise_cons.1 h
    unfold put
    split
    · rename_i hkey
      refine List.pairwise_cons.2 ⟨fun entry hentry => ?_, hrest⟩
      exact hkey ▸ hfirst entry hentry
    · rename_i hkey
      split
      · rename_i hbefore
        refine List.pairwise_cons.2 ⟨fun entry hentry => ?_, h⟩
        rcases List.mem_cons.1 hentry with rfl | hentry
        · exact hbefore
        · exact Text.precedes_trans hbefore (hfirst entry hentry)
      · rename_i hbefore
        have hafter : Text.precedes first.1 key = true :=
          ((Text.eq_or_precedes key first.1).resolve_left hkey).resolve_left hbefore
        refine List.pairwise_cons.2 ⟨fun entry hentry => ?_, ih hrest⟩
        rcases mem_put hentry with rfl | hentry
        · exact hafter
        · exact hfirst entry hentry

/-- No entry has a key that comes before that of the first one. -/
theorem Sorted.valueOf?_eq_none {first : Entry} {rest : Entries} (h : Sorted (first :: rest))
    {key : Text} (hkey : key = first.1 ∨ Text.precedes key first.1 = true) :
    valueOf? rest key = none := by
  refine valueOf?_eq_none_iff.2 fun entry hentry heq => ?_
  have hfirst := (List.pairwise_cons.1 h).1 entry hentry
  rw [heq] at hfirst
  rcases hkey with rfl | hkey
  · rw [Text.precedes_self] at hfirst
    cases hfirst
  · rw [Text.precedes_asymm hkey] at hfirst
    cases hfirst

/-- Of sorted entries each is the one that has its key. -/
theorem Sorted.mem_iff {entries : Entries} (h : Sorted entries) {entry : Entry} :
    entry ∈ entries ↔ valueOf? entries entry.1 = some entry.2 := by
  induction entries with
  | nil => simp [valueOf?_nil]
  | cons first rest ih =>
    obtain ⟨hfirst, hrest⟩ := List.pairwise_cons.1 h
    rw [List.mem_cons, valueOf?_cons]
    by_cases hkey : first.1 = entry.1
    · have hother : entry ∉ rest := by
        intro hentry
        have hbefore := hfirst entry hentry
        rw [hkey, Text.precedes_self] at hbefore
        cases hbefore
      rw [if_pos hkey, or_iff_left hother, Option.some.injEq, Prod.ext_iff,
        and_iff_right hkey.symm]
      exact eq_comm
    · have hother : entry ≠ first := by
        rintro rfl
        exact hkey rfl
      rw [if_neg hkey, or_iff_right hother, ih hrest]

/-- The first keys of sorted entries with the same values are the same: the one
that came first would be missing in the other. -/
theorem Sorted.not_precedes {first other : Entry} {rest more : Entries}
    (hother : Sorted (other :: more))
    (hvalue : valueOf? (first :: rest) first.1 = valueOf? (other :: more) first.1) :
    Text.precedes first.1 other.1 = false := by
  refine Bool.eq_false_iff.2 fun hbefore => ?_
  have hne : other.1 ≠ first.1 := by
    intro heq
    rw [heq, Text.precedes_self] at hbefore
    cases hbefore
  rw [valueOf?_cons, if_pos rfl, valueOf?_cons, if_neg hne,
    hother.valueOf?_eq_none (.inr hbefore)] at hvalue
  cases hvalue

/-- Sorted entries are determined by the values of their keys. -/
theorem eq_of_sorted {a b : Entries} (ha : Sorted a) (hb : Sorted b)
    (h : ∀ key, valueOf? a key = valueOf? b key) : a = b := by
  induction a generalizing b with
  | nil =>
    cases b with
    | nil => rfl
    | cons other more =>
      have hvalue := h other.1
      rw [valueOf?_nil, valueOf?_cons, if_pos rfl] at hvalue
      cases hvalue
  | cons first rest ih =>
    cases b with
    | nil =>
      have hvalue := h first.1
      rw [valueOf?_nil, valueOf?_cons, if_pos rfl] at hvalue
      cases hvalue
    | cons other more =>
      have hkey : first.1 = other.1 := by
        rcases Text.eq_or_precedes first.1 other.1 with heq | hbefore | hafter
        · exact heq
        · rw [hb.not_precedes (h first.1)] at hbefore
          cases hbefore
        · rw [ha.not_precedes (h other.1).symm] at hafter
          cases hafter
      have hvalue := h first.1
      rw [valueOf?_cons, if_pos rfl, valueOf?_cons, if_pos hkey.symm, Option.some.injEq] at hvalue
      have hrest : rest = more := by
        refine ih (List.pairwise_cons.1 ha).2 (List.pairwise_cons.1 hb).2 fun key => ?_
        by_cases hfirst : first.1 = key
        · rw [ha.valueOf?_eq_none (.inl hfirst.symm),
            hb.valueOf?_eq_none (.inl (hfirst.symm.trans hkey))]
        · have hother : other.1 ≠ key := fun heq => hfirst (hkey.trans heq)
          have hsame := h key
          rwa [valueOf?_cons, if_neg hfirst, valueOf?_cons, if_neg hother] at hsame
      rw [hrest, Prod.ext hkey hvalue]

end LogLine.Entries
