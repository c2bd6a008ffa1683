/-
  Proofs/Text/Words.lean --- the words of a text.

  Words are the runs of characters between separators.  A separator parts the
  words before it from those after it, and all else follows from that one
  equation: what run of separators stands between two words does not matter, and
  a word is any run with nothing but separators next to it.

      Text.words_induction          texts by their first character
      Text.words_append_separator   the words around a separator
      Text.words_append             the same for texts that no word joins
      Text.mem_words_iff            what is a word of a text
      Text.hasWords_iff             what its words are, in their order
      Text.Respaced.words_eq        other separators in the same places
      Text.words_map                other characters in the same words
-/
import LogLine.Proofs.Lists
import LogLine.Text.Basic

set_option autoImplicit false

namespace LogLine.Text

section

variable {p : Char → Bool}

/-! ## One character -/

theorem words_cons_separator {c : Char} (hc : p c = true) (rest : Text) :
    words p (c :: rest) = words p rest := by
  rw [words.eq_def]
  exact if_pos hc

/-- A word of one character. -/
theorem words_cons_last {c : Char} {rest : Text} (hc : p c = false)
    (hrest : ∀ d ∈ rest.head?, p d = true) : words p (c :: rest) = [c] :: words p rest := by
  rw [words.eq_def]
  refine (if_neg (Bool.eq_false_iff.1 hc)).trans ?_
  cases rest with
  | nil => rfl
  | cons d rest => exact if_pos (hrest d rfl)

theorem words_cons_cons {c d : Char} (hc : p c = false) (hd : p d = false) (rest : Text) :
    words p (c :: d :: rest) = (words p (d :: rest)).modifyHead (c :: ·) := by
  rw [words.eq_def]
  exact (if_neg (Bool.eq_false_iff.1 hc)).trans (if_neg (Bool.eq_false_iff.1 hd))

/-- Texts by their first character: a separator, the last character of a word, or
one after which the word goes on. -/
@[elab_as_elim]
theorem words_induction (p : Char → Bool) {motive : Text → Prop} (nil : motive [])
    (separator : ∀ c rest, p c = true → motive rest → motive (c :: rest))
    (last : ∀ c rest, p c = false → (∀ d ∈ rest.head?, p d = true) → motive rest →
      motive (c :: rest))
    (within : ∀ c d rest, p c = false → p d = false → motive (d :: rest) →
      motive (c :: d :: rest)) (s : Text) : motive s := by
  induction s with
  | nil => exact nil
  | cons c s ih =>
    cases hc : p c with
    | true => exact separator c s hc ih
    | false =>
      cases s with
      | nil => exact last c [] hc (by simp) ih
      | cons d s =>
        cases hd : p d with
        | true => exact last c (d :: s) hc (by simpa using hd) ih
        | false => exact within c d s hc hd ih

theorem words_ne_nil {c : Char} (hc : p c = false) (rest : Text) : words p (c :: rest) ≠ [] := by
  induction rest generalizing c with
  | nil =>
    rw [words_cons_last hc (by simp)]
    exact List.cons_ne_nil _ _
  | cons d rest ih =>
    cases hd : p d with
    | true =>
      rw [words_cons_last hc (by simpa using hd)]
      exact List.cons_ne_nil _ _
    | false =>
      rw [words_cons_cons hc hd]
      exact fun hnil => ih hd (List.modifyHead_eq_nil_iff.1 hnil)

/-- A word that goes on, and those after it. -/
theorem exists_words_cons_cons {c d : Char} (hc : p c = false) (hd : p d = false) (rest : Text) :
    ∃ first others, words p (d :: rest) = first :: others ∧
      words p (c :: d :: rest) = (c :: first) :: others := by
  obtain ⟨first, others, hrest⟩ := List.exists_cons_of_ne_nil (words_ne_nil hd rest)
  refine ⟨first, others, hrest, ?_⟩
  rw [words_cons_cons hc hd, hrest]
  rfl

/-! ## Separators -/

/-- A separator parts the words before it from those after it. -/
theorem words_append_separator {c : Char} (hc : p c = true) (a b : Text) :
    words p (a ++ c :: b) = words p a ++ words p b := by
  induction a using words_induction p with
  | nil => exact words_cons_separator hc b
  | separator d a hd ih =>
    rw [List.cons_append, words_cons_separator hd, words_cons_separator hd, ih]
  | last d a hd ha ih =>
    have hnext : ∀ e ∈ (a ++ c :: b).head?, p e = true := by
      cases a with
      | nil => simpa using hc
      | cons e a => simpa using ha
    rw [List.cons_append, words_cons_last hd hnext, words_cons_last hd ha, ih]
    rfl
  | within d e a hd he ih =>
    obtain ⟨first, others, ha, hwords⟩ := exists_words_cons_cons hd he a
    rw [List.cons_append, List.cons_append, words_cons_cons hd he, hwords]
    rw [List.cons_append, ha] at ih
    rw [ih]
    rfl

/-- Whether no word joins the end of one text to the beginning of the next. -/
def Separated (p : Char → Bool) (a b : Text) : Prop :=
  (∀ c ∈ a.getLast?, p c = true) ∨ ∀ c ∈ b.head?, p c = true

theorem words_append {a b : Text} (h : Separated p a b) :
    words p (a ++ b) = words p a ++ words p b := by
  rcases h with hlast | hfirst
  · rcases List.eq_nil_or_concat a with rfl | ⟨front, c, rfl⟩
    · rfl
    · rw [List.concat_eq_append] at hlast ⊢
      have hc : p c = true := hlast c (by simp)
      have hfront : words p (front ++ [c]) = words p front := by
        rw [words_append_separator hc, words, List.append_nil]
      rw [hfront, List.append_assoc, List.singleton_append, words_append_separator hc]
  · cases b with
    | nil => rw [List.append_nil, words, List.append_nil]
    | cons c b =>
      have hc : p c = true := hfirst c rfl
      rw [words_append_separator hc, words_cons_separator hc]

/-- Some separators and nothing else. -/
structure IsGap (p : Char → Bool) (gap : Text) : Prop where
  ne_nil : gap ≠ []
  all : gap.all p = true

theorem words_append_gap {gap : Text} (h : IsGap p gap) (a b : Text) :
    words p (a ++ (gap ++ b)) = words p a ++ words p b := by
  have hgap : ∀ gap : Text, gap.all p = true → words p (gap ++ b) = words p b := by
    intro gap hall
    induction gap with
    | nil => rfl
    | cons c gap ih =>
      rw [List.all_cons, Bool.and_eq_true] at hall
      rw [List.cons_append, words_cons_separator hall.1, ih hall.2]
  obtain ⟨c, rest, rfl⟩ := List.exists_cons_of_ne_nil h.ne_nil
  have hall := h.all
  rw [List.all_cons, Bool.and_eq_true] at hall
  rw [List.cons_append, words_append_separator hall.1, hgap rest hall.2]

/-- The same text with other separators: each run of them may be another one. -/
inductive Respaced (p : Char → Bool) : Text → Text → Prop where
  | nil : Respaced p [] []
  | keep (c : Char) {s t : Text} (h : Respaced p s t) : Respaced p (c :: s) (c :: t)
  | gap {gap other s t : Text} (hgap : IsGap p gap) (hother : IsGap p other)
      (h : Respaced p s t) : Respaced p (gap ++ s) (other ++ t)

theorem Respaced.refl (s : Text) : Respaced p s s := by
  induction s with
  | nil => exact .nil
  | cons c s ih => exact .keep c ih

/-- The same words stand between other separators. -/
theorem Respaced.words_eq {s t : Text} (h : Respaced p s t) : words p s = words p t := by
  -- a word may have begun before the part that the induction looks at
  have hfront : ∀ front : Text, words p (front ++ s) = words p (front ++ t) := by
    induction h with
    | nil => exact fun _ => rfl
    | @keep c s t _ ih =>
      intro front
      have h := ih (front ++ [c])
      rwa [List.append_assoc, List.append_assoc] at h
    | @gap gap other s t hgap hother _ ih =>
      intro front
      rw [words_append_gap hgap, words_append_gap hother]
      exact congrArg (words p front ++ ·) (ih [])
  exact hfront []

/-! ## Single words -/

theorem words_word {name : Text} (hname : name ≠ []) (hfree : name.any p = false) :
    words p name = [name] := by
  induction name with
  | nil => exact absurd rfl hname
  | cons c name ih =>
    rw [List.any_cons, Bool.or_eq_false_iff] at hfree
    cases name with
    | nil => exact words_cons_last hfree.1 (by simp)
    | cons d name =>
      have hd : p d = false := (Bool.or_eq_false_iff.1 hfree.2).1
      rw [words_cons_cons hfree.1 hd, ih (List.cons_ne_nil _ _) hfree.2]
      rfl

/-- A run of other characters with nothing but separators next to it. -/
def IsWord (p : Char → Bool) (s name : Text) : Prop :=
  name ≠ [] ∧ name.any p = false ∧
    ∃ before after, s = before ++ (name ++ after) ∧ Separated p before name ∧
      Separated p name after

theorem Separated.append_cons_left {a b : Text} {c : Char} (hc : p c = true)
    (h : Separated p a b) (front : Text) : Separated p (front ++ c :: a) b := by
  rcases h with hlast | hfirst
  · left
    intro d hd
    rw [List.getLast?_append, List.getLast?_cons] at hd
    cases ha : a.getLast? with
    | none =>
      rw [ha] at hd
      obtain rfl : c = d := by simpa using hd
      exact hc
    | some e =>
      rw [ha] at hd
      obtain rfl : e = d := by simpa using hd
      exact hlast e ha
  · exact .inr hfirst

/-- The words of a text are those runs. -/
theorem mem_words_iff {s name : Text} : name ∈ words p s ↔ IsWord p s name := by
  constructor
  · intro h
    -- the first run is a word or empty, and the separator after it is passed over
    induction hlength : s.length using Nat.strongRecOn generalizing s with
    | ind n ih =>
      obtain ⟨first, rest, rfl, hfirst, hrest⟩ := exists_run (fun c => !p c) s
      have hfree : first.any p = false := by
        rw [List.any_eq_false]
        exact fun c hc => by simpa using hfirst c hc
      have hnext : ∀ c ∈ rest.head?, p c = true := fun c hc => by simpa using hrest c hc
      rw [words_append (.inr hnext), List.mem_append] at h
      rcases h with hname | hname
      · have hfirst : first ≠ [] := by
          rintro rfl
          cases hname
        rw [words_word hfirst hfree, List.mem_singleton] at hname
        subst hname
        exact ⟨hfirst, hfree, [], rest, rfl, .inl (by simp), .inr hnext⟩
      · cases rest with
        | nil => cases hname
        | cons c rest =>
          have hc : p c = true := hnext c rfl
          have hshorter : rest.length < n := by
            rw [← hlength, List.length_append, List.length_cons]
            omega
          rw [words_cons_separator hc] at hname
          obtain ⟨hne, hword, before, after, rfl, hbefore, hafter⟩ := ih _ hshorter hname rfl
          exact ⟨hne, hword, first ++ c :: before, after, by simp,
            hbefore.append_cons_left hc first, hafter⟩
  · rintro ⟨hne, hfree, before, after, rfl, hbefore, hafter⟩
    have hjoined : Separated p before (name ++ after) := by
      obtain ⟨c, rest, rfl⟩ := List.exists_cons_of_ne_nil hne
      exact hbefore
    rw [words_append hjoined, words_append hafter, words_word hne hfree]
    simp

/-- The words of a text in their order: runs of other characters, and separators
between them. -/
inductive HasWords (p : Char → Bool) : Text → List Text → Prop where
  | nil : HasWords p [] []
  | separator {c : Char} {s : Text} {names : List Text} (hc : p c = true)
      (h : HasWords p s names) : HasWords p (c :: s) names
  | word {name s : Text} {names : List Text} (hne : name ≠ []) (hfree : name.any p = false)
      (hnext : ∀ c ∈ s.head?, p c = true) (h : HasWords p s names) :
      HasWords p (name ++ s) (name :: names)

theorem HasWords.words_eq {s : Text} {names : List Text} (h : HasWords p s names) :
    words p s = names := by
  induction h with
  | nil => rfl
  | separator hc _ ih => rw [words_cons_separator hc, ih]
  | word hne hfree hnext _ ih =>
    rw [words_append (.inr hnext), words_word hne hfree, ih]
    rfl

/-- A word that goes on before the first one. -/
theorem HasWords.cons {c : Char} {s first : Text} {others : List Text} (hc : p c = false)
    (hs : ∀ d ∈ s.head?, p d = false) (h : HasWords p s (first :: others)) :
    HasWords p (c :: s) ((c :: first) :: others) := by
  cases h with
  | separator hd _ => exact absurd hd (Bool.eq_false_iff.1 (hs _ rfl))
  | word _ hfree hnext hrest =>
    have hfree : (c :: first).any p = false := by rw [List.any_cons, hc, hfree, Bool.or_false]
    exact .word (List.cons_ne_nil c first) hfree hnext hrest

theorem hasWords_words (s : Text) : HasWords p s (words p s) := by
  induction s using words_induction p with
  | nil => exact .nil
  | separator c s hc ih =>
    rw [words_cons_separator hc]
    exact .separator hc ih
  | last c s hc hs ih =>
    have hfree : [c].any p = false := by rw [List.any_cons, hc, List.any_nil, Bool.or_false]
    rw [words_cons_last hc hs]
    exact .word (List.cons_ne_nil c []) hfree hs ih
  | within c d s hc hd ih =>
    obtain ⟨first, others, hs, hwords⟩ := exists_words_cons_cons hc hd s
    rw [hs] at ih
    rw [hwords]
    exact ih.cons hc (by simpa using hd)

/-- The words in their order are what the text is split into. -/
theorem hasWords_iff {s : Text} {names : List Text} :
    HasWords p s names ↔ words p s = names :=
  ⟨HasWords.words_eq, fun h => h ▸ hasWords_words s⟩

/-! ## Other characters -/

/-- A change of characters that no separator comes from or goes to is a change of
the words. -/
theorem words_map {f : Char → Char} (hf : ∀ c, p (f c) = p c) (s : Text) :
    words p (s.map f) = (words p s).map (List.map f) := by
  induction s using words_induction p with
  | nil => rfl
  | separator c s hc ih =>
    rw [List.map_cons, words_cons_separator hc, words_cons_separator ((hf c).trans hc), ih]
  | last c s hc hs ih =>
    have hnext : ∀ d ∈ (s.map f).head?, p d = true := by
      cases s with
      | nil => simp
      | cons d s => simpa using (hf d).trans (hs d rfl)
    rw [List.map_cons, words_cons_last hc hs, words_cons_last ((hf c).trans hc) hnext, ih]
    rfl
  | within c d s hc hd ih =>
    obtain ⟨first, others, hs, hwords⟩ := exists_words_cons_cons hc hd s
    rw [List.map_cons, List.map_cons, words_cons_cons ((hf c).trans hc) ((hf d).trans hd), hwords]
    rw [List.map_cons, hs] at ih
    rw [ih]
    rfl

end

end LogLine.Text
