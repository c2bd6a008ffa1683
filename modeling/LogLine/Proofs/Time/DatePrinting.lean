/-
  Proofs/Time/DatePrinting.lean --- date patterns that are printed and read, and
  those that are refused.

  A field is printed as a run of one of its letters, and literal text between
  quotes, with two quotes for each one of its own.  Where no two tokens that stand
  beside each other are of one kind, what is printed is read as the same tokens.
  A quote opens or closes quoted text, and two in a row do both, so what stands
  outside quotes is seen from the number of quotes before it:

      DatePattern.quotedText_eq_some_iff   quoted text
      DatePattern.tokens_of_printed        reading what was printed
      DatePattern.tokens_eq_error_iff      when a pattern is refused
      DatePattern.merged_of_tokens         literal text of patterns that are read
-/
import Mathlib.Data.List.Chain
import LogLine.Proofs.Lists
import LogLine.Time.DatePattern

set_option autoImplicit false

namespace LogLine

namespace DatePattern

/-! ## Quoted text -/

/-- A text with two quotes for each quote of it. -/
def doubled : Text → Text
  | [] => []
  | c :: rest => if c = '\'' then '\'' :: '\'' :: doubled rest else c :: doubled rest

theorem quotedText_quote {rest : Text} (h : rest.head? ≠ some '\'') :
    quotedText ('\'' :: rest) = some ([], rest) := by
  cases rest with
  | nil => rfl
  | cons c rest =>
    have hc : c ≠ '\'' := fun heq => h (by rw [heq]; rfl)
    rw [quotedText]
    · exact nofun
    · rintro tail heq
      exact hc (List.cons.inj heq).1

theorem quotedText_pair (rest : Text) :
    quotedText ('\'' :: '\'' :: rest) =
      (quotedText rest).map fun cut => ('\'' :: cut.1, cut.2) := by
  rw [quotedText]

theorem quotedText_cons {c : Char} (h : c ≠ '\'') (rest : Text) :
    quotedText (c :: rest) = (quotedText rest).map fun cut => (c :: cut.1, cut.2) := by
  rw [quotedText]
  · exact fun heq _ => h heq
  · exact fun _ heq _ => h heq
  · exact h

/-- Quoted text goes up to the first quote that stands alone. -/
theorem quotedText_eq_some_iff {s text after : Text} :
    quotedText s = some (text, after) ↔
      s = doubled text ++ '\'' :: after ∧ after.head? ≠ some '\'' := by
  constructor
  · intro h
    fun_induction quotedText s generalizing text with
    | case1 => cases h
    | case2 =>
      cases h
      exact ⟨rfl, (Option.some_ne_none _).symm⟩
    | case3 tail ih =>
      obtain ⟨cut, hfound, heq⟩ := Option.map_eq_some_iff.1 h
      cases heq
      obtain ⟨rfl, hafter⟩ := ih hfound
      exact ⟨rfl, hafter⟩
    | case4 rest hne hnext =>
      cases h
      refine ⟨rfl, fun hhead => ?_⟩
      obtain ⟨tail, rfl⟩ := List.head?_eq_some_iff.1 hhead
      exact hnext tail rfl
    | case5 c tail _ _ hc ih =>
      obtain ⟨cut, hfound, heq⟩ := Option.map_eq_some_iff.1 h
      cases heq
      obtain ⟨rfl, hafter⟩ := ih hfound
      exact ⟨by rw [doubled, if_neg hc, List.cons_append], hafter⟩
  · rintro ⟨rfl, hafter⟩
    induction text with
    | nil => exact quotedText_quote hafter
    | cons c text ih =>
      rw [doubled]
      split
      · rename_i hc
        rw [List.cons_append, List.cons_append, quotedText_pair, ih, hc]
        rfl
      · rename_i hc
        rw [List.cons_append, quotedText_cons hc, ih]
        rfl

/-- Quoted text that is never closed has its quotes in pairs. -/
theorem exists_of_quotedText_eq_none {s : Text} (h : quotedText s = none) :
    ∃ text, s = doubled text := by
  fun_induction quotedText s with
  | case1 => exact ⟨[], rfl⟩
  | case2 => cases h
  | case3 tail ih =>
    obtain ⟨text, rfl⟩ := ih (Option.map_eq_none_iff.1 h)
    exact ⟨'\'' :: text, rfl⟩
  | case4 => cases h
  | case5 c tail _ _ hc ih =>
    obtain ⟨text, rfl⟩ := ih (Option.map_eq_none_iff.1 h)
    exact ⟨c :: text, by rw [doubled, if_neg hc]⟩

theorem count_doubled (text : Text) : (doubled text).count '\'' = 2 * text.count '\'' := by
  induction text with
  | nil => rfl
  | cons c text ih =>
    rw [doubled]
    split
    · rename_i hc
      rw [hc, List.count_cons_self, List.count_cons_self, List.count_cons_self, ih]
      omega
    · rename_i hc
      rw [List.count_cons_of_ne hc, List.count_cons_of_ne hc, ih]

/-! ## One step of reading -/

theorem tokens_pair (rest : Text) :
    tokens ('\'' :: '\'' :: rest) = (tokens rest).map (prepend ['\'']) := by
  rw [tokens, if_pos rfl, if_pos List.head?_cons, List.tail_cons]

theorem tokens_quoted {rest text after : Text} (hnext : rest.head? ≠ some '\'')
    (h : quotedText rest = some (text, after)) :
    tokens ('\'' :: rest) = (tokens after).map (prepend text) := by
  rw [tokens, if_pos rfl, if_neg hnext]
  split
  · rename_i hnone
    rw [h] at hnone
    cases hnone
  · rename_i hsome
    rw [h] at hsome
    cases hsome
    rfl

/-- The letters that stand for fields. -/
def fieldLetters : Text := "yuMLdHhmsSEaZXxz".toList

theorem mem_fieldLetters_of_ofLetter? {c : Char} {field : DateField}
    (h : DateField.ofLetter? c = some field) : c ∈ fieldLetters := by
  unfold DateField.ofLetter? at h
  split at h
  all_goals first
    | decide
    | cases h

theorem ofLetter?_eq_none_iff {c : Char} : DateField.ofLetter? c = none ↔ c ∉ fieldLetters := by
  constructor
  · intro h hmem
    have hall : ∀ c ∈ fieldLetters, (DateField.ofLetter? c).isSome = true :=
      List.all_eq_true.1 (by decide)
    have hsome := hall c hmem
    rw [h] at hsome
    cases hsome
  · intro h
    cases hfield : DateField.ofLetter? c with
    | none => rfl
    | some field => exact absurd (mem_fieldLetters_of_ofLetter? hfield) h

theorem exists_ofLetter? (field : DateField) : ∃ c, DateField.ofLetter? c = some field := by
  have hall : (fieldLetters.filterMap DateField.ofLetter?).contains field = true := by
    cases field <;> rfl
  obtain ⟨c, -, hc⟩ := List.mem_filterMap.1 (List.contains_iff_mem.1 hall)
  exact ⟨c, hc⟩

theorem isAlpha_of_ofLetter? {c : Char} {field : DateField}
    (h : DateField.ofLetter? c = some field) : c.isAlpha = true ∧ c ≠ '\'' := by
  unfold DateField.ofLetter? at h
  split at h
  all_goals first
    | decide
    | cases h

/-- A whole run of a letter is a field. -/
theorem tokens_run {c : Char} {field : DateField} (h : DateField.ofLetter? c = some field)
    (width : Nat) {rest : Text} (hrest : ∀ d ∈ rest.head?, (d == c) = false) :
    tokens (List.replicate (width + 1) c ++ rest) =
      (tokens rest).map (.field field (width + 1) :: ·) := by
  obtain ⟨halpha, hquote⟩ := isAlpha_of_ofLetter? h
  have hrun : ∀ d ∈ List.replicate width c, (d == c) = true := by
    intro d hd
    exact beq_iff_eq.2 (List.eq_of_mem_replicate hd)
  rw [List.replicate_succ, List.cons_append, tokens, if_neg hquote, if_pos halpha, h]
  simp only [takeWhile_run hrun hrest, dropWhile_run hrun hrest, List.length_replicate]

end DatePattern

/-! ## Printing -/

namespace DateToken

/-- Tokens that take up room in a pattern. -/
def NotEmpty : DateToken → Prop
  | .literal text => text ≠ []
  | .field _ width => 1 ≤ width

/-- Whether two tokens are both literal or show the same field. -/
def sameKind : DateToken → DateToken → Bool
  | .literal _, .literal _ => true
  | .field a _, .field b _ => a == b
  | _, _ => false

/-- Whether a token is literal text. -/
def isLiteral : DateToken → Bool
  | .literal _ => true
  | .field _ _ => false

/-- The characters that a token may begin with where it is printed. -/
def BeginsWith (c : Char) : DateToken → Prop
  | .literal _ => c = '\''
  | .field shown _ => DateField.ofLetter? c = some shown

end DateToken

namespace DatePattern

/-- Literal text as it is printed: two quotes for each quote at its beginning, and
the rest, if there is one, between quotes, with two quotes for each one in it. -/
def printLiteral : Text → Text
  | [] => []
  | c :: rest =>
    if c = '\'' then '\'' :: '\'' :: printLiteral rest
    else '\'' :: (doubled (c :: rest) ++ ['\''])

/-- The texts that tokens may be printed as: a field is a run of any letter that
stands for it. -/
inductive Printed : List DateToken → Text → Prop
  | nil : Printed [] []
  | literal (text : Text) {rest : List DateToken} {s : Text} (hrest : Printed rest s) :
    Printed (.literal text :: rest) (printLiteral text ++ s)
  | field {letter : Char} {shown : DateField} (hletter : DateField.ofLetter? letter = some shown)
    (width : Nat) {rest : List DateToken} {s : Text} (hrest : Printed rest s) :
    Printed (.field shown width :: rest) (List.replicate width letter ++ s)

/-- All tokens can be printed. -/
theorem exists_printed (list : List DateToken) : ∃ s, Printed list s := by
  induction list with
  | nil => exact ⟨[], .nil⟩
  | cons token rest ih =>
    obtain ⟨s, hrest⟩ := ih
    cases token with
    | literal text => exact ⟨_, .literal text hrest⟩
    | field shown width =>
      obtain ⟨letter, hletter⟩ := exists_ofLetter? shown
      exact ⟨_, .field hletter width hrest⟩

/-- Tokens that take up room, no two of a kind beside each other. -/
structure Printable (list : List DateToken) : Prop where
  notEmpty : ∀ token ∈ list, token.NotEmpty
  apart : list.IsChain fun a b => a.sameKind b = false

theorem Printable.tail {token : DateToken} {rest : List DateToken}
    (h : Printable (token :: rest)) : Printable rest :=
  ⟨fun other hother => h.notEmpty other (List.mem_cons_of_mem token hother),
    (List.isChain_cons.1 h.apart).2⟩

/-- The first character that is printed is one of the first token. -/
theorem Printed.exists_beginsWith {list : List DateToken} {s : Text} (h : Printed list s)
    (hlist : Printable list) {c : Char} (hc : s.head? = some c) :
    ∃ token ∈ list.head?, token.BeginsWith c := by
  cases h with
  | nil => cases hc
  | literal text hrest =>
    refine ⟨_, rfl, ?_⟩
    cases text with
    | nil => exact absurd rfl (hlist.notEmpty _ List.mem_cons_self)
    | cons d text =>
      rw [printLiteral] at hc
      split at hc
      · exact (Option.some.inj hc).symm
      · exact (Option.some.inj hc).symm
  | field hletter width hrest =>
    refine ⟨_, rfl, ?_⟩
    have hpos : 1 ≤ width := hlist.notEmpty _ List.mem_cons_self
    obtain ⟨n, rfl⟩ := Nat.exists_eq_add_of_le' hpos
    rw [List.replicate_succ, List.cons_append, List.head?_cons, Option.some.injEq] at hc
    exact hc ▸ hletter

theorem prepend_prepend (a b : Text) (list : List DateToken) :
    prepend a (prepend b list) = prepend (a ++ b) list := by
  unfold prepend
  split
  · rename_i heq
    split at heq
    · cases heq
      simp only [List.append_assoc]
    · cases heq
      rfl
  · rename_i hne
    split at hne
    · exact absurd rfl (hne _ _)
    · exact absurd rfl (hne _ _)

/-- Printed literal text is read as itself, if what follows is no quote. -/
theorem tokens_printLiteral {text s : Text} (hne : text ≠ []) (hs : s.head? ≠ some '\'') :
    tokens (printLiteral text ++ s) = (tokens s).map (prepend text) := by
  induction text with
  | nil => exact absurd rfl hne
  | cons c rest ih =>
    rw [printLiteral]
    split
    · rename_i hc
      subst hc
      rw [List.cons_append, List.cons_append, tokens_pair]
      cases rest with
      | nil => rfl
      | cons d rest =>
        rw [ih (List.cons_ne_nil d rest), map_map]
        simp only [prepend_prepend, List.singleton_append]
    · rename_i hc
      have hquoted : quotedText (doubled (c :: rest) ++ '\'' :: s) = some (c :: rest, s) :=
        quotedText_eq_some_iff.2 ⟨rfl, hs⟩
      have hnext : (doubled (c :: rest) ++ '\'' :: s).head? ≠ some '\'' := by
        rw [doubled, if_neg hc]
        exact fun heq => hc (Option.some.inj heq)
      rw [List.cons_append, List.append_assoc, List.singleton_append, tokens_quoted hnext hquoted]

/-- What is printed is read as the tokens it was printed from. -/
theorem tokens_of_printed {list : List DateToken} {s : Text} (h : Printed list s)
    (hlist : Printable list) : tokens s = .ok list := by
  induction h with
  | nil => rw [tokens]
  | @literal text rest s hrest ih =>
    have happart := (List.isChain_cons.1 hlist.apart).1
    have hnext : s.head? ≠ some '\'' := by
      intro hquote
      obtain ⟨token, htoken, hbegins⟩ := hrest.exists_beginsWith hlist.tail hquote
      cases token with
      | literal later => cases happart _ htoken
      | field shown width => exact (isAlpha_of_ofLetter? hbegins).2 rfl
    rw [tokens_printLiteral (hlist.notEmpty _ List.mem_cons_self) hnext, ih hlist.tail]
    -- no literal text follows that this one would be joined with
    cases rest with
    | nil => rfl
    | cons token rest =>
      cases token with
      | literal later => cases happart _ rfl
      | field shown width => rfl
  | @field letter shown hletter width rest s hrest ih =>
    have happart := (List.isChain_cons.1 hlist.apart).1
    have hpos : 1 ≤ width := hlist.notEmpty _ List.mem_cons_self
    obtain ⟨n, rfl⟩ := Nat.exists_eq_add_of_le' hpos
    have hnext : ∀ d ∈ s.head?, (d == letter) = false := by
      intro d hd
      refine Bool.eq_false_iff.2 fun heq => ?_
      obtain rfl := beq_iff_eq.1 heq
      obtain ⟨token, htoken, hbegins⟩ := hrest.exists_beginsWith hlist.tail hd
      have hkinds := happart _ htoken
      cases token with
      | literal later => exact (isAlpha_of_ofLetter? hletter).2 hbegins
      | field other width =>
        obtain rfl := Option.some.inj (hletter.symm.trans hbegins)
        rw [DateToken.sameKind, beq_self_eq_true] at hkinds
        cases hkinds
    rw [tokens_run hletter n hnext, ih hlist.tail]
    rfl

/-! ## Refusing -/

/-- The last quoted text is not closed: the quotes are not in pairs. -/
def LeftOpen (s : Text) : Prop := s.count '\'' % 2 = 1

instance (s : Text) : Decidable (LeftOpen s) := inferInstanceAs (Decidable (_ = 1))

/-- A character stands outside quotes: the quotes before it are in pairs. -/
def StandsOutside (c : Char) (s : Text) : Prop :=
  ∃ before after, s = before ++ c :: after ∧ before.count '\'' % 2 = 0

/-- A letter that stands for no field. -/
def Unsupported (c : Char) : Prop := c.isAlpha = true ∧ c ∉ fieldLetters

/-- Why a pattern cannot be read, if some quotes stand before it. -/
def RefusedAfter (quotes : Nat) (s : Text) : Prop :=
  (quotes + s.count '\'') % 2 = 1 ∨
    ∃ c, Unsupported c ∧
      ∃ before after, s = before ++ c :: after ∧ (quotes + before.count '\'') % 2 = 0

theorem refusedAfter_zero_iff {s : Text} :
    RefusedAfter 0 s ↔ LeftOpen s ∨ ∃ c, Unsupported c ∧ StandsOutside c s := by
  simp only [RefusedAfter, LeftOpen, StandsOutside, Nat.zero_add]

theorem refusedAfter_add_two {quotes : Nat} {s : Text} :
    RefusedAfter (quotes + 2) s ↔ RefusedAfter quotes s := by
  have hparity : ∀ n, (quotes + 2 + n) % 2 = (quotes + n) % 2 := fun n => by omega
  simp only [RefusedAfter, hparity]

theorem not_refusedAfter_nil : ¬ RefusedAfter 0 [] := by
  rintro (hopen | ⟨c, -, before, after, hsplit, -⟩)
  · cases hopen
  · cases before <;> cases hsplit

theorem refusedAfter_quote {quotes : Nat} {s : Text} :
    RefusedAfter quotes ('\'' :: s) ↔ RefusedAfter (quotes + 1) s := by
  have hcount : ∀ t : Text, quotes + ('\'' :: t).count '\'' = quotes + 1 + t.count '\'' := by
    intro t
    rw [List.count_cons_self]
    omega
  unfold RefusedAfter
  rw [hcount]
  refine or_congr_right (exists_congr fun c => and_congr_right fun hc => ?_)
  constructor
  · rintro ⟨before, after, hsplit, heven⟩
    cases before with
    | nil =>
      obtain rfl := (List.cons.inj hsplit).1
      exact absurd hc.1 (by decide)
    | cons d before =>
      obtain ⟨rfl, rfl⟩ := List.cons.inj hsplit
      exact ⟨before, after, rfl, by rwa [hcount] at heven⟩
  · rintro ⟨before, after, rfl, heven⟩
    exact ⟨'\'' :: before, after, rfl, by rwa [hcount]⟩

/-- A character other than a quote counts only outside quotes. -/
theorem refusedAfter_cons {quotes : Nat} {d : Char} (hd : d ≠ '\'') {s : Text} :
    RefusedAfter quotes (d :: s) ↔ quotes % 2 = 0 ∧ Unsupported d ∨ RefusedAfter quotes s := by
  unfold RefusedAfter
  rw [List.count_cons_of_ne hd]
  constructor
  · rintro (hopen | ⟨c, hc, before, after, hsplit, heven⟩)
    · exact .inr (.inl hopen)
    · cases before with
      | nil =>
        obtain rfl := (List.cons.inj hsplit).1
        exact .inl ⟨heven, hc⟩
      | cons e before =>
        obtain ⟨rfl, rfl⟩ := List.cons.inj hsplit
        rw [List.count_cons_of_ne hd] at heven
        exact .inr (.inr ⟨c, hc, before, after, rfl, heven⟩)
  · rintro (⟨heven, hd⟩ | hopen | ⟨c, hc, before, after, rfl, heven⟩)
    · exact .inr ⟨d, hd, [], s, rfl, heven⟩
    · exact .inl hopen
    · exact .inr ⟨c, hc, d :: before, after, rfl, by rwa [List.count_cons_of_ne hd]⟩

/-- Nothing inside quotes counts. -/
theorem refusedAfter_doubled (text : Text) {s : Text} :
    RefusedAfter 1 (doubled text ++ s) ↔ RefusedAfter 1 s := by
  induction text with
  | nil => exact Iff.rfl
  | cons c text ih =>
    rw [doubled]
    split
    · rw [List.cons_append, List.cons_append, refusedAfter_quote, refusedAfter_quote,
        refusedAfter_add_two, ih]
    · rename_i hc
      rw [List.cons_append, refusedAfter_cons hc, ih]
      simp

/-- What stands for itself or for fields does not count. -/
theorem refusedAfter_run {run s : Text} (h : ∀ d ∈ run, d ≠ '\'' ∧ ¬ Unsupported d) :
    RefusedAfter 0 (run ++ s) ↔ RefusedAfter 0 s := by
  induction run with
  | nil => exact Iff.rfl
  | cons d run ih =>
    rw [List.forall_mem_cons] at h
    rw [List.cons_append, refusedAfter_cons h.1.1, ih h.2]
    simp [h.1.2]

/-- A pattern is refused exactly if quoted text is left open or a letter that stands
for no field stands outside quotes. -/
theorem tokens_eq_error_iff (s : Text) :
    (∃ fault, tokens s = .error fault) ↔ RefusedAfter 0 s := by
  fun_induction tokens s with
  | case1 => exact iff_of_false (by rintro ⟨_, ⟨⟩⟩) not_refusedAfter_nil
  | case2 rest hnext ih =>
    obtain ⟨tail, rfl⟩ := List.head?_eq_some_iff.1 hnext
    simp only [map_eq_error_iff]
    rw [ih, refusedAfter_quote, List.tail_cons, refusedAfter_quote, refusedAfter_add_two]
  | case3 rest hnext hnone =>
    obtain ⟨text, rfl⟩ := exists_of_quotedText_eq_none hnone
    refine iff_of_true ⟨_, rfl⟩ (refusedAfter_quote.2 (.inl ?_))
    rw [count_doubled]
    omega
  | case4 rest hnext text after found ih =>
    obtain ⟨rfl, -⟩ := quotedText_eq_some_iff.1 found
    simp only [map_eq_error_iff]
    rw [ih, refusedAfter_quote, refusedAfter_doubled, refusedAfter_quote, refusedAfter_add_two]
  | case5 c rest hquote halpha hnone =>
    refine iff_of_true ⟨_, rfl⟩ ((refusedAfter_cons hquote).2 (.inl ⟨rfl, halpha, ?_⟩))
    exact ofLetter?_eq_none_iff.1 hnone
  | case6 c rest hquote halpha field hfield ih =>
    have hsupported : ¬ Unsupported c := fun h => h.2 (mem_fieldLetters_of_ofLetter? hfield)
    have hrun : ∀ d ∈ c :: rest.takeWhile (· == c), d ≠ '\'' ∧ ¬ Unsupported d := by
      intro d hd
      obtain rfl : d = c := by
        rcases List.mem_cons.1 hd with heq | hd
        · exact heq
        · have heq := List.mem_takeWhile_imp hd
          exact beq_iff_eq.1 heq
      exact ⟨hquote, hsupported⟩
    have hsplit : c :: rest = c :: rest.takeWhile (· == c) ++ rest.dropWhile (· == c) := by
      rw [List.cons_append, List.takeWhile_append_dropWhile]
    simp only [map_eq_error_iff]
    rw [ih, hsplit, refusedAfter_run hrun]
  | case7 c rest hquote halpha ih =>
    have hsupported : ¬ Unsupported c := fun h => halpha h.1
    simp only [map_eq_error_iff]
    rw [ih, refusedAfter_cons hquote]
    simp [hsupported]

/-! ## Literal text -/

/-- Tokens whose literal text is joined as far as it can be. -/
structure Merged (list : List DateToken) : Prop where
  notEmpty : .literal [] ∉ list
  apart : list.IsChain fun a b => ¬ (a.isLiteral = true ∧ b.isLiteral = true)

theorem merged_prepend {text : Text} (hne : text ≠ []) {list : List DateToken} (h : Merged list) :
    Merged (prepend text list) := by
  unfold prepend
  split
  · rename_i later rest
    obtain ⟨hfirst, hrest⟩ := List.isChain_cons.1 h.apart
    refine ⟨fun hmem => ?_, List.isChain_cons.2 ⟨hfirst, hrest⟩⟩
    rcases List.mem_cons.1 hmem with heq | hmem
    · exact hne (List.append_eq_nil_iff.1 (DateToken.literal.inj heq).symm).1
    · exact h.notEmpty (List.mem_cons_of_mem _ hmem)
  · rename_i hfirst
    refine ⟨fun hmem => ?_, List.isChain_cons.2 ⟨fun token htoken hboth => ?_, h.apart⟩⟩
    · rcases List.mem_cons.1 hmem with heq | hmem
      · exact hne (DateToken.literal.inj heq).symm
      · exact h.notEmpty hmem
    · obtain ⟨rest, rfl⟩ := List.head?_eq_some_iff.1 htoken
      cases token with
      | literal later => exact hfirst later rest rfl
      | field shown width => cases hboth.2

theorem merged_field {list : List DateToken} (h : Merged list) (field : DateField) (width : Nat) :
    Merged (.field field width :: list) := by
  refine ⟨fun hmem => ?_, List.isChain_cons.2 ⟨fun token htoken hboth => ?_, h.apart⟩⟩
  · rcases List.mem_cons.1 hmem with heq | hmem
    · cases heq
    · exact h.notEmpty hmem
  · cases hboth.1

/-- Tokens that are read have no literal text that is empty or stands beside other
literal text. -/
theorem merged_of_tokens {s : Text} {list : List DateToken} (h : tokens s = .ok list) :
    Merged list := by
  fun_induction tokens s generalizing list with
  | case1 =>
    obtain rfl := Except.ok.inj h
    exact ⟨List.not_mem_nil, List.isChain_nil⟩
  | case2 rest hnext ih =>
    obtain ⟨later, hlater, rfl⟩ := map_eq_ok_iff.1 h
    exact merged_prepend (List.cons_ne_nil _ _) (ih hlater)
  | case3 => cases h
  | case4 rest hnext text after found ih =>
    have hne : text ≠ [] := by
      rintro rfl
      obtain ⟨rfl, -⟩ := quotedText_eq_some_iff.1 found
      exact hnext rfl
    obtain ⟨later, hlater, rfl⟩ := map_eq_ok_iff.1 h
    exact merged_prepend hne (ih hlater)
  | case5 => cases h
  | case6 c rest hquote halpha field hfield ih =>
    obtain ⟨later, hlater, rfl⟩ := map_eq_ok_iff.1 h
    exact merged_field (ih hlater) field _
  | case7 c rest hquote halpha ih =>
    obtain ⟨later, hlater, rfl⟩ := map_eq_ok_iff.1 h
    exact merged_prepend (List.cons_ne_nil _ _) (ih hlater)

/-- All tokens can be printed, and those that take up room, no two of a kind beside
each other, are read as themselves however they are printed.  A pattern is refused
exactly if quoted text is left open or a letter that stands for no field stands
outside quotes; if it is read, no literal text is empty or stands beside other
literal text. -/
theorem tokens_inverts_printing :
    (∀ list, (∃ s, Printed list s) ∧
      ∀ s, Printed list s → Printable list → tokens s = .ok list) ∧
    ∀ s, ((∃ fault, tokens s = .error fault) ↔
        LeftOpen s ∨ ∃ c, Unsupported c ∧ StandsOutside c s) ∧
      ∀ list, tokens s = .ok list → Merged list := by
  refine ⟨fun list => ⟨exists_printed list, fun s => tokens_of_printed⟩,
    fun s => ⟨?_, fun list => merged_of_tokens⟩⟩
  rw [tokens_eq_error_iff, refusedAfter_zero_iff]

/-- Tokens with quotes at each place of their literal text. -/
def quotedTokens : List DateToken :=
  [.literal "''it's'".toList, .field .year 4, .literal "'".toList, .field .month 2, .field .day 1]

/-- A way to print them. -/
def quotedPattern : Text := "'''''it''s'''uuuu''LLd".toList

theorem tokens_inverts_printing_quotedTokens :
    Printed quotedTokens quotedPattern ∧ Printable quotedTokens ∧
      tokens quotedPattern = .ok quotedTokens ∧ Merged quotedTokens ∧
      LeftOpen "HH'''h''".toList ∧ ∃ fault, tokens "HH'''h''".toList = .error fault := by
  have hprinted : Printed quotedTokens quotedPattern := by
    have hyear : DateField.ofLetter? 'u' = some .year := rfl
    have hmonth : DateField.ofLetter? 'L' = some .month := rfl
    have hday : DateField.ofLetter? 'd' = some .day := rfl
    exact .literal _ (.field hyear 4 (.literal _ (.field hmonth 2 (.field hday 1 .nil))))
  have hprintable : Printable quotedTokens :=
    ⟨by simp [quotedTokens, DateToken.NotEmpty], by decide⟩
  have hopen : LeftOpen "HH'''h''".toList := by decide
  have hread := (tokens_inverts_printing.1 _).2 _ hprinted hprintable
  exact ⟨hprinted, hprintable, hread, (tokens_inverts_printing.2 _).2 _ hread, hopen,
    (tokens_inverts_printing.2 _).1.2 (.inl hopen)⟩

end DatePattern

end LogLine
