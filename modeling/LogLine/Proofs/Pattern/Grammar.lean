/-
  Proofs/Pattern/Grammar.lean --- when all of a pattern is accounted for.

  `Reads` takes a pattern apart from the left: characters that stand for
  themselves, `%%`, specifiers as long as they can be, each followed by what its
  key left over, and flags and widths that the end cuts off.  Its fields write
  all of the literal text in order.

  A pattern that is compiled without a problem need not be read so: a brace
  after a specifier that nothing closes can be passed over.  The specifier then
  took more opening braces than closing ones, and that is the only way to lose
  text:

      readAs_iff_isClosed     the grammar  <->  every specifier closes its braces

  From right to left the pieces of the pattern are those of the grammar.  From
  left to right the opening braces in literal fields are counted: `Reads` finds
  at least as many as compiling does, and more if some text is lost.
-/
import LogLine.Pattern.Builtin
import LogLine.Proofs.Pattern.Resolution
import LogLine.Proofs.Pattern.SpecifierForm

set_option autoImplicit false

namespace LogLine.Pattern

/-! ## The grammar -/

/-- A specifier that what follows goes on neither with a further option nor, if
it has none, with its key. -/
structure SpecifierForm.Longest (form : SpecifierForm) (after : Text) : Prop where
  /-- No further option follows. -/
  option : BeginsNoGroup after
  /-- The key is not longer than it is. -/
  name : form.options = [] → ∀ c ∈ after.head?, Text.isNamePart c = false

/-- The rest of a pattern is read as literal text, which joins the literal text
before it, and the fields after that. -/
inductive Reads (rules : Rules) (config : Config) : Text → Text → Pattern → Prop where
  /-- Nothing is left. -/
  | done : Reads rules config [] [] []
  /-- A character that stands for itself. -/
  | literal {c : Char} {s text : Text} {fields : Pattern} (hc : c ≠ '%')
      (rest : Reads rules config s text fields) : Reads rules config (c :: s) (c :: text) fields
  /-- Two percent signs, which stand for one. -/
  | percent {s text : Text} {fields : Pattern} (rest : Reads rules config s text fields) :
      Reads rules config ('%' :: '%' :: s) ('%' :: text) fields
  /-- A percent sign at the end. -/
  | last : Reads rules config ['%'] ['%'] []
  /-- A specifier that the end cuts off is literal text of its own. -/
  | unfinished {s : Text} (hne : s ≠ []) (hs : IsUnfinished s) :
      Reads rules config ('%' :: s) [] [literalField config ('%' :: s)]
  /-- A specifier with its field; what the key leaves over joins the text after
  it. -/
  | specifier {form : SpecifierForm} {plugin : Plugin} {leftover s text : Text}
      {converter : Converter} {fields : Pattern} (hform : form.WellFormed)
      (hlong : form.Longest s) (hleast : form.width.least ≤ maxFieldWidth)
      (hkey : rules.resolve? form.key = some (plugin, leftover))
      (hmade : plugin.create config (argumentsOf rules config form.options) =
        .made converter [])
      (rest : Reads rules config s text fields) :
      Reads rules config ('%' :: (form.body ++ s)) []
        ({ converter, width := form.width } :: flush config (leftover ++ text) ++ fields)

/-- A whole pattern is read as some fields. -/
def ReadAs (rules : Rules) (config : Config) (pattern : Text) (fields : Pattern) : Prop :=
  ∃ text rest, Reads rules config pattern text rest ∧ fields = flush config text ++ rest

/-- A specifier that took as many closing braces as opening ones. -/
def IsClosed (spec : Specifier) : Prop := spec.raw.count '{' = spec.raw.count '}'

instance (spec : Specifier) : Decidable (IsClosed spec) :=
  inferInstanceAs (Decidable (spec.raw.count '{' = spec.raw.count '}'))

/-! ## Braces of a specifier -/

/-- Only the options of a specifier have braces. -/
theorem count_body {form : SpecifierForm} (hform : form.WellFormed) {brace : Char}
    (hbrace : brace = '{' ∨ brace = '}') :
    form.body.count brace = (form.options.flatMap braced).count brace := by
  have hdash : (List.replicate form.dashes '-').count brace = 0 := by
    refine List.count_eq_zero.2 fun h => ?_
    have := List.eq_of_mem_replicate h
    rcases hbrace with rfl | rfl <;> cases this
  have hdigits : ∀ digits, IsDigits digits → digits.count brace = 0 := by
    intro digits hdigits
    refine List.count_eq_zero.2 fun h => ?_
    have hd := hdigits brace h
    rcases hbrace with rfl | rfl <;> cases hd
  have hbound : form.bound.count brace = 0 := by
    cases hmost : form.most with
    | none => simp [SpecifierForm.bound, hmost]
    | some digits =>
      have hdot : '.' ≠ brace := by
        rcases hbrace with rfl | rfl <;> decide
      simp [SpecifierForm.bound, hmost, List.count_cons_of_ne hdot,
        hdigits digits (hform.most digits hmost).2]
  have hkey : form.key.count brace = 0 := by
    obtain ⟨c, name, hkey, hc, hname⟩ := hform.key
    rw [hkey]
    refine List.count_eq_zero.2 fun h => ?_
    rcases List.mem_cons.1 h with rfl | h
    · rcases hbrace with rfl | rfl <;> exact absurd hc (by decide)
    · have hd := hname brace h
      rcases hbrace with rfl | rfl <;> exact absurd hd (by decide)
  simp only [SpecifierForm.body, List.count_append, hdash, hdigits _ hform.least, hbound, hkey,
    Nat.zero_add]

/-- A specifier is closed when nothing was passed over after it. -/
theorem isClosed_toSpecifier_iff {form : SpecifierForm} (hform : form.WellFormed) {position : Nat}
    {skipped rest : Text} (hskip : Skips form.options skipped rest) :
    IsClosed (form.toSpecifier position skipped) ↔ skipped = [] := by
  have hbody : form.body.count '{' = form.body.count '}' := by
    rw [count_body hform (.inl rfl), count_body hform (.inr rfl),
      count_flatMap_braced hform.options]
  have hraw : ∀ c, c ≠ '%' → (form.toSpecifier position skipped).raw.count c =
      form.body.count c + skipped.count c := by
    intro c hc
    rw [SpecifierForm.toSpecifier, List.count_cons_of_ne (Ne.symm hc), List.count_append]
  rw [IsClosed, hraw '{' (by decide), hraw '}' (by decide), hbody]
  constructor
  · intro h
    by_contra hne
    have := count_lt_of_skips hskip hne
    omega
  · rintro rfl
    rfl

/-- A closing brace in a specifier is that of an option, and so is the last
character. -/
theorem exists_body_eq {form : SpecifierForm} (hform : form.WellFormed) (h : '}' ∈ form.body) :
    ∃ front, form.body = front ++ ['}'] := by
  have hopt : form.options ≠ [] := by
    intro hnil
    have hcount := count_body hform (.inr rfl)
    rw [hnil, List.flatMap_nil, List.count_nil] at hcount
    exact List.count_eq_zero.1 hcount h
  obtain ⟨before, hbefore⟩ := exists_flatMap_braced_eq hopt
  refine ⟨List.replicate form.dashes '-' ++ (form.least ++ (form.bound ++ (form.key ++ before))),
    ?_⟩
  rw [SpecifierForm.body, hbefore]
  simp only [List.append_assoc]

theorem not_mem_of_isUnfinished {s : Text} (h : IsUnfinished s) : '}' ∉ s := by
  obtain ⟨n, least, bound, rfl, hleast, hbound⟩ := h
  have hdigits : ∀ digits, IsDigits digits → '}' ∉ digits :=
    fun digits hdigits h => absurd (hdigits '}' h) (by decide)
  intro hmem
  rcases List.mem_append.1 hmem with h | h
  · cases List.eq_of_mem_replicate h
  rcases List.mem_append.1 h with h | h
  · exact hdigits least hleast h
  rcases hbound with rfl | ⟨digits, rfl, hd⟩
  · cases h
  · rcases List.mem_cons.1 h with h | h
    · cases h
    · exact hdigits digits hd h

/-! ## What the grammar reads is there -/

section

variable {rules : Rules} {config : Config}

theorem eq_of_resolvePiece_literal {c : Char} {part : Resolved}
    (h : some (part, []) = resolvePiece rules config (.literal c)) : part = .text [c] :=
  congrArg Prod.fst (Option.some.inj h)

theorem eq_of_resolvePiece_percent {part : Resolved}
    (h : some (part, []) = resolvePiece rules config .percent) : part = .text ['%'] :=
  congrArg Prod.fst (Option.some.inj h)

theorem eq_of_resolvePiece_unfinished {raw : Text} {part : Resolved}
    (h : some (part, []) = resolvePiece rules config (.unfinished raw)) : part = .restart raw :=
  congrArg Prod.fst (Option.some.inj h)

theorem gather_restart {raw : Text} (hne : raw ≠ []) :
    gather config [.restart raw] = ([], [literalField config raw]) := by
  simp [gather, flush, hne]

/-- Where nothing is passed over, the specifier is as long as it can be. -/
theorem longest_of_endsBefore {form : SpecifierForm} {rest : Text}
    (h : form.EndsBefore [] rest) : form.Longest rest := by
  refine ⟨?_, h.name⟩
  have hskip := h.skips
  generalize hnil : ([] : Text) = skipped at hskip
  cases hskip with
  | nothing hhead => exact beginsNoGroup_of_head hhead
  | kept hopt hin => exact beginsNoGroup_open_iff.2 (unclosed_of_not_mem hin)
  | brace => cases hnil
  | group => cases hnil

/-- Pieces whose specifiers are closed are those of the grammar. -/
theorem reads_of_isClosed {position : Nat} {s : Text} {parts : List Resolved}
    (hparts : (scanFrom position s).map (resolvePiece rules config) =
      parts.map fun part => some (part, []))
    (hclosed : ∀ spec, .specifier spec ∈ scanFrom position s → IsClosed spec) :
    Reads rules config s (gather config parts).1 (gather config parts).2 := by
  fun_induction scanFrom position s generalizing parts with
  | case1 =>
    obtain rfl := List.map_eq_nil_iff.1 hparts.symm
    exact .done
  | case2 position c =>
    obtain ⟨part, rest, rfl, hpart, hrest⟩ := List.map_eq_cons_iff.1 hparts.symm
    obtain rfl := List.map_eq_nil_iff.1 hrest
    obtain rfl := eq_of_resolvePiece_literal hpart
    by_cases hc : c = '%'
    · subst hc
      exact .last
    · exact .literal hc .done
  | case3 position c d rest hc ih =>
    obtain ⟨part, parts, rfl, hpart, hrest⟩ := List.map_eq_cons_iff.1 hparts.symm
    obtain rfl := eq_of_resolvePiece_literal hpart
    exact .literal hc (ih hrest.symm fun spec hs => hclosed spec (List.mem_cons_of_mem _ hs))
  | case4 position c rest hc ih =>
    obtain ⟨part, parts, rfl, hpart, hrest⟩ := List.map_eq_cons_iff.1 hparts.symm
    obtain rfl := eq_of_resolvePiece_percent hpart
    obtain rfl : c = '%' := by simpa using hc
    exact .percent (ih hrest.symm fun spec hs => hclosed spec (List.mem_cons_of_mem _ hs))
  | case5 position c d rest hc hd spec after hread ih =>
    obtain ⟨part, parts, rfl, hpart, hrest⟩ := List.map_eq_cons_iff.1 hparts.symm
    obtain rfl : c = '%' := by simpa using hc
    obtain ⟨hleast, hne, plugin, leftover, converter, hkey, hmade, rfl⟩ :=
      resolvePiece_specifier_iff.1 hpart.symm
    obtain ⟨form, skipped, hform, hend, hs, rfl⟩ := exists_form hread hne
    obtain rfl : skipped = [] :=
      (isClosed_toSpecifier_iff hform hend.skips).1 (hclosed _ List.mem_cons_self)
    rw [hs]
    exact .specifier hform (longest_of_endsBefore hend) hleast hkey hmade
      (ih hrest.symm fun spec hs => hclosed spec (List.mem_cons_of_mem _ hs))
  | case6 position c d rest hc hd raw found after hread ih =>
    obtain ⟨part, parts, rfl, hpart, hrest⟩ := List.map_eq_cons_iff.1 hparts.symm
    simp [resolvePiece, resolve] at hpart
  | case7 position c d rest hc hd hread =>
    obtain ⟨part, parts, rfl, hpart, hrest⟩ := List.map_eq_cons_iff.1 hparts.symm
    obtain rfl := List.map_eq_nil_iff.1 hrest
    obtain rfl : c = '%' := by simpa using hc
    obtain rfl := eq_of_resolvePiece_unfinished hpart
    rw [gather_restart (List.cons_ne_nil _ _)]
    exact .unfinished (List.cons_ne_nil _ _) (attempt_eq_unfinished_iff.1 hread)

/-! ## Counting braces in literal fields -/

/-- The opening braces in the literal text of a field. -/
def literalBraces (field : Field) : Nat :=
  match field.converter with
  | .literal literal => literal.text.count '{'
  | _ => 0

/-- The opening braces in the literal text of some fields. -/
def allLiteralBraces : Pattern → Nat
  | [] => 0
  | field :: fields => literalBraces field + allLiteralBraces fields

theorem allLiteralBraces_cons (field : Field) (fields : Pattern) :
    allLiteralBraces (field :: fields) = literalBraces field + allLiteralBraces fields := rfl

theorem allLiteralBraces_append (a b : Pattern) :
    allLiteralBraces (a ++ b) = allLiteralBraces a + allLiteralBraces b := by
  induction a with
  | nil => rw [List.nil_append, allLiteralBraces, Nat.zero_add]
  | cons field fields ih =>
    rw [List.cons_append, allLiteralBraces_cons, allLiteralBraces_cons, ih, Nat.add_assoc]

/-- Reading the escapes of a text keeps its opening braces. -/
theorem count_convertBackslashes (s : Text) :
    (Literal.convertBackslashes s).count '{' = s.count '{' := by
  fun_induction Literal.convertBackslashes s with
  | case1 => rfl
  | case2 => rfl
  | case3 c rest ih =>
    have hc : (Literal.escaped c == '{') = (c == '{') := by
      unfold Literal.escaped
      split <;> rfl
    rw [List.count_cons_of_ne (show '\\' ≠ '{' by decide), List.count_cons, List.count_cons, ih, hc]
  | case4 c rest _ _ ih => rw [List.count_cons, List.count_cons, ih]

theorem allLiteralBraces_flush (text : Text) :
    allLiteralBraces (flush config text) = text.count '{' := by
  unfold flush
  split
  · rename_i h
    rw [h]
    rfl
  · have htext : (Literal.ofConfig config text).text.count '{' = text.count '{' := by
      simp only [Literal.ofConfig]
      split
      · exact count_convertBackslashes text
      · rfl
    simpa [allLiteralBraces, literalBraces, literalField] using htext

/-- The opening braces in literal text: in the text that is read first, and in
the fields after it. -/
def openBraces (text : Text) (fields : Pattern) : Nat := text.count '{' + allLiteralBraces fields

theorem openBraces_cons (c : Char) (text : Text) (fields : Pattern) :
    openBraces (c :: text) fields = openBraces text fields + if c = '{' then 1 else 0 := by
  simp only [openBraces, List.count_cons, beq_iff_eq]
  omega

theorem openBraces_field (field : Field) (leftover text : Text) (fields : Pattern) :
    openBraces [] (field :: flush config (leftover ++ text) ++ fields) =
      literalBraces field + leftover.count '{' + openBraces text fields := by
  rw [openBraces, openBraces, List.cons_append, allLiteralBraces_cons, allLiteralBraces_append,
    allLiteralBraces_flush, List.count_append, List.count_nil]
  omega

/-- Past the last closing brace of a text the grammar reads on by itself: no
specifier goes on beyond it. -/
theorem Reads.exists_after_last {s text : Text} {fields : Pattern}
    (h : Reads rules config s text fields) {before rest : Text} (hs : s = before ++ '}' :: rest)
    (hrest : '}' ∉ rest) :
    ∃ text' fields', Reads rules config rest text' fields' ∧
      openBraces text' fields' ≤ openBraces text fields := by
  induction h generalizing before with
  | done => simp at hs
  | @literal c s text fields hc hread ih =>
    have hle := openBraces_cons c text fields
    cases before with
    | nil =>
      rw [List.nil_append, List.cons.injEq] at hs
      rw [← hs.2]
      exact ⟨text, fields, hread, by omega⟩
    | cons b before =>
      rw [List.cons_append, List.cons.injEq] at hs
      obtain ⟨text', fields', hread', hcount⟩ := ih hs.2
      exact ⟨text', fields', hread', by omega⟩
  | @percent s text fields hread ih =>
    -- neither percent sign is the closing brace
    match before, hs with
    | [], hs => cases hs
    | [_], hs => cases hs
    | _ :: _ :: before, hs =>
      simp only [List.cons_append, List.cons.injEq] at hs
      obtain ⟨text', fields', hread', hcount⟩ := ih hs.2.2
      exact ⟨text', fields', hread', hcount.trans (by rw [openBraces_cons]; omega)⟩
  | last =>
    match before, hs with
    | [], hs => cases hs
    | _ :: before, hs => simp at hs
  | @unfinished s hne hun =>
    have hmem : '}' ∈ '%' :: s := by simp [hs]
    rcases List.mem_cons.1 hmem with h | h
    · cases h
    · exact absurd h (not_mem_of_isUnfinished hun)
  | @specifier form plugin leftover s text converter fields hform hlong hleast hkey hmade hread
      ih =>
    have hcount : openBraces text fields ≤ openBraces []
        ({ converter, width := form.width } :: flush config (leftover ++ text) ++ fields) := by
      rw [openBraces_field]
      omega
    have hsplit : ('%' :: form.body) ++ s = before ++ '}' :: rest := hs
    rcases List.append_eq_append_iff.1 hsplit with ⟨middle, _, hmiddle⟩ | ⟨middle, hbody, hmiddle⟩
    · obtain ⟨text', fields', hread', hle⟩ := ih hmiddle
      exact ⟨text', fields', hread', hle.trans hcount⟩
    · cases middle with
      | nil =>
        obtain ⟨text', fields', hread', hle⟩ := ih (show s = [] ++ '}' :: rest from hmiddle.symm)
        exact ⟨text', fields', hread', hle.trans hcount⟩
      | cons c middle =>
        rw [List.cons_append, List.cons.injEq] at hmiddle
        obtain ⟨rfl, rfl⟩ := hmiddle
        -- the brace is in the specifier, whose last character is one
        have hmem : '}' ∈ form.body := by
          have : '}' ∈ '%' :: form.body := by simp [hbody]
          simpa using this
        obtain ⟨front, hfront⟩ := exists_body_eq hform hmem
        have hlast : ('%' :: front) ++ ['}'] = before ++ '}' :: middle := by
          rw [← hbody, hfront]
          rfl
        obtain rfl : middle = [] :=
          eq_nil_of_append_singleton_eq hlast fun h => hrest (List.mem_append_left s h)
        exact ⟨text, fields, hread, hcount⟩

/-- The grammar counts the brace that text passed over begins with. -/
theorem Reads.exists_after_skipped {options : List Text} {skipped rest text : Text}
    {fields : Pattern} (h : Reads rules config (skipped ++ rest) text fields)
    (hskip : Skips options skipped rest) :
    ∃ text' fields', Reads rules config rest text' fields' ∧
      openBraces text' fields' ≤ openBraces text fields ∧
      (openBraces text' fields' = openBraces text fields → skipped = []) := by
  have hopen : ∀ {inside}, Reads rules config ('{' :: inside) text fields →
      ∃ text', Reads rules config inside text' fields ∧
        openBraces text' fields < openBraces text fields := by
    intro inside hread
    cases hread with
    | @literal _ _ text' _ _ hread =>
      refine ⟨text', hread, ?_⟩
      rw [openBraces_cons, if_pos rfl]
      omega
  cases hskip with
  | nothing => exact ⟨text, fields, h, Nat.le_refl _, fun _ => rfl⟩
  | kept => exact ⟨text, fields, h, Nat.le_refl _, fun _ => rfl⟩
  | brace =>
    obtain ⟨text', hread, hlt⟩ := hopen h
    exact ⟨text', fields, hread, Nat.le_of_lt hlt, fun heq => absurd heq (Nat.ne_of_lt hlt)⟩
  | @group before _ _ hin =>
    obtain ⟨text', hread, hlt⟩ := hopen h
    have hsplit : before ++ ['}'] ++ rest = before ++ '}' :: rest := by simp
    obtain ⟨text'', fields', hread', hle⟩ := hread.exists_after_last hsplit hin
    have hlt' := Nat.lt_of_le_of_lt hle hlt
    exact ⟨text'', fields', hread', Nat.le_of_lt hlt', fun heq => absurd heq (Nat.ne_of_lt hlt')⟩

/-! ### Pieces against the grammar -/

/-- The text and the fields that are read have at least the opening braces that
the pieces keep, and no more only if every specifier is closed. -/
structure Outcounts (config : Config) (pieces : List Piece) (parts : List Resolved) (text : Text)
    (fields : Pattern) : Prop where
  le : openBraces (gather config parts).1 (gather config parts).2 ≤ openBraces text fields
  closed : openBraces (gather config parts).1 (gather config parts).2 = openBraces text fields →
    ∀ spec, .specifier spec ∈ pieces → IsClosed spec

section

variable {pieces : List Piece} {parts : List Resolved} {text : Text} {fields : Pattern}

/-- Without specifiers nothing has to be closed. -/
theorem Outcounts.of_gather (hgather : gather config parts = (text, fields))
    (hpieces : ∀ spec, .specifier spec ∉ pieces) : Outcounts config pieces parts text fields where
  le := by rw [hgather]
  closed := fun _ spec hs => absurd hs (hpieces spec)

theorem Outcounts.cons (h : Outcounts config pieces parts text fields) {piece : Piece} (c : Char)
    (hpiece : ∀ spec, .specifier spec ≠ piece) :
    Outcounts config (piece :: pieces) (.text [c] :: parts) (c :: text) fields := by
  have hgather : gather config (.text [c] :: parts) =
      (c :: (gather config parts).1, (gather config parts).2) := rfl
  constructor
  · rw [hgather, openBraces_cons, openBraces_cons]
    exact Nat.add_le_add_right h.le _
  · rw [hgather, openBraces_cons, openBraces_cons]
    intro heq spec hs
    exact h.closed (Nat.add_right_cancel heq) spec ((List.mem_cons.1 hs).resolve_left (hpiece spec))

/-- The text after a specifier may be read further on than the pieces begin, if
it has no more opening braces there. -/
theorem Outcounts.field {text' leftover : Text} {fields' : Pattern} {spec : Specifier}
    {field : Field} (h : Outcounts config pieces parts text' fields')
    (hle : openBraces text' fields' ≤ openBraces text fields)
    (hclosed : openBraces text' fields' = openBraces text fields → IsClosed spec) :
    Outcounts config (.specifier spec :: pieces) (.field field leftover :: parts) []
      (field :: flush config (leftover ++ text) ++ fields) := by
  have hgather : gather config (.field field leftover :: parts) =
      ([], field :: flush config (leftover ++ (gather config parts).1) ++
        (gather config parts).2) := rfl
  have hkept := h.le
  constructor
  · rw [hgather, openBraces_field, openBraces_field]
    omega
  · rw [hgather, openBraces_field, openBraces_field]
    intro heq other hother
    rcases List.mem_cons.1 hother with hother | hother
    · obtain rfl : other = spec := by simpa using hother
      exact hclosed (by omega)
    · exact h.closed (by omega) other hother

end

/-- The field that a specifier was resolved to is that of its key and options. -/
theorem eq_of_resolvePiece_toSpecifier {form : SpecifierForm} {plugin : Plugin}
    {leftover skipped : Text} {converter : Converter} {position : Nat} {part : Resolved}
    (hkey : rules.resolve? form.key = some (plugin, leftover))
    (hmade : plugin.create config (argumentsOf rules config form.options) = .made converter [])
    (h : some (part, []) =
      resolvePiece rules config (.specifier (form.toSpecifier position skipped))) :
    part = .field { converter, width := form.width } leftover := by
  obtain ⟨_, _, plugin', leftover', converter', hkey', hmade', rfl⟩ :=
    resolvePiece_specifier_iff.1 h.symm
  obtain ⟨rfl, rfl⟩ := Prod.mk.inj (Option.some.inj (hkey.symm.trans hkey'))
  obtain rfl := (Creation.made.inj (hmade.symm.trans hmade')).1
  rfl

/-- The grammar finds at least the opening braces that compiling keeps in literal
text, and no more only if every specifier is closed. -/
theorem Reads.outcounts {s text : Text} {fields : Pattern}
    (h : Reads rules config s text fields) {position : Nat} {parts : List Resolved}
    (hparts : (scanFrom position s).map (resolvePiece rules config) =
      parts.map fun part => some (part, [])) :
    Outcounts config (scanFrom position s) parts text fields := by
  -- text that is passed over is longer than one character, so the length goes down anyhow
  induction hlen : s.length using Nat.strong_induction_on generalizing s text fields position parts
  rename_i n ih
  subst hlen
  cases h with
  | done =>
    rw [scanFrom] at hparts ⊢
    obtain rfl := List.map_eq_nil_iff.1 hparts.symm
    exact .of_gather rfl fun _ => List.not_mem_nil
  | @literal c s text fields hc hread =>
    rw [scanFrom_literal hc] at hparts ⊢
    obtain ⟨part, parts, rfl, hpart, hrest⟩ := List.map_eq_cons_iff.1 hparts.symm
    obtain rfl := eq_of_resolvePiece_literal hpart
    exact (ih s.length (Nat.lt_succ_self _) hread hrest.symm rfl).cons c (by rintro spec ⟨⟩)
  | @percent s text fields hread =>
    rw [scanFrom_percent] at hparts ⊢
    obtain ⟨part, parts, rfl, hpart, hrest⟩ := List.map_eq_cons_iff.1 hparts.symm
    obtain rfl := eq_of_resolvePiece_percent hpart
    have hshorter : s.length < ('%' :: '%' :: s).length := by
      simp only [List.length_cons]
      omega
    exact (ih s.length hshorter hread hrest.symm rfl).cons '%' (by rintro spec ⟨⟩)
  | last =>
    rw [scanFrom] at hparts ⊢
    obtain ⟨part, parts, rfl, hpart, hrest⟩ := List.map_eq_cons_iff.1 hparts.symm
    obtain rfl := List.map_eq_nil_iff.1 hrest
    obtain rfl := eq_of_resolvePiece_literal hpart
    exact .of_gather rfl fun spec hs => by simp at hs
  | @unfinished s hne hun =>
    rw [scanFrom_unfinished hne hun] at hparts ⊢
    obtain ⟨part, parts, rfl, hpart, hrest⟩ := List.map_eq_cons_iff.1 hparts.symm
    obtain rfl := List.map_eq_nil_iff.1 hrest
    obtain rfl := eq_of_resolvePiece_unfinished hpart
    exact .of_gather (gather_restart (List.cons_ne_nil _ _)) fun spec hs => by simp at hs
  | @specifier form plugin leftover s text converter fields hform hlong hleast hkey hmade hread =>
    obtain ⟨skipped, rest, rfl, hskip⟩ := exists_skips form.options hlong.option
    rw [scanFrom_form hform ⟨hskip, hlong.name⟩] at hparts ⊢
    obtain ⟨part, parts, rfl, hpart, hrest⟩ := List.map_eq_cons_iff.1 hparts.symm
    obtain rfl := eq_of_resolvePiece_toSpecifier hkey hmade hpart
    obtain ⟨text', fields', hread', hle, hnil⟩ := hread.exists_after_skipped hskip
    have hshorter : rest.length < ('%' :: (form.body ++ (skipped ++ rest))).length := by
      simp only [List.length_cons, List.length_append]
      omega
    refine (ih rest.length hshorter hread' hrest.symm rfl).field hle ?_
    intro heq
    exact (isClosed_toSpecifier_iff hform hskip).2 (hnil heq)

/-! ## Nothing is lost -/

theorem openBraces_eq (text : Text) (fields : Pattern) :
    openBraces text fields = allLiteralBraces (flush config text ++ fields) := by
  rw [allLiteralBraces_append, allLiteralBraces_flush, openBraces]

theorem isClosed_of_readAs {pattern : Text} {fields : Pattern}
    (h : compile rules config pattern = .done fields [])
    (hread : ReadAs rules config pattern fields) :
    ∀ spec, .specifier spec ∈ scan pattern → IsClosed spec := by
  obtain ⟨text, rest, hreads, hfields⟩ := hread
  obtain ⟨parts, hparts, hassemble⟩ := compile_eq_done_nil_iff.1 h
  refine (hreads.outcounts hparts).closed ?_
  rw [assemble_eq, hfields] at hassemble
  rw [@openBraces_eq config, @openBraces_eq config, hassemble]

/-- A pattern that is compiled without a problem is read by the grammar as its
fields if and only if each of its specifiers closes the braces that it took. -/
theorem readAs_iff_isClosed {pattern : Text} {fields : Pattern}
    (h : compile rules config pattern = .done fields []) :
    ReadAs rules config pattern fields ↔
      ∀ spec, .specifier spec ∈ scan pattern → IsClosed spec := by
  constructor
  · exact isClosed_of_readAs h
  · intro hclosed
    obtain ⟨parts, hparts, hassemble⟩ := compile_eq_done_nil_iff.1 h
    exact ⟨_, _, reads_of_isClosed hparts hclosed, hassemble⟩

end

/-- A message that is written as it is. -/
def plainMessage : Field := { converter := .message .verbatim, width := .natural }

/-- A message with an option, and a brace that nothing closes. -/
def keptBrace : Text := "%m\x7ba\x7d\x7bb".toList

/-- A message without option, and a brace that nothing closes. -/
def lostBrace : Text := "%m\x7b".toList

/-- After an option that is closed, such a brace stays in the text. -/
theorem readAs_keptBrace :
    ∃ fields, compile Builtin.rules {} keptBrace = .done fields [] ∧
      ReadAs Builtin.rules {} keptBrace fields := by
  have hscan : scan keptBrace =
      [.specifier ⟨0, "%m\x7ba\x7d".toList, .natural, ['m'], [['a']]⟩,
        .literal '\x7b', .literal 'b'] := by
    decide +kernel
  have hcompile : compile Builtin.rules {} keptBrace =
      .done (assemble {} [.field plainMessage [], .text ['\x7b'], .text ['b']]) [] := by
    refine compile_eq_done_nil_iff.2 ⟨_, ?_, rfl⟩
    rw [hscan]
    rfl
  refine ⟨_, hcompile, (readAs_iff_isClosed hcompile).2 ?_⟩
  intro spec hspec
  rw [hscan] at hspec
  simp only [List.mem_cons, Piece.specifier.injEq, List.not_mem_nil, reduceCtorEq, or_false]
    at hspec
  rw [hspec]
  decide

/-- Without options it is lost, and nothing is reported. -/
theorem not_readAs_lostBrace :
    compile Builtin.rules {} lostBrace = .done [plainMessage] [] ∧
      ¬ ReadAs Builtin.rules {} lostBrace [plainMessage] := by
  have hscan : scan lostBrace = [.specifier ⟨0, lostBrace, .natural, ['m'], []⟩] := by
    decide +kernel
  have hcompile : compile Builtin.rules {} lostBrace = .done [plainMessage] [] := by
    refine compile_eq_done_nil_iff.2 ⟨[.field plainMessage []], ?_, rfl⟩
    rw [hscan]
    rfl
  refine ⟨hcompile, fun hread => ?_⟩
  have hclosed := isClosed_of_readAs hcompile hread _ (hscan ▸ List.mem_singleton.2 rfl)
  exact absurd hclosed (by decide)

end LogLine.Pattern
