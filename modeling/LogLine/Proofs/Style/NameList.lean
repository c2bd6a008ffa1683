/-
  Proofs/Style/NameList.lean --- the escape sequence of a list of style names.

  The sequence depends on the codes of the names alone, and these on the words of
  the list: on nothing that stands between words, on no letter case, and on no
  word that selects nothing.  Lists put together select what each of them does,
  effects before colors.

      codes_append            the codes of two lists that no name joins
      codes_of_sameIgnoringCase, codes_of_respaced, codes_of_unknown
                              what the codes do not depend on
      Lists.sequence_eq       the sequence by the numbers that the names stand for
      sequence_of_names       all of this for the sequence
-/
import LogLine.Proofs.Style.StyleNames
import LogLine.Proofs.Text.LetterCase
import LogLine.Proofs.Text.Words

set_option autoImplicit false

namespace LogLine.Style

open Text (HasWords IsWord Respaced Separated)

/-! ## What a list stands for -/

/-- Whether a style name is in the grammar, in any case. -/
def IsKnown (depth : ColorDepth) (name : Text) : Prop :=
  ∃ numbers, NamesEffect (Text.asciiUpper name) numbers ∨
    NamesColor depth (Text.asciiUpper name) numbers

/-- The numbers of those of some names that stand for any, one name after the other. -/
inductive Gathers (Names : Text → List Nat → Prop) : List Text → List Nat → Prop where
  | nil : Gathers Names [] []
  | known {name : Text} {names : List Text} {first others : List Nat}
      (h : Names (Text.asciiUpper name) first) (hrest : Gathers Names names others) :
      Gathers Names (name :: names) (first ++ others)
  | unknown {name : Text} {names : List Text} {others : List Nat}
      (h : ∀ numbers, ¬ Names (Text.asciiUpper name) numbers)
      (hrest : Gathers Names names others) : Gathers Names (name :: names) others

/-- The numbers of the effects and those of the colors in a list of names. -/
def Lists (depth : ColorDepth) (names : Text) (effects colors : List Nat) : Prop :=
  ∃ words, HasWords isSeparator names words ∧ Gathers NamesEffect words effects ∧
    Gathers (NamesColor depth) words colors

/-- The escape sequence of some numbers; nothing without any. -/
def escape (numbers : List Nat) : Text :=
  if numbers = [] then []
  else "\x1b[".toList ++ [';'].intercalate (numbers.map Text.ofNat) ++ "m".toList

section

variable {depth : ColorDepth} {Names : Text → List Nat → Prop}

theorem Gathers.append {a b : List Text} {first others : List Nat} (ha : Gathers Names a first)
    (hb : Gathers Names b others) : Gathers Names (a ++ b) (first ++ others) := by
  induction ha with
  | nil => exact hb
  | known h _ ih =>
    rw [List.append_assoc]
    exact .known h ih
  | unknown h _ ih => exact .unknown h ih

theorem Gathers.unique (hunique : ∀ name a b, Names name a → Names name b → a = b)
    {names : List Text} {a b : List Nat} (ha : Gathers Names names a)
    (hb : Gathers Names names b) : a = b := by
  induction ha generalizing b with
  | nil => cases hb; rfl
  | known h _ ih =>
    cases hb with
    | known h' hrest => rw [hunique _ _ _ h h', ih hrest]
    | unknown h' _ => exact absurd h (h' _)
  | unknown h _ ih =>
    cases hb with
    | known h' _ => exact absurd h' (h _)
    | unknown _ hrest => exact ih hrest

/-! ## The codes of a list -/

theorem codes_append {a b : Text} (h : Separated isSeparator a b) :
    codes depth (a ++ b) = codes depth a ++ codes depth b := by
  rw [codes, Text.words_append h, List.filterMap_append]
  rfl

theorem codes_of_respaced {a b : Text} (h : Respaced isSeparator a b) :
    codes depth a = codes depth b := by
  rw [codes, codes, h.words_eq]

theorem isSeparator_toUpper (c : Char) : isSeparator c.toUpper = isSeparator c := by
  rcases Text.toUpper_eq_self_or c with hsame | ⟨hlow, hhigh, hupper⟩
  · rw [hsame]
  · have hcomma : ∀ d : Char, 65 ≤ d.toNat → (d == ',') = false := by
      rintro d hd
      rw [beq_eq_false_iff_ne]
      rintro rfl
      exact absurd hd (by decide)
    rw [isSeparator, isSeparator, hcomma c (by omega), hcomma c.toUpper (by omega),
      Text.isBlank_toUpper]

/-- The names are read in upper case. -/
theorem codes_eq_asciiUpper (names : Text) :
    codes depth names =
      (Text.words isSeparator (Text.asciiUpper names)).filterMap (codeOfUpper? depth) := by
  rw [Text.asciiUpper, Text.words_map isSeparator_toUpper, List.filterMap_map]
  rfl

theorem codes_of_sameIgnoringCase {a b : Text} (h : Text.sameIgnoringCase a b = true) :
    codes depth a = codes depth b := by
  rw [codes_eq_asciiUpper, codes_eq_asciiUpper, Text.sameIgnoringCase_iff.1 h]

theorem NamesEffect.exists_number {name : Text} {numbers : List Nat}
    (h : NamesEffect name numbers) : ∃ number, numbers = [number] := by
  cases h <;> exact ⟨_, rfl⟩

/-- The lookup knows the names that the grammar has. -/
theorem code?_eq_none_iff {name : Text} : code? depth name = none ↔ ¬ IsKnown depth name := by
  rw [Option.eq_none_iff_forall_ne_some]
  constructor
  · rintro hnone ⟨numbers, heffect | hcolor⟩
    · obtain ⟨number, rfl⟩ := heffect.exists_number
      exact hnone _ (code?_eq_some_iff.2 (.effect heffect))
    · exact hnone _ (code?_eq_some_iff.2 (.color hcolor))
  · rintro hunknown code hcode
    cases code?_eq_some_iff.1 hcode with
    | effect h => exact hunknown ⟨_, .inl h⟩
    | color h => exact hunknown ⟨_, .inr h⟩

/-- A list selects nothing if none of its names does. -/
theorem codes_eq_nil_iff {names : Text} :
    codes depth names = [] ↔ ∀ name, IsWord isSeparator names name → ¬ IsKnown depth name := by
  rw [codes, List.filterMap_eq_nil_iff]
  exact forall_congr' fun _ => imp_congr Text.mem_words_iff code?_eq_none_iff

/-- Names that select nothing may be anywhere between the others. -/
theorem codes_of_unknown {before unknown after : Text}
    (hgap : Separated isSeparator before after) (hbefore : Separated isSeparator before unknown)
    (hafter : Separated isSeparator unknown after) (hunknown : codes depth unknown = []) :
    codes depth (before ++ (unknown ++ after)) = codes depth (before ++ after) := by
  cases unknown with
  | nil => rfl
  | cons c unknown =>
    rw [codes_append (b := c :: unknown ++ after) hbefore, codes_append hafter, hunknown,
      codes_append hgap, List.nil_append]

/-! ## Numbers -/

/-- Every name that is known stands for something. -/
theorem Selects.numbers_ne_nil {name : Text} {code : Code} (h : Selects depth name code) :
    code.numbers ≠ [] := by
  cases h with
  | effect _ => exact List.cons_ne_nil _ _
  | color h => cases h <;> exact List.cons_ne_nil _ _

/-- An effect stands for no color, and a color for no effect. -/
theorem Selects.color_iff {name : Text} {code : Code} (h : Selects depth name code)
    {numbers : List Nat} : NamesColor depth name numbers ↔ code = .color numbers := by
  constructor
  · intro hcolor
    exact Option.some.inj (h.codeOfUpper?_eq.symm.trans hcolor.codeOfUpper?_eq)
  · rintro rfl
    cases h with
    | color h => exact h

theorem Selects.effect_iff {name : Text} {code : Code} (h : Selects depth name code)
    {numbers : List Nat} :
    NamesEffect name numbers ↔ ∃ number, numbers = [number] ∧ code = .effect number := by
  constructor
  · intro heffect
    obtain ⟨number, rfl⟩ := heffect.exists_number
    refine ⟨number, rfl, ?_⟩
    exact Option.some.inj (h.codeOfUpper?_eq.symm.trans (Selects.effect heffect).codeOfUpper?_eq)
  · rintro ⟨number, rfl, rfl⟩
    cases h with
    | effect h => exact h

/-- The numbers of the effects among some codes. -/
def effectNumbers (codes : List Code) : List Nat :=
  (codes.filter Code.isEffect).flatMap Code.numbers

/-- The numbers of the colors among some codes. -/
def colorNumbers (codes : List Code) : List Nat :=
  (codes.filter fun code => !code.isEffect).flatMap Code.numbers

theorem gathers_filterMap (words : List Text) :
    Gathers NamesEffect words (effectNumbers (words.filterMap (code? depth))) ∧
      Gathers (NamesColor depth) words (colorNumbers (words.filterMap (code? depth))) := by
  induction words with
  | nil => exact ⟨.nil, .nil⟩
  | cons name words ih =>
    cases hcode : code? depth name with
    | none =>
      have hunknown := code?_eq_none_iff.1 hcode
      rw [List.filterMap_cons_none hcode]
      exact ⟨.unknown (fun numbers h => hunknown ⟨numbers, .inl h⟩) ih.1,
        .unknown (fun numbers h => hunknown ⟨numbers, .inr h⟩) ih.2⟩
    | some code =>
      have hselects := code?_eq_some_iff.1 hcode
      rw [List.filterMap_cons_some hcode]
      cases code with
      | effect number =>
        refine ⟨.known (hselects.effect_iff.2 ⟨number, rfl, rfl⟩) ih.1, .unknown ?_ ih.2⟩
        exact fun numbers h => nomatch hselects.color_iff.1 h
      | color numbers =>
        refine ⟨.unknown ?_ ih.1, .known (hselects.color_iff.2 rfl) ih.2⟩
        rintro numbers' h
        obtain ⟨_, -, ⟨⟩⟩ := hselects.effect_iff.1 h

/-! ## The sequence -/

theorem Lists.of_codes {names : Text} {effects colors : List Nat}
    (heffects : effectNumbers (codes depth names) = effects)
    (hcolors : colorNumbers (codes depth names) = colors) : Lists depth names effects colors := by
  subst heffects hcolors
  exact ⟨_, Text.hasWords_words names, gathers_filterMap _⟩

/-- A list stands for one choice of numbers. -/
theorem Lists.eq {names : Text} {effects colors : List Nat} (h : Lists depth names effects colors) :
    effects = effectNumbers (codes depth names) ∧ colors = colorNumbers (codes depth names) := by
  obtain ⟨words, hwords, heffects, hcolors⟩ := h
  obtain rfl := hwords.words_eq
  have hgathers := @gathers_filterMap depth (Text.words isSeparator names)
  refine ⟨heffects.unique ?_ hgathers.1, hcolors.unique ?_ hgathers.2⟩
  · intro name a b ha hb
    obtain ⟨number, rfl⟩ := ha.exists_number
    obtain ⟨_, rfl, ⟨⟩⟩ := (@Selects.effect depth name number ha).effect_iff.1 hb
    rfl
  · intro name a b ha hb
    exact Code.color.inj ((Selects.color ha).color_iff.1 hb)

/-- The numbers of two lists with a comma between them. -/
theorem Lists.append {a b : Text} {effects colors effects' colors' : List Nat}
    (ha : Lists depth a effects colors) (hb : Lists depth b effects' colors') :
    Lists depth (a ++ ',' :: b) (effects ++ effects') (colors ++ colors') := by
  obtain ⟨words, hwords, heffects, hcolors⟩ := ha
  obtain ⟨words', hwords', heffects', hcolors'⟩ := hb
  refine ⟨words ++ words', ?_, heffects.append heffects', hcolors.append hcolors'⟩
  rw [Text.hasWords_iff, Text.words_append_separator (by decide), hwords.words_eq, hwords'.words_eq]

theorem sequence_eq_of_codes_eq {a b : Text} (h : codes depth a = codes depth b) :
    sequence depth a = sequence depth b := by
  rw [sequence, sequence, h]

theorem sequence_eq_nil_iff {names : Text} :
    sequence depth names = [] ↔ codes depth names = [] := by
  unfold sequence
  split
  · rename_i hcodes
    exact iff_of_true rfl hcodes
  · rename_i hcodes
    exact iff_of_false (by simp) hcodes

/-- Names that are known give numbers. -/
theorem numbers_inOrder_ne_nil {names : Text} (h : codes depth names ≠ []) :
    (inOrder (codes depth names)).flatMap Code.numbers ≠ [] := by
  intro hnumbers
  obtain ⟨code, hcode⟩ := List.exists_mem_of_ne_nil _ h
  obtain ⟨name, -, hname⟩ := List.mem_filterMap.1 hcode
  have hmem : code ∈ inOrder (codes depth names) := by
    cases hkind : code.isEffect <;> simp [inOrder, hcode, hkind]
  exact (code?_eq_some_iff.1 hname).numbers_ne_nil (List.flatMap_eq_nil_iff.1 hnumbers code hmem)

/-- The sequence is that of the numbers, effects before colors. -/
theorem Lists.sequence_eq {names : Text} {effects colors : List Nat}
    (h : Lists depth names effects colors) :
    sequence depth names = escape (effects ++ colors) := by
  obtain ⟨rfl, rfl⟩ := h.eq
  have hnumbers : effectNumbers (codes depth names) ++ colorNumbers (codes depth names) =
      (inOrder (codes depth names)).flatMap Code.numbers := by
    rw [inOrder, List.flatMap_append]
    rfl
  rw [hnumbers, escape]
  cases hcodes : codes depth names with
  | nil =>
    rw [sequence, hcodes]
    rfl
  | cons code others =>
    rw [← hcodes, if_neg (numbers_inOrder_ne_nil (by rw [hcodes]; exact List.cons_ne_nil _ _)),
      sequence]
    split
    · rename_i hnil
      rw [hnil] at hcodes
      cases hcodes
    · rfl

end

/-- The sequence of a list of style names.  It is empty if no name is known.
Otherwise it is one sequence of decimal numbers, those of all effects before those
of all colors, each in the order of the names.  Letter case, the separators between
names and names that are not known make no difference, and lists are put together
kind by kind. -/
theorem sequence_of_names (depth : ColorDepth) (names : Text) :
    (sequence depth names = [] ↔
      ∀ name, IsWord isSeparator names name → ¬ IsKnown depth name) ∧
    (∃ effects colors, Lists depth names effects colors) ∧
    (∀ effects colors, Lists depth names effects colors →
      sequence depth names = escape (effects ++ colors)) ∧
    (∀ other, Text.sameIgnoringCase names other = true →
      sequence depth other = sequence depth names) ∧
    (∀ other, Respaced isSeparator names other → sequence depth other = sequence depth names) ∧
    (∀ before unknown after, names = before ++ after → Separated isSeparator before after →
      Separated isSeparator before unknown → Separated isSeparator unknown after →
      (∀ name, IsWord isSeparator unknown name → ¬ IsKnown depth name) →
      sequence depth (before ++ (unknown ++ after)) = sequence depth names) ∧
    (∀ other effects colors effects' colors', Lists depth names effects colors →
      Lists depth other effects' colors' →
      Lists depth (names ++ ',' :: other) (effects ++ effects') (colors ++ colors') ∧
        sequence depth (names ++ ',' :: other) =
          escape (effects ++ effects' ++ (colors ++ colors'))) := by
  refine ⟨sequence_eq_nil_iff.trans codes_eq_nil_iff, ⟨_, _, .of_codes rfl rfl⟩,
    fun _ _ => Lists.sequence_eq, ?_, ?_, ?_, ?_⟩
  · intro other hcase
    exact (sequence_eq_of_codes_eq (codes_of_sameIgnoringCase hcase)).symm
  · intro other hspace
    exact (sequence_eq_of_codes_eq (codes_of_respaced hspace)).symm
  · rintro before unknown after rfl hgap hbefore hafter hunknown
    exact sequence_eq_of_codes_eq
      (codes_of_unknown hgap hbefore hafter (codes_eq_nil_iff.2 hunknown))
  · intro other effects colors effects' colors' hnames hother
    have happend := hnames.append hother
    exact ⟨happend, happend.sequence_eq⟩

/-- A list with colors of both grounds, a bright one and a mix: the same sequence for
other letters, other separators and one more name, the nearest shade where mixes are
not shown, and the numbers of a second list among those of their kind. -/
theorem sequence_of_names_manyColors :
    sequence .full "red, bold bg_blue Bright_Green,#ff8000".toList =
      "\x1b[1;31;44;92;38;2;255;128;0m".toList ∧
    sequence .sixteen "red, bold bg_blue Bright_Green,#ff8000".toList =
      "\x1b[1;31;44;92;33m".toList ∧
    sequence .full "RED, Bold BG_blue bright_GREEN,#FF8000".toList =
      "\x1b[1;31;44;92;38;2;255;128;0m".toList ∧
    sequence .full "red\t,bold bg_blue Bright_Green,#ff8000".toList =
      "\x1b[1;31;44;92;38;2;255;128;0m".toList ∧
    sequence .full "red, sparkly bold bg_blue Bright_Green,#ff8000".toList =
      "\x1b[1;31;44;92;38;2;255;128;0m".toList ∧
    sequence .full "red, bold bg_blue Bright_Green,#ff8000,underline bg_#000102 default".toList =
      "\x1b[1;4;31;44;92;38;2;255;128;0;48;2;0;1;2;39m".toList := by
  have hfull : Lists .full "red, bold bg_blue Bright_Green,#ff8000".toList [1]
      [31, 44, 92, 38, 2, 255, 128, 0] := .of_codes (by decide +kernel) (by decide +kernel)
  have hsixteen : Lists .sixteen "red, bold bg_blue Bright_Green,#ff8000".toList [1]
      [31, 44, 92, 33] := .of_codes (by decide +kernel) (by decide +kernel)
  have hother : Lists .full "underline bg_#000102 default".toList [4] [48, 2, 0, 1, 2, 39] :=
    .of_codes (by decide +kernel) (by decide +kernel)
  obtain ⟨-, -, hlists, hcase, hspace, hunknown, hjoined⟩ :=
    sequence_of_names .full "red, bold bg_blue Bright_Green,#ff8000".toList
  obtain ⟨-, -, hnearest, -⟩ :=
    sequence_of_names .sixteen "red, bold bg_blue Bright_Green,#ff8000".toList
  have hsequence : sequence .full "red, bold bg_blue Bright_Green,#ff8000".toList =
      "\x1b[1;31;44;92;38;2;255;128;0m".toList := (hlists _ _ hfull).trans (by decide +kernel)
  have hrespaced : Respaced isSeparator "red, bold bg_blue Bright_Green,#ff8000".toList
      "red\t,bold bg_blue Bright_Green,#ff8000".toList :=
    .keep 'r' (.keep 'e' (.keep 'd' (@Respaced.gap isSeparator ", ".toList "\t,".toList _ _
      ⟨by decide, by decide +kernel⟩ ⟨by decide, by decide +kernel⟩
      (.refl "bold bg_blue Bright_Green,#ff8000".toList))))
  have hspark : ∀ name, IsWord isSeparator "sparkly ".toList name → ¬ IsKnown .full name :=
    codes_eq_nil_iff.1 (by decide +kernel)
  have hsparkly := hunknown "red, ".toList "sparkly ".toList
    "bold bg_blue Bright_Green,#ff8000".toList (by decide +kernel) (.inl (by rintro _ ⟨⟩; rfl))
    (.inl (by rintro _ ⟨⟩; rfl)) (.inl (by rintro _ ⟨⟩; rfl)) hspark
  have hspliced :
      "red, ".toList ++ ("sparkly ".toList ++ "bold bg_blue Bright_Green,#ff8000".toList) =
        "red, sparkly bold bg_blue Bright_Green,#ff8000".toList := by decide +kernel
  rw [hspliced] at hsparkly
  have hboth := (hjoined "underline bg_#000102 default".toList _ _ _ _ hfull hother).2
  have hadded :
      "red, bold bg_blue Bright_Green,#ff8000".toList ++
          ',' :: "underline bg_#000102 default".toList =
        "red, bold bg_blue Bright_Green,#ff8000,underline bg_#000102 default".toList := by
    decide +kernel
  rw [hadded] at hboth
  refine ⟨hsequence, (hnearest _ _ hsixteen).trans (by decide +kernel), ?_, ?_,
    hsparkly.trans hsequence, hboth.trans (by decide +kernel)⟩
  · exact (hcase "RED, Bold BG_blue bright_GREEN,#FF8000".toList (by decide +kernel)).trans
      hsequence
  · exact (hspace "red\t,bold bg_blue Bright_Green,#ff8000".toList hrespaced).trans hsequence

end LogLine.Style
