/-
  Proofs/Style/StyleNames.lean --- which names select a style, and by what numbers.

  A name is looked up by its beginnings in a fixed order: effects, the default
  colors, mixes behind `BG_#`, `FG_#` and `#`, and plain colors behind `BG_`,
  `FG_` and nothing.  The beginnings overlap, but no name is claimed by two: the
  order gives the same numbers as a grammar that has none.

      NamesEffect, NamesColor     the grammar, with the numbers of each name
      selects_of_codeOfUpper?     the lookup finds nothing else
      Selects.codeOfUpper?_eq     the lookup finds all of it
      code?_eq_some_iff           both, in any case
-/
import Mathlib.Tactic.IntervalCases
import LogLine.Proofs.Lists
import LogLine.Proofs.Style.NearestShade
import LogLine.Proofs.Text.DecimalDigits
import LogLine.Style.Sequence

set_option autoImplicit false

namespace LogLine.Style

/-! ## The grammar of names -/

/-- The effects in upper case, each with its number. -/
inductive NamesEffect : Text → List Nat → Prop where
  | normal : NamesEffect "NORMAL".toList [0]
  | bright : NamesEffect "BRIGHT".toList [1]
  | bold : NamesEffect "BOLD".toList [1]
  | dim : NamesEffect "DIM".toList [2]
  | underline : NamesEffect "UNDERLINE".toList [4]
  | blink : NamesEffect "BLINK".toList [5]
  | reverse : NamesEffect "REVERSE".toList [7]
  | hidden : NamesEffect "HIDDEN".toList [8]

/-- The hues in upper case, each with its number. -/
inductive NamesHue : Text → Nat → Prop where
  | black : NamesHue "BLACK".toList 0
  | red : NamesHue "RED".toList 1
  | green : NamesHue "GREEN".toList 2
  | yellow : NamesHue "YELLOW".toList 3
  | blue : NamesHue "BLUE".toList 4
  | magenta : NamesHue "MAGENTA".toList 5
  | cyan : NamesHue "CYAN".toList 6
  | white : NamesHue "WHITE".toList 7

/-- What stands before the name of a color, given what the color is used for. -/
inductive GroundMark : Ground → Text → Prop where
  | bare : GroundMark .foreground []
  | foreground : GroundMark .foreground "FG_".toList
  | background : GroundMark .background "BG_".toList

/-- The number of black, which those of all other colors are counted from. -/
def firstNumber : Ground → Nat
  | .foreground => 30
  | .background => 40

/-- What stands before the name of a hue. -/
def brightMark : Bool → Text
  | false => []
  | true => "BRIGHT_".toList

/-- The hexadecimal digits in upper case, by value. -/
def hexDigits : Text := "0123456789ABCDEF".toList

/-- Two hexadecimal digits for each of red, green and blue. -/
def SpellsMix (digits : Text) (mix : Nat × Nat × Nat) : Prop :=
  ∃ r₁ r₀ g₁ g₀ b₁ b₀, digits.map some = [r₁, r₀, g₁, g₀, b₁, b₀].map (hexDigits[·]?) ∧
    mix = (16 * r₁ + r₀, 16 * g₁ + g₀, 16 * b₁ + b₀)

/-- The colors in upper case, each with its numbers. -/
inductive NamesColor : ColorDepth → Text → List Nat → Prop where
  /-- The color that the terminal has by itself. -/
  | standard {depth : ColorDepth} {ground : Ground} {mark : Text}
      (hmark : GroundMark ground mark) :
      NamesColor depth (mark ++ "DEFAULT".toList) [firstNumber ground + 9]
  /-- One of the sixteen colors of every terminal. -/
  | plain {depth : ColorDepth} {ground : Ground} {mark hue : Text} {number : Nat}
      (hmark : GroundMark ground mark) (bright : Bool) (hhue : NamesHue hue number) :
      NamesColor depth (mark ++ (brightMark bright ++ hue))
        [firstNumber ground + (brightStep bright + number)]
  /-- A mix, on a terminal that shows it. -/
  | mixed {ground : Ground} {mark digits : Text} {red green blue : Nat}
      (hmark : GroundMark ground mark) (hmix : SpellsMix digits (red, green, blue)) :
      NamesColor .full (mark ++ '#' :: digits) [firstNumber ground + 8, 2, red, green, blue]
  /-- A mix, on a terminal that shows the nearest shade. -/
  | nearest {ground : Ground} {mark digits : Text} {mix : Nat × Nat × Nat} {shade : Nat}
      (hmark : GroundMark ground mark) (hmix : SpellsMix digits mix)
      (hshade : IsNearest mix shade) :
      NamesColor .sixteen (mark ++ '#' :: digits) [firstNumber ground + shade]

/-- The names in upper case and the codes that they select. -/
inductive Selects (depth : ColorDepth) (name : Text) : Code → Prop where
  | effect {number : Nat} (h : NamesEffect name [number]) : Selects depth name (.effect number)
  | color {numbers : List Nat} (h : NamesColor depth name numbers) :
      Selects depth name (.color numbers)

/-! ## Effects -/

theorem namesEffect_of_mem {entry : String × Nat} (h : entry ∈ effects) :
    NamesEffect entry.1.toList [entry.2] := by
  simp only [effects, List.mem_cons, List.not_mem_nil, or_false] at h
  rcases h with rfl | rfl | rfl | rfl | rfl | rfl | rfl | rfl
  exacts [.normal, .bright, .bold, .dim, .underline, .blink, .reverse, .hidden]

/-! ## Colors -/

theorem hexValue?_eq_some_iff {c : Char} {value : Nat} :
    hexValue? c = some value ↔ some c = hexDigits[value]? := by
  constructor
  · have hdigits : ∀ n, 48 ≤ n → n ≤ 57 → some (Char.ofNat n) = hexDigits[n - 48]? := by
      intro n hlow hhigh
      interval_cases n <;> rfl
    have hletters : ∀ n, 65 ≤ n → n ≤ 70 → some (Char.ofNat n) = hexDigits[n - 65 + 10]? := by
      intro n hlow hhigh
      interval_cases n <;> rfl
    intro h
    unfold hexValue? at h
    split at h
    · rename_i hdigit
      obtain ⟨hlow, hhigh⟩ := Text.toNat_of_isDigit hdigit
      obtain rfl := Option.some.inj h
      have hchar := hdigits c.toNat hlow hhigh
      rwa [Char.ofNat_toNat] at hchar
    · split at h
      · rename_i hletter
        simp only [Bool.and_eq_true, decide_eq_true_eq] at hletter
        obtain rfl := Option.some.inj h
        have hchar := hletters c.toNat hletter.1 hletter.2
        rwa [Char.ofNat_toNat] at hchar
      · cases h
  · intro h
    obtain ⟨hvalue, rfl⟩ := List.getElem?_eq_some_iff.1 h.symm
    have hvalue : value < 16 := hvalue
    interval_cases value <;> rfl

theorem mixOfHex?_eq_some_iff {digits : Text} {color : Color} :
    mixOfHex? digits = some color ↔
      ∃ red green blue, SpellsMix digits (red, green, blue) ∧ color = .mixed red green blue := by
  have hspell : ∀ values : List Nat,
      digits.map hexValue? = values.map some ↔ digits.map some = values.map (hexDigits[·]?) := by
    induction digits with
    | nil => exact fun values => by cases values <;> simp
    | cons c digits ih =>
      intro values
      cases values with
      | nil => simp
      | cons value values =>
        simp only [List.map_cons, List.cons.injEq, hexValue?_eq_some_iff, ih]
  constructor
  · intro h
    unfold mixOfHex? at h
    split at h
    · rename_i r₁ r₀ g₁ g₀ b₁ b₀ hvalues
      exact ⟨_, _, _, ⟨r₁, r₀, g₁, g₀, b₁, b₀, (hspell _).1 (mapM_eq_some_iff.1 hvalues), rfl⟩,
        (Option.some.inj h).symm⟩
    · cases h
  · rintro ⟨red, green, blue, ⟨r₁, r₀, g₁, g₀, b₁, b₀, hdigits, ⟨⟩⟩, rfl⟩
    rw [mixOfHex?, mapM_eq_some_iff.2 ((hspell _).2 hdigits)]

theorem namesHue : ∀ hue : Hue, NamesHue hue.name hue.index
  | .black => .black
  | .red => .red
  | .green => .green
  | .yellow => .yellow
  | .blue => .blue
  | .magenta => .magenta
  | .cyan => .cyan
  | .white => .white

theorem NamesHue.exists_hue {name : Text} {number : Nat} (h : NamesHue name number) :
    ∃ hue : Hue, name = hue.name ∧ number = hue.index := by
  cases h with
  | black => exact ⟨.black, rfl, rfl⟩
  | red => exact ⟨.red, rfl, rfl⟩
  | green => exact ⟨.green, rfl, rfl⟩
  | yellow => exact ⟨.yellow, rfl, rfl⟩
  | blue => exact ⟨.blue, rfl, rfl⟩
  | magenta => exact ⟨.magenta, rfl, rfl⟩
  | cyan => exact ⟨.cyan, rfl, rfl⟩
  | white => exact ⟨.white, rfl, rfl⟩

theorem name_of_ofName? {name : Text} {hue : Hue} (h : Hue.ofName? name = some hue) :
    hue.name = name :=
  beq_iff_eq.1 (List.find?_some (p := fun hue : Hue => hue.name == name) h)

theorem eq_of_plainColor? {name : Text} {color : Color} (h : plainColor? name = some color) :
    ∃ bright hue, name = brightMark bright ++ hue.name ∧ color = .plain bright hue := by
  unfold plainColor? at h
  split at h
  · rename_i rest hrest
    obtain ⟨hue, hhue, rfl⟩ := Option.map_eq_some_iff.1 h
    refine ⟨true, hue, ?_, rfl⟩
    rw [name_of_ofName? hhue]
    exact (Text.append_of_isPrefixOf? hrest).symm
  · obtain ⟨hue, hhue, rfl⟩ := Option.map_eq_some_iff.1 h
    exact ⟨false, hue, (name_of_ofName? hhue).symm, rfl⟩

theorem plainCode_eq (ground : Ground) (bright : Bool) (hue : Hue) :
    Color.plainCode ground bright hue = firstNumber ground + (brightStep bright + hue.index) := by
  cases ground <;> cases bright <;> simp only [Color.plainCode, firstNumber, brightStep] <;> omega

/-! ## Looking up a name -/

section

variable {depth : ColorDepth} {name : Text} {code : Code}

/-- The mix behind a mark. -/
theorem Selects.of_mixOfHex? {ground : Ground} {mark digits : Text} (hmark : GroundMark ground mark)
    (h : (mixOfHex? digits).map (fun color => Code.color (color.codes depth ground)) = some code) :
    Selects depth (mark ++ '#' :: digits) code := by
  obtain ⟨color, hcolor, rfl⟩ := Option.map_eq_some_iff.1 h
  obtain ⟨red, green, blue, hmix, rfl⟩ := mixOfHex?_eq_some_iff.1 hcolor
  refine .color ?_
  cases depth with
  | full => cases ground <;> exact .mixed hmark hmix
  | sixteen =>
    rw [Color.codes, plainCode_eq]
    exact .nearest hmark hmix (isNearest_nearest _)

/-- The plain color behind a mark. -/
theorem Selects.of_plainColor? {ground : Ground} {mark rest : Text} (hmark : GroundMark ground mark)
    (h : (plainColor? rest).map (fun color => Code.color (color.codes depth ground)) = some code) :
    Selects depth (mark ++ rest) code := by
  obtain ⟨color, hcolor, rfl⟩ := Option.map_eq_some_iff.1 h
  obtain ⟨bright, hue, rfl, rfl⟩ := eq_of_plainColor? hcolor
  rw [Color.codes, plainCode_eq]
  exact .color (.plain hmark bright (namesHue hue))

/-- The lookup finds nothing that the grammar does not have. -/
theorem selects_of_codeOfUpper? (h : codeOfUpper? depth name = some code) :
    Selects depth name code := by
  unfold codeOfUpper? at h
  split at h
  · rename_i entry hentry
    obtain rfl := Option.some.inj h
    have hname := List.find?_some hentry
    simp only [beq_iff_eq] at hname
    subst hname
    exact .effect (namesEffect_of_mem (List.mem_of_find?_eq_some hentry))
  split at h
  · rename_i hdefault
    obtain rfl := Option.some.inj h
    rcases hdefault with rfl | rfl
    · exact .color (.standard .bare)
    · exact .color (.standard .foreground)
  split at h
  · rename_i hdefault
    obtain rfl := Option.some.inj h
    subst hdefault
    exact .color (.standard .background)
  split at h
  · rename_i digits hdigits
    obtain rfl := Text.append_of_isPrefixOf? hdigits
    exact .of_mixOfHex? .background h
  split at h
  · rename_i digits hdigits
    rcases Option.or_eq_some_iff.1 hdigits with hmark | ⟨-, hmark⟩
    · obtain rfl := Text.append_of_isPrefixOf? hmark
      exact .of_mixOfHex? .foreground h
    · obtain rfl := Text.append_of_isPrefixOf? hmark
      exact .of_mixOfHex? .bare h
  split at h
  · rename_i rest hrest
    obtain rfl := Text.append_of_isPrefixOf? hrest
    exact .of_plainColor? .background h
  · cases hrest : "FG_".toList.isPrefixOf? name with
    | none =>
      rw [hrest] at h
      exact .of_plainColor? .bare h
    | some rest =>
      rw [hrest] at h
      obtain rfl := Text.append_of_isPrefixOf? hrest
      exact .of_plainColor? .foreground h

/-- The lookup finds all colors that the grammar has. -/
theorem NamesColor.codeOfUpper?_eq {numbers : List Nat} (h : NamesColor depth name numbers) :
    codeOfUpper? depth name = some (.color numbers) := by
  cases h with
  | standard hmark => cases hmark <;> rfl
  | plain hmark bright hhue =>
    obtain ⟨hue, rfl, rfl⟩ := hhue.exists_hue
    cases hmark <;> cases bright <;> cases hue <;> rfl
  | mixed hmark hmix =>
    have hcolor := mixOfHex?_eq_some_iff.2 ⟨_, _, _, hmix, rfl⟩
    cases hmark <;> exact congrArg (Option.map _) hcolor
  | @nearest ground mark digits mix shade hmark hmix hshade =>
    have hcolor := mixOfHex?_eq_some_iff.2 ⟨_, _, _, hmix, rfl⟩
    have hcodes : (Color.mixed mix.1 mix.2.1 mix.2.2).codes .sixteen ground =
        [firstNumber ground + shade] := by
      rw [Color.codes, plainCode_eq, hshade.unique (isNearest_nearest mix)]
      rfl
    rw [← hcodes]
    cases hmark <;> exact congrArg (Option.map _) hcolor

/-- The lookup finds all that the grammar has. -/
theorem Selects.codeOfUpper?_eq (h : Selects depth name code) :
    codeOfUpper? depth name = some code := by
  cases h with
  | effect heffect => cases heffect <;> rfl
  | color hcolor => exact hcolor.codeOfUpper?_eq

/-- A name selects what the grammar says of it in upper case. -/
theorem code?_eq_some_iff :
    code? depth name = some code ↔ Selects depth (Text.asciiUpper name) code :=
  ⟨selects_of_codeOfUpper?, Selects.codeOfUpper?_eq⟩

end

end LogLine.Style
