/-
  Proofs/Pattern/Printing.lean --- a printed pattern is read back.

  A pattern is made of literal text and of specifiers.  `Item.print` writes
  either: text with its percent signs doubled, a specifier as flag, widths, key
  and options.  Compiling what was printed gives one field for each item, in
  order, and reports nothing:

      compile_print                the fields that the items denote
      compile_print_specifier_iff  one specifier

  `Printable` says when items can be told apart once they are printed: no two
  texts in a row, and no specifier that what follows goes on with.
-/
import LogLine.Pattern.Builtin
import LogLine.Proofs.Pattern.Resolution
import LogLine.Proofs.Pattern.SpecifierForm
import LogLine.Proofs.Text.DecimalDigits

set_option autoImplicit false

namespace LogLine.Pattern

/-! ## Numbers -/

theorem isDigits_ofNat (n : Nat) : IsDigits (Text.ofNat n) := by
  intro c hc
  exact Nat.isDigit_of_mem_toDigits (by decide) (by decide) hc

theorem saturated_ofNat (n : Nat) : saturated (Text.ofNat n) = min n maxSize := by
  rw [saturated, Text.digitsValue_ofNat]

/-- A size as a greatest width: the greatest one bounds nothing. -/
def boundOfSize (n : Nat) : Option Nat := if n < maxSize then some n else none

theorem boundOf_ofNat (n : Nat) : boundOf (Text.ofNat n) = boundOfSize n := by
  rw [boundOf, saturated_ofNat, boundOfSize]
  by_cases h : n < maxSize
  · rw [if_pos h, Nat.min_eq_left (Nat.le_of_lt h), if_neg (Nat.ne_of_lt h)]
  · rw [if_neg h, Nat.min_eq_right (Nat.le_of_not_lt h), if_pos rfl]

/-! ## Items and how they are printed -/

/-- A specifier that a pattern is made of. -/
structure SpecifierItem where
  /-- Whether its field is left-aligned. -/
  left : Bool
  /-- The least width, if one is given. -/
  least : Option Nat
  /-- The greatest width, if one is given. -/
  most : Option Nat
  /-- The key. -/
  key : Text
  /-- The options. -/
  options : List Text
deriving DecidableEq, Repr, Inhabited

/-- What a pattern is made of. -/
inductive Item where
  /-- Literal text. -/
  | text (text : Text)
  /-- A specifier. -/
  | specifier (specifier : SpecifierItem)
deriving DecidableEq, Repr, Inhabited

namespace SpecifierItem

/-- A specifier as it is written in a pattern. -/
def print (item : SpecifierItem) : Text :=
  '%' :: ((if item.left then ['-'] else []) ++
    ((match item.least with
      | some n => Text.ofNat n
      | none => []) ++
    ((match item.most with
      | some n => '.' :: Text.ofNat n
      | none => []) ++
    (item.key ++ item.options.flatMap braced))))

/-- The widths of the field. -/
def width (item : SpecifierItem) : FieldWidth :=
  { left := item.left, least := item.least.getD 0, most := item.most.bind boundOfSize }

/-- A specifier that a pattern can hold. -/
structure Valid (item : SpecifierItem) : Prop where
  /-- The least width is allowed. -/
  least : item.least.getD 0 ≤ maxFieldWidth
  /-- The key is one. -/
  key : IsKey item.key
  /-- The braces of each option match. -/
  options : ∀ option ∈ item.options, Balanced option

/-- The text after a specifier goes on neither with its options nor, if it has
none, with its key. -/
structure EndsBefore (item : SpecifierItem) (after : Text) : Prop where
  /-- No further option follows. -/
  brace : after.head? ≠ some '{'
  /-- The key does not go on. -/
  name : item.options = [] → ∀ c ∈ after.head?, Text.isNamePart c = false

/-- The parts that a specifier is written in. -/
def toForm (item : SpecifierItem) : SpecifierForm :=
  { dashes := if item.left then 1 else 0
    least := (item.least.map Text.ofNat).getD []
    most := item.most.map Text.ofNat
    key := item.key
    options := item.options }

theorem print_eq (item : SpecifierItem) : item.print = '%' :: item.toForm.body := by
  cases hleft : item.left <;> cases hleast : item.least <;> cases hmost : item.most <;>
    simp [print, toForm, SpecifierForm.body, SpecifierForm.bound, hleft, hleast, hmost]

theorem wellFormed_toForm {item : SpecifierItem} (h : item.Valid) : item.toForm.WellFormed where
  least := by
    cases hleast : item.least with
    | none => simp [toForm, hleast, IsDigits]
    | some n => simpa [toForm, hleast] using isDigits_ofNat n
  most := by
    intro digits hdigits
    obtain ⟨n, _, rfl⟩ := Option.map_eq_some_iff.1 hdigits
    exact ⟨Nat.toDigits_ne_nil, isDigits_ofNat n⟩
  key := h.key
  options := h.options

theorem width_toForm {item : SpecifierItem} (h : item.Valid) : item.toForm.width = item.width := by
  have hleft : decide (0 < item.toForm.dashes) = item.left := by
    cases hl : item.left <;> simp [toForm, hl]
  have hleast : saturated item.toForm.least = item.least.getD 0 := by
    have hle := h.least
    cases hl : item.least with
    | none => simp [toForm, hl, saturated, Text.digitsValue]
    | some n =>
      rw [hl] at hle
      have hn : n ≤ maxSize := Nat.le_trans hle (by decide)
      simp [toForm, hl, saturated_ofNat, Nat.min_eq_left hn]
  have hmost : item.toForm.most.bind boundOf = item.most.bind boundOfSize := by
    cases hm : item.most with
    | none => simp [toForm, hm]
    | some n => simp [toForm, hm, boundOf_ofNat]
  rw [SpecifierForm.width, hleft, hleast, hmost, width]

end SpecifierItem

namespace Item

/-- Literal text with its percent signs doubled. -/
def escape (s : Text) : Text := s.flatMap fun c => if c = '%' then ['%', '%'] else [c]

/-- An item as it is written in a pattern. -/
def print : Item → Text
  | .text s => escape s
  | .specifier item => item.print

/-- Whether the first item is text. -/
def startWithText : List Item → Bool
  | .text _ :: _ => true
  | _ => false

/-- Items as they are written in a pattern. -/
def printAll (items : List Item) : Text := items.flatMap print

/-- Items that can be told apart once they are printed. -/
def Printable : List Item → Prop
  | [] => True
  | .text s :: rest => s ≠ [] ∧ startWithText rest = false ∧ Printable rest
  | .specifier item :: rest => item.Valid ∧ item.EndsBefore (printAll rest) ∧ Printable rest

/-- The field that an item stands for: text is written as it is, and a specifier
by the converter that the plugin of its key makes from its options, reporting
nothing. -/
inductive Denotes (rules : Rules) (config : Config) : Item → Field → Prop where
  | text (s : Text) :
      Denotes rules config (.text s) { converter := .literal (.verbatim s), width := .natural }
  | specifier {item : SpecifierItem} {plugin : Plugin} {converter : Converter}
      (hkey : rules.find? item.key = some plugin)
      (hmade : plugin.create config (argumentsOf rules config item.options) =
        .made converter []) :
      Denotes rules config (.specifier item) { converter, width := item.width }

end Item

/-! ## Reading what was printed -/

section

variable {rules : Rules} {config : Config}

/-- Printed text is read character by character. -/
theorem resolve_escape (position : Nat) (s t : Text) :
    ∃ position', (scanFrom position (Item.escape s ++ t)).map (resolvePiece rules config) =
      s.map (fun c => some (.text [c], [])) ++
        (scanFrom position' t).map (resolvePiece rules config) := by
  induction s generalizing position with
  | nil => exact ⟨position, rfl⟩
  | cons c s ih =>
    by_cases hc : c = '%'
    · subst hc
      obtain ⟨position', h⟩ := ih (position + 2)
      refine ⟨position', ?_⟩
      have hsplit : Item.escape ('%' :: s) ++ t = '%' :: '%' :: (Item.escape s ++ t) := by
        simp [Item.escape]
      rw [hsplit, scanFrom_percent, List.map_cons, h]
      rfl
    · obtain ⟨position', h⟩ := ih (position + 1)
      refine ⟨position', ?_⟩
      have hsplit : Item.escape (c :: s) ++ t = c :: (Item.escape s ++ t) := by
        simp [Item.escape, hc]
      rw [hsplit, scanFrom_literal hc, List.map_cons, h]
      rfl

theorem gather_text (s : Text) (parts : List Resolved) :
    gather config (s.map (fun c => .text [c]) ++ parts) =
      (s ++ (gather config parts).1, (gather config parts).2) := by
  induction s with
  | nil => rfl
  | cons c s ih =>
    rw [List.map_cons, List.cons_append, gather, ih]
    rfl

theorem scanFrom_printed {item : SpecifierItem} {rest : Text} (hitem : item.Valid)
    (hend : item.EndsBefore rest) (position : Nat) :
    scanFrom position (item.print ++ rest) = .specifier (item.toForm.toSpecifier position []) ::
      scanFrom (position + (item.toForm.toSpecifier position []).raw.length) rest := by
  have hform : item.toForm.EndsBefore [] rest := ⟨.nothing hend.brace, hend.name⟩
  rw [SpecifierItem.print_eq, List.cons_append]
  exact scanFrom_form (SpecifierItem.wellFormed_toForm hitem) hform position

theorem resolvePiece_printed {item : SpecifierItem} {plugin : Plugin} {converter : Converter}
    (hitem : item.Valid) (hkey : rules.find? item.key = some plugin)
    (hmade : plugin.create config (argumentsOf rules config item.options) = .made converter [])
    (position : Nat) :
    resolvePiece rules config (.specifier (item.toForm.toSpecifier position [])) =
      some (.field { converter, width := item.width } [], []) := by
  have hne : item.key ≠ [] := ne_nil_of_isKey hitem.key
  have hwidth : item.toForm.width = item.width := SpecifierItem.width_toForm hitem
  rw [← hwidth]
  refine resolvePiece_specifier_iff.2 ⟨?_, hne, plugin, [], converter, ?_, hmade, rfl⟩
  · exact (congrArg FieldWidth.least hwidth).trans_le hitem.least
  · exact Rules.resolve?_of_find? hne hkey

/-- Printed items are resolved to the fields they denote; literal text is gathered
only where the first item is text. -/
theorem exists_parts_of_printable (hb : config.convertBackslashes = false)
    (hl : config.hasLookups = false) {items : List Item} {fields : Pattern}
    (hprint : Item.Printable items)
    (hdenote : List.Forall₂ (Item.Denotes rules config) items fields) (position : Nat) :
    ∃ parts : List Resolved,
      (scanFrom position (Item.printAll items)).map (resolvePiece rules config) =
        parts.map (fun part => some (part, [])) ∧
      assemble config parts = fields ∧
      (Item.startWithText items = false → (gather config parts).1 = []) := by
  induction hdenote generalizing position with
  | nil => exact ⟨[], by simp [Item.printAll, scanFrom], rfl, fun _ => rfl⟩
  | @cons item field items fields hfield _ ih =>
    cases hfield with
    | text s =>
      obtain ⟨hne, hstart, hrest⟩ := hprint
      obtain ⟨position', hread⟩ := resolve_escape position s (Item.printAll items)
      obtain ⟨parts, hparts, hfields, hgather⟩ := ih hrest position'
      refine ⟨s.map (fun c => .text [c]) ++ parts, ?_, ?_, fun h => by cases h⟩
      · have hprinted : Item.printAll (.text s :: items) =
            Item.escape s ++ Item.printAll items := rfl
        rw [hprinted, hread, hparts, List.map_append, List.map_map]
        rfl
      · -- nothing is gathered after the text, so the text is a field of its own
        have hnil := hgather hstart
        rw [assemble_eq, hnil] at hfields
        rw [assemble_eq, gather_text, hnil, ← hfields]
        simp [flush, hne, literalField, Literal.ofConfig, Literal.verbatim, hb, hl]
    | @specifier item plugin converter hkey hmade =>
      obtain ⟨hitem, hend, hrest⟩ := hprint
      obtain ⟨parts, hparts, hfields, _⟩ :=
        ih hrest (position + (item.toForm.toSpecifier position []).raw.length)
      refine ⟨.field { converter, width := item.width } [] :: parts, ?_, ?_, fun _ => rfl⟩
      · have hprinted : Item.printAll (.specifier item :: items) =
            item.print ++ Item.printAll items := rfl
        rw [hprinted, scanFrom_printed hitem hend, List.map_cons, hparts, List.map_cons,
          resolvePiece_printed hitem hkey hmade]
      · rw [← hfields]
        rfl

/-- Printing a list of items and compiling it gives the fields that the items
denote, one for each item and in their order, and no report. -/
theorem compile_print {items : List Item} {fields : Pattern}
    (hb : config.convertBackslashes = false) (hl : config.hasLookups = false)
    (hprint : Item.Printable items)
    (hdenote : List.Forall₂ (Item.Denotes rules config) items fields) :
    compile rules config (Item.printAll items) = .done fields [] := by
  obtain ⟨parts, hparts, hfields, _⟩ := exists_parts_of_printable hb hl hprint hdenote 0
  exact compile_eq_done_nil_iff.2 ⟨parts, hparts, hfields.symm⟩

/-- A pattern of one specifier is compiled without a report if and only if the
plugin of its key makes a converter without one, whatever the settings. -/
theorem compile_print_specifier_iff {item : SpecifierItem} {plugin : Plugin}
    {converter : Converter} (hitem : item.Valid) (hkey : rules.find? item.key = some plugin) :
    compile rules config item.print = .done [{ converter, width := item.width }] [] ↔
      plugin.create config (argumentsOf rules config item.options) = .made converter [] := by
  have hscan : scan item.print = [.specifier (item.toForm.toSpecifier 0 [])] := by
    have hend : item.EndsBefore [] := ⟨by simp, by simp⟩
    have hread := scanFrom_printed hitem hend 0
    rw [List.append_nil] at hread
    rw [scan, hread, scanFrom]
  rw [compile_eq_done_nil_iff, hscan]
  constructor
  · rintro ⟨parts, hparts, hfields⟩
    obtain ⟨part, rfl⟩ : ∃ part, parts = [part] :=
      List.length_eq_one_iff.1 (by simpa using (congrArg List.length hparts).symm)
    obtain ⟨-, hne, plugin', leftover, converter', hfound, hmade, rfl⟩ :=
      resolvePiece_specifier_iff.1 (List.cons.inj hparts).1
    have hlongest := Rules.resolve?_of_find? hne hkey
    obtain ⟨rfl, rfl⟩ := Prod.mk.inj (Option.some.inj (hfound.symm.trans hlongest))
    obtain ⟨rfl, -⟩ := Field.mk.inj (List.cons.inj hfields).1
    exact hmade
  · intro hmade
    refine ⟨[.field { converter, width := item.width } []], ?_, rfl⟩
    rw [List.map_singleton, resolvePiece_printed hitem hkey hmade, List.map_singleton]

end

/-- A level with flag, widths and an option. -/
def sampleLevel : SpecifierItem :=
  ⟨true, some 5, some (Nat.pow 10 20), "level".toList, ["length=2".toList]⟩

/-- A message with nothing but its key and a greatest width. -/
def sampleMessage : SpecifierItem := ⟨false, none, some 3, ['m'], []⟩

/-- Text with a percent sign, and two specifiers with more text after them. -/
def sampleItems : List Item :=
  [.text "100% ".toList, .specifier sampleLevel, .specifier sampleMessage, .text " é".toList]

theorem compile_print_sampleItems :
    Item.Printable sampleItems ∧
      ∃ fields, List.Forall₂ (Item.Denotes Builtin.rules {}) sampleItems fields ∧
        compile Builtin.rules {} (Item.printAll sampleItems) = .done fields [] := by
  have hlevel : sampleLevel.Valid :=
    ⟨by decide, ⟨'l', "evel".toList, rfl, by decide, List.all_eq_true.1 (by decide)⟩, by decide⟩
  have hmessage : sampleMessage.Valid :=
    ⟨by decide, ⟨'m', [], rfl, by decide, List.forall_mem_nil _⟩, by decide⟩
  have hlevelEnd : sampleLevel.EndsBefore
      (Item.printAll [.specifier sampleMessage, .text " é".toList]) :=
    ⟨by decide, nofun⟩
  have hmessageEnd : sampleMessage.EndsBefore (Item.printAll [.text " é".toList]) := by
    refine ⟨by decide, ?_⟩
    intro _ c hc
    obtain rfl : ' ' = c := Option.some.inj hc
    decide
  have hprint : Item.Printable sampleItems :=
    ⟨by decide, rfl, hlevel, hlevelEnd, hmessage, hmessageEnd, by decide, rfl, trivial⟩
  have hdenote := List.Forall₂.cons (Item.Denotes.text "100% ".toList)
    (.cons (@Item.Denotes.specifier Builtin.rules {} sampleLevel Builtin.level _ rfl rfl)
      (.cons (@Item.Denotes.specifier Builtin.rules {} sampleMessage Builtin.message _ rfl rfl)
        (.cons (.text " é".toList) .nil)))
  exact ⟨hprint, _, hdenote, compile_print rfl rfl hprint hdenote⟩

end LogLine.Pattern
