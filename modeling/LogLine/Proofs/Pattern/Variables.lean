/-
  Proofs/Pattern/Variables.lean --- literal text put together from variables.

  Literal text is plain text and variables `${name}` or `${name:-default}`, and
  perhaps a last opening mark that nothing closes.  Each variable is written as
  its value, else its default, else itself; the value is not searched again, and
  everything else is written as it is.  Names that begin with `env:` are looked up
  in the environment and nowhere else:

      Literal.replaces_substituteWithin   one variable
      Lookups.find?_environmentMark       variables of the environment
      Literal.write_variables             what is written
-/
import LogLine.Pattern.Output
import LogLine.Proofs.Pattern.LiteralText
import LogLine.Proofs.Text.Enclosed

set_option autoImplicit false

namespace LogLine

/-! ## Lookups -/

namespace Lookups

/-- A name after the mark is looked up in the environment or nowhere. -/
theorem find?_environmentMark (lookups : Lookups) (key : Text) :
    lookups.find? (environmentMark ++ key) = lookups.environment.bind (·.valueOf? key) := by
  rw [find?, Text.isPrefixOf?_append]

/-- Any other name is looked up among the properties. -/
theorem find?_of_not_environmentMark (lookups : Lookups) {name : Text}
    (h : ¬ environmentMark <+: name) :
    lookups.find? name = lookups.properties.valueOf? name := by
  rw [find?]
  cases hmark : environmentMark.isPrefixOf? name with
  | none => rfl
  | some key => exact absurd ⟨key, Text.append_of_isPrefixOf? hmark⟩ h

end Lookups

namespace Literal

open Text (Stretch items)

/-! ## Variables -/

/-- A variable of literal text. -/
structure Variable where
  /-- What is looked up. -/
  name : Text
  /-- What stands for a value that is not found. -/
  default : Option Text
deriving DecidableEq

namespace Variable

/-- The characters of a variable between its braces. -/
def inside (item : Variable) : Text :=
  match item.default with
  | none => item.name
  | some default => item.name ++ defaultMark ++ default

/-- What is shown of a variable: its value, else its default, else itself. -/
def shown (lookups : Lookups) (item : Variable) : Text :=
  ((lookups.find? item.name).or item.default).getD
    (opening ++ item.inside ++ ['\x7d'])

theorem beginsOnce_defaultMark : Text.BeginsOnce defaultMark := ⟨':', ['-'], rfl, by decide⟩

/-- Every text is the inside of a variable: its name ends at the first mark of a
default. -/
theorem exists_inside (s : Text) :
    ∃ item : Variable, item.inside = s ∧ ¬ defaultMark <:+: item.name := by
  cases hcut : Text.cutAt defaultMark s with
  | none => exact ⟨⟨s, none⟩, rfl, Text.cutAt_eq_none_iff.1 hcut⟩
  | some cut =>
    exact ⟨⟨cut.1, some cut.2⟩, Text.append_of_cutAt hcut,
      Text.not_infix_of_cutAt beginsOnce_defaultMark.ne_nil hcut⟩

/-- A variable whose name has no mark of a default is expanded to what is shown. -/
theorem expand_inside (lookups : Lookups) {item : Variable}
    (h : ¬ defaultMark <:+: item.name) : expand lookups item.inside = item.shown lookups := by
  obtain ⟨name, default⟩ := item
  cases default with
  | none =>
    have hcut : Text.cutAt defaultMark name = none := Text.cutAt_eq_none_iff.2 h
    have hinside : inside ⟨name, none⟩ = name := rfl
    simp only [expand, hinside, hcut, shown]
    cases lookups.find? name <;> rfl
  | some default =>
    have hcut : Text.cutAt defaultMark (inside ⟨name, some default⟩) = some (name, default) :=
      Text.cutAt_of_apart (beginsOnce_defaultMark.apart _) h
    simp only [expand, hcut, shown]
    cases lookups.find? name <;> rfl

end Variable

/-- How variables are written. -/
def braced : Enclosure Variable where
  opening := opening
  closing := ['\x7d']
  inside := Variable.inside
  opening_once := ⟨'$', ['\x7b'], rfl, by decide⟩
  closing_once := ⟨'\x7d', [], rfl, by decide⟩

/-- Parts of literal text that come apart as they were put together. -/
structure HasParts (parts : List (Stretch Variable)) (unclosed : Option Text) : Prop where
  wellFormed : braced.WellFormed parts unclosed
  names : ∀ item ∈ items parts, ¬ defaultMark <:+: item.name

/-- Every text has such parts. -/
theorem exists_hasParts (text : Text) :
    ∃ parts unclosed, text = braced.write parts unclosed ∧ HasParts parts unclosed := by
  obtain ⟨parts, unclosed, htext, hparts, hnames⟩ :=
    braced.exists_parts (fun inside _ => Variable.exists_inside inside) text
  exact ⟨parts, unclosed, htext, hparts, hnames⟩

/-! ## Substitution -/

/-- Substitution cuts at the marks and expands what stands between them. -/
theorem replaces_substituteWithin (lookups : Lookups) :
    braced.Replaces (expand lookups) (substituteWithin lookups) := by
  refine ⟨fun fuel s hopen => substituteWithin_of_cutAt_eq_none hopen fuel,
    fun fuel s before body hopen hclose => ?_,
    fun fuel s before body inside rest hopen hclose => ?_⟩
  · have hopen : Text.cutAt opening s = some (before, body) := hopen
    have hclose : Text.splitOnce '\x7d' body = none :=
      (Text.splitOnce_eq_cutAt _ _).trans hclose
    cases fuel with
    | zero => rfl
    | succ fuel =>
      rw [substituteWithin, hopen]
      simp only [hclose]
  · have hopen : Text.cutAt opening s = some (before, body) := hopen
    have hclose : Text.splitOnce '\x7d' body = some (inside, rest) :=
      (Text.splitOnce_eq_cutAt _ _).trans hclose
    rw [substituteWithin, hopen]
    simp only [hclose]

theorem substitute_write (lookups : Lookups) {parts : List (Stretch Variable)}
    {unclosed : Option Text} (h : HasParts parts unclosed) :
    substitute lookups (braced.write parts unclosed) =
      parts.flatMap (Stretch.show (Variable.shown lookups)) ++ braced.writeEnd unclosed :=
  (replaces_substituteWithin lookups).scan_write h.wellFormed
    fun item hitem => Variable.expand_inside lookups (h.names item hitem)

/-! ## What is written -/

/-- Where variables are looked up at all, leaving them alone in text without an
opening mark is what looking them up there comes to. -/
theorem output_eq_substitute {config : Config} (h : config.hasLookups = true) (text : Text) :
    (ofConfig config text).output = substitute config.lookups (ofConfig config text).text := by
  rw [output_ofConfig, if_pos h]
  rfl

theorem lookups_eq_none_iff {config : Config} (h : config.hasLookups = true) (text : Text) :
    (ofConfig config text).lookups = none ↔ ¬ opening <:+: (ofConfig config text).text := by
  have hlookups : (ofConfig config text).lookups =
      if config.hasLookups && Text.contains opening (ofConfig config text).text then
        some config.lookups
      else none := rfl
  rw [hlookups, h, Bool.true_and, ← Text.cutAt_eq_none_iff, Text.contains]
  cases Text.cutAt opening (ofConfig config text).text <;> simp

/-- If there is anything to look up in, literal text put together from plain text
and variables is written with each variable as its value, else its default, else
itself, and everything else as it is.  Every literal text is put together so; it is
the text of the pattern, once escapes are read if there are any.  A name after
`env:` is looked up in the environment, if that may be read, and any other name
among the properties.  Text without an opening mark is not searched, which makes
no difference. -/
theorem write_variables {config : Config} (hconfig : config.hasLookups = true) (text : Text)
    (scene : Scene) (buffer : Text) :
    ((∃ parts unclosed, (ofConfig config text).text = braced.write parts unclosed ∧
        HasParts parts unclosed) ∧
      ∀ parts unclosed, HasParts parts unclosed →
        (ofConfig config text).text = braced.write parts unclosed →
        Converter.write scene buffer (.literal (ofConfig config text)) =
          { next := .literal (ofConfig config text)
            buffer := buffer ++ (parts.flatMap (Stretch.show (Variable.shown config.lookups)) ++
              braced.writeEnd unclosed) }) ∧
    ((config.convertBackslashes = true → '\\' ∉ text.dropLast) →
      (ofConfig config text).text = text) ∧
    ((∀ key, config.lookups.find? (Lookups.environmentMark ++ key) =
        if config.environmentLookups then config.host.environment.valueOf? key else none) ∧
      ∀ name, ¬ Lookups.environmentMark <+: name →
        config.lookups.find? name = config.properties.valueOf? name) ∧
    ((ofConfig config text).lookups = none ↔ ¬ opening <:+: (ofConfig config text).text) ∧
    (ofConfig config text).output = substitute config.lookups (ofConfig config text).text := by
  refine ⟨⟨exists_hasParts _, fun parts unclosed hparts htext => ?_⟩, unescaped_eq_self_iff.2,
    ⟨fun key => ?_, fun name hname => Lookups.find?_of_not_environmentMark _ hname⟩,
    lookups_eq_none_iff hconfig text, output_eq_substitute hconfig text⟩
  · rw [Converter.write, output_eq_substitute hconfig, htext, substitute_write _ hparts]
  · rw [Lookups.find?_environmentMark, Config.lookups]
    cases config.environmentLookups <;> rfl

/-- Settings with values that look like variables. -/
def nestedConfig : Config where
  environmentLookups := true
  properties := [("a:".toList, "$\x7bb\x7d".toList), ("b".toList, "\x7d".toList)]
  host := { environment := [("HOME".toList, "/root".toList)] }

/-- Parts of literal text whose marks touch the characters that they are made of. -/
def nestedParts : List (Stretch Variable) :=
  [.plain "$".toList, .enclosed ⟨"a:".toList, some "none".toList⟩, .plain "\x7b\x7d$".toList,
    .enclosed ⟨"env:HOME".toList, none⟩, .enclosed ⟨"env:b".toList, some ":-$\x7b".toList⟩,
    .enclosed ⟨"c$\x7b".toList, none⟩]

/-- The text that they make before a mark that nothing closes. -/
def nestedText : Text :=
  "$$\x7ba::-none\x7d\x7b\x7d$$\x7benv:HOME\x7d$\x7benv:b:-:-$\x7b\x7d$\x7bc$\x7b\x7d$\x7bb".toList

theorem write_variables_nestedParts :
    nestedConfig.hasLookups = true ∧ HasParts nestedParts (some ['b']) ∧
    (ofConfig nestedConfig nestedText).text = braced.write nestedParts (some ['b']) ∧
    nestedParts.flatMap (Stretch.show (Variable.shown nestedConfig.lookups)) ++
        braced.writeEnd (some ['b']) =
      "$$\x7bb\x7d\x7b\x7d$/root:-$\x7b$\x7bc$\x7b\x7d$\x7bb".toList ∧
    Converter.write { record := {} } ['>'] (.literal (ofConfig nestedConfig nestedText)) =
      { next := .literal (ofConfig nestedConfig nestedText)
        buffer := ['>'] ++
          (nestedParts.flatMap (Stretch.show (Variable.shown nestedConfig.lookups)) ++
            braced.writeEnd (some ['b'])) } ∧
    '\\' ∉ nestedText.dropLast ∧ (ofConfig nestedConfig nestedText).text = nestedText ∧
    ¬ Lookups.environmentMark <+: "b".toList ∧
    nestedConfig.lookups.find? "b".toList = nestedConfig.properties.valueOf? "b".toList := by
  have hconfig : nestedConfig.hasLookups = true := rfl
  have hparts : HasParts nestedParts (some ['b']) :=
    ⟨⟨by decide +kernel, by decide +kernel, by decide +kernel⟩, by decide +kernel⟩
  have htext : (ofConfig nestedConfig nestedText).text = braced.write nestedParts (some ['b']) :=
    by decide +kernel
  have hslash : '\\' ∉ nestedText.dropLast := by decide +kernel
  have hname : ¬ Lookups.environmentMark <+: "b".toList := by decide +kernel
  obtain ⟨⟨-, hwritten⟩, hself, ⟨-, hproperty⟩, -⟩ :=
    write_variables hconfig nestedText { record := {} } ['>']
  exact ⟨hconfig, hparts, htext, by decide +kernel, hwritten _ _ hparts htext, hslash,
    hself fun _ => hslash, hname, hproperty _ hname⟩

end Literal

end LogLine
