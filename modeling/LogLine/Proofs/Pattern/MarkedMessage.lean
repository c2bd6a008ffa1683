/-
  Proofs/Pattern/MarkedMessage.lean --- messages put together from marked spans.

  A message is plain text and spans between marks, and perhaps a last mark that
  nothing closes.  A span has a style if there is white space in it: what stands
  before the first white space names the style, and the rest is its text.  A
  message converter that renders markup shows each span as it was put in, and
  everything else as it is:

      Markup.replaces_renderWithin   one span
      Builtin.write_marked           what is written
-/
import LogLine.Pattern.Builtin
import LogLine.Pattern.Output
import LogLine.Proofs.Text.Enclosed
import LogLine.Proofs.Text.Slices

set_option autoImplicit false

namespace LogLine

namespace Style

open Text (Stretch items)

/-! ## Spans -/

/-- What stands between the marks of a message. -/
inductive Span where
  /-- Names of a style, a white space and a text. -/
  | styled (names : Text) (blank : Char) (text : Text)
  /-- Names alone. -/
  | bare (names : Text)
deriving DecidableEq

namespace Span

/-- The characters of a span. -/
def inside : Span → Text
  | .styled names blank text => names ++ blank :: text
  | .bare names => names

/-- No white space is in the names, and one stands behind them if a text does. -/
def NamesEnd : Span → Prop
  | .styled names blank _ => names.any Text.isBlank = false ∧ Text.isBlank blank = true
  | .bare names => names.any Text.isBlank = false

instance : (span : Span) → Decidable span.NamesEnd
  | .styled names blank _ =>
    inferInstanceAs (Decidable (names.any Text.isBlank = false ∧ Text.isBlank blank = true))
  | .bare names => inferInstanceAs (Decidable (names.any Text.isBlank = false))

/-- What is shown of a span: its text, in its style if that has a sequence, there
is a text and escape sequences are on.  Names alone stay between their marks. -/
def shown (config : Config) : Span → Text
  | .styled names _ text =>
    let style := sequence config.host.depth names
    if config.isAnsiEnabled = true ∧ style ≠ [] ∧ text ≠ [] then style ++ text ++ reset else text
  | .bare names => Markup.opening ++ names ++ Markup.closing

/-- Every text is the inside of such a span: its names end at the first white
space. -/
theorem exists_inside (s : Text) : ∃ span : Span, span.inside = s ∧ span.NamesEnd := by
  induction s with
  | nil => exact ⟨.bare [], rfl, rfl⟩
  | cons c rest ih =>
    cases hc : Text.isBlank c with
    | true => exact ⟨.styled [] c rest, rfl, rfl, hc⟩
    | false =>
      obtain ⟨span, rfl, hnames⟩ := ih
      cases span with
      | styled names blank text =>
        exact ⟨.styled (c :: names) blank text, rfl, by rw [List.any_cons, hc, hnames.1]; rfl,
          hnames.2⟩
      | bare names =>
        have hall : (c :: names).any Text.isBlank = false := by rw [List.any_cons, hc, hnames]; rfl
        exact ⟨.bare (c :: names), rfl, hall⟩

end Span

/-- How spans are written. -/
def spans : Enclosure Span where
  opening := Markup.opening
  closing := Markup.closing
  inside := Span.inside
  opening_once := ⟨'@', ['|'], rfl, by decide⟩
  closing_once := ⟨'|', ['@'], rfl, by decide⟩

/-- Parts of a message that come apart as they were put together. -/
structure IsMarked (parts : List (Stretch Span)) (unclosed : Option Text) : Prop where
  wellFormed : spans.WellFormed parts unclosed
  names : ∀ span ∈ items parts, span.NamesEnd

/-! ## Rendering -/

namespace Markup

/-- Rendering cuts at the marks and shows what stands between them. -/
theorem replaces_renderWithin (markup : Markup) :
    spans.Replaces markup.span markup.renderWithin := by
  refine ⟨fun fuel s hopen => ?_, fun fuel s before body hopen hclose => ?_,
    fun fuel s before body inside rest hopen hclose => ?_⟩
  · have hopen : Text.cutAt opening s = none := hopen
    cases fuel with
    | zero => rfl
    | succ fuel => rw [renderWithin, hopen]
  · have hopen : Text.cutAt opening s = some (before, body) := hopen
    have hclose : Text.cutAt closing body = none := hclose
    cases fuel with
    | zero => rfl
    | succ fuel =>
      rw [renderWithin, hopen]
      simp only [hclose]
  · have hopen : Text.cutAt opening s = some (before, body) := hopen
    have hclose : Text.cutAt closing body = some (inside, rest) := hclose
    rw [renderWithin, hopen]
    simp only [hclose]

/-- The markup of a message converter that was asked for it. -/
def wanted (config : Config) : Markup :=
  if config.isAnsiEnabled then .rendered config.host.depth else .stripped

theorem render_wanted (config : Config) (message : Text) :
    (wanted config).render message = (wanted config).renderWithin message.length message := by
  unfold wanted
  cases config.isAnsiEnabled <;> rfl

theorem span_wanted (config : Config) {span : Span} (h : span.NamesEnd) :
    (wanted config).span span.inside = span.shown config := by
  cases span with
  | bare names =>
    rw [Markup.span, Span.inside, Text.splitOnceWhere_eq_none h]
    rfl
  | styled names blank text =>
    rw [Markup.span, Span.inside, Text.splitOnceWhere_append h.1 h.2]
    unfold wanted Span.shown
    cases config.isAnsiEnabled with
    | false => simp [styledSpan, styled]
    | true => by_cases htext : text = [] <;> simp [styledSpan, styled, htext]

/-- Each span is shown, and all else is kept. -/
theorem render_write (config : Config) {parts : List (Stretch Span)} {unclosed : Option Text}
    (h : IsMarked parts unclosed) :
    (wanted config).render (spans.write parts unclosed) =
      parts.flatMap (Stretch.show (Span.shown config)) ++ spans.writeEnd unclosed := by
  rw [render_wanted]
  exact (replaces_renderWithin _).scan_write h.wellFormed
    fun span hspan => span_wanted config (h.names span hspan)

end Markup

/-- Every message has such parts. -/
theorem exists_marked (message : Text) :
    ∃ parts unclosed, message = spans.write parts unclosed ∧ IsMarked parts unclosed := by
  obtain ⟨parts, unclosed, hmessage, hparts, hnames⟩ :=
    spans.exists_parts (fun inside _ => Span.exists_inside inside) message
  exact ⟨parts, unclosed, hmessage, hparts, hnames⟩

end Style

/-! ## What is written -/

namespace Builtin

open Style (Span spans IsMarked)

theorem markupOf_of_option {config : Config} {options : List Argument}
    (h : options.any isMarkupOption = true) : markupOf config options = .wanted config := by
  rw [markupOf, if_pos h, Style.Markup.wanted]

theorem markupOf_of_no_option {config : Config} {options : List Argument}
    (h : options.any isMarkupOption = false) : markupOf config options = .verbatim := by
  rw [markupOf, h]
  rfl

/-- The pattern of a message alone gives the converter for its options. -/
theorem compile_message (config : Config) :
    Pattern.compile rules config "%m".toList =
      .done [⟨.message (markupOf config []), .natural⟩] [] ∧
    ∃ options, options.any isMarkupOption = true ∧
      Pattern.compile rules config "%m\x7bansi\x7d".toList =
        .done [⟨.message (markupOf config options), .natural⟩] [] := by
  have hplain : Pattern.scan "%m".toList =
      [.specifier ⟨0, "%m".toList, .natural, ['m'], []⟩] := by decide +kernel
  have hmarked : Pattern.scan "%m\x7bansi\x7d".toList =
      [.specifier ⟨0, "%m\x7bansi\x7d".toList, .natural, ['m'], ["ansi".toList]⟩] := by
    decide +kernel
  refine ⟨?_, Pattern.argumentsOf rules config ["ansi".toList], rfl, ?_⟩
  · rw [Pattern.compile_eq, hplain]
    rfl
  · rw [Pattern.compile_eq, hmarked]
    rfl

/-- With the option for markup, a message put together from plain text and spans
is written with each span in its style, if it has one and escape sequences are on;
names alone, a mark that nothing closes and all plain text are written as they are.
Every message is put together so.  Without the option a message is not changed. -/
theorem write_marked (config : Config) (options : List Argument) (scene : Scene) (buffer : Text) :
    message.create config options = .made (.message (markupOf config options)) [] ∧
    (Pattern.compile rules config "%m".toList =
        .done [⟨.message (markupOf config []), .natural⟩] [] ∧
      ∃ options, options.any isMarkupOption = true ∧
        Pattern.compile rules config "%m\x7bansi\x7d".toList =
          .done [⟨.message (markupOf config options), .natural⟩] []) ∧
    (options.any isMarkupOption = true →
      (∃ parts unclosed, scene.record.payload = spans.write parts unclosed ∧
        IsMarked parts unclosed) ∧
      ∀ parts unclosed, IsMarked parts unclosed →
        scene.record.payload = spans.write parts unclosed →
        Converter.write scene buffer (.message (markupOf config options)) =
          { next := .message (markupOf config options)
            buffer := buffer ++
              (parts.flatMap (Text.Stretch.show (Span.shown config)) ++
                spans.writeEnd unclosed) }) ∧
    (options.any isMarkupOption = false →
      Converter.write scene buffer (.message (markupOf config options)) =
        { next := .message (markupOf config options)
          buffer := buffer ++ scene.record.payload }) := by
  refine ⟨rfl, compile_message config, fun hoption => ⟨Style.exists_marked _, ?_⟩,
    fun hoption => ?_⟩
  · intro parts unclosed hparts hpayload
    rw [Converter.write, markupOf_of_option hoption, hpayload, Style.Markup.render_write _ hparts]
  · rw [Converter.write, markupOf_of_no_option hoption]
    rfl

/-- Parts of a message whose marks touch the characters that they are made of. -/
def crowdedParts : List (Text.Stretch Span) :=
  [.plain "a@".toList, .enclosed (.styled "red,bold".toList ' ' "b |".toList),
    .plain "|@".toList, .enclosed (.bare "@|blue".toList),
    .enclosed (.styled "sparkly".toList '\u2003' [])]

/-- A record with the message that they make before a mark that nothing closes. -/
def crowdedScene : Scene where
  record := { payload := "a@@|red,bold b ||@|@@|@|blue|@@|sparkly\u2003|@@|@|open".toList }

/-- The option for markup. -/
def markupOption : Argument := { text := " ANSI".toList, asPattern := .pure .brokenCharacter }

theorem write_marked_crowdedParts :
    [markupOption].any isMarkupOption = true ∧ IsMarked crowdedParts (some "@|open".toList) ∧
    crowdedScene.record.payload = spans.write crowdedParts (some "@|open".toList) ∧
    crowdedParts.flatMap (Text.Stretch.show (Span.shown {})) ++
        spans.writeEnd (some "@|open".toList) =
      "a@\x1b[1;31mb |\x1b[0m|@@|@|blue|@@|@|open".toList ∧
    Converter.write crowdedScene ['>'] (.message (markupOf {} [markupOption])) =
      { next := .message (markupOf {} [markupOption])
        buffer := ['>'] ++ (crowdedParts.flatMap (Text.Stretch.show (Span.shown {})) ++
          spans.writeEnd (some "@|open".toList)) } ∧
    [].any isMarkupOption = false ∧
    Converter.write crowdedScene ['>'] (.message (markupOf {} [])) =
      { next := .message (markupOf {} []), buffer := ['>'] ++ crowdedScene.record.payload } := by
  have hoption : [markupOption].any isMarkupOption = true := by decide
  have hparts : IsMarked crowdedParts (some "@|open".toList) :=
    ⟨⟨by decide +kernel, by decide +kernel, by decide +kernel⟩, by decide +kernel⟩
  have hpayload : crowdedScene.record.payload =
      spans.write crowdedParts (some "@|open".toList) := by decide +kernel
  obtain ⟨-, -, hmarked, -⟩ := write_marked {} [markupOption] crowdedScene ['>']
  obtain ⟨-, -, -, hplain⟩ := write_marked {} [] crowdedScene ['>']
  exact ⟨hoption, hparts, hpayload, by decide +kernel,
    (hmarked hoption).2 _ _ hparts hpayload, rfl, hplain rfl⟩

end Builtin

end LogLine
