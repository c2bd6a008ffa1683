/-
  Style/Markup.lean --- spans `@|names text|@` in a message.

  The names end at the first white space.  Spans do not nest: the first `|@`
  closes one.  A span without text, and an opening mark without a closing one,
  are written as they are.
-/
import LogLine.Style.Sequence

set_option autoImplicit false

namespace LogLine.Style

/-- What a message converter does with markup. -/
inductive Markup where
  /-- Nothing: messages are written as they are. -/
  | verbatim
  /-- Spans are written in their style. -/
  | rendered (depth : ColorDepth)
  /-- Spans are written without style. -/
  | stripped
deriving DecidableEq, Repr, Inhabited

namespace Markup

/-- What opens a span. -/
def opening : Text := ['@', '|']

/-- What closes a span. -/
def closing : Text := ['|', '@']

/-- A text in the style of its names. -/
def styledSpan (markup : Markup) (names text : Text) : Text :=
  match markup with
  | .rendered depth => styled true (sequence depth names) text
  | .verbatim | .stripped => styled false [] text

/-- What is written for the inside of a span. -/
def span (markup : Markup) (inside : Text) : Text :=
  match Text.splitOnceWhere Text.isBlank inside with
  | some (names, text) => markup.styledSpan names text
  | none => opening ++ inside ++ closing

/-- Writes a message with its spans replaced; `fuel` bounds their number. -/
def renderWithin (markup : Markup) : Nat → Text → Text
  | 0, message => message
  | fuel + 1, message =>
    match Text.cutAt opening message with
    | none => message
    | some (before, body) =>
      match Text.cutAt closing body with
      | none => message
      | some (inside, rest) => before ++ markup.span inside ++ markup.renderWithin fuel rest

/-- Writes a message. -/
def render (markup : Markup) (message : Text) : Text :=
  match markup with
  | .verbatim => message
  | markup => markup.renderWithin message.length message

end Markup

end LogLine.Style
