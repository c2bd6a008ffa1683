/-
  Style/Sequence.lean --- style names and the escape sequences they stand for.

  Names are effects (`BOLD`), colors of the foreground (`RED`, `FG_RED`,
  `BRIGHT_RED`) or of the background (`BG_RED`), or mixes (`#ff8000`,
  `BG_#ff8000`), in any case.  One sequence selects all names of a list:
  effects first, then colors, each in the order given.
-/
import LogLine.Style.Color
import LogLine.Text.Slice

set_option autoImplicit false

namespace LogLine.Style

/-- What begins an escape sequence. -/
def introducer : Text := ['\x1b', '[']

/-- The sequence that takes all styles back. -/
def reset : Text := introducer ++ ['0', 'm']

/-- What a style name selects. -/
inductive Code where
  /-- An effect such as bold, by its code. -/
  | effect (code : Nat)
  /-- A color, by the codes that select it. -/
  | color (codes : List Nat)
deriving DecidableEq, Repr, Inhabited

namespace Code

/-- Whether the code is an effect. -/
def isEffect : Code → Bool
  | .effect _ => true
  | .color _ => false

/-- The numbers of a code. -/
def numbers : Code → List Nat
  | .effect code => [code]
  | .color codes => codes

end Code

/-- The effects by name. -/
def effects : List (String × Nat) :=
  [("NORMAL", 0), ("BRIGHT", 1), ("BOLD", 1), ("DIM", 2), ("UNDERLINE", 4), ("BLINK", 5),
   ("REVERSE", 7), ("HIDDEN", 8)]

/-- The value of a hexadecimal digit in upper case. -/
def hexValue? (c : Char) : Option Nat :=
  if c.isDigit then some (c.toNat - '0'.toNat)
  else if 'A'.toNat ≤ c.toNat && c.toNat ≤ 'F'.toNat then some (c.toNat - 'A'.toNat + 10)
  else none

/-- The mix that six hexadecimal digits give. -/
def mixOfHex? (digits : Text) : Option Color :=
  match digits.mapM hexValue? with
  | some [r₁, r₀, g₁, g₀, b₁, b₀] =>
    some (.mixed (16 * r₁ + r₀) (16 * g₁ + g₀) (16 * b₁ + b₀))
  | _ => none

/-- The value of two hexadecimal digits. -/
def channel? : Text → Option Nat
  | [high, low] => do
    let high ← hexValue? high
    let low ← hexValue? low
    some (16 * high + low)
  | _ => none

/-- The mix that six bytes of hexadecimal digits give, cut out pair by pair. -/
def mixOfHexBytes? (s : Text) : Option (Option Color) :=
  if Text.byteLength s = 6 ∧ (s.all fun c => (hexValue? c).isSome) then do
    let red ← Text.sliceBytes? s 0 2
    let green ← Text.sliceBytes? s 2 4
    let blue ← Text.sliceBytes? s 4 6
    some do
      let red ← channel? red
      let green ← channel? green
      let blue ← channel? blue
      some (.mixed red green blue)
  else some none

/-- The plain color with this name. -/
def plainColor? (name : Text) : Option Color :=
  match "BRIGHT_".toList.isPrefixOf? name with
  | some hue => (Hue.ofName? hue).map (.plain true)
  | none => (Hue.ofName? name).map (.plain false)

/-- What an upper-case style name selects. -/
def codeOfUpper? (depth : ColorDepth) (name : Text) : Option Code :=
  let color (ground : Ground) (color : Color) : Code := .color (color.codes depth ground)
  match effects.find? (·.1.toList == name) with
  | some entry => some (.effect entry.2)
  | none =>
    if name = "DEFAULT".toList ∨ name = "FG_DEFAULT".toList then some (.color [39])
    else if name = "BG_DEFAULT".toList then some (.color [49])
    else match "BG_#".toList.isPrefixOf? name with
    | some digits => (mixOfHex? digits).map (color .background)
    | none =>
      match ("FG_#".toList.isPrefixOf? name).or (['#'].isPrefixOf? name) with
      | some digits => (mixOfHex? digits).map (color .foreground)
      | none =>
        match "BG_".toList.isPrefixOf? name with
        | some plain => (plainColor? plain).map (color .background)
        | none =>
          (plainColor? (("FG_".toList.isPrefixOf? name).getD name)).map (color .foreground)

/-- What a style name selects, in any case. -/
def code? (depth : ColorDepth) (name : Text) : Option Code :=
  codeOfUpper? depth (Text.asciiUpper name)

/-- Whether a character stands between style names. -/
def isSeparator (c : Char) : Bool := c == ',' || Text.isBlank c

/-- The codes that a list of names selects, in the order of the names. -/
def codes (depth : ColorDepth) (names : Text) : List Code :=
  (Text.words isSeparator names).filterMap (code? depth)

/-- Effects before colors, each in their order. -/
def inOrder (codes : List Code) : List Code :=
  codes.filter Code.isEffect ++ codes.filter fun code => !code.isEffect

/-- Numbers in decimal, with semicolons between them. -/
def joinNumbers (numbers : List Nat) : Text := [';'].intercalate (numbers.map Text.ofNat)

/-- The escape sequence for a list of style names; empty if none is known. -/
def sequence (depth : ColorDepth) (names : Text) : Text :=
  match codes depth names with
  | [] => []
  | known => introducer ++ joinNumbers ((inOrder known).flatMap Code.numbers) ++ ['m']

/-- A text in a style.  Nothing is added to an empty text, without a style, or
where escape sequences are off. -/
def styled (ansi : Bool) (style text : Text) : Text :=
  if text = [] then []
  else if ansi ∧ style ≠ [] then style ++ text ++ reset
  else text

end LogLine.Style
