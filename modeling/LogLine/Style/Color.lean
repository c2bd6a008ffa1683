/-
  Style/Color.lean --- colors of a terminal and their codes.

  A terminal of full depth shows any mix of red, green and blue.  One of
  sixteen colors shows the nearest of those in place of a mix.
-/
import LogLine.Text.Numeral

set_option autoImplicit false

namespace LogLine.Style

/-- The eight hues of a terminal, in the order of their codes. -/
inductive Hue where
  | black
  | red
  | green
  | yellow
  | blue
  | magenta
  | cyan
  | white
deriving DecidableEq, Repr, Inhabited

namespace Hue

/-- All hues, in the order of their codes. -/
def all : List Hue := [.black, .red, .green, .yellow, .blue, .magenta, .cyan, .white]

/-- The number of a hue. -/
def index : Hue → Nat
  | .black => 0
  | .red => 1
  | .green => 2
  | .yellow => 3
  | .blue => 4
  | .magenta => 5
  | .cyan => 6
  | .white => 7

/-- The name of a hue, in upper case. -/
def name : Hue → Text
  | .black => "BLACK".toList
  | .red => "RED".toList
  | .green => "GREEN".toList
  | .yellow => "YELLOW".toList
  | .blue => "BLUE".toList
  | .magenta => "MAGENTA".toList
  | .cyan => "CYAN".toList
  | .white => "WHITE".toList

/-- The hue with this name. -/
def ofName? (name : Text) : Option Hue := all.find? (·.name == name)

end Hue

/-- A color. -/
inductive Color where
  /-- One of the sixteen colors of every terminal. -/
  | plain (bright : Bool) (hue : Hue)
  /-- A mix of red, green and blue, each below 256. -/
  | mixed (red green blue : Nat)
deriving DecidableEq, Repr, Inhabited

/-- How many colors the terminal shows. -/
inductive ColorDepth where
  /-- The sixteen plain ones. -/
  | sixteen
  /-- All mixes. -/
  | full
deriving DecidableEq, Repr, Inhabited

/-- What a color is used for. -/
inductive Ground where
  | foreground
  | background
deriving DecidableEq, Repr, Inhabited

namespace Color

/-- The sixteen plain colors as mixes, in the order in which ties are broken. -/
def palette : List ((Bool × Hue) × (Nat × Nat × Nat)) :=
  [((false, .black), (0, 0, 0)), ((false, .red), (205, 0, 0)), ((false, .green), (0, 205, 0)),
   ((false, .yellow), (205, 205, 0)), ((false, .blue), (0, 0, 238)),
   ((false, .magenta), (205, 0, 205)), ((false, .cyan), (0, 205, 205)),
   ((false, .white), (229, 229, 229)), ((true, .black), (127, 127, 127)),
   ((true, .red), (255, 0, 0)), ((true, .green), (0, 255, 0)), ((true, .yellow), (255, 255, 0)),
   ((true, .blue), (92, 92, 255)), ((true, .magenta), (255, 0, 255)),
   ((true, .cyan), (0, 255, 255)), ((true, .white), (255, 255, 255))]

/-- The squared distance of two numbers. -/
def squaredGap (a b : Nat) : Nat := (a - b) * (a - b) + (b - a) * (b - a)

/-- The squared distance of two mixes. -/
def squaredDistance (a b : Nat × Nat × Nat) : Nat :=
  squaredGap a.1 b.1 + squaredGap a.2.1 b.2.1 + squaredGap a.2.2 b.2.2

/-- Takes a candidate that is nearer to a mix than the best color so far, which
stands with its distance. -/
def nearer (mix : Nat × Nat × Nat) (best : (Bool × Hue) × Nat)
    (candidate : (Bool × Hue) × (Nat × Nat × Nat)) : (Bool × Hue) × Nat :=
  let distance := squaredDistance mix candidate.2
  if distance < best.2 then (candidate.1, distance) else best

/-- The plain color nearest to a mix, the first of several. -/
def nearest (mix : Nat × Nat × Nat) : Bool × Hue :=
  (palette.foldl (nearer mix) ((false, .black), squaredDistance mix (0, 0, 0))).1

/-- The code of a plain color. -/
def plainCode (ground : Ground) (bright : Bool) (hue : Hue) : Nat :=
  let base := match ground, bright with
    | .foreground, false => 30
    | .foreground, true => 90
    | .background, false => 40
    | .background, true => 100
  base + hue.index

/-- The codes that select a color, in order. -/
def codes (depth : ColorDepth) (ground : Ground) : Color → List Nat
  | .plain bright hue => [plainCode ground bright hue]
  | .mixed red green blue =>
    match depth with
    | .full => [match ground with | .foreground => 38 | .background => 48, 2, red, green, blue]
    | .sixteen =>
      let plain := nearest (red, green, blue)
      [plainCode ground plain.1 plain.2]

end Color

end LogLine.Style
