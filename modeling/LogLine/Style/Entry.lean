/-
  Style/Entry.lean --- lists of options `KEY=value, KEY=value`.

  Keys are read in any case, and white space around keys and values does not
  count.  An entry without `=` is reported and has no effect.
-/
import LogLine.Error
import LogLine.Style.Sequence

set_option autoImplicit false

namespace LogLine.Style

/-- One entry of a list of options. -/
inductive Entry where
  /-- A key in upper case and its value. -/
  | pair (key value : Text)
  /-- A text without `=`. -/
  | malformed (text : Text)
deriving DecidableEq, Repr, Inhabited

namespace Entry

/-- Reads an entry without white space around it. -/
def read (text : Text) : Entry :=
  match Text.splitOnce '=' text with
  | some (key, value) => .pair (Text.asciiUpper (Text.trim key)) (Text.trim value)
  | none => .malformed text

/-- The entries of a list; empty ones do not count. -/
def readAll (list : Text) : List Entry :=
  (((Text.pieces ',' list).map Text.trim).filter (· ≠ [])).map read

/-- The key and value of an entry that has them. -/
def pair? : Entry → Option (Text × Text)
  | .pair key value => some (key, value)
  | .malformed _ => none

/-- What is reported of an entry without `=`. -/
def report? : Entry → Option Error
  | .pair _ _ => none
  | .malformed text =>
    some ((Error.new
      "syntax error, missing '=': expected \"KEY1=VALUE, KEY2=VALUE, ...\"").withText "entry" text)

end Entry

/-- The keys and values of a list of options, and what is reported of it. -/
def readPairs (list : Text) : List (Text × Text) × List Error :=
  let entries := Entry.readAll list
  (entries.filterMap Entry.pair?, entries.filterMap Entry.report?)

/-- The keys of a list of options and the escape sequences that their values
name. -/
def readSequences (depth : ColorDepth) (list : Text) : List (Text × Text) :=
  (readPairs list).1.map fun pair => (pair.1, sequence depth pair.2)

end LogLine.Style
