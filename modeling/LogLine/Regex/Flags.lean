/-
  Regex/Flags.lean --- the flags under which a regular expression is read.
-/
import LogLine.Regex.Class

set_option autoImplicit false

namespace LogLine.Regex

/-- Flags of an expression. -/
structure Flags where
  /-- `i`: letters match in any case. -/
  ignoreCase : Bool := false
  /-- `m`: `^` and `$` match at lines. -/
  multiLine : Bool := false
  /-- `s`: `.` matches newlines. -/
  dotAll : Bool := false
  /-- `U`: repetitions are lazy unless marked. -/
  swapGreed : Bool := false
  /-- `u`: classes are those of Unicode. -/
  unicode : Bool := true
  /-- `R`: a carriage return, a newline and both together end a line. -/
  carriageReturn : Bool := false
  /-- `x`: white space and comments do not count. -/
  verbose : Bool := false
deriving DecidableEq, Repr, Inhabited

namespace Flags

/-- Sets the flag of a letter. -/
def put? (flags : Flags) (letter : Char) (value : Bool) : Option Flags :=
  match letter with
  | 'i' => some { flags with ignoreCase := value }
  | 'm' => some { flags with multiLine := value }
  | 's' => some { flags with dotAll := value }
  | 'U' => some { flags with swapGreed := value }
  | 'u' => some { flags with unicode := value }
  | 'R' => some { flags with carriageReturn := value }
  | 'x' => some { flags with verbose := value }
  | _ => none

/-- A set closed under case, if the flags ask for it. -/
def fold (flags : Flags) (set : CharSet) : CharSet :=
  if flags.ignoreCase then
    if flags.unicode then Unicode.foldCase set else foldAsciiCase set
  else set

/-- What one character of an expression matches. -/
def foldChar (flags : Flags) (c : Char) : CharSet :=
  if flags.ignoreCase then
    if flags.unicode then Unicode.caseVariants c else foldAsciiCase (CharSet.singleton c)
  else CharSet.singleton c

/-- A set closed under case, or the complement of that.  Without Unicode the
complement would match parts of characters and is refused. -/
def foldAndNegate? (flags : Flags) (negated : Bool) (set : CharSet) : Option CharSet :=
  if negated then if flags.unicode then some (flags.fold set).complement else none
  else some (flags.fold set)

end Flags

end LogLine.Regex
