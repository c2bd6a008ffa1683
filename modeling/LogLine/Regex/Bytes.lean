/-
  Regex/Bytes.lean --- sets of characters as sequences of byte ranges.

  In UTF-8 a character is one to four bytes.  A range of characters is cut into
  runs whose bytes vary independently of one another, so that the range matches
  exactly when the bytes of a character fall, one by one, into the byte ranges
  of one of the sequences.
-/
import LogLine.Text.CharSet

set_option autoImplicit false

namespace LogLine.Regex

/-- A range of bytes. -/
abbrev ByteRange := Nat × Nat

/-- The bytes of a scalar value in UTF-8. -/
def valueBytes (n : Nat) : List Nat :=
  if n < 0x80 then [n]
  else if n < 0x800 then [0xC0 + n / 64, 0x80 + n % 64]
  else if n < 0x10000 then [0xE0 + n / 4096, 0x80 + n / 64 % 64, 0x80 + n % 64]
  else [0xF0 + n / 262144, 0x80 + n / 4096 % 64, 0x80 + n / 64 % 64, 0x80 + n % 64]

/-- The values that take equally many bytes; the surrogates are left out. -/
def lengthBlocks : CharSet :=
  [(0, 0x7F), (0x80, 0x7FF), (0x800, 0xD7FF), (0xE000, 0xFFFF), (0x10000, 0x10FFFF)]

/-- Cuts a run at the multiples of `unit`, so that only whole units lie between
its ends, then at those of the next larger unit, up to a number of times. -/
def alignedRuns : Nat → Nat → Nat → Nat → CharSet
  | 0, _, first, last => [(first, last)]
  | count + 1, unit, first, last =>
    let start := if first % unit = 0 then first else (first / unit + 1) * unit
    let stop := if last % unit = unit - 1 then last + 1 else last / unit * unit
    let before := if first < start then [(first, start - 1)] else []
    let after := if stop ≤ last then [(stop, last)] else []
    if first / unit = last / unit then [(first, last)]
    else if start / unit = last / unit then before ++ [(start, last)]
    else before ++ alignedRuns count (64 * unit) start (stop - 1) ++ after

/-- The byte sequences of a set, in order. -/
def byteSequences (set : CharSet) : List (List ByteRange) :=
  (set.intersection lengthBlocks).flatMap fun run =>
    if run.2 < 0x80 then [[run]]
    else (alignedRuns 3 64 run.1 run.2).map fun run => (valueBytes run.1).zip (valueBytes run.2)

end LogLine.Regex
