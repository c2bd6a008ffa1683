/-
  Text/CharSet.lean --- sets of characters given as ranges of scalar values.

  The tables of this library (letters, printable characters, the properties of
  Unicode) are lists of closed ranges, and so are the classes of regular
  expressions.  A set holds a character exactly when one of its ranges does.

  Sets that are combined are in normal form: the ranges are in order, and no two
  of them touch.  `normalize` brings any list of ranges into that form, and the
  operations below keep it.
-/

set_option autoImplicit false

namespace LogLine

/-- A set of characters: closed ranges of scalar values. -/
abbrev CharSet := List (Nat × Nat)

namespace CharSet

/-! ## Membership -/

/-- Whether one of the ranges holds the scalar value. -/
def hasValue (set : CharSet) (n : Nat) : Bool :=
  set.any fun range => range.1 ≤ n && n ≤ range.2

/-- Whether one of the ranges holds the character. -/
def has (set : CharSet) (c : Char) : Bool := set.hasValue c.toNat

/-- The set of one character. -/
def singleton (c : Char) : CharSet := [(c.toNat, c.toNat)]

/-- The characters from `first` to `last`, both included. -/
def between (first last : Char) : CharSet := [(first.toNat, last.toNat)]

/-- Every character. -/
def everything : CharSet := [(0, 0x10FFFF)]

/-! ## Normal form -/

/-- Joins neighbours that overlap or touch; the ranges are in order of their
beginnings. -/
def join : CharSet → CharSet
  | [] => []
  | [range] => [range]
  | a :: b :: rest =>
    if b.1 ≤ a.2 + 1 then join ((a.1, max a.2 b.2) :: rest) else a :: join (b :: rest)
termination_by set => set.length

/-- The set in normal form. -/
def normalize (set : CharSet) : CharSet := join (set.mergeSort fun a b => a.1 ≤ b.1)

/-! ## Operations -/

/-- The characters of either set. -/
def union (a b : CharSet) : CharSet := normalize (a ++ b)

/-- The characters of any of the sets. -/
def unionOf (sets : List CharSet) : CharSet := normalize sets.flatten

/-- The characters of both sets. -/
def intersection : CharSet → CharSet → CharSet
  | [], _ => []
  | _, [] => []
  | a :: as, b :: bs =>
    let rest := if a.2 < b.2 then intersection as (b :: bs) else intersection (a :: as) bs
    let first := max a.1 b.1
    let last := min a.2 b.2
    if first ≤ last then (first, last) :: rest else rest
termination_by a b => a.length + b.length

/-- The scalar value after another one; those of the surrogates are left out. -/
def next (n : Nat) : Nat := if n = 0xD7FF then 0xE000 else n + 1

/-- The scalar value before another one. -/
def previous (n : Nat) : Nat := if n = 0xE000 then 0xD7FF else n - 1

/-- The gaps of a set after a range of it that ends at `last`. -/
def gapsAfter (last : Nat) : CharSet → CharSet
  | [] => if last < 0x10FFFF then [(next last, 0x10FFFF)] else []
  | range :: rest => (next last, previous range.1) :: gapsAfter range.2 rest

/-- The gaps of a set in normal form.  The gap across the surrogates holds no
character, so its ends come in reverse order. -/
def gaps : CharSet → CharSet
  | [] => everything
  | range :: rest =>
    if 0 < range.1 then (0, previous range.1) :: gapsAfter range.2 rest
    else gapsAfter range.2 rest

/-- The complement of a set.  The gap across the surrogates is taken as its two
neighbours. -/
def complement (set : CharSet) : CharSet :=
  set.gaps.map fun gap => (min gap.1 gap.2, max gap.1 gap.2)

/-- The characters of `a` that are not in `b`. -/
def difference (a b : CharSet) : CharSet :=
  intersection a (b.gaps.filter fun gap => gap.1 ≤ gap.2)

/-- The characters in `a` or in `b` but not in both. -/
def symmetricDifference (a b : CharSet) : CharSet := difference (union a b) (intersection a b)

end CharSet

end LogLine
