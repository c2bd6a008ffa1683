/-
  Pattern/Cursor.lean --- a pattern read by positions.

  One cursor goes over the characters of a pattern, from phase to phase, and takes
  characters and slices by their positions.  Every step goes on, except that a dot
  without digit is taken back: the character after it is read again, as literal
  text.  `Cursor.effort` goes down with every step all the same.

      Cursor.step             one character
      Cursor.moves_of_step    what a step can come to
      Cursor.run              all of them
-/
import LogLine.Pattern.Piece
import LogLine.Text.Letter
import LogLine.Text.Numeral
import LogLine.Text.Slice

set_option autoImplicit false

namespace LogLine.Pattern

/-- What the cursor reads next. -/
inductive Phase where
  /-- Literal text. -/
  | literal
  /-- Dashes. -/
  | flags
  /-- More digits of the least width. -/
  | least
  /-- The first digit of the greatest width. -/
  | dot
  /-- More digits of the greatest width. -/
  | most
deriving DecidableEq, Repr, Inhabited

/-- Where reading stands, and the specifier that is begun. -/
structure Cursor where
  /-- What is read next. -/
  phase : Phase := .literal
  /-- The position of the next character. -/
  place : Nat := 0
  /-- The position of the percent sign. -/
  origin : Nat := 0
  /-- Whether there was a dash. -/
  left : Bool := false
  /-- The least width so far. -/
  least : Nat := 0
  /-- The greatest width so far; the greatest size bounds nothing. -/
  most : Nat := maxSize
deriving DecidableEq, Repr, Inhabited

namespace Cursor

/-! ## Keys and options -/

/-- Reads letters, numbers and underscores from `i` on: they, and the position
after them. -/
def readName (s : Text) (i : Nat) : Option (Text × Nat) :=
  if i < s.length then do
    let c ← s[i]?
    if Text.isNamePart c then
      let (name, stop) ← readName s (i + 1)
      some (c :: name, stop)
    else some ([], i)
  else some ([], i)
termination_by s.length - i

theorem le_of_readName {s name : Text} {i stop : Nat} (h : readName s i = some (name, stop)) :
    i ≤ stop := by
  fun_induction readName s i generalizing name with
  | case1 i hlt ih =>
    obtain ⟨c, _, hc⟩ := Option.bind_eq_some_iff.1 h
    split at hc
    · obtain ⟨⟨rest, stop'⟩, hrest, hstop⟩ := Option.bind_eq_some_iff.1 hc
      obtain ⟨-, rfl⟩ := Prod.mk.inj (Option.some.inj hstop)
      exact Nat.le_of_succ_le (ih hrest)
    · obtain ⟨-, rfl⟩ := Prod.mk.inj (Option.some.inj hc)
      exact Nat.le_refl _
  | case2 i hlt =>
    obtain ⟨-, rfl⟩ := Prod.mk.inj (Option.some.inj h)
    exact Nat.le_refl _

/-- The number of groups still open, and the position, after the closing brace
of the last of `depth` groups or at the end. -/
def skipGroup (s : Text) (depth i : Nat) : Option (Nat × Nat) :=
  if 0 < depth ∧ i < s.length then do
    let c ← s[i]?
    skipGroup s (if c = '{' then depth + 1 else if c = '}' then depth - 1 else depth) (i + 1)
  else some (depth, i)
termination_by s.length - i

theorem le_of_skipGroup {s : Text} {depth i left stop : Nat}
    (h : skipGroup s depth i = some (left, stop)) : i ≤ stop := by
  fun_induction skipGroup s depth i with
  | case1 depth i hlt ih =>
    obtain ⟨c, _, hc⟩ := Option.bind_eq_some_iff.1 h
    exact Nat.le_of_succ_le (ih c hc)
  | case2 depth i hlt =>
    simp only [Option.some.injEq, Prod.mk.injEq] at h
    exact Nat.le_of_eq h.2

/-- The position of the last closing brace. -/
def lastBrace? (s : Text) : Option Nat := (Text.cutAtLast ['}'] s).map (·.1.length)

/-- Reads options from `i` on, the first of which began at `start`: they, and the
position where reading goes on. -/
def readOptions (s : Text) (start i : Nat) : Option (List Text × Nat) :=
  if i < s.length then do
    let c ← s[i]?
    if c = '{' then
      match _skip : skipGroup s 1 (i + 1) with
      | none => none
      | some (0, stop) =>
        let option ← Text.slice? s (i + 1) (stop - 1)
        let (options, stop) ← readOptions s start stop
        some (option :: options, stop)
      | some (_ + 1, _) =>
        match lastBrace? s with
        | some last => some ([], if start ≤ last then last + 1 else i + 1)
        | none => some ([], i + 1)
    else some ([], i)
  else some ([], i)
termination_by s.length - i
decreasing_by
  have := le_of_skipGroup _skip
  omega

/-- Reading goes on no earlier than where the options began. -/
theorem le_of_readOptions {s : Text} {start i stop : Nat} {options : List Text} (hi : start ≤ i)
    (h : readOptions s start i = some (options, stop)) : start ≤ stop := by
  induction hleft : s.length - i using Nat.strongRecOn generalizing i options with
  | ind left ih =>
    rw [readOptions] at h
    split at h
    · rename_i hlt
      obtain ⟨c, _, h⟩ := Option.bind_eq_some_iff.1 h
      split at h
      · split at h
        · cases h
        · rename_i closed hskip
          have hgoes := le_of_skipGroup hskip
          obtain ⟨option, _, h⟩ := Option.bind_eq_some_iff.1 h
          obtain ⟨⟨others, stop'⟩, hothers, h⟩ := Option.bind_eq_some_iff.1 h
          obtain ⟨-, rfl⟩ := Prod.mk.inj (Option.some.inj h)
          exact ih _ (by omega) (by omega) hothers rfl
        · -- a group is not closed
          split at h
          · obtain ⟨-, rfl⟩ := Prod.mk.inj (Option.some.inj h)
            split <;> omega
          · obtain ⟨-, rfl⟩ := Prod.mk.inj (Option.some.inj h)
            omega
      · obtain ⟨-, rfl⟩ := Prod.mk.inj (Option.some.inj h)
        exact hi
    · obtain ⟨-, rfl⟩ := Prod.mk.inj (Option.some.inj h)
      exact hi

/-! ## One character -/

/-- A width with one more digit: at most the greatest size. -/
def accumulate (value : Nat) (c : Char) : Nat :=
  min (min (value * 10) maxSize + Text.digitValue c) maxSize

/-- The widths read so far. -/
def width (cursor : Cursor) : FieldWidth :=
  { left := cursor.left
    least := cursor.least
    most := if cursor.most = maxSize then none else some cursor.most }

/-- Completes the specifier whose key begins with `c`, just before the cursor. -/
def finish (s : Text) (cursor : Cursor) (c : Char) : Option (List Piece × Cursor) := do
  let (name, i) ← if Text.isLetter c then readName s cursor.place else some ([], cursor.place)
  let (options, stop) ← readOptions s i i
  let raw ← Text.slice? s cursor.origin stop
  let key := if Text.isLetter c then c :: name else []
  some ([.specifier { position := cursor.origin, raw, width := cursor.width, key, options }],
    { place := stop })

theorem le_of_finish {s : Text} {cursor next : Cursor} {c : Char} {pieces : List Piece}
    (h : finish s cursor c = some (pieces, next)) : cursor.place ≤ next.place := by
  simp only [finish, Option.bind_eq_bind, Option.bind_some] at h
  split at h
  · obtain ⟨⟨name, i⟩, hname, h⟩ := Option.bind_eq_some_iff.1 h
    obtain ⟨⟨options, stop⟩, hoptions, h⟩ := Option.bind_eq_some_iff.1 h
    obtain ⟨raw, _, h⟩ := Option.bind_eq_some_iff.1 h
    obtain ⟨-, rfl⟩ := Prod.mk.inj (Option.some.inj h)
    exact Nat.le_trans (le_of_readName hname) (le_of_readOptions (Nat.le_refl i) hoptions)
  · obtain ⟨⟨options, stop⟩, hoptions, h⟩ := Option.bind_eq_some_iff.1 h
    obtain ⟨raw, _, h⟩ := Option.bind_eq_some_iff.1 h
    obtain ⟨-, rfl⟩ := Prod.mk.inj (Option.some.inj h)
    exact le_of_readOptions (Nat.le_refl _) hoptions

/-- Reads one character: the pieces that are complete with it, and the cursor
after it. -/
def step (s : Text) (cursor : Cursor) : Option (List Piece × Cursor) := do
  let c ← s[cursor.place]?
  let next := { cursor with place := cursor.place + 1 }
  match cursor.phase with
  | .literal =>
    if next.place = s.length then some ([.literal c], next)
    else if c ≠ '%' then some ([.literal c], next)
    else
      let d ← s[next.place]?
      if d = '%' then some ([.percent], { next with place := next.place + 1 })
      else some ([], { next with phase := .flags, origin := cursor.place })
  | .flags =>
    if c = '-' then some ([], { next with left := true })
    else if c = '.' then some ([], { next with phase := .dot })
    else if c.isDigit then some ([], { next with phase := .least, least := Text.digitValue c })
    else finish s next c
  | .least =>
    if c.isDigit then some ([], { next with least := accumulate cursor.least c })
    else if c = '.' then some ([], { next with phase := .dot })
    else finish s next c
  | .dot =>
    if c.isDigit then some ([], { next with phase := .most, most := Text.digitValue c })
    else
      let raw ← Text.slice? s cursor.origin cursor.place
      some ([.malformedDot raw cursor.place c], { place := cursor.place })
  | .most =>
    if c.isDigit then some ([], { next with most := accumulate cursor.most c })
    else finish s next c

/-- What reading one character can come to. -/
inductive Moves (s : Text) (cursor : Cursor) : List Piece → Cursor → Prop where
  /-- No specifier is complete with it. -/
  | onward {pieces : List Piece} {next : Cursor} (hplain : ∀ spec, .specifier spec ∉ pieces)
      (hlt : cursor.place < next.place) (hle : next.place ≤ s.length) : Moves s cursor pieces next
  /-- The key of a specifier begins with it, and the specifier is complete. -/
  | completed {c : Char} {pieces : List Piece} {begun next : Cursor}
      (hplace : begun.place = cursor.place + 1) (hle : begun.place ≤ s.length)
      (hfinish : finish s begun c = some (pieces, next)) : Moves s cursor pieces next
  /-- A dot is taken back, and the character after it is left for literal text. -/
  | takenBack {raw : Text} {found : Char} (hphase : cursor.phase = .dot)
      (hlt : cursor.place < s.length) :
      Moves s cursor [.malformedDot raw cursor.place found] { place := cursor.place }

theorem moves_of_step {s : Text} {cursor next : Cursor} {pieces : List Piece}
    (h : step s cursor = some (pieces, next)) : Moves s cursor pieces next := by
  obtain ⟨c, hc, h⟩ := Option.bind_eq_some_iff.1 h
  obtain ⟨hlt, _⟩ := List.getElem?_eq_some_iff.1 hc
  have silent : ∀ {next : Cursor}, next.place = cursor.place + 1 → Moves s cursor [] next :=
    fun hplace => .onward (fun _ => List.not_mem_nil) (by omega) (by omega)
  have finished : ∀ {begun : Cursor}, begun.place = cursor.place + 1 →
      finish s begun c = some (pieces, next) → Moves s cursor pieces next :=
    fun hplace hfinish => .completed hplace (by omega) hfinish
  cases hphase : cursor.phase with
  | literal =>
    simp only [hphase] at h
    split at h
    · cases h
      exact .onward (by simp) (Nat.lt_succ_self _) hlt
    split at h
    · cases h
      exact .onward (by simp) (Nat.lt_succ_self _) hlt
    obtain ⟨d, hd, h⟩ := Option.bind_eq_some_iff.1 h
    obtain ⟨hlt', _⟩ := List.getElem?_eq_some_iff.1 hd
    split at h <;> cases h
    · exact .onward (by simp) (Nat.lt_add_of_pos_right Nat.two_pos) hlt'
    · exact silent rfl
  | flags =>
    simp only [hphase] at h
    split at h
    · cases h
      exact silent rfl
    split at h
    · cases h
      exact silent rfl
    split at h
    · cases h
      exact silent rfl
    · exact finished rfl h
  | least =>
    simp only [hphase] at h
    split at h
    · cases h
      exact silent rfl
    split at h
    · cases h
      exact silent rfl
    · exact finished rfl h
  | dot =>
    simp only [hphase] at h
    split at h
    · cases h
      exact silent rfl
    · obtain ⟨raw, _, h⟩ := Option.bind_eq_some_iff.1 h
      cases h
      exact .takenBack hphase hlt
  | most =>
    simp only [hphase] at h
    split at h
    · cases h
      exact silent rfl
    · exact finished rfl h

/-- How much is left to do.  The character after a dot that is taken back is
read twice. -/
def effort (s : Text) (cursor : Cursor) : Nat :=
  2 * (s.length - cursor.place) + if cursor.phase = .dot then 1 else 0

/-- Every step leaves less to do. -/
theorem effort_lt_of_step {s : Text} {cursor next : Cursor} {pieces : List Piece}
    (h : step s cursor = some (pieces, next)) : effort s next < effort s cursor := by
  have further : cursor.place < next.place → cursor.place < s.length →
      effort s next < effort s cursor := by
    intro hlt hle
    unfold effort
    split <;> split <;> omega
  cases moves_of_step h with
  | onward _ hlt hle => exact further hlt (Nat.lt_of_lt_of_le hlt hle)
  | completed hplace hle hfinish =>
    have hgoes := le_of_finish hfinish
    exact further (by omega) (by omega)
  | takenBack hphase => simp [effort, hphase]

/-! ## The whole pattern -/

/-- The pieces from the cursor on. -/
def run (s : Text) (cursor : Cursor) : Option (List Piece) :=
  if cursor.place < s.length then
    match _step : step s cursor with
    | none => none
    | some (pieces, next) => (run s next).map (pieces ++ ·)
  else if cursor.phase = .literal then some []
  else (Text.slice? s cursor.origin s.length).map fun raw => [.unfinished raw]
termination_by effort s cursor
decreasing_by exact effort_lt_of_step _step

end Cursor

end LogLine.Pattern
