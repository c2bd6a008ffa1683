/-
  Record/Entries.lean --- entries of a key and a value, in order or sorted.

  A record keeps its entries in the order given, duplicates included, and the
  first one with a key answers for it.  A context keeps one value a key, in
  code point order of the keys, and the last value put there.
-/
import LogLine.Text.Basic

set_option autoImplicit false

namespace LogLine

/-- A key and its value. -/
abbrev Entry := Text × Text

/-- Entries in order. -/
abbrev Entries := List Entry

namespace Entries

/-- The value of the first entry with the key. -/
def valueOf? (entries : Entries) (key : Text) : Option Text :=
  (entries.find? (·.1 == key)).map (·.2)

/-- Puts a value under a key of sorted entries, in place of an earlier one. -/
def put (key value : Text) : Entries → Entries
  | [] => [(key, value)]
  | entry :: rest =>
    if key = entry.1 then (key, value) :: rest
    else if Text.precedes key entry.1 then (key, value) :: entry :: rest
    else entry :: put key value rest

/-- Removes what stands under a key. -/
def remove (key : Text) (entries : Entries) : Entries := entries.filter (·.1 != key)

/-- The sorted entries of a list in which later values win. -/
def sorted (entries : Entries) : Entries :=
  entries.foldl (fun acc entry => put entry.1 entry.2 acc) []

theorem valueOf?_put_self (key value : Text) (entries : Entries) :
    (put key value entries).valueOf? key = some value := by
  induction entries with
  | nil => simp [put, valueOf?]
  | cons entry rest ih =>
    unfold put
    split
    · simp [valueOf?]
    · split
      · simp [valueOf?]
      · rename_i hne _
        have : (entry.1 == key) = false := by simpa using fun h => hne h.symm
        simpa [valueOf?, this] using ih

theorem valueOf?_put_of_ne {key other : Text} (value : Text) (entries : Entries) (h : key ≠ other) :
    (put key value entries).valueOf? other = valueOf? entries other := by
  have hk : (key == other) = false := by simpa using h
  induction entries with
  | nil => simp [put, valueOf?, hk]
  | cons entry rest ih =>
    unfold put
    split
    · rename_i he
      have : (entry.1 == other) = false := by rw [← he]; exact hk
      simp [valueOf?, hk, this]
    · split
      · simp [valueOf?, hk]
      · by_cases ho : entry.1 == other
        · simp [valueOf?, ho]
        · simp only [valueOf?, List.find?_cons, ho] at ih ⊢
          exact ih

end Entries

end LogLine
