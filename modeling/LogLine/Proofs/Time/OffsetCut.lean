/-
  Proofs/Time/OffsetCut.lean --- the zones that are cut inside a character.

  An offset without a colon is cut two bytes before its end.  That is inside a
  character exactly when no end of the offset has two bytes, and nothing else
  that is read for a clock is cut:

      Zone.read_eq_broken_iff             by the text of the zone
      DateClock.ofOptions_eq_broken_iff   by the options of a specifier
-/
import LogLine.Proofs.Lists
import LogLine.Proofs.Text.Slices
import LogLine.Time.DateFormat

set_option autoImplicit false

namespace LogLine

namespace Zone

/-- The text after the sign of an offset whose hours and minutes are not parted
at a boundary: it has no colon and more than two bytes, and none of its ends
has two. -/
structure SplitsCharacter (rest : Text) : Prop where
  noColon : ':' ∉ rest
  long : 2 < Text.byteLength rest
  noBoundary : ∀ before after, rest = before ++ after → Text.byteLength after ≠ 2

/-- The name of a zone that is an offset of that kind, blanks around it aside. -/
def CutsOffset (text : Text) : Prop :=
  ∃ sign rest, Text.trim text = sign :: rest ∧ (sign = '+' ∨ sign = '-') ∧ SplitsCharacter rest

theorem splitOffset_eq_broken_iff {rest : Text} :
    splitOffset rest = .error .brokenCharacter ↔ SplitsCharacter rest := by
  constructor
  · intro h
    unfold splitOffset at h
    split at h
    · cases h
    rename_i hcolon
    split at h
    · rename_i hlong
      split at h
      · cases h
      · rename_i hcut
        exact ⟨Text.splitOnce_eq_none_iff.1 hcolon, hlong,
          Text.cutBytesBeforeEnd?_eq_none_iff.1 hcut⟩
    · cases h
  · intro h
    unfold splitOffset
    rw [Text.splitOnce_eq_none_iff.2 h.noColon]
    simp only [if_pos h.long, Text.cutBytesBeforeEnd?_eq_none_iff.2 h.noBoundary]

theorem ofOffset_ne_broken (name : Text) (offset : Int) :
    ofOffset name offset ≠ .error .brokenCharacter := by
  unfold ofOffset
  split <;> simp

theorem readOffset_eq_broken_iff {name rest : Text} {negative : Bool} :
    readOffset name negative rest = .error .brokenCharacter ↔ SplitsCharacter rest := by
  rw [← splitOffset_eq_broken_iff]
  unfold readOffset
  constructor
  · intro h
    split at h
    · rename_i fault hfault
      rw [hfault]
      injection h with h
      rw [h]
    · split at h
      · exact absurd h (ofOffset_ne_broken _ _)
      · cases h
  · intro h
    simp only [h]

/-- A zone is cut inside a character exactly when it is an offset that no
boundary parts. -/
theorem read_eq_broken_iff {zones : ZoneDatabase} {text : Text} :
    read zones text = .error .brokenCharacter ↔ CutsOffset text := by
  constructor
  · intro h
    unfold read at h
    simp only at h
    split at h
    · cases h
    split at h
    · rename_i rest hname
      exact ⟨'+', rest, hname, .inl rfl, readOffset_eq_broken_iff.1 h⟩
    · rename_i rest hname
      exact ⟨'-', rest, hname, .inr rfl, readOffset_eq_broken_iff.1 h⟩
    · split at h <;> cases h
  · rintro ⟨sign, rest, hname, hsign, hsplits⟩
    have hnone : sign :: rest ∉ ["UTC".toList, "GMT".toList, "Z".toList] := by
      rcases hsign with rfl | rfl <;> simp
    unfold read
    simp only [hname, if_neg hnone]
    rcases hsign with rfl | rfl
    · exact readOffset_eq_broken_iff.2 hsplits
    · exact readOffset_eq_broken_iff.2 hsplits

end Zone

namespace DateClock

/-- The options of a clock whose zone is cut: the zone is read only after a
format that is blank or was read. -/
def CutsOffset (options : List Text) : Prop :=
  ∃ pattern zone rest, options = pattern :: zone :: rest ∧
    (Text.trim pattern = [] ∨ ∃ format, DateFormat.read pattern = .ok format) ∧
    Zone.CutsOffset zone

theorem cutsOffset_cons_iff {pattern zone : Text} {rest : List Text} :
    CutsOffset (pattern :: zone :: rest) ↔
      (Text.trim pattern = [] ∨ ∃ format, DateFormat.read pattern = .ok format) ∧
        Zone.CutsOffset zone := by
  constructor
  · rintro ⟨_, _, _, heq, hpattern, hzone⟩
    simp only [List.cons.injEq] at heq
    obtain ⟨rfl, rfl, rfl⟩ := heq
    exact ⟨hpattern, hzone⟩
  · rintro ⟨hpattern, hzone⟩
    exact ⟨pattern, zone, rest, rfl, hpattern, hzone⟩

theorem readZone_eq_broken_iff {zones : ZoneDatabase} {zone : Option Text} :
    readZone zones zone = .error .brokenCharacter ↔
      ∃ name, zone = some name ∧ Zone.CutsOffset name := by
  cases zone with
  | none => simp [readZone]
  | some name => simp [readZone, Zone.read_eq_broken_iff]

theorem read_eq_broken_iff {pattern : Text} {zone : Option Text} {host : Host} :
    read pattern zone host = .error .brokenCharacter ↔
      (∃ format, DateFormat.read pattern = .ok format) ∧
        ∃ name, zone = some name ∧ Zone.CutsOffset name := by
  unfold read
  cases DateFormat.read pattern with
  | error error => simp
  | ok format =>
    simp only [map_eq_error_iff, readZone_eq_broken_iff]
    simp

/-- A clock is cut inside a character exactly when its zone is. -/
theorem ofOptions_eq_broken_iff {host : Host} {options : List Text} :
    ofOptions host options = .error .brokenCharacter ↔ CutsOffset options := by
  rcases options with _ | ⟨pattern, _ | ⟨zone, rest⟩⟩
  · simp [ofOptions, CutsOffset]
  · simp only [ofOptions, CutsOffset]
    split
    · simp [map_eq_error_iff, readZone_eq_broken_iff]
    · simp [read_eq_broken_iff]
  · have hzone : (pattern :: zone :: rest)[1]? = some zone := rfl
    rw [cutsOffset_cons_iff]
    simp only [ofOptions, hzone]
    split
    · rename_i hblank
      rw [map_eq_error_iff, readZone_eq_broken_iff]
      simp [hblank]
    · rename_i hpattern
      rw [read_eq_broken_iff]
      simp [hpattern]

end DateClock

end LogLine
