/-
  Proofs/Time/KnownZones.lean --- the zones that a database knows.

  A database of time zones is known by its zones alone: that of the system, and
  those it has a name for.  A zone that is read is one of them or a fixed offset,
  so what they all have in common, a zone that is read has:

      Zone.all_of_read               zones that are read by name
      DateClock.all_of_readZone      or are those of the system
      Region.all_database            what the regions have in common

  That clocks turn at whole seconds only is such a property.  Fixed offsets have
  it, and the regions.
-/
import LogLine.Proofs.Lists
import LogLine.Time.DateFormat

set_option autoImplicit false

namespace LogLine

/-- A property of the zone of the system and of every zone that has a name. -/
structure ZoneDatabase.All (p : Zone → Prop) (zones : ZoneDatabase) : Prop where
  /-- The zone of the system has it. -/
  system : p zones.system
  /-- The zones that have a name have it. -/
  find : ∀ name zone, zones.find name = .ok zone → p zone

section

variable {p : Zone → Prop} {zones : ZoneDatabase}

namespace Zone

theorem eq_fixed_of_ofOffset {name : Text} {offset : Int} {zone : Zone}
    (h : ofOffset name offset = .ok zone) : zone = .fixed offset := by
  unfold ofOffset at h
  split at h
  · exact (Except.ok.inj h).symm
  · cases h

theorem exists_fixed_of_readOffset {name rest : Text} {negative : Bool} {zone : Zone}
    (h : readOffset name negative rest = .ok zone) : ∃ offset, zone = .fixed offset := by
  unfold readOffset at h
  split at h
  · cases h
  · split at h
    · exact ⟨_, eq_fixed_of_ofOffset h⟩
    · cases h

/-- A zone that is read is a fixed offset or has its name in the database. -/
theorem fixed_or_find_of_read {text : Text} {zone : Zone} (h : read zones text = .ok zone) :
    (∃ offset, zone = .fixed offset) ∨ zones.find (Text.trim text) = .ok zone := by
  unfold read at h
  simp only at h
  split at h
  · exact .inl ⟨0, (Except.ok.inj h).symm⟩
  split at h
  · exact .inl (exists_fixed_of_readOffset h)
  · exact .inl (exists_fixed_of_readOffset h)
  · split at h
    · rename_i found hfound
      obtain rfl := Except.ok.inj h
      exact .inr hfound
    · cases h

theorem all_of_read (hzones : zones.All p) (hfixed : ∀ offset, p (.fixed offset)) {text : Text}
    {zone : Zone} (h : read zones text = .ok zone) : p zone := by
  rcases fixed_or_find_of_read h with ⟨offset, rfl⟩ | hfind
  · exact hfixed offset
  · exact hzones.find _ _ hfind

end Zone

namespace DateClock

theorem all_of_readZone (hzones : zones.All p) (hfixed : ∀ offset, p (.fixed offset))
    {name : Option Text} {zone : Zone} (h : readZone zones name = .ok zone) : p zone := by
  cases name with
  | none => exact Except.ok.inj h ▸ hzones.system
  | some name => exact Zone.all_of_read hzones hfixed h

/-- A clock that is read has the zone that is read for it, and keeps nothing. -/
theorem zone_and_kept_of_read {pattern : Text} {zone : Option Text} {host : Host}
    {clock : DateClock} (h : read pattern zone host = .ok clock) :
    readZone host.zones zone = .ok clock.zone ∧ clock.kept = none := by
  unfold read at h
  split at h
  · cases h
  · obtain ⟨place, hplace, rfl⟩ := map_eq_ok_iff.1 h
    exact ⟨hplace, rfl⟩

end DateClock

/-- What fixed offsets and the clocks of all regions have in common, the database of
the regions has. -/
theorem Region.all_database (hfixed : ∀ offset, p (.fixed offset))
    (hregions : ∀ region ∈ Region.all, p (.place region.clocks)) : Region.database.All p := by
  refine ⟨hfixed 0, fun name zone hfind => ?_⟩
  have h : Region.find name = .ok zone := hfind
  unfold Region.find at h
  split at h
  · obtain rfl := Except.ok.inj h
    exact hfixed 0
  · split at h
    · rename_i region hregion
      obtain rfl := Except.ok.inj h
      exact hregions region (List.mem_of_find?_eq_some hregion)
    · cases h

end

/-! ## Clocks that turn at whole seconds -/

/-- Clocks that turn, and whose time changes its name, at whole seconds only. -/
def Clocks.TurnAtSeconds (clocks : Clocks) : Prop :=
  ∀ t u, t.second = u.second → clocks.offset t = clocks.offset u ∧ clocks.name t = clocks.name u

/-- The clocks of every zone of a database turn at whole seconds only. -/
def ZoneDatabase.TurnsAtSeconds (zones : ZoneDatabase) : Prop :=
  zones.All fun zone => zone.clocks.TurnAtSeconds

theorem Zone.turnAtSeconds_fixed (offset : Int) : (Zone.fixed offset).clocks.TurnAtSeconds :=
  fun _ _ _ => ⟨rfl, rfl⟩

theorem Region.turnAtSeconds_clocks (region : Region) : region.clocks.TurnAtSeconds := by
  intro t u h
  simp only [clocks, h, and_self]

theorem Region.turnsAtSeconds_database : Region.database.TurnsAtSeconds :=
  all_database Zone.turnAtSeconds_fixed fun region _ => region.turnAtSeconds_clocks

/-- Clocks that are read turn at whole seconds if those of the database do. -/
theorem DateClock.turnAtSeconds_of_read {pattern : Text} {zone : Option Text} {host : Host}
    {clock : DateClock} (hzones : host.zones.TurnsAtSeconds)
    (h : read pattern zone host = .ok clock) : clock.zone.clocks.TurnAtSeconds :=
  all_of_readZone hzones Zone.turnAtSeconds_fixed (zone_and_kept_of_read h).1

end LogLine
