/-
  Proofs/Time/DateText.lean --- the characters of the dates that a clock writes.

  The text of a date is made of numbers, English names, the names that zones give
  to their times and the literal text of its pattern.  The last comes from the
  pattern, and the names from the database of zones, so where the names have no
  escape character, a clock that is read from texts without one never writes one,
  whatever it writes before and after:

      Region.namesEscapeFree_database   the names of the regions
      DateClock.escapeFree_of_read      clocks that are read
      DateClock.EscapeFree.write        what they write, and what they are then
-/
import LogLine.Proofs.Text.EscapeFree
import LogLine.Proofs.Time.KnownZones

set_option autoImplicit false

namespace LogLine

/-! ## Zones -/

/-- Zones whose times have names without an escape character. -/
def Zone.EscapeFree (zone : Zone) : Prop := ∀ t, Text.EscapeFree (zone.clocks.name t)

/-- The times of every zone of a database have such names. -/
def ZoneDatabase.NamesEscapeFree (zones : ZoneDatabase) : Prop := zones.All Zone.EscapeFree

namespace Zone

theorem escapeFree_offsetName (offset : Int) : Text.EscapeFree (offsetName offset) := by
  have hzeros := Text.EscapeFree.zeroPadded 2
  unfold offsetName
  split
  · decide
  · refine Text.escapeFree_append.2 ⟨Text.escapeFree_append.2 ⟨?_, hzeros _⟩, ?_⟩
    · split <;> decide
    · split
      · exact Text.escapeFree_nil
      · exact Text.escapeFree_append.2 ⟨by decide, hzeros _⟩

theorem escapeFree_fixed (offset : Int) : EscapeFree (.fixed offset) :=
  fun _ => escapeFree_offsetName offset

end Zone

namespace Region

/-- The times that a region ever has. -/
def times (region : Region) : List ClockTime :=
  region.standard :: (region.summer.toList.map SummerTime.clock ++ region.local?.toList.map (·.1))

theorem summerOrStandard_mem_times (region : Region) (second : Int) :
    clockAt.summerOrStandard region second ∈ region.times := by
  unfold clockAt.summerOrStandard
  split
  · rename_i summer hsummer
    split
    · refine List.mem_cons_of_mem _ (List.mem_append_left _ ?_)
      exact List.mem_map_of_mem (Option.mem_toList.2 hsummer)
    · exact List.mem_cons_self
  · exact List.mem_cons_self

theorem clockAt_mem_times (region : Region) (second : Int) :
    region.clockAt second ∈ region.times := by
  unfold clockAt
  split
  · rename_i clock until_ hlocal
    split
    · refine List.mem_cons_of_mem _ (List.mem_append_right _ ?_)
      exact List.mem_map.2 ⟨(clock, until_), Option.mem_toList.2 hlocal, rfl⟩
    · exact summerOrStandard_mem_times region second
  · exact summerOrStandard_mem_times region second

theorem escapeFree_times :
    ∀ region ∈ all, ∀ time ∈ region.times, Text.EscapeFree time.name.toList := by
  decide

theorem namesEscapeFree_database : database.NamesEscapeFree :=
  all_database Zone.escapeFree_fixed fun region hregion t =>
    escapeFree_times region hregion _ (clockAt_mem_times region t.second)

end Region

/-! ## Date patterns -/

/-- Tokens whose literal text holds no escape character. -/
def DateToken.EscapeFree : DateToken → Prop
  | .literal text => Text.EscapeFree text
  | .field _ _ => True

namespace DatePattern

theorem escapeFree_of_quotedText {s text rest : Text} (h : Text.EscapeFree s)
    (hcut : quotedText s = some (text, rest)) : Text.EscapeFree text ∧ Text.EscapeFree rest := by
  fun_induction quotedText s generalizing text with
  | case1 => cases hcut
  | case2 =>
    obtain ⟨rfl, rfl⟩ := Prod.mk.inj (Option.some.inj hcut)
    exact ⟨Text.escapeFree_nil, Text.escapeFree_nil⟩
  | case3 tail ih =>
    obtain ⟨cut, hfound, heq⟩ := Option.map_eq_some_iff.1 hcut
    obtain ⟨rfl, rfl⟩ := Prod.mk.inj heq
    have hparts := ih (Text.escapeFree_cons.1 (Text.escapeFree_cons.1 h).2).2 hfound
    exact ⟨Text.escapeFree_cons.2 ⟨by decide, hparts.1⟩, hparts.2⟩
  | case4 =>
    obtain ⟨rfl, rfl⟩ := Prod.mk.inj (Option.some.inj hcut)
    exact ⟨Text.escapeFree_nil, (Text.escapeFree_cons.1 h).2⟩
  | case5 c tail _ _ _ ih =>
    obtain ⟨cut, hfound, heq⟩ := Option.map_eq_some_iff.1 hcut
    obtain ⟨rfl, rfl⟩ := Prod.mk.inj heq
    obtain ⟨hc, htail⟩ := Text.escapeFree_cons.1 h
    have hparts := ih htail hfound
    exact ⟨Text.escapeFree_cons.2 ⟨hc, hparts.1⟩, hparts.2⟩

theorem escapeFree_prepend {text : Text} {list : List DateToken} (htext : Text.EscapeFree text)
    (h : ∀ token ∈ list, token.EscapeFree) : ∀ token ∈ prepend text list, token.EscapeFree := by
  unfold prepend
  split
  · rename_i later rest
    rw [List.forall_mem_cons] at h ⊢
    exact ⟨Text.escapeFree_append.2 ⟨htext, h.1⟩, h.2⟩
  · exact List.forall_mem_cons.2 ⟨htext, h⟩

theorem escapeFree_of_tokens {s : Text} {list : List DateToken} (h : Text.EscapeFree s)
    (hread : tokens s = .ok list) : ∀ token ∈ list, token.EscapeFree := by
  fun_induction tokens s generalizing list with
  | case1 =>
    obtain rfl := Except.ok.inj hread
    exact fun _ hmem => absurd hmem List.not_mem_nil
  | case2 rest hnext ih =>
    obtain ⟨later, hlater, rfl⟩ := map_eq_ok_iff.1 hread
    have htail := (Text.escapeFree_cons.1 h).2.of_subset (List.tail_subset rest)
    exact escapeFree_prepend (by decide) (ih htail hlater)
  | case3 => cases hread
  | case4 rest hnext text after hcut ih =>
    obtain ⟨later, hlater, rfl⟩ := map_eq_ok_iff.1 hread
    have hparts := escapeFree_of_quotedText (Text.escapeFree_cons.1 h).2 hcut
    exact escapeFree_prepend hparts.1 (ih hparts.2 hlater)
  | case5 => cases hread
  | case6 c rest hquote halpha field hfield ih =>
    obtain ⟨later, hlater, rfl⟩ := map_eq_ok_iff.1 hread
    have hdrop := (Text.escapeFree_cons.1 h).2.dropWhile (· == c)
    exact List.forall_mem_cons.2 ⟨trivial, ih hdrop hlater⟩
  | case7 c rest hquote halpha ih =>
    obtain ⟨hc, hrest⟩ := Text.escapeFree_cons.1 h
    have hliteral : Text.EscapeFree [c] := Text.escapeFree_cons.2 ⟨hc, Text.escapeFree_nil⟩
    obtain ⟨later, hlater, rfl⟩ := map_eq_ok_iff.1 hread
    exact escapeFree_prepend hliteral (ih hrest hlater)

end DatePattern

/-! ## Formats -/

namespace DateFormat

/-- Formats whose literal text holds no escape character. -/
def EscapeFree : DateFormat → Prop
  | .pattern tokens => ∀ token ∈ tokens, token.EscapeFree
  | .unixSeconds | .unixMillis => True

theorem escapeFree_monthName (month : Nat) : Text.EscapeFree (monthName month) := by
  have hall : ∀ name ∈ monthNames, Text.EscapeFree name.toList := by decide
  unfold monthName
  cases hname : monthNames[month - 1]? with
  | none => exact Text.escapeFree_nil
  | some name => exact hall name (List.mem_of_getElem? hname)

theorem escapeFree_offsetText (colon : Bool) (offset : Int) :
    Text.EscapeFree (offsetText colon offset) := by
  have hzeros := Text.EscapeFree.zeroPadded 2
  unfold offsetText
  refine Text.escapeFree_append.2 ⟨Text.escapeFree_append.2
    ⟨Text.escapeFree_append.2 ⟨?_, hzeros _⟩, ?_⟩, hzeros _⟩
  · split <;> decide
  · cases colon <;> decide

theorem escapeFree_isoOffsetText (width : Nat) (offset : Int) :
    Text.EscapeFree (isoOffsetText width offset) := by
  unfold isoOffsetText
  split
  · decide
  split
  · refine Text.escapeFree_append.2 ⟨?_, Text.EscapeFree.zeroPadded 2 _⟩
    split <;> decide
  · exact escapeFree_offsetText _ offset

theorem escapeFree_fieldText (time : CivilTime) (offset : Int) {zoneName : Text}
    (hzone : Text.EscapeFree zoneName) (field : DateField) (width : Nat) :
    Text.EscapeFree (fieldText time offset zoneName field width) := by
  have hweekday : Text.EscapeFree time.weekday.name.toList := by
    cases time.weekday <;> decide
  unfold fieldText
  cases field with
  | year =>
    simp only
    split <;> exact Text.EscapeFree.zeroPadded _ _
  | month =>
    simp only
    split
    · exact escapeFree_monthName _
    split
    · exact (escapeFree_monthName _).take 3
    · exact Text.EscapeFree.zeroPadded _ _
  | weekday =>
    simp only
    split
    · exact hweekday
    · exact hweekday.take 3
  | fraction =>
    refine Text.escapeFree_append.2 ⟨(Text.EscapeFree.zeroPadded 9 _).take width, ?_⟩
    exact Text.EscapeFree.replicate (by decide) _
  | halfDay =>
    simp only
    split <;> decide
  | plainOffset => exact escapeFree_offsetText false offset
  | isoOffset => exact escapeFree_isoOffsetText width offset
  | zoneName => exact hzone
  | day | hour24 | hour12 | minute | second => exact Text.EscapeFree.zeroPadded _ _

theorem EscapeFree.text {format : DateFormat} (h : format.EscapeFree) {zone : Zone}
    (hzone : zone.EscapeFree) (t : Instant) : Text.EscapeFree (format.text zone.clocks t) := by
  cases format with
  | unixSeconds => exact Text.EscapeFree.ofInt _
  | unixMillis => exact Text.EscapeFree.ofInt _
  | pattern tokens =>
    refine Text.EscapeFree.flatMap fun token htoken => ?_
    cases token with
    | literal text => exact h _ htoken
    | field field width => exact escapeFree_fieldText _ _ (hzone t) _ _

theorem escapeFree_patternOf {s : Text} (h : Text.EscapeFree s) :
    Text.EscapeFree (patternOf s) := by
  have hnamed : ∀ entry ∈ named, Text.EscapeFree entry.2.toList := by decide
  unfold patternOf
  split
  · rename_i entry hentry
    exact hnamed entry (List.mem_of_find?_eq_some hentry)
  · exact h

theorem escapeFree_of_read {s : Text} {format : DateFormat} (h : Text.EscapeFree s)
    (hread : read s = .ok format) : format.EscapeFree := by
  unfold read at hread
  simp only at hread
  split at hread
  · obtain rfl := Except.ok.inj hread
    exact trivial
  split at hread
  · obtain rfl := Except.ok.inj hread
    exact trivial
  split at hread
  · rename_i tokens htokens
    obtain rfl := Except.ok.inj hread
    exact DatePattern.escapeFree_of_tokens (escapeFree_patternOf h) htokens
  · cases hread

end DateFormat

/-! ## Clocks -/

namespace DateClock

/-- Clocks that write no escape character, now and later. -/
structure EscapeFree (clock : DateClock) : Prop where
  /-- No instant has one in its text. -/
  text : ∀ t, Text.EscapeFree (clock.format.text clock.zone.clocks t)
  /-- The text that is kept has none. -/
  kept : ∀ entry ∈ clock.kept, Text.EscapeFree entry.2

/-- Writing gives no escape character, and the clock keeps none. -/
theorem EscapeFree.write {clock : DateClock} (h : clock.EscapeFree) (t : Instant) :
    (clock.write t).1.EscapeFree ∧
      ∀ text, (clock.write t).2 = .ok text → Text.EscapeFree text := by
  unfold DateClock.write
  split
  · split
    · split
      · rename_i kept hkept
        refine ⟨h, fun text heq => ?_⟩
        obtain rfl := Except.ok.inj heq
        unfold keptText? at hkept
        split at hkept
        · rename_i millis later hentry
          split at hkept
          · obtain rfl := Option.some.inj hkept
            exact h.kept _ hentry
          · cases hkept
        · cases hkept
      · refine ⟨⟨h.text, ?_⟩, fun text heq => ?_⟩
        · intro entry hentry
          obtain rfl := Option.some.inj hentry
          exact h.text t
        · obtain rfl := Except.ok.inj heq
          exact h.text t
    · refine ⟨h, fun text heq => ?_⟩
      obtain rfl := Except.ok.inj heq
      exact h.text t
  · exact ⟨h, nofun⟩

theorem escapeFree_of_format {format : DateFormat} (h : format.EscapeFree) {zone : Zone}
    (hzone : zone.EscapeFree) : EscapeFree { format, zone } :=
  ⟨h.text hzone, nofun⟩

section

variable {host : Host} (hzones : host.zones.NamesEscapeFree)

include hzones

/-- A format and the zone that is read for it make a clock. -/
theorem escapeFree_of_map_readZone {format : DateFormat} (hformat : format.EscapeFree)
    {name : Option Text} {clock : DateClock}
    (h : ((readZone host.zones name).map fun zone => ({ format, zone } : DateClock)) = .ok clock) :
    clock.EscapeFree := by
  obtain ⟨zone, hzone, rfl⟩ := map_eq_ok_iff.1 h
  exact escapeFree_of_format hformat (all_of_readZone hzones Zone.escapeFree_fixed hzone)

theorem escapeFree_of_read {pattern : Text} {zone : Option Text} {clock : DateClock}
    (hpattern : Text.EscapeFree pattern) (h : read pattern zone host = .ok clock) :
    clock.EscapeFree := by
  unfold read at h
  split at h
  · cases h
  · rename_i format hformat
    exact escapeFree_of_map_readZone hzones (DateFormat.escapeFree_of_read hpattern hformat) h

omit hzones in
theorem escapeFree_defaultTokens : (DateFormat.pattern DateFormat.defaultTokens).EscapeFree := by
  simp [DateFormat.EscapeFree, DateFormat.defaultTokens, DateToken.EscapeFree]

/-- Clocks that the options of a specifier give. -/
theorem escapeFree_of_ofOptions {options : List Text} {clock : DateClock}
    (hoptions : ∀ option ∈ options, Text.EscapeFree option)
    (h : ofOptions host options = .ok clock) : clock.EscapeFree := by
  unfold ofOptions at h
  simp only at h
  split at h
  · rename_i pattern rest
    split at h
    · exact escapeFree_of_map_readZone hzones escapeFree_defaultTokens h
    · exact escapeFree_of_read hzones (hoptions pattern List.mem_cons_self) h
  · obtain rfl := Except.ok.inj h
    exact escapeFree_of_format escapeFree_defaultTokens hzones.system

end

end DateClock

end LogLine
