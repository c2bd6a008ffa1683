/-
  Proofs/Time/SortedText.lean --- texts of instants that sort by time.

  A format that shows the year, the month, the day, the hour, the minute, the
  second and the millisecond in this order, each with all of its digits, sorts by
  time: of two instants in different milliseconds, the first field that differs is
  smaller for the earlier one, and fields of one width sort as their numbers do.
  What stands between the fields does not matter.  Years need four digits and
  clocks that stay at one offset:

      CivilTime.comesBefore_of_millisecond_lt   the first field that differs
      DateFormat.precedes_flatMap_tokenText     fields in order, and their text
      DateFormat.precedes_text_iff              the order of the texts
      DateClock.texts_sorted                    the named formats that sort
-/
import LogLine.Proofs.Text.TextOrder
import LogLine.Proofs.Time.CalendarOrder
import LogLine.Proofs.Time.KeptText

set_option autoImplicit false

namespace LogLine

/-! ## Civil times -/

namespace CivilTime

/-- The number that a field shows with all of its digits: the year is not
negative, and the fraction is in milliseconds. -/
def number (time : CivilTime) : DateField → Nat
  | .year => time.date.year.toNat
  | .month => time.date.month
  | .day => time.date.day
  | .hour24 => time.hour
  | .minute => time.minute
  | .second => time.second
  | .fraction => time.nanos / 1000000
  | _ => 0

/-- The first of some fields in which two civil times differ is smaller in the
first of them. -/
def ComesBefore (a b : CivilTime) : List (DateField × Nat) → Prop
  | [] => False
  | (field, _) :: rest =>
    a.number field < b.number field ∨ a.number field = b.number field ∧ ComesBefore a b rest

end CivilTime

/-- The fields of an instant from the year to the millisecond, with their digits. -/
def DateField.chronological : List (DateField × Nat) :=
  [(.year, 4), (.month, 2), (.day, 2), (.hour24, 2), (.minute, 2), (.second, 2), (.fraction, 3)]

namespace CivilTime

/-- A later second has a later date or is a later second of the same day. -/
theorem day_and_time_lt {a b : Int} (h : a < b) :
    a.fdiv secondsPerDay < b.fdiv secondsPerDay ∨
      a.fdiv secondsPerDay = b.fdiv secondsPerDay ∧
        (a.fmod secondsPerDay).toNat < (b.fmod secondsPerDay).toNat := by
  unfold secondsPerDay
  rw [Int.fdiv_eq_ediv_of_nonneg _ (by decide), Int.fdiv_eq_ediv_of_nonneg _ (by decide),
    Int.fmod_eq_emod_of_nonneg _ (by decide), Int.fmod_eq_emod_of_nonneg _ (by decide)]
  omega

/-- Of two instants in different milliseconds the earlier one comes first, at
clocks that stay at one offset, if neither has a year before 0. -/
theorem comesBefore_of_millisecond_lt {t u : Instant} (h : t.millisecond < u.millisecond)
    {offset : Int} (ht : 0 ≤ (ofInstant t offset).date.year)
    (hu : 0 ≤ (ofInstant u offset).date.year) :
    ComesBefore (ofInstant t offset) (ofInstant u offset) DateField.chronological := by
  have hmillisT := t.subsecond_div_eq
  have hmillisU := u.subsecond_div_eq
  have hsecondT := t.second_eq
  have hsecondU := u.second_eq
  simp only [ComesBefore, DateField.chronological, number, ofInstant] at ht hu ⊢
  -- the date decides, or the time of the same day, or the millisecond of the same second
  rcases Int.lt_or_le t.second u.second with hsecond | hsecond
  · rcases day_and_time_lt (Int.add_lt_add_right hsecond offset) with hday | ⟨hday, htime⟩
    · have hbefore := CivilDate.ofDays_before hday
      unfold CivilDate.Before at hbefore
      omega
    · rw [hday]
      omega
  · have hsame : t.second = u.second := by omega
    rw [hsame]
    omega

/-- The parts of a civil time in four digits, two digits and three. -/
structure WellFormed (time : CivilTime) : Prop where
  year : 0 ≤ time.date.year ∧ time.date.year ≤ 9999
  month : time.date.month ≤ 12
  day : time.date.day ≤ 31
  hour : time.hour < 24
  minute : time.minute < 60
  second : time.second < 60
  nanos : time.nanos < 1000000000

theorem wellFormed_ofInstant {t : Instant} {offset : Int}
    (h : 0 ≤ (ofInstant t offset).date.year ∧ (ofInstant t offset).date.year ≤ 9999) :
    (ofInstant t offset).WellFormed := by
  have hdate := CivilDate.month_and_day_le ((t.second + offset).fdiv secondsPerDay)
  have htime : ((t.second + offset).fmod secondsPerDay).toNat < 86400 := by
    unfold secondsPerDay
    rw [Int.fmod_eq_emod_of_nonneg _ (by decide)]
    omega
  refine ⟨h, hdate.1, hdate.2, ?_, ?_, ?_, t.subsecond_lt⟩
  · show ((t.second + offset).fmod secondsPerDay).toNat / 3600 < 24
    omega
  · show ((t.second + offset).fmod secondsPerDay).toNat % 3600 / 60 < 60
    omega
  · show ((t.second + offset).fmod secondsPerDay).toNat % 60 < 60
    omega

end CivilTime

/-! ## Texts -/

/-- The field that a token shows, and its width. -/
def DateToken.shown? : DateToken → Option (DateField × Nat)
  | .literal _ => none
  | .field shown width => some (shown, width)

namespace DateFormat

/-- A field that is written as a number of its width. -/
structure Shows (time : CivilTime) (field : DateField) (width : Nat) : Prop where
  pos : 0 < width
  lt : time.number field < Nat.pow 10 width
  text : ∀ offset zoneName, fieldText time offset zoneName field width =
    Text.zeroPadded width (time.number field : Nat)

/-- Each field from the year to the millisecond has the digits that it needs. -/
theorem shows_chronological {time : CivilTime} (h : time.WellFormed) :
    ∀ entry ∈ DateField.chronological, Shows time entry.1 entry.2 := by
  obtain ⟨hyear, hmonth, hday, hhour, hminute, hsecond, hnanos⟩ := h
  have hyearNat : ((time.date.year.toNat : Nat) : Int) = time.date.year :=
    Int.toNat_of_nonneg hyear.1
  simp only [DateField.chronological, List.forall_mem_cons, List.not_mem_nil, false_implies,
    forall_true_iff, and_true]
  refine ⟨⟨by decide, ?_, fun _ _ => ?_⟩, ⟨by decide, ?_, fun _ _ => rfl⟩,
    ⟨by decide, ?_, fun _ _ => rfl⟩, ⟨by decide, ?_, fun _ _ => rfl⟩,
    ⟨by decide, ?_, fun _ _ => rfl⟩, ⟨by decide, ?_, fun _ _ => rfl⟩,
    ⟨by decide, ?_, fun _ _ => fractionText_three hnanos⟩⟩
  · show time.date.year.toNat < 10000
    omega
  · show Text.zeroPadded 4 time.date.year = Text.zeroPadded 4 (time.date.year.toNat : Nat)
    rw [hyearNat]
  · exact Nat.lt_of_le_of_lt hmonth (by decide)
  · exact Nat.lt_of_le_of_lt hday (by decide)
  · exact Nat.lt_trans hhour (by decide)
  · exact Nat.lt_trans hminute (by decide)
  · exact Nat.lt_trans hsecond (by decide)
  · show time.nanos / 1000000 < 1000
    omega

/-- Tokens whose fields are numbers of their widths sort as these do, whatever
stands between them. -/
theorem precedes_flatMap_tokenText {a b : CivilTime} {tokens : List DateToken}
    (ha : ∀ entry ∈ tokens.filterMap DateToken.shown?, Shows a entry.1 entry.2)
    (hb : ∀ entry ∈ tokens.filterMap DateToken.shown?, Shows b entry.1 entry.2)
    (h : a.ComesBefore b (tokens.filterMap DateToken.shown?)) (offset offset' : Int)
    (zoneName zoneName' : Text) :
    Text.precedes (tokens.flatMap (tokenText a offset zoneName))
      (tokens.flatMap (tokenText b offset' zoneName')) = true := by
  induction tokens with
  | nil => exact absurd h id
  | cons token rest ih =>
    rw [List.flatMap_cons, List.flatMap_cons]
    cases token with
    | literal text => exact (Text.precedes_append_iff rfl _ _).2 (.inr ⟨rfl, ih ha hb h⟩)
    | field field width =>
      have hshown : (DateToken.field field width :: rest).filterMap DateToken.shown? =
          (field, width) :: rest.filterMap DateToken.shown? := rfl
      rw [hshown] at ha hb h
      rw [List.forall_mem_cons] at ha hb
      have htextA : tokenText a offset zoneName (.field field width) = _ := ha.1.text _ _
      have htextB : tokenText b offset' zoneName' (.field field width) = _ := hb.1.text _ _
      have hlength := (Text.length_zeroPadded ha.1.pos ha.1.lt).trans
        (Text.length_zeroPadded hb.1.pos hb.1.lt).symm
      rw [htextA, htextB, Text.precedes_append_iff hlength,
        Text.precedes_zeroPadded_iff ha.1.pos ha.1.lt hb.1.lt]
      exact h.imp id fun ⟨heq, hrest⟩ => ⟨by rw [heq], ih ha.2 hb.2 hrest⟩

/-- Such tokens show milliseconds and nothing finer. -/
theorem isCacheable_of_fields {tokens : List DateToken}
    (h : tokens.filterMap DateToken.shown? = DateField.chronological) :
    (DateFormat.pattern tokens).isCacheable = true := by
  refine List.all_eq_true.2 fun token htoken => ?_
  split
  · rename_i width
    have hmem : (DateField.fraction, width) ∈ tokens.filterMap DateToken.shown? :=
      List.mem_filterMap.2 ⟨_, htoken, rfl⟩
    rw [h] at hmem
    obtain rfl : width = 3 := by simpa [DateField.chronological] using hmem
    rfl
  · rfl

/-- They do not show the name of the time. -/
theorem tokensText_eq_of_fields {tokens : List DateToken}
    (h : tokens.filterMap DateToken.shown? = DateField.chronological) (a b : Text) {offset : Int}
    {t : Instant} : tokensText tokens offset a t = tokensText tokens offset b t := by
  refine List.flatMap_congr fun token htoken => ?_
  cases token with
  | literal text => rfl
  | field field width =>
    have hmem : (field, width) ∈ tokens.filterMap DateToken.shown? :=
      List.mem_filterMap.2 ⟨_, htoken, rfl⟩
    rw [h] at hmem
    cases field with
    | zoneName => simp [DateField.chronological] at hmem
    | _ => rfl

/-- Where clocks stay at one offset, texts from the year to the millisecond are in
the order of the milliseconds, and the same only in one. -/
theorem precedes_text_iff {tokens : List DateToken}
    (h : tokens.filterMap DateToken.shown? = DateField.chronological) {clocks : Clocks}
    {offset : Int} (hclocks : ∀ t, clocks.offset t = offset) {t u : Instant}
    (ht : (CivilTime.ofInstant t offset).WellFormed)
    (hu : (CivilTime.ofInstant u offset).WellFormed) :
    (Text.precedes ((DateFormat.pattern tokens).text clocks t)
        ((DateFormat.pattern tokens).text clocks u) = true ↔ t.millisecond < u.millisecond) ∧
      ((DateFormat.pattern tokens).text clocks t = (DateFormat.pattern tokens).text clocks u ↔
        t.millisecond = u.millisecond) := by
  have hlt : ∀ {t u : Instant}, (CivilTime.ofInstant t offset).WellFormed →
      (CivilTime.ofInstant u offset).WellFormed → t.millisecond < u.millisecond →
        Text.precedes ((DateFormat.pattern tokens).text clocks t)
          ((DateFormat.pattern tokens).text clocks u) = true := by
    intro t u ht hu hmillis
    show Text.precedes (tokensText tokens (clocks.offset t) (clocks.name t) t)
      (tokensText tokens (clocks.offset u) (clocks.name u) u) = true
    unfold tokensText
    rw [hclocks, hclocks]
    refine precedes_flatMap_tokenText (h ▸ shows_chronological ht) (h ▸ shows_chronological hu) ?_
      _ _ _ _
    rw [h]
    exact CivilTime.comesBefore_of_millisecond_lt hmillis ht.year.1 hu.year.1
  have heq : t.millisecond = u.millisecond → (DateFormat.pattern tokens).text clocks t =
      (DateFormat.pattern tokens).text clocks u := by
    intro hmillis
    show tokensText tokens (clocks.offset t) (clocks.name t) t =
      tokensText tokens (clocks.offset u) (clocks.name u) u
    rw [hclocks, hclocks, tokensText_eq_of_fields h (clocks.name t) (clocks.name u)]
    exact tokensText_eq_of_millisecond_eq (isCacheable_of_fields h) _ _ hmillis
  rcases Int.lt_trichotomy t.millisecond u.millisecond with hmillis | hmillis | hmillis
  · have hprecedes := hlt ht hu hmillis
    refine ⟨iff_of_true hprecedes hmillis, iff_of_false (fun hsame => ?_) (Int.ne_of_lt hmillis)⟩
    rw [hsame, Text.precedes_self] at hprecedes
    cases hprecedes
  · rw [heq hmillis, Text.precedes_self]
    exact ⟨iff_of_false nofun (by omega), iff_of_true rfl hmillis⟩
  · have hprecedes := hlt hu ht hmillis
    refine ⟨iff_of_false (fun hafter => ?_) (by omega), iff_of_false (fun hsame => ?_) (by omega)⟩
    · rw [Text.precedes_asymm hprecedes] at hafter
      cases hafter
    · rw [hsame, Text.precedes_self] at hprecedes
      cases hprecedes

/-- Whether a format shows the fields from the year to the millisecond. -/
def isChronological : DateFormat → Bool
  | .pattern tokens => tokens.filterMap DateToken.shown? == DateField.chronological
  | _ => false

/-- The names of formats that do. -/
def sortingNames : List String := ["DEFAULT", "ISO8601", "ISO8601_BASIC", "COMPACT"]

theorem read_of_mem_sortingNames {name : String} (h : name ∈ sortingNames) :
    ∃ tokens, read name.toList = .ok (.pattern tokens) ∧
      tokens.filterMap DateToken.shown? = DateField.chronological := by
  have hall : ∀ name ∈ sortingNames,
      (read name.toList).toOption.any isChronological = true := by
    decide +kernel
  have hname := hall name h
  cases hread : read name.toList with
  | error error =>
    rw [hread] at hname
    cases hname
  | ok format =>
    rw [hread] at hname
    cases format with
    | pattern tokens => exact ⟨tokens, rfl, eq_of_beq hname⟩
    | _ => cases hname

end DateFormat

/-! ## Clocks -/

namespace DateClock

/-- The named formats from the year to the millisecond sort by time.  With such a
name and a zone whose clocks stay at one offset, a clock is read, and for any two
instants in range with local years from 0 to 9999 it writes, as long as it has kept
nothing, texts that are in code point order exactly if the instants lie in
milliseconds in order, and the same exactly if they lie in one. -/
theorem texts_sorted {name : String} (hname : name ∈ DateFormat.sortingNames) {host : Host}
    {zoneName : Text} {zone : Zone} (hzone : Zone.read host.zones zoneName = .ok zone)
    {offset : Int} (hfixed : ∀ t, zone.clocks.offset t = offset) :
    ∃ clock, read name.toList (some zoneName) host = .ok clock ∧
      ∀ t u : Instant, t.inRange = true → u.inRange = true →
        0 ≤ (CivilTime.ofInstant t offset).date.year ∧
          (CivilTime.ofInstant t offset).date.year ≤ 9999 →
        0 ≤ (CivilTime.ofInstant u offset).date.year ∧
          (CivilTime.ofInstant u offset).date.year ≤ 9999 →
        ∃ a b, (clock.write t).2 = .ok a ∧ (clock.write u).2 = .ok b ∧
          (Text.precedes a b = true ↔ t.millisecond < u.millisecond) ∧
          (a = b ↔ t.millisecond = u.millisecond) := by
  obtain ⟨tokens, hread, htokens⟩ := DateFormat.read_of_mem_sortingNames hname
  have hclock : read name.toList (some zoneName) host =
      .ok { format := .pattern tokens, zone } := by
    simp only [read, hread, readZone, hzone]
    rfl
  refine ⟨_, hclock, fun t u ht hu hyearT hyearU => ?_⟩
  have hwrite : ∀ {t : Instant}, t.inRange = true →
      (write { format := .pattern tokens, zone } t).2 =
        .ok ((DateFormat.pattern tokens).text zone.clocks t) := by
    intro t ht
    rw [write_eq_answer rfl, answer, if_pos ht]
  exact ⟨_, _, hwrite ht, hwrite hu, DateFormat.precedes_text_iff htokens hfixed
    (CivilTime.wellFormed_ofInstant hyearT) (CivilTime.wellFormed_ofInstant hyearU)⟩

/-- The last nanosecond of a year at clocks that are behind UTC, and the next. -/
def newYear : Instant × Instant := (.ofSeconds 946704599 999999999, .ofSeconds 946704600 0)

theorem texts_sorted_newYear :
    "COMPACT" ∈ DateFormat.sortingNames ∧
      Zone.read Region.database "-05:30".toList = .ok (.fixed (-19800)) ∧
      (∀ t, (Zone.fixed (-19800)).clocks.offset t = -19800) ∧
      newYear.1.inRange = true ∧ newYear.2.inRange = true ∧
      (CivilTime.ofInstant newYear.1 (-19800)).date = ⟨1999, 12, 31⟩ ∧
      (CivilTime.ofInstant newYear.2 (-19800)).date = ⟨2000, 1, 1⟩ ∧
      ∃ clock a b, read "COMPACT".toList (some "-05:30".toList) {} = .ok clock ∧
        (clock.write newYear.1).2 = .ok a ∧ (clock.write newYear.2).2 = .ok b ∧
        Text.precedes a b = true ∧ a ≠ b := by
  have hname : "COMPACT" ∈ DateFormat.sortingNames := by decide
  have hzone : Zone.read Region.database "-05:30".toList = .ok (.fixed (-19800)) := by rfl
  have hfixed : ∀ t, (Zone.fixed (-19800)).clocks.offset t = -19800 := fun _ => rfl
  have hbefore : newYear.1.inRange = true := by decide
  have hafter : newYear.2.inRange = true := by decide
  have hold : (CivilTime.ofInstant newYear.1 (-19800)).date = ⟨1999, 12, 31⟩ := by decide
  have hnew : (CivilTime.ofInstant newYear.2 (-19800)).date = ⟨2000, 1, 1⟩ := by decide
  obtain ⟨clock, hread, hsorted⟩ := @texts_sorted _ hname {} _ _ hzone _ hfixed
  obtain ⟨a, b, ha, hb, hprecedes, hsame⟩ := hsorted newYear.1 newYear.2 hbefore hafter
    (by rw [hold]; decide) (by rw [hnew]; decide)
  have hmillis : newYear.1.millisecond < newYear.2.millisecond := by decide
  refine ⟨hname, hzone, hfixed, hbefore, hafter, hold, hnew, clock, a, b, hread, ha, hb,
    hprecedes.2 hmillis, fun heq => ?_⟩
  exact absurd (hsame.1 heq) (by decide)

end DateClock

end LogLine
