/-
  Proofs/Time/KeptText.lean --- when a clock may write a text that it kept.

  A clock keeps the last text with its millisecond, cut toward zero.  What it
  writes depends on the millisecond that an instant lies in.  From the epoch on
  these are the same.  Before it, the instants after a whole millisecond are cut to
  the next one, so that a text kept for one millisecond may be that of another: the
  last one before the epoch and the first one after it are such a pair.  Of the
  clocks of zones no more is asked than that they turn at whole seconds.

      DateFormat.text_eq_of_millisecond_eq   the millisecond decides a text that may be kept
      DateClock.writeAll_eq_map_iff          one clock writes what new clocks would
      DateClock.writeAll_tfae                all clocks do, for these instants
-/
import Mathlib.Data.List.Chain
import Mathlib.Tactic.TFAE
import LogLine.Proofs.Text.DecimalDigits
import LogLine.Proofs.Time.KnownZones

set_option autoImplicit false

namespace LogLine

/-! ## Milliseconds -/

namespace Instant

theorem millisecond_eq (t : Instant) : t.millisecond = t.nanos / 1000000 :=
  Int.fdiv_eq_ediv_of_nonneg _ (by decide)

/-- The millisecond decides the second. -/
theorem second_eq (t : Instant) : t.second = t.millisecond / 1000 := by
  have hsecond : t.second = t.nanos / 1000000000 := Int.fdiv_eq_ediv_of_nonneg _ (by decide)
  rw [hsecond, millisecond_eq]
  omega

theorem subsecond_eq (t : Instant) : t.subsecond = (t.nanos % 1000000000).toNat :=
  congrArg Int.toNat (Int.fmod_eq_emod_of_nonneg _ (by decide))

theorem subsecond_lt (t : Instant) : t.subsecond < 1000000000 := by
  rw [subsecond_eq]
  omega

/-- The millisecond decides the first three digits of the fraction. -/
theorem subsecond_div_eq (t : Instant) : t.subsecond / 1000000 = (t.millisecond % 1000).toNat := by
  rw [subsecond_eq, millisecond_eq]
  omega

/-- Cutting toward zero goes up before the epoch, unless the millisecond is
whole. -/
theorem truncatedMillis_eq (t : Instant) :
    t.truncatedMillis =
      t.millisecond + if 0 ≤ t.nanos ∨ 1000000 ∣ t.nanos then 0 else 1 := by
  rw [millisecond_eq]
  exact Int.tdiv_eq_ediv

/-- Two instants that are cut to one millisecond lie in one or in two that
follow each other. -/
theorem natAbs_millisecond_sub_le {t u : Instant} (h : t.truncatedMillis = u.truncatedMillis) :
    (t.millisecond - u.millisecond).natAbs ≤ 1 := by
  rw [truncatedMillis_eq, truncatedMillis_eq] at h
  split at h <;> split at h <;> omega

/-- From the epoch on, and for whole milliseconds, cutting toward zero gives the
millisecond. -/
theorem truncatedMillis_eq_millisecond {t : Instant} (h : 0 ≤ t.nanos ∨ 1000000 ∣ t.nanos) :
    t.truncatedMillis = t.millisecond := by
  rw [truncatedMillis_eq, if_pos h, Int.add_zero]

/-- Of instants that follow each other, those outside the range left out, any
two that are cut to one millisecond also lie in one. -/
def InStep (times : List Instant) : Prop :=
  (times.filter inRange).IsChain fun t u =>
    t.truncatedMillis = u.truncatedMillis → t.millisecond = u.millisecond

/-- Instants from the epoch on, and whole milliseconds, are in step in any
order. -/
theorem inStep_of_forall {times : List Instant}
    (h : ∀ t ∈ times, 0 ≤ t.nanos ∨ 1000000 ∣ t.nanos) : InStep times := by
  refine List.Pairwise.isChain (List.pairwise_of_forall_mem_list fun t ht u hu heq => ?_)
  rw [← truncatedMillis_eq_millisecond (h t (List.mem_of_mem_filter ht)),
    ← truncatedMillis_eq_millisecond (h u (List.mem_of_mem_filter hu)), heq]

end Instant

/-! ## The text of a millisecond -/

namespace DateFormat

/-- A fraction of up to three digits does not show what is below a
millisecond. -/
theorem fractionText_eq {width : Nat} (h : width ≤ 3) (nanos : Nat) :
    fractionText width nanos = (Text.zeroPadded 3 (nanos / 1000000 : Nat)).take width := by
  obtain ⟨tail, htail⟩ := Text.exists_zeroPadded_nine nanos
  have hlength : width ≤ (Text.zeroPadded 3 (nanos / 1000000 : Nat)).length :=
    Nat.le_trans h (Text.le_length_zeroPadded 3 _)
  have hnone : width - 9 = 0 := by omega
  rw [fractionText, htail, List.take_append_of_le_length hlength, hnone, List.replicate_zero,
    List.append_nil]

/-- Three digits show the millisecond of the second. -/
theorem fractionText_three {nanos : Nat} (h : nanos < 1000000000) :
    fractionText 3 nanos = Text.zeroPadded 3 (nanos / 1000000 : Nat) := by
  have hsmall : nanos / 1000000 < 1000 := by omega
  rw [fractionText_eq (Nat.le_refl 3)]
  exact List.take_of_length_le (Nat.le_of_eq (Text.length_zeroPadded (by decide) hsmall))

theorem ofInstant_eq {t u : Instant} (h : t.second = u.second) (offset : Int) :
    CivilTime.ofInstant t offset =
      { CivilTime.ofInstant u offset with nanos := t.subsecond } := by
  unfold CivilTime.ofInstant
  rw [h]

theorem tokenText_eq {token : DateToken} {time : CivilTime} {nanos : Nat} {offset : Int}
    {zoneName : Text} (htoken : ∀ width, token = .field .fraction width → width ≤ 3)
    (h : nanos / 1000000 = time.nanos / 1000000) :
    tokenText { time with nanos } offset zoneName token = tokenText time offset zoneName token := by
  cases token with
  | literal text => rfl
  | field field width =>
    cases field with
    | fraction =>
      have hwidth := htoken width rfl
      show fractionText width nanos = fractionText width time.nanos
      rw [fractionText_eq hwidth, fractionText_eq hwidth, h]
    | _ => rfl

theorem le_three_of_isCacheable {tokens : List DateToken}
    (h : (DateFormat.pattern tokens).isCacheable = true) {token : DateToken}
    (htoken : token ∈ tokens) (width : Nat) (hfield : token = .field .fraction width) :
    width ≤ 3 := by
  subst hfield
  simpa using List.all_eq_true.1 h _ htoken

theorem tokensText_eq_of_millisecond_eq {tokens : List DateToken}
    (hformat : (DateFormat.pattern tokens).isCacheable = true) (offset : Int) (zoneName : Text)
    {t u : Instant} (h : t.millisecond = u.millisecond) :
    tokensText tokens offset zoneName t = tokensText tokens offset zoneName u := by
  have hsecond : t.second = u.second := by rw [t.second_eq, u.second_eq, h]
  have hnanos : t.subsecond / 1000000 = u.subsecond / 1000000 := by
    rw [t.subsecond_div_eq, u.subsecond_div_eq, h]
  unfold tokensText
  rw [ofInstant_eq hsecond]
  refine List.flatMap_congr fun token htoken => ?_
  exact tokenText_eq (le_three_of_isCacheable hformat htoken) hnanos

/-- By clocks that turn at whole seconds, a text that may be kept is that of every
instant in its millisecond. -/
theorem text_eq_of_millisecond_eq {format : DateFormat} (hformat : format.isCacheable = true)
    {clocks : Clocks} (hclocks : clocks.TurnAtSeconds) {t u : Instant}
    (h : t.millisecond = u.millisecond) : format.text clocks t = format.text clocks u := by
  cases format with
  | unixSeconds => cases hformat
  | unixMillis => cases hformat
  | pattern tokens =>
    have hsecond : t.second = u.second := by rw [t.second_eq, u.second_eq, h]
    obtain ⟨hoffset, hname⟩ := hclocks t u hsecond
    show tokensText tokens (clocks.offset t) (clocks.name t) t =
      tokensText tokens (clocks.offset u) (clocks.name u) u
    rw [hoffset, hname]
    exact tokensText_eq_of_millisecond_eq hformat _ _ h

/-- The format that shows the milliseconds of the second alone. -/
def millisOfSecond : DateFormat := .pattern [.field .fraction 3]

theorem text_millisOfSecond (clocks : Clocks) (t : Instant) :
    millisOfSecond.text clocks t = Text.zeroPadded 3 (t.subsecond / 1000000 : Nat) := by
  show fractionText 3 t.subsecond ++ [] = _
  rw [List.append_nil, fractionText_three t.subsecond_lt]

/-- It tells milliseconds apart that follow each other. -/
theorem millisecond_eq_of_text_eq {clocks : Clocks} {t u : Instant}
    (hmillis : t.truncatedMillis = u.truncatedMillis)
    (h : millisOfSecond.text clocks t = millisOfSecond.text clocks u) :
    t.millisecond = u.millisecond := by
  rw [text_millisOfSecond, text_millisOfSecond] at h
  have hvalue := Text.zeroPadded_inj h
  rw [t.subsecond_div_eq, u.subsecond_div_eq] at hvalue
  have hnear := Instant.natAbs_millisecond_sub_le hmillis
  omega

end DateFormat

/-! ## Clocks -/

namespace DateClock

/-- What a clock writes for an instant when it keeps nothing. -/
def answer (clock : DateClock) (t : Instant) : Except Error Text :=
  if t.inRange then .ok (clock.format.text clock.zone.clocks t) else .error outOfRange

theorem write_eq_answer {clock : DateClock} (h : clock.kept = none) (t : Instant) :
    (clock.write t).2 = clock.answer t := by
  unfold write answer keptText?
  rw [h]
  split
  · split <;> rfl
  · rfl

/-- Two instants that are cut to one millisecond have one text. -/
def SameText (clock : DateClock) (t u : Instant) : Prop :=
  t.truncatedMillis = u.truncatedMillis →
    clock.format.text clock.zone.clocks t = clock.format.text clock.zone.clocks u

/-- What a clock keeps of an instant. -/
def entryOf (clock : DateClock) (t : Instant) : Int × Text :=
  (t.truncatedMillis, clock.format.text clock.zone.clocks t)

section

variable {clock : DateClock} {t : Instant}

theorem writeAll_cons (t : Instant) (rest : List Instant) :
    clock.writeAll (t :: rest) = (clock.write t).2 :: (clock.write t).1.writeAll rest := rfl

theorem write_of_not_inRange (h : t.inRange = false) :
    clock.write t = (clock, .error outOfRange) := by
  simp [write, h]

theorem write_of_not_isCacheable (hformat : clock.format.isCacheable = false) (t : Instant) :
    clock.write t = (clock, clock.answer t) := by
  unfold write answer
  rw [hformat]
  split <;> rfl

/-- A text that is not kept is kept from then on. -/
theorem write_of_keptText?_none (hformat : clock.format.isCacheable = true)
    (h : t.inRange = true) (hmiss : clock.keptText? t = none) :
    clock.write t = ({ clock with kept := some (clock.entryOf t) }, clock.answer t) := by
  simp [write, answer, entryOf, h, hformat, hmiss]

theorem write_of_keptText?_some (hformat : clock.format.isCacheable = true)
    (h : t.inRange = true) {text : Text} (hhit : clock.keptText? t = some text) :
    clock.write t = (clock, .ok text) := by
  simp [write, h, hformat, hhit]

/-- A clock that keeps nothing back writes what new clocks would. -/
theorem writeAll_of_not_isCacheable (hformat : clock.format.isCacheable = false)
    (times : List Instant) : clock.writeAll times = times.map clock.answer := by
  induction times with
  | nil => rfl
  | cons t rest ih => rw [writeAll_cons, write_of_not_isCacheable hformat, ih, List.map_cons]

/-- A clock that keeps the text of an instant, or none, writes what new clocks
would as long as instants that are cut to one millisecond have one text. -/
theorem writeAll_eq_map_iff_of_kept (hformat : clock.format.isCacheable = true)
    {last : Option Instant} (hkept : clock.kept = last.map clock.entryOf) (times : List Instant) :
    clock.writeAll times = times.map clock.answer ↔
      (last.toList ++ times.filter Instant.inRange).IsChain clock.SameText := by
  induction times generalizing clock last with
  | nil => cases last <;> simp [writeAll]
  | cons t rest ih =>
    rw [writeAll_cons, List.map_cons, List.cons.injEq]
    by_cases ht : t.inRange = true
    · rw [List.filter_cons_of_pos ht]
      have hanswer : clock.answer t = .ok (clock.format.text clock.zone.clocks t) := if_pos ht
      have hnext : ∀ clock' : DateClock, clock'.format = clock.format → clock'.zone = clock.zone →
          clock'.kept = some (clock.entryOf t) →
          (clock'.writeAll rest = rest.map clock.answer ↔
            (t :: rest.filter Instant.inRange).IsChain clock.SameText) := by
        rintro ⟨format, zone, kept⟩ rfl rfl hclock'
        exact @ih { clock with kept } hformat (some t) hclock'
      cases last with
      | none =>
        have hmiss : clock.keptText? t = none := by simp [keptText?, hkept]
        rw [write_of_keptText?_none hformat ht hmiss, Option.toList_none, List.nil_append]
        exact (and_iff_right rfl).trans (hnext _ rfl rfl rfl)
      | some before =>
        have hclock : clock.kept = some (clock.entryOf before) := hkept
        rw [Option.toList_some, List.singleton_append, List.isChain_cons_cons]
        by_cases hmillis : before.truncatedMillis = t.truncatedMillis
        · have hhit : clock.keptText? t = some (clock.format.text clock.zone.clocks before) := by
            simp [keptText?, hclock, entryOf, hmillis]
          rw [write_of_keptText?_some hformat ht hhit, hanswer]
          by_cases htext : clock.format.text clock.zone.clocks before =
              clock.format.text clock.zone.clocks t
          · -- the text that is kept is also that of `t`
            have hsame : clock.entryOf before = clock.entryOf t := Prod.ext hmillis htext
            exact and_congr (iff_of_true (congrArg Except.ok htext) fun _ => htext)
              (hnext clock rfl rfl (hsame ▸ hclock))
          · exact iff_of_false (fun h => htext (Except.ok.inj h.1)) fun h => htext (h.1 hmillis)
        · have hmiss : clock.keptText? t = none := by simp [keptText?, hclock, entryOf, hmillis]
          rw [write_of_keptText?_none hformat ht hmiss]
          exact and_congr (iff_of_true rfl fun h => absurd h hmillis) (hnext _ rfl rfl rfl)
    · have hout : t.inRange = false := by simpa using ht
      have herror : clock.answer t = .error outOfRange := by simp [answer, hout]
      rw [List.filter_cons_of_neg ht, write_of_not_inRange hout, herror]
      exact (and_iff_right rfl).trans (ih hformat hkept)

end

/-- A new clock writes for each of some instants what a clock of its own would,
exactly when instants that follow each other and are cut to one millisecond have
one text, or texts are not kept. -/
theorem writeAll_eq_map_iff {clock : DateClock} (h : clock.kept = none) (times : List Instant) :
    clock.writeAll times = times.map clock.answer ↔
      (clock.format.isCacheable = true →
        (times.filter Instant.inRange).IsChain clock.SameText) := by
  by_cases hformat : clock.format.isCacheable = true
  · rw [@writeAll_eq_map_iff_of_kept clock hformat none h times]
    exact ⟨fun hchain _ => hchain, fun hchain => hchain hformat⟩
  · have hformat : clock.format.isCacheable = false := by simpa using hformat
    exact iff_of_true (writeAll_of_not_isCacheable hformat times) (by simp [hformat])

/-- Every process has a zone of this name, whatever its database. -/
theorem read_utc {pattern : Text} {format : DateFormat}
    (h : DateFormat.read pattern = .ok format) (host : Host) :
    read pattern (some "UTC".toList) host = .ok { format, zone := .utc } := by
  have hname : Text.trim "UTC".toList ∈ ["UTC".toList, "GMT".toList, "Z".toList] := by decide
  have hzone : readZone host.zones (some "UTC".toList) = .ok .utc := by
    rw [readZone, Zone.read, if_pos hname]
  rw [read, h]
  show (readZone host.zones _).map _ = _
  rw [hzone]
  rfl

/-- Where the clocks of all zones turn at whole seconds, keeping texts does not show
for some instants, whatever the clock, exactly when they are in step; and the clocks
that are read from a date pattern and a zone show it otherwise. -/
theorem writeAll_tfae {host : Host} (hzones : host.zones.TurnsAtSeconds) (times : List Instant) :
    List.TFAE [
      ∀ clock : DateClock, clock.zone.clocks.TurnAtSeconds → clock.kept = none →
        clock.writeAll times = times.map fun t => (clock.write t).2,
      ∀ pattern zone clock, read pattern zone host = .ok clock →
        clock.writeAll times = times.map fun t => (clock.write t).2,
      Instant.InStep times] := by
  have hanswer : ∀ clock : DateClock, clock.kept = none →
      (times.map fun t => (clock.write t).2) = times.map clock.answer :=
    fun clock h => List.map_congr_left fun t _ => write_eq_answer h t
  tfae_have 1 → 2 := fun h pattern zone clock hread =>
    h clock (turnAtSeconds_of_read hzones hread) (zone_and_kept_of_read hread).2
  tfae_have 2 → 3 := by
    intro h
    have hformat : DateFormat.read "SSS".toList = .ok DateFormat.millisOfSecond :=
      eq_ok_of_toOption (by decide +kernel)
    have hall := h _ _ _ (read_utc hformat host)
    rw [hanswer _ rfl, writeAll_eq_map_iff rfl] at hall
    refine (hall rfl).imp fun t u hsame hmillis => ?_
    exact DateFormat.millisecond_eq_of_text_eq hmillis (hsame hmillis)
  tfae_have 3 → 1 := by
    intro h clock hclock hkept
    rw [hanswer clock hkept, writeAll_eq_map_iff hkept]
    intro hformat
    refine List.IsChain.imp (fun t u hstep hmillis => ?_) h
    exact DateFormat.text_eq_of_millisecond_eq hformat hclock (hstep hmillis)
  tfae_finish

/-- Half a millisecond before and after the epoch. -/
def aroundEpoch : List Instant := [⟨-500000⟩, ⟨500000⟩]

/-- Both are cut to the millisecond zero, so that the second is written with the
date of the first, the day and the year before. -/
theorem writeAll_aroundEpoch :
    ∃ clock, read "yyyy-MM-dd HH:mm:ss,SSS".toList (some "UTC".toList) {} = .ok clock ∧
      clock.writeAll aroundEpoch =
        [.ok "1969-12-31 23:59:59,999".toList, .ok "1969-12-31 23:59:59,999".toList] ∧
      (aroundEpoch.map fun t => (clock.write t).2) =
        [.ok "1969-12-31 23:59:59,999".toList, .ok "1970-01-01 00:00:00,000".toList] ∧
      clock.writeAll aroundEpoch ≠ aroundEpoch.map fun t => (clock.write t).2 := by
  have hformat : DateFormat.read "yyyy-MM-dd HH:mm:ss,SSS".toList =
      .ok (.pattern DateFormat.defaultTokens) := eq_ok_of_toOption (by decide +kernel)
  refine ⟨_, read_utc hformat {}, ?_, ?_, ?_⟩
  · rfl
  · rfl
  · intro heq
    have hsame : [.ok "1969-12-31 23:59:59,999".toList, .ok "1969-12-31 23:59:59,999".toList] =
        ([.ok "1969-12-31 23:59:59,999".toList, .ok "1970-01-01 00:00:00,000".toList] :
          List (Except Error Text)) := heq
    have htext := Except.ok.inj (List.cons.inj (List.cons.inj hsame).2).1
    exact absurd htext (by decide)

/-- They are not in step, so that some clock that is read shows it; a whole millisecond
before the epoch and half of one after it are, and no clock does. -/
theorem writeAll_tfae_aroundEpoch :
    Region.database.TurnsAtSeconds ∧ ¬ Instant.InStep aroundEpoch ∧
      (¬ ∀ pattern zone clock, read pattern zone {} = .ok clock →
        clock.writeAll aroundEpoch = aroundEpoch.map fun t => (clock.write t).2) ∧
      ∀ pattern zone clock, read pattern zone {} = .ok clock →
        clock.writeAll [⟨-1000000⟩, ⟨500000⟩] =
          [⟨-1000000⟩, ⟨500000⟩].map fun t => (clock.write t).2 := by
  have hzones : Region.database.TurnsAtSeconds := Region.turnsAtSeconds_database
  have hstep : ¬ Instant.InStep aroundEpoch := by unfold Instant.InStep; decide
  have hsteady : Instant.InStep [⟨-1000000⟩, ⟨500000⟩] := Instant.inStep_of_forall (by decide)
  refine ⟨hzones, hstep, fun hall => hstep ?_, ?_⟩
  · exact ((@writeAll_tfae {} hzones aroundEpoch).out 1 2).1 hall
  · exact ((@writeAll_tfae {} hzones [⟨-1000000⟩, ⟨500000⟩]).out 1 2).2 hsteady

end DateClock

end LogLine
