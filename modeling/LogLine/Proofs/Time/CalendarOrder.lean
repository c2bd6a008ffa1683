/-
  Proofs/Time/CalendarOrder.lean --- later days have later dates.

  A date is found by dividing three times: days by eras, the days of an era by
  years that begin in March, and the days of such a year by months.  Each division
  keeps the order of its quotients, and of its remainders where the quotients are
  the same.  In years from January the last two months are the first two, and
  they stay between the same ones:

      CivilDate.year_of_eraDay          the year that a day of an era lies in
      CivilDate.march_lt                years that begin in March, and their days
      CivilDate.ofDays_before           dates
      CivilDate.month_and_day_le        months and days have two digits
-/
import Mathlib.Order.Monotone.Basic
import LogLine.Time.Civil

set_option autoImplicit false

namespace LogLine.CivilDate

/-- Whether a date is before another: by year, then by month, then by day. -/
def Before (a b : CivilDate) : Prop :=
  a.year < b.year ∨ a.year = b.year ∧ (a.month < b.month ∨ a.month = b.month ∧ a.day < b.day)

/-! ## The years of an era -/

theorem yearOfEraDay_mono : Monotone yearOfEraDay := by
  refine monotone_nat_of_le_succ fun day => ?_
  unfold yearOfEraDay
  -- the day that the last correction takes away is one that the second gives
  omega

/-- The first and the last day of a year of the era. -/
theorem yearOfEraDay_ends : ∀ year < 400,
    yearOfEraDay (daysBeforeYear year) = year ∧
      yearOfEraDay (daysBeforeYear (year + 1) - 1) = year := by
  decide +kernel

/-- A day of an era lies in a year of it that has begun less than 366 days
before. -/
theorem year_of_eraDay {day : Nat} (h : day < 146097) :
    yearOfEraDay day < 400 ∧ daysBeforeYear (yearOfEraDay day) ≤ day ∧
      day < daysBeforeYear (yearOfEraDay day) + 366 := by
  obtain ⟨year, hyear⟩ : ∃ year, yearOfEraDay day = year := ⟨_, rfl⟩
  have hlast : yearOfEraDay day ≤ 399 := yearOfEraDay_mono (Nat.le_of_lt_succ h)
  rw [hyear] at hlast ⊢
  refine ⟨Nat.lt_succ_of_le hlast, Nat.le_of_not_lt fun hlt => ?_, Nat.lt_of_not_le fun hle => ?_⟩
  · -- a day before the first one lies in an earlier year
    obtain ⟨before, rfl⟩ : ∃ before, year = before + 1 := by
      refine Nat.exists_eq_succ_of_ne_zero fun hzero => ?_
      rw [hzero] at hlt
      exact Nat.not_lt_zero day hlt
    have hle := yearOfEraDay_mono (Nat.le_sub_one_of_lt hlt)
    rw [(yearOfEraDay_ends before (by omega)).2] at hle
    omega
  · -- after 366 days the next year has begun, or the era is over
    rcases Nat.lt_or_ge (year + 1) 400 with hnext | hend
    · have hbegun : daysBeforeYear (year + 1) ≤ day := by
        unfold daysBeforeYear at hle ⊢
        omega
      have hge := yearOfEraDay_mono hbegun
      rw [(yearOfEraDay_ends (year + 1) hnext).1] at hge
      omega
    · obtain rfl : year = 399 := by omega
      exact absurd (Nat.le_trans hle (Nat.le_of_lt_succ h)) (by decide)

/-! ## Years that begin in March -/

/-- The day of its era that a day from the epoch is. -/
def eraDay (days : Int) : Nat := ((days + epochDays).fmod daysPerEra).toNat

/-- The year, counted from March, that a day from the epoch lies in. -/
def marchYear (days : Int) : Int :=
  (days + epochDays).fdiv daysPerEra * 400 + yearOfEraDay (eraDay days)

/-- The day of that year. -/
def yearDay (days : Int) : Nat := eraDay days - daysBeforeYear (yearOfEraDay (eraDay days))

theorem eraDay_lt (days : Int) : eraDay days < 146097 := by
  unfold eraDay daysPerEra
  rw [Int.fmod_eq_emod_of_nonneg _ (by decide)]
  omega

theorem yearDay_lt (days : Int) : yearDay days < 366 := by
  obtain ⟨-, hbegun, hlength⟩ := year_of_eraDay (eraDay_lt days)
  unfold yearDay
  omega

/-- Of two days the later one lies in a later year or is a later day of the same. -/
theorem march_lt {a b : Int} (h : a < b) :
    marchYear a < marchYear b ∨ marchYear a = marchYear b ∧ yearDay a < yearDay b := by
  obtain ⟨hlast, hbegun, -⟩ := year_of_eraDay (eraDay_lt a)
  have hera : ∀ days : Int, (days + epochDays).fdiv daysPerEra * 146097 + eraDay days =
      days + epochDays := by
    intro days
    unfold eraDay daysPerEra
    rw [Int.fmod_eq_emod_of_nonneg _ (by decide), Int.fdiv_eq_ediv_of_nonneg _ (by decide)]
    omega
  have ha := hera a
  have hb := hera b
  have hdaysA := eraDay_lt a
  have hdaysB := eraDay_lt b
  rcases Int.lt_or_le ((a + epochDays).fdiv daysPerEra) ((b + epochDays).fdiv daysPerEra) with
    heras | heras
  · left
    unfold marchYear
    omega
  · have hday : eraDay a < eraDay b := by omega
    have hsame : (a + epochDays).fdiv daysPerEra = (b + epochDays).fdiv daysPerEra := by omega
    have hyears := yearOfEraDay_mono (Nat.le_of_lt hday)
    unfold marchYear yearDay
    rw [hsame]
    rcases Nat.lt_or_eq_of_le hyears with hyear | hyear
    · left
      omega
    · right
      rw [hyear] at hbegun ⊢
      omega

/-! ## Dates -/

theorem ofDays_eq (days : Int) :
    ofDays days =
      { year := marchYear days + (if monthOfYearDay (yearDay days) < 10 then 0 else 1)
        month := if monthOfYearDay (yearDay days) < 10 then monthOfYearDay (yearDay days) + 3
          else monthOfYearDay (yearDay days) - 9
        day := yearDay days - daysBeforeMonth (monthOfYearDay (yearDay days)) + 1 } := rfl

/-- Months and days have at most two digits. -/
theorem month_and_day_le (days : Int) : (ofDays days).month ≤ 12 ∧ (ofDays days).day ≤ 31 := by
  have hday := yearDay_lt days
  rw [ofDays_eq]
  unfold monthOfYearDay daysBeforeMonth
  constructor
  · dsimp only
    split <;> omega
  · dsimp only
    omega

/-- Later days have later dates. -/
theorem ofDays_before {a b : Int} (h : a < b) : (ofDays a).Before (ofDays b) := by
  have hdayA := yearDay_lt a
  have hmonth : ∀ {c d : Nat}, c < d → monthOfYearDay c < monthOfYearDay d ∨
      monthOfYearDay c = monthOfYearDay d ∧
        c - daysBeforeMonth (monthOfYearDay c) < d - daysBeforeMonth (monthOfYearDay d) := by
    intro c d hcd
    unfold monthOfYearDay daysBeforeMonth
    omega
  have hlastA : monthOfYearDay (yearDay a) ≤ 11 := by
    unfold monthOfYearDay
    omega
  rw [ofDays_eq, ofDays_eq]
  unfold Before
  dsimp only
  rcases march_lt h with hyear | ⟨hyear, hday⟩
  · split <;> split <;> omega
  · rcases hmonth hday with hmonth | ⟨hmonth, hday⟩
    · split <;> split <;> omega
    · rw [hyear, hmonth]
      rw [hmonth] at hday
      split <;> omega

end LogLine.CivilDate
