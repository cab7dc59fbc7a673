import ProjectManager.Calendar.Months

/-! # Weeks

The weeks from Monday to Sunday, and the numbers that the ISO calendar gives them.
-/

namespace ProjectManager

open Foundation

/-- The weeks, counted from that of the first ordinal. -/
def weeks : Periods where
  start i := 7 * i
  length _ := 7
  length_pos _ := by decide
  start_succ i := by ring

/-- The Monday of the first ISO week of a year, `_isoweek1monday`. -/
def isoWeek1Monday (year : ℤ) : ℤ :=
  let firstDay : ℤ := YMD.toordinal ⟨year, 1, 1⟩
  let week1Monday := firstDay - weekday firstDay
  if weekday firstDay > 3 then week1Monday + 7 else week1Monday

structure IsoCalendarDate where
  year : ℤ
  week : ℤ
  weekday : ℤ
  deriving DecidableEq, Repr

namespace Date

/-- The year, the week and the day of the week in the ISO calendar, `isocalendar`. -/
def isocalendar (d : ℤ) : IsoCalendarDate :=
  let year := (ymd d).year
  let today := d - isoWeek1Monday year
  if today / 7 < 0 then
    let today := d - isoWeek1Monday (year - 1)
    ⟨year - 1, today / 7 + 1, today % 7 + 1⟩
  else if 52 ≤ today / 7 ∧ isoWeek1Monday (year + 1) ≤ d then ⟨year + 1, 1, today % 7 + 1⟩
  else ⟨year, today / 7 + 1, today % 7 + 1⟩

example : isocalendar (YMD.toordinal ⟨2024, 12, 30⟩) = ⟨2025, 1, 1⟩ ∧
    isocalendar (YMD.toordinal ⟨2021, 1, 3⟩) = ⟨2020, 53, 7⟩ := by
  decide

/-! ## Weeks as periods -/

def weekPlace (d : ℤ) : Place := ⟨(d - 1) / 7, (d - 1) % 7 + 1⟩

theorem contains_weekPlace (d : ℤ) : weeks.Contains (weekPlace d) := by
  change 1 ≤ (d - 1) % 7 + 1 ∧ (d - 1) % 7 + 1 ≤ 7
  omega

theorem point_weekPlace (d : ℤ) : weeks.point (weekPlace d) = d := by
  change 7 * ((d - 1) / 7) + ((d - 1) % 7 + 1) = d
  omega

/-! ## ISO weeks -/

/-- A date lies in its year. -/
theorem year_bounds (d : ℤ) :
    daysBeforeYear (ymd d).year < d ∧ d ≤ daysBeforeYear ((ymd d).year + 1) := by
  obtain ⟨hfirst, hlast, -, -⟩ := (ymd_spec d).1
  have hstart (year : ℤ) : months.start (12 * year) = daysBeforeYear year := by
    change daysBeforeYear (12 * year / 12) + monthStart _ (12 * year % 12 + 1) = _
    rw [show 12 * year / 12 = year by omega, show 12 * year % 12 + 1 = 1 by omega]
    exact add_zero _
  have hcontains := contains_place d
  have hperiod : (ymd d).place.period = 12 * (ymd d).year + ((ymd d).month - 1) := rfl
  constructor
  · calc daysBeforeYear (ymd d).year
      _ = months.start (12 * (ymd d).year) := (hstart _).symm
      _ ≤ months.start (ymd d).place.period := Periods.start_le_start (by omega)
      _ < months.point (ymd d).place := Periods.start_lt_point hcontains
      _ = d := point_place d
  · calc d
      _ = months.point (ymd d).place := (point_place d).symm
      _ ≤ months.start ((ymd d).place.period + 1) := Periods.point_le_start hcontains
      _ ≤ months.start (12 * ((ymd d).year + 1)) := Periods.start_le_start (by omega)
      _ = daysBeforeYear ((ymd d).year + 1) := hstart _

end Date

theorem toordinal_firstDay (year : ℤ) : YMD.toordinal ⟨year, 1, 1⟩ = daysBeforeYear year + 1 := by
  change daysBeforeYear year + 0 + 1 = _
  rw [add_zero]

/-- The first ISO week of a year starts on a Monday, at most three days from the first day. -/
theorem isoWeek1Monday_spec (year : ℤ) :
    isoWeek1Monday year % 7 = 1 ∧ daysBeforeYear year - 2 ≤ isoWeek1Monday year ∧
      isoWeek1Monday year ≤ daysBeforeYear year + 4 := by
  have hmonday : isoWeek1Monday year =
      if (daysBeforeYear year + 1 + 6) % 7 > 3 then
        daysBeforeYear year + 1 - (daysBeforeYear year + 1 + 6) % 7 + 7
      else daysBeforeYear year + 1 - (daysBeforeYear year + 1 + 6) % 7 := by
    unfold isoWeek1Monday weekday
    rw [toordinal_firstDay]
  rw [hmonday]
  split <;> omega

/-- The numbers of a date determine it. -/
theorem Date.isocalendar_spec (d : ℤ) :
    d = isoWeek1Monday (isocalendar d).year + 7 * ((isocalendar d).week - 1) +
        ((isocalendar d).weekday - 1) ∧
      (1 ≤ (isocalendar d).week ∧ (isocalendar d).week ≤ 53) ∧
      (1 ≤ (isocalendar d).weekday ∧ (isocalendar d).weekday ≤ 7) := by
  obtain ⟨hfirst, hlast⟩ := year_bounds d
  have hyear := isoWeek1Monday_spec (ymd d).year
  have hnext := isoWeek1Monday_spec ((ymd d).year + 1)
  have hprevious := isoWeek1Monday_spec ((ymd d).year - 1)
  have hlength := daysBeforeYear_succ (ymd d).year
  have hbefore := daysBeforeYear_succ ((ymd d).year - 1)
  rw [sub_add_cancel] at hbefore
  simp only [isocalendar]
  by_cases hearly : (d - isoWeek1Monday (ymd d).year) / 7 < 0
  · rw [if_pos hearly]
    dsimp only
    split at hbefore <;> omega
  · rw [if_neg hearly]
    by_cases hlate : 52 ≤ (d - isoWeek1Monday (ymd d).year) / 7 ∧
        isoWeek1Monday ((ymd d).year + 1) ≤ d
    · rw [if_pos hlate]
      dsimp only
      omega
    · rw [if_neg hlate]
      dsimp only
      split at hlength <;> omega

theorem Date.monday_eq {d e : ℤ} (hd : d % 7 = 1) (he : e % 7 = 1)
    (hyear : (isocalendar d).year = (isocalendar e).year)
    (hweek : (isocalendar d).week = (isocalendar e).week) : d = e := by
  obtain ⟨hfirst, -, hfirstDay⟩ := isocalendar_spec d
  obtain ⟨hsecond, -, hsecondDay⟩ := isocalendar_spec e
  have hmonday := (isoWeek1Monday_spec (isocalendar e).year).1
  rw [hyear, hweek] at hfirst
  omega

end ProjectManager
