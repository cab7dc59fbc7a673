import Mathlib.Tactic.IntervalCases
import ProjectManager.Calendar.Engine
import ProjectManager.Domain.Text
import ProjectManager.Foundation.Periods

/-! # Civil dates and months

The year, month and day of an ordinal in the proleptic Gregorian calendar, civil dates
as ordinals, and the shift of a date by months. The day of the month is kept, but in a
shorter month it is the last one.
-/

namespace ProjectManager

open Foundation

/-! ## Dates of ordinals -/

structure YMD where
  year : ℤ
  month : ℤ
  day : ℤ
  deriving DecidableEq, Repr

/-- The days before a month in a year without a leap day. -/
def daysBeforeMonth (month : ℤ) : ℤ :=
  match month with
  | 2 => 31 | 3 => 59 | 4 => 90 | 5 => 120 | 6 => 151 | 7 => 181
  | 8 => 212 | 9 => 243 | 10 => 273 | 11 => 304 | 12 => 334
  | _ => 0

def daysInMonth (month : ℤ) : ℤ :=
  if month = 12 then 31 else daysBeforeMonth (month + 1) - daysBeforeMonth month

/-- The civil date of an ordinal, by cycles of 400, 100, 4 and 1 years. -/
def Date.ymd (d : Date) : YMD :=
  let n := d - 1
  let n400 := n / 146097
  let n := n % 146097
  let n100 := n / 36524
  let n := n % 36524
  let n4 := n / 1461
  let n := n % 1461
  let n1 := n / 365
  let n := n % 365
  let year := n400 * 400 + 1 + n100 * 100 + n4 * 4 + n1
  if n1 = 4 ∨ n100 = 4 then ⟨year - 1, 12, 31⟩
  else
    let leap : ℤ := if n1 = 3 ∧ (n4 ≠ 24 ∨ n100 = 3) then 1 else 0
    -- The estimate of the month is at most one too large.
    let month := (n + 50) / 32
    let preceding := daysBeforeMonth month + if month > 2 then leap else 0
    if preceding > n then
      let preceding := preceding - (daysInMonth (month - 1) + if month - 1 = 2 then leap else 0)
      ⟨year, month - 1, n - preceding + 1⟩
    else ⟨year, month, n - preceding + 1⟩

def Date.isoformat (d : Date) : String :=
  zfill 4 (toString (Date.ymd d).year) ++ "-" ++ zfill 2 (toString (Date.ymd d).month) ++ "-" ++
    zfill 2 (toString (Date.ymd d).day)

example : Date.ymd 738886 = ⟨2024, 1, 1⟩ ∧ Date.ymd 738945 = ⟨2024, 2, 29⟩ := by decide

/-! ## Ordinals of dates -/

def YMD.isLeap (year : ℤ) : Bool := year % 4 = 0 ∧ (year % 100 ≠ 0 ∨ year % 400 = 0)

/-- The days of a year before a month. -/
def monthStart (leap : Bool) (month : ℤ) : ℤ :=
  daysBeforeMonth month + if month > 2 then (if leap = true then 1 else 0) else 0

def monthLength (leap : Bool) (month : ℤ) : ℤ :=
  daysInMonth month + if month = 2 then (if leap = true then 1 else 0) else 0

/-- The length of a month, as `calendar.monthrange` gives it. -/
def YMD.monthrange (year month : ℤ) : ℤ := monthLength (YMD.isLeap year) month

def daysBeforeYear (year : ℤ) : ℤ :=
  let y := year - 1
  y * 365 + y / 4 - y / 100 + y / 400

def YMD.toordinal (date : YMD) : Date :=
  daysBeforeYear date.year + monthStart (YMD.isLeap date.year) date.month + date.day

/-- A civil date of the calendar. -/
def YMD.Valid (date : YMD) : Prop :=
  1 ≤ date.month ∧ date.month ≤ 12 ∧ 1 ≤ date.day ∧
    date.day ≤ YMD.monthrange date.year date.month

def Date.addMonths (anchor : Date) (months : ℤ) : Date :=
  let date := anchor.ymd
  let totalMonth := date.month - 1 + months
  let year := date.year + totalMonth / 12
  let month := totalMonth % 12 + 1
  YMD.toordinal ⟨year, month, min date.day (YMD.monthrange year month)⟩

example : Date.addMonths (YMD.toordinal ⟨2024, 1, 31⟩) 1 = YMD.toordinal ⟨2024, 2, 29⟩ := by
  decide

/-! ## Ordinals and civil dates -/

theorem month_of_dayOfYear : ∀ n : ℕ, n < 365 → ∀ leap : Bool,
    let month := ((n : ℤ) + 50) / 32
    if monthStart leap month > n then
      1 ≤ month - 1 ∧ month - 1 ≤ 12 ∧ monthStart leap (month - 1) ≤ n ∧
        monthStart leap month - monthLength leap (month - 1) = monthStart leap (month - 1)
    else 1 ≤ month ∧ month ≤ 12 ∧ (n : ℤ) < monthStart leap month + monthLength leap month := by
  decide +kernel

theorem year_of_cycles (n400 : ℤ) {n100 n4 n1 : ℤ} (h100 : 0 ≤ n100 ∧ n100 ≤ 3) (h4 : 0 ≤ n4 ∧ n4 ≤ 24)
    (h1 : 0 ≤ n1 ∧ n1 ≤ 3) :
    daysBeforeYear (n400 * 400 + 1 + n100 * 100 + n4 * 4 + n1) =
        n400 * 146097 + n100 * 36524 + n4 * 1461 + n1 * 365 ∧
      (YMD.isLeap (n400 * 400 + 1 + n100 * 100 + n4 * 4 + n1) = true ↔
        n1 = 3 ∧ (n4 ≠ 24 ∨ n100 = 3)) := by
  constructor
  · simp only [daysBeforeYear]
    omega
  · rw [YMD.isLeap, decide_eq_true_iff]
    omega

/-- The cycles that an ordinal has behind it. The last day of a leap year completes a cycle. -/
theorem Date.ymd_of_cycles (d : ℤ) : ∃ n400 n100 n4 n1 n : ℤ,
    d - 1 = n400 * 146097 + n100 * 36524 + n4 * 1461 + n1 * 365 + n ∧
      (0 ≤ n100 ∧ n100 ≤ 4) ∧ (0 ≤ n4 ∧ n4 ≤ 24) ∧ (0 ≤ n1 ∧ n1 ≤ 4) ∧ (0 ≤ n ∧ n ≤ 364) ∧
      (n1 = 4 → n = 0 ∧ n100 ≤ 3) ∧ (n100 = 4 → n4 = 0 ∧ n1 = 0 ∧ n = 0) ∧
      (n1 = 4 → n4 ≠ 24 ∨ n100 = 3) ∧
      Date.ymd d =
        if n1 = 4 ∨ n100 = 4 then ⟨n400 * 400 + 1 + n100 * 100 + n4 * 4 + n1 - 1, 12, 31⟩
        else
          let year := n400 * 400 + 1 + n100 * 100 + n4 * 4 + n1
          let leap : ℤ := if n1 = 3 ∧ (n4 ≠ 24 ∨ n100 = 3) then 1 else 0
          let month := (n + 50) / 32
          let preceding := daysBeforeMonth month + if month > 2 then leap else 0
          if preceding > n then
            let preceding := preceding -
              (daysInMonth (month - 1) + if month - 1 = 2 then leap else 0)
            ⟨year, month - 1, n - preceding + 1⟩
          else ⟨year, month, n - preceding + 1⟩ := by
  refine ⟨(d - 1) / 146097, (d - 1) % 146097 / 36524, (d - 1) % 146097 % 36524 / 1461,
    (d - 1) % 146097 % 36524 % 1461 / 365, (d - 1) % 146097 % 36524 % 1461 % 365,
    ?_, ?_, ?_, ?_, ?_, ?_, ?_, ?_, rfl⟩
  all_goals omega

theorem Date.ymd_spec (d : ℤ) : (Date.ymd d).Valid ∧ YMD.toordinal (Date.ymd d) = d := by
  obtain ⟨n400, n100, n4, n1, n, hd, h100, h4, h1, hn, hn1, hn100, hn4, hymd⟩ :=
    Date.ymd_of_cycles d
  rw [hymd]
  split
  next hlast =>
    obtain ⟨hyear, hleap⟩ : daysBeforeYear (n400 * 400 + 1 + n100 * 100 + n4 * 4 + n1 - 1) =
        d - 366 ∧ YMD.isLeap (n400 * 400 + 1 + n100 * 100 + n4 * 4 + n1 - 1) = true := by
      simp only [daysBeforeYear, YMD.isLeap, decide_eq_true_iff]
      omega
    refine ⟨⟨by norm_num, by norm_num, by norm_num, ?_⟩, ?_⟩
    · simp [YMD.monthrange, monthLength, daysInMonth]
    · simp only [YMD.toordinal, hyear, hleap]
      change d - 366 + 335 + 31 = d
      ring
  next hnot =>
    have h100 : 0 ≤ n100 ∧ n100 ≤ 3 := by omega
    have h1 : 0 ≤ n1 ∧ n1 ≤ 3 := by omega
    obtain ⟨hyear, hleap⟩ := year_of_cycles n400 h100 h4 h1
    generalize n400 * 400 + 1 + n100 * 100 + n4 * 4 + n1 = year at hyear hleap ⊢
    have hmonth := month_of_dayOfYear n.toNat (by omega) (YMD.isLeap year)
    rw [Int.toNat_of_nonneg hn.1] at hmonth
    simp only [← hleap] at hmonth ⊢
    generalize (n + 50) / 32 = month at hmonth ⊢
    change (if monthStart (YMD.isLeap year) month > n then YMD.mk year (month - 1)
        (n - (monthStart (YMD.isLeap year) month - monthLength (YMD.isLeap year) (month - 1)) + 1)
      else ⟨year, month, n - monthStart (YMD.isLeap year) month + 1⟩).Valid ∧
      YMD.toordinal (if monthStart (YMD.isLeap year) month > n then ⟨year, month - 1,
          n - (monthStart (YMD.isLeap year) month - monthLength (YMD.isLeap year) (month - 1)) + 1⟩
        else ⟨year, month, n - monthStart (YMD.isLeap year) month + 1⟩) = d
    by_cases hlate : monthStart (YMD.isLeap year) month > n
    · rw [if_pos hlate] at hmonth
      obtain ⟨hfirst, hlast, hstart, hlength⟩ := hmonth
      rw [if_pos hlate, hlength]
      refine ⟨⟨hfirst, hlast, by simp only; omega, ?_⟩, ?_⟩
      · simp only [YMD.monthrange]
        omega
      · simp only [YMD.toordinal]
        linarith only [hd, hyear]
    · rw [if_neg hlate] at hmonth
      obtain ⟨hfirst, hlast, hend⟩ := hmonth
      rw [if_neg hlate]
      refine ⟨⟨hfirst, hlast, by simp only; omega, ?_⟩, ?_⟩
      · simp only [YMD.monthrange]
        omega
      · simp only [YMD.toordinal]
        linarith only [hd, hyear]

/-! ## Months as periods -/

theorem monthLength_pos {month : ℤ} (h : 1 ≤ month ∧ month ≤ 12) (leap : Bool) :
    0 < monthLength leap month := by
  obtain ⟨hfirst, hlast⟩ := h
  interval_cases month <;> cases leap <;> decide

theorem monthStart_succ {month : ℤ} (h : 1 ≤ month ∧ month ≤ 11) (leap : Bool) :
    monthStart leap (month + 1) = monthStart leap month + monthLength leap month := by
  obtain ⟨hfirst, hlast⟩ := h
  interval_cases month <;> cases leap <;> decide

theorem daysBeforeYear_succ (year : ℤ) :
    daysBeforeYear (year + 1) =
      daysBeforeYear year + if YMD.isLeap year = true then 366 else 365 := by
  simp only [daysBeforeYear, YMD.isLeap, decide_eq_true_iff]
  split <;> omega

/-- The months, counted from the first one of year zero. -/
def months : Periods where
  start i := daysBeforeYear (i / 12) + monthStart (YMD.isLeap (i / 12)) (i % 12 + 1)
  length i := YMD.monthrange (i / 12) (i % 12 + 1)
  length_pos i := monthLength_pos (by omega) _
  start_succ i := by
    by_cases hlast : i % 12 = 11
    · rw [show (i + 1) / 12 = i / 12 + 1 by omega, show (i + 1) % 12 = 0 by omega, hlast,
        daysBeforeYear_succ, YMD.monthrange]
      cases YMD.isLeap (i / 12) <;> simp [monthStart, monthLength, daysBeforeMonth, daysInMonth] <;>
        ring
    · rw [show (i + 1) / 12 = i / 12 by omega, show (i + 1) % 12 = i % 12 + 1 by omega,
        monthStart_succ (by omega), add_assoc, YMD.monthrange]

def YMD.place (date : YMD) : Place := ⟨12 * date.year + (date.month - 1), date.day⟩

theorem YMD.Valid.contains {date : YMD} (h : date.Valid) : months.Contains date.place := by
  obtain ⟨hfirst, hlast, hday, hlength⟩ := h
  refine ⟨hday, ?_⟩
  change _ ≤ YMD.monthrange _ _
  rwa [YMD.place, show (12 * date.year + (date.month - 1)) / 12 = date.year by omega,
    show (12 * date.year + (date.month - 1)) % 12 + 1 = date.month by omega]

theorem YMD.Valid.point {date : YMD} (h : date.Valid) :
    months.point date.place = date.toordinal := by
  obtain ⟨hfirst, hlast, -, -⟩ := h
  change daysBeforeYear _ + monthStart (YMD.isLeap _) _ + date.day = _
  rw [YMD.place, show (12 * date.year + (date.month - 1)) / 12 = date.year by omega,
    show (12 * date.year + (date.month - 1)) % 12 + 1 = date.month by omega, YMD.toordinal]

namespace Date

theorem contains_place (d : Date) : months.Contains d.ymd.place := (ymd_spec d).1.contains

theorem point_place (d : Date) : months.point d.ymd.place = d :=
  (ymd_spec d).1.point.trans (ymd_spec d).2

theorem addMonths_eq (d : Date) (count : ℤ) :
    d.addMonths count = months.point (months.shift d.ymd.place count) := by
  obtain ⟨hfirst, hlast, -, -⟩ := (ymd_spec d).1
  unfold addMonths
  generalize d.ymd = date at hfirst hlast ⊢
  have hyear : (12 * date.year + (date.month - 1) + count) / 12 =
      date.year + (date.month - 1 + count) / 12 := by omega
  have hmonth : (12 * date.year + (date.month - 1) + count) % 12 =
      (date.month - 1 + count) % 12 := by omega
  change _ = daysBeforeYear _ + monthStart (YMD.isLeap _) _ + min date.day (YMD.monthrange _ _)
  rw [Periods.shift, YMD.place, hyear, hmonth, YMD.toordinal]

@[simp] theorem addMonths_zero (d : Date) : d.addMonths 0 = d := by
  rw [addMonths_eq, Periods.shift_zero (contains_place d), point_place]

theorem place_addMonths (d : Date) (count : ℤ) :
    (d.addMonths count).ymd.place = months.shift d.ymd.place count := by
  apply Periods.eq_of_point_eq (contains_place _) ((contains_place d).shift count)
  rw [point_place, addMonths_eq]

def monthLength (d : Date) (count : ℤ) : ℤ := months.length (d.ymd.place.period + count)

/-- Two shifts are one shift unless the month in between is too short for the day of the last. -/
theorem addMonths_addMonths_eq_iff {d : Date} {middle count : ℤ} :
    (d.addMonths middle).addMonths count = d.addMonths (middle + count) ↔
      min d.ymd.day (d.monthLength (middle + count)) ≤ d.monthLength middle := by
  have hshift : months.shift (months.shift d.ymd.place middle) count =
      months.shift d.ymd.place (middle + count) ↔
        min d.ymd.day (d.monthLength (middle + count)) ≤ d.monthLength middle :=
    Periods.shift_shift_eq_iff
  rw [← place_addMonths, ← place_addMonths, ← place_addMonths] at hshift
  refine Iff.trans ⟨fun h => congrArg (fun date => (ymd date).place) h, fun h => ?_⟩ hshift
  rw [← point_place ((d.addMonths middle).addMonths count), h, point_place]

theorem addMonths_mono {first second : Date} (h : first ≤ second) (count : ℤ) :
    first.addMonths count ≤ second.addMonths count := by
  rw [addMonths_eq, addMonths_eq]
  apply Periods.shift_mono (contains_place first) (contains_place second)
  rwa [point_place, point_place]

theorem lt_addMonths (d : Date) {count : ℤ} (h : 0 < count) : d < d.addMonths count := by
  have hlt := Periods.lt_shift (contains_place d) h
  rwa [point_place, ← addMonths_eq] at hlt

theorem addMonths_lt (d : Date) {count : ℤ} (h : count < 0) : d.addMonths count < d := by
  have hlt := Periods.shift_lt (contains_place d) h
  rwa [point_place, ← addMonths_eq] at hlt

/-- The month of a date, counted like the months. -/
def monthIndex (d : Date) : ℤ := d.ymd.place.period

def IsMonthEnd (d : Date) : Prop := d.ymd.day = YMD.monthrange d.ymd.year d.ymd.month

theorem monthrange_ymd (d : Date) :
    YMD.monthrange d.ymd.year d.ymd.month = months.length d.monthIndex := by
  obtain ⟨hfirst, hlast, -, -⟩ := (ymd_spec d).1
  change _ = YMD.monthrange ((12 * d.ymd.year + (d.ymd.month - 1)) / 12)
    ((12 * d.ymd.year + (d.ymd.month - 1)) % 12 + 1)
  rw [show (12 * d.ymd.year + (d.ymd.month - 1)) / 12 = d.ymd.year by omega,
    show (12 * d.ymd.year + (d.ymd.month - 1)) % 12 + 1 = d.ymd.month by omega]

theorem place_lastPoint (i : ℤ) :
    (ymd (months.lastPoint i)).place = ⟨i, months.length i⟩ := by
  apply Periods.eq_of_point_eq (contains_place _) (Periods.contains_last i)
  rw [point_place, Periods.point_last]

@[simp] theorem monthIndex_lastPoint (i : ℤ) : monthIndex (months.lastPoint i) = i :=
  congrArg Place.period (place_lastPoint i)

theorem isMonthEnd_iff {d : Date} : d.IsMonthEnd ↔ d = months.lastPoint d.monthIndex := by
  rw [IsMonthEnd, monthrange_ymd]
  constructor
  · intro h
    have hplace : d.ymd.place = ⟨d.monthIndex, months.length d.monthIndex⟩ := by
      rw [← h]
      rfl
    rw [← Periods.point_last, ← hplace, point_place]
  · intro h
    have hplace := place_lastPoint d.monthIndex
    rw [← h] at hplace
    exact congrArg Place.offset hplace

/-- `_month_end`. -/
def monthEnd (d : Date) : Date :=
  YMD.toordinal ⟨d.ymd.year, d.ymd.month, YMD.monthrange d.ymd.year d.ymd.month⟩

theorem monthEnd_eq (d : Date) : d.monthEnd = months.lastPoint d.monthIndex := by
  have hvalid := (ymd_spec d).1
  have hend : YMD.Valid ⟨d.ymd.year, d.ymd.month, YMD.monthrange d.ymd.year d.ymd.month⟩ :=
    ⟨hvalid.1, hvalid.2.1, hvalid.2.2.1.trans hvalid.2.2.2, le_rfl⟩
  rw [monthEnd, ← hend.point, ← Periods.point_last, ← monthrange_ymd]
  rfl

theorem monthIndex_addMonths (d : Date) (count : ℤ) :
    (d.addMonths count).monthIndex = d.monthIndex + count := by
  rw [monthIndex, place_addMonths]
  rfl

end Date

end ProjectManager
