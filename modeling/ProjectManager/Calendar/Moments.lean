import ProjectManager.Calendar.Months

/-! # Moments

Moments of time in UTC. Days and months are added to the date of a moment; its
time of day stays.
-/

namespace ProjectManager

/-- The microseconds since a fixed midnight. -/
abbrev Moment := ℤ

namespace Moment

def day : ℤ := 86400000000

def date (moment : Moment) : Date := moment / day

def time (moment : Moment) : ℤ := moment % day

def atTime (date : Date) (time : ℤ) : Moment := date * day + time

def addDays (moment : Moment) (days : ℤ) : Moment := moment + days * day

def addMonths (anchor : Moment) (months : ℤ) : Moment :=
  atTime (anchor.date.addMonths months) anchor.time

def isoformat (moment : Moment) : String :=
  let seconds := moment.time / 1000000
  let microseconds := moment.time % 1000000
  moment.date.isoformat ++ "T" ++ zfill 2 (toString (seconds / 3600)) ++ ":" ++
    zfill 2 (toString (seconds / 60 % 60)) ++ ":" ++ zfill 2 (toString (seconds % 60)) ++
    (if microseconds = 0 then "" else "." ++ zfill 6 (toString microseconds)) ++ "+00:00"

theorem time_bounds (moment : Moment) : 0 ≤ moment.time ∧ moment.time < day := by
  unfold time day
  omega

theorem atTime_date_time (moment : Moment) : atTime moment.date moment.time = moment := by
  unfold atTime date time
  rw [mul_comm]
  exact Int.mul_ediv_add_emod moment day

theorem time_atTime {date : Date} {time : ℤ} (h : 0 ≤ time ∧ time < day) :
    (atTime date time).time = time := by
  unfold atTime Moment.time
  rw [Int.add_comm, Int.add_mul_emod_self_right, Int.emod_eq_of_lt h.1 h.2]

theorem date_atTime {date : Date} {time : ℤ} (h : 0 ≤ time ∧ time < day) :
    (atTime date time).date = date := by
  unfold atTime Moment.date
  rw [Int.add_comm, Int.add_mul_ediv_right _ _ (by decide), Int.ediv_eq_zero_of_lt h.1 h.2,
    Int.zero_add]

variable {first second : Moment}

theorem date_le (h : first ≤ second) : first.date ≤ second.date :=
  Int.ediv_le_ediv (by decide) h

theorem time_addDays (moment : Moment) (days : ℤ) : (moment.addDays days).time = moment.time := by
  unfold addDays time
  exact Int.add_mul_emod_self_right _ _ _

theorem time_addMonths (moment : Moment) (months : ℤ) :
    (moment.addMonths months).time = moment.time :=
  time_atTime moment.time_bounds

theorem date_addMonths (moment : Moment) (months : ℤ) :
    (moment.addMonths months).date = moment.date.addMonths months :=
  date_atTime moment.time_bounds

@[simp] theorem addDays_zero (moment : Moment) : moment.addDays 0 = moment := by
  simp [addDays]

@[simp] theorem addMonths_zero (moment : Moment) : moment.addMonths 0 = moment := by
  simp [addMonths, atTime_date_time]

theorem addDays_addDays (moment : Moment) (days more : ℤ) :
    (moment.addDays days).addDays more = moment.addDays (days + more) := by
  unfold addDays
  ring

theorem addMonths_addMonths_eq_iff {moment : Moment} {middle count : ℤ} :
    (moment.addMonths middle).addMonths count = moment.addMonths (middle + count) ↔
      min moment.date.ymd.day (moment.date.monthLength (middle + count)) ≤
        moment.date.monthLength middle := by
  rw [← Date.addMonths_addMonths_eq_iff, ← date_addMonths, ← date_addMonths, ← date_addMonths]
  refine ⟨congrArg date, fun h => ?_⟩
  rw [← atTime_date_time ((moment.addMonths middle).addMonths count), h, time_addMonths,
    time_addMonths, ← time_addMonths moment (middle + count), atTime_date_time]

theorem addDays_mono (h : first ≤ second) (days : ℤ) : first.addDays days ≤ second.addDays days :=
  Int.add_le_add_right h _

/-- Moments of one time of day keep their order. At two times of day they need not: both may
come to the last day of a short month. -/
theorem addMonths_mono (htime : first.time = second.time) (h : first ≤ second) (months : ℤ) :
    first.addMonths months ≤ second.addMonths months := by
  unfold addMonths atTime
  rw [htime]
  exact Int.add_le_add_right
    (Int.mul_le_mul_of_nonneg_right (Date.addMonths_mono (date_le h) months) (by decide)) _

theorem lt_addDays (moment : Moment) {days : ℤ} (h : 0 < days) : moment < moment.addDays days :=
  Int.lt_add_of_pos_right _ (Int.mul_pos h (by decide))

theorem lt_addMonths (moment : Moment) {months : ℤ} (h : 0 < months) :
    moment < moment.addMonths months := by
  have hlt := Int.mul_lt_mul_of_pos_right (moment.date.lt_addMonths h) (show 0 < day by decide)
  calc moment
    _ = atTime moment.date moment.time := moment.atTime_date_time.symm
    _ < moment.addMonths months := Int.add_lt_add_right hlt _

theorem addDays_le (moment : Moment) {days : ℤ} (h : days ≤ 0) : moment.addDays days ≤ moment :=
  add_le_of_nonpos_right (mul_nonpos_of_nonpos_of_nonneg h (by decide))

theorem addMonths_le (moment : Moment) {months : ℤ} (h : months < 0) :
    moment.addMonths months ≤ moment := by
  have hlt := Int.mul_lt_mul_of_pos_right (moment.date.addMonths_lt h) (show 0 < day by decide)
  calc moment.addMonths months
    _ ≤ atTime moment.date moment.time := (Int.add_lt_add_right hlt _).le
    _ = moment := moment.atTime_date_time

end Moment

end ProjectManager
