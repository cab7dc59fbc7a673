import Mathlib.Data.Int.Notation
import Mathlib.Data.List.Basic
import Mathlib.Data.List.Nodup
import Mathlib.Tactic.Linarith

/-! # The working-day calendar engine

The engine only reads the repository: the weekly pattern of the configured
calendar and its list of holidays. Each `while` loop of the source is a
recursion on the number of iterations left; a loop that has not finished within
its iterations returns `none`.
-/

namespace ProjectManager

/-- A calendar day, as its proleptic Gregorian ordinal. The end of the range of
dates is not modelled. -/
abbrev Date := ℤ

/-- Monday is `0`; ordinal `1` is a Monday. -/
def weekday (d : Date) : ℤ := (d + 6) % 7

structure WorkingCalendar where
  workingDays : List ℤ
  deriving DecidableEq, Repr

def WorkingCalendar.createDefault : WorkingCalendar := ⟨[0, 1, 2, 3, 4]⟩

/-- What the repository answers for the calendar the engine is bound to. -/
structure WorkingCalendarRepository where
  calendar : Option WorkingCalendar
  holidays : List Date
  deriving DecidableEq, Repr

namespace WorkingCalendarRepository

variable (repo : WorkingCalendarRepository)

def getCalendar : WorkingCalendar := repo.calendar.getD .createDefault

def isWorkingDay (d : Date) : Bool :=
  if weekday d ∉ repo.getCalendar.workingDays then false
  else repo.holidays.all fun h => h ≠ d

/-- The loop of `next_working_day`. -/
def nextWorkingDayLoop : ℕ → Date → Option Date
  | 0, _ => none
  | iterations + 1, current =>
      if repo.isWorkingDay current then some current
      else nextWorkingDayLoop iterations (current + 1)

/-- The loop of a positive shift in `add_working_days`. -/
def forwardLoop : ℕ → ℕ → Date → Option Date
  | _, 0, current => some current
  | 0, _ + 1, _ => none
  | iterations + 1, remaining + 1, current =>
      if repo.isWorkingDay (current + 1) then forwardLoop iterations remaining (current + 1)
      else forwardLoop iterations (remaining + 1) (current + 1)

/-- The loop of a negative shift in `add_working_days`. -/
def backwardLoop : ℕ → ℕ → Date → Option Date
  | _, 0, current => some current
  | 0, _ + 1, _ => none
  | iterations + 1, remaining + 1, current =>
      if repo.isWorkingDay (current - 1) then backwardLoop iterations remaining (current - 1)
      else backwardLoop iterations (remaining + 1) (current - 1)

/-- Some weekday is a working day, so that the searches have something to find. -/
def Proper : Prop := ∃ w ∈ repo.getCalendar.workingDays, 0 ≤ w ∧ w < 7

instance : Decidable repo.Proper :=
  inferInstanceAs (Decidable (∃ w ∈ repo.getCalendar.workingDays, 0 ≤ w ∧ w < 7))

/-- The length of a window that holds one weekday more often than there are
holidays. -/
def searchWindow : ℕ := 7 * (repo.holidays.length + 1)

end WorkingCalendarRepository

/-- The engine on a repository with at least one working weekday. The service may store a week
without any; the searches of the source do not end there, and no statement over an engine is
about it. -/
structure WorkCalendarEngine extends WorkingCalendarRepository where
  proper : toWorkingCalendarRepository.Proper

namespace WorkCalendarEngine

variable (calendar : WorkCalendarEngine)

def nextWorkingDay (d : Date) (includeToday : Bool) : Date :=
  let current := if includeToday then d else d + 1
  (calendar.nextWorkingDayLoop calendar.searchWindow current).getD current

def addWorkingDays (start : Date) (workingDays : ℤ) : Date :=
  if workingDays = 0 then start
  else if workingDays > 0 then
    let current := calendar.nextWorkingDay start true
    let daysRemaining := (workingDays - 1).toNat
    (calendar.forwardLoop (calendar.searchWindow * daysRemaining) daysRemaining
      current).getD current
  else
    let daysRemaining := (-workingDays).toNat
    let current := calendar.nextWorkingDay start true
    (calendar.backwardLoop (calendar.searchWindow * daysRemaining) daysRemaining
      current).getD current

/-- The number of working days from `start` to `finish`, both included. -/
def workingDaysBetween (start finish : Date) : ℕ :=
  if finish < start then 0
  else (List.range (finish - start + 1).toNat).countP fun i : ℕ =>
    calendar.isWorkingDay (start + i)

end WorkCalendarEngine

/-! ## The days of a range -/

theorem mem_dayRange {first last day : ℤ} :
    (day ∈ (List.range (last - first + 1).toNat).map fun i : ℕ => first + (i : ℤ)) ↔
      first ≤ day ∧ day ≤ last := by
  rw [List.mem_map]
  constructor
  · rintro ⟨i, hi, rfl⟩
    have hi := List.mem_range.mp hi
    omega
  · intro h
    exact ⟨(day - first).toNat, List.mem_range.mpr (by omega), by omega⟩

theorem nodup_dayRange (first last : ℤ) :
    ((List.range (last - first + 1).toNat).map fun i : ℕ => first + (i : ℤ)).Nodup := by
  apply List.Nodup.map _ List.nodup_range
  intro i j h
  simpa using h

/-- Monday to Friday without holidays. -/
def weekdayCalendar : WorkCalendarEngine where
  calendar := none
  holidays := []
  proper := by decide

end ProjectManager
