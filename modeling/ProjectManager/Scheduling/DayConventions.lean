import ProjectManager.Scheduling.CriticalPath

/-! # Inclusive days

A shift by working days counts the day that it starts from. The links of the
forward pass, their inverses in the backward pass and the count of the days
after a deadline rest on this convention.
-/

namespace ProjectManager

open Foundation

/-! ## Links and their inverses -/

section

variable (calendar : WorkCalendarEngine)

/-- The dates that a link on its own gives its successor, before any actual dates. -/
def linkedDates (task : Task) (dates : DateTable) (dep : TaskDependency) : TaskDates :=
  if task.duration ≤ 0 then computeDatesMilestone calendar task [dep] dates
  else computeDatesWithDuration calendar task [dep] dates task.duration

/-- The date that a link leaves its predecessor: the latest finish or the latest start. -/
def lateCandidate (late : DateTable) (dep : TaskDependency) : Option Date :=
  (lateFinishCandidate calendar late dep).or (lateStartCandidate calendar late dep)

/-- The date of the successor that a link bounds. -/
def boundedDate (dates : TaskDates) (dep : TaskDependency) : Option Date :=
  match dep.dependencyType with
  | .finishToStart | .startToStart => dates.start
  | .finishToFinish | .startToFinish => dates.finish

/-- The backward rule of a link, from the date that the link bounds. -/
def linkShiftBack (dep : TaskDependency) (d : Date) : Date :=
  match dep.dependencyType with
  | .finishToStart => calendar.addWorkingDays d (-(dep.lagDays + 1))
  | .startToStart | .finishToFinish | .startToFinish => calendar.addWorkingDays d (-dep.lagDays)

theorem lateCandidate_eq (late : DateTable) (dep : TaskDependency) :
    lateCandidate calendar late dep =
      (boundedDate (late dep.successorTaskId) dep).map (linkShiftBack calendar dep) := by
  unfold lateCandidate lateFinishCandidate lateStartCandidate boundedDate linkShiftBack
  cases dep.dependencyType <;> simp

variable {calendar} {dep : TaskDependency} {d : Date}

theorem isWorkingDay_linkShift (hd : calendar.isWorkingDay d = true) :
    calendar.isWorkingDay (linkShift calendar dep d) = true := by
  have hshift : ∀ n, calendar.isWorkingDay (calendar.addWorkingDays d n) = true := by
    intro n
    by_cases hn : n = 0
    · rwa [hn, calendar.addWorkingDays_zero]
    · exact calendar.isWorkingDay_addWorkingDays d hn
  unfold linkShift
  split <;> exact hshift _

theorem boundedDate_linkedDates {task : Task} {dates : DateTable}
    (hd : calendar.isWorkingDay d = true) (hsource : sourceDate dates dep = some d) :
    boundedDate (linkedDates calendar task dates dep) dep = some (linkShift calendar dep d) := by
  have hinduced : latestInducedStart calendar task [dep] dates =
      some (startFromBound calendar task.duration dep (linkShift calendar dep d)) := by
    have hstart := inducedStart_eq calendar task dates dep
    rw [hsource] at hstart
    rw [latestInducedStart, List.filterMap_cons_some hstart]
    rfl
  have hday := calendar.workingDay_position_eq_iff.mpr (@isWorkingDay_linkShift calendar dep d hd)
  have hfinish : finishFrom calendar task.duration (if task.duration ≤ 0 then
      linkShift calendar dep d
      else calendar.addWorkingDays (linkShift calendar dep d) (-(task.duration - 1))) =
      linkShift calendar dep d := by
    by_cases hduration : task.duration ≤ 0
    · rw [finishFrom, if_pos hduration, if_pos hduration]
    · rw [finishFrom, if_neg hduration, if_neg hduration,
        calendar.addWorkingDays_neg_pred_add _ (by omega), hday]
  rw [linkedDates, computeDates_eq, hinduced]
  unfold boundedDate
  cases htype : dep.dependencyType <;>
    simp only [datesFrom, startFromBound, htype, Option.some_or, Option.map_some] <;>
    first | rfl | rw [hfinish]

/-- Back and forth over a lag that is given without the day it ends on. -/
theorem addWorkingDays_add_neg_eq_iff {lag : ℤ} (hlag : 0 ≤ lag) :
    calendar.addWorkingDays (calendar.addWorkingDays d lag) (-lag) = d ↔ lag = 0 := by
  constructor
  · intro h
    by_contra hne
    have hlt := calendar.workingDay_position_sub_one_lt d
    rw [calendar.addWorkingDays_of_pos d (by omega), calendar.addWorkingDays_of_neg _ (by omega),
      calendar.position_workingDay, show calendar.position d + lag - 1 + -lag =
        calendar.position d - 1 by ring] at h
    exact hlt.ne h
  · rintro rfl
    rw [neg_zero, calendar.addWorkingDays_zero, calendar.addWorkingDays_zero]

theorem linkShiftBack_linkShift_eq_iff (hd : calendar.isWorkingDay d = true)
    (hlag : 0 ≤ dep.lagDays) :
    linkShiftBack calendar dep (linkShift calendar dep d) = d ↔
      dep.dependencyType = .finishToStart ∨ dep.lagDays = 0 := by
  have hother : calendar.addWorkingDays (calendar.addWorkingDays d dep.lagDays)
      (-dep.lagDays) = d ↔ dep.lagDays = 0 := addWorkingDays_add_neg_eq_iff hlag
  unfold linkShiftBack linkShift
  cases htype : dep.dependencyType with
  | finishToStart =>
      -- The FS rule takes the first day back that its forward rule adds.
      refine iff_of_true ?_ (Or.inl rfl)
      have hback := calendar.addWorkingDays_add_neg d (show 1 ≤ dep.lagDays + 2 by omega)
      rw [show dep.lagDays + 2 - 1 = dep.lagDays + 1 by ring] at hback
      dsimp only
      rw [hback, calendar.nextWorkingDay_eq, calendar.workingDay_position_eq_iff.mpr hd]
  | finishToFinish => exact hother.trans (by simp)
  | startToStart => exact hother.trans (by simp)
  | startToFinish => exact hother.trans (by simp)

/-- The backward pass takes back what the forward pass added for FS links only, and for links
without a lag. -/
theorem lateCandidate_inverse_iff {task : Task} {dates late : DateTable}
    (hd : calendar.isWorkingDay d = true) (hlag : 0 ≤ dep.lagDays)
    (hsource : sourceDate dates dep = some d)
    (hlate : late dep.successorTaskId = linkedDates calendar task dates dep) :
    lateCandidate calendar late dep = some d ↔
      dep.dependencyType = .finishToStart ∨ dep.lagDays = 0 := by
  rw [lateCandidate_eq, hlate, boundedDate_linkedDates hd hsource, Option.map_some,
    Option.some.injEq]
  exact linkShiftBack_linkShift_eq_iff hd hlag

end

def reviewTwoDaysLater (type : DependencyType) : TaskDependency :=
  { id := "d", predecessorTaskId := "design", successorTaskId := "review"
    dependencyType := type, lagDays := 2 }

def designOnWednesday : DateTable := fun _ => ⟨some 10, some 10⟩

def reviewOfOneDay : Task :=
  { id := "review", projectId := "p", name := "Review", durationDays := some 1 }

theorem lateCandidate_inverse_afterDesign :
    let late : DateTable := fun _ =>
      linkedDates weekdayCalendar reviewOfOneDay designOnWednesday
        (reviewTwoDaysLater .finishToStart)
    lateCandidate weekdayCalendar late (reviewTwoDaysLater .finishToStart) = some 10 :=
  (lateCandidate_inverse_iff (by decide) (by decide) rfl rfl).mpr (Or.inl rfl)

/-- With a lag of two days, every other link moves the design to the Tuesday before. -/
theorem not_inverse_twoDaysLater :
    weekdayCalendar.isWorkingDay 10 = true ∧
    ∀ type ∈ [DependencyType.startToStart, .finishToFinish, .startToFinish],
      lateCandidate weekdayCalendar
        (fun _ => linkedDates weekdayCalendar reviewOfOneDay designOnWednesday
          (reviewTwoDaysLater type)) (reviewTwoDaysLater type) = some 9 := by
  decide

/-! ## Days after a deadline -/

noncomputable section

variable (calendar : WorkCalendarEngine)

/-- The working days strictly after a deadline, up to and including a finish. -/
def workingDaysAfter (deadline finish : Date) : ℕ :=
  ((calendar.workingDaysIn deadline finish).filter fun day => deadline < day).card

variable {calendar} {deadline finish : Date}

theorem workingDaysAfter_eq :
    workingDaysAfter calendar deadline finish =
      calendar.workingDaysBetween (deadline + 1) finish := by
  have hdays : (calendar.workingDaysIn deadline finish).filter (fun day => deadline < day) =
      calendar.workingDaysIn (deadline + 1) finish := by
    ext day
    simp only [WorkCalendarEngine.workingDaysIn, Finset.mem_filter, Finset.mem_Icc,
      Int.add_one_le_iff]
    constructor
    · rintro ⟨⟨⟨-, hlast⟩, hworking⟩, hafter⟩
      exact ⟨⟨hafter, hlast⟩, hworking⟩
    · rintro ⟨⟨hafter, hlast⟩, hworking⟩
      exact ⟨⟨⟨hafter.le, hlast⟩, hworking⟩, hafter⟩
  rw [workingDaysAfter, hdays]
  exact calendar.card_workingDaysIn (deadline + 1) finish

/-- A working deadline is counted, although it is not after itself. -/
theorem workingDaysBetween_addWorkingDays_one (hlt : deadline < finish) :
    calendar.workingDaysBetween (calendar.addWorkingDays deadline 1) finish =
      workingDaysAfter calendar deadline finish +
        if calendar.isWorkingDay deadline = true then 1 else 0 := by
  have hfirst : calendar.addWorkingDays deadline 1 =
      calendar.workingDay (calendar.position deadline) := by
    rw [calendar.addWorkingDays_of_pos deadline one_pos, add_sub_cancel_right]
  have hafter := calendar.workingDaysBetween_eq (Int.add_one_le_iff.mpr hlt)
  rw [workingDaysAfter_eq, hfirst]
  by_cases hworking : calendar.isWorkingDay deadline = true
  · have hbetween := calendar.workingDaysBetween_eq hlt.le
    have hnext : calendar.position (deadline + 1) = calendar.position deadline + 1 :=
      calendar.boundedGaps.rank_succ_of_mem hworking
    rw [calendar.workingDay_position_eq_iff.mpr hworking, if_pos hworking]
    omega
  · have hnext : calendar.position (deadline + 1) = calendar.position deadline :=
      calendar.boundedGaps.rank_succ_of_not_mem hworking
    rw [if_neg hworking, add_zero]
    by_cases hle : calendar.workingDay (calendar.position deadline) ≤ finish
    · have hbetween := calendar.workingDaysBetween_eq hle
      rw [calendar.position_workingDay] at hbetween
      omega
    · -- No working day is left, before the finish or at all.
      have hnone : calendar.position (finish + 1) ≤ calendar.position deadline :=
        calendar.boundedGaps.rank_le_iff.mpr (Int.add_one_le_iff.mpr (not_le.mp hle))
      rw [WorkCalendarEngine.workingDaysBetween, if_pos (not_le.mp hle)]
      have hmono := calendar.position_mono (Int.add_one_le_iff.mpr hlt |>.trans (Int.le_add_one le_rfl))
      omega

/-- The days by which a task is late leave the deadline out exactly when it is no working day. -/
theorem lateByDays_eq_iff {project : TasksById} {early late : DateTable} {info : CPMTaskInfo}
    (hinfo : info ∈ buildScheduleResult calendar project early late)
    (hdeadline : info.deadline = some deadline) (hfinish : info.earliestFinish = some finish)
    (hlt : deadline < finish) :
    info.lateByDays = some (workingDaysAfter calendar deadline finish) ↔
      calendar.isWorkingDay deadline = false := by
  obtain ⟨task, -, rfl⟩ := List.mem_map.mp hinfo
  have hlate : (scheduleInfo calendar early late task).lateByDays =
      some (calendar.workingDaysBetween (calendar.addWorkingDays deadline 1) finish) := by
    change lateBy calendar (scheduleInfo calendar early late task).deadline
      (scheduleInfo calendar early late task).earliestFinish = _
    rw [hdeadline, hfinish]
    exact if_pos hlt
  rw [hlate, Option.some.injEq, workingDaysBetween_addWorkingDays_one hlt]
  cases calendar.isWorkingDay deadline <;> simp

end

/-- A shipment that is planned for a Monday. -/
def shippedOnMonday (deadline : Date) : TasksById :=
  .insert .empty { id := "ship", projectId := "p", name := "Ship", startDate := some 8
                   durationDays := some 1, deadline := some deadline }

def deadlineRows (schedule : List CPMTaskInfo) : List (Option Date × Option Date × Option ℕ) :=
  schedule.map fun info => (info.deadline, info.earliestFinish, info.lateByDays)

def finishedOnMonday : DateTable := fun _ => ⟨some 8, some 8⟩

/-- After a deadline on a Saturday, Monday is one working day late. -/
theorem lateByDays_eq_iff_saturday :
    (scheduleInfo weekdayCalendar finishedOnMonday finishedOnMonday
        { id := "ship", projectId := "p", name := "Ship", startDate := some 8
          durationDays := some 1, deadline := some 6 }).lateByDays =
      some (workingDaysAfter weekdayCalendar 6 8) ↔ weekdayCalendar.isWorkingDay 6 = false :=
  @lateByDays_eq_iff weekdayCalendar 6 8 (shippedOnMonday 6) finishedOnMonday finishedOnMonday _
    (List.mem_singleton_self _) rfl rfl (by decide)

/-- After a deadline on a Friday, Monday is one working day late and is reported with two. -/
theorem not_workingDaysAfter_friday :
    (recalculateProjectSchedule weekdayCalendar (shippedOnMonday 5) []).map deadlineRows =
        .ok [(some 5, some 8, some 2)] ∧
      workingDaysAfter weekdayCalendar 5 8 = 1 := by
  decide

end ProjectManager
