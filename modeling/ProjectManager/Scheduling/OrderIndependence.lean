import ProjectManager.Scheduling.SameSchedule

/-! # Schedules that do not depend on the order of the input

The topological order follows priorities, names and the order in which the
repositories return their rows. Any two orders solve the same equations, so the
dates, the floats and the critical tasks are the same.
-/

namespace ProjectManager

open Foundation

structure ScheduledTimes where
  earliestStart : Option Date
  earliestFinish : Option Date
  latestStart : Option Date
  latestFinish : Option Date
  totalFloatDays : Option ℤ
  isCritical : Bool
  deriving DecidableEq

def CPMTaskInfo.times (info : CPMTaskInfo) : ScheduledTimes where
  earliestStart := info.earliestStart
  earliestFinish := info.earliestFinish
  latestStart := info.latestStart
  latestFinish := info.latestFinish
  totalFloatDays := info.totalFloatDays
  isCritical := info.isCritical

/-- The entry of a task in the map that is returned. -/
def timesOf (schedule : List CPMTaskInfo) (taskId : String) : Option ScheduledTimes :=
  (schedule.find? fun info => info.task.id = taskId).map CPMTaskInfo.times

/-- A task without what only orders it. -/
def Task.unnamed (task : Task) : Task := { task with name := "", priority := 0 }

section

variable {calendar : WorkCalendarEngine} {project other : TasksById}
  {deps otherDeps : List TaskDependency}

theorem timesOf_buildScheduleResult {early late : DateTable} (taskId : String) :
    timesOf (buildScheduleResult calendar project early late) taskId =
      (project.get? taskId).map fun task => (scheduleInfo calendar early late task).times := by
  unfold timesOf buildScheduleResult
  rw [List.find?_map, Option.map_map]
  rfl

theorem timesOf_congr {early late otherEarly otherLate : DateTable}
    (hids : ∀ id, id ∈ other.ids ↔ id ∈ project.ids)
    (hagree : ∀ id ∈ project.ids, otherEarly id = early id ∧ otherLate id = late id)
    (taskId : String) :
    timesOf (buildScheduleResult calendar other otherEarly otherLate) taskId =
      timesOf (buildScheduleResult calendar project early late) taskId := by
  rw [timesOf_buildScheduleResult, timesOf_buildScheduleResult]
  by_cases hid : taskId ∈ project.ids
  · obtain ⟨task, -, rfl, hget⟩ := project.exists_of_mem_ids hid
    obtain ⟨otherTask, -, hotherId, hotherGet⟩ := other.exists_of_mem_ids ((hids _).mpr hid)
    obtain ⟨hearly, hlate⟩ := hagree task.id hid
    rw [hget, hotherGet]
    simp only [Option.map_some, CPMTaskInfo.times, scheduleInfo, hotherId, hearly, hlate]
  · rw [Table.get?_eq_none.mpr hid, Table.get?_eq_none.mpr ((hids _).not.mpr hid)]
    rfl

theorem recalculateProjectSchedule_error {error : DomainError}
    (h : recalculateProjectSchedule calendar project deps = .error error) :
    (¬ AcyclicDependencies project deps ∧ error = scheduleCycle) ∨
      (AcyclicDependencies project deps ∧ error = noFinishDates) := by
  unfold recalculateProjectSchedule at h
  split at h
  · cases h
  rcases bind_eq_error.mp h with hgraph | ⟨graph, hgraph, hforward⟩
  · refine Or.inl ⟨?_, ?_⟩
    · intro hacyclic
      obtain ⟨graph, hok⟩ := exists_buildProjectDependencyGraph priorityValue hacyclic
      rw [hok] at hgraph
      cases hgraph
    · unfold buildProjectDependencyGraph at hgraph
      dsimp only at hgraph
      split at hgraph
      · exact (Except.error.inj hgraph).symm
      · cases hgraph
  · refine Or.inr ⟨(buildProjectDependencyGraph_sorted hgraph).acyclic, ?_⟩
    rcases bind_eq_error.mp hforward with hforward | ⟨result, -, hresult⟩
    · unfold runForwardPass at hforward
      dsimp only at hforward
      split at hforward
      · exact (Except.error.inj hforward).symm
      · cases hforward
    · cases hresult

/-! ## The same tasks in another order -/

/-- The same tasks, up to names, priorities and their order. -/
def SameTasks (project other : TasksById) : Prop :=
  (other.tasks.map Task.unnamed).Perm (project.tasks.map Task.unnamed)

theorem SameTasks.symm (h : SameTasks project other) : SameTasks other project := List.Perm.symm h

theorem SameTasks.exists_rescheduled (h : SameTasks project other) {task : Task}
    (htask : task ∈ project.tasks) (start : Option Date) :
    ∃ rescheduled ∈ other.tasks, Rescheduled task rescheduled start := by
  have hmem : task.unnamed ∈ other.tasks.map Task.unnamed :=
    h.mem_iff.mpr (List.mem_map_of_mem htask)
  obtain ⟨rescheduled, hrescheduled, heq⟩ := List.mem_map.mp hmem
  have hfield : ∀ {α : Type} (field : Task → α), field rescheduled.unnamed = field task.unnamed :=
    fun field => congrArg field heq
  exact ⟨rescheduled, hrescheduled, hfield Task.id, hfield Task.durationDays,
    hfield Task.actualStart, hfield Task.actualEnd, Or.inl (hfield Task.startDate)⟩

theorem SameTasks.mem_ids (h : SameTasks project other) (id : String) :
    id ∈ other.ids ↔ id ∈ project.ids := by
  have hids : ∀ project : TasksById, project.ids = (project.tasks.map Task.unnamed).map Task.id := by
    intro project
    rw [List.map_map]
    rfl
  rw [hids, hids]
  exact (h.map Task.id).mem_iff

theorem SameTasks.sameLinks (h : SameTasks project other) (hdeps : otherDeps.Perm deps) :
    SameLinks project other deps otherDeps := by
  intro link
  simp only [knownDependencies, h.mem_ids, List.mem_map, List.mem_filter, hdeps.mem_iff]

theorem SameTasks.schedule_ok (h : SameTasks project other) (hdeps : otherDeps.Perm deps)
    {schedule : List CPMTaskInfo}
    (hschedule : recalculateProjectSchedule calendar project deps = .ok schedule) :
    ∃ otherSchedule, recalculateProjectSchedule calendar other otherDeps = .ok otherSchedule ∧
      ∀ taskId, timesOf otherSchedule taskId = timesOf schedule taskId := by
  by_cases hempty : project.tasks = []
  · have hother : other.tasks = [] := by
      unfold SameTasks at h
      rw [hempty] at h
      exact List.map_eq_nil_iff.mp h.eq_nil
    unfold recalculateProjectSchedule at hschedule ⊢
    rw [if_pos (List.isEmpty_iff.mpr hempty)] at hschedule
    rw [if_pos (List.isEmpty_iff.mpr hother)]
    obtain rfl := Except.ok.inj hschedule
    exact ⟨[], rfl, fun _ => rfl⟩
  · obtain ⟨graph, finish, late, -, -, -, rfl⟩ := exists_forwardPass_of_schedule hschedule hempty
    obtain ⟨otherEarly, otherLate, hother, hagree⟩ := recalculateProjectSchedule_agree hschedule
      hempty h.mem_ids (h.sameLinks hdeps) fun task htask => h.exists_rescheduled htask _
    exact ⟨_, hother, timesOf_congr h.mem_ids hagree⟩

/-- Dates, floats and critical tasks are the same for every order of the tasks and the links,
and for all names and priorities. -/
theorem schedule_orderIndependent (calendar : WorkCalendarEngine)
    (htasks : (other.tasks.map Task.unnamed).Perm (project.tasks.map Task.unnamed))
    (hdeps : otherDeps.Perm deps) :
    (∃ error, recalculateProjectSchedule calendar project deps = .error error ∧
        recalculateProjectSchedule calendar other otherDeps = .error error) ∨
      ∃ schedule otherSchedule,
        recalculateProjectSchedule calendar project deps = .ok schedule ∧
        recalculateProjectSchedule calendar other otherDeps = .ok otherSchedule ∧
        ∀ taskId, timesOf otherSchedule taskId = timesOf schedule taskId := by
  have hsame : SameTasks project other := htasks
  cases hschedule : recalculateProjectSchedule calendar project deps with
  | ok schedule =>
      obtain ⟨otherSchedule, hother, htimes⟩ := hsame.schedule_ok hdeps hschedule
      exact Or.inr ⟨schedule, otherSchedule, rfl, hother, htimes⟩
  | error error =>
      refine Or.inl ⟨error, rfl, ?_⟩
      cases hother : recalculateProjectSchedule calendar other otherDeps with
      | ok otherSchedule =>
          obtain ⟨schedule, hok, -⟩ := hsame.symm.schedule_ok hdeps.symm hother
          rw [hschedule] at hok
          cases hok
      | error otherError =>
          have hacyclic : AcyclicDependencies other otherDeps ↔ AcyclicDependencies project deps :=
            ⟨(hsame.symm.sameLinks hdeps.symm).acyclic, (hsame.sameLinks hdeps).acyclic⟩
          rcases recalculateProjectSchedule_error hschedule with ⟨hcycle, rfl⟩ | ⟨hnone, rfl⟩
          · rcases recalculateProjectSchedule_error hother with ⟨-, rfl⟩ | ⟨hother, -⟩
            · rfl
            · exact absurd (hacyclic.mp hother) hcycle
          · rcases recalculateProjectSchedule_error hother with ⟨hother, -⟩ | ⟨-, rfl⟩
            · exact absurd (hacyclic.mpr hnone) hother
            · rfl

end

/-- The review is listed first, under another name and with a higher priority. -/
def reviewAndDesign : TasksById where
  rows := [
    { id := "review", projectId := "p", name := "A review", priority := -5,
      durationDays := some 1 },
    { id := "design", projectId := "p", name := "B design", startDate := some 8,
      durationDays := some 3 }]
  nodup := by decide

theorem schedule_orderIndependent_designAndReview :
    (∃ error,
        recalculateProjectSchedule weekdayCalendar designAndReview reviewAfterDesign =
          .error error ∧
        recalculateProjectSchedule weekdayCalendar reviewAndDesign reviewAfterDesign =
          .error error) ∨
      ∃ schedule otherSchedule,
        recalculateProjectSchedule weekdayCalendar designAndReview reviewAfterDesign =
          .ok schedule ∧
        recalculateProjectSchedule weekdayCalendar reviewAndDesign reviewAfterDesign =
          .ok otherSchedule ∧
        ∀ taskId, timesOf otherSchedule taskId = timesOf schedule taskId :=
  schedule_orderIndependent weekdayCalendar (by decide) (by decide)

end ProjectManager
