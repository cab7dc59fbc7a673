import ProjectManager.Scheduling.AutoLeveling
import ProjectManager.Scheduling.Delays
import ProjectManager.Tasks.ForcedDates
import ProjectManager.Tasks.Rescheduling

/-! # Leveling from the dashboard

The dashboard levels a project automatically, or moves one of its tasks by hand, and
then schedules the project again. Only tasks that no other task waits for are moved,
and a task that follows a dated task is moved back by the schedule. So in every run
of such calls no task gets earlier dates, and linked tasks keep theirs.
-/

namespace ProjectManager

open Foundation ServiceProgram

namespace Leveling

/-! ## The calls -/

section

variable (calendar : WorkCalendarEngine)

/-- The checks and the move of `resolve_resource_conflict_manual`. -/
def prepareManualShift (projectId taskId : String) (shiftWorkingDays : ℤ) (reason : String)
    (store : ProjectStore) : Except DomainError (Task × ResourceLevelingAction) := do
  ensure (0 < shiftWorkingDays)
    (validationError "shift_working_days must be positive." "RESOURCE_LEVELING_INVALID_SHIFT")
  let task ← require (store.tasks.get? taskId) (notFoundError "Task not found." "TASK_NOT_FOUND")
  ensure (task.projectId = projectId)
    (validationError "Task does not belong to the selected project."
      "RESOURCE_LEVELING_PROJECT_MISMATCH")
  ensure (task.startDate.isSome)
    (validationError "Task must have a start date for leveling." "RESOURCE_LEVELING_NO_START")
  ensure (task.actualStart.isNone ∧ task.actualEnd.isNone)
    (businessRuleError "Cannot shift a task that already has actual dates."
      "RESOURCE_LEVELING_LOCKED_TASK")
  ensure (buildSuccessorsMap (store.dependenciesOf projectId) task.id = [])
    (businessRuleError "Manual leveling supports only tasks without successors."
      "RESOURCE_LEVELING_DEPENDENCY_BLOCK")
  shiftTaskForLeveling calendar task shiftWorkingDays reason none none none

def resolveResourceConflictManual (projectId taskId : String) (shiftWorkingDays : ℤ)
    (reason : String) : ServiceProgram ResourceLevelingAction := do
  let (task, action) ← readProjects
    (prepareManualShift calendar projectId taskId shiftWorkingDays reason)
  Program.rollingBack do
    writeProjects fun store => .ok { store with tasks := store.tasks.save task }
    commit
  return action

variable (userSession : AuthorizationEngine)

def requireDashboardAccess (permissionCode operationLabel projectId : String) :
    ServiceProgram Unit :=
  readProjects fun _ => do
    userSession.requirePermission permissionCode operationLabel
    userSession.requireProjectPermission projectId permissionCode operationLabel

def dashboardResourceConflicts (projectId : String) (thresholdPercent : ℚ) (recalculate : Bool) :
    ServiceProgram (List ResourceConflict) := do
  requireDashboardAccess userSession "report.view" "view resource conflicts" projectId
  let _ ← (if recalculate = true then recalculateSchedule calendar projectId true else pure [] :
    ServiceProgram (List CPMTaskInfo))
  readProjects fun store => previewResourceConflicts calendar store projectId thresholdPercent

def autoLevelOverallocations (projectId : String) (maxIterations : ℤ) (thresholdPercent : ℚ) :
    ServiceProgram ResourceLevelingResult := do
  requireDashboardAccess userSession "task.manage" "auto-level resource conflicts" projectId
  let result ← autoLevelResources calendar projectId thresholdPercent maxIterations
  let _ ← recalculateSchedule calendar projectId true
  return result

def manuallyShiftTaskForLeveling (projectId taskId : String) (shiftWorkingDays : ℤ)
    (reason : String) : ServiceProgram ResourceLevelingAction := do
  requireDashboardAccess userSession "task.manage" "manual task shift" projectId
  let action ← resolveResourceConflictManual calendar projectId taskId shiftWorkingDays reason
  let _ ← recalculateSchedule calendar projectId true
  return action

end

inductive LevelingCall
  | conflicts (projectId : String) (thresholdPercent : ℚ) (recalculate : Bool)
  | autoLevel (projectId : String) (maxIterations : ℤ) (thresholdPercent : ℚ)
  | shift (projectId taskId : String) (shiftWorkingDays : ℤ) (reason : String)
  | recalculate (projectId : String)

/-- One call of a user of the dashboard. -/
def runLevelingCall (calendar : WorkCalendarEngine) (call : AuthorizationEngine × LevelingCall)
    (session : Session PlatformStore) : Outcome DomainError PlatformStore :=
  match call.2 with
  | .conflicts projectId thresholdPercent recalculate =>
      (dashboardResourceConflicts calendar call.1 projectId thresholdPercent recalculate).outcome
        session
  | .autoLevel projectId maxIterations thresholdPercent =>
      (autoLevelOverallocations calendar call.1 projectId maxIterations thresholdPercent).outcome
        session
  | .shift projectId taskId shiftWorkingDays reason =>
      (manuallyShiftTaskForLeveling calendar call.1 projectId taskId shiftWorkingDays
        reason).outcome session
  | .recalculate projectId => (recalculateSchedule calendar projectId true).outcome session

/-! ## What is left of a schedule -/

/-- Another task waits for the task, or it waits for one that has dates. -/
def Linked (deps : List TaskDependency) (schedule : List CPMTaskInfo) (taskId : String) : Prop :=
  (∃ dep ∈ deps, dep.predecessorTaskId = taskId) ∨
    ∃ dep ∈ deps, dep.successorTaskId = taskId ∧
      ∃ info ∈ schedule, info.task.id = dep.predecessorTaskId ∧ info.earliestStart.isSome

end Leveling

open Leveling

/-- A task gets no earlier dates, and keeps them where it is linked. -/
structure CPMTaskInfo.LeveledTo (deps : List TaskDependency) (schedule : List CPMTaskInfo)
    (info later : CPMTaskInfo) : Prop extends info.DelayedTo later where
  start_of_linked : Linked deps schedule info.task.id → later.earliestStart = info.earliestStart
  finish_of_linked : Linked deps schedule info.task.id →
    later.earliestFinish = info.earliestFinish

namespace Leveling

def LeveledSchedule (deps : List TaskDependency) : Except DomainError (List CPMTaskInfo) →
    Except DomainError (List CPMTaskInfo) → Prop
  | .ok schedule, .ok later => List.Forall₂ (CPMTaskInfo.LeveledTo deps schedule) schedule later
  | .error error, .error laterError => laterError = error
  | _, _ => False

/-- The links of every project stay, and its schedule is leveled at most. -/
structure SchedulesLeveled (calendar : WorkCalendarEngine) (before after : ProjectStore) :
    Prop where
  links : ∀ projectId, after.dependenciesOf projectId = before.dependenciesOf projectId
  schedules : ∀ projectId, LeveledSchedule (before.dependenciesOf projectId)
    (storedSchedule calendar projectId before) (storedSchedule calendar projectId after)

section

variable {deps : List TaskDependency} {schedule later : List CPMTaskInfo}
  {calendar : WorkCalendarEngine}

theorem leveledTo_refl (info : CPMTaskInfo) : info.LeveledTo deps schedule info where
  task := rfl
  earliestStart := rel_le_refl _
  earliestFinish := rel_le_refl _
  lateByDays := le_rfl
  start_of_linked := fun _ => rfl
  finish_of_linked := fun _ => rfl

/-- What is linked stays linked, since a predecessor keeps its dates. -/
theorem Linked.kept (hleveled : List.Forall₂ (CPMTaskInfo.LeveledTo deps schedule) schedule later)
    {taskId : String} (h : Linked deps schedule taskId) : Linked deps later taskId := by
  rcases h with hwaits | ⟨dep, hdep, hsucc, info, hinfo, hpred, hdated⟩
  · exact Or.inl hwaits
  · obtain ⟨laterInfo, hlater, hkept⟩ := exists_of_mem_forall₂ hleveled hinfo
    have hstart := hkept.start_of_linked (Or.inl ⟨dep, hdep, hpred.symm⟩)
    exact Or.inr ⟨dep, hdep, hsucc, laterInfo, hlater, hkept.task.trans hpred,
      hstart ▸ hdated⟩

theorem LeveledSchedule.refl (result : Except DomainError (List CPMTaskInfo)) :
    LeveledSchedule deps result result := by
  cases result with
  | error error => rfl
  | ok schedule => exact List.forall₂_same.mpr fun info _ => leveledTo_refl info

theorem LeveledSchedule.trans {first second third : Except DomainError (List CPMTaskInfo)}
    (h : LeveledSchedule deps first second) (h' : LeveledSchedule deps second third) :
    LeveledSchedule deps first third := by
  match first, second, third, h, h' with
  | .error _, .error _, .error _, h, h' => exact Eq.trans h' h
  | .ok first, .ok second, .ok third, h, h' =>
      apply forall₂_trans _ h h'
      intro info middle last hmiddle hlast
      have hlinked : Linked deps first info.task.id → Linked deps second middle.task.id :=
        fun hlinked => hmiddle.task ▸ Linked.kept h hlinked
      exact {
        task := hlast.task.trans hmiddle.task
        earliestStart := rel_le_trans hmiddle.earliestStart hlast.earliestStart
        earliestFinish := rel_le_trans hmiddle.earliestFinish hlast.earliestFinish
        lateByDays := hmiddle.lateByDays.trans hlast.lateByDays
        start_of_linked := fun hinfo =>
          (hlast.start_of_linked (hlinked hinfo)).trans (hmiddle.start_of_linked hinfo)
        finish_of_linked := fun hinfo =>
          (hlast.finish_of_linked (hlinked hinfo)).trans (hmiddle.finish_of_linked hinfo) }

theorem SchedulesLeveled.refl (store : ProjectStore) : SchedulesLeveled calendar store store :=
  ⟨fun _ => rfl, fun _ => .refl _⟩

theorem SchedulesLeveled.trans {first second third : ProjectStore}
    (h : SchedulesLeveled calendar first second) (h' : SchedulesLeveled calendar second third) :
    SchedulesLeveled calendar first third := by
  refine ⟨fun projectId => (h'.links projectId).trans (h.links projectId), fun projectId => ?_⟩
  have hsecond := h'.schedules projectId
  rw [h.links] at hsecond
  exact (h.schedules projectId).trans hsecond

end

/-! ## What a move leaves of the dates -/

end Leveling

/-- A task as it was, or one that no other task of its project waits for, with a later start. -/
structure Task.ShiftedTo (links : String → List TaskDependency) (task later : Task) : Prop
    extends task.DelayedTo later where
  durationDays : later.durationDays = task.durationDays
  started : later.actualStart = task.actualStart
  ended : later.actualEnd = task.actualEnd
  start_of_waiting : (∃ dep ∈ links task.projectId, dep.predecessorTaskId = task.id) →
    later.startDate = task.startDate

namespace Leveling

section

variable {calendar : WorkCalendarEngine} {links : String → List TaskDependency}

theorem shiftedTo_refl (task : Task) : task.ShiftedTo links task where
  id := rfl
  projectId := rfl
  duration := rfl
  deadline := rfl
  startDate := rel_le_refl _
  actualStart := rel_le_refl _
  actualEnd := rel_le_refl _
  durationDays := rfl
  started := rfl
  ended := rfl
  start_of_waiting := fun _ => rfl

theorem shiftedTo_trans {first second third : Task} (h : first.ShiftedTo links second)
    (h' : second.ShiftedTo links third) : first.ShiftedTo links third where
  id := h'.id.trans h.id
  projectId := h'.projectId.trans h.projectId
  duration := h'.duration.trans h.duration
  deadline := h'.deadline.trans h.deadline
  startDate := rel_le_trans h.startDate h'.startDate
  actualStart := rel_le_trans h.actualStart h'.actualStart
  actualEnd := rel_le_trans h.actualEnd h'.actualEnd
  durationDays := h'.durationDays.trans h.durationDays
  started := h'.started.trans h.started
  ended := h'.ended.trans h.ended
  start_of_waiting := by
    intro hwaiting
    rw [h'.start_of_waiting (by rwa [h.projectId, h.id]), h.start_of_waiting hwaiting]

theorem computeTaskDates_shifted {task later : Task} (h : task.ShiftedTo links later)
    {incoming : List TaskDependency} {dates laterDates : DateTable}
    (hagree : ∀ dep ∈ incoming, laterDates dep.predecessorTaskId = dates dep.predecessorTaskId)
    (hstart : later.startDate = task.startDate ∨
      (latestInducedStart calendar task incoming dates).isSome) :
    computeTaskDates calendar later incoming laterDates =
      computeTaskDates calendar task incoming dates := by
  cases hend : task.actualEnd with
  | some finish =>
      simp only [computeTaskDates, applyActualConstraints, h.ended, h.started, h.duration, hend]
  | none =>
      have hlatest : latestInducedStart calendar later incoming laterDates =
          latestInducedStart calendar task incoming dates :=
        latestInducedStart_congr calendar h.duration (fun _ => Iff.rfl) hagree
      rw [computeTaskDates_eq calendar hend, computeTaskDates_eq calendar (h.ended.trans hend),
        hlatest, h.started, h.duration]
      rcases hstart with hsame | hinduced
      · rw [hsame]
      · obtain ⟨start, hstart⟩ := Option.isSome_iff_exists.mp hinduced
        rw [hstart]
        rfl

theorem finish_isSome_of_start {task : Task} {incoming : List TaskDependency} {dates : DateTable}
    (h : (computeTaskDates calendar task incoming dates).start.isSome) :
    (computeTaskDates calendar task incoming dates).finish.isSome := by
  cases hend : task.actualEnd with
  | some finish =>
      simp only [computeTaskDates, applyActualConstraints, hend]
      split <;> rfl
  | none =>
      rw [computeTaskDates_eq calendar hend] at h ⊢
      simpa [datesFrom] using h

variable {project other : TasksById} {deps : List TaskDependency}
  {graph otherGraph : DependencyGraph}

theorem planDelayed_of_shifted (deps : List TaskDependency)
    (hrows : List.Forall₂ (Task.ShiftedTo links) project.tasks other.tasks) :
    PlanDelayed project deps other deps :=
  ⟨hrows.imp fun _ _ h => h.toDelayedTo,
    List.forall₂_same.mpr fun _ _ => ⟨rfl, rfl, rfl, le_rfl⟩⟩

section

variable (hrows : List.Forall₂ (Task.ShiftedTo links) project.tasks other.tasks)
  (hlinks : ∀ task ∈ project.tasks, links task.projectId = deps)
  (hsorted : graph.Sorted project deps) (hother : otherGraph.Sorted other deps)

include hrows hsorted hother

/-- One equation of both tables. -/
theorem forwardDates_shifted {task : Task} (htask : task ∈ project.tasks)
    (hagree : ∀ dep ∈ knownDependencies project deps, dep.successorTaskId = task.id →
      forwardDates other otherGraph (computeTaskDates calendar) dep.predecessorTaskId =
        forwardDates project graph (computeTaskDates calendar) dep.predecessorTaskId)
    (hstart : ∀ later, task.ShiftedTo links later → later.startDate = task.startDate ∨
      (latestInducedStart calendar task (graph.depsBySuccessor task.id)
        (forwardDates project graph (computeTaskDates calendar))).isSome) :
    forwardDates other otherGraph (computeTaskDates calendar) task.id =
      forwardDates project graph (computeTaskDates calendar) task.id := by
  obtain ⟨later, hlater, hshifted⟩ := exists_of_mem_forall₂ hrows htask
  have hdates := forwardDates_eq hsorted (computeTaskDates_predecessorsOnly calendar) htask
  have hlaterDates := forwardDates_eq hother (computeTaskDates_predecessorsOnly calendar) hlater
  have hincoming : otherGraph.depsBySuccessor task.id = graph.depsBySuccessor task.id := by
    have hids := (planDelayed_of_shifted deps hrows).ids
    rw [hsorted.depsBySuccessor, hother.depsBySuccessor, knownDependencies, knownDependencies,
      hids]
  rw [hshifted.id, hincoming] at hlaterDates
  rw [hlaterDates, hdates]
  apply computeTaskDates_shifted hshifted _ (hstart later hshifted)
  intro dep hdep
  rw [hsorted.depsBySuccessor] at hdep
  obtain ⟨hknown, hsucc⟩ := List.mem_filter.mp hdep
  exact hagree dep hknown (of_decide_eq_true hsucc)

include hlinks

theorem forwardDates_of_waiting : ∀ id ∈ project.ids, (∃ dep ∈ deps, dep.predecessorTaskId = id) →
    forwardDates other otherGraph (computeTaskDates calendar) id =
      forwardDates project graph (computeTaskDates calendar) id := by
  have hall := hsorted.predecessorsEarlier.induction
    (fun id => (∃ dep ∈ deps, dep.predecessorTaskId = id) →
      forwardDates other otherGraph (computeTaskDates calendar) id =
        forwardDates project graph (computeTaskDates calendar) id) ?_
  · intro id hid
    exact hall id (hsorted.perm.mem_iff.mpr hid)
  intro id hid hearlier hwaiting
  obtain ⟨task, htask, rfl, -⟩ := project.exists_of_mem_ids (hsorted.perm.mem_iff.mp hid)
  apply forwardDates_shifted hrows hsorted hother htask
  · intro dep hknown hsucc
    obtain ⟨hdep, hpred, -⟩ := mem_knownDependencies.mp hknown
    exact hearlier _ (hsorted.perm.mem_iff.mpr hpred) ⟨dep, hknown, rfl, hsucc⟩ ⟨dep, hdep, rfl⟩
  · intro later hshifted
    rw [← hlinks task htask] at hwaiting
    exact Or.inl (hshifted.start_of_waiting hwaiting)

theorem forwardDates_of_dated {task : Task} (htask : task ∈ project.tasks) {dep : TaskDependency}
    (hknown : dep ∈ knownDependencies project deps) (hsucc : dep.successorTaskId = task.id)
    (hdated : (forwardDates project graph (computeTaskDates calendar)
      dep.predecessorTaskId).start.isSome) :
    forwardDates other otherGraph (computeTaskDates calendar) task.id =
      forwardDates project graph (computeTaskDates calendar) task.id := by
  apply forwardDates_shifted hrows hsorted hother htask
  · intro incoming hincoming _
    obtain ⟨hdep, hpred, -⟩ := mem_knownDependencies.mp hincoming
    exact forwardDates_of_waiting hrows hlinks hsorted hother _ hpred ⟨incoming, hdep, rfl⟩
  · intro later _
    obtain ⟨-, hpred, -⟩ := mem_knownDependencies.mp hknown
    obtain ⟨pred, hpredTask, hpredId, -⟩ := project.exists_of_mem_ids hpred
    have hfinish : (forwardDates project graph (computeTaskDates calendar)
        dep.predecessorTaskId).finish.isSome := by
      rw [← hpredId, forwardDates_eq hsorted (computeTaskDates_predecessorsOnly calendar)
        hpredTask] at hdated ⊢
      exact finish_isSome_of_start hdated
    obtain ⟨induced, hinduced⟩ := Option.isSome_iff_exists.mp
      (@inducedStart_isSome calendar task _ dep hdated hfinish)
    refine Or.inr (List.isSome_max?_of_mem (List.mem_filterMap.mpr ⟨dep, ?_, hinduced⟩))
    rw [hsorted.depsBySuccessor]
    exact List.mem_filter.mpr ⟨hknown, decide_eq_true hsucc⟩

end

end

/-! ## What a move leaves of the schedules -/

section

variable {calendar : WorkCalendarEngine} {before after : ProjectStore}

variable (calendar) in
theorem forwardDates_of_linked {project other : TasksById} {deps : List TaskDependency}
    {links : String → List TaskDependency} {graph otherGraph : DependencyGraph} (late : DateTable)
    (hrows : List.Forall₂ (Task.ShiftedTo links) project.tasks other.tasks)
    (hlinks : ∀ task ∈ project.tasks, links task.projectId = deps)
    (hknown : knownDependencies project deps = deps)
    (hsorted : graph.Sorted project deps) (hother : otherGraph.Sorted other deps) {task : Task}
    (htask : task ∈ project.tasks)
    (h : Linked deps (buildScheduleResult calendar project
      (forwardDates project graph (computeTaskDates calendar)) late) task.id) :
    forwardDates other otherGraph (computeTaskDates calendar) task.id =
      forwardDates project graph (computeTaskDates calendar) task.id := by
  rcases h with hwaiting | ⟨dep, hdep, hsucc, info, hinfo, hpred, hdated⟩
  · exact forwardDates_of_waiting hrows hlinks hsorted hother _ (project.mem_ids htask) hwaiting
  · obtain ⟨pred, -, rfl⟩ := List.mem_map.mp hinfo
    have hstart : (forwardDates project graph (computeTaskDates calendar)
        dep.predecessorTaskId).start.isSome := hpred ▸ hdated
    rw [← hknown] at hdep
    exact forwardDates_of_dated hrows hlinks hsorted hother htask hdep hsucc hstart

theorem SchedulesLeveled.of_shifted (hdeps : after.dependencies = before.dependencies)
    (hrows : List.Forall₂ (Task.ShiftedTo before.dependenciesOf) before.tasks.rows
      after.tasks.rows) : SchedulesLeveled calendar before after := by
  have htasks : ∀ projectId, List.Forall₂ (Task.ShiftedTo before.dependenciesOf)
      (before.tasksOf projectId).tasks (after.tasksOf projectId).tasks := by
    intro projectId
    refine List.rel_filter ?_ hrows
    intro task later hshifted
    simp only [hshifted.projectId]
  have hsame : ∀ projectId, after.dependenciesOf projectId = before.dependenciesOf projectId := by
    intro projectId
    have hids := (planDelayed_of_shifted [] (htasks projectId)).ids
    unfold ProjectStore.dependenciesOf
    rw [hids, hdeps]
  refine ⟨hsame, fun projectId => ?_⟩
  have hplan := planDelayed_of_shifted (before.dependenciesOf projectId) (htasks projectId)
  unfold storedSchedule
  rw [hsame]
  cases hschedule : recalculateProjectSchedule calendar (before.tasksOf projectId)
      (before.dependenciesOf projectId) with
  | error error =>
      rw [hplan.schedule_error hschedule]
      rfl
  | ok schedule =>
      by_cases hempty : (before.tasksOf projectId).tasks = []
      · rw [schedule_of_nil hempty] at hschedule
        cases hschedule
        rw [schedule_of_nil (hplan.tasks_eq_nil.mpr hempty)]
        exact .nil
      · obtain ⟨graph, otherGraph, late, otherLate, hsorted, hother, rfl, hlater⟩ :=
          hplan.exists_schedules hempty hschedule
        rw [hlater]
        apply forall₂_map (htasks projectId)
        intro task htask later _ hshifted
        have hdelayed := scheduleInfo_delayed calendar late otherLate hshifted.toDelayedTo
          (hplan.dates calendar hsorted hother task.id ((before.tasksOf projectId).mem_ids htask))
        have hproject : ∀ task ∈ (before.tasksOf projectId).tasks,
            before.dependenciesOf task.projectId = before.dependenciesOf projectId := by
          intro task htask
          rw [(mem_tasksOf.mp htask).2]
        have hkept : Linked (before.dependenciesOf projectId) _ task.id → _ :=
          forwardDates_of_linked calendar late (htasks projectId) hproject
            knownDependencies_dependenciesOf hsorted hother htask
        refine ⟨hdelayed, fun hlinked => ?_, fun hlinked => ?_⟩
        · have hstart := congrArg TaskDates.start (hkept hlinked)
          simpa only [scheduleInfo, hshifted.id] using hstart
        · have hfinish := congrArg TaskDates.finish (hkept hlinked)
          simpa only [scheduleInfo, hshifted.id] using hfinish

theorem shifted_save {links : String → List TaskDependency} {tasks : TasksById} {task : Task}
    {old new : Date} {finish : Option Date} (htask : task ∈ tasks.rows)
    (hstart : task.startDate = some old) (hlater : old < new)
    (hlast : ∀ dep ∈ links task.projectId, dep.predecessorTaskId ≠ task.id) :
    List.Forall₂ (Task.ShiftedTo links) tasks.rows
      (tasks.save { task with startDate := some new, endDate := finish }).rows := by
  change List.Forall₂ _ tasks.rows (tasks.rows.map _)
  rw [List.forall₂_map_right_iff, List.forall₂_same]
  intro row hrow
  split
  next hid =>
    obtain rfl := tasks.eq_of_key_eq hrow htask hid
    have hdelayed : NoLater row.startDate (some new) := by
      rw [hstart]
      exact .some hlater.le
    refine ⟨⟨rfl, rfl, rfl, rfl, hdelayed, rel_le_refl _, rel_le_refl _⟩, rfl, rfl, rfl, ?_⟩
    rintro ⟨dep, hdep, hpred⟩
    exact absurd hpred (hlast dep hdep)
  next => exact shiftedTo_refl row

/-- A run of automatic leveling shifts tasks. -/
theorem LevelingRun.schedulesLeveled {projectId : String} {actions : List ResourceLevelingAction}
    (h : LevelingRun calendar projectId before actions after) :
    SchedulesLeveled calendar before after := by
  obtain ⟨hmoves, rfl⟩ := h
  refine SchedulesLeveled.of_shifted rfl ?_
  apply hmoves.keeps fun tasks =>
    List.Forall₂ (Task.ShiftedTo before.dependenciesOf) before.tasks.rows tasks.rows
  · intro tasks action ⟨task, old, new, hget, hmovable, hlater⟩ hshifted
    obtain ⟨hmem, -⟩ := Table.get?_eq_some_iff.mp hget
    have hmoved : List.Forall₂ (Task.ShiftedTo before.dependenciesOf) tasks.rows
        (applyAction tasks action).rows := by
      rw [applyAction, hget, Option.elim_some, Task.movedBy, hlater.newStart]
      apply shifted_save hmem hlater.start hlater.later
      rw [hmovable.project]
      exact hmovable.last
    apply forall₂_trans _ hshifted hmoved
    intro first second third h h'
    exact shiftedTo_trans h h'
  · exact List.forall₂_same.mpr fun task _ => shiftedTo_refl task

end

/-! ## What a stored schedule leaves -/

section

variable {calendar : WorkCalendarEngine} {store : ProjectStore} {projectId scheduled : String}
  {early late : DateTable}

theorem tasksOf_saveSchedule_of_ne (hne : scheduled ≠ projectId) :
    (saveSchedule (buildScheduleResult calendar (store.tasksOf projectId) early late)
      store).tasksOf scheduled = store.tasksOf scheduled := by
  have hrows : List.Forall₂ (fun task saved : Task => saved.projectId = task.projectId ∧
      (task.projectId = scheduled → saved = task)) store.tasks.rows
        (saveSchedule (buildScheduleResult calendar (store.tasksOf projectId) early late)
          store).tasks.rows := by
    apply forall₂_of_map_eq (saveSchedule_identity identity_of_scheduled)
    intro task htask saved hsaved hsame
    have hproject : saved.projectId = task.projectId := congrArg Prod.snd hsame
    refine ⟨hproject, ?_⟩
    rintro rfl
    rcases mem_savedTasks hsaved with ⟨hstored, -⟩ | ⟨info, hinfo, version, rfl⟩
    · exact store.tasks.eq_of_key_eq hstored htask (congrArg Prod.fst hsame)
    · -- Only tasks of the other project are saved.
      obtain ⟨source, hsource, rfl⟩ := List.mem_map.mp hinfo
      exact absurd (hproject.symm.trans (mem_tasksOf.mp hsource).2) hne
  have hkept := List.rel_filter (p := fun task : Task => decide (task.projectId = scheduled))
    (q := fun task : Task => decide (task.projectId = scheduled))
    (fun task saved hsame => by simp only [hsame.1]) hrows
  have hsame := (List.forall₂_and_left _ _).mpr
    ⟨fun task htask => of_decide_eq_true (List.mem_filter.mp htask).2, hkept⟩
  have hmap := map_eq_of_forall₂ (f := id) (g := id) (fun _ _ h => h.2.2 h.1) hsame
  rw [List.map_id, List.map_id] at hmap
  exact Table.ext hmap

theorem dependenciesOf_saveSchedule (scheduled : String) :
    (saveSchedule (buildScheduleResult calendar (store.tasksOf projectId) early late)
      store).dependenciesOf scheduled = store.dependenciesOf scheduled := by
  unfold ProjectStore.dependenciesOf
  rw [ids_tasksOf, ids_tasksOf, saveSchedule_identity identity_of_scheduled]
  rfl

theorem forall₂_isSaved :
    List.Forall₂ (IsSaved calendar early late) (store.tasksOf projectId).tasks
      ((saveSchedule (buildScheduleResult calendar (store.tasksOf projectId) early late)
        store).tasksOf projectId).tasks := by
  apply forall₂_of_map_eq ids_tasksOf_saveSchedule
  intro task htask saved hsaved hid
  obtain ⟨source, hsource, hrow⟩ := isSaved_of_mem hsaved
  obtain rfl := (store.tasksOf projectId).eq_of_key_eq hsource htask
    (hrow.rescheduled.id.symm.trans hid)
  exact hrow

theorem IsSaved.leveledTo {deps : List TaskDependency} {schedule : List CPMTaskInfo}
    {task saved : Task} {savedEarly savedLate : DateTable}
    (h : IsSaved calendar early late task saved) (hagree : savedEarly task.id = early task.id) :
    (scheduleInfo calendar early late task).LeveledTo deps schedule
      (scheduleInfo calendar savedEarly savedLate saved) := by
  obtain ⟨version, rfl⟩ := h
  have hstart := congrArg TaskDates.start hagree
  have hfinish := congrArg TaskDates.finish hagree
  have hlate := congrArg (lateBy calendar task.deadline) hfinish
  have hsame : ∀ {first second : Option Date}, second = first → NoLater first second := by
    rintro _ second rfl
    exact rel_le_refl second
  exact {
    task := rfl
    earliestStart := hsame hstart
    earliestFinish := hsame hfinish
    lateByDays := (congrArg (Option.getD · 0) hlate).ge
    start_of_linked := fun _ => hstart
    finish_of_linked := fun _ => hfinish }

theorem saveSchedule_leveled {infos : List CPMTaskInfo}
    (h : storedSchedule calendar projectId store = .ok infos) :
    SchedulesLeveled calendar store (saveSchedule infos store) := by
  by_cases hempty : (store.tasksOf projectId).tasks = []
  · unfold storedSchedule at h
    rw [schedule_of_nil hempty] at h
    cases h
    rw [saveSchedule_nil]
    exact .refl store
  obtain ⟨graph, finish, late, -, -, -, rfl⟩ := exists_forwardPass_of_schedule h hempty
  refine ⟨dependenciesOf_saveSchedule, fun scheduled => ?_⟩
  by_cases hproject : scheduled = projectId
  · subst hproject
    obtain ⟨savedEarly, savedLate, hsaved, hagree⟩ := storedSchedule_saveSchedule hempty h
    rw [h, hsaved]
    apply forall₂_map forall₂_isSaved
    intro task htask saved _ hrow
    exact IsSaved.leveledTo hrow (hagree task.id ((store.tasksOf scheduled).mem_ids htask)).1
  · unfold storedSchedule
    rw [dependenciesOf_saveSchedule, tasksOf_saveSchedule_of_ne hproject]
    exact .refl _

end

/-! ## Runs -/

section

variable {calendar : WorkCalendarEngine} {store : PlatformStore}

/-- The program ends without open changes, and has leveled schedules at most. -/
def Levels {α : Type} (calendar : WorkCalendarEngine) (store : PlatformStore)
    (program : ServiceProgram α) : Prop :=
  program.Settles store (fun _ next => SchedulesLeveled calendar store.projects next.projects)
    fun _ next => SchedulesLeveled calendar store.projects next.projects

theorem Levels.bind {α β : Type} {program : ServiceProgram α} {rest : α → ServiceProgram β}
    (h : Levels calendar store program) (hrest : ∀ value next, Levels calendar next (rest value)) :
    Levels calendar store (program >>= rest) := by
  apply Program.Settles.bind
  refine Program.Settles.mono h ?_ fun _ _ hraised => hraised
  intro value next hnext
  exact Program.Settles.mono (hrest value next) (fun _ _ hlast => hnext.trans hlast)
    fun _ _ hlast => hnext.trans hlast

theorem levels_read {α β : Type} {f : ProjectStore → Except DomainError α}
    {rest : α → ServiceProgram β}
    (hrest : ∀ value, f store.projects = .ok value → Levels calendar store (rest value)) :
    Levels calendar store (readProjects f >>= rest) := by
  unfold Levels Program.Settles
  rw [Program.spec_bind, spec_readProjects, Session.clean_pending]
  cases hvalue : f store.projects with
  | error e => exact ⟨store, rfl, .refl _⟩
  | ok value => exact hrest value hvalue

theorem levels_readProjects {α : Type} (f : ProjectStore → Except DomainError α) :
    Levels calendar store (readProjects f) := by
  unfold Levels Program.Settles
  rw [spec_readProjects, Session.clean_pending]
  cases f store.projects <;> exact ⟨store, rfl, .refl _⟩

theorem levels_pure {α : Type} (value : α) :
    Levels calendar store (pure value : ServiceProgram α) :=
  Program.settles_pure.mpr (.refl _)

theorem levels_write {f : ProjectStore → ProjectStore}
    (h : SchedulesLeveled calendar store.projects (f store.projects)) :
    Levels calendar store (Program.rollingBack do
      writeProjects fun store => .ok (f store)
      commit) := by
  unfold Levels Program.Settles
  rw [Program.spec_rollingBack, Program.spec_bind]
  change Program.Spec ServiceProgram.commit _ _ _
  rw [spec_commit]
  dsimp only
  cases hflush : PlatformStore.flush _ with
  | error e => exact ⟨store, rfl, .refl _⟩
  | ok next =>
      obtain ⟨inventory, -, hnext⟩ := bind_ok hflush
      cases hnext
      exact ⟨_, rfl, h⟩

theorem levels_recalculateSchedule (projectId : String) :
    Levels calendar store (recalculateSchedule calendar projectId true) := by
  unfold recalculateSchedule
  apply levels_read
  intro infos hinfos
  split
  · exact levels_pure infos
  · apply Levels.bind (levels_write (saveSchedule_leveled hinfos))
    exact fun _ _ => levels_pure infos

theorem levels_autoLevelResources (projectId : String) (thresholdPercent : ℚ)
    (maxIterations : ℤ) :
    Levels calendar store
      (autoLevelResources calendar projectId thresholdPercent maxIterations) := by
  refine (autoLevelResources_spec calendar projectId thresholdPercent maxIterations store).mono
    ?_ ?_
  · rintro result next ⟨after, _, _, rfl, hrun, -⟩
    exact ⟨after, rfl, hrun.schedulesLeveled⟩
  · rintro e next ⟨after, actions, rfl, hrun⟩
    exact ⟨after, rfl, hrun.schedulesLeveled⟩

theorem prepareManualShift_ok {projectId taskId : String} {shiftWorkingDays : ℤ} {reason : String}
    {projects : ProjectStore} {moved : Task} {action : ResourceLevelingAction}
    (h : prepareManualShift calendar projectId taskId shiftWorkingDays reason projects =
      .ok (moved, action)) :
    SchedulesLeveled calendar projects { projects with tasks := projects.tasks.save moved } := by
  obtain ⟨_, hpositive, h⟩ := bind_ok h
  obtain ⟨task, htask, h⟩ := bind_ok h
  obtain ⟨_, hproject, h⟩ := bind_ok h
  iterate 2 obtain ⟨_, -, h⟩ := bind_ok h
  obtain ⟨_, hlast, h⟩ := bind_ok h
  obtain ⟨old, hstart, h⟩ := bind_ok h
  obtain ⟨rfl, -⟩ := Prod.mk.inj (Except.ok.inj h)
  have hshift := ensure_eq_ok.mp hpositive
  obtain ⟨hmem, -⟩ := Table.get?_eq_some_iff.mp (require_eq_ok.mp htask)
  have hlater : old < calendar.addWorkingDays old (shiftWorkingDays + 1) :=
    (lt_addWorkingDays_two calendar old).trans_le
      (calendar.addWorkingDays_le le_rfl (by omega))
  refine SchedulesLeveled.of_shifted rfl
    (shifted_save hmem (require_eq_ok.mp hstart) hlater ?_)
  rw [ensure_eq_ok.mp hproject]
  exact buildSuccessorsMap_eq_nil.mp (ensure_eq_ok.mp hlast)

theorem levels_resolveResourceConflictManual (projectId taskId : String) (shiftWorkingDays : ℤ)
    (reason : String) :
    Levels calendar store
      (resolveResourceConflictManual calendar projectId taskId shiftWorkingDays reason) := by
  unfold resolveResourceConflictManual
  apply levels_read
  rintro ⟨moved, action⟩ hprepared
  apply Levels.bind (levels_write (prepareManualShift_ok hprepared))
  exact fun _ _ => levels_pure action

variable (store) in
theorem runLevelingCall_leveled (call : AuthorizationEngine × LevelingCall) :
    ∃ last, (runLevelingCall calendar call (.clean store)).2 = .clean last ∧
      SchedulesLeveled calendar store.projects last.projects := by
  obtain ⟨userSession, call⟩ := call
  have hrecalculate : ∀ (next : PlatformStore) (projectId : String) {α : Type} (value : α),
      Levels calendar next (recalculateSchedule calendar projectId true >>= fun _ =>
        (pure value : ServiceProgram α)) :=
    fun next projectId _ value =>
      (levels_recalculateSchedule projectId).bind fun _ _ => levels_pure value
  cases call with
  | conflicts projectId thresholdPercent recalculate =>
      apply Program.Settles.outcome
      apply levels_read
      intro _ _
      refine Levels.bind ?_ fun _ next => ?_
      · split
        · exact levels_recalculateSchedule projectId
        · exact levels_pure []
      · exact levels_readProjects _
  | autoLevel projectId maxIterations thresholdPercent =>
      apply Program.Settles.outcome
      apply levels_read
      intro _ _
      exact (levels_autoLevelResources projectId thresholdPercent maxIterations).bind
        fun result next => hrecalculate next projectId result
  | shift projectId taskId shiftWorkingDays reason =>
      apply Program.Settles.outcome
      apply levels_read
      intro _ _
      exact (levels_resolveResourceConflictManual projectId taskId shiftWorkingDays reason).bind
        fun action next => hrecalculate next projectId action
  | recalculate projectId =>
      exact Program.Settles.outcome (levels_recalculateSchedule projectId)

end

/-- In every run of leveling calls, accepted or not, no schedule gets earlier dates, and linked
tasks keep theirs. -/
theorem schedules_leveled (calendar : WorkCalendarEngine) (store : PlatformStore)
    (calls : List (AuthorizationEngine × LevelingCall)) :
    ∃ last, sessionAfter (runLevelingCall calendar) (.clean store) calls = .clean last ∧
      SchedulesLeveled calendar store.projects last.projects := by
  induction calls generalizing store with
  | nil => exact ⟨store, rfl, .refl _⟩
  | cons call rest ih =>
      obtain ⟨middle, hmiddle, hleveled⟩ := runLevelingCall_leveled store call
      obtain ⟨last, hlast, hrest⟩ := ih middle
      exact ⟨last, (sessionAfter_cons hmiddle rest).trans hlast, hleveled.trans hrest⟩

end Leveling

end ProjectManager
