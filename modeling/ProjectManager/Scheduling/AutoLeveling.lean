import Mathlib.Data.Finset.Prod
import Mathlib.Data.Prod.Lex
import ProjectManager.Projects.Lifecycle
import ProjectManager.Scheduling.Leveling
import ProjectManager.Scheduling.SameSchedule
import ProjectManager.Tasks.StoredSchedules

/-! # Automatic leveling

The heaviest conflict is relieved by moving one of its tasks to a later working
day, as often as there is a conflict left with a task that can be moved. Every
move is committed on its own. A run is what its recorded actions do to the tasks
one after the other.
-/

namespace ProjectManager

open Foundation ServiceProgram

structure ResourceLevelingAction where
  taskId : String
  taskName : String
  resourceId : Option String
  resourceName : Option String
  conflictDate : Option Date
  shiftWorkingDays : ℤ
  oldStart : Option Date
  oldEnd : Option Date
  newStart : Option Date
  newEnd : Option Date
  reason : String
  deriving DecidableEq

structure ResourceLevelingResult where
  conflictsBefore : ℕ
  conflictsAfter : ℕ
  iterations : ℕ
  actions : List ResourceLevelingAction
  deriving DecidableEq

namespace Leveling

/-! ## The choice of a task -/

def buildSuccessorsMap (deps : List TaskDependency) (taskId : String) : List String :=
  ((deps.filter fun dep => dep.predecessorTaskId = taskId).map
    TaskDependency.successorTaskId).dedup

/-- The progress, the priority and the start in the order in which candidates are sorted. -/
abbrev LevelingCandidate := ℚ ×ₗ ℤ ×ₗ ℤ ×ₗ String

def LevelingCandidate.taskId (candidate : LevelingCandidate) : String :=
  (ofLex (ofLex (ofLex candidate).2).2).2

def levelingCandidate (tasksById : TasksById) (successors : String → List String)
    (entry : ResourceConflictEntry) : Option LevelingCandidate := do
  let task ← tasksById.get? entry.taskId
  let start ← task.startDate
  if successors task.id ≠ [] then none
  else if task.actualStart.isSome ∨ task.actualEnd.isSome then none
  else if 0 < task.percentComplete then none
  else some (toLex (task.percentComplete, toLex (-priorityValue task, toLex (-start, task.id))))

def chooseAutoLevelTask (conflict : ResourceConflict) (tasksById : TasksById)
    (successors : String → List String) : Option String :=
  ((conflict.entries.filterMap (levelingCandidate tasksById successors)).insertionSort
    (· ≤ ·)).head?.map LevelingCandidate.taskId

/-- The larger total counts, then the number of entries. -/
def LighterThan (first second : ResourceConflict) : Prop :=
  first.totalAllocationPercent < second.totalAllocationPercent ∨
    first.totalAllocationPercent = second.totalAllocationPercent ∧
      first.entries.length < second.entries.length

instance : DecidableRel LighterThan := fun _ _ =>
  inferInstanceAs (Decidable (_ ∨ _ ∧ _))

/-- The first of the heaviest conflicts. -/
def topConflict : List ResourceConflict → Option ResourceConflict
  | [] => none
  | first :: rest => some (rest.foldl
      (fun top conflict => if LighterThan top conflict then conflict else top)
      first)

/-! ## The move -/

section

variable (calendar : WorkCalendarEngine)

def shiftTaskForLeveling (task : Task) (shiftWorkingDays : ℤ) (reason : String)
    (resourceId resourceName : Option String) (conflictDate : Option Date) :
    Except DomainError (Task × ResourceLevelingAction) := do
  let oldStart ← require task.startDate
    (validationError "Task must have a start date for leveling." "RESOURCE_LEVELING_NO_START")
  let newStart := calendar.addWorkingDays oldStart (shiftWorkingDays + 1)
  let newEnd := if task.duration ≤ 0 then newStart
    else calendar.addWorkingDays newStart task.duration
  return (
    { task with
      startDate := some newStart
      endDate := some newEnd },
    { taskId := task.id
      taskName := task.name
      resourceId := resourceId
      resourceName := resourceName
      conflictDate := conflictDate
      shiftWorkingDays := shiftWorkingDays
      oldStart := some oldStart
      oldEnd := task.endDate
      newStart := some newStart
      newEnd := some newEnd
      reason := reason })

def autoLevelReason (conflict : ResourceConflict) : String :=
  "Auto-leveling: resolved " ++ formatTenths conflict.totalAllocationPercent ++ "% load on " ++
    Date.isoformat conflict.conflictDate

variable (projectId : String) (thresholdPercent : ℚ)

/-- What one round of the loop moves, if it does not break. -/
def nextShift (successors : String → List String) (store : ProjectStore) :
    Except DomainError (Option (Task × ResourceLevelingAction)) :=
  let tasks := store.tasksOf projectId
  if tasks.rows = [] then .ok none
  else
    let assignments := store.assignmentsOf projectId
    if assignments = [] then .ok none
    else
      let (names, thresholds) := buildResourceNameMap store assignments thresholdPercent
      let chosen := do
        let conflict ← topConflict (buildResourceConflicts names thresholdPercent thresholds tasks
          assignments calendar)
        let taskId ← chooseAutoLevelTask conflict tasks successors
        let task ← tasks.get? taskId
        return (conflict, task)
      match chosen with
      | none => .ok none
      | some (conflict, task) => (shiftTaskForLeveling calendar task 1 (autoLevelReason conflict)
          (some conflict.resourceId) (some conflict.resourceName)
          (some conflict.conflictDate)).map some

/-- The counter and the list of the loop. -/
structure LevelingState where
  iterations : ℕ := 0
  actions : List ResourceLevelingAction := []

def levelLoop (successors : String → List String) : ℕ → LevelingState → ServiceProgram LevelingState
  | 0, state => return state
  | remaining + 1, state => do
      let shift ← readProjects (nextShift calendar projectId thresholdPercent successors)
      match shift with
      | none => return state
      | some (task, action) =>
          Program.rollingBack do
            writeProjects fun store => .ok { store with tasks := store.tasks.save task }
            commit
          levelLoop successors remaining
            { iterations := state.iterations + 1
              actions := state.actions ++ [action] }

def autoLevelResources (maxIterations : ℤ) : ServiceProgram ResourceLevelingResult := do
  readProjects fun _ => ensure (0 < maxIterations)
    (validationError "max_iterations must be positive." "RESOURCE_LEVELING_INVALID_ITERATIONS")
  let initialConflicts ← readProjects fun store =>
    previewResourceConflicts calendar store projectId thresholdPercent
  let successors ← readProjects fun store =>
    .ok (buildSuccessorsMap (store.dependenciesOf projectId))
  let last ← levelLoop calendar projectId thresholdPercent successors maxIterations.toNat {}
  let finalConflicts ← readProjects fun store =>
    previewResourceConflicts calendar store projectId thresholdPercent
  return {
    conflictsBefore := initialConflicts.length
    conflictsAfter := finalConflicts.length
    iterations := last.iterations
    actions := last.actions }

end

/-! ## What one round moves -/

/-- A task that may be moved: nothing of it has been done yet, and no task waits for it. -/
structure Movable (deps : List TaskDependency) (projectId : String) (task : Task) : Prop where
  project : task.projectId = projectId
  last : ∀ dep ∈ deps, dep.predecessorTaskId ≠ task.id
  notStarted : task.actualStart = none
  notEnded : task.actualEnd = none
  noProgress : 0 ≤ task.percentComplete → task.percentComplete = 0

/-- The action moves the start of the task to a later day, and the end follows from the duration. -/
structure MovesLater (calendar : WorkCalendarEngine) (task : Task)
    (action : ResourceLevelingAction) (old new : Date) : Prop where
  start : task.startDate = some old
  oldStart : action.oldStart = some old
  oldEnd : action.oldEnd = task.endDate
  newStart : action.newStart = some new
  later : old < new
  newEnd : action.newEnd = some (finishFrom calendar task.duration new)

def MovesTask (calendar : WorkCalendarEngine) (deps : List TaskDependency) (projectId : String)
    (tasks : TasksById) (action : ResourceLevelingAction) : Prop :=
  ∃ task old new, tasks.get? action.taskId = some task ∧ Movable deps projectId task ∧
    MovesLater calendar task action old new

def Task.movedBy (task : Task) (action : ResourceLevelingAction) : Task :=
  { task with
    startDate := action.newStart
    endDate := action.newEnd }

/-- What a recorded action does to the tasks. -/
def applyAction (tasks : TasksById) (action : ResourceLevelingAction) : TasksById :=
  (tasks.get? action.taskId).elim tasks fun task => tasks.save (Task.movedBy task action)

section

variable {calendar : WorkCalendarEngine} {store : ProjectStore} {projectId : String}
  {thresholdPercent : ℚ} {deps : List TaskDependency}

theorem buildSuccessorsMap_eq_nil {taskId : String} :
    buildSuccessorsMap deps taskId = [] ↔ ∀ dep ∈ deps, dep.predecessorTaskId ≠ taskId := by
  simp [buildSuccessorsMap, List.dedup_eq_nil, List.filter_eq_nil_iff]

theorem levelingCandidate_eq_some {tasksById : TasksById} {entry : ResourceConflictEntry}
    {candidate : LevelingCandidate}
    (h : levelingCandidate tasksById (buildSuccessorsMap deps) entry = some candidate) :
    ∃ task start, tasksById.get? candidate.taskId = some task ∧ task.startDate = some start ∧
      Movable deps task.projectId task := by
  obtain ⟨task, htask, h⟩ := Option.bind_eq_some_iff.mp h
  obtain ⟨start, hstart, h⟩ := Option.bind_eq_some_iff.mp h
  obtain ⟨hlast, h⟩ := Option.ite_none_left_eq_some.mp h
  obtain ⟨hactual, h⟩ := Option.ite_none_left_eq_some.mp h
  obtain ⟨hprogress, h⟩ := Option.ite_none_left_eq_some.mp h
  cases h
  obtain ⟨hstarted, hended⟩ := not_or.mp hactual
  have hid : task.id = entry.taskId := (Table.get?_eq_some_iff.mp htask).2
  refine ⟨task, start, ?_, hstart, rfl, ?_, ?_, ?_, ?_⟩
  · exact (congrArg tasksById.get? hid).trans htask
  · exact buildSuccessorsMap_eq_nil.mp (not_not.mp hlast)
  · exact Option.not_isSome_iff_eq_none.mp hstarted
  · exact Option.not_isSome_iff_eq_none.mp hended
  · exact fun hnonneg => le_antisymm (not_lt.mp hprogress) hnonneg

theorem chooseAutoLevelTask_eq_some {conflict : ResourceConflict} {tasksById : TasksById}
    {taskId : String}
    (h : chooseAutoLevelTask conflict tasksById (buildSuccessorsMap deps) = some taskId) :
    ∃ task start, tasksById.get? taskId = some task ∧ task.startDate = some start ∧
      Movable deps task.projectId task := by
  obtain ⟨candidate, hhead, rfl⟩ := Option.map_eq_some_iff.mp h
  have hmem := (List.mem_insertionSort _).mp (List.mem_of_head? hhead)
  obtain ⟨entry, -, hcandidate⟩ := List.mem_filterMap.mp hmem
  exact levelingCandidate_eq_some hcandidate

theorem lt_addWorkingDays_two (calendar : WorkCalendarEngine) (day : ℤ) :
    day < calendar.addWorkingDays day 2 := by
  rw [calendar.addWorkingDays_of_pos day two_pos]
  have hfirst := calendar.le_workingDay_position day
  have hnext : calendar.workingDay (calendar.position day) <
      calendar.workingDay (calendar.position day + 2 - 1) :=
    calendar.workingDay_lt_workingDay.mpr (by omega)
  exact lt_of_le_of_lt hfirst hnext

theorem shiftTaskForLeveling_ok {task moved : Task} {action : ResourceLevelingAction}
    {reason : String} {resourceId resourceName : Option String} {conflictDate : Option Date}
    (h : shiftTaskForLeveling calendar task 1 reason resourceId resourceName conflictDate =
      .ok (moved, action)) :
    action.taskId = task.id ∧ moved = Task.movedBy task action ∧
      ∃ old new, MovesLater calendar task action old new := by
  obtain ⟨start, hstart, h⟩ := bind_ok h
  obtain ⟨rfl, rfl⟩ := Prod.mk.inj (Except.ok.inj h)
  exact ⟨rfl, rfl, start, calendar.addWorkingDays start 2, require_eq_ok.mp hstart, rfl, rfl, rfl,
    lt_addWorkingDays_two calendar start, rfl⟩

theorem nextShift_ok {moved : Task} {action : ResourceLevelingAction}
    (h : nextShift calendar projectId thresholdPercent
      (buildSuccessorsMap (store.dependenciesOf projectId)) store = .ok (some (moved, action))) :
    MovesTask calendar (store.dependenciesOf projectId) projectId store.tasks action ∧
      store.tasks.save moved = applyAction store.tasks action := by
  unfold nextShift at h
  dsimp only at h
  split at h
  next => cases h
  next =>
    split at h
    next => cases h
    next =>
      split at h
      next => cases h
      next conflict task hchosen =>
        obtain ⟨shifted, hshift, heq⟩ := map_some_eq_ok.mp h
        cases heq
        obtain ⟨top, -, hchosen⟩ := Option.bind_eq_some_iff.mp hchosen
        obtain ⟨taskId, hchoose, hchosen⟩ := Option.bind_eq_some_iff.mp hchosen
        obtain ⟨found, hfound, hchosen⟩ := Option.bind_eq_some_iff.mp hchosen
        obtain ⟨rfl, rfl⟩ := Prod.mk.inj (Option.some.inj hchosen)
        obtain ⟨other, start, hother, hstart, hmovable⟩ := chooseAutoLevelTask_eq_some hchoose
        obtain rfl := Option.some.inj (hfound.symm.trans hother)
        obtain ⟨hmem, rfl⟩ := Table.get?_eq_some_iff.mp hfound
        obtain ⟨hstored, hproject⟩ := mem_tasksOf.mp hmem
        obtain ⟨hid, rfl, old, new, hmoves⟩ := shiftTaskForLeveling_ok hshift
        have hget : store.tasks.get? action.taskId = some found := by
          rw [hid]
          exact store.tasks.get?_of_mem hstored
        refine ⟨⟨found, old, new, hget, hproject ▸ hmovable, hmoves⟩, ?_⟩
        rw [applyAction, hget, Option.elim_some]

end

/-! ## What a move keeps -/

/-- A task without what leveling changes: its dates and its version. -/
def Task.withoutDates (task : Task) : Task :=
  { task with
    startDate := none
    endDate := none
    version := 0 }

/-- The stored dates as the forward pass would read them. -/
def datesOf (tasks : TasksById) : DateTable := fun taskId =>
  (tasks.get? taskId).elim .undated fun task => ⟨task.startDate, task.endDate⟩

/-- The successor of a link starts no earlier than the forward pass asks of it. -/
def StartsInTime (calendar : WorkCalendarEngine) (tasks : TasksById) (dep : TaskDependency) : Prop :=
  ∀ task, tasks.get? dep.successorTaskId = some task →
    ∀ bound ∈ inducedStart calendar task (datesOf tasks) dep, ∃ start ∈ task.startDate, bound ≤ start

/-- The end of the successor follows from its start, and is no earlier than a link to it asks. -/
def FinishesInTime (calendar : WorkCalendarEngine) (tasks : TasksById) (dep : TaskDependency) :
    Prop :=
  ∀ task, tasks.get? dep.successorTaskId = some task →
    task.endDate = task.startDate.map (finishFrom calendar task.duration) ∧
      ∀ bound ∈ linkDate calendar (datesOf tasks) dep, ∃ finish ∈ task.endDate, bound ≤ finish

section

variable {calendar : WorkCalendarEngine} {projectId : String} {deps : List TaskDependency}
  {tasks : TasksById} {action : ResourceLevelingAction} {dep : TaskDependency}

theorem applyAction_withoutDates (tasks : TasksById) (action : ResourceLevelingAction) :
    (applyAction tasks action).rows.map Task.withoutDates = tasks.rows.map Task.withoutDates := by
  unfold applyAction
  cases hget : tasks.get? action.taskId with
  | none => rfl
  | some task =>
      have hstored := tasks.get?_of_mem (Table.get?_eq_some_iff.mp hget).1
      exact Table.map_rows_update hstored rfl

theorem get?_applyAction_of_ne {taskId : String} (h : taskId ≠ action.taskId) :
    (applyAction tasks action).get? taskId = tasks.get? taskId := by
  unfold applyAction
  cases hget : tasks.get? action.taskId with
  | none => rfl
  | some task =>
      apply Table.get?_update_of_ne
      intro heq
      exact h (heq.trans (Table.get?_eq_some_iff.mp hget).2)

theorem get?_applyAction_self {task : Task} (h : tasks.get? action.taskId = some task) :
    (applyAction tasks action).get? action.taskId =
      some { Task.movedBy task action with version := task.version + 1 } := by
  obtain ⟨hmem, hid⟩ := Table.get?_eq_some_iff.mp h
  have hstored := tasks.get?_of_mem hmem
  rw [applyAction, h, Option.elim_some, ← hid]
  exact Table.get?_update_self hstored

/-- A task that may not be moved stays as it is stored. -/
theorem mem_applyAction {task : Task} (hmoves : MovesTask calendar deps projectId tasks action)
    (hfixed : ¬ Movable deps projectId task) (h : task ∈ tasks.rows) :
    task ∈ (applyAction tasks action).rows := by
  obtain ⟨moved, _, _, hget, hmovable, -⟩ := hmoves
  have hother : task.id ≠ action.taskId := by
    intro heq
    have hsame := tasks.get?_of_mem h
    rw [heq, hget] at hsame
    exact hfixed (Option.some.inj hsame ▸ hmovable)
  have hkept : (applyAction tasks action).get? task.id = some task :=
    (get?_applyAction_of_ne hother).trans (tasks.get?_of_mem h)
  exact (Table.get?_eq_some_iff.mp hkept).1

theorem datesOf_predecessor (hmoves : MovesTask calendar deps projectId tasks action)
    (hdep : dep ∈ deps) :
    datesOf (applyAction tasks action) dep.predecessorTaskId =
      datesOf tasks dep.predecessorTaskId := by
  obtain ⟨task, _, _, hget, hmovable, -⟩ := hmoves
  have hother : dep.predecessorTaskId ≠ action.taskId := by
    rw [← (Table.get?_eq_some_iff.mp hget).2]
    exact hmovable.last dep hdep
  rw [datesOf, datesOf, get?_applyAction_of_ne hother]

theorem StartsInTime.applyAction (hmoves : MovesTask calendar deps projectId tasks action)
    (hdep : dep ∈ deps) (h : StartsInTime calendar tasks dep) :
    StartsInTime calendar (applyAction tasks action) dep := by
  intro row hrow bound hbound
  have hdates := datesOf_predecessor hmoves hdep
  by_cases hsuccessor : dep.successorTaskId = action.taskId
  · obtain ⟨task, old, new, hget, -, hlater⟩ := hmoves
    rw [hsuccessor, get?_applyAction_self hget] at hrow
    cases hrow
    have hsame : inducedStart calendar { Task.movedBy task action with version := task.version + 1 }
        (datesOf (Leveling.applyAction tasks action)) dep =
          inducedStart calendar task (datesOf tasks) dep :=
      inducedStart_congr calendar rfl hdates
    rw [hsame] at hbound
    obtain ⟨start, hstart, hle⟩ := h task (hsuccessor ▸ hget) bound hbound
    obtain rfl := Option.some.inj (hlater.start.symm.trans hstart)
    exact ⟨new, hlater.newStart, hle.trans hlater.later.le⟩
  · rw [get?_applyAction_of_ne hsuccessor] at hrow
    rw [inducedStart_congr calendar rfl hdates] at hbound
    exact h row hrow bound hbound

theorem finishFrom_mono {calendar : WorkCalendarEngine} (duration : ℤ) {start later : Date}
    (h : start ≤ later) : finishFrom calendar duration start ≤ finishFrom calendar duration later := by
  unfold finishFrom
  split
  next => exact h
  next => exact calendar.addWorkingDays_mono h duration

theorem FinishesInTime.applyAction (hmoves : MovesTask calendar deps projectId tasks action)
    (hdep : dep ∈ deps) (h : FinishesInTime calendar tasks dep) :
    FinishesInTime calendar (applyAction tasks action) dep := by
  intro row hrow
  have hdates := datesOf_predecessor hmoves hdep
  have hlink : linkDate calendar (datesOf (Leveling.applyAction tasks action)) dep =
      linkDate calendar (datesOf tasks) dep := by
    unfold linkDate
    rw [hdates]
  rw [hlink]
  by_cases hsuccessor : dep.successorTaskId = action.taskId
  · obtain ⟨task, old, new, hget, -, hlater⟩ := hmoves
    rw [hsuccessor, get?_applyAction_self hget] at hrow
    cases hrow
    have hnew : action.newEnd = action.newStart.map (finishFrom calendar task.duration) := by
      rw [hlater.newStart, hlater.newEnd, Option.map_some]
    refine ⟨hnew, fun bound hbound => ?_⟩
    obtain ⟨hfollows, hfinishes⟩ := h task (hsuccessor ▸ hget)
    obtain ⟨finish, hfinish, hle⟩ := hfinishes bound hbound
    rw [hfollows, hlater.start, Option.map_some] at hfinish
    cases hfinish
    exact ⟨_, hlater.newEnd, hle.trans (finishFrom_mono task.duration hlater.later.le)⟩
  · rw [get?_applyAction_of_ne hsuccessor] at hrow
    exact h row hrow

end

/-! ## What a move does to the conflicts -/

/-- The working days on which a task takes what it is assigned. -/
def taskDays (calendar : WorkCalendarEngine) : Option Date → Option Date → List Date
  | some start, some finish => iterWorkdays calendar start finish
  | _, _ => []

/-- What a task takes of a resource on each of its days. -/
def shareOf (assignments : List TaskAssignment) (taskId resourceId : String) : ℚ :=
  ((assignments.filter fun assignment =>
    assignment.taskId = taskId ∧ assignment.resourceId = resourceId).map
      fun assignment => max 0 assignment.allocationPercent).sum

section

variable (calendar : WorkCalendarEngine) (projectId : String) (thresholdPercent : ℚ)

/-- What the tasks without one of them take, the threshold, and what that task would add. -/
def othersOn (store : ProjectStore) (taskId : String) (position : String × Date) : ℚ :=
  bookedOn (bookings calendar (store.tasksOf projectId)
    ((store.assignmentsOf projectId).filter fun assignment => assignment.taskId ≠ taskId))
      position.1 position.2

def limitOf (store : ProjectStore) (resourceId : String) : ℚ :=
  (buildResourceNameMap store (store.assignmentsOf projectId) thresholdPercent).2.getD resourceId
    thresholdPercent + tolerance

/-- The resources and days, out of the list, that are over their limit only with the task. -/
def tippedOn (store : ProjectStore) (taskId : String) (days : List Date) :
    Finset (String × Date) :=
  let assignments := store.assignmentsOf projectId
  ((assignments.map TaskAssignment.resourceId).toFinset ×ˢ days.toFinset).filter fun position =>
    Tips (othersOn calendar projectId store taskId position)
      (limitOf projectId thresholdPercent store position.1)
      (shareOf assignments taskId position.1)

/-- The days that a moved task reaches, and those that it leaves. -/
def reachedDays (action : ResourceLevelingAction) : List Date :=
  (taskDays calendar action.newStart action.newEnd).filter
    (· ∉ taskDays calendar action.oldStart action.oldEnd)

def leftDays (action : ResourceLevelingAction) : List Date :=
  (taskDays calendar action.oldStart action.oldEnd).filter
    (· ∉ taskDays calendar action.newStart action.newEnd)

/-- The resources and days that a round overloads: a task that is carried there tips them. -/
def overloads (round : ProjectStore × ResourceLevelingAction) : ℕ :=
  (tippedOn calendar projectId thresholdPercent round.1 round.2.taskId
    (reachedDays calendar round.2)).card

/-- The resources and days that a round relieves: the task that is taken from there tipped them. -/
def relieves (round : ProjectStore × ResourceLevelingAction) : ℕ :=
  (tippedOn calendar projectId thresholdPercent round.1 round.2.taskId
    (leftDays calendar round.2)).card

/-- The moves that the rounds choose, each with what is stored before it. -/
def levelingRounds : ℕ → ProjectStore → List (ProjectStore × ResourceLevelingAction)
  | 0, _ => []
  | remaining + 1, store =>
      match nextShift calendar projectId thresholdPercent
        (buildSuccessorsMap (store.dependenciesOf projectId)) store with
      | .ok (some (task, action)) => (store, action) ::
          levelingRounds remaining { store with tasks := store.tasks.save task }
      | _ => []

end

section

variable {calendar : WorkCalendarEngine} {projectId : String} {thresholdPercent : ℚ}
  {store : ProjectStore} {action : ResourceLevelingAction} {tasks : TasksById}
  {assignments : List TaskAssignment} {task : Task}

theorem nodup_taskDays (start finish : Option Date) : (taskDays calendar start finish).Nodup := by
  unfold taskDays
  split
  · apply List.Nodup.filter
    apply List.Nodup.map _ List.nodup_range
    intro first second heq
    simpa using heq
  · exact List.nodup_nil

theorem bookTask_eq (assignment : TaskAssignment) : bookTask calendar assignment task =
    if assignment.allocationPercent ≤ 0 then []
    else (taskDays calendar task.startDate task.endDate).map fun day =>
      ⟨assignment.resourceId, day, task, assignment.allocationPercent⟩ := by
  unfold bookTask taskDays
  cases task.startDate <;> cases task.endDate <;> simp

theorem shareOf_nonneg (assignments : List TaskAssignment) (taskId resourceId : String) :
    0 ≤ shareOf assignments taskId resourceId := by
  apply List.sum_nonneg
  intro amount hamount
  obtain ⟨_, -, rfl⟩ := List.mem_map.mp hamount
  exact le_max_left _ _

theorem bookedOn_bookTask (assignment : TaskAssignment) (resourceId : String) (day : Date) :
    bookedOn (bookTask calendar assignment task) resourceId day =
      if assignment.resourceId = resourceId ∧ day ∈ taskDays calendar task.startDate task.endDate
      then max 0 assignment.allocationPercent else 0 := by
  rw [bookTask_eq]
  by_cases hnone : assignment.allocationPercent ≤ 0
  · rw [if_pos hnone, max_eq_left hnone, ite_self]
    rfl
  · rw [if_neg hnone, bookedOn_days (nodup_taskDays _ _), max_eq_right (not_le.mp hnone).le]

theorem bookedOn_eq_add_share {taskId : String} (hget : tasks.get? taskId = some task) (resourceId : String)
    (day : Date) : bookedOn (bookings calendar tasks assignments) resourceId day =
      bookedOn (bookings calendar tasks
        (assignments.filter fun assignment => assignment.taskId ≠ taskId)) resourceId day +
      if day ∈ taskDays calendar task.startDate task.endDate then
        shareOf assignments taskId resourceId else 0 := by
  induction assignments with
  | nil => simp [bookings, bookedOn, shareOf]
  | cons assignment rest ih =>
      rw [bookings, List.flatMap_cons, ← bookings, bookedOn_append, ih]
      by_cases htask : assignment.taskId = taskId
      · rw [htask, hget, Option.elim_some, bookedOn_bookTask]
        by_cases hresource : assignment.resourceId = resourceId
        · by_cases hday : day ∈ taskDays calendar task.startDate task.endDate <;>
            simp [shareOf, htask, hresource, hday]
          ring
        · simp [shareOf, htask, hresource]
      · simp [shareOf, htask, bookings, bookedOn_append, add_assoc]

theorem ids_tasksOf_applyAction (store : ProjectStore) (action : ResourceLevelingAction)
    (projectId : String) :
    (({ store with tasks := applyAction store.tasks action } : ProjectStore).tasksOf
      projectId).ids = (store.tasksOf projectId).ids := by
  have hidentity := congrArg (List.map Task.identity) (applyAction_withoutDates store.tasks action)
  rw [List.map_map, List.map_map] at hidentity
  rw [ids_tasksOf, ids_tasksOf]
  exact congrArg (fun entries => (List.filter _ entries).map Prod.fst) hidentity

theorem dependenciesOf_applyAction (store : ProjectStore) (action : ResourceLevelingAction)
    (projectId : String) :
    ({ store with tasks := applyAction store.tasks action } : ProjectStore).dependenciesOf
      projectId = store.dependenciesOf projectId := by
  unfold ProjectStore.dependenciesOf
  rw [ids_tasksOf_applyAction]

theorem assignmentsOf_applyAction (store : ProjectStore) (action : ResourceLevelingAction)
    (projectId : String) :
    ({ store with tasks := applyAction store.tasks action } : ProjectStore).assignmentsOf
      projectId = store.assignmentsOf projectId := by
  unfold ProjectStore.assignmentsOf
  rw [ids_tasksOf_applyAction]

/-- A move leaves what the other tasks book. -/
theorem bookings_applyAction (assignments : List TaskAssignment) :
    bookings calendar
        (({ store with tasks := applyAction store.tasks action } : ProjectStore).tasksOf projectId)
        (assignments.filter fun assignment => assignment.taskId ≠ action.taskId) =
      bookings calendar (store.tasksOf projectId)
        (assignments.filter fun assignment => assignment.taskId ≠ action.taskId) := by
  apply List.flatMap_congr
  intro assignment hassignment
  have hother := of_decide_eq_true (List.mem_filter.mp hassignment).2
  rw [get?_tasksOf, get?_tasksOf, get?_applyAction_of_ne hother]

theorem mem_tippedOn {taskId : String} {days : List Date} {position : String × Date} :
    position ∈ tippedOn calendar projectId thresholdPercent store taskId days ↔
      position.2 ∈ days ∧ Tips (othersOn calendar projectId store taskId position)
        (limitOf projectId thresholdPercent store position.1)
        (shareOf (store.assignmentsOf projectId) taskId position.1) := by
  rw [tippedOn, Finset.mem_filter, Finset.mem_product, List.mem_toFinset, List.mem_toFinset]
  constructor
  · rintro ⟨⟨-, hday⟩, htips⟩
    exact ⟨hday, htips⟩
  · rintro ⟨hday, htips⟩
    refine ⟨⟨?_, hday⟩, htips⟩
    by_contra hresource
    have hshare : shareOf (store.assignmentsOf projectId) taskId position.1 = 0 := by
      have hnone : ((store.assignmentsOf projectId).filter fun assignment =>
          assignment.taskId = taskId ∧ assignment.resourceId = position.1) = [] := by
        apply List.filter_eq_nil_iff.mpr
        intro assignment hassignment hkey
        exact hresource (List.mem_map.mpr ⟨assignment, hassignment, (of_decide_eq_true hkey).2⟩)
      rw [shareOf, hnone]
      rfl
    obtain ⟨hwithin, hexceeds⟩ := htips
    rw [hshare, add_zero] at hexceeds
    exact absurd hwithin hexceeds.not_ge

theorem conflicts_card {conflicts : List ResourceConflict}
    (h : previewResourceConflicts calendar store projectId thresholdPercent = .ok conflicts) :
    (conflicts.map ResourceConflict.position).toFinset.card = conflicts.length := by
  rw [List.toFinset_card_of_nodup, List.length_map]
  rw [previewResourceConflicts_eq_ok h]
  exact nodup_positions thresholdPercent

/-- A move changes the number of conflicts by what it overloads and what it relieves. -/
theorem length_conflicts_move {initial final : List ResourceConflict}
    (hmoves : MovesTask calendar (store.dependenciesOf projectId) projectId store.tasks action)
    (hinitial : previewResourceConflicts calendar store projectId thresholdPercent = .ok initial)
    (hfinal : previewResourceConflicts calendar
      { store with tasks := applyAction store.tasks action } projectId thresholdPercent =
        .ok final) :
    final.length + relieves calendar projectId thresholdPercent (store, action) =
      initial.length + overloads calendar projectId thresholdPercent (store, action) := by
  obtain ⟨task, old, new, hget, hmovable, hlater⟩ := hmoves
  have hproject := decide_eq_true hmovable.project
  have hbefore : (store.tasksOf projectId).get? action.taskId = some task := by
    rw [get?_tasksOf, hget, Option.filter_some, if_pos hproject]
  have hafter : (({ store with tasks := applyAction store.tasks action } : ProjectStore).tasksOf
      projectId).get? action.taskId =
        some { Task.movedBy task action with version := task.version + 1 } := by
    rw [get?_tasksOf, get?_applyAction_self hget, Option.filter_some]
    exact if_pos hproject
  have holdDays : taskDays calendar task.startDate task.endDate =
      taskDays calendar action.oldStart action.oldEnd := by
    rw [hlater.start, hlater.oldStart, hlater.oldEnd]
  rw [← conflicts_card hinitial, ← conflicts_card hfinal]
  apply card_over_of_moved (othersOn calendar projectId store action.taskId)
    (fun position => limitOf projectId thresholdPercent store position.1)
    (fun position => shareOf (store.assignmentsOf projectId) action.taskId position.1)
    (fun position => position.2 ∈ taskDays calendar action.oldStart action.oldEnd)
    (fun position => position.2 ∈ taskDays calendar action.newStart action.newEnd)
  · exact fun position => shareOf_nonneg _ _ _
  · intro position
    rw [List.mem_toFinset, List.mem_map, exists_previewed_iff hinitial,
      bookedOn_eq_add_share hbefore, holdDays]
    rfl
  · intro position
    rw [List.mem_toFinset, List.mem_map, exists_previewed_iff hfinal, assignmentsOf_applyAction,
      bookedOn_eq_add_share hafter, bookings_applyAction]
    rfl
  · exact fun position => mem_tippedOn.trans (and_congr (by simp [leftDays]) Iff.rfl)
  · exact fun position => mem_tippedOn.trans (and_congr (by simp [reachedDays]) Iff.rfl)

end

/-! ## Runs of the loop -/

/-- The run takes one store to another by its actions, each of which moves a task later. -/
structure LevelingRun (calendar : WorkCalendarEngine) (projectId : String) (before : ProjectStore)
    (actions : List ResourceLevelingAction) (after : ProjectStore) : Prop where
  moves : EachStep applyAction (MovesTask calendar (before.dependenciesOf projectId) projectId)
    before.tasks actions
  replayed : after = { before with tasks := stateAfterSteps applyAction before.tasks actions }

section

variable {calendar : WorkCalendarEngine} {projectId : String} {before after : ProjectStore}
  {action : ResourceLevelingAction} {actions : List ResourceLevelingAction}

theorem LevelingRun.refl (store : ProjectStore) :
    LevelingRun calendar projectId store [] store :=
  ⟨trivial, rfl⟩

theorem LevelingRun.cons
    (hmoves : MovesTask calendar (before.dependenciesOf projectId) projectId before.tasks action)
    (h : LevelingRun calendar projectId
      { before with tasks := applyAction before.tasks action } actions after) :
    LevelingRun calendar projectId before (action :: actions) after := by
  obtain ⟨hrest, hreplayed⟩ := h
  rw [dependenciesOf_applyAction] at hrest
  exact ⟨⟨hmoves, hrest⟩, hreplayed⟩

/-- The move of one round is committed, unless the commit is refused. -/
theorem saveTask_spec {store : PlatformStore} (task : Task)
    {returns : Unit → Session PlatformStore → Prop}
    {raises : DomainError → Session PlatformStore → Prop}
    (hreturns : ∀ next : PlatformStore,
      next.projects = { store.projects with tasks := store.projects.tasks.save task } →
        returns () (.clean next))
    (hraises : ∀ e, raises e (.clean store)) :
    (Program.rollingBack do
      writeProjects fun store => .ok { store with tasks := store.tasks.save task }
      commit).Spec (.clean store) returns raises := by
  rw [Program.spec_rollingBack, Program.spec_bind]
  change Program.Spec ServiceProgram.commit _ _ _
  rw [spec_commit]
  dsimp only
  generalize hpending : PlatformStore.flush _ = flushed
  cases flushed with
  | error e => exact hraises e
  | ok next =>
      obtain ⟨inventory, -, hnext⟩ := bind_ok hpending
      cases hnext
      exact hreturns _ rfl

/-- The conflicts change by what the rounds overload and what they relieve. -/
def ConflictsBalance (calendar : WorkCalendarEngine) (projectId : String) (thresholdPercent : ℚ)
    (rounds : List (ProjectStore × ResourceLevelingAction)) (before after : ProjectStore) : Prop :=
  ∀ initial final,
    previewResourceConflicts calendar before projectId thresholdPercent = .ok initial →
    previewResourceConflicts calendar after projectId thresholdPercent = .ok final →
      final.length + (rounds.map (relieves calendar projectId thresholdPercent)).sum =
        initial.length + (rounds.map (overloads calendar projectId thresholdPercent)).sum

theorem conflictsBalance_nil {thresholdPercent : ℚ} (store : ProjectStore) :
    ConflictsBalance calendar projectId thresholdPercent [] store store := by
  intro initial final hinitial hfinal
  rw [Except.ok.inj (hfinal.symm.trans hinitial)]
  rfl

theorem ConflictsBalance.cons {thresholdPercent : ℚ}
    {rounds : List (ProjectStore × ResourceLevelingAction)}
    (hmoves : MovesTask calendar (before.dependenciesOf projectId) projectId before.tasks action)
    (h : ConflictsBalance calendar projectId thresholdPercent rounds
      { before with tasks := applyAction before.tasks action } after) :
    ConflictsBalance calendar projectId thresholdPercent ((before, action) :: rounds) before
      after := by
  intro initial final hinitial hfinal
  obtain ⟨_, hpositive, -⟩ := bind_ok hinitial
  obtain ⟨middle, hmiddle⟩ := exists_previewResourceConflicts calendar
    { before with tasks := applyAction before.tasks action } projectId
    (ensure_eq_ok.mp hpositive)
  have hfirst := length_conflicts_move hmoves hinitial hmiddle
  have hrest := h middle final hmiddle hfinal
  rw [List.map_cons, List.map_cons, List.sum_cons, List.sum_cons]
  omega

/-- What the loop has done is the run of the actions that it has recorded. -/
theorem levelLoop_spec {thresholdPercent : ℚ} (remaining : ℕ) (state : LevelingState)
    (store : PlatformStore) :
    (levelLoop calendar projectId thresholdPercent
      (buildSuccessorsMap (store.projects.dependenciesOf projectId)) remaining state).Spec
      (.clean store)
      (fun last next => ∃ after actions, next = .clean after ∧
        LevelingRun calendar projectId store.projects actions after.projects ∧
        last.iterations = state.iterations + actions.length ∧
        last.actions = state.actions ++ actions ∧ actions.length ≤ remaining ∧
        ConflictsBalance calendar projectId thresholdPercent
          (levelingRounds calendar projectId thresholdPercent remaining store.projects)
          store.projects after.projects)
      (fun _ next => ∃ after actions, next = .clean after ∧
        LevelingRun calendar projectId store.projects actions after.projects) := by
  induction remaining generalizing state store with
  | zero => exact ⟨store, [], rfl, .refl _, rfl, (List.append_nil _).symm, le_rfl,
      conflictsBalance_nil _⟩
  | succ remaining ih =>
      rw [levelLoop, Program.spec_bind, spec_readProjects, Session.clean_pending, levelingRounds]
      cases hshift : nextShift calendar projectId thresholdPercent
          (buildSuccessorsMap (store.projects.dependenciesOf projectId)) store.projects with
      | error e => exact ⟨store, [], rfl, .refl _⟩
      | ok shift =>
          cases shift with
          | none =>
              exact ⟨store, [], rfl, .refl _, rfl, (List.append_nil _).symm, Nat.zero_le _,
                conflictsBalance_nil _⟩
          | some moved =>
              obtain ⟨task, action⟩ := moved
              obtain ⟨hmoves, hsave⟩ := nextShift_ok hshift
              dsimp only
              rw [Program.spec_bind, hsave]
              refine saveTask_spec task (fun next hnext => ?_) fun _ => ⟨store, [], rfl, .refl _⟩
              rw [hsave] at hnext
              have hrest := ih { iterations := state.iterations + 1
                                 actions := state.actions ++ [action] } next
              rw [hnext, dependenciesOf_applyAction] at hrest
              refine hrest.mono ?_ ?_
              · rintro last session ⟨after, actions, rfl, hrun, hiterations, hactions, hle, hbalance⟩
                refine ⟨after, action :: actions, rfl, hrun.cons hmoves, ?_, ?_, ?_,
                  hbalance.cons hmoves⟩
                · rw [hiterations, List.length_cons]
                  dsimp only
                  omega
                · rw [hactions, List.append_assoc]
                  rfl
                · exact Nat.succ_le_succ hle
              · rintro e session ⟨after, actions, rfl, hrun⟩
                exact ⟨after, action :: actions, rfl, hrun.cons hmoves⟩

/-- A call that returns has run the loop between its two previews. -/
theorem autoLevelResources_spec (calendar : WorkCalendarEngine) (projectId : String)
    (thresholdPercent : ℚ) (maxIterations : ℤ) (store : PlatformStore) :
    (autoLevelResources calendar projectId thresholdPercent maxIterations).Spec (.clean store)
      (fun result next => ∃ after initialConflicts finalConflicts, next = .clean after ∧
        LevelingRun calendar projectId store.projects result.actions after.projects ∧
        previewResourceConflicts calendar store.projects projectId thresholdPercent =
          .ok initialConflicts ∧
        previewResourceConflicts calendar after.projects projectId thresholdPercent =
          .ok finalConflicts ∧
        result.conflictsBefore = initialConflicts.length ∧
        result.conflictsAfter = finalConflicts.length ∧
        result.iterations = result.actions.length ∧ (result.iterations : ℤ) ≤ maxIterations ∧
        ConflictsBalance calendar projectId thresholdPercent
          (levelingRounds calendar projectId thresholdPercent maxIterations.toNat store.projects)
          store.projects after.projects)
      (fun _ next => ∃ after actions, next = .clean after ∧
        LevelingRun calendar projectId store.projects actions after.projects) := by
  rw [autoLevelResources, Program.spec_bind, spec_readProjects]
  cases hpositive : (ensure (0 < maxIterations) (validationError "max_iterations must be positive."
      "RESOURCE_LEVELING_INVALID_ITERATIONS") : Except DomainError Unit) with
  | error e => exact ⟨store, [], rfl, .refl _⟩
  | ok _ =>
      dsimp only
      rw [Program.spec_bind, spec_readProjects, Session.clean_pending]
      cases hinitial : previewResourceConflicts calendar store.projects projectId
          thresholdPercent with
      | error e => exact ⟨store, [], rfl, .refl _⟩
      | ok initialConflicts =>
          dsimp only
          rw [Program.spec_bind, spec_readProjects, Session.clean_pending]
          dsimp only
          rw [Program.spec_bind]
          refine (levelLoop_spec maxIterations.toNat {} store).mono ?_ fun _ _ => id
          rintro last next ⟨after, actions, rfl, hrun, hiterations, hactions, hle, hbalance⟩
          rw [Nat.zero_add] at hiterations
          rw [List.nil_append] at hactions
          rw [Program.spec_bind, spec_readProjects, Session.clean_pending]
          cases hfinal : previewResourceConflicts calendar after.projects projectId
              thresholdPercent with
          | error e => exact ⟨after, actions, rfl, hrun⟩
          | ok finalConflicts =>
              have hpositive := ensure_eq_ok.mp hpositive
              refine ⟨after, initialConflicts, finalConflicts, rfl, hactions ▸ hrun, rfl,
                hfinal, rfl, rfl, hactions ▸ hiterations, ?_, hbalance⟩
              change (last.iterations : ℤ) ≤ maxIterations
              omega

end

/-! ## The frame -/

/-- What leveling may do to a project: it changes the dates of tasks that may be moved, next to the
version that every update counts, and whatever bound of a link was met is still met. -/
structure LeveledTasks (calendar : WorkCalendarEngine) (projectId : String)
    (before after : ProjectStore) : Prop where
  onlyTasks : after = { before with tasks := after.tasks }
  onlyDates : after.tasks.rows.map Task.withoutDates = before.tasks.rows.map Task.withoutDates
  fixed : ∀ task ∈ before.tasks.rows,
    ¬ Movable (before.dependenciesOf projectId) projectId task → task ∈ after.tasks.rows
  starts : ∀ dep ∈ before.dependenciesOf projectId, StartsInTime calendar before.tasks dep →
    StartsInTime calendar after.tasks dep
  finishes : ∀ dep ∈ before.dependenciesOf projectId, FinishesInTime calendar before.tasks dep →
    FinishesInTime calendar after.tasks dep

theorem LevelingRun.leveledTasks {calendar : WorkCalendarEngine} {projectId : String}
    {before after : ProjectStore} {actions : List ResourceLevelingAction}
    (h : LevelingRun calendar projectId before actions after) :
    LeveledTasks calendar projectId before after := by
  obtain ⟨hmoves, rfl⟩ := h
  constructor
  · rfl
  · exact hmoves.keeps
      (fun tasks => tasks.rows.map Task.withoutDates = before.tasks.rows.map Task.withoutDates)
      (fun tasks action _ h => (applyAction_withoutDates tasks action).trans h) rfl
  · intro task htask hfixed
    exact hmoves.keeps (fun tasks => task ∈ tasks.rows)
      (fun _ _ hmove h => mem_applyAction hmove hfixed h) htask
  · intro dep hdep hstarts
    exact hmoves.keeps (fun tasks => StartsInTime calendar tasks dep)
      (fun _ _ hmove h => h.applyAction hmove hdep) hstarts
  · intro dep hdep hfinishes
    exact hmoves.keeps (fun tasks => FinishesInTime calendar tasks dep)
      (fun _ _ hmove h => h.applyAction hmove hdep) hfinishes

/-- Leveling only moves tasks that may be moved, each time later, no more often than it is allowed
to, and past no link. -/
theorem autoLevelResources_frame (calendar : WorkCalendarEngine) (projectId : String)
    (thresholdPercent : ℚ) (maxIterations : ℤ) (store : PlatformStore) :
    (autoLevelResources calendar projectId thresholdPercent maxIterations).Spec (.clean store)
      (fun result next => ∃ after, next = .clean after ∧
        LeveledTasks calendar projectId store.projects after.projects ∧
        LevelingRun calendar projectId store.projects result.actions after.projects ∧
        result.iterations = result.actions.length ∧ (result.iterations : ℤ) ≤ maxIterations)
      (fun _ next => ∃ after, next = .clean after ∧
        LeveledTasks calendar projectId store.projects after.projects) := by
  refine (autoLevelResources_spec calendar projectId thresholdPercent maxIterations store).mono
    ?_ ?_
  · rintro result next ⟨after, _, _, rfl, hrun, -, -, -, -, hiterations, hle, -⟩
    exact ⟨after, rfl, hrun.leveledTasks, hrun, hiterations, hle⟩
  · rintro e next ⟨after, actions, rfl, hrun⟩
    exact ⟨after, rfl, hrun.leveledTasks⟩

/-! ## What a run does to the conflicts -/

end Leveling

end ProjectManager
