import ProjectManager.Domain.Text
import ProjectManager.Foundation.Calls
import ProjectManager.Foundation.PathSearch
import ProjectManager.Scheduling.Engine

/-! # Diagnostics of a proposed dependency

Before a link is added it is checked against the stored links of the project,
and the schedules without and with it are simulated on copies of the tasks. The
simulation has its own copy of the date computation.
-/

namespace ProjectManager

open Foundation

/-- The predecessor and the successor of every dependency. -/
def links (deps : List TaskDependency) : List (String × String) :=
  deps.map fun dep => (dep.predecessorTaskId, dep.successorTaskId)

structure DependencyImpactRow where
  taskId : String
  taskName : String
  beforeStart : Option Date
  beforeFinish : Option Date
  afterStart : Option Date
  afterFinish : Option Date
  startShiftDays : Option ℤ
  finishShiftDays : Option ℤ
  tracePath : String
  deriving DecidableEq

structure DependencyDiagnostic where
  isValid : Bool
  code : String
  summary : String
  detail : String
  predecessorTaskId : String
  successorTaskId : String
  dependencyType : DependencyType
  lagDays : ℤ
  impactRows : List DependencyImpactRow
  suggestions : List String
  riskLevel : String := "unknown"
  deriving DecidableEq

/-! ## The simulation -/

namespace DependencyPreview

section

variable (calendar : WorkCalendarEngine)

def computeDatesMilestone (task : Task) (incoming : List TaskDependency) (dates : DateTable) :
    TaskDates :=
  let own : TaskDates := ⟨task.startDate, task.startDate⟩
  if incoming.isEmpty then own
  else
    let candidates := incoming.filterMap fun dep =>
      let pred := dates dep.predecessorTaskId
      match dep.dependencyType with
      | .finishToStart => pred.finish.map fun d => calendar.addWorkingDays d (dep.lagDays + 2)
      | .startToStart => pred.start.map fun d => calendar.addWorkingDays d dep.lagDays
      | .finishToFinish => pred.finish.map fun d => calendar.addWorkingDays d dep.lagDays
      | .startToFinish => pred.start.map fun d => calendar.addWorkingDays d dep.lagDays
    match candidates.max? with
    | none => own
    | some start => ⟨some start, some start⟩

def computeDatesWithDuration (task : Task) (incoming : List TaskDependency) (dates : DateTable)
    (duration : ℤ) : TaskDates :=
  let own : TaskDates :=
    match task.startDate with
    | none => .undated
    | some start => ⟨some start, some (calendar.addWorkingDays start duration)⟩
  if incoming.isEmpty then own
  else
    let fromFinish := fun finish : Date => calendar.addWorkingDays finish (-(duration - 1))
    let candidates := incoming.filterMap fun dep =>
      let pred := dates dep.predecessorTaskId
      match dep.dependencyType with
      | .finishToStart => pred.finish.map fun d => calendar.addWorkingDays d (dep.lagDays + 2)
      | .startToStart => pred.start.map fun d => calendar.addWorkingDays d dep.lagDays
      | .finishToFinish =>
          pred.finish.map fun d => fromFinish (calendar.addWorkingDays d dep.lagDays)
      | .startToFinish =>
          pred.start.map fun d => fromFinish (calendar.addWorkingDays d dep.lagDays)
    match candidates.max? with
    | none => own
    | some start => ⟨some start, some (calendar.addWorkingDays start duration)⟩

def applyActualConstraints (task : Task) (dates : TaskDates) (duration : ℤ) : TaskDates :=
  match task.actualEnd, task.actualStart with
  | some finish, some start => ⟨some start, some finish⟩
  | some finish, none =>
      ⟨some (if duration > 0 then calendar.addWorkingDays finish (-(duration - 1)) else finish),
        some finish⟩
  | none, some actualStart =>
      if dates.start = none ∨ ∃ start ∈ dates.start, actualStart > start then
        ⟨some actualStart, some (if duration ≤ 0 then actualStart
          else calendar.addWorkingDays actualStart duration)⟩
      else dates
  | none, none => dates

/-- `_compute_task_dates_for_preview`. -/
def computeTaskDates (task : Task) (incoming : List TaskDependency) (dates : DateTable) :
    TaskDates :=
  let duration := task.duration
  let computed := if duration ≤ 0 then computeDatesMilestone calendar task incoming dates
    else computeDatesWithDuration calendar task incoming dates duration
  applyActualConstraints calendar task computed duration

/-- `_priority_value_for_preview`, for the integer that is stored. -/
def priorityValue (task : Task) : ℤ := task.priority

/-- The schedule of copies of the tasks. -/
def simulateSchedule (tasks : TasksById) (deps : List TaskDependency) :
    Except DomainError (List CPMTaskInfo) := do
  let graph ← buildProjectDependencyGraph tasks priorityValue deps
  let (early, projectEarlyFinish) ← runForwardPass tasks graph (computeTaskDates calendar)
  let late := runBackwardPass calendar tasks graph early projectEarlyFinish
  return buildScheduleResult calendar tasks early late

end

end DependencyPreview

/-! ## The impact of a link -/

/-- `(after - before).days` when both dates are given. -/
def shiftDays (before after : Option Date) : Option ℤ :=
  match before, after with
  | some before, some after => some (after - before)
  | _, _ => none

def DependencyImpactRow.maxShift (row : DependencyImpactRow) : ℕ :=
  max (row.startShiftDays.getD 0).natAbs (row.finishShiftDays.getD 0).natAbs

def scheduleEntry (schedule : List CPMTaskInfo) (taskId : String) : Option CPMTaskInfo :=
  schedule.find? fun info => info.task.id = taskId

section

variable (projected : List CPMTaskInfo) (trace : Trace String) (predecessorId : String)

def impactTracePath (after : CPMTaskInfo) : String :=
  if after.task.id = predecessorId then "Predecessor task context"
  else
    match trace.pathTo after.task.id with
    | some ids => String.intercalate " -> " (ids.map fun id =>
        ((scheduleEntry projected id).map fun info => info.task.name).getD id)
    | none => after.task.name

/-- The row of a task whose dates change. -/
def impactRow (before : CPMTaskInfo) : Option DependencyImpactRow :=
  match scheduleEntry projected before.task.id with
  | none => none
  | some after =>
      let startShift := shiftDays before.earliestStart after.earliestStart
      let finishShift := shiftDays before.earliestFinish after.earliestFinish
      if before.earliestStart ≠ after.earliestStart ∨
          before.earliestFinish ≠ after.earliestFinish ∨
          startShift.getD 0 ≠ 0 ∨ finishShift.getD 0 ≠ 0 then
        some {
          taskId := before.task.id
          taskName := after.task.name
          beforeStart := before.earliestStart
          beforeFinish := before.earliestFinish
          afterStart := after.earliestStart
          afterFinish := after.earliestFinish
          startShiftDays := startShift
          finishShiftDays := finishShift
          tracePath := impactTracePath projected trace predecessorId after }
      else none

end

/-- The order of the rows: the largest shift first, then by name. -/
def DependencyImpactRow.le (first second : DependencyImpactRow) : Bool :=
  first.maxShift > second.maxShift ∨
    (first.maxShift = second.maxShift ∧ lower first.taskName ≤ lower second.taskName)

def buildImpactRows (current projected : List CPMTaskInfo) (deps : List TaskDependency)
    (predecessorId successorId : String) : List DependencyImpactRow :=
  let trace := tracePaths (links deps) successorId
  (current.filterMap (impactRow projected trace predecessorId)).mergeSort DependencyImpactRow.le

def impactRiskLevel (maxDelay impactedCount : ℕ) : String :=
  if maxDelay ≤ 1 ∧ impactedCount ≤ 2 then "low"
  else if maxDelay ≤ 3 ∧ impactedCount ≤ 5 then "medium"
  else "high"

/-! ## The diagnostics -/

section

variable (dep : TaskDependency)

def invalidDiagnostic (code summary detail : String) (suggestions : List String) :
    DependencyDiagnostic where
  isValid := false
  code := code
  summary := summary
  detail := detail
  predecessorTaskId := dep.predecessorTaskId
  successorTaskId := dep.successorTaskId
  dependencyType := dep.dependencyType
  lagDays := dep.lagDays
  impactRows := []
  suggestions := suggestions
  riskLevel := "blocked"

def validDiagnostic (summary detail : String) (impactRows : List DependencyImpactRow)
    (suggestions : List String) (riskLevel : String) : DependencyDiagnostic where
  isValid := true
  code := "DEPENDENCY_VALID"
  summary := summary
  detail := detail
  predecessorTaskId := dep.predecessorTaskId
  successorTaskId := dep.successorTaskId
  dependencyType := dep.dependencyType
  lagDays := dep.lagDays
  impactRows := impactRows
  suggestions := suggestions
  riskLevel := riskLevel

/-- The cycle that a link would close, from its predecessor round to it again. -/
def findCyclePathIds (deps : List TaskDependency) (predecessorId successorId : String) :
    Option (List String) :=
  (findPath (links deps) predecessorId successorId).map fun path => predecessorId :: path

/-- The diagnostic that names the tasks on a cycle. -/
def cycleDiagnostic (store : ProjectStore) (projectId : String) (cyclePathIds : List String) :
    DependencyDiagnostic :=
  let cycleNames := cyclePathIds.map fun id =>
    (((store.tasksOf projectId).get? id).map Task.name).getD id
  invalidDiagnostic dep "DEPENDENCY_CYCLE" "This link would create a circular dependency."
    ("Cycle path: " ++ String.intercalate " -> " cycleNames)
    ["Reverse the dependency direction if the business flow allows it.",
      "Insert an intermediate task/milestone to break the loop."]

/-- The checks of a proposed link, which fail with the diagnostic of what makes it invalid. A
link that passes belongs to the project of its predecessor. -/
def checkDependency (store : ProjectStore) : Except DependencyDiagnostic Task := do
  let predecessorId := dep.predecessorTaskId
  let successorId := dep.successorTaskId
  ensure (predecessorId ≠ successorId)
    (invalidDiagnostic dep "DEPENDENCY_SELF" "A task cannot depend on itself."
      "Select two different tasks for predecessor and successor."
      ["Pick a different predecessor or successor task.",
        "Use task hierarchy/subtasks instead of self-links for decomposition."])
  let predecessor ← require (store.tasks.get? predecessorId)
    (invalidDiagnostic dep "TASK_NOT_FOUND" "Predecessor task not found."
      ("Task id '" ++ predecessorId ++ "' does not exist.")
      ["Refresh task list and reselect predecessor task."])
  let successor ← require (store.tasks.get? successorId)
    (invalidDiagnostic dep "TASK_NOT_FOUND" "Successor task not found."
      ("Task id '" ++ successorId ++ "' does not exist.")
      ["Refresh task list and reselect successor task."])
  ensure (predecessor.projectId = successor.projectId)
    (invalidDiagnostic dep "DEPENDENCY_CROSS_PROJECT" "Tasks are in different projects."
      "Dependencies are allowed only between tasks in the same project."
      ["Create dependencies only within the same project plan.",
        "Use milestone handoff tasks if cross-project coordination is needed."])
  let deps := store.dependenciesOf predecessor.projectId
  ensure ((predecessorId, successorId) ∉ links deps)
    (invalidDiagnostic dep "DEPENDENCY_DUPLICATE" "Dependency already exists."
      "The selected predecessor->successor relationship already exists."
      ["This relationship already exists; update lag/type on existing dependency if needed.",
        "Use diagnostics to test another direction/type before saving."])
  whenGiven (findCyclePathIds deps predecessorId successorId) fun cyclePathIds =>
    .error (cycleDiagnostic dep store predecessor.projectId cyclePathIds)
  return predecessor

def signedDays (days : ℤ) : String :=
  (if 0 ≤ days then "+" else "-") ++ toString days.natAbs

/-- What is said of a valid link whose impact was simulated. -/
def impactDiagnostic (impactRows : List DependencyImpactRow) : DependencyDiagnostic :=
  match (impactRows.map DependencyImpactRow.maxShift).max? with
  | none =>
      validDiagnostic dep "Dependency is valid. No schedule shift detected."
        "No task start/finish date changed in the current schedule simulation." []
        ["You can apply this dependency with low scheduling risk."] "none"
  | some maxDelay =>
      let topItems := String.intercalate ", " ((impactRows.take 3).filterMap fun row =>
        row.finishShiftDays.map fun days => row.taskName ++ " (" ++ signedDays days ++ "d)")
      validDiagnostic dep
        ("Dependency is valid. " ++ toString impactRows.length ++ " task(s) would shift.")
        ("Maximum predicted shift: " ++ toString maxDelay ++ " day(s)." ++
          (if topItems = "" then "" else " Most affected: " ++ topItems ++ "."))
        impactRows
        ["Review impacted successor chain before saving.",
          "If delay is too high, consider another dependency type or lag adjustment."]
        (impactRiskLevel maxDelay impactRows.length)

/-- `get_dependency_diagnostics` of the link, on the stored rows. -/
def getDependencyDiagnostics (calendar : WorkCalendarEngine) (includeImpact : Bool)
    (store : ProjectStore) : Except DomainError DependencyDiagnostic :=
  match checkDependency dep store with
  | .error fault => .ok fault
  | .ok predecessor =>
      if includeImpact = false then
        .ok (validDiagnostic dep "Dependency is valid."
          "Validation passed: no cycle, no duplicate, and project boundaries are respected." [] []
          "none")
      else do
        let tasks := store.tasksOf predecessor.projectId
        let deps := store.dependenciesOf predecessor.projectId
        let current ← DependencyPreview.simulateSchedule calendar tasks deps
        let projected ← DependencyPreview.simulateSchedule calendar tasks (deps ++ [dep])
        return impactDiagnostic dep
          (buildImpactRows current projected (deps ++ [dep]) dep.predecessorTaskId
            dep.successorTaskId)

end

end ProjectManager
