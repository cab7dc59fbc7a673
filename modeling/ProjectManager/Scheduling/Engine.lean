import Mathlib.Order.Lattice
import ProjectManager.Foundation.OrderedEvaluation
import ProjectManager.Scheduling.Graph

/-! # The scheduling engine

The forward pass computes earliest dates along the topological order, the
backward pass latest dates against it. The two dictionaries of start and finish
dates are one table here, since the source always assigns both entries of a
task together.
-/

namespace ProjectManager

open Foundation

structure TaskDates where
  start : Option Date
  finish : Option Date
  deriving DecidableEq, Repr

def TaskDates.undated : TaskDates := ⟨none, none⟩

abbrev DateTable := String → TaskDates

section

variable (calendar : WorkCalendarEngine)

/-! ## Earliest dates of one task -/

/-- The date that a link passes on from the dates of its predecessor: a start
date for FS and SS, a finish date for FF and SF. With day-grain dates an FS
successor starts the working day after the finish when the lag is zero. -/
def linkDate (dates : DateTable) (dep : TaskDependency) : Option Date :=
  let pred := dates dep.predecessorTaskId
  match dep.dependencyType with
  | .finishToStart => pred.finish.map fun d => calendar.addWorkingDays d (dep.lagDays + 2)
  | .startToStart => pred.start.map fun d => calendar.addWorkingDays d dep.lagDays
  | .finishToFinish => pred.finish.map fun d => calendar.addWorkingDays d dep.lagDays
  | .startToFinish => pred.start.map fun d => calendar.addWorkingDays d dep.lagDays

/-- The start date that a link asks of a task with a positive duration. -/
def startCandidate (duration : ℤ) (dates : DateTable) (dep : TaskDependency) : Option Date :=
  match dep.dependencyType with
  | .finishToStart | .startToStart => linkDate calendar dates dep
  | .finishToFinish | .startToFinish => (linkDate calendar dates dep).map fun finish =>
      if duration > 0 then calendar.addWorkingDays finish (-(duration - 1)) else finish

def computeDatesMilestone (task : Task) (incoming : List TaskDependency) (dates : DateTable) :
    TaskDates :=
  if incoming.isEmpty then ⟨task.startDate, task.startDate⟩
  else
    match (incoming.filterMap (linkDate calendar dates)).max? with
    | none => ⟨task.startDate, task.startDate⟩
    | some start => ⟨some start, some start⟩

def computeDatesWithDuration (task : Task) (incoming : List TaskDependency) (dates : DateTable)
    (duration : ℤ) : TaskDates :=
  let fromStart := fun start => (⟨some start, some (calendar.addWorkingDays start duration)⟩ : TaskDates)
  if incoming.isEmpty then (task.startDate.map fromStart).getD .undated
  else
    match (incoming.filterMap (startCandidate calendar duration dates)).max? with
    | none => (task.startDate.map fromStart).getD .undated
    | some start => fromStart start

/-- Recorded actual dates override the computed ones: an actual end fixes the
finish, an actual start alone can only delay the start. -/
def applyActualConstraints (task : Task) (dates : TaskDates) (duration : ℤ) : TaskDates :=
  match task.actualEnd with
  | some finish =>
      match task.actualStart with
      | some start => ⟨some start, some finish⟩
      | none =>
          ⟨some (if duration > 0 then calendar.addWorkingDays finish (-(duration - 1)) else finish),
            some finish⟩
  | none =>
      match task.actualStart with
      | none => dates
      | some actualStart =>
          if dates.start.all fun start => actualStart > start then
            ⟨some actualStart, some (if duration ≤ 0 then actualStart
              else calendar.addWorkingDays actualStart duration)⟩
          else dates

def computeTaskDates (task : Task) (incoming : List TaskDependency) (dates : DateTable) :
    TaskDates :=
  let duration := task.duration
  let computed := if duration ≤ 0 then computeDatesMilestone calendar task incoming dates
    else computeDatesWithDuration calendar task incoming dates duration
  applyActualConstraints calendar task computed duration

/-! ## The passes -/

section

variable (project : TasksById) (graph : DependencyGraph)

/-- What one iteration of the forward pass assigns. -/
def forwardRule (computeTaskDates : Task → List TaskDependency → DateTable → TaskDates)
    (id : String) (own : TaskDates) (dates : DateTable) : TaskDates :=
  match project.get? id with
  | some task => computeTaskDates task (graph.depsBySuccessor id) dates
  | none => own

def finishDates (dates : DateTable) : List Date :=
  project.tasks.filterMap fun task => (dates task.id).finish

def noFinishDates : DomainError where
  errorClass := .validationError
  message := "No computed finish dates; ensure tasks have durations or start dates."

def runForwardPass (computeTaskDates : Task → List TaskDependency → DateTable → TaskDates) :
    Except DomainError (DateTable × Date) :=
  let dates := evaluate (forwardRule project graph computeTaskDates) graph.topoOrder
    fun _ => .undated
  match (finishDates project dates).max? with
  | none => .error noFinishDates
  | some projectEarlyFinish => .ok (dates, projectEarlyFinish)

/-- The latest finish that an FS or FF link leaves its predecessor. The FS case
is the inverse of the forward rule. -/
def lateFinishCandidate (late : DateTable) (dep : TaskDependency) : Option Date :=
  let succ := late dep.successorTaskId
  match dep.dependencyType with
  | .finishToStart => succ.start.map fun d => calendar.addWorkingDays d (-(dep.lagDays + 1))
  | .finishToFinish => succ.finish.map fun d => calendar.addWorkingDays d (-dep.lagDays)
  | .startToStart | .startToFinish => none

/-- The latest start that an SS or SF link leaves its predecessor. -/
def lateStartCandidate (late : DateTable) (dep : TaskDependency) : Option Date :=
  let succ := late dep.successorTaskId
  match dep.dependencyType with
  | .startToStart => succ.start.map fun d => calendar.addWorkingDays d (-dep.lagDays)
  | .startToFinish => succ.finish.map fun d => calendar.addWorkingDays d (-dep.lagDays)
  | .finishToStart | .finishToFinish => none

def fromLateFinish (duration : ℤ) (finish : Date) : TaskDates :=
  ⟨some (if duration > 0 then calendar.addWorkingDays finish (-(duration - 1)) else finish),
    some finish⟩

def fromLateStart (duration : ℤ) (start : Date) : TaskDates :=
  ⟨some start,
    some (if duration > 0 then calendar.addWorkingDays start (duration - 1) else start)⟩

def endTaskDates (projectEarlyFinish : Date) (id : String) : TaskDates :=
  match project.get? id with
  | some task =>
      if (graph.depsByPredecessor id).isEmpty then
        fromLateFinish calendar task.duration projectEarlyFinish
      else .undated
  | none => .undated

/-- What one iteration of the backward pass assigns. -/
def backwardRule (early : DateTable) (id : String) (own : TaskDates) (late : DateTable) :
    TaskDates :=
  match project.get? id with
  | none => own
  | some task =>
      let outgoing := graph.depsByPredecessor id
      if outgoing.isEmpty then
        if own.start.isNone ∧ (early id).start.isSome then early id else own
      else
        match (outgoing.filterMap (lateFinishCandidate calendar late)).min? with
        | some finish => fromLateFinish calendar task.duration finish
        | none =>
            match (outgoing.filterMap (lateStartCandidate calendar late)).min? with
            | some start => fromLateStart calendar task.duration start
            | none => if (early id).start.isSome then early id else own

def runBackwardPass (early : DateTable) (projectEarlyFinish : Date) : DateTable :=
  evaluate (backwardRule calendar project graph early) graph.topoOrder.reverse
    (endTaskDates calendar project graph projectEarlyFinish)

end

/-! ## The result -/

structure CPMTaskInfo where
  task : Task
  earliestStart : Option Date
  earliestFinish : Option Date
  latestStart : Option Date
  latestFinish : Option Date
  totalFloatDays : Option ℤ
  isCritical : Bool
  deadline : Option Date
  lateByDays : Option ℕ
  deriving DecidableEq

def totalFloat : Option Date → Option Date → Option ℤ
  | some earlyStart, some lateStart =>
      if lateStart < earlyStart then some 0
      else some (max 0 ((calendar.workingDaysBetween earlyStart lateStart : ℤ) - 1))
  | _, _ => none

def lateBy (deadline earlyFinish : Option Date) : Option ℕ :=
  match deadline, earlyFinish with
  | some deadline, some finish =>
      if finish > deadline then
        some (calendar.workingDaysBetween (calendar.addWorkingDays deadline 1) finish)
      else none
  | _, _ => none

def scheduleInfo (early late : DateTable) (task : Task) : CPMTaskInfo :=
  let earlyDates := early task.id
  let lateDates := late task.id
  let float := totalFloat calendar earlyDates.start lateDates.start
  { task :=
      { task with
        startDate := if task.actualStart.isNone then earlyDates.start else task.startDate
        endDate := if task.actualEnd.isNone then earlyDates.finish else task.endDate }
    earliestStart := earlyDates.start
    earliestFinish := earlyDates.finish
    latestStart := lateDates.start
    latestFinish := lateDates.finish
    totalFloatDays := float
    isCritical := float = some 0
    deadline := task.deadline
    lateByDays := lateBy calendar task.deadline earlyDates.finish }

def buildScheduleResult (project : TasksById) (early late : DateTable) : List CPMTaskInfo :=
  project.tasks.map (scheduleInfo calendar early late)

/-- Lower number, higher priority; the stored priority is an integer. -/
def priorityValue (task : Task) : ℤ := task.priority

/-- The computation of `recalculate_project_schedule`, without the update of the
stored tasks. -/
def recalculateProjectSchedule (project : TasksById) (deps : List TaskDependency) :
    Except DomainError (List CPMTaskInfo) :=
  if project.tasks.isEmpty then .ok []
  else do
    let graph ← buildProjectDependencyGraph project priorityValue deps
    let (early, projectEarlyFinish) ←
      runForwardPass project graph (computeTaskDates calendar)
    let late := runBackwardPass calendar project graph early projectEarlyFinish
    return buildScheduleResult calendar project early late

end

end ProjectManager
