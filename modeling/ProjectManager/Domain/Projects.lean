import Mathlib.Data.Rat.Defs
import ProjectManager.Calendar.Engine
import ProjectManager.Foundation.Tables

/-! # Projects

Tasks with their dependencies, and the rows that the project services read and write,
with the amounts of money and the hours as rational numbers.
-/

namespace ProjectManager

open Foundation

inductive TaskStatus
  | todo
  | inProgress
  | blocked
  | done
  deriving DecidableEq, Repr

inductive DependencyType
  | finishToStart
  | finishToFinish
  | startToStart
  | startToFinish
  deriving DecidableEq, Repr

structure Task where
  id : String
  projectId : String
  name : String
  description : String := ""
  startDate : Option Date := none
  endDate : Option Date := none
  durationDays : Option ℤ := none
  status : TaskStatus := .todo
  priority : ℤ := 0
  percentComplete : ℚ := 0
  actualStart : Option Date := none
  actualEnd : Option Date := none
  deadline : Option Date := none
  version : ℤ := 1
  deriving DecidableEq

/-- `task.duration_days or 0`. -/
def Task.duration (task : Task) : ℤ := task.durationDays.getD 0

structure TaskDependency where
  id : String
  predecessorTaskId : String
  successorTaskId : String
  dependencyType : DependencyType := .finishToStart
  lagDays : ℤ := 0
  deriving DecidableEq, Repr

/-- The dictionary `tasks_by_id`: task ids are primary keys. -/
abbrev TasksById := Table Task.id

/-- The tasks of the dictionary in the order of its keys. -/
abbrev TasksById.tasks (project : TasksById) : List Task := project.rows

theorem TasksById.length_ids (project : TasksById) : project.ids.length = project.tasks.length :=
  List.length_map Task.id

end ProjectManager

namespace ProjectManager

open Foundation

/-- The work allocations of the project management module. -/
structure TaskAssignment where
  id : String
  taskId : String
  resourceId : String
  hoursLogged : ℚ := 0
  allocationPercent : ℚ := 100
  projectResourceId : Option String := none
  deriving DecidableEq

inductive CostType
  | labor
  | material
  | overhead
  | equipment
  | contingency
  | subcontract
  | other
  deriving DecidableEq, Repr

def CostType.value : CostType → String
  | .labor => "LABOR"
  | .material => "MATERIAL"
  | .overhead => "OVERHEAD"
  | .equipment => "EQUIPMENT"
  | .contingency => "CONTINGENCY"
  | .subcontract => "SUBCONTRACT"
  | .other => "OTHER"

inductive WorkerType
  | employee
  | external
  deriving DecidableEq, Repr

structure Resource where
  id : String
  name : String
  hourlyRate : ℚ := 0
  isActive : Bool := true
  currencyCode : Option String := none
  capacityPercent : ℚ := 100
  role : String := ""
  costType : CostType := .labor
  version : ℤ := 1
  address : String := ""
  contact : String := ""
  workerType : WorkerType := .external
  employeeId : Option String := none
  deriving DecidableEq

inductive ProjectStatus
  | planned
  | active
  | onHold
  | completed
  deriving DecidableEq, Repr

def ProjectStatus.value : ProjectStatus → String
  | .planned => "PLANNED"
  | .active => "ACTIVE"
  | .onHold => "ON_HOLD"
  | .completed => "COMPLETED"

/-- A project; its dates bound the dates of its tasks. -/
structure Project where
  id : String
  startDate : Option Date := none
  endDate : Option Date := none
  name : String := ""
  plannedBudget : Option ℚ := none
  currency : Option String := none
  description : String := ""
  status : ProjectStatus := .planned
  clientName : Option String := none
  clientContact : Option String := none
  version : ℤ := 1
  deriving DecidableEq

structure ProjectResource where
  id : String
  projectId : String
  resourceId : String
  hourlyRate : Option ℚ := none
  currencyCode : Option String := none
  plannedHours : ℚ := 0
  isActive : Bool := true
  deriving DecidableEq

structure CostItem where
  id : String
  projectId : String
  taskId : Option String := none
  description : String := ""
  plannedAmount : ℚ := 0
  costType : CostType := .overhead
  committedAmount : ℚ := 0
  actualAmount : ℚ := 0
  incurredDate : Option Date := none
  currencyCode : Option String := none
  version : ℤ := 1
  deriving DecidableEq

structure ProjectBaseline where
  id : String
  projectId : String
  name : String
  createdAt : Date
  deriving DecidableEq

structure BaselineTask where
  id : String
  baselineId : String
  taskId : String
  taskName : Option String
  baselineStart : Option Date
  baselineFinish : Option Date
  baselineDurationDays : ℕ
  baselinePlannedCost : ℚ := 0
  deriving DecidableEq

structure ProjectStore where
  projects : Table Project.id := .empty
  tasks : TasksById := .empty
  dependencies : Table TaskDependency.id := .empty
  resources : Table Resource.id := .empty
  projectResources : Table ProjectResource.id := .empty
  assignments : Table TaskAssignment.id := .empty
  costs : Table CostItem.id := .empty
  baselines : Table ProjectBaseline.id := .empty
  baselineTasks : Table BaselineTask.id := .empty

namespace ProjectStore

variable (store : ProjectStore) (projectId : String)

/-- `list_by_project` of the task repository. -/
def tasksOf : TasksById := store.tasks.filter fun task => task.projectId = projectId

/-- `list_by_project` of the dependency repository: both ends lie in the project. -/
def dependenciesOf : List TaskDependency :=
  store.dependencies.rows.filter fun dep =>
    dep.predecessorTaskId ∈ (store.tasksOf projectId).ids ∧
      dep.successorTaskId ∈ (store.tasksOf projectId).ids

end ProjectStore

end ProjectManager
