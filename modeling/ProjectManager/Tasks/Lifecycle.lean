import ProjectManager.Calendar.Months
import ProjectManager.Domain.Checks
import ProjectManager.Domain.Projects

/-! # The task lifecycle

Each operation reads a copy of the stored task, changes the copy and writes it
back at the end, so that an operation that raises leaves the table as it was.
-/

namespace ProjectManager

open Foundation

/-- Write a row under the next version. -/
def TasksById.save (table : TasksById) (task : Task) : TasksById :=
  table.update { task with version := task.version + 1 }

/-- What the task service is wired to. -/
structure TaskService where
  userSession : AuthorizationEngine
  projectRepo : Option (String → Option Project)
  workCalendarEngine : WorkCalendarEngine

/-- Both dates are given and the first lies before the second. -/
def before (first second : Option Date) : Bool :=
  match first, second with
  | some first, some second => first < second
  | _, _ => false

def taskNotFound : DomainError where
  errorClass := .notFoundError
  message := "Task not found."
  code := "TASK_NOT_FOUND"

/-! ## Validation -/

def validateDates (startDate endDate : Option Date) (durationDays : Option ℤ) :
    Except DomainError Unit := do
  ensure (before endDate startDate = false)
    (validationError "Task deadline cannot be before start_date.")
  ensure (∀ days ∈ durationDays, 0 ≤ days)
    (validationError "Task duration_days cannot be negative.")

def validateTaskName (name : String) : Except DomainError Unit := do
  ensure (strip name ≠ "")
    { validationError "Task name cannot be empty." with code := "TASK_NAME_EMPTY" }
  ensure (3 ≤ (strip name).length)
    { validationError "Task name must be at least 3 characters." with
      code := "TASK_NAME_TOO_SHORT" }
  ensure ((['/', '\\', '?', '%', '*', ':', '|', '"', '<', '>'].any name.toList.contains) = false)
    { validationError "Task name contains invalid characters." with
      code := "TASK_NAME_INVALID_CHARS" }

/-- One comparison of a task date with a date of the project. -/
def validateTaskDate (valid : Bool) (label relation : String) (taskDate bound : Option Date) :
    Except DomainError Unit :=
  ensure (valid = true)
    { validationError ("Task " ++ label ++ " date (" ++ (taskDate.map Date.isoformat).getD "" ++
        ") can not be " ++ relation ++ " (" ++ (bound.map Date.isoformat).getD "" ++ ")") with
      code := "TASK_INVALID_DATE" }

def validateTaskWithinProjectDates (service : TaskService) (projectId : String)
    (taskStart taskEnd : Option Date) : Except DomainError Unit :=
  match service.projectRepo with
  | none => .ok ()
  | some repo => do
      let project ← require (repo projectId)
        { errorClass := .notFoundError, message := "Project not found."
          code := "PROJECT_NOT_FOUND" }
      validateTaskDate (!before taskStart project.startDate) "start" "before project start"
        taskStart project.startDate
      validateTaskDate (!before project.endDate taskStart) "start" "after project end"
        taskStart project.endDate
      validateTaskDate (!before taskEnd project.startDate) "end" "before project start"
        taskEnd project.startDate
      validateTaskDate (!before project.endDate taskEnd) "end" "after project end"
        taskEnd project.endDate

/-! ## Operations -/

section

variable (service : TaskService) (table : TasksById)

/-- The stored task, for a caller who may manage it. -/
def loadTask (taskId operationLabel : String) : Except DomainError Task := do
  service.userSession.requirePermission "task.manage" operationLabel
  let task ← require (table.get? taskId) taskNotFound
  service.userSession.requireProjectPermission task.projectId "task.manage" operationLabel
  return task

def checkVersion (task : Task) (expectedVersion : Option ℤ) : Except DomainError Unit :=
  ensure (∀ version ∈ expectedVersion, task.version = version) (staleWrite "Task")

structure CreateTaskArguments where
  projectId : String
  name : String
  description : String := ""
  startDate : Option Date := none
  durationDays : Option ℤ := none
  status : TaskStatus := .todo
  priority : ℤ := 0
  deadline : Option Date := none

def endDateFrom (startDate : Option Date) (durationDays : Option ℤ) (otherwise : Option Date) :
    Option Date :=
  match startDate, durationDays with
  | some start, some days => some (service.workCalendarEngine.addWorkingDays start days)
  | _, _ => otherwise

/-- `create_task`, with the generated id as an argument. -/
def createTask (id : String) (arguments : CreateTaskArguments) :
    Except DomainError (Task × TasksById) := do
  service.userSession.requirePermission "task.manage" "create task"
  service.userSession.requireProjectPermission arguments.projectId "task.manage" "create task"
  validateDates arguments.startDate arguments.deadline arguments.durationDays
  validateTaskName arguments.name
  let task : Task :=
    { id := id
      projectId := arguments.projectId
      name := arguments.name
      description := arguments.description
      startDate := arguments.startDate
      endDate := endDateFrom service arguments.startDate arguments.durationDays none
      durationDays := arguments.durationDays
      status := arguments.status
      priority := arguments.priority
      deadline := arguments.deadline }
  validateTaskWithinProjectDates service arguments.projectId task.startDate task.endDate
  ensure (id ∉ table.ids) (takenPrimaryKey "tasks")
  return (task, table.insert task)

/-- The percentage that goes with a status set by hand. -/
def percentFor (prior status : TaskStatus) (percent : ℚ) : ℚ :=
  match status with
  | .done => 100
  | .todo => 0
  | .inProgress => if 0 < percent ∧ percent < 100 then percent else if prior = .done then 50 else 1
  | .blocked => percent

def setStatus (taskId : String) (status : TaskStatus) : Except DomainError TasksById := do
  let task ← loadTask service table taskId "set task status"
  return table.save
    { task with
      status := status
      percentComplete := percentFor task.status status task.percentComplete }

structure UpdateTaskArguments where
  name : Option String := none
  description : Option String := none
  startDate : Option Date := none
  durationDays : Option ℤ := none
  status : Option TaskStatus := none
  priority : Option ℤ := none
  deadline : Option Date := none
  expectedVersion : Option ℤ := none

def updateTask (taskId : String) (arguments : UpdateTaskArguments) :
    Except DomainError (Task × TasksById) := do
  let task ← loadTask service table taskId "update task"
  checkVersion task arguments.expectedVersion
  whenGiven arguments.name validateTaskName
  ensure (∀ days ∈ arguments.durationDays, 0 ≤ days)
    (validationError "Task duration cannot be negative.")
  let startDate := arguments.startDate.or task.startDate
  let durationDays := arguments.durationDays.or task.durationDays
  let changed :=
    { task with
      name := (arguments.name.map strip).getD task.name
      description := (arguments.description.map strip).getD task.description
      startDate := startDate
      durationDays := durationDays
      endDate := endDateFrom service startDate durationDays task.endDate
      status := arguments.status.getD task.status
      priority := arguments.priority.getD task.priority
      deadline := arguments.deadline.or task.deadline }
  ensure (before arguments.deadline startDate = false)
    (validationError "Task deadline cannot be before start_date.")
  validateTaskWithinProjectDates service task.projectId changed.startDate changed.endDate
  return ({ changed with version := changed.version + 1 }, table.save changed)

structure UpdateProgressArguments where
  percentComplete : Option ℚ := none
  actualStart : Option Date := none
  actualEnd : Option Date := none
  status : Option TaskStatus := none
  expectedVersion : Option ℤ := none

/-- The status that goes with a percentage set by hand. -/
def statusFor (percent : ℚ) (status : TaskStatus) : TaskStatus :=
  if percent = 0 ∧ status ≠ .todo then .todo
  else if 0 < percent ∧ percent < 100 ∧ status = .todo then .inProgress
  else if percent = 100 then .done
  else if percent < 100 ∧ status = .done then .inProgress
  else status

def updateProgress (taskId : String) (arguments : UpdateProgressArguments) :
    Except DomainError (Task × TasksById) := do
  let task ← loadTask service table taskId "update task progress"
  checkVersion task arguments.expectedVersion
  ensure (∀ percent ∈ arguments.percentComplete, 0 ≤ percent ∧ percent ≤ 100)
    (validationError "percent_complete must be between 0 and 100.")
  let status := match arguments.percentComplete with
    | some percent => statusFor percent task.status
    | none => task.status
  let actualStart := arguments.actualStart.or task.actualStart
  ensure (before arguments.actualEnd actualStart = false)
    (validationError "Actual end date cannot be before actual start.")
  let changed :=
    { task with
      percentComplete := arguments.percentComplete.getD task.percentComplete
      actualStart := actualStart
      actualEnd := arguments.actualEnd.or task.actualEnd
      status := arguments.status.getD status }
  validateTaskWithinProjectDates service task.projectId changed.actualStart changed.actualEnd
  return ({ changed with version := changed.version + 1 }, table.save changed)

end

end ProjectManager
