import Mathlib.Algebra.Order.Ring.Rat
import ProjectManager.Domain.Checks
import ProjectManager.Domain.Projects

/-! # Time entries and timesheet periods

The entry operations of the timesheet service and the operations of the project management
module that write assignments and their entries. Each operation commits at its end or rolls
back. Timesheets only compare dates and take their months, so dates are civil dates here.
The timestamps of rows are left out.
-/

namespace ProjectManager

open Foundation

/-! ## Civil dates -/

def isLeap (year : ℕ) : Bool := year % 4 = 0 ∧ (year % 100 ≠ 0 ∨ year % 400 = 0)

/-- The number of days of a month, `calendar.monthrange(year, month)[1]`. -/
def monthrange (year month : ℕ) : ℕ :=
  match month with
  | 2 => if isLeap year then 29 else 28
  | 4 | 6 | 9 | 11 => 30
  | _ => 31

structure CivilDate where
  year : ℕ
  month : ℕ
  day : ℕ
  valid : 1 ≤ day ∧ day ≤ monthrange year month
  deriving DecidableEq

namespace CivilDate

instance : LE CivilDate where
  le first second := first.year < second.year ∨ (first.year = second.year ∧
    (first.month < second.month ∨ (first.month = second.month ∧ first.day ≤ second.day)))

instance (first second : CivilDate) : Decidable (first ≤ second) :=
  inferInstanceAs (Decidable (_ ∨ _))

theorem one_le_monthrange (year month : ℕ) : 1 ≤ monthrange year month := by
  unfold monthrange
  split
  · split <;> decide
  all_goals decide

def monthStart (d : CivilDate) : CivilDate where
  year := d.year
  month := d.month
  day := 1
  valid := ⟨le_rfl, one_le_monthrange d.year d.month⟩

def monthEnd (d : CivilDate) : CivilDate where
  year := d.year
  month := d.month
  day := monthrange d.year d.month
  valid := ⟨one_le_monthrange d.year d.month, le_rfl⟩

def isoformat (d : CivilDate) : String :=
  zfill 4 (toString d.year) ++ "-" ++ zfill 2 (toString d.month) ++ "-" ++
    zfill 2 (toString d.day)

end CivilDate

/-- The first and the last day of the month of a date. -/
def timesheetPeriodBounds (periodDate : CivilDate) : CivilDate × CivilDate :=
  (periodDate.monthStart, periodDate.monthEnd)

theorem within_timesheetPeriodBounds {periodDate d : CivilDate} :
    (timesheetPeriodBounds periodDate).1 ≤ d ∧ d ≤ (timesheetPeriodBounds periodDate).2 ↔
      d.monthStart = periodDate.monthStart := by
  obtain ⟨hfirst, hlast⟩ := d.valid
  change ((periodDate.year < d.year ∨ (periodDate.year = d.year ∧
      (periodDate.month < d.month ∨ (periodDate.month = d.month ∧ 1 ≤ d.day)))) ∧
    (d.year < periodDate.year ∨ (d.year = periodDate.year ∧ (d.month < periodDate.month ∨
      (d.month = periodDate.month ∧ d.day ≤ monthrange periodDate.year periodDate.month))))) ↔ _
  rw [CivilDate.monthStart, CivilDate.monthStart, CivilDate.mk.injEq]
  constructor
  · rintro ⟨hlower, hupper⟩
    refine ⟨by omega, by omega, rfl⟩
  · rintro ⟨hyear, hmonth, -⟩
    rw [← hyear, ← hmonth]
    exact ⟨Or.inr ⟨rfl, Or.inr ⟨rfl, hfirst⟩⟩, Or.inr ⟨rfl, Or.inr ⟨rfl, hlast⟩⟩⟩

/-! ## Rows -/

inductive TimesheetPeriodStatus
  | open
  | submitted
  | approved
  | rejected
  | locked
  deriving DecidableEq, Repr

/-- The value of a status in lower case. -/
def TimesheetPeriodStatus.lower : TimesheetPeriodStatus → String
  | .open => "open"
  | .submitted => "submitted"
  | .approved => "approved"
  | .rejected => "rejected"
  | .locked => "locked"

structure TimesheetPeriod where
  id : String
  resourceId : String
  periodStart : CivilDate
  periodEnd : CivilDate
  status : TimesheetPeriodStatus := .open
  deriving DecidableEq

structure TimeEntry where
  id : String
  workAllocationId : String
  entryDate : CivilDate
  hours : ℚ
  assignmentId : Option String := none
  note : String := ""
  authorUserId : Option String := none
  authorUsername : Option String := none
  ownerType : String := "work_allocation"
  ownerId : Option String := none
  ownerLabel : String := ""
  scopeType : Option String := none
  scopeId : Option String := none
  employeeId : Option String := none
  departmentId : Option String := none
  departmentName : String := ""
  siteId : Option String := none
  siteName : String := ""
  deriving DecidableEq

/-- What timesheets read of a task, the owner of an allocation. -/
structure WorkOwner where
  id : String
  projectId : String
  name : String
  startDate : Option CivilDate := none
  actualStart : Option CivilDate := none
  deriving DecidableEq

structure WorkResource where
  id : String
  employeeId : Option String := none
  deriving DecidableEq

structure Employee where
  departmentId : Option String
  department : String
  siteId : Option String
  siteName : String
  deriving DecidableEq

/-- The rows that timesheets read and write. -/
structure TimesheetStore where
  projectIds : List String
  tasks : Table WorkOwner.id
  resources : Table WorkResource.id
  assignments : Table TaskAssignment.id
  entries : Table TimeEntry.id
  periods : Table TimesheetPeriod.id

/-- What the services are wired to. The repositories of time entries and periods
are configured. -/
structure TimesheetService where
  userSession : AuthorizationEngine
  principal : Option (String × String)
  employees : String → Option Employee
  today : CivilDate

/-! ## Support -/

def workAllocationNotFound : DomainError where
  errorClass := .notFoundError
  message := "Work allocation not found."
  code := "WORK_ALLOCATION_NOT_FOUND"

def requireTimeManagePermission (service : TimesheetService) (operationLabel : String) :
    Except DomainError Unit :=
  service.userSession.requireAnyPermission ["time.manage", "task.manage"] operationLabel

/-- The text itself, unless it is empty. -/
def nonEmpty (text : String) : Option String := if text = "" then none else some text

structure WorkAllocationContext where
  workAllocation : TaskAssignment
  workOwner : Option WorkOwner
  resource : Option WorkResource

section

variable (service : TimesheetService) (store : TimesheetStore)

def loadWorkOwner (workAllocation : TaskAssignment) : Except DomainError (Option WorkOwner) :=
  match nonEmpty (strip workAllocation.taskId) with
  | none => .ok none
  | some ownerId => do
      let owner ← require (store.tasks.get? ownerId)
        { errorClass := .notFoundError, message := "Work owner not found."
          code := "WORK_OWNER_NOT_FOUND" }
      return some owner

def loadWorkAllocationContext (workAllocationId : String) :
    Except DomainError WorkAllocationContext := do
  let workAllocation ← require (store.assignments.get? workAllocationId) workAllocationNotFound
  let workOwner ← loadWorkOwner store workAllocation
  return ⟨workAllocation, workOwner, store.resources.get? workAllocation.resourceId⟩

def lookupTimesheetPeriod (resourceId : String) (periodStart : CivilDate) :
    Option TimesheetPeriod :=
  store.periods.rows.find? fun period =>
    period.resourceId = resourceId ∧ period.periodStart = (timesheetPeriodBounds periodStart).1

/-- The period of a date is submitted, approved or locked. -/
def Frozen (resourceId : String) (entryDate : CivilDate) : Prop :=
  ∃ period ∈ lookupTimesheetPeriod store resourceId entryDate,
    period.status ∈ [TimesheetPeriodStatus.submitted, .approved, .locked]

instance (resourceId : String) (entryDate : CivilDate) :
    Decidable (Frozen store resourceId entryDate) :=
  inferInstanceAs (Decidable (∃ period ∈ lookupTimesheetPeriod store resourceId entryDate, _))

def ensureTimesheetPeriodEditable (resourceId : String) (entryDate : CivilDate)
    (operationLabel : String) : Except DomainError Unit :=
  ensure (¬ Frozen store resourceId entryDate)
    { errorClass := .validationError
      message := "Cannot " ++ operationLabel ++ ": timesheet period " ++
        (timesheetPeriodBounds entryDate).1.isoformat ++ " is " ++
        ((lookupTimesheetPeriod store resourceId entryDate).map fun period =>
          period.status.lower).getD "" ++ "." }

def requireTimeEntry (entryId : String) : Except DomainError TimeEntry :=
  require (store.entries.get? entryId)
    { errorClass := .notFoundError, message := "Time entry not found."
      code := "TIME_ENTRY_NOT_FOUND" }

def validateTimeEntryHours (hours : ℚ) : Except DomainError ℚ := do
  ensure (0 < hours)
    { errorClass := .validationError, message := "Time entry hours must be greater than zero." }
  return hours

/-- The logged hours of an allocation become the sum of its entries. -/
def syncWorkAllocationHours (workAllocationId : String) : Except DomainError TimesheetStore := do
  let workAllocation ← require (store.assignments.get? workAllocationId) workAllocationNotFound
  let entries := store.entries.rows.filter fun entry => entry.workAllocationId = workAllocationId
  return { store with
    assignments := store.assignments.update
      { workAllocation with hoursLogged := (entries.map TimeEntry.hours).sum } }

def resolveWorkOwnerType (workAllocation : TaskAssignment) : String :=
  if strip workAllocation.taskId = "" then "work_allocation" else "task_assignment"

def resolveWorkOwnerId (workAllocation : TaskAssignment) : Option String :=
  (nonEmpty (strip workAllocation.id)).or (nonEmpty (strip workAllocation.taskId))

def resolveWorkOwnerLabel (workAllocation : TaskAssignment) (workOwner : Option WorkOwner) :
    String :=
  ((workOwner.bind fun owner => nonEmpty (strip owner.name)).or
    (resolveWorkOwnerId workAllocation)).getD (strip workAllocation.id)

def legacyAssignmentId (workAllocation : TaskAssignment) : Option String :=
  if resolveWorkOwnerType workAllocation = "task_assignment" then
    nonEmpty (strip workAllocation.id)
  else none

/-- The row that `TimeEntry.create` makes with the context of an allocation. -/
def createTimeEntry (context : WorkAllocationContext) (id : String) (entryDate : CivilDate)
    (hours : ℚ) (note : String) (author : Option String × Option String) : TimeEntry :=
  let workAllocation := context.workAllocation
  let workAllocationId := strip workAllocation.id
  let employeeId := context.resource.bind WorkResource.employeeId
  let employee := (employeeId.bind nonEmpty).bind service.employees
  let projectId := context.workOwner.bind fun owner => nonEmpty (strip owner.projectId)
  { id := id
    workAllocationId := workAllocationId
    entryDate := entryDate
    hours := hours
    assignmentId := (legacyAssignmentId workAllocation).or
      (if resolveWorkOwnerType workAllocation = "task_assignment" then some workAllocationId
        else none)
    note := note
    authorUserId := author.1
    authorUsername := author.2
    ownerType := resolveWorkOwnerType workAllocation
    ownerId := (resolveWorkOwnerId workAllocation).or (some workAllocationId)
    ownerLabel := strip (resolveWorkOwnerLabel workAllocation context.workOwner)
    scopeType := projectId.map fun _ => "project"
    scopeId := projectId
    employeeId := employeeId
    departmentId := employee.bind Employee.departmentId
    departmentName := (employee.map fun e => strip e.department).getD ""
    siteId := employee.bind Employee.siteId
    siteName := (employee.map fun e => strip e.siteName).getD "" }

def insertEntry (entry : TimeEntry) : Except DomainError TimesheetStore := do
  ensure (entry.id ∉ store.entries.ids) (takenPrimaryKey "time_entries")
  return { store with entries := store.entries.insert entry }

/-- Hours logged before there were entries become an entry of their own. -/
def seedLegacyHoursEntry (context : WorkAllocationContext) (seedId : String) :
    Except DomainError TimesheetStore :=
  let workAllocation := context.workAllocation
  if (∃ entry ∈ store.entries.rows, entry.workAllocationId = workAllocation.id) ∨
      workAllocation.hoursLogged ≤ 0 then .ok store
  else do
    let legacyDate := ((context.workOwner.bind WorkOwner.actualStart).or
      (context.workOwner.bind WorkOwner.startDate)).getD service.today
    ensureTimesheetPeriodEditable store workAllocation.resourceId legacyDate
      "seed legacy timesheet entry"
    let seeded ← insertEntry store (createTimeEntry service context seedId legacyDate
      workAllocation.hoursLogged "Opening balance migrated from existing logged hours."
      (none, some "system"))
    syncWorkAllocationHours seeded workAllocation.id

/-! ## The timesheet service -/

/-- `initialize_timesheet_for_work_allocation`: opening a timesheet migrates legacy hours. -/
def initializeTimesheetForWorkAllocation (workAllocationId : String) (seedId : String) :
    Except DomainError TimesheetStore := do
  requireTimeManagePermission service "open timesheet"
  let context ← loadWorkAllocationContext store workAllocationId
  seedLegacyHoursEntry service store context seedId

/-- `add_work_entry`, with the generated ids as arguments. -/
def addWorkEntry (workAllocationId : String) (entryDate : CivilDate) (hours : ℚ) (note : String)
    (seedId entryId : String) : Except DomainError TimesheetStore := do
  requireTimeManagePermission service "add time entry"
  let context ← loadWorkAllocationContext store workAllocationId
  ensureTimesheetPeriodEditable store context.workAllocation.resourceId entryDate
    "add time entry"
  let hours ← validateTimeEntryHours hours
  let seeded ← seedLegacyHoursEntry service store context seedId
  let added ← insertEntry seeded (createTimeEntry service context entryId entryDate hours
    (strip note) (service.principal.map Prod.fst, service.principal.map Prod.snd))
  syncWorkAllocationHours added context.workAllocation.id

def updateTimeEntry (entryId : String) (entryDate : Option CivilDate) (hours : Option ℚ)
    (note : Option String) : Except DomainError TimesheetStore := do
  requireTimeManagePermission service "update time entry"
  let entry ← requireTimeEntry store entryId
  let context ← loadWorkAllocationContext store entry.workAllocationId
  ensureTimesheetPeriodEditable store context.workAllocation.resourceId entry.entryDate
    "update time entry"
  let targetEntryDate := entryDate.getD entry.entryDate
  whenGiven (if targetEntryDate = entry.entryDate then none else some targetEntryDate)
    fun target => ensureTimesheetPeriodEditable store context.workAllocation.resourceId target
      "move time entry"
  whenGiven hours fun given => ensure (0 < given)
    { errorClass := .validationError, message := "Time entry hours must be greater than zero." }
  let updated := { store with
    entries := store.entries.update
      { entry with
        entryDate := targetEntryDate
        hours := hours.getD entry.hours
        note := (note.map strip).getD entry.note } }
  syncWorkAllocationHours updated entry.workAllocationId

def deleteTimeEntry (entryId : String) : Except DomainError TimesheetStore := do
  requireTimeManagePermission service "delete time entry"
  let entry ← requireTimeEntry store entryId
  let context ← loadWorkAllocationContext store entry.workAllocationId
  ensureTimesheetPeriodEditable store context.workAllocation.resourceId entry.entryDate
    "delete time entry"
  let deleted := { store with entries := store.entries.filter fun row => row.id ≠ entry.id }
  syncWorkAllocationHours deleted entry.workAllocationId

def listTimeEntriesForResourcePeriod (resourceId : String) (periodStart : CivilDate) :
    List TimeEntry :=
  (store.assignments.rows.filter fun a => a.resourceId = resourceId).flatMap fun a =>
    store.entries.rows.filter fun entry => entry.workAllocationId = a.id ∧
      (timesheetPeriodBounds periodStart).1 ≤ entry.entryDate ∧
      entry.entryDate ≤ (timesheetPeriodBounds periodStart).2

/-! ## The project management module -/

def requireManage (operationLabel projectId : String) : Except DomainError Unit := do
  service.userSession.requirePermission "task.manage" operationLabel
  whenGiven (nonEmpty projectId) fun id =>
    service.userSession.requireProjectPermission id "task.manage" operationLabel

def requireAssignment (assignmentId : String) : Except DomainError TaskAssignment :=
  require (store.assignments.get? assignmentId)
    { errorClass := .notFoundError, message := "Assignment not found."
      code := "ASSIGNMENT_NOT_FOUND" }

def requireTaskOf (assignment : TaskAssignment) : Except DomainError WorkOwner :=
  require (store.tasks.get? assignment.taskId)
    { errorClass := .notFoundError, message := "Task not found.", code := "TASK_NOT_FOUND" }

def setAssignmentHours (assignmentId : String) (hoursLogged : ℚ) :
    Except DomainError TimesheetStore := do
  ensure (0 ≤ hoursLogged)
    { errorClass := .validationError, message := "hours_logged cannot be negative." }
  let assignment ← requireAssignment store assignmentId
  ensure (∀ entry ∈ store.entries.rows, entry.workAllocationId ≠ assignmentId)
    { errorClass := .validationError
      message := "This assignment already uses timesheet entries. Edit the timesheet instead of " ++
        "the aggregate hours." }
  let task ← requireTaskOf store assignment
  requireManage service "log assignment hours" task.projectId
  return { store with
    assignments := store.assignments.update { assignment with hoursLogged := hoursLogged } }

def deleteByAssignment (assignmentId : String) : TimesheetStore :=
  { store with
    entries := store.entries.filter fun entry => entry.workAllocationId ≠ assignmentId }

def deleteEntriesOf (assignments : List TaskAssignment) : TimesheetStore :=
  assignments.foldl (fun current a => deleteByAssignment current a.id) store

/-- Delete assignments after their entries. -/
def deleteAssignments (doomed : TaskAssignment → Bool) : TimesheetStore :=
  let cleared := deleteEntriesOf store (store.assignments.rows.filter doomed)
  { cleared with assignments := cleared.assignments.filter fun a => !doomed a }

def unassignResource (assignmentId : String) : Except DomainError TimesheetStore := do
  let assignment ← requireAssignment store assignmentId
  let task ← requireTaskOf store assignment
  requireManage service "remove assignment" task.projectId
  return deleteAssignments store fun a => a.id = assignmentId

def deleteTaskRows (taskId : String) : TimesheetStore :=
  let cleared := deleteAssignments store fun a => a.taskId = taskId
  { cleared with tasks := cleared.tasks.filter fun task => task.id ≠ taskId }

def deleteTask (taskId : String) : Except DomainError TimesheetStore := do
  service.userSession.requirePermission "task.manage" "delete task"
  let task ← require (store.tasks.get? taskId)
    { errorClass := .notFoundError, message := "Task not found" }
  service.userSession.requireProjectPermission task.projectId "task.manage" "delete task"
  return deleteTaskRows store taskId

def deleteProject (projectId : String) : Except DomainError TimesheetStore := do
  service.userSession.requirePermission "project.manage" "delete project"
  ensure (projectId ∈ store.projectIds)
    { errorClass := .notFoundError, message := "Project not found" }
  service.userSession.requireProjectPermission projectId "project.manage" "delete project"
  let tasks := store.tasks.rows.filter fun task => task.projectId = projectId
  let cleared := tasks.foldl (fun current task => deleteTaskRows current task.id) store
  return { cleared with projectIds := cleared.projectIds.filter fun id => id ≠ projectId }

def deleteResource (resourceId : String) : Except DomainError TimesheetStore := do
  service.userSession.requirePermission "resource.manage" "delete resource"
  let resource ← require (store.resources.get? resourceId)
    { errorClass := .notFoundError, message := "Resource not found."
      code := "RESOURCE_NOT_FOUND" }
  let cleared := deleteAssignments store fun a => a.resourceId = resourceId
  return { cleared with resources := cleared.resources.filter fun row => row.id ≠ resource.id }

end

end ProjectManager
