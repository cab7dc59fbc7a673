import ProjectManager.Importing.Rows
import ProjectManager.Projects.Costs
import ProjectManager.Projects.Resources

/-! # Imports of the project management module

Rows of projects, resources, tasks and costs. A row that matches a stored row
updates it, and another row creates one. The services commit one by one.
-/

namespace ProjectManager

open Foundation ServiceProgram

/-- What the import service is wired to. The session filter decides which projects are listed. -/
structure DataImportService extends ProjectManagementServices where
  listsProject : String → Bool
  employeeRepo : Option (String → Option DirectoryEmployee) := none
  formats : CellFormats

/-- A row with the ids that are generated for it. -/
structure GeneratedRow where
  row : ImportSourceRow
  newId : String
  requestId : String

namespace DataImportService

variable (service : DataImportService)

def resourceService : ResourceService where
  userSession := service.userSession
  employeeRepo := service.employeeRepo

/-! ## Cells -/

def optionalDate (cell : String) : Except DomainError (Option Date) :=
  optionalCell service.formats.dateFromIsoformat cell

def optionalInt (cell : String) : Except DomainError (Option ℤ) :=
  optionalCell service.formats.int cell

def optionalFloat (cell : String) : Except DomainError (Option ℚ) :=
  optionalCell service.formats.float cell

end DataImportService

/-- A text for one of the values of a switch; every other text is false. -/
def boolOf (cell : String) : Bool := lower cell ∈ ["1", "true", "yes", "y", "on"]

def optionalBool (cell : String) (default : Bool) : Bool :=
  if strip cell = "" then default else boolOf (strip cell)

def projectStatuses : List ProjectStatus := [.planned, .active, .onHold, .completed]

def taskStatuses : List TaskStatus := [.todo, .inProgress, .blocked, .done]

def TaskStatus.value : TaskStatus → String
  | .todo => "TODO"
  | .inProgress => "IN_PROGRESS"
  | .blocked => "BLOCKED"
  | .done => "DONE"

def costTypes : List CostType :=
  [.labor, .material, .overhead, .equipment, .contingency, .subcontract, .other]

def projectStatusOf : String → Except DomainError ProjectStatus :=
  memberOf "ProjectStatus" projectStatuses ProjectStatus.value

def taskStatusOf : String → Except DomainError TaskStatus :=
  memberOf "TaskStatus" taskStatuses TaskStatus.value

def costTypeOf : String → Except DomainError CostType :=
  memberOf "CostType" costTypes CostType.value

/-- `text or None`. -/
def someText (cell : String) : Option String := if cell = "" then none else some cell

/-! ## Lookups -/

/-- The projects by their ids and by their names. -/
abbrev ProjectLookup := TextDict Project

def projectLookup (projects : List Project) : ProjectLookup :=
  dictOf (projects.flatMap fun project => [(project.id, project), (nameKey project.name, project)])

def resolveProject (lookup : ProjectLookup) (projectId projectName : Option String) :
    Option Project :=
  let byName := (projectName.map nameKey).bind fun key =>
    if key = "" then none else lookup.value? key
  match projectId with
  | some id => (if id = "" then none else lookup.value? id).or byName
  | none => byName

/-- The resources by their ids, and by their names. -/
structure ResourceLookup where
  byId : TextDict Resource
  byName : TextDict Resource

section

variable (service : DataImportService)

def listTasksForProject (projectId : String) (store : ProjectStore) :
    Except DomainError (List Task) := do
  service.userSession.requirePermission "task.read" "list project tasks"
  service.userSession.requireProjectPermission projectId "task.read" "list project tasks"
  return (store.tasksOf projectId).tasks

def findTask (tasks : List Task) (taskId taskName : Option String) : Option Task :=
  let byId := (taskId.filter (· ≠ "")).bind fun id => tasks.find? fun task => task.id = id
  let byName := (taskName.filter (· ≠ "")).bind fun name =>
    tasks.find? fun task => nameKey task.name = nameKey name
  byId.or byName

def resolveCost (projectId : String) (costId : Option String) (store : ProjectStore) :
    Except DomainError (Option CostItem) :=
  match costId with
  | some costId =>
      (listCostItemsForProject service.toProjectManagementServices projectId store).map
        fun items => items.find? fun item => item.id = costId
  | none => .ok none

/-- The resource with the id of a row, or else with its name. -/
def resolveResource (lookup : ResourceLookup) (row : ImportSourceRow) :
    Except DomainError (Option Resource) :=
  match lookup.byId.value? (row.values "id") with
  | some resource => .ok (some resource)
  | none => (row.required "name").map fun name => lookup.byName.value? (nameKey name)

/-! ## Payloads -/

/-- What a row says of a project. -/
def projectPayload (row : ImportSourceRow) (name : String) :
    Except DomainError CreateProjectArguments := do
  let plannedBudget ← service.optionalFloat (row.values "planned_budget")
  let startDate ← service.optionalDate (row.values "start_date")
  let endDate ← service.optionalDate (row.values "end_date")
  return {
    name := name
    description := row.values "description"
    clientName := someText (row.values "client_name")
    clientContact := someText (row.values "client_contact")
    plannedBudget := plannedBudget
    currency := someText (row.values "currency")
    startDate := startDate
    endDate := endDate }

def CreateProjectArguments.toUpdate (payload : CreateProjectArguments) (version : ℤ)
    (status : Option ProjectStatus) : UpdateProjectArguments where
  expectedVersion := some version
  name := some payload.name
  description := some payload.description
  status := status
  startDate := payload.startDate
  endDate := payload.endDate
  clientName := payload.clientName
  clientContact := payload.clientContact
  plannedBudget := payload.plannedBudget
  currency := payload.currency

/-- What a row says of a resource; where it says nothing the defaults of a new one stand. -/
def resourcePayload (row : ImportSourceRow) : Except DomainError CreateResourceArguments := do
  let name ← row.required "name"
  let hourlyRate ← service.optionalFloat (row.values "hourly_rate")
  let costType ← optionalCell costTypeOf (row.values "cost_type")
  let capacityPercent ← service.optionalFloat (row.values "capacity_percent")
  return {
    name := name
    role := row.values "role"
    hourlyRate := hourlyRate.getD 0
    isActive := optionalBool (row.values "is_active") true
    costType := costType.getD .labor
    currencyCode := someText (row.values "currency_code")
    -- Both a missing number and zero are false.
    capacityPercent := (capacityPercent.filter (· ≠ 0)).getD 100
    address := row.values "address"
    contact := row.values "contact" }

def CreateResourceArguments.toUpdate (payload : CreateResourceArguments) (version : ℤ) :
    UpdateResourceArguments where
  expectedVersion := some version
  name := some payload.name
  role := some payload.role
  hourlyRate := some payload.hourlyRate
  isActive := some payload.isActive
  costType := some payload.costType
  currencyCode := payload.currencyCode
  capacityPercent := some payload.capacityPercent
  address := some payload.address
  contact := some payload.contact

/-- What a row says of a task. -/
def taskPayload (row : ImportSourceRow) (projectId name : String) :
    Except DomainError CreateTaskArguments := do
  let startDate ← service.optionalDate (row.values "start_date")
  let durationDays ← service.optionalInt (row.values "duration_days")
  let priority ← service.optionalInt (row.values "priority")
  let deadline ← service.optionalDate (row.values "deadline")
  return {
    projectId := projectId
    name := name
    description := row.values "description"
    startDate := startDate
    durationDays := durationDays
    priority := priority.getD 0
    deadline := deadline }

def CreateTaskArguments.toUpdate (payload : CreateTaskArguments) (version : ℤ)
    (status : Option TaskStatus) : UpdateTaskArguments where
  expectedVersion := some version
  name := some payload.name
  description := some payload.description
  startDate := payload.startDate
  durationDays := payload.durationDays
  status := status
  priority := some payload.priority
  deadline := payload.deadline

/-- What a row says of a cost item; a missing amount is zero. -/
def costPayload (row : ImportSourceRow) (projectId : String) (taskId : Option String) :
    Except DomainError AddCostArguments := do
  let description ← row.required "description"
  let plannedAmount ← service.optionalFloat (row.values "planned_amount")
  let committedAmount ← service.optionalFloat (row.values "committed_amount")
  let actualAmount ← service.optionalFloat (row.values "actual_amount")
  let costType ← optionalCell costTypeOf (row.values "cost_type")
  let incurredDate ← service.optionalDate (row.values "incurred_date")
  return {
    projectId := projectId
    description := description
    plannedAmount := plannedAmount.getD 0
    taskId := taskId
    costType := costType.getD .overhead
    committedAmount := committedAmount.getD 0
    actualAmount := actualAmount.getD 0
    incurredDate := incurredDate
    currencyCode := someText (row.values "currency_code") }

def AddCostArguments.toUpdate (payload : AddCostArguments) (version : ℤ) :
    UpdateCostArguments where
  expectedVersion := some version
  description := some payload.description
  plannedAmount := some payload.plannedAmount
  committedAmount := some payload.committedAmount
  actualAmount := some payload.actualAmount
  costType := some payload.costType
  incurredDate := payload.incurredDate
  currencyCode := payload.currencyCode

/-! ## Rows -/

/-- A new project is planned; another status is set in a second call. -/
def applyImportedStatus (projectId : String) (status : Option ProjectStatus) :
    ServiceProgram Unit :=
  match status.filter (· ≠ .planned) with
  | some status => committed (setProjectStatus service.userSession projectId status)
  | none => return ()

def importProjectRow (lookup : ProjectLookup) (generated : GeneratedRow) :
    ServiceProgram RowOutcome := do
  let row := generated.row
  let (project, payload, status) ← readProjects fun _ => do
    let name ← row.required "name"
    let project := resolveProject lookup (someText (row.values "id")) (some name)
    let payload ← projectPayload service row name
    let status ← optionalCell projectStatusOf (row.values "status")
    return (project, payload, status)
  match project with
  | none => do
      let created ← committed (createProject service.userSession generated.newId payload)
      applyImportedStatus service created.id status
      return .created
  | some project => do
      let _ ← committed (updateProject service.userSession project.id
        (payload.toUpdate project.version status))
      return .updated

def importResourceRow (lookup : ResourceLookup) (generated : GeneratedRow) :
    ServiceProgram RowOutcome := do
  let row := generated.row
  let (resource, payload) ← readProjects fun _ => do
    let resource ← resolveResource lookup row
    let payload ← resourcePayload service row
    return (resource, payload)
  match resource with
  | none => do
      let _ ← committed (createResource service.resourceService generated.newId payload)
      return .created
  | some resource => do
      let _ ← committed (updateResource service.resourceService resource.id
        (payload.toUpdate resource.version))
      return .updated

/-- The project that a row refers to. -/
def requireImportProject (lookup : ProjectLookup) (row : ImportSourceRow) :
    Except DomainError Project :=
  require (resolveProject lookup (someText (row.values "project_id"))
      (someText (row.values "project_name")))
    (valueError "Project reference is required via project_id or project_name.")

/-- `create_task`, `update_task` and `update_progress` as operations on the projects. -/
def onTasks {α : Type} (operation : TaskService → TasksById → Except DomainError (α × TasksById))
    (store : ProjectStore) : Except DomainError (α × ProjectStore) :=
  (operation (service.taskService store) store.tasks).map fun (value, tasks) =>
    (value, { store with tasks := tasks })

/-- The progress of a task is reported in a call of its own. -/
def applyImportedProgress (taskId : String) (percentComplete : Option ℚ)
    (expectedVersion : Option ℤ) : ServiceProgram Unit :=
  match percentComplete with
  | some percent => do
      let _ ← committed (onTasks service fun tasks table => updateProgress tasks table taskId
        { percentComplete := some percent, expectedVersion := expectedVersion })
      return ()
  | none => return ()

def importTaskRow (lookup : ProjectLookup) (generated : GeneratedRow) :
    ServiceProgram RowOutcome := do
  let row := generated.row
  let (task, payload, status, percentComplete) ← readProjects fun store => do
    let project ← requireImportProject lookup row
    let name ← row.required "name"
    let tasks ← listTasksForProject service project.id store
    let task := findTask tasks (some (row.values "id")) (some name)
    let payload ← taskPayload service row project.id name
    let status ← optionalCell taskStatusOf (row.values "status")
    let percentComplete ← service.optionalFloat (row.values "percent_complete")
    return (task, payload, status, percentComplete)
  match task with
  | none => do
      let created ← committed (onTasks service fun tasks table =>
        createTask tasks table generated.newId { payload with status := status.getD .todo })
      applyImportedProgress service created.id percentComplete none
      return .created
  | some task => do
      let updated ← committed (onTasks service fun tasks table =>
        updateTask tasks table task.id (payload.toUpdate task.version status))
      applyImportedProgress service updated.id percentComplete (some updated.version)
      return .updated

def importCostRow (lookup : ProjectLookup) (generated : GeneratedRow) :
    ServiceProgram RowOutcome := do
  let row := generated.row
  let (existing, payload) ← readProjects fun store => do
    let project ← requireImportProject lookup row
    let tasks ← listTasksForProject service project.id store
    let task := findTask tasks (someText (row.values "task_id")) (someText (row.values "task_name"))
    let existing ← resolveCost service project.id (someText (row.values "id")) store
    let payload ← costPayload service row project.id (task.map Task.id)
    return (existing, payload)
  match existing with
  | none => do
      let _ ← addCostItem service.toProjectManagementServices generated.newId generated.requestId
        payload
      return .created
  | some existing => do
      let _ ← updateCostItem service.toProjectManagementServices existing.id generated.requestId
        (payload.toUpdate existing.version)
      return .updated

end

end ProjectManager
