import ProjectManager.Approval.Service
import ProjectManager.Tasks.DependencyDiagnostics
import ProjectManager.Tasks.Lifecycle

/-! # Task dependencies

Links are added and removed with their own commit, and the schedule of the
project is brought up to date in a second transaction. Where a change is
governed it is requested instead, and made when the request is approved.
-/

namespace ProjectManager

open Foundation

/-- What the services of the project management module are wired to. The approval service and
the scheduling engine are configured, and both services use one calendar. -/
structure ProjectManagementServices extends InventoryService where
  workCalendarEngine : WorkCalendarEngine
  isAdminSession : Bool
  isGovernanceRequired : String → Bool

namespace ProjectManagementServices

variable (services : ProjectManagementServices)

def taskService (store : ProjectStore) : TaskService where
  userSession := services.userSession
  projectRepo := some store.projects.get?
  workCalendarEngine := services.workCalendarEngine

/-- The operation must be requested. -/
def governed (operation : String) (bypassApproval : Bool) : Bool :=
  !bypassApproval && services.isGovernanceRequired operation && !services.isAdminSession

end ProjectManagementServices

namespace ServiceProgram

variable {α : Type}

def readProjects (f : ProjectStore → Except DomainError α) : ServiceProgram α :=
  read fun store => f store.projects

def writeProjects (f : ProjectStore → Except DomainError ProjectStore) : ServiceProgram Unit :=
  Program.step fun store => do
    let projects ← f store.projects
    return { store with projects := projects }

def raise (error : DomainError) : ServiceProgram α := read fun _ => .error error

end ServiceProgram

open ServiceProgram

/-! ## The schedule of the stored project -/

/-- The update of every task of a schedule. -/
def saveSchedule (infos : List CPMTaskInfo) (store : ProjectStore) : ProjectStore :=
  { store with tasks := infos.foldl (fun tasks info => tasks.save info.task) store.tasks }

/-- `recalculate_project_schedule` on the stored rows, without the update of the tasks. -/
def storedSchedule (calendar : WorkCalendarEngine) (projectId : String) (store : ProjectStore) :
    Except DomainError (List CPMTaskInfo) :=
  recalculateProjectSchedule calendar (store.tasksOf projectId) (store.dependenciesOf projectId)

def recalculateStoredSchedule (calendar : WorkCalendarEngine) (projectId : String) :
    ServiceProgram (List CPMTaskInfo) := do
  let infos ← readProjects (storedSchedule calendar projectId)
  if infos.isEmpty then return infos
  Program.rollingBack do
    writeProjects fun store => .ok (saveSchedule infos store)
    commit
  return infos

def syncProjectSchedule (calendar : WorkCalendarEngine) (projectId : Option String) :
    ServiceProgram Unit :=
  match projectId with
  | none => return ()
  | some projectId =>
      if projectId = "" then return ()
      else do
        let _ ← recalculateStoredSchedule calendar projectId
        return ()

section

variable (services : ProjectManagementServices)

def approvalRequired (subject requestId : String) : DomainError :=
  businessRuleError ("Approval required for " ++ subject ++ ". Request " ++ requestId ++ " created.")
    "APPROVAL_REQUIRED"

/-- Add the request and raise that the change waits for its approval. -/
def requestGovernedChange {α : Type} (requestType entityType entityId : String)
    (projectId : Option String) (payload : ApprovalPayload) (subject requestId : String) :
    ServiceProgram α := do
  let request ← read fun store =>
    requestChange services.toInventoryService requestType entityType entityId projectId requestId
      store payload
  Program.step fun store => .ok { store with approvals := store.approvals.insert request }
  commit
  raise (approvalRequired subject request.id)

/-! ## Adding a link -/

/-- The error for a link that is not valid. -/
def dependencyError (diagnostic : DependencyDiagnostic) : DomainError :=
  let message := if diagnostic.detail = "" then diagnostic.summary
    else diagnostic.summary ++ "\n" ++ diagnostic.detail
  if diagnostic.code = "TASK_NOT_FOUND" then notFoundError message diagnostic.code
  else if diagnostic.code = "DEPENDENCY_CYCLE" then businessRuleError message diagnostic.code
  else validationError message diagnostic.code

/-- The predecessor of a link that the current user may add. -/
def prepareAddedDependency (dep : TaskDependency) (bypassApproval : Bool) (store : ProjectStore) :
    Except DomainError Task := do
  let pred ← require (store.tasks.get? dep.predecessorTaskId)
    (notFoundError "Predecessor task not found" "TASK_NOT_FOUND")
  let _ ← require (store.tasks.get? dep.successorTaskId)
    (notFoundError "Successor task not found" "TASK_NOT_FOUND")
  let governed := services.governed "dependency.add" bypassApproval
  let permission := if governed then "approval.request" else "task.manage"
  let operationLabel := if governed then "request dependency change" else "add dependency"
  services.userSession.requirePermission permission operationLabel
  services.userSession.requireProjectPermission pred.projectId permission operationLabel
  let diagnostic ← getDependencyDiagnostics dep services.workCalendarEngine false store
  ensure (diagnostic.isValid = true) (dependencyError diagnostic)
  return pred

def insertDependency (dep : TaskDependency) (store : ProjectStore) :
    Except DomainError ProjectStore := do
  ensure (dep.id ∉ store.dependencies.ids) (takenPrimaryKey "task_dependencies")
  return { store with dependencies := store.dependencies.insert dep }

/-- `add_dependency`, with the link as it is created and the id of a request. -/
def addDependency (dep : TaskDependency) (requestId : String) (bypassApproval : Bool) :
    ServiceProgram TaskDependency := do
  let pred ← readProjects (prepareAddedDependency services dep bypassApproval)
  if services.governed "dependency.add" bypassApproval then
    requestGovernedChange services "dependency.add" "task_dependency" dep.successorTaskId
      (some pred.projectId)
      (.addDependency dep.predecessorTaskId dep.successorTaskId dep.dependencyType dep.lagDays)
      "dependency change" requestId
  else
    Program.rollingBack do
      writeProjects (insertDependency dep)
      commit
      syncProjectSchedule services.workCalendarEngine (some pred.projectId)
    return dep

/-! ## Removing a link -/

/-- The project of a link: that of its predecessor, or else of its successor. -/
def dependencyProject (store : ProjectStore) (dep : TaskDependency) : Option String :=
  ((store.tasks.get? dep.predecessorTaskId).or (store.tasks.get? dep.successorTaskId)).map
    Task.projectId

/-- The link that the current user may remove. -/
def prepareRemovedDependency (depId : String) (bypassApproval : Bool) (store : ProjectStore) :
    Except DomainError TaskDependency := do
  let governed := services.governed "dependency.remove" bypassApproval
  let permission := if governed then "approval.request" else "task.manage"
  let operationLabel := if governed then "request dependency removal" else "remove dependency"
  services.userSession.requirePermission permission operationLabel
  let dep ← require (store.dependencies.get? depId)
    (notFoundError "Dependency not found." "DEPENDENCY_NOT_FOUND")
  whenGiven ((dependencyProject store dep).filter (· ≠ "")) fun projectId =>
    services.userSession.requireProjectPermission projectId permission operationLabel
  return dep

def deleteDependency (depId : String) (store : ProjectStore) : ProjectStore :=
  { store with dependencies := store.dependencies.filter fun dep => dep.id ≠ depId }

def removeDependency (depId requestId : String) (bypassApproval : Bool) : ServiceProgram Unit := do
  let dep ← readProjects (prepareRemovedDependency services depId bypassApproval)
  let projectId ← readProjects fun store => .ok (dependencyProject store dep)
  if services.governed "dependency.remove" bypassApproval then
    requestGovernedChange services "dependency.remove" "task_dependency" dep.id projectId
      (.removeDependency dep.id) "dependency removal" requestId
  else
    Program.rollingBack do
      writeProjects fun store => .ok (deleteDependency depId store)
      commit
      syncProjectSchedule services.workCalendarEngine projectId

/-! ## Approved changes -/

def missingPayload (key : String) : DomainError where
  errorClass := .keyError
  message := "'" ++ key ++ "'"

/-- The id of the new link is generated, and no request is made where the approval is bypassed. -/
def applyAddedDependency (generatedId : String) : ApplyHandler := fun request =>
  match request.payload with
  | .addDependency predecessorId successorId dependencyType lagDays => do
      let _ ← addDependency services
        { id := generatedId
          predecessorTaskId := predecessorId
          successorTaskId := successorId
          dependencyType := dependencyType
          lagDays := lagDays } "" true
      return ()
  | _ => raise (missingPayload "predecessor_id")

def applyRemovedDependency : ApplyHandler := fun request =>
  match request.payload with
  | .removeDependency dependencyId => removeDependency services dependencyId "" true
  | _ => raise (missingPayload "dependency_id")

/-- The handlers that are registered for changes of dependencies. -/
def dependencyHandlers (generatedId : String) : String → Option ApplyHandler
  | "dependency.add" => some (applyAddedDependency services generatedId)
  | "dependency.remove" => some (applyRemovedDependency services)
  | _ => none

/-! ## Creating and deleting tasks -/

def createStoredTask (id : String) (arguments : CreateTaskArguments) : ServiceProgram Task := do
  let (task, tasks) ← readProjects fun store =>
    createTask (services.taskService store) store.tasks id arguments
  Program.rollingBack do
    writeProjects fun store => .ok { store with tasks := tasks }
    commit
  return task

/-- The rows of a task go with it: its links, its assignments and its costs. -/
def deleteRowsOfTask (task : Task) (store : ProjectStore) : ProjectStore :=
  { store with
    dependencies := store.dependencies.filter fun dep =>
      dep.predecessorTaskId ≠ task.id ∧ dep.successorTaskId ≠ task.id
    assignments := store.assignments.filter fun row => row.taskId ≠ task.id
    costs := store.costs.filter fun row =>
      ¬ (row.projectId = task.projectId ∧ row.taskId = some task.id)
    tasks := store.tasks.filter fun row => row.id ≠ task.id }

def prepareDeletedTask (taskId : String) (store : ProjectStore) : Except DomainError Task := do
  services.userSession.requirePermission "task.manage" "delete task"
  let task ← require (store.tasks.get? taskId) (notFoundError "Task not found")
  services.userSession.requireProjectPermission task.projectId "task.manage" "delete task"
  return task

def deleteStoredTask (taskId : String) : ServiceProgram Unit := do
  let task ← readProjects (prepareDeletedTask services taskId)
  Program.rollingBack do
    writeProjects fun store => .ok (deleteRowsOfTask task store)
    commit

end

end ProjectManager
