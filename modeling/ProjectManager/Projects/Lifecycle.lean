import ProjectManager.Tasks.Dependencies

/-! # The project lifecycle

An operation checks its arguments on a copy of the stored row, and then writes
the row and commits. One that raises leaves the store as it was.
-/

namespace ProjectManager

open Foundation

def ServiceProgram.committed {α : Type}
    (operation : ProjectStore → Except DomainError (α × ProjectStore)) : ServiceProgram α := do
  let (value, projects) ← readProjects operation
  Program.rollingBack do
    writeProjects fun _ => .ok projects
    commit
  return value

namespace ServiceProgram

variable {α : Type}

theorem spec_readProjects {f : ProjectStore → Except DomainError α}
    {session : Session PlatformStore} {returns : α → Session PlatformStore → Prop}
    {raises : DomainError → Session PlatformStore → Prop} :
    (readProjects f).Spec session returns raises ↔
      match f session.pending.projects with
      | .ok value => returns value session
      | .error e => raises e session :=
  spec_read

/-- An operation that returns is committed. One that raises leaves the transaction alone, unless
the commit is refused. -/
theorem committed_spec (operation : ProjectStore → Except DomainError (α × ProjectStore))
    (session : Session PlatformStore) :
    (committed operation).Spec session
      (fun value next => ∃ projects, operation session.pending.projects = .ok (value, projects) ∧
        next.pending.projects = projects ∧ next.committed = next.pending)
      (fun e next => (operation session.pending.projects = .error e ∧ next = session) ∨
        (∃ result, operation session.pending.projects = .ok result) ∧ next = session.rollback) := by
  unfold committed
  rw [Program.spec_bind, spec_readProjects]
  cases hoperation : operation session.pending.projects with
  | error e => exact Or.inl ⟨rfl, rfl⟩
  | ok result =>
      obtain ⟨value, projects⟩ := result
      dsimp only
      rw [Program.spec_bind, Program.spec_rollingBack, Program.spec_bind]
      change Program.Spec ServiceProgram.commit _ _ _
      rw [spec_commit]
      dsimp only
      cases hflush : PlatformStore.flush { session.pending with projects := projects } with
      | error e => exact Or.inr ⟨⟨_, rfl⟩, rfl⟩
      | ok flushed =>
          obtain ⟨inventory, -, hflushed⟩ := bind_ok hflush
          obtain rfl := Except.ok.inj hflushed
          exact ⟨projects, rfl, rfl, rfl⟩

end ServiceProgram

def defaultCurrencyCode : String := "EUR"

/-- An optional text without the blanks around it; a blank one is missing. -/
def strippedOrNone (text : Option String) : Option String :=
  (text.map strip).filter fun text => text ≠ ""

/-- An optional text in upper case; a blank one is missing. -/
def upperOrNone (text : Option String) : Option String :=
  (text.map fun text => upper (strip text)).filter fun text => text ≠ ""

/-- A currency in upper case, the default one where none is given. -/
def resolvedCurrency (currency : Option String) : String :=
  orElse (upper (strip (currency.getD ""))) defaultCurrencyCode

def nameKey (name : String) : String := lower (strip name)

def validateProjectName (store : ProjectStore) (name : String) : Except DomainError Unit := do
  ensure (strip name ≠ "")
    (validationError "Project name cannot be empty." "PROJECT_NAME_EMPTY")
  ensure (3 ≤ (strip name).length)
    (validationError "Project name must be at least 3 characters." "PROJECT_NAME_TOO_SHORT")
  ensure (∀ project ∈ store.projects.rows, nameKey project.name ≠ nameKey name)
    (validationError "A project with this name already exists." "PROJECT_NAME_DUPLICATE")

def projectNotFound : DomainError := notFoundError "Project not found." "PROJECT_NOT_FOUND"

structure CreateProjectArguments where
  name : String
  description : String := ""
  clientName : Option String := none
  clientContact : Option String := none
  plannedBudget : Option ℚ := none
  currency : Option String := none
  startDate : Option Date := none
  endDate : Option Date := none

structure UpdateProjectArguments where
  expectedVersion : Option ℤ := none
  name : Option String := none
  description : Option String := none
  status : Option ProjectStatus := none
  startDate : Option Date := none
  endDate : Option Date := none
  clientName : Option String := none
  clientContact : Option String := none
  plannedBudget : Option ℚ := none
  currency : Option String := none

/-- Write a project under its next version. -/
def ProjectStore.saveProject (store : ProjectStore) (project : Project) : ProjectStore :=
  { store with projects := store.projects.update { project with version := project.version + 1 } }

section

variable (userSession : AuthorizationEngine)

/-- `create_project`, with the generated id as an argument. -/
def createProject (id : String) (arguments : CreateProjectArguments) (store : ProjectStore) :
    Except DomainError (Project × ProjectStore) := do
  userSession.requirePermission "project.manage" "create project"
  validateProjectName store arguments.name
  let project : Project :=
    { id := id
      name := strip arguments.name
      description := strip arguments.description
      clientName := strippedOrNone arguments.clientName
      clientContact := strippedOrNone arguments.clientContact
      plannedBudget := arguments.plannedBudget
      currency := some (resolvedCurrency arguments.currency)
      startDate := arguments.startDate
      endDate := arguments.endDate }
  ensure (id ∉ store.projects.ids) (takenPrimaryKey "projects")
  return (project, { store with projects := store.projects.insert project })

/-- `set_status` of the project service. -/
def setProjectStatus (projectId : String) (status : ProjectStatus) (store : ProjectStore) :
    Except DomainError (Unit × ProjectStore) := do
  userSession.requirePermission "project.manage" "set project status"
  let project ← require (store.projects.get? projectId) (notFoundError "Project not found")
  userSession.requireProjectPermission project.id "project.manage" "set project status"
  return ((), store.saveProject { project with status := status })

/-- The project after an update: an argument that is missing leaves its field. -/
def changedProject (project : Project) (arguments : UpdateProjectArguments) : Project :=
  { project with
    name := (arguments.name.map strip).getD project.name
    description := (arguments.description.map strip).getD project.description
    status := arguments.status.getD project.status
    startDate := arguments.startDate.or project.startDate
    endDate := arguments.endDate.or project.endDate
    clientName := if arguments.clientName.isSome then strippedOrNone arguments.clientName
      else project.clientName
    clientContact := if arguments.clientContact.isSome then strippedOrNone arguments.clientContact
      else project.clientContact
    plannedBudget := arguments.plannedBudget.or project.plannedBudget
    currency := if arguments.currency.isSome then upperOrNone arguments.currency
      else project.currency }

def updateProject (projectId : String) (arguments : UpdateProjectArguments)
    (store : ProjectStore) : Except DomainError (Project × ProjectStore) := do
  userSession.requirePermission "project.manage" "update project"
  let project ← require (store.projects.get? projectId) projectNotFound
  userSession.requireProjectPermission project.id "project.manage" "update project"
  ensure (∀ version ∈ arguments.expectedVersion, project.version = version) (staleWrite "Project")
  ensure (∀ name ∈ arguments.name, strip name ≠ "")
    (validationError "Project name cannot be empty." "PROJECT_NAME_EMPTY")
  let changed := changedProject project arguments
  ensure (before arguments.endDate changed.startDate = false)
    (validationError "Project end date cannot be before start date.")
  ensure (∀ budget ∈ arguments.plannedBudget, 0 ≤ budget)
    (validationError "Planned budget cannot be negative.")
  return ({ changed with version := changed.version + 1 }, store.saveProject changed)

end

end ProjectManager
