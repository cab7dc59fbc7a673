import ProjectManager.Projects.Lifecycle

/-! # Resources

A resource stands for an external worker or for an employee. The name, the role
and the contact of an employee come from the employee directory.
-/

namespace ProjectManager

open Foundation

/-- What the resource service reads of an employee. -/
structure DirectoryEmployee where
  fullName : String
  title : String := ""
  email : Option String := none
  phone : Option String := none
  isActive : Bool := true
  deriving DecidableEq

structure ResourceService where
  userSession : AuthorizationEngine
  employeeRepo : Option (String → Option DirectoryEmployee)

def employeeContact (employee : DirectoryEmployee) : String :=
  strip (((employee.email.filter (· ≠ "")).or employee.phone).getD "")

def normalizeCapacityPercent (value : Option ℚ) : Except DomainError ℚ := do
  let resolved := value.getD 100
  ensure (0 < resolved) (validationError "Capacity percent must be greater than zero.")
  return resolved

/-- The active employee that a resource stands for. -/
def ResourceService.requireEmployee (service : ResourceService) (employeeId : Option String) :
    Except DomainError DirectoryEmployee := do
  let employeeId ← require (employeeId.filter (· ≠ ""))
    (validationError "Employee resource requires an employee selection.")
  let employeeRepo ← require service.employeeRepo
    (validationError "Employee directory is not available.")
  let employee ← require (employeeRepo employeeId)
    (validationError "Selected employee was not found." "EMPLOYEE_NOT_FOUND")
  ensure (employee.isActive = true)
    (validationError "Selected employee is inactive." "EMPLOYEE_INACTIVE")
  return employee

structure CreateResourceArguments where
  name : String
  role : String := ""
  hourlyRate : ℚ := 0
  isActive : Bool := true
  costType : CostType := .labor
  currencyCode : Option String := none
  capacityPercent : ℚ := 100
  address : String := ""
  contact : String := ""
  workerType : WorkerType := .external
  employeeId : Option String := none

structure UpdateResourceArguments where
  name : Option String := none
  role : Option String := none
  hourlyRate : Option ℚ := none
  isActive : Option Bool := none
  costType : Option CostType := none
  currencyCode : Option String := none
  capacityPercent : Option ℚ := none
  address : Option String := none
  contact : Option String := none
  workerType : Option WorkerType := none
  employeeId : Option String := none
  expectedVersion : Option ℤ := none

/-- Write a resource under its next version. -/
def ProjectStore.saveResource (store : ProjectStore) (resource : Resource) : ProjectStore :=
  { store with
    resources := store.resources.update { resource with version := resource.version + 1 } }

section

variable (service : ResourceService)

/-- The employee of a resource that stands for one. -/
def employeeOf (workerType : WorkerType) (employeeId : Option String) :
    Except DomainError (Option DirectoryEmployee) :=
  if workerType = .employee then (service.requireEmployee employeeId).map some else .ok none

/-- `create_resource`, with the generated id as an argument. -/
def createResource (id : String) (arguments : CreateResourceArguments) (store : ProjectStore) :
    Except DomainError (Resource × ProjectStore) := do
  service.userSession.requirePermission "resource.manage" "create resource"
  let employee ← employeeOf service arguments.workerType arguments.employeeId
  let name := (employee.map DirectoryEmployee.fullName).getD (strip arguments.name)
  ensure (name ≠ "") (validationError "Resource name cannot be empty.")
  ensure (0 ≤ arguments.hourlyRate) (validationError "Hourly rate cannot be negative.")
  let capacity ← normalizeCapacityPercent (some arguments.capacityPercent)
  let role := strip arguments.role
  let contact := strip arguments.contact
  let resource : Resource :=
    { id := id
      name := name
      role := (employee.map fun employee => orElse employee.title role).getD role
      hourlyRate := arguments.hourlyRate
      isActive := arguments.isActive
      costType := arguments.costType
      currencyCode := some (resolvedCurrency arguments.currencyCode)
      capacityPercent := capacity
      address := strip arguments.address
      contact := (employee.map fun employee => orElse (employeeContact employee) contact).getD
        contact
      workerType := arguments.workerType
      employeeId := if arguments.workerType = .employee then arguments.employeeId else none }
  ensure (id ∉ store.resources.ids) (takenPrimaryKey "resources")
  return (resource, { store with resources := store.resources.insert resource })

/-- The resource after an update, before its employee is looked up. -/
def changedResource (resource : Resource) (arguments : UpdateResourceArguments) : Resource :=
  { resource with
    name := (arguments.name.map strip).getD resource.name
    role := (arguments.role.map strip).getD resource.role
    hourlyRate := arguments.hourlyRate.getD resource.hourlyRate
    isActive := arguments.isActive.getD resource.isActive
    costType := arguments.costType.getD resource.costType
    currencyCode := if arguments.currencyCode.isSome then upperOrNone arguments.currencyCode
      else resource.currencyCode
    capacityPercent := arguments.capacityPercent.getD resource.capacityPercent
    address := (arguments.address.map strip).getD resource.address
    contact := (arguments.contact.map strip).getD resource.contact
    workerType := arguments.workerType.getD resource.workerType }

def withEmployee (resource : Resource) (employeeId : Option String) :
    Option DirectoryEmployee → Resource
  | some employee =>
      { resource with
        name := employee.fullName
        role := orElse employee.title resource.role
        contact := employeeContact employee
        employeeId := employeeId }
  | none => { resource with employeeId := none }

def updateResource (resourceId : String) (arguments : UpdateResourceArguments)
    (store : ProjectStore) : Except DomainError (Resource × ProjectStore) := do
  service.userSession.requirePermission "resource.manage" "update resource"
  let resource ← require (store.resources.get? resourceId)
    (notFoundError "Resource not found." "RESOURCE_NOT_FOUND")
  ensure (∀ version ∈ arguments.expectedVersion, resource.version = version)
    (staleWrite "Resource")
  ensure (∀ name ∈ arguments.name, strip name ≠ "")
    (validationError "Resource name cannot be empty.")
  ensure (∀ rate ∈ arguments.hourlyRate, 0 ≤ rate)
    (validationError "Hourly rate cannot be negative.")
  whenGiven arguments.capacityPercent fun capacity => do
    let _ ← normalizeCapacityPercent (some capacity)
  let changed := changedResource resource arguments
  let employeeId :=
    if arguments.workerType.isSome ∨ arguments.employeeId.isSome then arguments.employeeId
    else resource.employeeId
  let employee ← employeeOf service changed.workerType employeeId
  let saved := withEmployee changed employeeId employee
  return ({ saved with version := saved.version + 1 }, store.saveResource saved)

def listResources (store : ProjectStore) : Except DomainError (List Resource) := do
  service.userSession.requirePermission "resource.read" "list resources"
  return store.resources.rows

end

end ProjectManager
