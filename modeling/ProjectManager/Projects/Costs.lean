import ProjectManager.Projects.Lifecycle

/-! # Cost items

Where changes of cost items are governed, a change is requested instead of made.
-/

namespace ProjectManager

open Foundation ServiceProgram

/-- Who may change a cost item, and who may ask for the change where it is governed. -/
def requireCostPermission (services : ProjectManagementServices) (projectId : String)
    (governed : Bool) (manageLabel requestLabel : String) : Except DomainError Unit := do
  let permission := if governed then "approval.request" else "cost.manage"
  let operationLabel := if governed then requestLabel else manageLabel
  services.userSession.requirePermission permission operationLabel
  services.userSession.requireProjectPermission projectId permission operationLabel

def validateNonNegative (value : ℚ) (label : String) : Except DomainError Unit :=
  ensure (0 ≤ value) (validationError (label ++ " cannot be negative."))

def resolveTaskForProject (projectId : String) (taskId : Option String) (store : ProjectStore) :
    Except DomainError Unit :=
  whenGiven taskId fun taskId => do
    let task ← require (store.tasks.get? taskId) taskNotFound
    ensure (task.projectId = projectId)
      (validationError "Task must belong to the selected project." "TASK_PROJECT_MISMATCH")

structure AddCostArguments where
  projectId : String
  description : String
  plannedAmount : ℚ
  taskId : Option String := none
  costType : CostType := .overhead
  committedAmount : ℚ := 0
  actualAmount : ℚ := 0
  incurredDate : Option Date := none
  currencyCode : Option String := none

structure UpdateCostArguments where
  description : Option String := none
  plannedAmount : Option ℚ := none
  committedAmount : Option ℚ := none
  actualAmount : Option ℚ := none
  costType : Option CostType := none
  incurredDate : Option Date := none
  currencyCode : Option String := none
  expectedVersion : Option ℤ := none

/-- Write a cost item under its next version. -/
def ProjectStore.saveCost (store : ProjectStore) (item : CostItem) : ProjectStore :=
  { store with costs := store.costs.update { item with version := item.version + 1 } }

section

variable (services : ProjectManagementServices)

/-- The checks of `add_cost_item`. -/
def prepareCostItem (arguments : AddCostArguments) (store : ProjectStore) :
    Except DomainError Unit := do
  requireCostPermission services arguments.projectId (services.governed "cost.add" false)
    "add cost item" "request cost item creation"
  let _ ← require (store.projects.get? arguments.projectId) projectNotFound
  resolveTaskForProject arguments.projectId arguments.taskId store
  validateNonNegative arguments.plannedAmount "Planned amount"
  validateNonNegative arguments.committedAmount "Committed amount"
  validateNonNegative arguments.actualAmount "Actual amount"

def newCostItem (id : String) (arguments : AddCostArguments) : CostItem where
  id := id
  projectId := arguments.projectId
  taskId := arguments.taskId
  description := strip arguments.description
  plannedAmount := arguments.plannedAmount
  costType := arguments.costType
  committedAmount := arguments.committedAmount
  actualAmount := arguments.actualAmount
  incurredDate := arguments.incurredDate
  currencyCode := some (resolvedCurrency arguments.currencyCode)

def insertCostItem (item : CostItem) (store : ProjectStore) :
    Except DomainError (CostItem × ProjectStore) := do
  ensure (item.id ∉ store.costs.ids) (takenPrimaryKey "cost_items")
  return (item, { store with costs := store.costs.insert item })

/-- `add_cost_item`, with the generated ids of the item and of a request. -/
def addCostItem (id requestId : String) (arguments : AddCostArguments) :
    ServiceProgram CostItem := do
  readProjects (prepareCostItem services arguments)
  if services.governed "cost.add" false then
    requestGovernedChange services "cost.add" "cost_item"
      ((arguments.taskId.filter (· ≠ "")).getD arguments.projectId) (some arguments.projectId)
      .empty "cost creation" requestId
  else committed (insertCostItem (newCostItem id arguments))

/-- The cost item that the current user may update. -/
def prepareCostUpdate (costId : String) (arguments : UpdateCostArguments) (store : ProjectStore) :
    Except DomainError CostItem := do
  let item ← require (store.costs.get? costId)
    (notFoundError "Cost item not found." "COST_NOT_FOUND")
  requireCostPermission services item.projectId (services.governed "cost.update" false)
    "update cost item" "request cost item update"
  ensure (∀ version ∈ arguments.expectedVersion, item.version = version) (staleWrite "Cost item")
  return item

/-- The item after an update: an argument that is missing leaves its field. -/
def changedCostItem (item : CostItem) (arguments : UpdateCostArguments) : CostItem :=
  { item with
    description := (arguments.description.map strip).getD item.description
    plannedAmount := arguments.plannedAmount.getD item.plannedAmount
    actualAmount := arguments.actualAmount.getD item.actualAmount
    committedAmount := arguments.committedAmount.getD item.committedAmount
    costType := arguments.costType.getD item.costType
    incurredDate := arguments.incurredDate.or item.incurredDate
    currencyCode := if arguments.currencyCode.isSome then
        some (resolvedCurrency arguments.currencyCode)
      else item.currencyCode }

def saveChangedCost (item : CostItem) (arguments : UpdateCostArguments) (store : ProjectStore) :
    Except DomainError (CostItem × ProjectStore) := do
  whenGiven arguments.plannedAmount fun amount => validateNonNegative amount "Planned amount"
  whenGiven arguments.actualAmount fun amount => validateNonNegative amount "Actual amount"
  whenGiven arguments.committedAmount fun amount => validateNonNegative amount "Committed amount"
  let changed := changedCostItem item arguments
  return ({ changed with version := changed.version + 1 }, store.saveCost changed)

def updateCostItem (costId requestId : String) (arguments : UpdateCostArguments) :
    ServiceProgram CostItem := do
  let item ← readProjects (prepareCostUpdate services costId arguments)
  if services.governed "cost.update" false then
    requestGovernedChange services "cost.update" "cost_item" item.id (some item.projectId)
      .empty "cost update" requestId
  else committed (saveChangedCost item arguments)

def listCostItemsForProject (projectId : String) (store : ProjectStore) :
    Except DomainError (List CostItem) := do
  services.userSession.requirePermission "cost.read" "list project costs"
  services.userSession.requireProjectPermission projectId "cost.read" "list project costs"
  return store.costs.rows.filter fun item => item.projectId = projectId

end

end ProjectManager
