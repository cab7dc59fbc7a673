import ProjectManager.Maintenance.WorkPackages

/-! # Work orders

A work order may be created from a work request, which it converts. For a request
of a preventive plan the order is then filled with the tasks of the plan and
linked to the instance that the request was generated for. Completing a
preventive order completes its instance.
-/

namespace ProjectManager.Maintenance

open Foundation

structure CreateWorkOrderArguments where
  siteId : String
  workOrderCode : String
  workOrderType : Option (Choice WorkOrderType)
  sourceType : String
  sourceId : Option String := none
  context : WorkContext := {}
  title : String := ""
  description : String := ""
  priority : Option (Choice Priority) := none
  assignedTeamId : Option String := none
  requiresShutdown : Bool := false
  permitRequired : Bool := false
  approvalRequired : Bool := false
  vendorPartyId : Option String := none
  isPreventive : Bool := false
  isEmergency : Bool := false
  notes : String := ""
  orderId : String
  package : PackageIds

structure UpdateWorkOrderArguments where
  workOrderId : String
  workOrderCode : Option String := none
  workOrderType : Option (Choice WorkOrderType) := none
  sourceId : Option String := none
  context : WorkContext := {}
  title : Option String := none
  description : Option String := none
  priority : Option (Choice Priority) := none
  status : Option (Choice WorkOrderStatus) := none
  plannerUserId : Option String := none
  supervisorUserId : Option String := none
  assignedTeamId : Option String := none
  assignedEmployeeId : Option String := none
  plannedStart : Option Moment := none
  plannedEnd : Option Moment := none
  requiresShutdown : Option Bool := none
  permitRequired : Option Bool := none
  approvalRequired : Option Bool := none
  failureCode : Option String := none
  rootCauseCode : Option String := none
  downtimeMinutes : Option ℤ := none
  partsCost : Option ℚ := none
  laborCost : Option ℚ := none
  vendorPartyId : Option String := none
  isPreventive : Option Bool := none
  isEmergency : Option Bool := none
  notes : Option String := none
  expectedVersion : Option ℕ := none

def workOrderSubject : Subject := ⟨"work order", "MAINTENANCE_WORK_ORDER"⟩

def workOrderCodeExists : DomainError :=
  validationError "Work order code already exists in the active organization."
    "MAINTENANCE_WORK_ORDER_CODE_EXISTS"

def WorkOrder.context (row : WorkOrder) : WorkContext where
  assetId := row.assetId
  componentId := row.componentId
  systemId := row.systemId
  locationId := row.locationId

def findWorkOrder (store : MaintenanceStore) (organization workOrderCode : String) :
    Option WorkOrder :=
  store.orders.rows.find? fun row =>
    row.organizationId = organization ∧ row.workOrderCode = workOrderCode

/-! ## Creation -/

section

variable (services : MaintenanceServices) (store : MaintenanceStore)

/-- The request that an order is created from. -/
def sourceRequest (organization siteId sourceType : String) (sourceId : Option String) :
    Except DomainError (Option WorkRequest) :=
  if sourceType = "WORK_REQUEST" then do
    let requestId ← require (givenReference sourceId)
      (validationError "Source id is required when creating a work order from a work request."
        "MAINTENANCE_WORK_ORDER_SOURCE_REQUIRED")
    let request ← requireWorkRequest store organization requestId
    ensure (request.siteId = siteId)
      (validationError "Maintenance work order source must belong to the selected site."
        "MAINTENANCE_WORK_ORDER_SITE_MISMATCH")
    return some request
  else .ok none

/-- What an order takes over from its request when it is not given. -/
def CreateWorkOrderArguments.inherit (arguments : CreateWorkOrderArguments)
    (request : WorkRequest) : CreateWorkOrderArguments :=
  { arguments with
    context := arguments.context.or request.context
    title := orElse arguments.title request.title
    description := orElse arguments.description request.description
    priority := arguments.priority <|> some (.member request.priority)
    isPreventive :=
      if request.sourceType = .preventivePlan then true else arguments.isPreventive }

def CreateWorkOrderArguments.resolved (arguments : CreateWorkOrderArguments)
    (request : Option WorkRequest) : CreateWorkOrderArguments :=
  match request with
  | some request => arguments.inherit request
  | none => arguments

def prepareWorkOrder (given : CreateWorkOrderArguments) :
    Except DomainError (WorkOrder × Option WorkRequest) := do
  services.requireManage "create maintenance work order"
  let organization ← services.organization
  let site ← getSite store organization given.siteId
  let code ← normalizeMaintenanceCode given.workOrderCode "Work order code"
  let workOrderType ← coerceWorkOrderType given.workOrderType
  let sourceType ← normalizeMaintenanceCode given.sourceType "Source type"
  ensure (findWorkOrder store organization code = none) workOrderCodeExists
  let request ← sourceRequest store organization site.id sourceType given.sourceId
  let arguments := given.resolved request
  let context ← resolveContextReferences store organization workOrderSubject site.id
    arguments.context
  let priority ← coercePriority arguments.priority
  return ({
    id := arguments.orderId
    organizationId := organization
    siteId := site.id
    workOrderCode := code
    workOrderType := workOrderType
    sourceType := sourceType
    sourceId := given.sourceId
    assetId := context.assetId
    componentId := context.componentId
    systemId := context.systemId
    locationId := context.locationId
    title := strip arguments.title
    description := strip arguments.description
    priority := priority
    requestedByUserId := services.userId
    assignedTeamId := arguments.assignedTeamId
    requiresShutdown := arguments.requiresShutdown
    permitRequired := arguments.permitRequired
    approvalRequired := arguments.approvalRequired
    vendorPartyId := arguments.vendorPartyId
    isPreventive := arguments.isPreventive
    isEmergency := arguments.isEmergency
    notes := strip arguments.notes }, request)

/-- Convert the request of an order. A request that is converted already stays as it is. -/
def convertSourceRequest (request : WorkRequest) : Except DomainError MaintenanceStore :=
  if request.status = .rejected then
    .error (validationError
      "Rejected maintenance work requests cannot be converted into work orders."
      "MAINTENANCE_WORK_REQUEST_STATUS_INVALID_TRANSITION")
  else if request.status = .converted then .ok store
  else
    .ok (updateRequestRow
      { triaged services { request with status := .converted } with version := request.version + 1 }
      store)

def syncSourceRequestConversion (request : Option WorkRequest) :
    Except DomainError MaintenanceStore :=
  match request with
  | some request => convertSourceRequest services store request
  | none => .ok store

/-- The order is saved together with the conversion of its request. -/
def insertWorkOrder (order : WorkOrder) (request : Option WorkRequest) :
    Except DomainError MaintenanceStore := do
  let converted ← syncSourceRequestConversion services store request
  services.save workOrderCodeExists store.orders.ids order.id
  return { converted with orders := converted.orders.insert order }

def resolvePreventiveRequestPlanTasks (organization planId : String) (request : WorkRequest) :
    List PreventivePlanTask :=
  let planTasks := listPlanTasks store organization planId
  let selected := planTasks.filter fun row =>
    row.id ≠ "" ∧ row.id ∈ request.sourcePlanTaskIds
  if selected.isEmpty then planTasks else selected

/-- The first instance by due date that a request was generated for. -/
def instanceOfRequest (organization workRequestId : String) : Option PreventivePlanInstance :=
  ((store.instances.rows.filter fun row => row.organizationId = organization ∧
    row.generatedWorkRequestId = some workRequestId).insertionSort
      fun first second => first.dueAt ≤ second.dueAt).head?

def linkInstance (instanceId workOrderId : String) : MaintenanceStore :=
  { store with
    instances := store.instances.modify instanceId
      (fun row => { row with generatedWorkOrderId := some workOrderId })
      (fun _ => rfl) fun _ => rfl }

def syncPreventiveRequestInstanceLink (organization workRequestId workOrderId : String) :
    MaintenanceStore :=
  match instanceOfRequest store organization workRequestId with
  | some row => linkInstance store row.id workOrderId
  | none => store

def planOfRequest (organization : String) (request : WorkRequest) : Option PreventivePlan :=
  if request.sourceType = .preventivePlan then
    ((givenReference request.sourceId).bind store.plans.get?).filter fun plan =>
      plan.organizationId = organization
  else none

end

section

variable (services : MaintenanceServices)

/-- Fill an order with the tasks of its preventive plan, and link it. -/
def applyPlanPackage (order : WorkOrder) (request : WorkRequest) (package : PackageIds)
    (plan : PreventivePlan) : MaintenanceProgram Unit := do
  let planTasks ← Program.read fun store =>
    resolvePreventiveRequestPlanTasks store order.organizationId plan.id request
  let _ ← populateWorkOrder services plan planTasks order.id package
  Program.save fun store =>
    .ok (syncPreventiveRequestInstanceLink store order.organizationId request.id order.id)

def applyRequestSourceWorkPackage (order : WorkOrder) (request : Option WorkRequest)
    (package : PackageIds) : MaintenanceProgram Unit := do
  let plan ← Program.read fun store => request.bind (planOfRequest store order.organizationId)
  match request, plan with
  | some request, some plan => applyPlanPackage services order request package plan
  | _, _ => return ()

def createWorkOrder (arguments : CreateWorkOrderArguments) : MaintenanceProgram WorkOrder := do
  let (order, request) ← Program.transact
    (fun store => prepareWorkOrder services store arguments)
    fun plan store => insertWorkOrder services store plan.1 plan.2
  applyRequestSourceWorkPackage services order request arguments.package
  return order

end

/-! ## Updates -/

def workOrderTransitions : WorkOrderStatus → List WorkOrderStatus
  | .draft => [.planned, .cancelled]
  | .planned => [.waitingParts, .waitingApproval, .waitingShutdown, .scheduled, .released, .cancelled]
  | .waitingParts => [.planned, .scheduled, .released, .cancelled]
  | .waitingApproval => [.planned, .scheduled, .released, .cancelled]
  | .waitingShutdown => [.planned, .scheduled, .released, .cancelled]
  | .scheduled => [.released, .cancelled]
  | .released => [.inProgress, .cancelled]
  | .inProgress => [.paused, .completed, .cancelled]
  | .paused => [.inProgress, .completed, .cancelled]
  | .completed => [.verified, .closed]
  | .verified => [.closed]
  | .closed => []
  | .cancelled => []

def validateWorkOrderStatusTransition (currentStatus newStatus : WorkOrderStatus) :
    Except DomainError Unit :=
  ensure (newStatus ∈ workOrderTransitions currentStatus)
    (validationError ("Cannot change work order status from " ++ currentStatus.value ++ " to " ++
      newStatus.value ++ ".") "MAINTENANCE_WORK_ORDER_STATUS_INVALID_TRANSITION")

def WorkOrderStatus.isDone (status : WorkOrderStatus) : Bool :=
  status ∈ [WorkOrderStatus.completed, .verified, .closed]

section

variable (services : MaintenanceServices) (store : MaintenanceStore)

def getWorkOrder (workOrderId : String) : Except DomainError WorkOrder := do
  services.requireRead "view maintenance work order"
  let organization ← services.organization
  let row ← requireWorkOrder store organization workOrderId
  services.requireScopeRead (scopeAnchorFor store row.context) "view maintenance work order"
  return row

/-- The times that come with a new status. -/
def stampStatus (row : WorkOrder) (newStatus : WorkOrderStatus) : WorkOrder :=
  let now := services.now
  if newStatus = .inProgress ∧ row.actualStart = none then
    { row with status := newStatus, actualStart := some now }
  else if newStatus ∈ [.completed, .cancelled] ∧ row.actualEnd = none then
    { row with status := newStatus, actualEnd := some now }
  else if newStatus = .closed ∧ row.closedAt = none then
    { row with
      status := newStatus
      closedAt := some now
      closedByUserId := (givenReference services.userId) <|> row.closedByUserId }
  else { row with status := newStatus }

def changeOrderStatus (row : WorkOrder) (status : Option (Choice WorkOrderStatus)) :
    Except DomainError WorkOrder :=
  match status with
  | none => .ok row
  | some _ => do
      let newStatus ← coerceWorkOrderStatus status
      validateWorkOrderStatusTransition row.status newStatus
      return stampStatus services row newStatus

def normalizeFailureCode (organization : String) (expectedType : FailureCodeType)
    (label notFoundCode invalidCode value : String) : Except DomainError String := do
  let normalized := upper (strip value)
  if normalized = "" then
    return normalized
  else
    let failureCode ← require (findFailureCode store organization normalized)
      (validationError (label ++ " not found in the active organization.") notFoundCode)
    ensure (failureCode.codeType = expectedType)
      (validationError (label ++ " must use a " ++ expectedType.value ++
        " maintenance failure code.") invalidCode)
    return normalized

def changedOrderCode (row : WorkOrder) (given : String) : Except DomainError String := do
  let code ← normalizeMaintenanceCode given "Work order code"
  ensure (∀ other ∈ findWorkOrder store row.organizationId code, other.id = row.id)
    workOrderCodeExists
  return code

/-- An order from a request may be given another request as its source. -/
def changedSource (row : WorkOrder) (organization sourceId : String) :
    Except DomainError (Option String) := do
  if row.sourceType = "WORK_REQUEST" then
    let _ ← requireWorkRequest store organization sourceId
    return some sourceId
  else return some sourceId

def prepareUpdatedWorkOrder (arguments : UpdateWorkOrderArguments) :
    Except DomainError (WorkOrder × WorkOrder) := do
  services.requireManage "update maintenance work order"
  let row ← getWorkOrder services store arguments.workOrderId
  ensure (∀ version ∈ arguments.expectedVersion, row.version = version)
    (staleWrite "Maintenance work order")
  let changed ← changeOrderStatus services row arguments.status
  let code ← givenOr arguments.workOrderCode row.workOrderCode (changedOrderCode store row)
  let workOrderType ← givenOr arguments.workOrderType row.workOrderType fun given =>
    coerceWorkOrderType (some given)
  let organization ← services.organization
  let sourceId ← givenOr arguments.sourceId row.sourceId (changedSource store row organization)
  let site ← getSite store organization row.siteId
  let context ← resolveContextReferences store organization workOrderSubject site.id
    (arguments.context.or row.context)
  let priority ← givenOr arguments.priority row.priority fun given => coercePriority (some given)
  let failureCode ← givenOr arguments.failureCode row.failureCode
    (normalizeFailureCode store organization .symptom "Failure code"
      "MAINTENANCE_FAILURE_CODE_NOT_FOUND" "MAINTENANCE_FAILURE_CODE_INVALID")
  let rootCauseCode ← givenOr arguments.rootCauseCode row.rootCauseCode
    (normalizeFailureCode store organization .cause "Root cause code"
      "MAINTENANCE_ROOT_CAUSE_CODE_NOT_FOUND" "MAINTENANCE_ROOT_CAUSE_CODE_INVALID")
  return (row, { changed with
    workOrderCode := code
    workOrderType := workOrderType
    sourceId := sourceId
    assetId := context.assetId
    componentId := context.componentId
    systemId := context.systemId
    locationId := context.locationId
    title := (arguments.title.map strip).getD row.title
    description := (arguments.description.map strip).getD row.description
    priority := priority
    plannerUserId := arguments.plannerUserId <|> row.plannerUserId
    supervisorUserId := arguments.supervisorUserId <|> row.supervisorUserId
    assignedTeamId := arguments.assignedTeamId <|> row.assignedTeamId
    assignedEmployeeId := arguments.assignedEmployeeId <|> row.assignedEmployeeId
    plannedStart := arguments.plannedStart <|> row.plannedStart
    plannedEnd := arguments.plannedEnd <|> row.plannedEnd
    requiresShutdown := arguments.requiresShutdown.getD row.requiresShutdown
    permitRequired := arguments.permitRequired.getD row.permitRequired
    approvalRequired := arguments.approvalRequired.getD row.approvalRequired
    failureCode := failureCode
    rootCauseCode := rootCauseCode
    downtimeMinutes := arguments.downtimeMinutes <|> row.downtimeMinutes
    partsCost := arguments.partsCost <|> row.partsCost
    laborCost := arguments.laborCost <|> row.laborCost
    vendorPartyId := arguments.vendorPartyId <|> row.vendorPartyId
    isPreventive := arguments.isPreventive.getD row.isPreventive
    isEmergency := arguments.isEmergency.getD row.isEmergency
    notes := (arguments.notes.map strip).getD row.notes
    version := row.version + 1 })

/-! ## Completion -/

def completeInstance (instanceId : String) (completedAt : Moment) : MaintenanceStore :=
  { store with
    instances := store.instances.modify instanceId
      (fun row => { row with status := .completed, completedAt := some completedAt })
      (fun _ => rfl) fun _ => rfl }

/-- A floating plan is scheduled anew from the completion. -/
def floatPlan (organization : String) (plan : PreventivePlan) (completedAt : Moment) :
    MaintenanceStore :=
  if plan.schedulePolicy = .floating ∧ plan.triggerMode = .calendar then
    { store with
      instances := store.instances.filter fun row =>
        ¬ (row.organizationId = organization ∧ row.planId = plan.id ∧ row.status = .planned)
      plans := store.plans.update { plan with
        lastCompletedAt := some completedAt
        nextDueAt := nextCalendarDueValue completedAt plan.calendarFrequencyUnit
          plan.calendarFrequencyValue } }
  else
    { store with plans := store.plans.update { plan with lastCompletedAt := some completedAt } }

/-- The instance that an order was generated for. -/
def instanceOfOrder (organization workOrderId : String) : Option PreventivePlanInstance :=
  store.instances.rows.find? fun row =>
    row.organizationId = organization ∧ row.generatedWorkOrderId = some workOrderId

def applyPreventiveCompletion (organization : String) (order : WorkOrder) : MaintenanceStore :=
  if order.isPreventive = false then store
  else
    match instanceOfOrder store organization order.id with
    | none => store
    | some row =>
        let completedAt := order.actualEnd.getD services.now
        let completed := completeInstance store row.id completedAt
        match completed.plans.get? row.planId with
        | none => completed
        | some plan => floatPlan completed organization plan completedAt

/-- The updated order, after the completion of its instance when it is done now. -/
def saveUpdatedWorkOrder (row updated : WorkOrder) : MaintenanceStore :=
  let completed :=
    if row.status.isDone = false ∧ updated.status.isDone = true then
      applyPreventiveCompletion services store updated.organizationId updated
    else store
  { completed with orders := completed.orders.update updated }

end

def updateWorkOrder (services : MaintenanceServices) (arguments : UpdateWorkOrderArguments) :
    MaintenanceProgram (WorkOrder × WorkOrder) :=
  Program.transact (fun store => prepareUpdatedWorkOrder services store arguments)
    fun rows store => .ok (saveUpdatedWorkOrder services store rows.1 rows.2)

end ProjectManager.Maintenance
