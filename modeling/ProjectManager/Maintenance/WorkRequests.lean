import ProjectManager.Maintenance.Schedule

/-! # Work requests

A request is made by hand or by a preventive plan, triaged, and converted into a
work order. A call checks the request before it saves it.
-/

namespace ProjectManager.Maintenance

open Foundation

structure CreateWorkRequestArguments where
  siteId : String
  workRequestCode : String
  sourceType : Option (Choice WorkRequestSourceType)
  sourceId : Option String := none
  sourcePlanTaskIds : List String := []
  requestType : String
  context : WorkContext := {}
  title : String := ""
  description : String := ""
  priority : Option (Choice Priority) := none
  failureSymptomCode : String := ""
  safetyRiskLevel : String := ""
  productionImpactLevel : String := ""
  notes : String := ""
  requestId : String

structure UpdateWorkRequestArguments where
  workRequestId : String
  workRequestCode : Option String := none
  requestType : Option String := none
  context : WorkContext := {}
  title : Option String := none
  description : Option String := none
  priority : Option (Choice Priority) := none
  status : Option (Choice WorkRequestStatus) := none
  failureSymptomCode : Option String := none
  safetyRiskLevel : Option String := none
  productionImpactLevel : Option String := none
  notes : Option String := none
  expectedVersion : Option ℕ := none

def workRequestSubject : Subject := ⟨"work request", "MAINTENANCE_WORK_REQUEST"⟩

def workRequestCodeExists : DomainError :=
  validationError "Work request code already exists in the active organization."
    "MAINTENANCE_WORK_REQUEST_CODE_EXISTS"

def WorkRequest.context (row : WorkRequest) : WorkContext where
  assetId := row.assetId
  componentId := row.componentId
  systemId := row.systemId
  locationId := row.locationId

def workRequestTransitions : WorkRequestStatus → List WorkRequestStatus
  | .new => [.triaged, .approved, .rejected, .converted, .deferred]
  | .triaged => [.approved, .rejected, .converted, .deferred]
  | .approved => [.converted, .deferred]
  | .rejected => []
  | .converted => []
  | .deferred => [.triaged, .approved, .rejected, .converted]

def validateWorkRequestStatusTransition (currentStatus newStatus : WorkRequestStatus) :
    Except DomainError Unit :=
  ensure (newStatus ∈ workRequestTransitions currentStatus)
    (validationError ("Cannot change work request status from " ++ currentStatus.value ++ " to " ++
      newStatus.value ++ ".") "MAINTENANCE_WORK_REQUEST_STATUS_INVALID_TRANSITION")

/-- The references that are given, and those of the row for the others. -/
def WorkContext.or (given stored : WorkContext) : WorkContext where
  assetId := given.assetId <|> stored.assetId
  componentId := given.componentId <|> stored.componentId
  systemId := given.systemId <|> stored.systemId
  locationId := given.locationId <|> stored.locationId

section

variable (services : MaintenanceServices) (store : MaintenanceStore)

def findFailureCode (organization failureCode : String) : Option FailureCode :=
  store.failureCodes.rows.find? fun row =>
    row.organizationId = organization ∧ row.failureCode = failureCode

def normalizeFailureSymptomCode (organization value : String) : Except DomainError String := do
  let normalized := upper (strip value)
  if normalized = "" then
    return normalized
  else
    let failureCode ← require (findFailureCode store organization normalized)
      (validationError "Failure symptom code not found in the active organization."
        "MAINTENANCE_FAILURE_SYMPTOM_CODE_NOT_FOUND")
    ensure (failureCode.codeType = .symptom)
      (validationError "Failure symptom code must use a SYMPTOM maintenance failure code."
        "MAINTENANCE_FAILURE_SYMPTOM_CODE_INVALID")
    return normalized

def findWorkRequest (organization workRequestCode : String) : Option WorkRequest :=
  store.requests.rows.find? fun row =>
    row.organizationId = organization ∧ row.workRequestCode = workRequestCode

def requireWorkRequest (organization workRequestId : String) : Except DomainError WorkRequest :=
  require ((store.requests.get? workRequestId).filter fun row => row.organizationId = organization)
    (notFoundError "Maintenance work request not found in the active organization."
      "MAINTENANCE_WORK_REQUEST_NOT_FOUND")

def getWorkRequest (workRequestId : String) : Except DomainError WorkRequest := do
  services.requireRead "view maintenance work request"
  let organization ← services.organization
  let row ← requireWorkRequest store organization workRequestId
  services.requireScopeRead (scopeAnchorFor store row.context) "view maintenance work request"
  return row

/-- The name of the current user, when the user is stored. -/
def requesterName : String :=
  match services.userId.bind store.users.get? with
  | some user => orElse (user.displayName.getD "") user.username
  | none => ""

def prepareWorkRequest (arguments : CreateWorkRequestArguments) :
    Except DomainError WorkRequest := do
  services.requireManage "create maintenance work request"
  let organization ← services.organization
  let site ← getSite store organization arguments.siteId
  let code ← normalizeMaintenanceCode arguments.workRequestCode "Work request code"
  let sourceType ← coerceWorkRequestSourceType arguments.sourceType
  let requestType ← normalizeMaintenanceName arguments.requestType "Request type"
  let sourceId := normalizeReference arguments.sourceId
  ensure (findWorkRequest store organization code = none) workRequestCodeExists
  ensure (¬ (sourceType = .preventivePlan ∧ sourceId = none))
    (validationError "Preventive maintenance work requests must retain their source plan id."
      "MAINTENANCE_WORK_REQUEST_SOURCE_REQUIRED")
  let context ← resolveContextReferences store organization workRequestSubject site.id
    arguments.context
  let priority ← coercePriority arguments.priority
  let failureSymptomCode ← normalizeFailureSymptomCode store organization
    arguments.failureSymptomCode
  return {
    id := arguments.requestId
    organizationId := organization
    siteId := site.id
    workRequestCode := code
    sourceType := sourceType
    sourceId := sourceId
    sourcePlanTaskIds := (arguments.sourcePlanTaskIds.map strip).filter (· ≠ "")
    requestType := upper requestType
    assetId := context.assetId
    componentId := context.componentId
    systemId := context.systemId
    locationId := context.locationId
    title := strip arguments.title
    description := strip arguments.description
    priority := priority
    requestedByUserId := services.userId
    requestedByNameSnapshot := requesterName services store
    failureSymptomCode := failureSymptomCode
    safetyRiskLevel := strip arguments.safetyRiskLevel
    productionImpactLevel := strip arguments.productionImpactLevel
    notes := strip arguments.notes }

def insertWorkRequest (row : WorkRequest) : Except DomainError MaintenanceStore := do
  services.save workRequestCodeExists store.requests.ids row.id
  return { store with requests := store.requests.insert row }

/-- A triaged request remembers who triaged it first. -/
def triaged (row : WorkRequest) : WorkRequest :=
  if row.triagedAt = none then
    { row with
      triagedAt := some services.now
      triagedByUserId := (givenReference services.userId) <|> row.triagedByUserId }
  else row

def changeRequestStatus (row : WorkRequest) (status : Option (Choice WorkRequestStatus)) :
    Except DomainError WorkRequest :=
  match status with
  | none => .ok row
  | some _ => do
      let newStatus ← coerceWorkRequestStatus status
      validateWorkRequestStatusTransition row.status newStatus
      let changed := { row with status := newStatus }
      return if newStatus = .triaged then triaged services changed else changed

def changedRequestCode (row : WorkRequest) (given : String) : Except DomainError String := do
  let code ← normalizeMaintenanceCode given "Work request code"
  ensure (∀ other ∈ findWorkRequest store row.organizationId code, other.id = row.id)
    workRequestCodeExists
  return code

def prepareUpdatedWorkRequest (arguments : UpdateWorkRequestArguments) :
    Except DomainError WorkRequest := do
  services.requireManage "update maintenance work request"
  let row ← getWorkRequest services store arguments.workRequestId
  ensure (∀ version ∈ arguments.expectedVersion, row.version = version)
    (staleWrite "Maintenance work request")
  let changed ← changeRequestStatus services row arguments.status
  let code ← givenOr arguments.workRequestCode row.workRequestCode (changedRequestCode store row)
  let requestType ← givenOr arguments.requestType row.requestType fun given =>
    upper <$> normalizeMaintenanceName given "Request type"
  let organization ← services.organization
  let site ← getSite store organization row.siteId
  let context ← resolveContextReferences store organization workRequestSubject site.id
    (arguments.context.or row.context)
  let priority ← givenOr arguments.priority row.priority fun given => coercePriority (some given)
  let failureSymptomCode ← givenOr arguments.failureSymptomCode row.failureSymptomCode
    (normalizeFailureSymptomCode store organization)
  return { changed with
    workRequestCode := code
    requestType := requestType
    assetId := context.assetId
    componentId := context.componentId
    systemId := context.systemId
    locationId := context.locationId
    title := (arguments.title.map strip).getD row.title
    description := (arguments.description.map strip).getD row.description
    priority := priority
    failureSymptomCode := failureSymptomCode
    safetyRiskLevel := (arguments.safetyRiskLevel.map strip).getD row.safetyRiskLevel
    productionImpactLevel :=
      (arguments.productionImpactLevel.map strip).getD row.productionImpactLevel
    notes := (arguments.notes.map strip).getD row.notes
    version := row.version + 1 }

end

def updateRequestRow (row : WorkRequest) (store : MaintenanceStore) : MaintenanceStore :=
  { store with requests := store.requests.update row }

def createWorkRequest (services : MaintenanceServices) (arguments : CreateWorkRequestArguments) :
    MaintenanceProgram WorkRequest :=
  Program.transact (fun store => prepareWorkRequest services store arguments)
    fun row store => insertWorkRequest services store row

def updateWorkRequest (services : MaintenanceServices) (arguments : UpdateWorkRequestArguments) :
    MaintenanceProgram WorkRequest :=
  Program.transact (fun store => prepareUpdatedWorkRequest services store arguments)
    fun row store => .ok (updateRequestRow row store)

end ProjectManager.Maintenance
