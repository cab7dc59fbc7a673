import ProjectManager.Inventory.MaintenanceMaterials
import ProjectManager.Maintenance.WorkOrderTasks

/-! # Material requirements of work orders

A requirement says what a work order needs. Its availability is refreshed from the
stock, and a shortage is escalated to a requisition, which the requirement is then
linked to.
-/

namespace ProjectManager.Maintenance

open Foundation

inductive MaterialProcurementStatus
  | planned
  | availableFromStock
  | shortageIdentified
  | requisitioned
  | partiallyIssued
  | fullyIssued
  | nonStock
  deriving DecidableEq, Repr

structure MaterialRequirement where
  id : String
  organizationId : String
  workOrderId : String
  stockItemId : Option String := none
  description : String := ""
  requiredQty : ℚ
  issuedQty : ℚ := 0
  requiredUom : String := ""
  isStockItem : Bool := true
  preferredStoreroomId : Option String := none
  procurementStatus : MaterialProcurementStatus := .planned
  lastAvailabilityStatus : String := ""
  lastMissingQty : Option ℚ := none
  linkedRequisitionId : Option String := none
  notes : String := ""
  version : ℕ := 1
  deriving DecidableEq

/-- The maintenance rows, the requirements, and the rows of the platform and the inventory. -/
structure MaterialStore where
  maintenance : MaintenanceStore := {}
  requirements : Table MaterialRequirement.id := .empty
  platform : PlatformStore

def MaterialStore.platformPart : Part MaterialStore PlatformStore where
  get := MaterialStore.platform
  set store platform := { store with platform := platform }
  get_set _ _ := rfl
  set_set _ _ _ := rfl

def MaterialStore.writeRequirement (store : MaterialStore) (requirement : MaterialRequirement) :
    MaterialStore :=
  { store with
    requirements := store.requirements.update
      { requirement with version := requirement.version + 1 } }

abbrev MaterialProgram := Program DomainError MaterialStore

/-- The maintenance and the inventory services act for one user. -/
structure MaterialServices extends MaintenanceServices where
  principal : Option (String × String) := none
  today : Date

namespace MaterialServices

variable (services : MaterialServices)

def inventoryService : InventoryService where
  userSession := services.userSession.toAuthorizationEngine
  principal := services.principal
  activeOrganization := services.activeOrganization
  today := services.today
  now := services.now

end MaterialServices

def materialSourceType : String := "maintenance_material_demand"

/-- The status that follows from the quantities and the linked requisition. -/
def deriveBaseProcurementStatus (isStockItem : Bool) (requiredQty issuedQty : ℚ)
    (linkedRequisitionId : Option String) : MaterialProcurementStatus :=
  if isStockItem = false then .nonStock
  else if requiredQty ≤ issuedQty then .fullyIssued
  else if 0 < issuedQty then .partiallyIssued
  else if (givenReference linkedRequisitionId).isSome then .requisitioned
  else .planned

def deriveProcurementStatusFromAvailability (requirement : MaterialRequirement)
    (availability : MaterialAvailability) : MaterialProcurementStatus :=
  let base := deriveBaseProcurementStatus requirement.isStockItem requirement.requiredQty
    requirement.issuedQty requirement.linkedRequisitionId
  if base ≠ .planned then base
  else if availability.status = .availableFromStock then .availableFromStock
  else .shortageIdentified

/-- A quantity that is given may be blank. -/
def coerceOptionalDecimal (value : Option ℚ) (label : String) : Except DomainError (Option ℚ) := do
  ensure (∀ given ∈ value, 0 ≤ given)
    (validationError (label ++ " cannot be negative.") (labelCode label ++ "_NEGATIVE"))
  return value

def coercePositiveDecimal (value : Option ℚ) (label : String) : Except DomainError ℚ := do
  let resolved ← coerceOptionalDecimal value label
  require (resolved.filter fun quantity => 0 < quantity)
    (validationError (label ++ " must be greater than zero.")
      (labelCode label ++ "_POSITIVE_REQUIRED"))

/-- A quantity that is given and blank is `some none`. -/
structure UpdateRequirementArguments where
  materialRequirementId : String
  stockItemId : Option String := none
  description : Option String := none
  requiredQty : Option (Option ℚ) := none
  requiredUom : Option String := none
  issuedQty : Option (Option ℚ) := none
  isStockItem : Option Bool := none
  preferredStoreroomId : Option String := none
  notes : Option String := none
  expectedVersion : Option ℕ := none

structure EscalateRequirementArguments where
  materialRequirementId : String
  neededByDate : Option Date := none
  priority : String := "NORMAL"
  notes : String := ""
  autoSubmit : Bool := false
  expectedVersion : Option ℕ := none
  requisitionId : String
  generatedNumber : String
  lineId : String
  requestId : String

section

variable (services : MaterialServices) (store : MaterialStore)

/-! ## Reading -/

def getRequirement (materialRequirementId : String) : Except DomainError MaterialRequirement := do
  services.requireRead "view maintenance material requirement"
  let organization ← services.organization
  let requirement ← require ((store.requirements.get? materialRequirementId).filter fun row =>
      row.organizationId = organization)
    (notFoundError "Maintenance material requirement not found in the active organization."
      "MAINTENANCE_MATERIAL_REQUIREMENT_NOT_FOUND")
  services.requireScopeRead (orderAnchor store.maintenance requirement.workOrderId)
    "view maintenance material requirement"
  return requirement

/-- The requirement that the current user may change, and its work order. -/
def requireChangeable (operationLabel materialRequirementId : String)
    (expectedVersion : Option ℕ) : Except DomainError (MaterialRequirement × WorkOrder) := do
  services.requireManage operationLabel
  let requirement ← getRequirement services store materialRequirementId
  let organization ← services.organization
  let workOrder ← requireWorkOrder store.maintenance organization requirement.workOrderId
  ensureWorkOrderIsMutable "Material requirements" workOrder
  ensure (∀ version ∈ expectedVersion, requirement.version = version)
    (staleWrite "Maintenance material requirement")
  return (requirement, workOrder)

/-- The item and the storeroom of a stock-based requirement. -/
def requireInventoryLinks (requirement : MaterialRequirement) (purpose : String) :
    Except DomainError (String × String) :=
  match requirement.stockItemId, requirement.preferredStoreroomId with
  | some stockItemId, some storeroomId => .ok (stockItemId, storeroomId)
  | _, _ => .error (validationError
      ("Stock item and preferred storeroom are required before " ++ purpose ++ ".")
      "MAINTENANCE_MATERIAL_INVENTORY_LINKS_REQUIRED")

def materialDemand (requirement : MaterialRequirement) (links : String × String) :
    MaterialDemand where
  stockItemId := links.1
  storeroomId := links.2
  quantity := requirement.requiredQty
  uom := some requirement.requiredUom
  sourceReferenceType := materialSourceType
  sourceReferenceId := requirement.id

def resolveAvailability (requirement : MaterialRequirement) :
    Except DomainError MaterialAvailability := do
  ensure (requirement.isStockItem = true)
    (validationError "Non-stock maintenance material demand does not have inventory availability."
      "MAINTENANCE_MATERIAL_AVAILABILITY_NOT_APPLICABLE")
  let links ← requireInventoryLinks requirement "checking availability"
  getMaterialAvailability services.inventoryService store.platform
    (materialDemand requirement links)

/-! ## Updating -/

def changedQuantities (requirement : MaterialRequirement) (arguments : UpdateRequirementArguments) :
    Except DomainError (ℚ × ℚ) := do
  let requiredQty ← givenOr arguments.requiredQty requirement.requiredQty fun value =>
    coercePositiveDecimal value "Required quantity"
  let issuedQty ← givenOr arguments.issuedQty requirement.issuedQty fun value =>
    (coerceOptionalDecimal value "Issued quantity").map fun quantity => quantity.getD 0
  ensure (issuedQty ≤ requiredQty)
    (validationError "Issued quantity cannot exceed required quantity."
      "MAINTENANCE_MATERIAL_ISSUED_QTY_EXCEEDS_REQUIRED")
  return (requiredQty, issuedQty)

/-- The requirement with the stock item that its demand is based on. -/
def stockBased (requirement : MaterialRequirement) (workOrder : WorkOrder) :
    Except DomainError MaterialRequirement := do
  let stockItemId ← require requirement.stockItemId
    (validationError "Stock item is required for stock-based maintenance material demand."
      "MAINTENANCE_MATERIAL_STOCK_ITEM_REQUIRED")
  let storeroomId ← require requirement.preferredStoreroomId
    (validationError "Preferred storeroom is required for stock-based maintenance material demand."
      "MAINTENANCE_MATERIAL_STOREROOM_REQUIRED")
  let item ← getItemForInternalUse services.inventoryService store.platform.inventory stockItemId
  let storeroom ← getStoreroomForInternalUse services.inventoryService store.platform storeroomId
  ensure (storeroom.siteId = workOrder.siteId)
    (validationError "Preferred storeroom must belong to the same site as the work order."
      "MAINTENANCE_MATERIAL_STOREROOM_SITE_MISMATCH")
  return { requirement with
    requiredUom := orElse requirement.requiredUom
      (upper (strip (orElse item.issueUom item.stockUom)))
    description := orElse requirement.description item.name }

/-- The requirement without anything that ties it to the stock. -/
def nonStock (requirement : MaterialRequirement) : MaterialRequirement :=
  { requirement with
    stockItemId := none
    preferredStoreroomId := none
    lastAvailabilityStatus := ""
    lastMissingQty := none
    linkedRequisitionId := none }

def resolveInventoryLinks (requirement : MaterialRequirement) (workOrder : WorkOrder) :
    Except DomainError MaterialRequirement :=
  if requirement.isStockItem = true then stockBased services store requirement workOrder
  else .ok (nonStock requirement)

/-- The requirement with the fields that an update gives, not yet checked. -/
def givenRequirement (requirement : MaterialRequirement) (arguments : UpdateRequirementArguments)
    (quantities : ℚ × ℚ) : MaterialRequirement :=
  { requirement with
    requiredQty := quantities.1
    issuedQty := quantities.2
    isStockItem := arguments.isStockItem.getD requirement.isStockItem
    stockItemId := if arguments.stockItemId.isSome then normalizeReference arguments.stockItemId
      else requirement.stockItemId
    preferredStoreroomId := if arguments.preferredStoreroomId.isSome then
        normalizeReference arguments.preferredStoreroomId
      else requirement.preferredStoreroomId
    requiredUom := (arguments.requiredUom.map fun uom => upper (strip uom)).getD
      requirement.requiredUom
    description := (arguments.description.map strip).getD requirement.description
    notes := (arguments.notes.map strip).getD requirement.notes }

def prepareUpdatedRequirement (arguments : UpdateRequirementArguments) :
    Except DomainError MaterialRequirement := do
  let (requirement, workOrder) ← requireChangeable services store
    "update maintenance material requirement" arguments.materialRequirementId
    arguments.expectedVersion
  let quantities ← changedQuantities requirement arguments
  let given := givenRequirement requirement arguments quantities
  let changed ← resolveInventoryLinks services store given workOrder
  ensure (changed.requiredUom ≠ "")
    (validationError "Required UOM is required for maintenance material demand."
      "MAINTENANCE_MATERIAL_REQUIRED_UOM_REQUIRED")
  ensure (changed.description ≠ "")
    (validationError "Description is required for maintenance material demand."
      "MAINTENANCE_MATERIAL_DESCRIPTION_REQUIRED")
  return { changed with
    procurementStatus := deriveBaseProcurementStatus changed.isStockItem changed.requiredQty
      changed.issuedQty changed.linkedRequisitionId }

def prepareRefreshedRequirement (materialRequirementId : String) (expectedVersion : Option ℕ) :
    Except DomainError MaterialRequirement := do
  let (requirement, _) ← requireChangeable services store
    "refresh maintenance material availability" materialRequirementId expectedVersion
  if requirement.isStockItem = false then
    return { requirement with
      procurementStatus := .nonStock
      lastAvailabilityStatus := "NON_STOCK"
      lastMissingQty := none }
  else
    let availability ← resolveAvailability services store requirement
    return { requirement with
      lastAvailabilityStatus := availability.status.value
      lastMissingQty := some availability.missingStockQty
      procurementStatus := deriveProcurementStatusFromAvailability requirement availability }

/-! ## Escalating -/

/-- The requirement whose shortage is escalated, and what is asked of the inventory. -/
def prepareEscalatedRequirement (arguments : EscalateRequirementArguments) :
    Except DomainError (MaterialRequirement × EscalationArguments) := do
  let (requirement, _) ← requireChangeable services store
    "escalate maintenance material shortage" arguments.materialRequirementId
    arguments.expectedVersion
  ensure (requirement.isStockItem = true)
    (validationError ("Non-stock maintenance material demand cannot be escalated through " ++
      "inventory procurement.") "MAINTENANCE_MATERIAL_NON_STOCK_ESCALATION_INVALID")
  let links ← requireInventoryLinks requirement "escalating maintenance demand"
  return (requirement, {
    demand := materialDemand requirement links
    neededByDate := arguments.neededByDate
    priority := arguments.priority
    notes := orElse arguments.notes requirement.notes
    autoSubmit := arguments.autoSubmit
    requisitionId := arguments.requisitionId
    generatedNumber := arguments.generatedNumber
    lineId := arguments.lineId
    requestId := arguments.requestId })

end

/-- The requirement once its shortage is escalated. -/
def escalatedRequirement (requirement : MaterialRequirement) (requisitionId : String)
    (availability : MaterialAvailability) : MaterialRequirement :=
  { requirement with
    linkedRequisitionId := some requisitionId
    lastAvailabilityStatus := availability.status.value
    lastMissingQty := some availability.missingStockQty
    procurementStatus := .requisitioned }

section

variable (services : MaterialServices)

/-- Write a requirement and commit, under a handler that rolls back. -/
def saveRequirement (requirement : MaterialRequirement) : GuardedCall DomainError MaterialStore where
  Plan := Unit
  checks _ := .ok ()
  body _ store := store.platform.flush.map fun platform =>
    ({ store with platform := platform }).writeRequirement requirement

def updateRequirement (arguments : UpdateRequirementArguments) : MaterialProgram Unit := do
  let changed ← Program.check fun store => prepareUpdatedRequirement services store arguments
  Program.call (saveRequirement changed)

def refreshRequirementAvailability (materialRequirementId : String)
    (expectedVersion : Option ℕ) : MaterialProgram Unit := do
  let refreshed ← Program.check fun store =>
    prepareRefreshedRequirement services store materialRequirementId expectedVersion
  Program.call (saveRequirement refreshed)

def escalateRequirementShortage (arguments : EscalateRequirementArguments) :
    MaterialProgram Unit := do
  let (requirement, escalation) ← Program.check fun store =>
    prepareEscalatedRequirement services store arguments
  let availability ← escalateShortageToRequisition MaterialStore.platformPart
    services.inventoryService escalation
  Program.call (saveRequirement
    (escalatedRequirement requirement escalation.requisitionId availability))

end

end ProjectManager.Maintenance
