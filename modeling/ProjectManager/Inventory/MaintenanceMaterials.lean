import ProjectManager.Foundation.Parts
import ProjectManager.Inventory.Items
import ProjectManager.Procurement.Requisitions

/-! # Materials for maintenance

What a storeroom has of a material that maintenance asks for, and the requisition
for what it has not. The requisition, its line and its submission commit one by one.
-/

namespace ProjectManager

open Foundation

def maintenanceSourceReferenceTypes : List String :=
  ["maintenance_task", "maintenance_work_order", "maintenance_request", "maintenance_operation",
    "maintenance_plan", "maintenance_material_demand"]

def normalizeMaintenanceSourceReferenceType (value : String) : Except DomainError String := do
  let normalized := lower (strip value)
  ensure (normalized ≠ "")
    (validationError "Maintenance source reference type is required."
      "INVENTORY_MAINTENANCE_SOURCE_REFERENCE_REQUIRED")
  ensure (normalized ∈ maintenanceSourceReferenceTypes)
    (validationError "Maintenance source reference type is invalid."
      "INVENTORY_MAINTENANCE_SOURCE_REFERENCE_INVALID")
  return normalized

inductive MaterialAvailabilityStatus
  | availableFromStock
  | partiallyAvailableFromStock
  | unavailableFromStock
  | directProcurementOnly
  | notMaintenanceEnabled
  deriving DecidableEq, Repr

def MaterialAvailabilityStatus.value : MaterialAvailabilityStatus → String
  | .availableFromStock => "AVAILABLE_FROM_STOCK"
  | .partiallyAvailableFromStock => "PARTIALLY_AVAILABLE_FROM_STOCK"
  | .unavailableFromStock => "UNAVAILABLE_FROM_STOCK"
  | .directProcurementOnly => "DIRECT_PROCUREMENT_ONLY"
  | .notMaintenanceEnabled => "NOT_MAINTENANCE_ENABLED"

structure MaterialAvailability where
  sourceReferenceType : String
  sourceReferenceId : String
  stockItemId : String
  storeroomId : String
  requestedQty : ℚ
  requestedUom : String
  requestedStockQty : ℚ
  onHandStockQty : ℚ
  reservedStockQty : ℚ
  availableStockQty : ℚ
  onOrderStockQty : ℚ
  missingStockQty : ℚ
  status : MaterialAvailabilityStatus
  deriving DecidableEq

/-- What maintenance asks for. -/
structure MaterialDemand where
  stockItemId : String
  storeroomId : String
  quantity : ℚ
  uom : Option String := none
  sourceReferenceType : String
  sourceReferenceId : String

def resolveAvailabilityStatus (maintenanceEnabled itemIsStocked itemIsPurchaseAllowed : Bool)
    (requestedStockQty availableStockQty : ℚ) : MaterialAvailabilityStatus :=
  if maintenanceEnabled = false then .notMaintenanceEnabled
  else if itemIsStocked = false ∧ itemIsPurchaseAllowed = true then .directProcurementOnly
  else if requestedStockQty ≤ availableStockQty ∧ 0 < requestedStockQty then .availableFromStock
  else if 0 < availableStockQty then .partiallyAvailableFromStock
  else .unavailableFromStock

section

variable (service : InventoryService) (store : PlatformStore)

/-! ## Availability -/

def getStoreroomForInternalUse (storeroomId : String) : Except DomainError Storeroom := do
  let organizationId ← activeOrganization service
  require ((store.inventory.storerooms.get? storeroomId).filter fun row =>
      row.organizationId = organizationId)
    (notFoundError "Storeroom not found in the active organization."
      "INVENTORY_STOREROOM_NOT_FOUND")

def requireSourceReferenceId (value : String) : Except DomainError String := do
  ensure (strip value ≠ "")
    (validationError "Maintenance source reference ID is required."
      "INVENTORY_MAINTENANCE_SOURCE_REFERENCE_REQUIRED")
  return strip value

/-- `find_category_by_code` for active categories. -/
def isItemMaintenanceEnabled (categoryCode : String) : Except DomainError Bool :=
  let normalizedCode := upper (strip categoryCode)
  if normalizedCode = "" then .ok true
  else do
    service.requireRead "resolve inventory item category"
    let organizationId ← activeOrganization service
    let code ← normalizeCode normalizedCode "Category code"
    return ((ItemMasterService.findCategoryByCode store organizationId code).filter
      fun category => category.isActive).any fun category => category.supportsMaintenanceUsage

def getBalanceForStockPosition (stockItemId storeroomId : String) :
    Except DomainError (Option StockBalance) := do
  service.requireRead "resolve stock balance"
  let organizationId ← activeOrganization service
  let item ← getItem service store.inventory stockItemId
  let storeroom ← getStoreroom service store.inventory storeroomId
  ensureSameScope item storeroom organizationId
  return store.inventory.balances.get? ⟨organizationId, item.id, storeroom.id⟩

def getMaterialAvailability (demand : MaterialDemand) : Except DomainError MaterialAvailability := do
  let item ← getItemForInternalUse service store.inventory demand.stockItemId
  let storeroom ← getStoreroomForInternalUse service store demand.storeroomId
  let sourceType ← normalizeMaintenanceSourceReferenceType demand.sourceReferenceType
  let sourceId ← requireSourceReferenceId demand.sourceReferenceId
  let quantity ← normalizePositiveQuantity demand.quantity "Maintenance material quantity"
  let uom ← normalizeUom (orElse (demand.uom.getD "") (orElse item.issueUom item.stockUom))
    "Maintenance material UOM"
  ensure (item.isActive = true) (validationError "Maintenance material item must be active."
    "INVENTORY_MAINTENANCE_ITEM_INACTIVE")
  ensure (storeroom.isActive = true)
    (validationError "Maintenance material storeroom must be active."
      "INVENTORY_MAINTENANCE_STOREROOM_INACTIVE")
  let maintenanceEnabled ← isItemMaintenanceEnabled service store item.categoryCode
  let requestedStockQty ← convertItemQuantity item quantity uom item.stockUom
    "Maintenance material UOM"
  let balance ← getBalanceForStockPosition service store item.id storeroom.id
  let available := (balance.map StockBalance.availableQty).getD 0
  return {
    sourceReferenceType := sourceType
    sourceReferenceId := sourceId
    stockItemId := item.id
    storeroomId := storeroom.id
    requestedQty := quantity
    requestedUom := uom
    requestedStockQty := requestedStockQty
    onHandStockQty := (balance.map StockBalance.onHandQty).getD 0
    reservedStockQty := (balance.map StockBalance.reservedQty).getD 0
    availableStockQty := available
    onOrderStockQty := (balance.map StockBalance.onOrderQty).getD 0
    missingStockQty := max 0 (requestedStockQty - available)
    status := resolveAvailabilityStatus maintenanceEnabled item.isStocked item.isPurchaseAllowed
      requestedStockQty available }

/-! ## Escalation -/

/-- What is asked for, how it is requested, and the ids that are generated for it. -/
structure EscalationArguments where
  demand : MaterialDemand
  neededByDate : Option Date := none
  priority : String := "NORMAL"
  notes : String := ""
  autoSubmit : Bool := false
  requisitionId : String
  generatedNumber : String
  lineId : String
  requestId : String

/-- What a demand lacks, of an item that may be purchased, and where it is requested. -/
def prepareEscalation (arguments : EscalationArguments) :
    Except DomainError (MaterialAvailability × StockItem × Storeroom) := do
  let availability ← getMaterialAvailability service store arguments.demand
  ensure (availability.status ≠ .notMaintenanceEnabled)
    (validationError "Selected inventory item category is not enabled for maintenance usage."
      "INVENTORY_MAINTENANCE_CATEGORY_FORBIDDEN")
  ensure (0 < availability.missingStockQty)
    (validationError "Maintenance material is already fully available from stock."
      "INVENTORY_MAINTENANCE_SHORTAGE_NOT_FOUND")
  let item ← getItemForInternalUse service store.inventory availability.stockItemId
  let storeroom ← getStoreroomForInternalUse service store availability.storeroomId
  ensure (item.isPurchaseAllowed = true)
    (validationError "Selected maintenance material cannot be escalated to procurement."
      "INVENTORY_MAINTENANCE_PROCUREMENT_FORBIDDEN")
  return (availability, item, storeroom)

end

/-- The source of a demand, as the texts of its requisition name it. -/
def MaterialAvailability.source (availability : MaterialAvailability) : String :=
  availability.sourceReferenceType ++ ":" ++ availability.sourceReferenceId

def escalatedRequisition (arguments : EscalationArguments) (availability : MaterialAvailability)
    (storeroom : Storeroom) : RequisitionArguments where
  requestingSiteId := storeroom.siteId
  requestingStoreroomId := storeroom.id
  purpose := "Maintenance material demand for " ++ availability.source
  neededByDate := arguments.neededByDate.map some
  priority := arguments.priority
  sourceReferenceType := availability.sourceReferenceType
  sourceReferenceId := availability.sourceReferenceId
  notes := arguments.notes
  requisitionId := arguments.requisitionId
  generatedNumber := arguments.generatedNumber

/-- The missing quantity in the unit of the demand. -/
def requestedMissingQty (availability : MaterialAvailability) (item : StockItem) :
    Except DomainError ℚ :=
  if availability.requestedUom ≠ item.stockUom then
    convertItemQuantity item availability.missingStockQty item.stockUom availability.requestedUom
      "Maintenance material UOM"
  else .ok availability.missingStockQty

def escalatedLine (arguments : EscalationArguments) (availability : MaterialAvailability)
    (item : StockItem) (quantity : ℚ) : RequisitionLineArguments where
  requisitionId := arguments.requisitionId
  stockItemId := item.id
  quantityRequested := quantity
  uom := some availability.requestedUom
  description := "Maintenance shortage for " ++ availability.source
  neededByDate := arguments.neededByDate
  notes := arguments.notes
  lineId := arguments.lineId

section

variable {σ : Type} (platform : Part σ PlatformStore) (service : InventoryService)

def submitEscalated (arguments : EscalationArguments) : Program DomainError σ Unit :=
  if arguments.autoSubmit = true then
    Program.call ((submitRequisition service arguments.requisitionId arguments.requestId).within
      platform)
  else return ()

/-- `escalate_shortage_to_requisition`; the requisition has the generated id. -/
def escalateShortageToRequisition (arguments : EscalationArguments) :
    Program DomainError σ MaterialAvailability := do
  let (availability, item, storeroom) ← Program.check fun state =>
    prepareEscalation service (platform.get state) arguments
  Program.call ((createRequisition service (escalatedRequisition arguments availability
    storeroom)).within platform)
  let quantity ← Program.check fun _ => requestedMissingQty availability item
  Program.call ((addRequisitionLine service (escalatedLine arguments availability item
    quantity)).within platform)
  submitEscalated platform service arguments
  return availability

end

end ProjectManager
