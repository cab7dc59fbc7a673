import ProjectManager.Approval.Service

/-! # Purchase requisitions

A requisition is drafted, submitted for approval and then sourced by purchase
orders. Only a draft can be edited or cancelled.
-/

namespace ProjectManager

open Foundation

def normalizePriority (value : String) : String := orElse (upper (strip value)) "NORMAL"

/-- The arguments of `create_requisition` and what is generated for it. -/
structure RequisitionArguments where
  requestingSiteId : String
  requestingStoreroomId : String
  purpose : String := ""
  neededByDate : Option (Option Date) := none
  priority : String := "NORMAL"
  sourceReferenceType : String := ""
  sourceReferenceId : String := ""
  notes : String := ""
  requisitionNumber : Option String := none
  requisitionId : String
  generatedNumber : String

structure RequisitionLineArguments where
  requisitionId : String
  stockItemId : String
  quantityRequested : ℚ
  uom : Option String := none
  description : String := ""
  neededByDate : Option Date := none
  estimatedUnitCost : ℚ := 0
  suggestedSupplierPartyId : Option String := none
  notes : String := ""
  lineId : String

/-- Arguments that are not given leave the requisition as it is, but for the date. -/
structure RequisitionUpdate where
  requisitionId : String
  requestingSiteId : Option String := none
  requestingStoreroomId : Option String := none
  purpose : Option String := none
  neededByDate : Option (Option Date) := none
  priority : Option String := none
  sourceReferenceType : Option String := none
  sourceReferenceId : Option String := none
  notes : Option String := none
  expectedVersion : Option ℕ := none

/-! ## Rows -/

section

variable (store : InventoryStore)

def insertRequisition (requisition : PurchaseRequisition) : Except DomainError InventoryStore := do
  ensure (requisition.id ∉ store.requisitions.ids ∧ ∀ other ∈ store.requisitions.rows,
      other.organizationId = requisition.organizationId →
        other.requisitionNumber ≠ requisition.requisitionNumber)
    (validationError "Requisition number already exists." "INVENTORY_REQUISITION_NUMBER_EXISTS")
  return { store with requisitions := store.requisitions.insert requisition }

def insertRequisitionLine (line : PurchaseRequisitionLine) :
    Except DomainError InventoryStore := do
  ensure (line.id ∉ store.requisitionLines.ids ∧ ∀ other ∈ store.requisitionLines.rows,
      other.purchaseRequisitionId = line.purchaseRequisitionId →
        other.lineNumber ≠ line.lineNumber)
    (validationError "Requisition line already exists." "INVENTORY_REQUISITION_LINE_EXISTS")
  return { store with requisitionLines := store.requisitionLines.insert line }

def updateRequisition (requisition : PurchaseRequisition) : InventoryStore :=
  { store with
    requisitions := store.requisitions.update { requisition with version := requisition.version + 1 } }

def setRequisitionLineStatus (requisitionId : String) (status : PurchaseRequisitionLineStatus) :
    InventoryStore :=
  { store with
    requisitionLines := store.requisitionLines.mapRows
      (fun line =>
        if line.purchaseRequisitionId = requisitionId then { line with status := status } else line)
      fun line => by split <;> rfl }

end

/-! ## Operations -/

section

variable (service : InventoryService)

def getRequisition (requisitionId : String) (store : InventoryStore) :
    Except DomainError PurchaseRequisition := do
  service.requireRead "view purchase requisition"
  let organizationId ← activeOrganization service
  require ((store.requisitions.get? requisitionId).filter fun row =>
      row.organizationId = organizationId)
    (notFoundError "Purchase requisition not found in the active organization."
      "INVENTORY_REQUISITION_NOT_FOUND")

def requireDraftRequisition (requisitionId : String) (store : InventoryStore) :
    Except DomainError PurchaseRequisition := do
  let requisition ← getRequisition service requisitionId store
  ensure (requisition.status = .draft)
    (validationError "Only draft purchase requisitions can be edited."
      "INVENTORY_REQUISITION_EDIT_FORBIDDEN")
  return requisition

/-- The storeroom that a requisition asks for must be active, at the site and in the
organization. -/
def requestingStoreroom (siteId storeroomId organizationId : String) (store : InventoryStore) :
    Except DomainError Unit := do
  let storeroom ← getStoreroom service store storeroomId
  ensure (storeroom.isActive = true) (validationError "Requesting storeroom must be active."
    "INVENTORY_REQUISITION_STOREROOM_INACTIVE")
  ensure (storeroom.siteId = siteId)
    (validationError "Requesting storeroom must belong to the selected site."
      "INVENTORY_REQUISITION_SITE_STOREROOM_MISMATCH")
  ensure (storeroom.organizationId = organizationId)
    (validationError "Requesting storeroom must belong to the active organization."
      "INVENTORY_REQUISITION_STOREROOM_SCOPE_INVALID")

def prepareRequisition (arguments : RequisitionArguments) (store : InventoryStore) :
    Except DomainError PurchaseRequisition := do
  service.requireManage "create purchase requisition"
  let organizationId ← activeOrganization service
  requestingStoreroom service arguments.requestingSiteId arguments.requestingStoreroomId
    organizationId store
  let neededByDate ← normalizeOptionalDate arguments.neededByDate "Needed-by date"
  let sourceReferenceType ← normalizeSourceReferenceType arguments.sourceReferenceType
  return {
    id := arguments.requisitionId
    organizationId := organizationId
    requisitionNumber :=
      orElse (strip (arguments.requisitionNumber.getD "")) arguments.generatedNumber
    requestingSiteId := arguments.requestingSiteId
    requestingStoreroomId := arguments.requestingStoreroomId
    requesterUserId := service.userId
    requesterUsername := service.username
    purpose := strip arguments.purpose
    neededByDate := neededByDate
    priority := normalizePriority arguments.priority
    sourceReferenceType := sourceReferenceType
    sourceReferenceId := strip arguments.sourceReferenceId
    notes := strip arguments.notes }

def createRequisition (arguments : RequisitionArguments) :
    GuardedCall DomainError PlatformStore :=
  inventoryCall (fun store => prepareRequisition service arguments store.inventory)
    fun requisition store => insertRequisition store requisition

/-- The id of the suggested supplier, when one is given. -/
def validateSupplierReference (partyId : Option String) (store : PlatformStore) :
    Except DomainError (Option String) :=
  let normalized := normalizeOptionalText partyId
  if normalized = "" then .ok none
  else do
    let party ← getPlatformParty service store normalized
    ensure (party.isActive = true) (validationError "Suggested supplier must be active."
      "INVENTORY_PARTY_INACTIVE")
    ensure (party.partyType ∈ businessPartyTypes)
      (validationError
        "Suggested supplier must be a supplier, vendor, contractor, or service provider."
        "INVENTORY_PARTY_SCOPE_INVALID")
    return some party.id

def prepareRequisitionLine (arguments : RequisitionLineArguments) (store : PlatformStore) :
    Except DomainError PurchaseRequisitionLine := do
  service.requireManage "add purchase requisition line"
  let requisition ← requireDraftRequisition service arguments.requisitionId store.inventory
  let item ← getItem service store.inventory arguments.stockItemId
  ensure (item.organizationId = requisition.organizationId)
    (validationError "Requisition line item must belong to the active organization."
      "INVENTORY_REQUISITION_ITEM_SCOPE_INVALID")
  ensure (item.isActive = true)
    (validationError "Requisition line item must be active." "INVENTORY_ITEM_INACTIVE")
  ensure (item.isPurchaseAllowed = true)
    (validationError "Requisition line item is not allowed for purchasing."
      "INVENTORY_ITEM_PURCHASE_FORBIDDEN")
  let uom ← normalizeUom (givenUom arguments.uom item) "Requisition line UOM"
  let _ ← resolveItemUomFactor item uom "Requisition line UOM"
  let supplierId ← validateSupplierReference service arguments.suggestedSupplierPartyId store
  let quantity ← normalizePositiveQuantity arguments.quantityRequested "Requisition quantity"
  let unitCost ← normalizeNonnegativeQuantity arguments.estimatedUnitCost "Estimated unit cost"
  return {
    id := arguments.lineId
    purchaseRequisitionId := requisition.id
    lineNumber := (listForRequisition store.inventory requisition.id).length + 1
    stockItemId := item.id
    description := orElse (strip arguments.description) item.name
    quantityRequested := quantity
    uom := uom
    neededByDate := arguments.neededByDate
    estimatedUnitCost := unitCost
    suggestedSupplierPartyId := supplierId
    notes := strip arguments.notes }

def addRequisitionLine (arguments : RequisitionLineArguments) :
    GuardedCall DomainError PlatformStore :=
  inventoryCall (prepareRequisitionLine service arguments)
    fun line store => insertRequisitionLine store line

def prepareSubmittedRequisition (requisitionId requestId : String) (store : PlatformStore) :
    Except DomainError (PurchaseRequisition × ApprovalRequest) := do
  service.requireManage "submit purchase requisition"
  let requisition ← requireDraftRequisition service requisitionId store.inventory
  ensure (listForRequisition store.inventory requisition.id ≠ [])
    (validationError "Purchase requisition must have at least one line before submission."
      "INVENTORY_REQUISITION_LINES_REQUIRED")
  let request ← requestChange service "purchase_requisition.submit" "purchase_requisition"
    requisition.id none requestId store
  validateTransition PurchaseRequisitionStatus.value requisitionStatusTransitions
    requisition.status .submitted
  return ({ requisition with status := .submitted, approvalRequestId := some request.id }, request)

/-- `submit_requisition`. No check after the request was added can fail, so that all checks
come first here. -/
def submitRequisition (requisitionId requestId : String) :
    GuardedCall DomainError PlatformStore where
  Plan := PurchaseRequisition × ApprovalRequest
  checks := prepareSubmittedRequisition service requisitionId requestId
  body plan store := do
    let flushed ← store.flush
    return { flushed with
      approvals := flushed.approvals.insert plan.2
      inventory := updateRequisition
        (setRequisitionLineStatus flushed.inventory plan.1.id .draft) plan.1 }

def prepareUpdatedRequisition (arguments : RequisitionUpdate) (store : InventoryStore) :
    Except DomainError PurchaseRequisition := do
  service.requireManage "update purchase requisition"
  let requisition ← requireDraftRequisition service arguments.requisitionId store
  ensure (∀ version ∈ arguments.expectedVersion, requisition.version = version)
    (staleWrite "Purchase requisition")
  let organizationId ← activeOrganization service
  let siteId := orElse (normalizeOptionalText arguments.requestingSiteId)
    requisition.requestingSiteId
  let storeroomId := orElse (normalizeOptionalText arguments.requestingStoreroomId)
    requisition.requestingStoreroomId
  requestingStoreroom service siteId storeroomId organizationId store
  let neededByDate ← normalizeOptionalDate arguments.neededByDate "Needed-by date"
  let sourceReferenceType ← match arguments.sourceReferenceType with
    | some value => normalizeSourceReferenceType value
    | none => .ok requisition.sourceReferenceType
  return { requisition with
    requestingSiteId := siteId
    requestingStoreroomId := storeroomId
    purpose := (arguments.purpose.map strip).getD requisition.purpose
    neededByDate := neededByDate
    priority := (arguments.priority.map normalizePriority).getD requisition.priority
    sourceReferenceType := sourceReferenceType
    sourceReferenceId := (arguments.sourceReferenceId.map strip).getD requisition.sourceReferenceId
    notes := (arguments.notes.map strip).getD requisition.notes }

def updateDraftRequisition (arguments : RequisitionUpdate) :
    GuardedCall DomainError PlatformStore :=
  inventoryCall (fun store => prepareUpdatedRequisition service arguments store.inventory)
    fun requisition store => .ok (updateRequisition store requisition)

def prepareCancelledRequisition (requisitionId : String) (expectedVersion : Option ℕ)
    (store : InventoryStore) : Except DomainError PurchaseRequisition := do
  service.requireManage "cancel purchase requisition"
  let requisition ← requireDraftRequisition service requisitionId store
  ensure (∀ version ∈ expectedVersion, requisition.version = version)
    (staleWrite "Purchase requisition")
  validateTransition PurchaseRequisitionStatus.value requisitionStatusTransitions
    requisition.status .cancelled
  return { requisition with status := .cancelled }

def cancelRequisition (requisitionId : String) (expectedVersion : Option ℕ) :
    GuardedCall DomainError PlatformStore :=
  inventoryCall
    (fun store => prepareCancelledRequisition service requisitionId expectedVersion store.inventory)
    fun requisition store => .ok
      (updateRequisition (setRequisitionLineStatus store requisition.id .cancelled) requisition)

end

/-! ## Approval and rejection -/

/-- The requisition of a request that awaits its decision, as decided. -/
def decidedRequisition (request : ApprovalRequest) (nextStatus : PurchaseRequisitionStatus)
    (store : InventoryStore) : Except DomainError PurchaseRequisition := do
  let requisition ← require (store.requisitions.get? request.entityId)
    (notFoundError "Purchase requisition not found." "INVENTORY_REQUISITION_NOT_FOUND")
  ensure (requisition.approvalRequestId = some request.id)
    (validationError "Approval request does not match the requisition."
      "INVENTORY_REQUISITION_APPROVAL_MISMATCH")
  ensure (requisition.status ∈ [PurchaseRequisitionStatus.submitted, .underReview])
    (validationError "Purchase requisition is not awaiting approval."
      "INVENTORY_REQUISITION_STATUS_INVALID")
  validateTransition PurchaseRequisitionStatus.value requisitionStatusTransitions
    requisition.status nextStatus
  return { requisition with status := nextStatus }

/-- Approval and rejection move the requisition and then its lines, and record the change in
the audit log, which commits. -/
def decideRequisition (nextStatus : PurchaseRequisitionStatus)
    (lineStatus : PurchaseRequisitionLineStatus) : ApplyHandler := fun request => do
  let requisition ← ServiceProgram.read fun store =>
    decidedRequisition request nextStatus store.inventory
  ServiceProgram.write fun store => .ok (updateRequisition store requisition)
  ServiceProgram.write fun store => .ok (setRequisitionLineStatus store requisition.id lineStatus)
  ServiceProgram.commit

def applySubmittedRequisitionApproval : ApplyHandler := decideRequisition .approved .open

def applySubmittedRequisitionRejection : ApplyHandler := decideRequisition .rejected .rejected

end ProjectManager
