import ProjectManager.Procurement.Receiving
import ProjectManager.Procurement.Requisitions

/-! # Purchase orders

An order is drafted with lines that may draw on requisition lines, submitted for
approval, sent, received and closed. Every operation here checks before it
writes.
-/

namespace ProjectManager

open Foundation

def normalizeCurrencyCode (value : Option String) (fallback : String) :
    Except DomainError String := do
  let normalized := orElse (upper (normalizeOptionalText value)) (upper (strip fallback))
  ensure (normalized ≠ "")
    (validationError "Currency code is required." "INVENTORY_CURRENCY_REQUIRED")
  return normalized

/-- The arguments of `create_purchase_order` and what is generated for it. -/
structure OrderArguments where
  siteId : String
  supplierPartyId : String
  currencyCode : Option String := none
  sourceRequisitionId : Option String := none
  orderDate : Option Date := none
  expectedDeliveryDate : Option Date := none
  supplierReference : String := ""
  notes : String := ""
  poNumber : Option String := none
  orderId : String
  generatedNumber : String

structure OrderLineArguments where
  purchaseOrderId : String
  stockItemId : String
  destinationStoreroomId : String
  quantityOrdered : ℚ
  uom : Option String := none
  unitPrice : ℚ := 0
  expectedDeliveryDate : Option Date := none
  description : String := ""
  sourceRequisitionLineId : Option String := none
  notes : String := ""
  lineId : String

/-- An update replaces the currency, the requisition and the delivery date even when they are
not given. -/
structure OrderUpdate where
  purchaseOrderId : String
  siteId : Option String := none
  supplierPartyId : Option String := none
  currencyCode : Option String := none
  sourceRequisitionId : Option String := none
  expectedDeliveryDate : Option Date := none
  supplierReference : Option String := none
  notes : Option String := none
  expectedVersion : Option ℕ := none

/-! ## Rows -/

section

variable (store : InventoryStore)

def insertPurchaseOrder (order : PurchaseOrder) : Except DomainError InventoryStore := do
  ensure (order.id ∉ store.orders.ids ∧ ∀ other ∈ store.orders.rows,
      other.organizationId = order.organizationId → other.poNumber ≠ order.poNumber)
    (validationError "Purchase order number already exists."
      "INVENTORY_PURCHASE_ORDER_NUMBER_EXISTS")
  return { store with orders := store.orders.insert order }

def insertPurchaseOrderLine (line : PurchaseOrderLine) : Except DomainError InventoryStore := do
  ensure (line.id ∉ store.orderLines.ids ∧ ∀ other ∈ store.orderLines.rows,
      other.purchaseOrderId = line.purchaseOrderId → other.lineNumber ≠ line.lineNumber)
    (validationError "Purchase order line already exists." "INVENTORY_PURCHASE_ORDER_LINE_EXISTS")
  return { store with orderLines := store.orderLines.insert line }

def updatePurchaseOrder (order : PurchaseOrder) : InventoryStore :=
  { store with orders := store.orders.update { order with version := order.version + 1 } }

def setOrderLineStatus (purchaseOrderId : String) (status : PurchaseOrderLineStatus) :
    InventoryStore :=
  { store with
    orderLines := store.orderLines.mapRows
      (fun line =>
        if line.purchaseOrderId = purchaseOrderId then { line with status := status } else line)
      fun line => by split <;> rfl }

end

/-! ## Requisitions that an order draws on -/

def PurchaseRequisition.IsReady (requisition : PurchaseRequisition) : Prop :=
  requisition.status ∈ [PurchaseRequisitionStatus.approved, .partiallySourced]

instance (requisition : PurchaseRequisition) : Decidable requisition.IsReady :=
  inferInstanceAs (Decidable (_ ∈ _))

def validateSourceRequisition (sourceRequisitionId : Option String) (organizationId : String)
    (store : InventoryStore) : Except DomainError (Option PurchaseRequisition) :=
  let requisitionId := normalizeOptionalText sourceRequisitionId
  if requisitionId = "" then .ok none
  else do
    let requisition ← require ((store.requisitions.get? requisitionId).filter fun row =>
        row.organizationId = organizationId)
      (validationError "Source requisition was not found in the active organization."
        "INVENTORY_REQUISITION_SCOPE_INVALID")
    ensure requisition.IsReady (validationError "Source requisition is not ready for purchasing."
      "INVENTORY_REQUISITION_STATUS_INVALID")
    return some requisition

/-- The requisition line that a new order line draws on. The status of its requisition is not
looked at. -/
def validateSourceRequisitionLine (order : PurchaseOrder) (item : StockItem)
    (sourceRequisitionLineId : Option String) (quantityOrdered : ℚ) (quantityOrderedUom : String)
    (store : InventoryStore) : Except DomainError (Option PurchaseRequisitionLine) :=
  let lineId := normalizeOptionalText sourceRequisitionLineId
  if lineId = "" then .ok none
  else do
    let requisitionLine ← requireRequisitionLine store lineId
    ensure (requisitionLine.stockItemId = item.id)
      (validationError "Source requisition line must reference the same stock item."
        "INVENTORY_REQUISITION_LINE_SCOPE_INVALID")
    ensure (∀ requisitionId ∈ order.sourceRequisitionId,
        requisitionId ≠ "" → requisitionLine.purchaseRequisitionId = requisitionId)
      (validationError "Source requisition line does not belong to the purchase-order requisition."
        "INVENTORY_REQUISITION_LINE_SCOPE_INVALID")
    let remaining := max 0 (requisitionLine.quantityRequested - requisitionLine.quantitySourced)
    ensure (0 < remaining) (validationError "Source requisition line is already fully sourced."
      "INVENTORY_REQUISITION_LINE_FULLY_SOURCED")
    let quantity ← normalizePositiveQuantity quantityOrdered "Purchase-order quantity"
    let ordered ← convertItemQuantity item quantity quantityOrderedUom requisitionLine.uom
      "Purchase-order line UOM"
    ensure (ordered ≤ remaining)
      (validationError "Purchase-order quantity exceeds the remaining requisition demand."
        "INVENTORY_REQUISITION_LINE_QTY_EXCEEDED")
    return some requisitionLine

/-! ## Operations -/

section

variable (service : InventoryService)

/-- The site and the supplier of an order must be active in the organization. -/
def orderPartners (siteId supplierPartyId organizationId : String) (store : PlatformStore) :
    Except DomainError (Site × Party) := do
  let site ← getSite service store siteId
  ensure (site.organizationId = organizationId ∧ site.isActive = true)
    (validationError "Selected site must be active in the current organization."
      "INVENTORY_SITE_SCOPE_INVALID")
  let supplier ← getParty service store supplierPartyId
  ensure (supplier.organizationId = organizationId ∧ supplier.isActive = true)
    (validationError "Selected supplier must be active in the current organization."
      "INVENTORY_SUPPLIER_SCOPE_INVALID")
  return (site, supplier)

def preparePurchaseOrder (arguments : OrderArguments) (store : PlatformStore) :
    Except DomainError PurchaseOrder := do
  service.requireManage "create purchase order"
  let organizationId ← purchasingOrganization service
  let (site, supplier) ← orderPartners service arguments.siteId arguments.supplierPartyId
    organizationId store
  let requisition ← validateSourceRequisition arguments.sourceRequisitionId organizationId
    store.inventory
  let currencyCode ← normalizeCurrencyCode arguments.currencyCode site.currencyCode
  return {
    id := arguments.orderId
    organizationId := organizationId
    poNumber := orElse (normalizeOptionalText arguments.poNumber) arguments.generatedNumber
    siteId := site.id
    supplierPartyId := supplier.id
    orderDate := arguments.orderDate
    expectedDeliveryDate := arguments.expectedDeliveryDate
    currencyCode := currencyCode
    sourceRequisitionId := requisition.map PurchaseRequisition.id
    supplierReference := strip arguments.supplierReference
    notes := strip arguments.notes }

def createPurchaseOrder (arguments : OrderArguments) : GuardedCall DomainError PlatformStore :=
  inventoryCall (preparePurchaseOrder service arguments)
    fun order store => insertPurchaseOrder store order

def preparePurchaseOrderLine (arguments : OrderLineArguments) (store : InventoryStore) :
    Except DomainError PurchaseOrderLine := do
  service.requireManage "add purchase order line"
  let order ← requireDraftPurchaseOrder service store arguments.purchaseOrderId
  let item ← getItem service store arguments.stockItemId
  ensure (item.organizationId = order.organizationId ∧ item.isActive = true)
    (validationError "Purchase-order item must be active in the current organization."
      "INVENTORY_PO_ITEM_SCOPE_INVALID")
  ensure (item.isPurchaseAllowed = true)
    (validationError "Purchase-order item is not enabled for purchasing."
      "INVENTORY_ITEM_PURCHASE_FORBIDDEN")
  let storeroom ← getStoreroom service store arguments.destinationStoreroomId
  ensure (storeroom.organizationId = order.organizationId ∧ storeroom.isActive = true)
    (validationError "Destination storeroom must be active in the current organization."
      "INVENTORY_PO_STOREROOM_SCOPE_INVALID")
  ensure (storeroom.siteId = order.siteId)
    (validationError "Destination storeroom must belong to the purchase-order site."
      "INVENTORY_PO_SITE_STOREROOM_MISMATCH")
  ensure (storeroom.allowsReceiving = true)
    (validationError "Destination storeroom does not allow receiving."
      "INVENTORY_RECEIVING_FORBIDDEN")
  let uom ← normalizeUom (givenUom arguments.uom item) "Purchase-order line UOM"
  let _ ← resolveItemUomFactor item uom "Purchase-order line UOM"
  let sourceLine ← validateSourceRequisitionLine order item arguments.sourceRequisitionLineId
    arguments.quantityOrdered uom store
  let quantity ← normalizePositiveQuantity arguments.quantityOrdered "Purchase-order quantity"
  let unitPrice ← normalizeNonnegativeQuantity arguments.unitPrice "Unit price"
  return {
    id := arguments.lineId
    purchaseOrderId := order.id
    lineNumber := (listForPurchaseOrder store order.id).length + 1
    stockItemId := item.id
    destinationStoreroomId := storeroom.id
    description := orElse (strip arguments.description) item.name
    quantityOrdered := quantity
    uom := uom
    unitPrice := unitPrice
    expectedDeliveryDate := arguments.expectedDeliveryDate
    sourceRequisitionLineId := sourceLine.map PurchaseRequisitionLine.id
    notes := strip arguments.notes }

def addPurchaseOrderLine (arguments : OrderLineArguments) :
    GuardedCall DomainError PlatformStore :=
  inventoryCall (fun store => preparePurchaseOrderLine service arguments store.inventory)
    fun line store => insertPurchaseOrderLine store line

def prepareSubmittedOrder (purchaseOrderId requestId : String) (store : PlatformStore) :
    Except DomainError (PurchaseOrder × ApprovalRequest) := do
  service.requireManage "submit purchase order"
  let order ← requireDraftPurchaseOrder service store.inventory purchaseOrderId
  ensure (listForPurchaseOrder store.inventory order.id ≠ [])
    (validationError "Purchase order must have at least one line before submission."
      "INVENTORY_PURCHASE_ORDER_LINES_REQUIRED")
  let _ ← getSite service store order.siteId
  let _ ← getParty service store order.supplierPartyId
  let request ← requestChange service "purchase_order.submit" "purchase_order" order.id none
    requestId store
  validateTransition PurchaseOrderStatus.value purchaseOrderStatusTransitions order.status
    .submitted
  return ({ order with status := .submitted, approvalRequestId := some request.id }, request)

/-- `submit_purchase_order`. No check after the request was added can fail, so that all checks
come first here. -/
def submitPurchaseOrder (purchaseOrderId requestId : String) :
    GuardedCall DomainError PlatformStore where
  Plan := PurchaseOrder × ApprovalRequest
  checks := prepareSubmittedOrder service purchaseOrderId requestId
  body plan store := do
    let flushed ← store.flush
    return { flushed with
      approvals := flushed.approvals.insert plan.2
      inventory := updatePurchaseOrder flushed.inventory plan.1 }

def prepareUpdatedOrder (arguments : OrderUpdate) (store : PlatformStore) :
    Except DomainError PurchaseOrder := do
  service.requireManage "update purchase order"
  let order ← requireDraftPurchaseOrder service store.inventory arguments.purchaseOrderId
  ensure (∀ version ∈ arguments.expectedVersion, order.version = version)
    (staleWrite "Purchase order")
  let organizationId ← purchasingOrganization service
  let (site, supplier) ← orderPartners service
    (orElse (normalizeOptionalText arguments.siteId) order.siteId)
    (orElse (normalizeOptionalText arguments.supplierPartyId) order.supplierPartyId)
    organizationId store
  let requisition ← validateSourceRequisition arguments.sourceRequisitionId organizationId
    store.inventory
  let currencyCode ← normalizeCurrencyCode arguments.currencyCode site.currencyCode
  return { order with
    siteId := site.id
    supplierPartyId := supplier.id
    currencyCode := currencyCode
    sourceRequisitionId := requisition.map PurchaseRequisition.id
    expectedDeliveryDate := arguments.expectedDeliveryDate
    supplierReference := (arguments.supplierReference.map strip).getD order.supplierReference
    notes := (arguments.notes.map strip).getD order.notes }

def updateDraftPurchaseOrder (arguments : OrderUpdate) : GuardedCall DomainError PlatformStore :=
  inventoryCall (prepareUpdatedOrder service arguments)
    fun order store => .ok (updatePurchaseOrder store order)

def prepareCancelledOrder (purchaseOrderId : String) (expectedVersion : Option ℕ)
    (store : InventoryStore) : Except DomainError PurchaseOrder := do
  service.requireManage "cancel purchase order"
  let order ← requireDraftPurchaseOrder service store purchaseOrderId
  ensure (∀ version ∈ expectedVersion, order.version = version) (staleWrite "Purchase order")
  validateTransition PurchaseOrderStatus.value purchaseOrderStatusTransitions order.status
    .cancelled
  return { order with status := .cancelled }

def cancelPurchaseOrder (purchaseOrderId : String) (expectedVersion : Option ℕ) :
    GuardedCall DomainError PlatformStore :=
  inventoryCall
    (fun store => prepareCancelledOrder service purchaseOrderId expectedVersion store.inventory)
    fun order store => .ok (updatePurchaseOrder (setOrderLineStatus store order.id .cancelled) order)

def prepareSentOrder (purchaseOrderId : String) (store : InventoryStore) :
    Except DomainError PurchaseOrder := do
  service.requireManage "send purchase order"
  let order ← getPurchaseOrder service store purchaseOrderId
  validateTransition PurchaseOrderStatus.value purchaseOrderStatusTransitions order.status .sent
  return { order with status := .sent, orderDate := order.orderDate.or (some service.today) }

def sendPurchaseOrder (purchaseOrderId : String) : GuardedCall DomainError PlatformStore :=
  inventoryCall (fun store => prepareSentOrder service purchaseOrderId store.inventory)
    fun order store => .ok (updatePurchaseOrder store order)

def prepareClosedOrder (purchaseOrderId : String) (store : InventoryStore) :
    Except DomainError PurchaseOrder := do
  service.requireManage "close purchase order"
  let order ← getPurchaseOrder service store purchaseOrderId
  let lines := listForPurchaseOrder store order.id
  ensure (lines ≠ [])
    (validationError "Purchase order must have at least one line before it can be closed."
      "INVENTORY_PURCHASE_ORDER_LINES_REQUIRED")
  ensure (isPurchaseOrderFullyProcessed lines = true)
    (validationError "Purchase order still has open quantity and cannot be closed."
      "INVENTORY_PURCHASE_ORDER_NOT_FULLY_PROCESSED")
  validateTransition PurchaseOrderStatus.value purchaseOrderStatusTransitions order.status .closed
  return { order with status := .closed }

def closePurchaseOrder (purchaseOrderId : String) : GuardedCall DomainError PlatformStore :=
  inventoryCall (fun store => prepareClosedOrder service purchaseOrderId store.inventory)
    fun order store => .ok (updatePurchaseOrder store order)

def receivePurchaseOrder (arguments : ReceiptArguments) : GuardedCall DomainError PlatformStore :=
  inventoryCall (fun store => (postReceipt service arguments).checks store.inventory)
    (postReceipt service arguments).body

end

end ProjectManager
