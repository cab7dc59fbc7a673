import Mathlib.Data.List.Sort
import ProjectManager.Inventory.StockControl

/-! # Purchase-order and requisition support

Lookups, derived statuses and the on-order quantity of balances.
-/

namespace ProjectManager

open Foundation

section

variable (service : InventoryService) (store : InventoryStore)

def purchasingOrganization : Except DomainError String :=
  require service.activeOrganization
    (validationError "No active organization is selected." "ORG_ACTIVE_MISSING")

def getPurchaseOrder (purchaseOrderId : String) : Except DomainError PurchaseOrder := do
  service.requireRead "view purchase order"
  let organizationId ← purchasingOrganization service
  require ((store.orders.get? purchaseOrderId).filter fun row =>
      row.organizationId = organizationId)
    (notFoundError "Purchase order not found in the active organization."
      "INVENTORY_PURCHASE_ORDER_NOT_FOUND")

def requireDraftPurchaseOrder (purchaseOrderId : String) : Except DomainError PurchaseOrder := do
  let order ← getPurchaseOrder service store purchaseOrderId
  ensure (order.status = .draft) (validationError "Only draft purchase orders can be edited."
    "INVENTORY_PURCHASE_ORDER_NOT_DRAFT")
  return order

def listForPurchaseOrder (purchaseOrderId : String) : List PurchaseOrderLine :=
  (store.orderLines.rows.filter fun line => line.purchaseOrderId = purchaseOrderId).insertionSort
    fun first second => first.lineNumber ≤ second.lineNumber

variable {store} in
theorem mem_listForPurchaseOrder {purchaseOrderId : String} {line : PurchaseOrderLine} :
    line ∈ listForPurchaseOrder store purchaseOrderId ↔
      line ∈ store.orderLines.rows ∧ line.purchaseOrderId = purchaseOrderId := by
  unfold listForPurchaseOrder
  rw [List.mem_insertionSort, List.mem_filter, decide_eq_true_iff]

def listForRequisition (requisitionId : String) : List PurchaseRequisitionLine :=
  (store.requisitionLines.rows.filter fun line =>
      line.purchaseRequisitionId = requisitionId).insertionSort
    fun first second => first.lineNumber ≤ second.lineNumber

def requireRequisitionLine (lineId : String) : Except DomainError PurchaseRequisitionLine :=
  require (store.requisitionLines.get? lineId)
    (validationError "Source requisition line not found." "INVENTORY_REQUISITION_LINE_NOT_FOUND")

end

/-! ## Derived quantities and statuses -/

def lineOutstandingQty (line : PurchaseOrderLine) : ℚ :=
  max 0 (line.quantityOrdered - line.quantityReceived - line.quantityRejected)

def isPurchaseOrderFullyProcessed (lines : List PurchaseOrderLine) : Bool :=
  lines ≠ [] ∧ ∀ line ∈ lines, lineOutstandingQty line ≤ 0

theorem isPurchaseOrderFullyProcessed_iff {lines : List PurchaseOrderLine} :
    isPurchaseOrderFullyProcessed lines = true ↔
      lines ≠ [] ∧ ∀ line ∈ lines, lineOutstandingQty line ≤ 0 :=
  decide_eq_true_iff

def resolvePurchaseOrderLineStatus (line : PurchaseOrderLine) (treatOpen : Bool) :
    PurchaseOrderLineStatus :=
  let processed := line.quantityReceived + line.quantityRejected
  if processed ≤ 0 then (if treatOpen then .open else .draft)
  else if line.quantityOrdered ≤ processed then .fullyReceived
  else .partiallyReceived

def resolvePurchaseOrderReceivingStatus (lines : List PurchaseOrderLine) : PurchaseOrderStatus :=
  if isPurchaseOrderFullyProcessed lines then .fullyReceived else .partiallyReceived

def resolveRequisitionLineStatus (line : PurchaseRequisitionLine) :
    PurchaseRequisitionLineStatus :=
  if line.quantitySourced ≤ 0 then .open
  else if line.quantityRequested ≤ line.quantitySourced then .fullySourced
  else .partiallySourced

/-- The balance that `_adjust_on_order_balance` stores, and whether it is a new one. The id
generated for a new balance is that of no other. -/
def onOrderBalance (store : InventoryStore) (organizationId : String) (item : StockItem)
    (storeroomId uom : String) (delta : ℚ) (balanceId : String) :
    Except DomainError (Option (Bool × StockBalance)) :=
  if delta = 0 then .ok none
  else do
    let deltaInStockUom ← convertItemQuantity item delta uom item.stockUom
      "Purchase-order line UOM"
    let position : StockPosition := ⟨organizationId, item.id, storeroomId⟩
    let existing := store.balances.get? position
    let balance := existing.getD (createBalance balanceId position item.stockUom)
    let newOnOrder := balance.onOrderQty + deltaInStockUom
    ensure (0 ≤ newOnOrder) (validationError "On-order quantity cannot become negative."
      "INVENTORY_NEGATIVE_ON_ORDER")
    return some (existing.isNone, { balance with onOrderQty := newOnOrder, uom := item.stockUom })

def adjustOnOrderBalance (store : InventoryStore) (organizationId : String) (item : StockItem)
    (storeroomId uom : String) (delta : ℚ) (balanceId : String) :
    Except DomainError InventoryStore := do
  let written ← onOrderBalance store organizationId item storeroomId uom delta balanceId
  match written with
  | none => return store
  | some (isNewBalance, balance) => return storeBalance store isNewBalance balance

end ProjectManager
