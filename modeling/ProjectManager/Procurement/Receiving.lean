import ProjectManager.Procurement.Support

/-! # Receipts

Each line of a receipt books what was accepted into stock and takes what was
accepted or rejected off the on-order quantity of its position.
-/

namespace ProjectManager

open Foundation

/-- One line of a receipt, with the ids generated for it. -/
structure ReceiptPayload where
  purchaseOrderLineId : String
  quantityAccepted : ℚ := 0
  quantityRejected : ℚ := 0
  unitCost : Option ℚ := none
  lotNumber : String := ""
  serialNumber : String := ""
  expiryDate : Option (Option Date) := none
  notes : String := ""
  receiptLineId : String
  ids : PostingIds
  onOrderBalanceId : String

structure ReceiptArguments where
  purchaseOrderId : String
  receiptLines : List ReceiptPayload
  receiptDate : Date
  supplierDeliveryReference : String := ""
  notes : String := ""
  receiptNumber : Option String := none
  receiptId : String
  generatedNumber : String

def validateReceiptTracking (item : StockItem) (acceptedQuantity : ℚ)
    (lotNumber serialNumber : String) (expiryDate : Option Date) (receiptDate : Date) :
    Except DomainError Unit :=
  if acceptedQuantity ≤ 0 then .ok ()
  else do
    ensure (¬ (item.isLotTracked = true ∧ lotNumber = ""))
      (validationError "Lot-tracked items require a lot number when quantity is accepted."
        "INVENTORY_RECEIPT_LOT_REQUIRED")
    ensure (¬ (item.isSerialTracked = true ∧ serialNumber = ""))
      (validationError "Serial-tracked items require a serial number when quantity is accepted."
        "INVENTORY_RECEIPT_SERIAL_REQUIRED")
    ensure (¬ (item.isSerialTracked = true ∧ 1 / 10 ^ 9 < |acceptedQuantity - 1|))
      (validationError "Serial-tracked items must be received one serial number at a time."
        "INVENTORY_RECEIPT_SERIAL_QTY_INVALID")
    whenGiven item.shelfLifeDays fun shelfLifeDays => do
      let expiry ← require expiryDate
        (validationError
          "Shelf-life-controlled items require an expiry date when quantity is accepted."
          "INVENTORY_RECEIPT_EXPIRY_REQUIRED")
      ensure (receiptDate + max 0 shelfLifeDays ≤ expiry)
        (validationError "Expiry date does not satisfy the configured shelf-life window."
          "INVENTORY_RECEIPT_EXPIRY_INVALID")

section

variable (service : InventoryService)

/-- The receipt row of an order that is open for receiving. -/
def prepareReceipt (arguments : ReceiptArguments) (store : InventoryStore) :
    Except DomainError (PurchaseOrder × ReceiptHeader) := do
  service.requireManage "post receipt"
  let order ← getPurchaseOrder service store arguments.purchaseOrderId
  ensure (order.status ∈ [PurchaseOrderStatus.approved, .sent, .partiallyReceived])
    (validationError "Purchase order is not open for receiving."
      "INVENTORY_PURCHASE_ORDER_RECEIVING_STATUS_INVALID")
  ensure (arguments.receiptLines ≠ [])
    (validationError "At least one receipt line is required." "INVENTORY_RECEIPT_LINES_REQUIRED")
  return (order, {
    id := arguments.receiptId
    organizationId := order.organizationId
    receiptNumber := orElse (strip (arguments.receiptNumber.getD "")) arguments.generatedNumber
    purchaseOrderId := order.id
    receivedSiteId := order.siteId
    supplierPartyId := order.supplierPartyId
    receiptDate := arguments.receiptDate
    supplierDeliveryReference := strip arguments.supplierDeliveryReference
    receivedByUserId := service.userId
    receivedByUsername := service.username
    notes := strip arguments.notes })

def insertReceipt (store : InventoryStore) (receipt : ReceiptHeader) :
    Except DomainError InventoryStore := do
  ensure (receipt.id ∉ store.receipts.ids ∧ ∀ other ∈ store.receipts.rows,
      other.organizationId = receipt.organizationId → other.receiptNumber ≠ receipt.receiptNumber)
    (takenPrimaryKey "inventory_receipt_headers")
  return { store with receipts := store.receipts.insert receipt }

def insertReceiptLine (store : InventoryStore) (line : ReceiptLine) :
    Except DomainError InventoryStore := do
  ensure (line.id ∉ store.receiptLines.ids) (takenPrimaryKey "inventory_receipt_lines")
  return { store with receiptLines := store.receiptLines.insert line }

/-- The order line of a payload and its receipt line, when the quantities fit. The lines of
the order are those of the store: the loop updates both alike. -/
def prepareReceiptLine (receipt : ReceiptHeader) (index : ℕ) (payload : ReceiptPayload)
    (store : InventoryStore) :
    Except DomainError (PurchaseOrderLine × StockItem × ReceiptLine) := do
  let lineId := strip payload.purchaseOrderLineId
  ensure (lineId ≠ "") (validationError "Receipt line purchase_order_line_id is required."
    "INVENTORY_RECEIPT_LINE_ID_REQUIRED")
  let line ← require ((store.orderLines.get? lineId).filter fun row =>
      row.purchaseOrderId = receipt.purchaseOrderId)
    (validationError "Receipt line does not belong to the selected purchase order."
      "INVENTORY_RECEIPT_LINE_SCOPE_INVALID")
  let item ← getItemForInternalUse service store line.stockItemId
  let storeroom ← getStoreroom service store line.destinationStoreroomId
  ensure (¬ (storeroom.requiresSupplierReferenceForReceipt = true ∧
      receipt.supplierDeliveryReference = ""))
    (validationError "Selected storeroom requires a supplier delivery reference for receipts."
      "INVENTORY_RECEIPT_REFERENCE_REQUIRED")
  let accepted ← normalizeNonnegativeQuantity payload.quantityAccepted "Accepted quantity"
  let rejected ← normalizeNonnegativeQuantity payload.quantityRejected "Rejected quantity"
  ensure (0 < accepted + rejected)
    (validationError "Receipt line must accept or reject a positive quantity."
      "INVENTORY_RECEIPT_QUANTITY_REQUIRED")
  ensure (accepted + rejected ≤ lineOutstandingQty line)
    (validationError "Receipt quantity exceeds the remaining open quantity."
      "INVENTORY_RECEIPT_EXCEEDS_OPEN_QTY")
  let unitCost ← normalizeNonnegativeQuantity (payload.unitCost.getD line.unitPrice)
    "Receipt unit cost"
  let expiryDate ← normalizeOptionalDate payload.expiryDate "Expiry date"
  validateReceiptTracking item accepted (strip payload.lotNumber) (strip payload.serialNumber)
    expiryDate receipt.receiptDate
  return (line, item, {
    id := payload.receiptLineId
    receiptHeaderId := receipt.id
    purchaseOrderLineId := line.id
    lineNumber := index
    stockItemId := line.stockItemId
    storeroomId := line.destinationStoreroomId
    quantityAccepted := accepted
    quantityRejected := rejected
    uom := line.uom
    unitCost := unitCost
    lotNumber := strip payload.lotNumber
    serialNumber := strip payload.serialNumber
    expiryDate := expiryDate
    notes := strip payload.notes })

def receivedLine (line : PurchaseOrderLine) (received : ReceiptLine) : PurchaseOrderLine :=
  let counted := { line with
    quantityReceived := line.quantityReceived + received.quantityAccepted
    quantityRejected := line.quantityRejected + received.quantityRejected }
  { counted with status := resolvePurchaseOrderLineStatus counted true }

/-- Accepted stock is posted as an increase within the receipt. -/
def postAccepted (received : ReceiptLine) (ids : PostingIds) (store : InventoryStore) :
    Except DomainError InventoryStore :=
  if 0 < received.quantityAccepted then
    (StockControlService.postAdjustment service
      { stockItemId := received.stockItemId
        storeroomId := received.storeroomId
        quantity := received.quantityAccepted
        uom := some received.uom
        referenceType := some "inventory_receipt"
        referenceId := received.id
        notes := received.notes
        ids := ids }
      "INCREASE" received.unitCost).effect store
  else .ok store

def receiveLine (receipt : ReceiptHeader) (index : ℕ) (payload : ReceiptPayload)
    (store : InventoryStore) : Except DomainError InventoryStore := do
  let (line, item, received) ← prepareReceiptLine service receipt index payload store
  let inserted ← insertReceiptLine store received
  let counted := { inserted with orderLines := inserted.orderLines.update (receivedLine line received) }
  let posted ← postAccepted service received payload.ids counted
  adjustOnOrderBalance posted receipt.organizationId item line.destinationStoreroomId line.uom
    (-(received.quantityAccepted + received.quantityRejected)) payload.onOrderBalanceId

/-- The payloads in order, counted from one. -/
def receiveLines (receipt : ReceiptHeader) :
    ℕ → List ReceiptPayload → InventoryStore → Except DomainError InventoryStore
  | _, [], store => .ok store
  | index, payload :: rest, store => do
      let received ← receiveLine service receipt index payload store
      receiveLines receipt (index + 1) rest received

def postReceipt (arguments : ReceiptArguments) : GuardedCall DomainError InventoryStore where
  Plan := PurchaseOrder × ReceiptHeader
  checks := prepareReceipt service arguments
  body plan store := do
    let inserted ← insertReceipt store plan.2
    let received ← receiveLines service plan.2 1 arguments.receiptLines inserted
    return { received with
      orders := received.orders.update { plan.1 with
        status := resolvePurchaseOrderReceivingStatus (listForPurchaseOrder received plan.1.id)
        version := plan.1.version + 1 } }

end

end ProjectManager
