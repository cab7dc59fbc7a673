import Mathlib.Data.Rat.Defs
import ProjectManager.Calendar.Moments
import ProjectManager.Domain.Checks
import ProjectManager.Foundation.Session
import ProjectManager.Foundation.Tables

/-! # Rows of the inventory and procurement module

Quantities and costs are rational numbers. The timestamps of rows are left out;
tables hold the newest row first.
-/

namespace ProjectManager

open Foundation

/-! ## Stock -/

inductive StockTransactionType
  | openingBalance
  | adjustmentIncrease
  | adjustmentDecrease
  | issue
  | «return»
  | transferOut
  | transferIn
  | reservationHold
  | reservationRelease
  deriving DecidableEq, Repr

inductive StockReservationStatus
  | active
  | partiallyIssued
  | fullyIssued
  | released
  | cancelled
  deriving DecidableEq, Repr

def StockReservationStatus.value : StockReservationStatus → String
  | .active => "ACTIVE"
  | .partiallyIssued => "PARTIALLY_ISSUED"
  | .fullyIssued => "FULLY_ISSUED"
  | .released => "RELEASED"
  | .cancelled => "CANCELLED"

inductive StockItemStatus
  | draft
  | active
  | inactive
  | obsolete
  deriving DecidableEq, Repr

def StockItemStatus.value : StockItemStatus → String
  | .draft => "DRAFT"
  | .active => "ACTIVE"
  | .inactive => "INACTIVE"
  | .obsolete => "OBSOLETE"

structure InventoryItemCategory where
  id : String
  organizationId : String
  categoryCode : String
  name : String := ""
  description : String := ""
  categoryType : String := "MATERIAL"
  isEquipment : Bool := false
  supportsProjectUsage : Bool := false
  supportsMaintenanceUsage : Bool := false
  isActive : Bool := true
  version : ℕ := 1
  deriving DecidableEq

structure StockItem where
  id : String
  organizationId : String
  itemCode : String := ""
  name : String
  description : String := ""
  itemType : String := ""
  status : StockItemStatus := .draft
  stockUom : String
  orderUom : String := ""
  issueUom : String := ""
  orderUomRatio : ℚ := 1
  issueUomRatio : ℚ := 1
  categoryCode : String := ""
  commodityCode : String := ""
  isStocked : Bool := true
  isPurchaseAllowed : Bool := true
  isActive : Bool := false
  defaultReorderPolicy : String := ""
  minQty : ℚ := 0
  maxQty : ℚ := 0
  reorderPoint : ℚ := 0
  reorderQty : ℚ := 0
  leadTimeDays : Option ℤ := none
  isLotTracked : Bool := false
  isSerialTracked : Bool := false
  shelfLifeDays : Option ℤ := none
  preferredPartyId : Option String := none
  notes : String := ""
  version : ℕ := 1
  deriving DecidableEq

structure Storeroom where
  id : String
  organizationId : String
  siteId : String := ""
  isActive : Bool := false
  allowsIssue : Bool := true
  allowsTransfer : Bool := true
  allowsReceiving : Bool := true
  requiresReservationForIssue : Bool := false
  requiresSupplierReferenceForReceipt : Bool := false
  deriving DecidableEq

/-- An item in a storeroom of an organization. -/
structure StockPosition where
  organizationId : String
  stockItemId : String
  storeroomId : String
  deriving DecidableEq

structure StockBalance where
  id : String
  organizationId : String
  stockItemId : String
  storeroomId : String
  uom : String
  onHandQty : ℚ := 0
  reservedQty : ℚ := 0
  availableQty : ℚ := 0
  onOrderQty : ℚ := 0
  averageCost : ℚ := 0
  reorderRequired : Bool := false
  deriving DecidableEq

def StockBalance.position (balance : StockBalance) : StockPosition :=
  ⟨balance.organizationId, balance.stockItemId, balance.storeroomId⟩

structure StockTransaction where
  id : String
  organizationId : String
  transactionNumber : String
  stockItemId : String
  storeroomId : String
  transactionType : StockTransactionType
  quantity : ℚ
  uom : String
  unitCost : ℚ := 0
  referenceType : String := ""
  referenceId : String := ""
  performedByUserId : Option String := none
  performedByUsername : String := ""
  resultingOnHandQty : ℚ := 0
  resultingAvailableQty : ℚ := 0
  notes : String := ""
  deriving DecidableEq

def StockTransaction.position (transaction : StockTransaction) : StockPosition :=
  ⟨transaction.organizationId, transaction.stockItemId, transaction.storeroomId⟩

structure StockReservation where
  id : String
  organizationId : String
  reservationNumber : String
  stockItemId : String
  storeroomId : String
  reservedQty : ℚ
  issuedQty : ℚ := 0
  remainingQty : ℚ := 0
  uom : String := ""
  status : StockReservationStatus := .active
  needByDate : Option Date := none
  sourceReferenceType : String := ""
  sourceReferenceId : String := ""
  requestedByUserId : Option String := none
  requestedByUsername : String := ""
  notes : String := ""
  deriving DecidableEq

def StockReservation.position (reservation : StockReservation) : StockPosition :=
  ⟨reservation.organizationId, reservation.stockItemId, reservation.storeroomId⟩

/-! ## Requisitions -/

inductive PurchaseRequisitionStatus
  | draft
  | submitted
  | underReview
  | approved
  | rejected
  | partiallySourced
  | fullySourced
  | cancelled
  | closed
  deriving DecidableEq, Repr

def PurchaseRequisitionStatus.value : PurchaseRequisitionStatus → String
  | .draft => "DRAFT"
  | .submitted => "SUBMITTED"
  | .underReview => "UNDER_REVIEW"
  | .approved => "APPROVED"
  | .rejected => "REJECTED"
  | .partiallySourced => "PARTIALLY_SOURCED"
  | .fullySourced => "FULLY_SOURCED"
  | .cancelled => "CANCELLED"
  | .closed => "CLOSED"

inductive PurchaseRequisitionLineStatus
  | draft
  | open
  | partiallySourced
  | rejected
  | cancelled
  | fullySourced
  deriving DecidableEq, Repr

structure PurchaseRequisition where
  id : String
  organizationId : String
  requisitionNumber : String
  requestingSiteId : String
  requestingStoreroomId : String
  requesterUserId : Option String := none
  requesterUsername : String := ""
  status : PurchaseRequisitionStatus := .draft
  purpose : String := ""
  neededByDate : Option Date := none
  priority : String := ""
  approvalRequestId : Option String := none
  sourceReferenceType : String := ""
  sourceReferenceId : String := ""
  notes : String := ""
  version : ℕ := 1
  deriving DecidableEq

structure PurchaseRequisitionLine where
  id : String
  purchaseRequisitionId : String
  lineNumber : ℕ
  stockItemId : String
  description : String := ""
  quantityRequested : ℚ := 0
  uom : String := ""
  neededByDate : Option Date := none
  estimatedUnitCost : ℚ := 0
  quantitySourced : ℚ := 0
  suggestedSupplierPartyId : Option String := none
  status : PurchaseRequisitionLineStatus := .draft
  notes : String := ""
  deriving DecidableEq

/-! ## Purchase orders and receipts -/

inductive PurchaseOrderStatus
  | draft
  | submitted
  | underReview
  | approved
  | rejected
  | sent
  | partiallyReceived
  | fullyReceived
  | closed
  | cancelled
  deriving DecidableEq, Repr

def PurchaseOrderStatus.value : PurchaseOrderStatus → String
  | .draft => "DRAFT"
  | .submitted => "SUBMITTED"
  | .underReview => "UNDER_REVIEW"
  | .approved => "APPROVED"
  | .rejected => "REJECTED"
  | .sent => "SENT"
  | .partiallyReceived => "PARTIALLY_RECEIVED"
  | .fullyReceived => "FULLY_RECEIVED"
  | .closed => "CLOSED"
  | .cancelled => "CANCELLED"

inductive PurchaseOrderLineStatus
  | draft
  | open
  | partiallyReceived
  | fullyReceived
  | cancelled
  deriving DecidableEq, Repr

structure PurchaseOrder where
  id : String
  organizationId : String
  poNumber : String
  siteId : String
  supplierPartyId : String
  status : PurchaseOrderStatus := .draft
  orderDate : Option Date := none
  expectedDeliveryDate : Option Date := none
  currencyCode : String := ""
  approvalRequestId : Option String := none
  sourceRequisitionId : Option String := none
  supplierReference : String := ""
  notes : String := ""
  version : ℕ := 1
  deriving DecidableEq

structure PurchaseOrderLine where
  id : String
  purchaseOrderId : String
  lineNumber : ℕ
  stockItemId : String
  destinationStoreroomId : String
  description : String := ""
  quantityOrdered : ℚ := 0
  quantityReceived : ℚ := 0
  quantityRejected : ℚ := 0
  uom : String := ""
  unitPrice : ℚ := 0
  expectedDeliveryDate : Option Date := none
  sourceRequisitionLineId : Option String := none
  status : PurchaseOrderLineStatus := .draft
  notes : String := ""
  deriving DecidableEq

/-- A posted receipt. -/
structure ReceiptHeader where
  id : String
  organizationId : String
  receiptNumber : String
  purchaseOrderId : String
  receivedSiteId : String
  supplierPartyId : String
  receiptDate : Date
  supplierDeliveryReference : String := ""
  receivedByUserId : Option String := none
  receivedByUsername : String := ""
  notes : String := ""
  deriving DecidableEq

structure ReceiptLine where
  id : String
  receiptHeaderId : String
  purchaseOrderLineId : String
  lineNumber : ℕ
  stockItemId : String
  storeroomId : String
  quantityAccepted : ℚ := 0
  quantityRejected : ℚ := 0
  uom : String := ""
  unitCost : ℚ := 0
  lotNumber : String := ""
  serialNumber : String := ""
  expiryDate : Option Date := none
  notes : String := ""
  deriving DecidableEq

/-! ## The store -/

/-- One balance per position, as the database demands. -/
structure InventoryStore where
  items : Table StockItem.id
  storerooms : Table Storeroom.id
  balances : Table StockBalance.position
  transactions : Table StockTransaction.id
  reservations : Table StockReservation.id
  requisitions : Table PurchaseRequisition.id
  requisitionLines : Table PurchaseRequisitionLine.id
  orders : Table PurchaseOrder.id
  orderLines : Table PurchaseOrderLine.id
  receipts : Table ReceiptHeader.id
  receiptLines : Table ReceiptLine.id
  categories : Table InventoryItemCategory.id := .empty

def InventoryStore.empty : InventoryStore where
  items := .empty
  storerooms := .empty
  balances := .empty
  transactions := .empty
  reservations := .empty
  requisitions := .empty
  requisitionLines := .empty
  orders := .empty
  orderLines := .empty
  receipts := .empty
  receiptLines := .empty

/-- Who makes a call, and when. -/
structure InventoryService where
  userSession : AuthorizationEngine
  principal : Option (String × String)
  activeOrganization : Option String
  today : Date
  now : Moment := 0

namespace InventoryService

variable (service : InventoryService)

def userId : Option String := service.principal.map Prod.fst

def username : String := (service.principal.map Prod.snd).getD ""

def requireRead (operationLabel : String) : Except DomainError Unit :=
  service.userSession.requirePermission "inventory.read" operationLabel

def requireManage (operationLabel : String) : Except DomainError Unit :=
  service.userSession.requirePermission "inventory.manage" operationLabel

end InventoryService

end ProjectManager
