import ProjectManager.Foundation.Evolution
import ProjectManager.Procurement.InventoryRuns

/-! # Writes to documents

Reservations, requisitions, orders, receipts and stock transactions are the documents of
the inventory. Every call writes them in a few ways only, also where it is refused halfway
and leaves its first writes in the session. What each of these ways keeps, every run keeps.
-/

namespace ProjectManager

open Foundation StockControlService ReservationService

structure Documents where
  transactions : Table StockTransaction.id
  reservations : Table StockReservation.id
  requisitions : Table PurchaseRequisition.id
  requisitionLines : Table PurchaseRequisitionLine.id
  orders : Table PurchaseOrder.id
  orderLines : Table PurchaseOrderLine.id
  receipts : Table ReceiptHeader.id
  receiptLines : Table ReceiptLine.id

def InventoryStore.documents (store : InventoryStore) : Documents where
  transactions := store.transactions
  reservations := store.reservations
  requisitions := store.requisitions
  requisitionLines := store.requisitionLines
  orders := store.orders
  orderLines := store.orderLines
  receipts := store.receipts
  receiptLines := store.receiptLines

/-! ## Single rows -/

def Follows {Status : Type} (transitions : Status → List Status) (before after : Status) : Prop :=
  after = before ∨ after ∈ transitions before

instance {Status : Type} [DecidableEq Status] (transitions : Status → List Status)
    (before after : Status) : Decidable (Follows transitions before after) :=
  inferInstanceAs (Decidable (_ ∨ _))

/-- A reservation as it is made. -/
structure Opened (reservation : StockReservation) : Prop where
  status : reservation.status = .active
  issuedQty : reservation.issuedQty = 0
  remainingQty : reservation.remainingQty = reservation.reservedQty

/-- Something is taken off a reservation that is open. -/
structure ReservationMoved (stored updated : StockReservation) : Prop where
  isOpen : stored.IsOpen
  status : Follows reservationStatusTransitions stored.status updated.status
  sameRow : updated.position = stored.position ∧ updated.uom = stored.uom ∧
    updated.reservedQty = stored.reservedQty
  issuedQty : stored.issuedQty ≤ updated.issuedQty
  remainingQty : updated.remainingQty ≤ stored.remainingQty

def ReservationKept (stored updated : StockReservation) : Prop :=
  updated = stored ∨ ReservationMoved stored updated

theorem ReservationKept.refl (row : StockReservation) : ReservationKept row row := Or.inl rfl

/-- Only a draft is edited; after that the status moves. -/
structure RequisitionMoved (stored updated : PurchaseRequisition) : Prop where
  status : Follows requisitionStatusTransitions stored.status updated.status
  terms : stored.status ≠ .draft →
    updated = { stored with status := updated.status, version := updated.version }

structure OrderMoved (stored updated : PurchaseOrder) : Prop where
  status : Follows purchaseOrderStatusTransitions stored.status updated.status
  organizationId : updated.organizationId = stored.organizationId
  terms : stored.status ≠ .draft → updated = { stored with
    status := updated.status, orderDate := updated.orderDate, version := updated.version }

theorem RequisitionMoved.refl (row : PurchaseRequisition) : RequisitionMoved row row :=
  ⟨Or.inl rfl, fun _ => rfl⟩

theorem OrderMoved.refl (row : PurchaseOrder) : OrderMoved row row :=
  ⟨Or.inl rfl, rfl, fun _ => rfl⟩

/-- A requisition line without what sourcing writes. -/
def PurchaseRequisitionLine.unsourced (line : PurchaseRequisitionLine) : PurchaseRequisitionLine :=
  { line with quantitySourced := 0, status := .draft }

/-- More is sourced, as long as no order line orders less than nothing. -/
structure RequisitionLineMoved (documents : Documents) (stored updated : PurchaseRequisitionLine) :
    Prop where
  terms : updated.unsourced = stored.unsourced
  quantitySourced : (∀ line ∈ documents.orderLines.rows, 0 ≤ line.quantityOrdered) →
    stored.quantitySourced ≤ updated.quantitySourced

theorem RequisitionLineMoved.refl (documents : Documents) (row : PurchaseRequisitionLine) :
    RequisitionLineMoved documents row row :=
  ⟨rfl, fun _ => le_rfl⟩

/-- What was accepted of a receipt line is posted to its storeroom. -/
structure PostedFor (received : ReceiptLine) (transaction : StockTransaction) : Prop where
  transactionType : transaction.transactionType = .adjustmentIncrease
  position : transaction.stockItemId = received.stockItemId ∧
    transaction.storeroomId = received.storeroomId
  quantity : transaction.quantity = received.quantityAccepted
  unitCost : transaction.unitCost = received.unitCost
  reference : transaction.referenceType = "inventory_receipt" ∧
    transaction.referenceId = strip received.id

/-- The transactions after a receipt line: one more where something was accepted. -/
def TransactionsAfter (received : ReceiptLine) (transactions next : Table StockTransaction.id) :
    Prop :=
  (received.quantityAccepted = 0 ∧ next = transactions) ∨
    ∃ transaction, transaction.id ∉ transactions.ids ∧ PostedFor received transaction ∧
      next = transactions.insert transaction

/-- A line of a receipt, for a line of its order. -/
structure ReceivesLine (documents : Documents) (line : PurchaseOrderLine) (received : ReceiptLine) :
    Prop where
  stored : documents.orderLines.get? line.id = some line
  receipt : ∃ receipt ∈ documents.receipts.get? received.receiptHeaderId,
    receipt.purchaseOrderId = line.purchaseOrderId
  fresh : received.id ∉ documents.receiptLines.ids
  purchaseOrderLineId : received.purchaseOrderLineId = line.id
  terms : received.stockItemId = line.stockItemId ∧
    received.storeroomId = line.destinationStoreroomId ∧ received.uom = line.uom
  accepted : 0 ≤ received.quantityAccepted
  rejected : 0 ≤ received.quantityRejected
  counted : 0 < received.quantityAccepted + received.quantityRejected

/-! ## The ways -/

/-- One of the ways in which documents are written. -/
inductive DocumentWrite (documents : Documents) : Documents → Prop
  | post (transaction : StockTransaction) (hfresh : transaction.id ∉ documents.transactions.ids) :
      DocumentWrite documents
        { documents with transactions := documents.transactions.insert transaction }
  | reservations (reservations : Table StockReservation.id)
      (h : documents.reservations.Evolves Opened ReservationKept reservations) :
      DocumentWrite documents { documents with reservations := reservations }
  | requisitions (requisitions : Table PurchaseRequisition.id)
      (h : documents.requisitions.Evolves (fun row => row.status = .draft) RequisitionMoved
        requisitions) :
      DocumentWrite documents { documents with requisitions := requisitions }
  | addRequisitionLine (line : PurchaseRequisitionLine) (requisition : PurchaseRequisition)
      (hrequisition : documents.requisitions.get? line.purchaseRequisitionId = some requisition)
      (hdraft : requisition.status = .draft) (hfresh : line.id ∉ documents.requisitionLines.ids)
      (hsourced : line.quantitySourced = 0) :
      DocumentWrite documents
        { documents with requisitionLines := documents.requisitionLines.insert line }
  | requisitionLines (lines : Table PurchaseRequisitionLine.id)
      (h : documents.requisitionLines.Evolves (fun _ => False) (RequisitionLineMoved documents)
        lines) :
      DocumentWrite documents { documents with requisitionLines := lines }
  | orders (orders : Table PurchaseOrder.id)
      (h : documents.orders.Evolves (fun row => row.status = .draft) OrderMoved orders) :
      DocumentWrite documents { documents with orders := orders }
  | addOrderLine (line : PurchaseOrderLine) (order : PurchaseOrder)
      (horder : documents.orders.get? line.purchaseOrderId = some order)
      (hdraft : order.status = .draft) (hfresh : line.id ∉ documents.orderLines.ids)
      (hreceived : line.quantityReceived = 0) (hrejected : line.quantityRejected = 0)
      (hordered : 0 < line.quantityOrdered) :
      DocumentWrite documents { documents with orderLines := documents.orderLines.insert line }
  | orderLines (lines : Table PurchaseOrderLine.id)
      (h : lines.rows.map PurchaseOrderLine.bare =
        documents.orderLines.rows.map PurchaseOrderLine.bare) :
      DocumentWrite documents { documents with orderLines := lines }
  | addReceipt (receipt : ReceiptHeader) (hfresh : receipt.id ∉ documents.receipts.ids) :
      DocumentWrite documents { documents with receipts := documents.receipts.insert receipt }
  | receive (line : PurchaseOrderLine) (received : ReceiptLine)
      (transactions : Table StockTransaction.id) (h : ReceivesLine documents line received)
      (htransactions : TransactionsAfter received documents.transactions transactions) :
      DocumentWrite documents
        { documents with
          receiptLines := documents.receiptLines.insert received
          orderLines := documents.orderLines.update (receivedLine line received)
          transactions := transactions }

/-- One write after another leads from the one store to the other. -/
def Written (store next : InventoryStore) : Prop :=
  Relation.ReflTransGen DocumentWrite store.documents next.documents

theorem Written.refl (store : InventoryStore) : Written store store := Relation.ReflTransGen.refl

theorem Written.trans {store current next : InventoryStore} (hfirst : Written store current)
    (hsecond : Written current next) : Written store next :=
  Relation.ReflTransGen.trans hfirst hsecond

theorem Written.of_eq {store next : InventoryStore} (h : next.documents = store.documents) :
    Written store next := by
  unfold Written
  rw [h]

theorem Written.single {store next : InventoryStore}
    (h : DocumentWrite store.documents next.documents) : Written store next :=
  Relation.ReflTransGen.single h

/-! ## Calls on stock -/

section

variable {service : InventoryService} {store next : InventoryStore}

theorem StockPosting.written {posting : StockPosting} (h : posting.write store = .ok next) :
    Written store next := by
  obtain ⟨hfresh, rfl⟩ := posting.write_ok h
  exact .single (.post posting.transaction hfresh)

theorem Posted.written {position : StockPosition} {reserved : ℚ}
    (h : Posted store next position reserved) : Written store next := by
  obtain ⟨_, posting, _, -, -, hwrite⟩ := h
  exact posting.written hwrite

theorem insertReservation_written {reservation : StockReservation} (hopened : Opened reservation)
    (h : insertReservation store reservation = .ok next) : Written store next := by
  obtain ⟨_, -, h⟩ := bind_ok h
  cases h
  exact .single (.reservations _ (.insert ReservationKept.refl hopened))

theorem updateReservation_written {updated stored : StockReservation}
    (hstored : store.reservations.get? updated.id = some stored)
    (hmoved : ReservationMoved stored updated) :
    Written store (updateReservation store updated) := by
  obtain ⟨hmem, hid⟩ := Table.get?_eq_some_iff.mp hstored
  exact .single (.reservations _ (.update ReservationKept.refl hmem hid (Or.inr hmoved)))

theorem createReservation_written {arguments : CreateArguments}
    (h : (createReservation service arguments).effect store = .ok next) : Written store next := by
  obtain ⟨reservation, hprepared, h⟩ := GuardedCall.effect_eq_ok.mp h
  obtain ⟨inserted, hinserted, h⟩ := bind_ok h
  obtain ⟨hactive, hissued, hreserved, -, -⟩ := prepareReservation_ok hprepared
  exact (insertReservation_written ⟨hactive, hissued, hreserved.symm⟩ hinserted).trans
    (holdReservation_posted h).written

theorem prepareIssue_moved {reservationId note : String} {quantity : ℚ}
    {plan : StockReservation × ℚ}
    (h : prepareIssue service reservationId quantity note store = .ok plan) :
    ∃ stored, store.reservations.get? plan.1.id = some stored ∧ ReservationMoved stored plan.1 := by
  obtain ⟨_, -, h⟩ := bind_ok h
  obtain ⟨stored, hstored, h⟩ := bind_ok h
  obtain ⟨_, hopen, h⟩ := bind_ok h
  obtain ⟨_, hquantity, h⟩ := bind_ok h
  obtain ⟨_, hfits, h⟩ := bind_ok h
  obtain ⟨_, htransition, h⟩ := bind_ok h
  cases h
  obtain ⟨rfl, hpositive⟩ := normalizePositiveQuantity_eq_ok hquantity
  have hrest := sub_nonneg.mpr (ensure_eq_ok.mp hfits)
  obtain ⟨hfound, -⟩ := getReservation_ok hstored
  refine ⟨stored, (Table.get?_eq_some_iff.mp hfound).2 ▸ hfound, ensure_eq_ok.mp hopen,
    validateTransition_iff.mp htransition, ⟨rfl, rfl, rfl⟩, ?_, ?_⟩
  · exact le_add_of_nonneg_right hpositive.le
  · exact max_le (le_trans hpositive.le (ensure_eq_ok.mp hfits)) (sub_le_self _ hpositive.le)

theorem prepareClose_moved {label reservationId note : String} {status : StockReservationStatus}
    {plan : StockReservation × ℚ}
    (h : prepareClose service label reservationId status note store = .ok plan) :
    ∃ stored, store.reservations.get? plan.1.id = some stored ∧ ReservationMoved stored plan.1 := by
  obtain ⟨_, -, h⟩ := bind_ok h
  obtain ⟨stored, hstored, h⟩ := bind_ok h
  obtain ⟨_, hopen, h⟩ := bind_ok h
  obtain ⟨_, hpositive, h⟩ := bind_ok h
  obtain ⟨_, htransition, h⟩ := bind_ok h
  cases h
  obtain ⟨hfound, -⟩ := getReservation_ok hstored
  exact ⟨stored, (Table.get?_eq_some_iff.mp hfound).2 ▸ hfound, ensure_eq_ok.mp hopen,
    validateTransition_iff.mp htransition, ⟨rfl, rfl, rfl⟩, le_rfl,
    (ensure_eq_ok.mp hpositive).le⟩

theorem Posted.reservations {position : StockPosition} {reserved : ℚ}
    (h : Posted store next position reserved) : next.reservations = store.reservations := by
  obtain ⟨_, _, rfl⟩ := h.frame
  rfl

theorem takeFrom_written {plan : StockReservation × ℚ} {current : InventoryStore}
    {position : StockPosition} {reserved : ℚ}
    (hplan : ∃ stored, store.reservations.get? plan.1.id = some stored ∧
      ReservationMoved stored plan.1)
    (hposted : Posted store current position reserved) :
    Written store (updateReservation current plan.1) := by
  obtain ⟨stored, hstored, hmoved⟩ := hplan
  exact hposted.written.trans (updateReservation_written (hposted.reservations ▸ hstored) hmoved)

theorem issueReservedStock_written {reservationId note : String} {quantity : ℚ} {ids : PostingIds}
    (h : (issueReservedStock service reservationId quantity note ids).effect store = .ok next) :
    Written store next := by
  obtain ⟨plan, hprepared, h⟩ := GuardedCall.effect_eq_ok.mp h
  obtain ⟨issued, hissued, h⟩ := bind_ok h
  cases h
  exact takeFrom_written (prepareIssue_moved hprepared) (issueStock_posted hissued)

theorem closeReservation_written {label reservationId note : String}
    {status : StockReservationStatus} {ids : PostingIds}
    (h : (closeReservation service label reservationId status note ids).effect store = .ok next) :
    Written store next := by
  obtain ⟨plan, hprepared, h⟩ := GuardedCall.effect_eq_ok.mp h
  obtain ⟨released, hreleased, h⟩ := bind_ok h
  cases h
  exact takeFrom_written (prepareClose_moved hprepared) (releaseReservation_posted hreleased)

/-! ### Receipts -/

theorem prepareReceiptLine_row {receipt : ReceiptHeader} {index : ℕ} {payload : ReceiptPayload}
    {line : PurchaseOrderLine} {item : StockItem} {received : ReceiptLine}
    (h : prepareReceiptLine service receipt index payload store = .ok (line, item, received)) :
    received.receiptHeaderId = receipt.id ∧ received.purchaseOrderLineId = line.id ∧
      received.stockItemId = line.stockItemId ∧
      received.storeroomId = line.destinationStoreroomId ∧ received.uom = line.uom := by
  -- The checks are on quantities, units and tracking; the row copies the line.
  iterate 12 obtain ⟨_, -, h⟩ := bind_ok h
  cases h
  exact ⟨rfl, rfl, rfl, rfl, rfl⟩

theorem postTransaction_transaction {arguments : PostingArguments} {unitCost : ℚ}
    {posting : StockPosting}
    (h : postTransaction service store arguments unitCost = .ok posting) :
    ∃ uom, posting.transaction =
      createTransaction service arguments arguments.quantity uom unitCost posting.balance := by
  obtain ⟨_, hquantity, h⟩ := bind_ok h
  obtain ⟨uom, -, h⟩ := bind_ok h
  obtain ⟨_, -, h⟩ := bind_ok h
  obtain ⟨_, hcost, h⟩ := bind_ok h
  iterate 3 obtain ⟨_, -, h⟩ := bind_ok h
  cases h
  obtain ⟨rfl, -⟩ := normalizePositiveQuantity_eq_ok hquantity
  obtain ⟨rfl, -⟩ := normalizeNonnegativeQuantity_eq_ok hcost
  exact ⟨uom, rfl⟩

theorem postAccepted_transactions {received : ReceiptLine} {ids : PostingIds}
    (hnonneg : 0 ≤ received.quantityAccepted)
    (h : postAccepted service received ids store = .ok next) :
    ∃ balances transactions, TransactionsAfter received store.transactions transactions ∧
      next = { store with balances := balances, transactions := transactions } := by
  unfold postAccepted at h
  split at h
  next =>
    obtain ⟨posting, hposting, hwrite⟩ := GuardedCall.effect_eq_ok.mp h
    obtain ⟨scope, hscope, hposting⟩ := bind_ok hposting
    obtain ⟨_, -, hposting⟩ := bind_ok hposting
    obtain ⟨uom, htransaction⟩ := postTransaction_transaction hposting
    obtain ⟨-, -, hitem, hstoreroom⟩ := resolveStockScope_ok hscope
    obtain ⟨hfresh, rfl⟩ := posting.write_ok hwrite
    have hdirection : adjustmentType (upper (strip "INCREASE")) = .adjustmentIncrease := by decide
    have hreference : strip "inventory_receipt" = "inventory_receipt" := by decide
    have hposted : PostedFor received posting.transaction := by
      rw [htransaction]
      exact ⟨hdirection, ⟨hitem, hstoreroom⟩, rfl, rfl, hreference, rfl⟩
    exact ⟨_, _, Or.inr ⟨posting.transaction, hfresh, hposted, rfl⟩, rfl⟩
  next hnone =>
    cases h
    exact ⟨_, _, Or.inl ⟨le_antisymm (not_lt.mp hnone) hnonneg, rfl⟩, rfl⟩

theorem receiveLine_written {receipt : ReceiptHeader} {index : ℕ} {payload : ReceiptPayload}
    (hreceipt : store.receipts.get? receipt.id = some receipt)
    (h : receiveLine service receipt index payload store = .ok next) :
    Written store next ∧ next.receipts = store.receipts ∧ next.orders = store.orders := by
  obtain ⟨⟨line, item, received⟩, hprepared, h⟩ := bind_ok h
  obtain ⟨inserted, hinserted, h⟩ := bind_ok h
  obtain ⟨posted, hposted, h⟩ := bind_ok h
  obtain ⟨_, hfresh, hinserted⟩ := bind_ok hinserted
  cases hinserted
  obtain ⟨hheader, hline, hitem, hstoreroom, huom⟩ := prepareReceiptLine_row hprepared
  obtain ⟨⟨hfound, hparent⟩, -, haccepted, hrejected, -⟩ := prepareReceiptLine_ok hprepared
  obtain ⟨balances, transactions, htransactions, rfl⟩ := postAccepted_transactions haccepted hposted
  obtain ⟨balances', rfl⟩ := (adjustOnOrderBalance_ok h).frame
  have hreceives : ReceivesLine store.documents line received :=
    ⟨hfound, ⟨receipt, hheader ▸ hreceipt, hparent.symm⟩, ensure_eq_ok.mp hfresh, hline,
      ⟨hitem, hstoreroom, huom⟩, haccepted, hrejected, (prepareReceiptLine_processed hprepared).1⟩
  exact ⟨.single (.receive line received transactions hreceives htransactions), rfl, rfl⟩

theorem receiveLines_written {receipt : ReceiptHeader} {index : ℕ} (payloads : List ReceiptPayload)
    (hreceipt : store.receipts.get? receipt.id = some receipt)
    (h : receiveLines service receipt index payloads store = .ok next) :
    Written store next ∧ next.orders = store.orders := by
  induction payloads generalizing index store with
  | nil =>
      obtain rfl := Except.ok.inj h
      exact ⟨.refl store, rfl⟩
  | cons payload rest ih =>
      obtain ⟨current, hcurrent, h⟩ := bind_ok h
      obtain ⟨hwritten, hreceipts, horders⟩ := receiveLine_written hreceipt hcurrent
      obtain ⟨hrest, hsame⟩ := ih (hreceipts ▸ hreceipt) h
      exact ⟨hwritten.trans hrest, hsame.trans horders⟩

theorem updatePurchaseOrder_written {order stored : PurchaseOrder}
    (hstored : store.orders.get? order.id = some stored) (hmoved : OrderMoved stored order) :
    Written store (updatePurchaseOrder store order) := by
  obtain ⟨hmem, hid⟩ := Table.get?_eq_some_iff.mp hstored
  have hwritten : OrderMoved stored { order with version := order.version + 1 } := by
    refine ⟨hmoved.status, hmoved.organizationId, fun hsubmitted => ?_⟩
    rw [hmoved.terms hsubmitted]
  have horders : store.orders.Evolves (fun row => row.status = .draft) OrderMoved
      (updatePurchaseOrder store order).orders := .update OrderMoved.refl hmem hid hwritten
  exact .single (.orders _ horders)

theorem resolvePurchaseOrderReceivingStatus_follows {status : PurchaseOrderStatus}
    (h : status ∈ [PurchaseOrderStatus.approved, .sent, .partiallyReceived])
    (lines : List PurchaseOrderLine) :
    Follows purchaseOrderStatusTransitions status (resolvePurchaseOrderReceivingStatus lines) := by
  unfold resolvePurchaseOrderReceivingStatus Follows
  revert h
  split <;> cases status <;> decide

/-- The header is inserted, its lines are received, and the order moves. -/
theorem postReceipt_body_written {arguments : ReceiptArguments}
    {plan : PurchaseOrder × ReceiptHeader}
    (hplan : store.orders.get? plan.1.id = some plan.1 ∧
      plan.1.status ∈ [PurchaseOrderStatus.approved, .sent, .partiallyReceived])
    (h : (postReceipt service arguments).body plan store = .ok next) : Written store next := by
  obtain ⟨inserted, hinserted, h⟩ := bind_ok h
  obtain ⟨received, hreceived, h⟩ := bind_ok h
  cases h
  obtain ⟨_, hfresh, hinserted⟩ := bind_ok hinserted
  cases hinserted
  have hnew := (ensure_eq_ok.mp hfresh).1
  obtain ⟨hlines, horders⟩ := receiveLines_written _ (Table.get?_insert_self hnew) hreceived
  have hheader : Written store { store with receipts := store.receipts.insert plan.2 } :=
    .single (.addReceipt plan.2 hnew)
  let order := { plan.1 with
    status := resolvePurchaseOrderReceivingStatus (listForPurchaseOrder received plan.1.id) }
  have hstored : received.orders.get? order.id = some plan.1 := horders ▸ hplan.1
  have hmoved : OrderMoved plan.1 order :=
    ⟨resolvePurchaseOrderReceivingStatus_follows hplan.2 _, rfl, fun _ => rfl⟩
  exact (hheader.trans hlines).trans (updatePurchaseOrder_written hstored hmoved)

end

/-! ## Requisitions and orders -/

section

variable {store next : InventoryStore}

theorem updateRequisition_written {requisition stored : PurchaseRequisition}
    (hstored : store.requisitions.get? requisition.id = some stored)
    (hmoved : RequisitionMoved stored requisition) :
    Written store (updateRequisition store requisition) := by
  obtain ⟨hmem, hid⟩ := Table.get?_eq_some_iff.mp hstored
  have hwritten : RequisitionMoved stored { requisition with version := requisition.version + 1 } := by
    refine ⟨hmoved.status, fun hsubmitted => ?_⟩
    rw [hmoved.terms hsubmitted]
  have hrequisitions : store.requisitions.Evolves (fun row => row.status = .draft) RequisitionMoved
      (updateRequisition store requisition).requisitions :=
    .update RequisitionMoved.refl hmem hid hwritten
  exact .single (.requisitions _ hrequisitions)

theorem RequisitionMoved.of_draft {stored requisition : PurchaseRequisition}
    (hdraft : stored.status = .draft)
    (hstatus : requisition.status ∈ [PurchaseRequisitionStatus.draft, .submitted, .cancelled]) :
    RequisitionMoved stored requisition := by
  refine ⟨?_, fun hsubmitted => absurd hdraft hsubmitted⟩
  unfold Follows
  rw [hdraft]
  revert hstatus
  cases requisition.status <;> decide

theorem OrderMoved.of_draft {stored order : PurchaseOrder} (hdraft : stored.status = .draft)
    (hstatus : order.status ∈ [PurchaseOrderStatus.draft, .submitted, .cancelled])
    (horganization : order.organizationId = stored.organizationId) : OrderMoved stored order := by
  refine ⟨?_, horganization, fun hsubmitted => absurd hdraft hsubmitted⟩
  unfold Follows
  rw [hdraft]
  revert hstatus
  cases order.status <;> decide

theorem OrderMoved.of_mem {stored : PurchaseOrder} {status : PurchaseOrderStatus}
    {known : List PurchaseOrderStatus} {orderDate : Option Date} (hknown : stored.status ∈ known)
    (hnext : ∀ before ∈ known, Follows purchaseOrderStatusTransitions before status) :
    OrderMoved stored { stored with status := status, orderDate := orderDate } :=
  ⟨hnext _ hknown, rfl, fun _ => rfl⟩

theorem setRequisitionLineStatus_written (store : InventoryStore) (requisitionId : String)
    (status : PurchaseRequisitionLineStatus) :
    Written store (setRequisitionLineStatus store requisitionId status) := by
  let bare (line : PurchaseRequisitionLine) : PurchaseRequisitionLine := { line with status := .draft }
  have hrows : (setRequisitionLineStatus store requisitionId status).requisitionLines.rows.map bare =
      store.requisitionLines.rows.map bare := by
    apply Table.map_rows_mapRows <;>
      intro line <;> split <;> rfl
  refine .single (.requisitionLines _ (.of_map_eq hrows ?_))
  intro old row hsame
  have hid : (bare old).id = (bare row).id := by rw [hsame]
  have hterms : (bare old).unsourced = (bare row).unsourced := by rw [hsame]
  have hquantity : (bare old).quantitySourced = (bare row).quantitySourced := by rw [hsame]
  exact ⟨hid, hterms.symm, fun _ => hquantity.le⟩

theorem setOrderLineStatus_written (store : InventoryStore) (purchaseOrderId : String)
    (status : PurchaseOrderLineStatus) :
    Written store (setOrderLineStatus store purchaseOrderId status) := by
  refine .single (.orderLines _ ?_)
  apply Table.map_rows_mapRows <;>
    intro line <;> split <;> rfl

theorem insertRequisition_written {requisition : PurchaseRequisition}
    (hdraft : requisition.status = .draft) (h : insertRequisition store requisition = .ok next) :
    Written store next := by
  obtain ⟨_, -, h⟩ := bind_ok h
  cases h
  exact .single (.requisitions _ (.insert RequisitionMoved.refl hdraft))

theorem insertRequisitionLine_written {line : PurchaseRequisitionLine}
    {requisition : PurchaseRequisition}
    (hrequisition : store.requisitions.get? line.purchaseRequisitionId = some requisition)
    (hdraft : requisition.status = .draft) (hsourced : line.quantitySourced = 0)
    (h : insertRequisitionLine store line = .ok next) : Written store next := by
  obtain ⟨_, hfresh, h⟩ := bind_ok h
  cases h
  exact .single (.addRequisitionLine line requisition hrequisition hdraft
    (ensure_eq_ok.mp hfresh).1 hsourced)

theorem insertPurchaseOrder_written {order : PurchaseOrder} (hdraft : order.status = .draft)
    (h : insertPurchaseOrder store order = .ok next) : Written store next := by
  obtain ⟨_, -, h⟩ := bind_ok h
  cases h
  exact .single (.orders _ (.insert OrderMoved.refl hdraft))

theorem insertPurchaseOrderLine_written {arguments : OrderLineArguments} {line : PurchaseOrderLine}
    {order : PurchaseOrder} {item : StockItem} {before : InventoryStore}
    (hline : OrderLinePrepared before arguments line order item)
    (horders : store.orders = before.orders) (h : insertPurchaseOrderLine store line = .ok next) : Written store next := by
  obtain ⟨_, hfresh, h⟩ := bind_ok h
  cases h
  have horder : store.orders.get? line.purchaseOrderId = some order := horders ▸ hline.orderFound
  exact .single (.addOrderLine line order horder hline.draft (ensure_eq_ok.mp hfresh).1
    hline.received hline.rejected hline.ordered)

theorem refreshRequisitionStatus_written {requisition : PurchaseRequisition}
    (hstored : store.requisitions.get? requisition.id = some requisition)
    (h : refreshRequisitionStatus store requisition = .ok next) : Written store next := by
  unfold refreshRequisitionStatus at h
  dsimp only at h
  split at h
  · obtain rfl := Except.ok.inj h
    exact .refl store
  · obtain ⟨_, htransition, h⟩ := bind_ok h
    cases h
    exact updateRequisition_written hstored ⟨validateTransition_iff.mp htransition, fun _ => rfl⟩

theorem sourceRequisitionLine_written {item : StockItem} {line : PurchaseOrderLine}
    {requisitionLineId : String} {sourced : PurchaseRequisitionLine}
    (hline : line.bare ∈ store.orderLines.rows.map PurchaseOrderLine.bare)
    (h : sourceRequisitionLine item line requisitionLineId store = .ok sourced) :
    Written store { store with requisitionLines := store.requisitionLines.update sourced } := by
  obtain ⟨stored, hstored, h⟩ := bind_ok h
  obtain ⟨quantity, hconverted, h⟩ := bind_ok h
  obtain ⟨_, -, h⟩ := bind_ok h
  cases h
  obtain ⟨hmem, -⟩ := Table.get?_eq_some_iff.mp (require_eq_ok.mp hstored)
  have hmoved (hquantity : 0 ≤ line.quantityOrdered → 0 ≤ quantity) :
      RequisitionLineMoved store.documents stored (sourcedRequisitionLine stored quantity) := by
    refine ⟨rfl, fun hordered => le_add_of_nonneg_right (hquantity ?_)⟩
    -- What the order line orders is what a stored line orders.
    obtain ⟨other, hother, hsame⟩ := List.mem_map.mp hline
    have hquantities : other.bare.quantityOrdered = line.bare.quantityOrdered := by rw [hsame]
    exact (hordered other hother).trans_eq hquantities
  refine .single (.requisitionLines _ (.update (RequisitionLineMoved.refl _) hmem rfl (hmoved ?_)))
  intro hquantity
  obtain ⟨rfl, hfrom, hto⟩ := convertItemQuantity_eq hconverted
  exact div_nonneg (mul_nonneg hquantity hfrom.le) hto.le

theorem decidedRequisition_moved {request : ApprovalRequest}
    {nextStatus : PurchaseRequisitionStatus} {requisition : PurchaseRequisition}
    (h : decidedRequisition request nextStatus store = .ok requisition) :
    ∃ stored, store.requisitions.get? requisition.id = some stored ∧
      RequisitionMoved stored requisition := by
  obtain ⟨stored, hstored, h⟩ := bind_ok h
  iterate 2 obtain ⟨_, -, h⟩ := bind_ok h
  obtain ⟨_, htransition, h⟩ := bind_ok h
  cases h
  have hfound := require_eq_ok.mp hstored
  exact ⟨stored, (Table.get?_eq_some_iff.mp hfound).2 ▸ hfound,
    validateTransition_iff.mp htransition, fun _ => rfl⟩

end

/-! ## Sessions -/

/-- A property of the documents that every write keeps. -/
def KeptByWrites (P : Documents → Prop) : Prop :=
  ∀ documents next, DocumentWrite documents next → P documents → P next

def OnDocuments (P : Documents → Prop) (store : PlatformStore) : Prop := P store.inventory.documents

theorem KeptByWrites.written {P : Documents → Prop} (hP : KeptByWrites P)
    {store next : InventoryStore} (h : Written store next) (hstore : P store.documents) :
    P next.documents := by
  have hall : ∀ {documents last : Documents},
      Relation.ReflTransGen DocumentWrite documents last → P documents → P last := by
    intro documents last hrun hdocuments
    induction hrun with
    | refl => exact hdocuments
    | tail _ hwrite ih => exact hP _ _ hwrite ih
  exact hall h hstore

section

variable {P : Documents → Prop} (hP : KeptByWrites P) {service : InventoryService}

include hP

omit hP in
theorem commit_documents : ServiceProgram.commit.Keeps (OnDocuments P) := by
  apply ServiceProgram.keeps_commit
  intro store next h hflush
  obtain ⟨⟨_, rfl⟩, -⟩ := flush_ok hflush
  exact h

theorem read_write_documents {α β : Type} {f : PlatformStore → Except DomainError α}
    {g : α → InventoryStore → InventoryStore} {rest : α → ServiceProgram β}
    (hwritten : ∀ store value, f store = .ok value →
      Written store.inventory (g value store.inventory))
    (hrest : ∀ value, (rest value).Keeps (OnDocuments P)) :
    (ServiceProgram.read f >>= fun value =>
      ServiceProgram.write (fun store => .ok (g value store)) >>= fun _ =>
        rest value).Keeps (OnDocuments P) := by
  intro session h
  rw [Program.spec_bind, ServiceProgram.spec_read]
  split
  next value hread =>
    rw [Program.spec_bind, ServiceProgram.spec_write_ok]
    exact hrest value _ (h.write (hP.written (hwritten _ value hread) h.2))
  next => exact h

theorem write_documents {g : InventoryStore → InventoryStore}
    (hwritten : ∀ store, Written store (g store)) :
    (ServiceProgram.write fun store => .ok (g store)).Keeps (OnDocuments P) := by
  apply ServiceProgram.keeps_write
  intro store inventory h hwrite
  cases hwrite
  exact hP.written (hwritten store.inventory) h

theorem decideRequisition_documents (nextStatus : PurchaseRequisitionStatus)
    (lineStatus : PurchaseRequisitionLineStatus) (request : ApprovalRequest) :
    (decideRequisition nextStatus lineStatus request).Keeps (OnDocuments P) := by
  unfold decideRequisition
  apply read_write_documents hP
  · intro store requisition hread
    obtain ⟨stored, hstored, hmoved⟩ := decidedRequisition_moved hread
    exact updateRequisition_written hstored hmoved
  · intro requisition
    exact (write_documents hP fun store => setRequisitionLineStatus_written store _ _).bind
      fun _ => commit_documents

theorem applySubmittedPurchaseOrderRejection_documents (request : ApprovalRequest) :
    (applySubmittedPurchaseOrderRejection request).Keeps (OnDocuments P) := by
  unfold applySubmittedPurchaseOrderRejection
  apply read_write_documents hP
  · intro store order hread
    obtain ⟨stored, hstored, hstatus, rfl⟩ := decidedPurchaseOrder_ok hread
    exact updatePurchaseOrder_written hstored (.of_mem hstatus (by decide))
  · intro order
    exact (write_documents hP fun store => setOrderLineStatus_written store _ _).bind
      fun _ => commit_documents

theorem refreshTouchedRequisition_documents (requisitionId : String) :
    (refreshTouchedRequisition requisitionId).Keeps (OnDocuments P) := by
  apply ServiceProgram.keeps_write
  intro store inventory h hwrite
  split at hwrite
  next =>
    cases hwrite
    exact h
  next requisition hfound =>
    have hid := (Table.get?_eq_some_iff.mp hfound).2
    exact hP.written (refreshRequisitionStatus_written (hid ▸ hfound) hwrite) h

/-- While the lines of an order are approved, no line gets other terms. -/
structure ApprovingLines (P : Documents → Prop) (bares : List PurchaseOrderLine)
    (session : Session PlatformStore) : Prop where
  both : session.Both (OnDocuments P)
  bares : session.pending.inventory.orderLines.rows.map PurchaseOrderLine.bare = bares

theorem ApprovingLines.write {bares : List PurchaseOrderLine} {session : Session PlatformStore}
    (h : ApprovingLines P bares session) {inventory : InventoryStore}
    (hwritten : Written session.pending.inventory inventory)
    (hsame : inventory.orderLines.rows.map PurchaseOrderLine.bare =
      session.pending.inventory.orderLines.rows.map PurchaseOrderLine.bare) :
    ApprovingLines P bares
      { session with pending := { session.pending with inventory := inventory } } :=
  ⟨h.both.write (hP.written hwritten h.both.2), hsame.trans h.bares⟩

omit hP in
theorem storeOnOrder_documents {bares : List PurchaseOrderLine} {session : Session PlatformStore}
    (h : ApprovingLines P bares session) (order : PurchaseOrder) (item : StockItem)
    (line : PurchaseOrderLine) (balanceId : String) :
    (storeOnOrder order item line balanceId).Spec session (fun _ => ApprovingLines P bares)
      fun _ next => next.Both (OnDocuments P) := by
  unfold storeOnOrder
  rw [Program.spec_step]
  cases onOrderBalance session.pending.inventory order.organizationId item
    line.destinationStoreroomId line.uom line.quantityOrdered balanceId with
  | error e => exact h.both
  | ok written =>
      rcases written with _ | ⟨_ | _, balance⟩
      · exact h
      · exact ⟨h.both.write h.both.2, h.bares⟩
      · exact ⟨h.both.write h.both.2, h.bares⟩

theorem approveLine_documents {bares : List PurchaseOrderLine} {session : Session PlatformStore}
    (h : ApprovingLines P bares session) {line : PurchaseOrderLine} (hline : line.bare ∈ bares)
    (order : PurchaseOrder) (balanceId : String) :
    (approveLine service order balanceId line).Spec session (fun _ => ApprovingLines P bares)
      fun _ next => next.Both (OnDocuments P) := by
  unfold approveLine
  rw [Program.spec_bind, ServiceProgram.spec_write_ok, Program.spec_bind, ServiceProgram.spec_read]
  let opened : InventoryStore := { session.pending.inventory with
    orderLines := session.pending.inventory.orderLines.update { line with status := .open } }
  have hbares : opened.orderLines.rows.map PurchaseOrderLine.bare =
      session.pending.inventory.orderLines.rows.map PurchaseOrderLine.bare := by
    apply Table.map_rows_update_of_mem (k := PurchaseOrderLine.id) fun _ => rfl
    rw [h.bares]
    exact hline
  have hopened : ApprovingLines P bares
      { session with pending := { session.pending with inventory := opened } } :=
    h.write hP (.single (.orderLines _ hbares)) hbares
  split
  next item _ =>
    rw [Program.spec_bind]
    refine (storeOnOrder_documents hopened order item line balanceId).mono ?_ fun _ _ => id
    intro _ current hcurrent
    cases line.sourceLineId with
    | none => exact hcurrent
    | some requisitionLineId =>
        rw [Program.spec_bind, ServiceProgram.spec_read]
        split
        next sourced hsourced =>
          rw [Program.spec_bind, ServiceProgram.spec_write_ok]
          exact hcurrent.write hP
            (sourceRequisitionLine_written (hcurrent.bares.symm ▸ hline) hsourced) rfl
        next => exact hcurrent.both
  next => exact hopened.both

theorem applySubmittedPurchaseOrderApproval_documents (balanceId : String → String)
    (request : ApprovalRequest) :
    (applySubmittedPurchaseOrderApproval service balanceId request).Keeps (OnDocuments P) := by
  unfold applySubmittedPurchaseOrderApproval
  apply read_write_documents hP
  · intro store order hread
    obtain ⟨stored, hstored, hstatus, rfl⟩ := decidedPurchaseOrder_ok hread
    exact updatePurchaseOrder_written hstored (.of_mem hstatus (by decide))
  · intro order session h
    rw [Program.spec_bind, ServiceProgram.spec_read]
    simp only [Program.spec_bind]
    unfold approveLines
    refine (Program.spec_foldlM (fun _ _ => ApprovingLines P
      (session.pending.inventory.orderLines.rows.map PurchaseOrderLine.bare)) _ ?_
      ⟨h, rfl⟩).mono ?_ fun _ _ => id
    · intro before line after touched current hsplit hcurrent
      have hmem : line ∈ listForPurchaseOrder session.pending.inventory order.id := by
        rw [hsplit]
        exact List.mem_append_right _ List.mem_cons_self
      rw [Program.spec_bind]
      exact approveLine_documents hP hcurrent
        (List.mem_map_of_mem (mem_listForPurchaseOrder.mp hmem).1) order _
    · intro touched current hcurrent
      have hrest : (touched.forM refreshTouchedRequisition >>= fun _ =>
          ServiceProgram.commit).Keeps (OnDocuments P) :=
        (Program.keeps_forM _ fun requisitionId _ =>
          refreshTouchedRequisition_documents hP requisitionId).bind fun _ => commit_documents
      exact Program.spec_bind.mp (hrest current hcurrent.both)

theorem approveAndApply_documents (balanceId : String → String) (requestId : String)
    (note : Option String) :
    (approveAndApply service (procurementApplyHandlers service balanceId) requestId note).Keeps
      (OnDocuments P) :=
  approveAndApply_keeps commit_documents (keeps_updateRequest fun _ _ h => h)
    (decideRequisition_documents hP _ _)
    (applySubmittedPurchaseOrderApproval_documents hP balanceId)

theorem reject_documents (requestId : String) (note : Option String) :
    (reject service procurementRejectHandlers requestId note).Keeps (OnDocuments P) :=
  reject_keeps commit_documents (keeps_updateRequest fun _ _ h => h)
    (decideRequisition_documents hP _ _)
    (applySubmittedPurchaseOrderRejection_documents hP)

/-! ### Guarded calls -/

theorem call_documents {guarded : GuardedCall DomainError PlatformStore}
    {session : Session PlatformStore} (h : session.Both (OnDocuments P))
    (heffect : ∀ next, guarded.effect session.pending = .ok next →
      Written session.pending.inventory next.inventory) :
    ((Program.call guarded).outcome session).2.Both (OnDocuments P) := by
  rw [Program.outcome_call]
  refine GuardedCall.both_run (fun plan next hchecks hbody => ?_) h
  exact hP.written (heffect next (GuardedCall.effect_eq_ok.mpr ⟨plan, hchecks, hbody⟩)) h.2

end

section

variable {service : InventoryService} {store next : PlatformStore}

theorem flush_written (h : store.flush = .ok next) : Written store.inventory next.inventory := by
  obtain ⟨⟨_, rfl⟩, -⟩ := flush_ok h
  exact .of_eq rfl

theorem inventoryCall_written {Plan : Type} {checks : PlatformStore → Except DomainError Plan}
    {body : Plan → InventoryStore → Except DomainError InventoryStore}
    (hbody : ∀ balances plan inventory, checks store = .ok plan →
      body plan { store.inventory with balances := balances } = .ok inventory →
        Written { store.inventory with balances := balances } inventory)
    (h : (inventoryCall checks body).effect store = .ok next) :
    Written store.inventory next.inventory := by
  obtain ⟨plan, hplan, h⟩ := GuardedCall.effect_eq_ok.mp h
  obtain ⟨flushed, hflushed, h⟩ := bind_ok h
  obtain ⟨inventory, hinventory, h⟩ := bind_ok h
  cases h
  have hwritten := flush_written hflushed
  obtain ⟨⟨balances, rfl⟩, -⟩ := flush_ok hflushed
  exact hwritten.trans (hbody balances plan inventory hplan hinventory)

theorem insertAdded_written (h : insertAdded store = .ok next) :
    Written store.inventory next.inventory :=
  flush_written (insertAdded_ok h)

theorem posting_written {guarded : GuardedCall DomainError InventoryStore}
    (h : (postingOnSession guarded).effect store = .ok next)
    (hguarded : ∀ {inventory}, guarded.effect store.inventory = .ok inventory →
      Written store.inventory inventory) : Written store.inventory next.inventory := by
  obtain ⟨plan, hplan, h⟩ := GuardedCall.effect_eq_ok.mp h
  obtain ⟨inventory, hinventory, hinserted⟩ := bind_ok h
  exact (hguarded (GuardedCall.effect_eq_ok.mpr ⟨plan, hplan, hinventory⟩)).trans
    (insertAdded_written hinserted)

theorem stock_written (call : StockCall) (h : (call.onSession service).effect store = .ok next) :
    Written store.inventory next.inventory := by
  cases call with
  | postOpeningBalance => exact posting_written h fun h => (postOpeningBalance_posted h).written
  | postAdjustment => exact posting_written h fun h => (postAdjustment_posted h).written
  | holdReservation => exact posting_written h fun h => (holdReservation_posted h).written
  | releaseHold => exact posting_written h fun h => (releaseReservation_posted h).written
  | issueStock => exact posting_written h fun h => (issueStock_posted h).written
  | returnStock => exact posting_written h fun h => (returnStock_posted h).written
  | createReservation => exact posting_written h createReservation_written
  | issueReservedStock => exact posting_written h issueReservedStock_written
  | releaseReservation => exact posting_written h closeReservation_written
  | cancelReservation => exact posting_written h closeReservation_written
  | transferStock arguments =>
      obtain ⟨scope, -, h⟩ := GuardedCall.effect_eq_ok.mp h
      obtain ⟨outbound, -, h⟩ := bind_ok h
      obtain ⟨moved, hmoved, h⟩ := bind_ok h
      obtain ⟨flushed, hflushed, h⟩ := bind_ok h
      obtain ⟨inbound, -, h⟩ := bind_ok h
      obtain ⟨arrived, harrived, h⟩ := bind_ok h
      cases h
      exact ((outbound.written hmoved).trans (insertAdded_written hflushed)).trans
        (inbound.written harrived)
  | postReceipt arguments =>
      refine inventoryCall_written ?_ h
      intro balances plan inventory hplan hreceived
      obtain ⟨hstored, hstatus, -, -⟩ := prepareReceipt_ok hplan
      exact postReceipt_body_written ⟨hstored, hstatus⟩ hreceived

theorem submitRequisition_written {requisitionId requestId : String}
    (h : (submitRequisition service requisitionId requestId).effect store = .ok next) :
    Written store.inventory next.inventory := by
  obtain ⟨plan, hplan, h⟩ := GuardedCall.effect_eq_ok.mp h
  obtain ⟨flushed, hflushed, h⟩ := bind_ok h
  cases h
  have hwritten := flush_written hflushed
  obtain ⟨⟨balances, rfl⟩, -⟩ := flush_ok hflushed
  obtain ⟨stored, hstored, hdraft, hsubmitted⟩ := prepareSubmittedRequisition_ok hplan
  exact (hwritten.trans (setRequisitionLineStatus_written _ _ _)).trans
    (updateRequisition_written hstored (.of_draft hdraft (by simp [hsubmitted])))

theorem submitPurchaseOrder_written {purchaseOrderId requestId : String}
    (h : (submitPurchaseOrder service purchaseOrderId requestId).effect store = .ok next) :
    Written store.inventory next.inventory := by
  obtain ⟨plan, hplan, h⟩ := GuardedCall.effect_eq_ok.mp h
  obtain ⟨flushed, hflushed, h⟩ := bind_ok h
  cases h
  have hwritten := flush_written hflushed
  obtain ⟨⟨balances, rfl⟩, -⟩ := flush_ok hflushed
  obtain ⟨stored, _, hstored, hdraft, hplanned⟩ := prepareSubmittedOrder_ok hplan
  rw [hplanned]
  exact hwritten.trans (updatePurchaseOrder_written hstored (.of_draft hdraft (by simp) rfl))

end

section

variable {P : Documents → Prop} (hP : KeptByWrites P) {service : InventoryService}
  {session : Session PlatformStore}

include hP

theorem runProcurementCall_documents (call : ProcurementCall) (h : session.Both (OnDocuments P)) :
    ((call.program service).outcome session).2.Both (OnDocuments P) := by
  cases call with
  | createRequisition arguments =>
      refine call_documents hP h fun next => inventoryCall_written ?_
      intro balances requisition inventory hprepared
      exact insertRequisition_written (prepareRequisition_ok hprepared)
  | addRequisitionLine arguments =>
      refine call_documents hP h fun next => inventoryCall_written ?_
      intro balances line inventory hprepared
      obtain ⟨⟨requisition, hrequisition, hdraft⟩, -, hsourced, -⟩ :=
        prepareRequisitionLine_ok hprepared
      exact insertRequisitionLine_written hrequisition hdraft hsourced
  | submitRequisition requisitionId requestId =>
      exact call_documents hP h fun next => submitRequisition_written
  | updateRequisition arguments =>
      refine call_documents hP h fun next => inventoryCall_written ?_
      intro balances requisition inventory hprepared hwritten
      cases hwritten
      obtain ⟨stored, hstored, hdraft, hafter⟩ := prepareUpdatedRequisition_ok hprepared
      exact updateRequisition_written hstored (.of_draft hdraft (by simp [hafter]))
  | cancelRequisition requisitionId expectedVersion =>
      refine call_documents hP h fun next => inventoryCall_written ?_
      intro balances requisition inventory hprepared hwritten
      cases hwritten
      obtain ⟨stored, hstored, hdraft, hafter⟩ := prepareCancelledRequisition_ok hprepared
      exact (setRequisitionLineStatus_written _ _ _).trans
        (updateRequisition_written hstored (.of_draft hdraft (by simp [hafter])))
  | createPurchaseOrder arguments =>
      refine call_documents hP h fun next => inventoryCall_written ?_
      intro balances order inventory hprepared
      exact insertPurchaseOrder_written (preparePurchaseOrder_ok hprepared).1
  | addPurchaseOrderLine arguments =>
      refine call_documents hP h fun next => inventoryCall_written ?_
      intro balances line inventory hprepared
      obtain ⟨order, item, hline⟩ := preparePurchaseOrderLine_ok hprepared
      exact insertPurchaseOrderLine_written hline rfl
  | submitPurchaseOrder purchaseOrderId requestId =>
      exact call_documents hP h fun next => submitPurchaseOrder_written
  | updatePurchaseOrder arguments =>
      refine call_documents hP h fun next => inventoryCall_written ?_
      intro balances order inventory hprepared hwritten
      cases hwritten
      obtain ⟨⟨stored, hstored, hdraft, hafter, horganization⟩, -⟩ :=
        prepareUpdatedOrder_ok hprepared
      exact updatePurchaseOrder_written hstored (.of_draft hdraft (by simp [hafter]) horganization)
  | cancelPurchaseOrder purchaseOrderId expectedVersion =>
      refine call_documents hP h fun next => inventoryCall_written ?_
      intro balances order inventory hprepared hwritten
      cases hwritten
      obtain ⟨stored, hstored, hdraft, rfl⟩ := prepareCancelledOrder_ok hprepared
      exact (setOrderLineStatus_written _ _ _).trans
        (updatePurchaseOrder_written hstored (.of_draft hdraft (by simp) rfl))
  | sendPurchaseOrder purchaseOrderId =>
      refine call_documents hP h fun next => inventoryCall_written ?_
      intro balances order inventory hprepared hwritten
      cases hwritten
      obtain ⟨stored, _, hstored, hstatus, rfl⟩ := prepareSentOrder_ok hprepared
      exact updatePurchaseOrder_written hstored (.of_mem hstatus (by decide))
  | closePurchaseOrder purchaseOrderId =>
      refine call_documents hP h fun next => inventoryCall_written ?_
      intro balances order inventory hprepared hwritten
      cases hwritten
      obtain ⟨stored, hstored, hstatus, rfl, -⟩ := prepareClosedOrder_ok hprepared
      exact updatePurchaseOrder_written hstored (.of_mem hstatus (by decide))
  | postReceipt arguments =>
      exact call_documents hP h fun next => stock_written (.postReceipt arguments)
  | approve requestId note balanceId =>
      exact Program.Keeps.outcome
        ((approveAndApply_documents hP balanceId requestId note).bind fun _ => Program.keeps_pure) h
  | reject requestId note =>
      exact Program.Keeps.outcome
        ((reject_documents hP requestId note).bind fun _ => Program.keeps_pure) h

/-- What every write of documents keeps, every call keeps, wherever it stops. -/
theorem runInventoryCall_documents (call : InventoryService × InventoryCall)
    (h : session.Both (OnDocuments P)) : (runInventoryCall call session).2.Both (OnDocuments P) := by
  obtain ⟨service, call⟩ := call
  cases call with
  | stock call => exact call_documents hP h fun _ => stock_written call
  | procurement call => exact runProcurementCall_documents hP call h
  | createItem arguments =>
      refine call_documents hP h fun next => inventoryCall_written ?_
      intro balances item inventory _ hwritten
      obtain ⟨_, -, hwritten⟩ := bind_ok hwritten
      cases hwritten
      exact .of_eq rfl
  | updateItem itemId arguments =>
      refine call_documents hP h fun next => inventoryCall_written ?_
      intro balances item inventory _ hwritten
      cases hwritten
      exact .of_eq rfl
  | createCategory arguments =>
      refine call_documents hP h fun next => inventoryCall_written ?_
      intro balances category inventory _ hwritten
      obtain ⟨_, -, hwritten⟩ := bind_ok hwritten
      cases hwritten
      exact .of_eq rfl
  | updateCategory categoryId arguments =>
      refine call_documents hP h fun next => inventoryCall_written ?_
      intro balances category inventory _ hwritten
      cases hwritten
      exact .of_eq rfl

theorem inventoryRun_documents (calls : List (InventoryService × InventoryCall))
    (h : session.Both (OnDocuments P)) :
    (sessionAfter runInventoryCall session calls).Both (OnDocuments P) := by
  induction calls generalizing session with
  | nil => exact h
  | cons call rest ih => exact ih (runInventoryCall_documents hP call h)

end

end ProjectManager
