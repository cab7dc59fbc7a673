import ProjectManager.Procurement.DocumentWrites

/-! # The history of documents

No call deletes a document. Transactions and receipts stay as they were posted; reservations,
requisitions and orders follow the transitions of their status; and what was submitted keeps
its terms and its lines, so that what is ordered and received is what was approved.
-/

namespace ProjectManager

open Foundation

/-! ## Rows at a later time -/

def Reaches {Status : Type} (transitions : Status → List Status) : Status → Status → Prop :=
  Relation.ReflTransGen fun before after => after ∈ transitions before

section

variable {Status : Type} {transitions : Status → List Status} {before after : Status}

theorem Follows.reaches (h : Follows transitions before after) : Reaches transitions before after := by
  rcases h with rfl | h
  · exact .refl
  · exact .single h

/-- Nothing leads back to a status that no transition leads to. -/
theorem Reaches.eq_of_initial (h : Reaches transitions before after)
    (hinitial : ∀ status, after ∉ transitions status) : before = after := by
  rcases h.cases_tail with hsame | ⟨middle, -, hlast⟩
  · exact hsame.symm
  · exact absurd hlast (hinitial middle)

theorem Reaches.ne_initial {initial : Status} (h : Reaches transitions before after)
    (hinitial : ∀ status, initial ∉ transitions status) (hbefore : before ≠ initial) :
    after ≠ initial := by
  rintro rfl
  exact hbefore (h.eq_of_initial hinitial)

end

structure ReservationLater (old row : StockReservation) : Prop where
  status : Reaches reservationStatusTransitions old.status row.status
  sameRow : row.position = old.position ∧ row.uom = old.uom ∧ row.reservedQty = old.reservedQty
  issuedQty : old.issuedQty ≤ row.issuedQty
  remainingQty : row.remainingQty ≤ old.remainingQty
  closed : ¬ old.IsOpen → row = old

structure RequisitionLater (old row : PurchaseRequisition) : Prop where
  status : Reaches requisitionStatusTransitions old.status row.status
  terms : old.status ≠ .draft → row = { old with status := row.status, version := row.version }

structure OrderLater (old row : PurchaseOrder) : Prop where
  status : Reaches purchaseOrderStatusTransitions old.status row.status
  organizationId : row.organizationId = old.organizationId
  terms : old.status ≠ .draft → row =
    { old with status := row.status, orderDate := row.orderDate, version := row.version }

structure RequisitionLineLater (old row : PurchaseRequisitionLine) : Prop where
  terms : row.unsourced = old.unsourced
  quantitySourced : old.quantitySourced ≤ row.quantitySourced

/-- An order line without what receipts and approvals write. -/
def PurchaseOrderLine.unreceived (line : PurchaseOrderLine) : PurchaseOrderLine :=
  { line with quantityReceived := 0, quantityRejected := 0, status := .draft }

structure OrderLineLater (old row : PurchaseOrderLine) : Prop where
  terms : row.unreceived = old.unreceived
  quantityReceived : old.quantityReceived ≤ row.quantityReceived
  quantityRejected : old.quantityRejected ≤ row.quantityRejected

theorem requisition_draft_initial (status : PurchaseRequisitionStatus) :
    PurchaseRequisitionStatus.draft ∉ requisitionStatusTransitions status := by
  cases status <;> decide

theorem order_draft_initial (status : PurchaseOrderStatus) :
    PurchaseOrderStatus.draft ∉ purchaseOrderStatusTransitions status := by
  cases status <;> decide

theorem ReservationMoved.later {stored updated : StockReservation}
    (h : ReservationMoved stored updated) : ReservationLater stored updated :=
  ⟨h.status.reaches, h.sameRow, h.issuedQty, h.remainingQty, fun hclosed => absurd h.isOpen hclosed⟩

theorem ReservationLater.refl (row : StockReservation) : ReservationLater row row :=
  ⟨.refl, ⟨rfl, rfl, rfl⟩, le_rfl, le_rfl, fun _ => rfl⟩

theorem ReservationLater.trans (first second third : StockReservation)
    (hfirst : ReservationLater first second) (hsecond : ReservationLater second third) :
    ReservationLater first third where
  status := hfirst.status.trans hsecond.status
  sameRow := ⟨hsecond.sameRow.1.trans hfirst.sameRow.1, hsecond.sameRow.2.1.trans hfirst.sameRow.2.1,
    hsecond.sameRow.2.2.trans hfirst.sameRow.2.2⟩
  issuedQty := hfirst.issuedQty.trans hsecond.issuedQty
  remainingQty := hsecond.remainingQty.trans hfirst.remainingQty
  closed hclosed := by
    obtain rfl := hfirst.closed hclosed
    exact hsecond.closed hclosed

theorem RequisitionMoved.later {stored updated : PurchaseRequisition}
    (h : RequisitionMoved stored updated) : RequisitionLater stored updated :=
  ⟨h.status.reaches, h.terms⟩

theorem RequisitionLater.refl (row : PurchaseRequisition) : RequisitionLater row row :=
  ⟨.refl, fun _ => rfl⟩

theorem RequisitionLater.trans (first second third : PurchaseRequisition)
    (hfirst : RequisitionLater first second) (hsecond : RequisitionLater second third) :
    RequisitionLater first third where
  status := hfirst.status.trans hsecond.status
  terms hsubmitted := by
    -- What left its draft is no draft again.
    have hstill := hfirst.status.ne_initial requisition_draft_initial hsubmitted
    rw [hsecond.terms hstill, hfirst.terms hsubmitted]

theorem OrderMoved.later {stored updated : PurchaseOrder} (h : OrderMoved stored updated) :
    OrderLater stored updated :=
  ⟨h.status.reaches, h.organizationId, h.terms⟩

theorem OrderLater.refl (row : PurchaseOrder) : OrderLater row row :=
  ⟨.refl, rfl, fun _ => rfl⟩

theorem OrderLater.trans (first second third : PurchaseOrder) (hfirst : OrderLater first second)
    (hsecond : OrderLater second third) : OrderLater first third where
  status := hfirst.status.trans hsecond.status
  organizationId := hsecond.organizationId.trans hfirst.organizationId
  terms hsubmitted := by
    have hstill := hfirst.status.ne_initial order_draft_initial hsubmitted
    rw [hsecond.terms hstill, hfirst.terms hsubmitted]

theorem RequisitionLineLater.refl (row : PurchaseRequisitionLine) : RequisitionLineLater row row :=
  ⟨rfl, le_rfl⟩

theorem RequisitionLineLater.trans (first second third : PurchaseRequisitionLine)
    (hfirst : RequisitionLineLater first second) (hsecond : RequisitionLineLater second third) :
    RequisitionLineLater first third :=
  ⟨hsecond.terms.trans hfirst.terms, hfirst.quantitySourced.trans hsecond.quantitySourced⟩

theorem OrderLineLater.refl (row : PurchaseOrderLine) : OrderLineLater row row :=
  ⟨rfl, le_rfl, le_rfl⟩

theorem OrderLineLater.trans (first second third : PurchaseOrderLine)
    (hfirst : OrderLineLater first second) (hsecond : OrderLineLater second third) :
    OrderLineLater first third where
  terms := hsecond.terms.trans hfirst.terms
  quantityReceived := hfirst.quantityReceived.trans hsecond.quantityReceived
  quantityRejected := hfirst.quantityRejected.trans hsecond.quantityRejected

/-! ## Documents at a later time -/

/-- An order line as it is added. -/
structure LineAdded (line : PurchaseOrderLine) : Prop where
  quantityReceived : line.quantityReceived = 0
  quantityRejected : line.quantityRejected = 0
  quantityOrdered : 0 < line.quantityOrdered

structure DocumentsLater (start documents : Documents) : Prop where
  transactions : start.transactions.Evolves (fun _ => True) Eq documents.transactions
  receipts : start.receipts.Evolves (fun _ => True) Eq documents.receipts
  receiptLines : start.receiptLines.Evolves (fun _ => True) Eq documents.receiptLines
  reservations : start.reservations.Evolves Opened ReservationLater documents.reservations
  requisitions : start.requisitions.Evolves (fun row => row.status = .draft) RequisitionLater
    documents.requisitions
  requisitionLines : start.requisitionLines.Evolves (fun row => row.quantitySourced = 0)
    RequisitionLineLater documents.requisitionLines
  orders : start.orders.Evolves (fun row => row.status = .draft) OrderLater documents.orders
  orderLines : start.orderLines.Evolves LineAdded OrderLineLater documents.orderLines
  /-- Requisitions and orders that were submitted get no further lines. -/
  linesOfRequisition : ∀ line ∈ documents.requisitionLines.rows,
    line.id ∉ start.requisitionLines.ids →
      ∀ requisition ∈ start.requisitions.get? line.purchaseRequisitionId,
        requisition.status = .draft
  linesOfOrder : ∀ line ∈ documents.orderLines.rows, line.id ∉ start.orderLines.ids →
    ∀ order ∈ start.orders.get? line.purchaseOrderId, order.status = .draft

section

variable {start documents next : Documents}

/-- What was never less than nothing is not later. -/
theorem DocumentsLater.quantityOrdered (h : DocumentsLater start documents)
    (hordered : ∀ line ∈ start.orderLines.rows, 0 ≤ line.quantityOrdered) :
    ∀ line ∈ documents.orderLines.rows, 0 ≤ line.quantityOrdered := by
  refine h.orderLines.forall_rows (fun _ hadded => hadded.quantityOrdered.le) ?_ hordered
  intro old row hlater hnonneg
  have hsame : row.unreceived.quantityOrdered = old.unreceived.quantityOrdered := by
    rw [hlater.terms]
  exact hnonneg.trans_eq hsame.symm

theorem DocumentsLater.refl (start : Documents) : DocumentsLater start start where
  transactions := .refl (fun _ => rfl) _
  receipts := .refl (fun _ => rfl) _
  receiptLines := .refl (fun _ => rfl) _
  reservations := .refl ReservationLater.refl _
  requisitions := .refl RequisitionLater.refl _
  requisitionLines := .refl RequisitionLineLater.refl _
  orders := .refl OrderLater.refl _
  orderLines := .refl OrderLineLater.refl _
  linesOfRequisition _ hline hnew := absurd (Table.mem_ids _ hline) hnew
  linesOfOrder _ hline hnew := absurd (Table.mem_ids _ hline) hnew

theorem DocumentsLater.order_draft (h : DocumentsLater start documents) {id : String}
    {order old : PurchaseOrder} (horder : documents.orders.get? id = some order)
    (hdraft : order.status = .draft) (hold : start.orders.get? id = some old) :
    old.status = .draft := by
  have hstatus := (h.orders.moved_of_get? hold horder).status
  rw [hdraft] at hstatus
  exact hstatus.eq_of_initial order_draft_initial

theorem DocumentsLater.requisition_draft (h : DocumentsLater start documents) {id : String}
    {requisition old : PurchaseRequisition} (hfound : documents.requisitions.get? id = some requisition)
    (hdraft : requisition.status = .draft) (hold : start.requisitions.get? id = some old) :
    old.status = .draft := by
  have hstatus := (h.requisitions.moved_of_get? hold hfound).status
  rw [hdraft] at hstatus
  exact hstatus.eq_of_initial requisition_draft_initial

/-- Each way of writing takes the documents further. -/
theorem DocumentWrite.later (hordered : ∀ line ∈ start.orderLines.rows, 0 ≤ line.quantityOrdered)
    (hwrite : DocumentWrite documents next) (h : DocumentsLater start documents) :
    DocumentsLater start next := by
  cases hwrite with
  | post transaction hfresh =>
      exact { h with
        transactions := h.transactions.append trivial }
  | reservations reservations hreservations =>
      refine { h with reservations := h.reservations.trans ReservationLater.trans ?_ }
      refine hreservations.mono (fun _ => id) ?_
      rintro old row (rfl | hmoved)
      · exact .refl _
      · exact hmoved.later
  | requisitions requisitions hrequisitions =>
      exact { h with
        requisitions := h.requisitions.trans RequisitionLater.trans
          (hrequisitions.mono (fun _ => id) fun _ _ => RequisitionMoved.later) }
  | addRequisitionLine line requisition hrequisition hdraft hfresh hsourced =>
      refine { h with
        requisitionLines := h.requisitionLines.trans RequisitionLineLater.trans
          (.insert RequisitionLineLater.refl hsourced)
        linesOfRequisition := ?_ }
      intro other hother hnew old hold
      rcases Table.mem_insert hother with rfl | hother
      · exact h.requisition_draft hrequisition hdraft hold
      · exact h.linesOfRequisition other hother hnew old hold
  | requisitionLines lines hlines =>
      have hlater : documents.requisitionLines.Evolves (fun _ => False) RequisitionLineLater lines :=
        hlines.mono (fun _ => id) fun old row hmoved =>
          ⟨hmoved.terms, hmoved.quantitySourced (h.quantityOrdered hordered)⟩
      refine { h with
        requisitionLines := h.requisitionLines.trans RequisitionLineLater.trans
          (hlater.mono (fun _ => False.elim) fun _ _ => id)
        linesOfRequisition := ?_ }
      refine hlater.forall_rows (fun _ => False.elim) ?_ h.linesOfRequisition
      intro old row hmoved hold
      have hid : row.unsourced.id = old.unsourced.id := by rw [hmoved.terms]
      have hparent : row.unsourced.purchaseRequisitionId = old.unsourced.purchaseRequisitionId := by
        rw [hmoved.terms]
      rwa [show row.id = old.id from hid,
        show row.purchaseRequisitionId = old.purchaseRequisitionId from hparent]
  | orders orders horders =>
      exact { h with
        orders := h.orders.trans OrderLater.trans
          (horders.mono (fun _ => id) fun _ _ => OrderMoved.later) }
  | addOrderLine line order horder hdraft hfresh hreceived hrejected hquantity =>
      refine { h with
        orderLines := h.orderLines.trans OrderLineLater.trans
          (.insert OrderLineLater.refl ⟨hreceived, hrejected, hquantity⟩)
        linesOfOrder := ?_ }
      intro other hother hnew old hold
      rcases Table.mem_insert hother with rfl | hother
      · exact h.order_draft horder hdraft hold
      · exact h.linesOfOrder other hother hnew old hold
  | orderLines lines hlines =>
      refine { h with
        orderLines := h.orderLines.trans OrderLineLater.trans (.of_map_eq hlines ?_)
        linesOfOrder := Table.forall_of_map_eq hlines (fun _ => Iff.rfl) h.linesOfOrder }
      intro old row hsame
      have hid : old.bare.id = row.bare.id := by rw [hsame]
      have hterms : old.bare.unreceived = row.bare.unreceived := by rw [hsame]
      have hreceived : old.bare.quantityReceived = row.bare.quantityReceived := by rw [hsame]
      have hrejected : old.bare.quantityRejected = row.bare.quantityRejected := by rw [hsame]
      exact ⟨hid, hterms.symm, hreceived.le, hrejected.le⟩
  | addReceipt receipt hfresh =>
      exact { h with
        receipts := h.receipts.append trivial }
  | receive line received transactions hreceives htransactions =>
      have hposted : start.transactions.Evolves (fun _ => True) Eq transactions := by
        rcases htransactions with ⟨-, rfl⟩ | ⟨transaction, -, -, rfl⟩
        · exact h.transactions
        · exact h.transactions.append trivial
      obtain ⟨hmem, hid⟩ := Table.get?_eq_some_iff.mp hreceives.stored
      have hline : OrderLineLater line (receivedLine line received) :=
        ⟨rfl, le_add_of_nonneg_right hreceives.accepted, le_add_of_nonneg_right hreceives.rejected⟩
      refine { h with
        transactions := hposted
        receiptLines := h.receiptLines.append trivial
        orderLines := h.orderLines.trans OrderLineLater.trans
          (.update OrderLineLater.refl hmem hid hline)
        linesOfOrder := ?_ }
      intro other hother hnew
      rcases Table.mem_update_iff.mp hother with ⟨rfl, -⟩ | ⟨hother, -⟩
      · exact h.linesOfOrder line hmem hnew
      · exact h.linesOfOrder other hother hnew

end

/-! ## Runs -/

/-- Along every run, whatever is refused on the way, no document is lost, statuses follow their
transitions, and what was submitted keeps its terms and its lines. -/
theorem inventoryRun_documentsLater (calls : List (InventoryService × InventoryCall))
    (start : PlatformStore)
    (hordered : ∀ line ∈ start.inventory.orderLines.rows, 0 ≤ line.quantityOrdered) :
    let last := sessionAfter runInventoryCall (.clean start) calls
    DocumentsLater start.inventory.documents last.committed.inventory.documents ∧
      DocumentsLater start.inventory.documents last.pending.inventory.documents := by
  have hkept : KeptByWrites (DocumentsLater start.inventory.documents) :=
    fun _ _ hwrite h => hwrite.later hordered h
  exact inventoryRun_documents hkept calls (Session.both_clean.mpr (.refl _))

def boltsOrdered : PlatformStore :=
  { boltYard with
    inventory := { boltYard.inventory with
      balances := ⟨[{ id := "balance", organizationId := "org", stockItemId := "bolt"
                      storeroomId := "main", uom := "EA", onOrderQty := 10 }], by decide⟩
      orders := ⟨[{ id := "order", organizationId := "org", poNumber := "1", siteId := "yard"
                    supplierPartyId := "supplier", status := .sent }], by decide⟩
      orderLines := ⟨[{ id := "line", purchaseOrderId := "order", lineNumber := 1
                        stockItemId := "bolt", destinationStoreroomId := "main"
                        quantityOrdered := 10, uom := "EA" }], by decide⟩ } }

/-- Some of them come in, and nobody can add a line any more. -/
def deliverBolts : List (InventoryService × InventoryCall) :=
  [(inventoryAdmin, .stock (.postReceipt
      { purchaseOrderId := "order", receiptDate := 1, receiptId := "receipt", generatedNumber := "1"
        receiptLines := [{ purchaseOrderLineId := "line", quantityAccepted := 6
                           quantityRejected := 1, receiptLineId := "receipt1", ids := boltIds "1"
                           onOrderBalanceId := "" }] })),
    (inventoryAdmin, .procurement (.addPurchaseOrderLine
      { boltLineArguments "1" "b" 5 none with
        purchaseOrderId := "order" }))]

theorem inventoryRun_documentsLater_bolts :
    let last := sessionAfter runInventoryCall (.clean boltsOrdered) deliverBolts
    DocumentsLater boltsOrdered.inventory.documents last.committed.inventory.documents ∧
      DocumentsLater boltsOrdered.inventory.documents last.pending.inventory.documents :=
  inventoryRun_documentsLater deliverBolts boltsOrdered (by decide)

end ProjectManager
