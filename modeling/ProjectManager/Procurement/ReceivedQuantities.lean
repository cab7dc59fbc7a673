import ProjectManager.Procurement.DocumentHistory

/-! # Received quantities

What an order line counts as received and as rejected is what the receipts say, line by
line; and what was accepted was posted to stock. No other call touches these quantities.
-/

namespace ProjectManager

open Foundation

def Documents.countedFor (documents : Documents) (count : ReceiptLine → ℚ) (lineId : String) : ℚ :=
  documents.receiptLines.sum fun received =>
    if received.purchaseOrderLineId = lineId then count received else 0

/-- A receipt line is one of a stored receipt, for a line of its order. -/
def ReceiptLinked (documents : Documents) (received : ReceiptLine) : Prop :=
  ∃ line ∈ documents.orderLines.rows, line.id = received.purchaseOrderLineId ∧
    received.stockItemId = line.stockItemId ∧ received.storeroomId = line.destinationStoreroomId ∧
      received.uom = line.uom ∧ ∃ receipt ∈ documents.receipts.rows,
        receipt.id = received.receiptHeaderId ∧ receipt.purchaseOrderId = line.purchaseOrderId

structure ReceiptsCounted (documents : Documents) : Prop where
  received : ∀ line ∈ documents.orderLines.rows,
    line.quantityReceived = documents.countedFor ReceiptLine.quantityAccepted line.id
  rejected : ∀ line ∈ documents.orderLines.rows,
    line.quantityRejected = documents.countedFor ReceiptLine.quantityRejected line.id
  linked : ∀ received ∈ documents.receiptLines.rows, ReceiptLinked documents received
  posted : ∀ received ∈ documents.receiptLines.rows, received.quantityAccepted ≠ 0 →
    ∃ transaction ∈ documents.transactions.rows, PostedFor received transaction

section

variable {documents next : Documents}

theorem countedFor_eq_zero (hlinked : ∀ received ∈ documents.receiptLines.rows,
      ReceiptLinked documents received)
    {lineId : String} (hfresh : lineId ∉ documents.orderLines.ids) (count : ReceiptLine → ℚ) :
    documents.countedFor count lineId = 0 := by
  apply Table.sum_eq_zero
  intro received hreceived
  obtain ⟨line, hline, hid, -⟩ := hlinked received hreceived
  have hother : received.purchaseOrderLineId ≠ lineId := by
    rintro rfl
    exact hfresh (hid ▸ Table.mem_ids _ hline)
  rw [if_neg hother]

theorem countedFor_insert {received : ReceiptLine}
    (hfresh : received.id ∉ documents.receiptLines.ids) {lines : Table PurchaseOrderLine.id}
    {transactions : Table StockTransaction.id} (count : ReceiptLine → ℚ) (lineId : String) :
    ({ documents with
        receiptLines := documents.receiptLines.insert received
        orderLines := lines
        transactions := transactions } : Documents).countedFor count lineId =
      (if received.purchaseOrderLineId = lineId then count received else 0) +
        documents.countedFor count lineId :=
  Table.sum_insert hfresh _

theorem ReceiptLinked.of_terms {received : ReceiptLine} (h : ReceiptLinked documents received)
    (hreceipts : ∀ receipt ∈ documents.receipts.rows, receipt ∈ next.receipts.rows)
    (hlines : ∀ line ∈ documents.orderLines.rows,
      ∃ other ∈ next.orderLines.rows, other.unreceived = line.unreceived) :
    ReceiptLinked next received := by
  obtain ⟨line, hline, hid, hitem, hstoreroom, huom, receipt, hreceipt, hheader, hparent⟩ := h
  obtain ⟨other, hother, hterms⟩ := hlines line hline
  have hkept {α : Type} (f : PurchaseOrderLine → α)
      (hf : ∀ line : PurchaseOrderLine, f line.unreceived = f line) : f other = f line := by
    rw [← hf other, hterms, hf]
  refine ⟨other, hother, ?_, ?_, ?_, ?_, receipt, hreceipts receipt hreceipt, hheader, ?_⟩
  · exact (hkept PurchaseOrderLine.id fun _ => rfl).trans hid
  · exact hitem.trans (hkept PurchaseOrderLine.stockItemId fun _ => rfl).symm
  · exact hstoreroom.trans (hkept PurchaseOrderLine.destinationStoreroomId fun _ => rfl).symm
  · exact huom.trans (hkept PurchaseOrderLine.uom fun _ => rfl).symm
  · exact hparent.trans (hkept PurchaseOrderLine.purchaseOrderId fun _ => rfl).symm

theorem ReceiptsCounted.of_same (h : ReceiptsCounted documents)
    (hreceiptLines : next.receiptLines = documents.receiptLines)
    (horderLines : next.orderLines = documents.orderLines)
    (hreceipts : ∀ receipt ∈ documents.receipts.rows, receipt ∈ next.receipts.rows)
    (htransactions : ∀ transaction ∈ documents.transactions.rows,
      transaction ∈ next.transactions.rows) : ReceiptsCounted next where
  received := by
    unfold Documents.countedFor
    rw [hreceiptLines, horderLines]
    exact h.received
  rejected := by
    unfold Documents.countedFor
    rw [hreceiptLines, horderLines]
    exact h.rejected
  linked := by
    rw [hreceiptLines]
    intro received hreceived
    refine (h.linked received hreceived).of_terms hreceipts fun line hline => ⟨line, ?_, rfl⟩
    rwa [horderLines]
  posted := by
    rw [hreceiptLines]
    intro received hreceived haccepted
    obtain ⟨transaction, hmem, hposted⟩ := h.posted received hreceived haccepted
    exact ⟨transaction, htransactions transaction hmem, hposted⟩

theorem ReceiptsCounted.addOrderLine (h : ReceiptsCounted documents) {line : PurchaseOrderLine}
    (hfresh : line.id ∉ documents.orderLines.ids) (hreceived : line.quantityReceived = 0)
    (hrejected : line.quantityRejected = 0) :
    ReceiptsCounted { documents with orderLines := documents.orderLines.insert line } where
  received other hother := by
    rcases Table.mem_insert hother with rfl | hother
    · exact hreceived.trans (countedFor_eq_zero h.linked hfresh _).symm
    · exact h.received other hother
  rejected other hother := by
    rcases Table.mem_insert hother with rfl | hother
    · exact hrejected.trans (countedFor_eq_zero h.linked hfresh _).symm
    · exact h.rejected other hother
  linked received hmem := by
    exact (h.linked received hmem).of_terms (fun _ => id) fun other hother =>
      ⟨other, (Table.suffix_insert line).subset hother, rfl⟩
  posted := h.posted

theorem ReceiptsCounted.orderLines (h : ReceiptsCounted documents)
    {lines : Table PurchaseOrderLine.id}
    (hlines : lines.rows.map PurchaseOrderLine.bare =
      documents.orderLines.rows.map PurchaseOrderLine.bare) :
    ReceiptsCounted { documents with orderLines := lines } where
  received := Table.forall_of_map_eq hlines (fun _ => Iff.rfl) h.received
  rejected := Table.forall_of_map_eq hlines (fun _ => Iff.rfl) h.rejected
  linked received hmem := by
    refine (h.linked received hmem).of_terms (fun _ => id) fun line hline => ?_
    have hbare : line.bare ∈ lines.rows.map PurchaseOrderLine.bare := by
      rw [hlines]
      exact List.mem_map_of_mem hline
    obtain ⟨other, hother, hsame⟩ := List.mem_map.mp hbare
    refine ⟨other, hother, ?_⟩
    change other.bare.unreceived = line.bare.unreceived
    rw [hsame]
  posted := h.posted

theorem ReceiptsCounted.receive (h : ReceiptsCounted documents) {line : PurchaseOrderLine}
    {received : ReceiptLine} {transactions : Table StockTransaction.id}
    (hreceives : ReceivesLine documents line received)
    (htransactions : TransactionsAfter received documents.transactions transactions) :
    ReceiptsCounted
      { documents with
        receiptLines := documents.receiptLines.insert received
        orderLines := documents.orderLines.update (receivedLine line received)
        transactions := transactions } := by
  obtain ⟨hline, -⟩ := Table.get?_eq_some_iff.mp hreceives.stored
  have hcount (count : ReceiptLine → ℚ) (quantity : PurchaseOrderLine → ℚ)
      (hreceived : quantity (receivedLine line received) = quantity line + count received)
      (hcounted : ∀ line ∈ documents.orderLines.rows,
        quantity line = documents.countedFor count line.id) :
      ∀ other ∈ (documents.orderLines.update (receivedLine line received)).rows,
        quantity other = (if received.purchaseOrderLineId = other.id then count received else 0) +
          documents.countedFor count other.id := by
    intro other hother
    rcases Table.mem_update_iff.mp hother with ⟨rfl, -⟩ | ⟨hother, hne⟩
    · have hid : (receivedLine line received).id = line.id := rfl
      rw [hreceived, hcounted line hline, hid, if_pos hreceives.purchaseOrderLineId, add_comm]
    · have hother' : line.id ≠ other.id := fun heq => hne heq.symm
      rw [hcounted other hother, hreceives.purchaseOrderLineId, if_neg hother', zero_add]
  have hmoved : ∀ transaction ∈ documents.transactions.rows, transaction ∈ transactions.rows := by
    intro transaction hmem
    rcases htransactions with ⟨-, rfl⟩ | ⟨added, -, -, rfl⟩
    · exact hmem
    · exact (Table.suffix_insert added).subset hmem
  have hlinked (other : ReceiptLine) (hother : ReceiptLinked documents other) : ReceiptLinked
      { documents with
        receiptLines := documents.receiptLines.insert received
        orderLines := documents.orderLines.update (receivedLine line received)
        transactions := transactions } other := by
    refine hother.of_terms (fun _ => id) fun stored hstored => ?_
    by_cases hsame : stored.id = line.id
    · obtain rfl := documents.orderLines.eq_of_key_eq hstored hline hsame
      exact ⟨receivedLine stored received, Table.mem_update_self hstored rfl, rfl⟩
    · exact ⟨stored, Table.mem_update_iff.mpr (Or.inr ⟨hstored, hsame⟩), rfl⟩
  refine ⟨?_, ?_, ?_, ?_⟩
  · intro other hother
    rw [countedFor_insert hreceives.fresh]
    exact hcount ReceiptLine.quantityAccepted PurchaseOrderLine.quantityReceived rfl h.received
      other hother
  · intro other hother
    rw [countedFor_insert hreceives.fresh]
    exact hcount ReceiptLine.quantityRejected PurchaseOrderLine.quantityRejected rfl h.rejected
      other hother
  · intro other hother
    rcases Table.mem_insert hother with rfl | hother
    · obtain ⟨receipt, hreceipt, hparent⟩ := hreceives.receipt
      obtain ⟨hmem, hid⟩ := Table.get?_eq_some_iff.mp hreceipt
      obtain ⟨hitem, hstoreroom, huom⟩ := hreceives.terms
      exact hlinked other ⟨line, hline, hreceives.purchaseOrderLineId.symm, hitem, hstoreroom, huom,
        receipt, hmem, hid, hparent⟩
    · exact hlinked other (h.linked other hother)
  · intro other hother haccepted
    rcases Table.mem_insert hother with rfl | hother
    · rcases htransactions with ⟨hnone, -⟩ | ⟨transaction, hfresh, hposted, rfl⟩
      · exact absurd hnone haccepted
      · refine ⟨transaction, ?_, hposted⟩
        rw [Table.rows_insert hfresh]
        exact List.mem_cons_self
    · obtain ⟨transaction, hmem, hposted⟩ := h.posted other hother haccepted
      exact ⟨transaction, hmoved transaction hmem, hposted⟩

theorem receiptsCounted_keptByWrites : KeptByWrites ReceiptsCounted := by
  intro documents next hwrite h
  cases hwrite with
  | post transaction =>
      exact h.of_same rfl rfl (fun _ => id) fun _ => ((Table.suffix_insert transaction).subset ·)
  | addReceipt receipt =>
      exact h.of_same rfl rfl (fun _ => ((Table.suffix_insert receipt).subset ·)) fun _ => id
  | addOrderLine line order _ _ hfresh hreceived hrejected _ =>
      exact h.addOrderLine hfresh hreceived hrejected
  | orderLines lines hlines => exact h.orderLines hlines
  | receive line received transactions hreceives htransactions =>
      exact h.receive hreceives htransactions
  | reservations | requisitions | addRequisitionLine | requisitionLines | orders =>
      exact h.of_same rfl rfl (fun _ => id) fun _ => id

end

/-- Along every run, whatever is refused on the way, order lines count what the receipts say, and
what was accepted was posted. -/
theorem inventoryRun_receiptsCounted (calls : List (InventoryService × InventoryCall))
    (start : PlatformStore) (hcounted : ReceiptsCounted start.inventory.documents) :
    let last := sessionAfter runInventoryCall (.clean start) calls
    ReceiptsCounted last.committed.inventory.documents ∧
      ReceiptsCounted last.pending.inventory.documents :=
  inventoryRun_documents receiptsCounted_keptByWrites calls (Session.both_clean.mpr hcounted)

theorem inventoryRun_receiptsCounted_bolts :
    let last := sessionAfter runInventoryCall (.clean boltsOrdered) deliverBolts
    ReceiptsCounted last.committed.inventory.documents ∧
      ReceiptsCounted last.pending.inventory.documents := by
  apply inventoryRun_receiptsCounted
  constructor
  · intro line hline
    obtain rfl := List.mem_singleton.mp hline
    rfl
  · intro line hline
    obtain rfl := List.mem_singleton.mp hline
    rfl
  · intro received hreceived
    cases hreceived
  · intro received hreceived
    cases hreceived

end ProjectManager
