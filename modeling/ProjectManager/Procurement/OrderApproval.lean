import ProjectManager.Foundation.References
import ProjectManager.Inventory.StockCalls
import ProjectManager.Procurement.Orders

/-! # Approval of purchase orders

The approval opens the order and, line by line, the line, counts its quantity on
order and sources its requisition line; then the requisitions that were drawn
on are refreshed. A raise on the way leaves the writes before it in the
session. The approval goes through exactly when, line by line, the item is
known, the on-order quantity stays nonnegative and the requisition line is not
oversourced, and when the requisitions drawn on may take their new status. All
of this is decided by the store before the approval.
-/

namespace ProjectManager

open Foundation

/-- The order of a request that awaits its decision, as decided. -/
def decidedPurchaseOrder (request : ApprovalRequest) (nextStatus : PurchaseOrderStatus)
    (store : InventoryStore) : Except DomainError PurchaseOrder := do
  let order ← require (store.orders.get? request.entityId)
    (notFoundError "Purchase order not found." "INVENTORY_PURCHASE_ORDER_NOT_FOUND")
  ensure (order.approvalRequestId = some request.id)
    (validationError "Approval request does not match the purchase order."
      "INVENTORY_PURCHASE_ORDER_APPROVAL_MISMATCH")
  ensure (order.status ∈ [PurchaseOrderStatus.submitted, .underReview])
    (validationError "Purchase order is not awaiting approval."
      "INVENTORY_PURCHASE_ORDER_STATUS_INVALID")
  validateTransition PurchaseOrderStatus.value purchaseOrderStatusTransitions order.status
    nextStatus
  return { order with status := nextStatus }

/-! ## Requisitions -/

/-- The requisition line with the id, if the order line names one. -/
def PurchaseOrderLine.sourceLineId (line : PurchaseOrderLine) : Option String :=
  line.sourceRequisitionLineId.filter (· ≠ "")

def sourcedRequisitionLine (requisitionLine : PurchaseRequisitionLine) (quantity : ℚ) :
    PurchaseRequisitionLine :=
  let counted := { requisitionLine with
    quantitySourced := requisitionLine.quantitySourced + quantity }
  { counted with status := resolveRequisitionLineStatus counted }

def sourceRequisitionLine (item : StockItem) (line : PurchaseOrderLine) (requisitionLineId : String)
    (store : InventoryStore) : Except DomainError PurchaseRequisitionLine := do
  let requisitionLine ← requireRequisitionLine store requisitionLineId
  let sourcedQty ← convertItemQuantity item line.quantityOrdered line.uom requisitionLine.uom
    "Purchase-order line UOM"
  ensure (requisitionLine.quantitySourced + sourcedQty ≤ requisitionLine.quantityRequested)
    (validationError "Approved purchase order would oversource the requisition line."
      "INVENTORY_REQUISITION_LINE_OVERSOURCED")
  return sourcedRequisitionLine requisitionLine sourcedQty

def nextRequisitionStatus (status : PurchaseRequisitionStatus)
    (lines : List PurchaseRequisitionLine) : PurchaseRequisitionStatus :=
  if lines = [] then status
  else if ∀ line ∈ lines, line.status = .fullySourced then .fullySourced
  else if ∃ line ∈ lines, 0 < line.quantitySourced then .partiallySourced
  else status

def refreshRequisitionStatus (store : InventoryStore) (requisition : PurchaseRequisition) :
    Except DomainError InventoryStore :=
  let nextStatus := nextRequisitionStatus requisition.status
    (listForRequisition store requisition.id)
  if nextStatus = requisition.status then .ok store
  else do
    validateTransition PurchaseRequisitionStatus.value requisitionStatusTransitions
      requisition.status nextStatus
    return updateRequisition store { requisition with status := nextStatus }

def refreshTouchedRequisition (requisitionId : String) : ServiceProgram Unit :=
  ServiceProgram.write fun store =>
    match store.requisitions.get? requisitionId with
    | none => .ok store
    | some requisition => refreshRequisitionStatus store requisition

/-! ## The handlers -/

section

variable (service : InventoryService)

/-- Count a line on order. A new balance is added to the session, not to what it sees. -/
def storeOnOrder (order : PurchaseOrder) (item : StockItem) (line : PurchaseOrderLine)
    (balanceId : String) : ServiceProgram Unit :=
  Program.step fun store => do
    let written ← onOrderBalance store.inventory order.organizationId item
      line.destinationStoreroomId line.uom line.quantityOrdered balanceId
    match written with
    | none => return store
    | some (true, balance) =>
        return { store with addedBalances := store.addedBalances ++ [balance] }
    | some (false, balance) =>
        return { store with inventory := storeBalance store.inventory false balance }

/-- One iteration over the lines; the result is the requisition that it touched. -/
def approveLine (order : PurchaseOrder) (balanceId : String) (line : PurchaseOrderLine) :
    ServiceProgram (Option String) := do
  ServiceProgram.write fun store => .ok
    { store with orderLines := store.orderLines.update { line with status := .open } }
  let item ← ServiceProgram.read fun store =>
    getItemForInternalUse service store.inventory line.stockItemId
  storeOnOrder order item line balanceId
  match line.sourceLineId with
  | none => return none
  | some requisitionLineId => do
      let sourced ← ServiceProgram.read fun store =>
        sourceRequisitionLine item line requisitionLineId store.inventory
      ServiceProgram.write fun store => .ok
        { store with requisitionLines := store.requisitionLines.update sourced }
      return some sourced.purchaseRequisitionId

def approveLines (order : PurchaseOrder) (balanceId : String → String)
    (lines : List PurchaseOrderLine) : ServiceProgram (List String) :=
  lines.foldlM (fun touched line => do
    let requisitionId ← approveLine service order (balanceId line.id) line
    return (requisitionId.map touched.insert).getD touched) []

def applySubmittedPurchaseOrderApproval (balanceId : String → String) : ApplyHandler :=
  fun request => do
    let order ← ServiceProgram.read fun store =>
      decidedPurchaseOrder request .approved store.inventory
    ServiceProgram.write fun store => .ok (updatePurchaseOrder store order)
    let lines ← ServiceProgram.read fun store =>
      .ok (listForPurchaseOrder store.inventory order.id)
    let touchedRequisitionIds ← approveLines service order balanceId lines
    touchedRequisitionIds.forM refreshTouchedRequisition
    ServiceProgram.commit

end

def applySubmittedPurchaseOrderRejection : ApplyHandler := fun request => do
  let order ← ServiceProgram.read fun store =>
    decidedPurchaseOrder request .rejected store.inventory
  ServiceProgram.write fun store => .ok (updatePurchaseOrder store order)
  ServiceProgram.write fun store => .ok (setOrderLineStatus store order.id .cancelled)
  ServiceProgram.commit

end ProjectManager

namespace ProjectManager

open Foundation

def PurchaseOrder.positionOf (order : PurchaseOrder) (line : PurchaseOrderLine) : StockPosition :=
  ⟨order.organizationId, line.stockItemId, line.destinationStoreroomId⟩

namespace InventoryStore

variable (store : InventoryStore)

/-- A quantity of an order line in the stock unit of its item. -/
def lineQuantity (line : PurchaseOrderLine) (quantity : ℚ) : ℚ :=
  ((store.items.get? line.stockItemId).map fun item => stockQuantity item quantity line.uom).getD 0

/-- What an order line orders, in a unit of its item. -/
def convertedQuantity (line : PurchaseOrderLine) (uom : String) : ℚ :=
  ((store.items.get? line.stockItemId).map fun item =>
    line.quantityOrdered * uomFactor item line.uom / uomFactor item uom).getD 0

def orderedAt (order : PurchaseOrder) (lines : List PurchaseOrderLine) (position : StockPosition) :
    ℚ :=
  (lines.map fun line =>
    if order.positionOf line = position then store.lineQuantity line line.quantityOrdered
    else 0).sum

def sourcedFrom (lines : List PurchaseOrderLine) (requisitionLine : PurchaseRequisitionLine) : ℚ :=
  (lines.map fun line =>
    if line.sourceLineId = some requisitionLine.id then
      store.convertedQuantity line requisitionLine.uom
    else 0).sum

def sourcedBy (lines : List PurchaseOrderLine) (requisitionLine : PurchaseRequisitionLine) :
    PurchaseRequisitionLine :=
  lines.foldl (fun current line =>
    if line.sourceLineId = some current.id then
      sourcedRequisitionLine current (store.convertedQuantity line current.uom)
    else current) requisitionLine

def touchedRequisition (line : PurchaseOrderLine) : Option String :=
  (line.sourceLineId.bind store.requisitionLines.get?).map
    PurchaseRequisitionLine.purchaseRequisitionId

def sourcedLines (lines : List PurchaseOrderLine) (requisitionId : String) :
    List PurchaseRequisitionLine :=
  (store.requisitionLines.rows.filter fun line =>
    line.purchaseRequisitionId = requisitionId).map (store.sourcedBy lines)

end InventoryStore

/-! ## Conditions on the store before the approval -/

section

variable (service : InventoryService) (store : InventoryStore) (order : PurchaseOrder)
  (before : List PurchaseOrderLine)

def StockFits (item : StockItem) (line : PurchaseOrderLine) : Prop :=
  line.quantityOrdered = 0 ∨
    ((0 < uomFactor item line.uom ∧ 0 < uomFactor item item.stockUom) ∧
      0 ≤ ((store.balances.get? (order.positionOf line)).map fun balance =>
          balance.onOrderQty + store.orderedAt order before (order.positionOf line)).getD 0 +
        stockQuantity item line.quantityOrdered line.uom)

def SourceFits (item : StockItem) (line : PurchaseOrderLine) : Prop :=
  ∀ requisitionLineId ∈ line.sourceLineId,
    ∃ requisitionLine ∈ store.requisitionLines.get? requisitionLineId,
      (0 < uomFactor item line.uom ∧ 0 < uomFactor item requisitionLine.uom) ∧
        requisitionLine.quantitySourced + store.sourcedFrom before requisitionLine +
            line.quantityOrdered * uomFactor item line.uom / uomFactor item requisitionLine.uom ≤
          requisitionLine.quantityRequested

def LineFits (line : PurchaseOrderLine) : Prop :=
  ∃ item ∈ (getItemForInternalUse service store line.stockItemId).toOption,
    StockFits store order before item line ∧ SourceFits store before item line

/-- The requisition may take the status that its lines ask for after the approval. -/
def RequisitionFits (lines : List PurchaseOrderLine) (requisitionId : String) : Prop :=
  ∀ requisition ∈ store.requisitions.get? requisitionId,
    nextRequisitionStatus requisition.status (store.sourcedLines lines requisitionId) ∈
      requisition.status :: requisitionStatusTransitions requisition.status

instance (item : StockItem) (line : PurchaseOrderLine) :
    Decidable (StockFits store order before item line) :=
  inferInstanceAs (Decidable (_ ∨ _))

instance (item : StockItem) (line : PurchaseOrderLine) :
    Decidable (SourceFits store before item line) :=
  inferInstanceAs (Decidable (∀ _ ∈ _, ∃ _ ∈ _, _ ∧ _))

instance (line : PurchaseOrderLine) : Decidable (LineFits service store order before line) :=
  inferInstanceAs (Decidable (∃ _ ∈ _, _ ∧ _))

instance (lines : List PurchaseOrderLine) (requisitionId : String) :
    Decidable (RequisitionFits store lines requisitionId) :=
  inferInstanceAs (Decidable (∀ _ ∈ _, _ ∈ _))

def LinesFit (service : InventoryService) (store : InventoryStore) (order : PurchaseOrder) :
    List PurchaseOrderLine → List PurchaseOrderLine → Prop
  | _, [] => True
  | before, line :: after =>
      LineFits service store order before line ∧
        LinesFit service store order (before ++ [line]) after

instance decidableLinesFit : (before lines : List PurchaseOrderLine) →
    Decidable (LinesFit service store order before lines)
  | _, [] => isTrue trivial
  | before, line :: after =>
      @instDecidableAnd _ _ inferInstance (decidableLinesFit (before ++ [line]) after)

/-- The approval of the order goes through. -/
def OrderFits : Prop :=
  LinesFit service store order [] (listForPurchaseOrder store order.id) ∧
    ∀ line ∈ listForPurchaseOrder store order.id,
      ∀ requisitionId ∈ store.touchedRequisition line,
        RequisitionFits store (listForPurchaseOrder store order.id) requisitionId

instance : Decidable (OrderFits service store order) := inferInstanceAs (Decidable (_ ∧ _))

end

/-! ## Requisition lines that order lines source -/

section

variable (store : InventoryStore)

theorem sourcedBy_append (before after : List PurchaseOrderLine)
    (requisitionLine : PurchaseRequisitionLine) :
    store.sourcedBy (before ++ after) requisitionLine =
      store.sourcedBy after (store.sourcedBy before requisitionLine) :=
  List.foldl_append

theorem sourcedFrom_append (before after : List PurchaseOrderLine)
    (requisitionLine : PurchaseRequisitionLine) :
    store.sourcedFrom (before ++ after) requisitionLine =
      store.sourcedFrom before requisitionLine + store.sourcedFrom after requisitionLine := by
  unfold InventoryStore.sourcedFrom
  rw [List.map_append, List.sum_append]

theorem sourcedFrom_singleton (line : PurchaseOrderLine)
    (requisitionLine : PurchaseRequisitionLine) :
    store.sourcedFrom [line] requisitionLine =
      if line.sourceLineId = some requisitionLine.id then
        store.convertedQuantity line requisitionLine.uom
      else 0 :=
  add_zero _

theorem sourcedBy_eq (lines : List PurchaseOrderLine) (requisitionLine : PurchaseRequisitionLine) :
    ∃ status, store.sourcedBy lines requisitionLine =
      { requisitionLine with
        quantitySourced := requisitionLine.quantitySourced +
          store.sourcedFrom lines requisitionLine
        status := status } := by
  induction lines generalizing requisitionLine with
  | nil => exact ⟨requisitionLine.status, by simp [InventoryStore.sourcedBy, InventoryStore.sourcedFrom]⟩
  | cons line rest ih =>
      unfold InventoryStore.sourcedBy InventoryStore.sourcedFrom at ih ⊢
      rw [List.foldl_cons, List.map_cons, List.sum_cons]
      by_cases h : line.sourceLineId = some requisitionLine.id
      · obtain ⟨status, hrest⟩ := ih (sourcedRequisitionLine requisitionLine
          (store.convertedQuantity line requisitionLine.uom))
        refine ⟨status, ?_⟩
        rw [if_pos h, if_pos h, hrest, ← add_assoc]
        rfl
      · obtain ⟨status, hrest⟩ := ih requisitionLine
        refine ⟨status, ?_⟩
        rw [if_neg h, if_neg h, hrest, zero_add]

variable {store} (lines : List PurchaseOrderLine) (requisitionLine : PurchaseRequisitionLine)

@[simp] theorem sourcedBy_id : (store.sourcedBy lines requisitionLine).id = requisitionLine.id := by
  obtain ⟨_, h⟩ := sourcedBy_eq store lines requisitionLine
  rw [h]

@[simp] theorem sourcedBy_uom :
    (store.sourcedBy lines requisitionLine).uom = requisitionLine.uom := by
  obtain ⟨_, h⟩ := sourcedBy_eq store lines requisitionLine
  rw [h]

@[simp] theorem sourcedBy_purchaseRequisitionId :
    (store.sourcedBy lines requisitionLine).purchaseRequisitionId =
      requisitionLine.purchaseRequisitionId := by
  obtain ⟨_, h⟩ := sourcedBy_eq store lines requisitionLine
  rw [h]

@[simp] theorem sourcedBy_quantityRequested :
    (store.sourcedBy lines requisitionLine).quantityRequested =
      requisitionLine.quantityRequested := by
  obtain ⟨_, h⟩ := sourcedBy_eq store lines requisitionLine
  rw [h]

@[simp] theorem sourcedBy_quantitySourced :
    (store.sourcedBy lines requisitionLine).quantitySourced =
      requisitionLine.quantitySourced + store.sourcedFrom lines requisitionLine := by
  obtain ⟨_, h⟩ := sourcedBy_eq store lines requisitionLine
  rw [h]

theorem sourcedBy_singleton (line : PurchaseOrderLine) :
    store.sourcedBy [line] requisitionLine =
      if line.sourceLineId = some requisitionLine.id then
        sourcedRequisitionLine requisitionLine (store.convertedQuantity line requisitionLine.uom)
      else requisitionLine :=
  rfl

theorem sourcedBy_of_unreferred
    (h : ∀ line ∈ lines, line.sourceLineId ≠ some requisitionLine.id) :
    store.sourcedBy lines requisitionLine = requisitionLine := by
  induction lines with
  | nil => rfl
  | cons line rest ih =>
      unfold InventoryStore.sourcedBy at ih ⊢
      rw [List.foldl_cons, if_neg (h line List.mem_cons_self)]
      exact ih fun other hother => h other (List.mem_cons_of_mem line hother)

/-- One that a line refers to takes the status of its quantities. -/
theorem sourcedBy_status {lines : List PurchaseOrderLine}
    {requisitionLine : PurchaseRequisitionLine}
    (h : ∃ line ∈ lines, line.sourceLineId = some requisitionLine.id) :
    (store.sourcedBy lines requisitionLine).status =
      resolveRequisitionLineStatus (store.sourcedBy lines requisitionLine) := by
  induction lines generalizing requisitionLine with
  | nil => exact absurd h (by simp)
  | cons line rest ih =>
      rw [← List.singleton_append, sourcedBy_append]
      by_cases hrest : ∃ other ∈ rest, other.sourceLineId = some requisitionLine.id
      · apply ih
        rw [sourcedBy_id]
        exact hrest
      · have hline : line.sourceLineId = some requisitionLine.id := by
          obtain ⟨other, hother, hsource⟩ := h
          rcases List.mem_cons.mp hother with rfl | hother
          · exact hsource
          · exact absurd ⟨other, hother, hsource⟩ hrest
        rw [sourcedBy_of_unreferred rest _ ?_, sourcedBy_singleton, if_pos hline]
        · rfl
        · rw [sourcedBy_id]
          exact fun other hother hsource => hrest ⟨other, hother, hsource⟩

theorem orderedAt_append (order : PurchaseOrder) (before after : List PurchaseOrderLine)
    (position : StockPosition) :
    store.orderedAt order (before ++ after) position =
      store.orderedAt order before position + store.orderedAt order after position := by
  unfold InventoryStore.orderedAt
  rw [List.map_append, List.sum_append]

theorem orderedAt_singleton (order : PurchaseOrder) (line : PurchaseOrderLine)
    (position : StockPosition) :
    store.orderedAt order [line] position =
      if order.positionOf line = position then store.lineQuantity line line.quantityOrdered
      else 0 :=
  add_zero _

end

end ProjectManager
