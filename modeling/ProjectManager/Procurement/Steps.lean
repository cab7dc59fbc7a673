import ProjectManager.Procurement.Approvals

/-! # What an accepted call does

Whatever call is accepted, the requisitions, the orders and their lines change
in one of ten ways. Everything that a way is allowed to change is named here,
together with what was checked before it.
-/

namespace ProjectManager

open Foundation

def HeaderReady (store : InventoryStore) (order : PurchaseOrder) : Prop :=
  ∀ requisitionId ∈ order.sourceRequisitionId, requisitionId ≠ "" ∧
    ∃ requisition ∈ store.requisitions.get? requisitionId, requisition.IsReady

/-- The requisition line that a new order line draws on has demand left. -/
def SourceAccepted (store : InventoryStore) (order : PurchaseOrder) (item : StockItem)
    (line : PurchaseOrderLine) : Prop :=
  ∀ requisitionLineId ∈ line.sourceLineId,
    ∃ requisitionLine ∈ store.requisitionLines.get? requisitionLineId,
      requisitionLine.stockItemId = item.id ∧ 0 < uomFactor item requisitionLine.uom ∧
        (∀ requisitionId ∈ order.sourceRequisitionId,
          requisitionId ≠ "" → requisitionLine.purchaseRequisitionId = requisitionId) ∧
        requisitionLine.quantitySourced < requisitionLine.quantityRequested

/-- Lines of an order that were received one after another. -/
inductive LinesReceived (order : PurchaseOrder) (store : InventoryStore) : InventoryStore → Prop
  | refl : LinesReceived order store store
  | other {current next : InventoryStore} (h : LinesReceived order store current)
      (hframe : ∃ receipts receiptLines,
        next = { current with receipts := receipts, receiptLines := receiptLines }) :
      LinesReceived order store next
  | line {current next : InventoryStore} (h : LinesReceived order store current)
      (stored : PurchaseOrderLine) (accepted rejected : ℚ) (status : PurchaseOrderLineStatus)
      (hstored : current.orderLines.get? stored.id = some stored)
      (horder : stored.purchaseOrderId = order.id)
      (hitem : (current.items.get? stored.stockItemId).isSome)
      (haccepted : 0 ≤ accepted) (hrejected : 0 ≤ rejected)
      (hfits : stored.quantityReceived + accepted + (stored.quantityRejected + rejected) ≤
        stored.quantityOrdered)
      (hframe : ∃ balances transactions receiptLines, next =
        { current with
          balances := balances
          transactions := transactions
          receiptLines := receiptLines
          orderLines := current.orderLines.update { stored with
            quantityReceived := stored.quantityReceived + accepted
            quantityRejected := stored.quantityRejected + rejected
            status := status } })
      (honOrder : ∀ position, (next.balanceAt position).onOrderQty =
        (current.balanceAt position).onOrderQty +
          if position = order.positionOf stored then
            current.lineQuantity stored (-(accepted + rejected))
          else 0) :
      LinesReceived order store next

/-- One of the ways; a call may only add the order lines that it names. -/
inductive ProcurementStep (service : InventoryService) (adds : PurchaseOrderLine → Prop)
    (store : InventoryStore) : InventoryStore → Prop
  | draftRequisition (requisition : PurchaseRequisition)
      (hfresh : requisition.id ∉ store.requisitions.ids) (hdraft : requisition.status = .draft) :
      ProcurementStep service adds store
        { store with
          requisitions := store.requisitions.insert requisition }
  | addRequisitionLine (line : PurchaseRequisitionLine) (requisition : PurchaseRequisition)
      (hrequisition :
        store.requisitions.get? line.purchaseRequisitionId = some requisition)
      (hdraft : requisition.status = .draft) (hfresh : line.id ∉ store.requisitionLines.ids)
      (hstatus : line.status = .draft) (hsourced : line.quantitySourced = 0)
      (hrequested : 0 < line.quantityRequested) :
      ProcurementStep service adds store
        { store with
          requisitionLines := store.requisitionLines.insert line }
  | moveRequisition (requisition stored : PurchaseRequisition)
      (hstored : store.requisitions.get? requisition.id = some stored)
      (hbefore : stored.status ∈ [PurchaseRequisitionStatus.draft, .submitted, .underReview])
      (hafter : requisition.status ∈
        [PurchaseRequisitionStatus.draft, .submitted, .approved, .rejected, .cancelled])
      (lines : Table PurchaseRequisitionLine.id)
      (hlines : lines = store.requisitionLines ∨ ∃ status ≠ PurchaseRequisitionLineStatus.fullySourced,
        lines = (setRequisitionLineStatus store requisition.id status).requisitionLines) :
      ProcurementStep service adds store
        { store with
          requisitions := store.requisitions.update requisition
          requisitionLines := lines }
  | draftOrder (order : PurchaseOrder) (hfresh : order.id ∉ store.orders.ids)
      (hdraft : order.status = .draft) (hheader : HeaderReady store order) :
      ProcurementStep service adds store
        { store with
          orders := store.orders.insert order }
  | addOrderLine (line : PurchaseOrderLine) (order : PurchaseOrder) (item : StockItem)
      (horder : store.orders.get? line.purchaseOrderId = some order)
      (hdraft : order.status = .draft) (hfresh : line.id ∉ store.orderLines.ids)
      (hitem : store.items.get? line.stockItemId = some item)
      (hunit : 0 < uomFactor item line.uom) (hreceived : line.quantityReceived = 0)
      (hrejected : line.quantityRejected = 0) (hordered : 0 < line.quantityOrdered)
      (hsource : SourceAccepted store order item line) (hadds : adds line) :
      ProcurementStep service adds store
        { store with
          orderLines := store.orderLines.insert line }
  | moveOrder (order stored : PurchaseOrder)
      (hstored : store.orders.get? order.id = some stored)
      (horganization : order.organizationId = stored.organizationId)
      (hbefore : stored.status ∈ [PurchaseOrderStatus.draft, .submitted, .underReview])
      (hafter : order.status ∈ [PurchaseOrderStatus.draft, .submitted, .rejected, .cancelled])
      (hheader : order.sourceRequisitionId = stored.sourceRequisitionId ∨ HeaderReady store order)
      (lines : Table PurchaseOrderLine.id)
      (hlines : lines.rows.map PurchaseOrderLine.bare =
        store.orderLines.rows.map PurchaseOrderLine.bare) :
      ProcurementStep service adds store
        { store with
          orders := store.orders.update order
          orderLines := lines }
  | sendOrder (order stored : PurchaseOrder)
      (hstored : store.orders.get? order.id = some stored)
      (horganization : order.organizationId = stored.organizationId)
      (hheader : order.sourceRequisitionId = stored.sourceRequisitionId)
      (hbefore : stored.status ∈ [PurchaseOrderStatus.approved, .sent])
      (hafter : order.status = .sent) :
      ProcurementStep service adds store
        { store with
          orders := store.orders.update order }
  | closeOrder (order stored : PurchaseOrder)
      (hstored : store.orders.get? order.id = some stored)
      (horganization : order.organizationId = stored.organizationId)
      (hheader : order.sourceRequisitionId = stored.sourceRequisitionId)
      (hbefore : stored.status ∈
        [PurchaseOrderStatus.approved, .sent, .partiallyReceived, .fullyReceived, .closed])
      (hafter : order.status = .closed)
      (hprocessed : ∀ line ∈ store.orderLines.rows, line.purchaseOrderId = order.id →
        lineOutstandingQty line ≤ 0) :
      ProcurementStep service adds store
        { store with
          orders := store.orders.update order }
  | receive (order stored : PurchaseOrder) (received : InventoryStore)
      (hstored : store.orders.get? order.id = some stored)
      (horganization : order.organizationId = stored.organizationId)
      (hheader : order.sourceRequisitionId = stored.sourceRequisitionId)
      (hbefore : stored.status ∈ [PurchaseOrderStatus.approved, .sent, .partiallyReceived])
      (hreceived : LinesReceived stored store received)
      (hafter : order.status = .partiallyReceived ∨ (order.status = .fullyReceived ∧
        ∀ line ∈ received.orderLines.rows, line.purchaseOrderId = order.id →
          lineOutstandingQty line ≤ 0)) :
      ProcurementStep service adds store
        { received with
          orders := received.orders.update order }
  | approveOrder (order stored : PurchaseOrder) (next : InventoryStore)
      (hstored : store.orders.get? order.id = some stored)
      (hbefore : stored.status ∈ [PurchaseOrderStatus.submitted, .underReview])
      (horder : order = { stored with status := .approved })
      (happroved : OrderApproved service store order next) :
      ProcurementStep service adds store next

section

variable {store next : PlatformStore}

theorem inventoryCall_ok {Plan : Type} {checks : PlatformStore → Except DomainError Plan}
    {body : Plan → InventoryStore → Except DomainError InventoryStore}
    (hsettled : store.addedBalances = [])
    (h : (inventoryCall checks body).effect store = .ok next) :
    ∃ plan inventory, checks store = .ok plan ∧ body plan store.inventory = .ok inventory ∧
      next = { store with inventory := inventory } := by
  obtain ⟨plan, hplan, h⟩ := bind_ok h
  obtain ⟨flushed, hflushed, h⟩ := bind_ok h
  rw [PlatformStore.flush_settled hsettled] at hflushed
  cases hflushed
  obtain ⟨inventory, hinventory, h⟩ := bind_ok h
  cases h
  exact ⟨plan, inventory, hplan, hinventory, rfl⟩

end

theorem validateTransition_iff {Status : Type} [DecidableEq Status] {value : Status → String}
    {transitions : Status → List Status} {currentStatus nextStatus : Status} {u : Unit} :
    validateTransition value transitions currentStatus nextStatus = .ok u ↔
      nextStatus = currentStatus ∨ nextStatus ∈ transitions currentStatus :=
  ensure_eq_ok

section

variable {service : InventoryService} {adds : PurchaseOrderLine → Prop}
  {store next : InventoryStore}

/-! ### Requisitions -/

theorem getRequisition_ok {requisitionId : String} {requisition : PurchaseRequisition}
    (h : getRequisition service requisitionId store = .ok requisition) :
    store.requisitions.get? requisitionId = some requisition ∧ requisition.id = requisitionId := by
  iterate 2 obtain ⟨_, -, h⟩ := bind_ok h
  obtain ⟨hfound, -⟩ := Option.filter_eq_some_iff.mp (require_eq_ok.mp h)
  exact ⟨hfound, (Table.get?_eq_some_iff.mp hfound).2⟩

theorem requireDraftRequisition_ok {requisitionId : String} {requisition : PurchaseRequisition}
    (h : requireDraftRequisition service requisitionId store = .ok requisition) :
    store.requisitions.get? requisition.id = some requisition ∧ requisition.status = .draft := by
  obtain ⟨_, hfound, h⟩ := bind_ok h
  obtain ⟨_, hdraft, h⟩ := bind_ok h
  cases h
  obtain ⟨hfound, rfl⟩ := getRequisition_ok hfound
  exact ⟨hfound, ensure_eq_ok.mp hdraft⟩

/-- A requisition that awaits a decision is written with another status. -/
theorem updateRequisition_step {requisition stored : PurchaseRequisition}
    (hstored : store.requisitions.get? requisition.id = some stored)
    (hbefore : stored.status ∈ [PurchaseRequisitionStatus.draft, .submitted, .underReview])
    (hafter : requisition.status ∈
      [PurchaseRequisitionStatus.draft, .submitted, .approved, .rejected, .cancelled]) :
    ProcurementStep service adds store (updateRequisition store requisition) :=
  .moveRequisition { requisition with version := requisition.version + 1 } stored hstored hbefore
    hafter _ (Or.inl rfl)

theorem updateRequisition_lines_step {requisition stored : PurchaseRequisition}
    (hstored : store.requisitions.get? requisition.id = some stored)
    (hbefore : stored.status ∈ [PurchaseRequisitionStatus.draft, .submitted, .underReview])
    (hafter : requisition.status ∈
      [PurchaseRequisitionStatus.draft, .submitted, .approved, .rejected, .cancelled])
    (status : PurchaseRequisitionLineStatus) (hstatus : status ≠ .fullySourced) :
    ProcurementStep service adds store
      (updateRequisition (setRequisitionLineStatus store requisition.id status) requisition) :=
  .moveRequisition { requisition with version := requisition.version + 1 } stored hstored hbefore
    hafter _ (Or.inr ⟨status, hstatus, rfl⟩)

theorem prepareRequisition_ok {arguments : RequisitionArguments}
    {requisition : PurchaseRequisition}
    (h : prepareRequisition service arguments store = .ok requisition) :
    requisition.status = .draft := by
  iterate 5 obtain ⟨_, -, h⟩ := bind_ok h
  cases h
  rfl

theorem prepareRequisitionLine_ok {arguments : RequisitionLineArguments}
    {platform : PlatformStore} {line : PurchaseRequisitionLine}
    (h : prepareRequisitionLine service arguments platform = .ok line) :
    (∃ requisition, platform.inventory.requisitions.get? line.purchaseRequisitionId =
      some requisition ∧ requisition.status = .draft) ∧
      line.status = .draft ∧ line.quantitySourced = 0 ∧ 0 < line.quantityRequested := by
  obtain ⟨_, -, h⟩ := bind_ok h
  obtain ⟨requisition, hrequisition, h⟩ := bind_ok h
  iterate 7 obtain ⟨_, -, h⟩ := bind_ok h
  obtain ⟨_, hquantity, h⟩ := bind_ok h
  obtain ⟨_, -, h⟩ := bind_ok h
  cases h
  obtain ⟨rfl, hpos⟩ := normalizePositiveQuantity_eq_ok hquantity
  exact ⟨⟨requisition, requireDraftRequisition_ok hrequisition⟩, rfl, rfl, hpos⟩

theorem insertRequisition_step {requisition : PurchaseRequisition}
    (hdraft : requisition.status = .draft) (h : insertRequisition store requisition = .ok next) :
    ProcurementStep service adds store next := by
  obtain ⟨_, hfresh, h⟩ := bind_ok h
  cases h
  exact .draftRequisition requisition (ensure_eq_ok.mp hfresh).1 hdraft

theorem prepareUpdatedRequisition_ok {arguments : RequisitionUpdate}
    {requisition : PurchaseRequisition}
    (h : prepareUpdatedRequisition service arguments store = .ok requisition) :
    ∃ stored, store.requisitions.get? requisition.id = some stored ∧ stored.status = .draft ∧
      requisition.status = .draft := by
  obtain ⟨_, -, h⟩ := bind_ok h
  obtain ⟨stored, hstored, h⟩ := bind_ok h
  iterate 4 obtain ⟨_, -, h⟩ := bind_ok h
  obtain ⟨hfound, hdraft⟩ := requireDraftRequisition_ok hstored
  cases hreference : arguments.sourceReferenceType with
  | none =>
      rw [hreference] at h
      cases h
      exact ⟨stored, hfound, hdraft, hdraft⟩
  | some value =>
      rw [hreference] at h
      obtain ⟨_, -, h⟩ := bind_ok h
      cases h
      exact ⟨stored, hfound, hdraft, hdraft⟩

theorem prepareCancelledRequisition_ok {requisitionId : String} {expectedVersion : Option ℕ}
    {requisition : PurchaseRequisition}
    (h : prepareCancelledRequisition service requisitionId expectedVersion store =
      .ok requisition) :
    ∃ stored, store.requisitions.get? requisition.id = some stored ∧ stored.status = .draft ∧
      requisition.status = .cancelled := by
  obtain ⟨_, -, h⟩ := bind_ok h
  obtain ⟨stored, hstored, h⟩ := bind_ok h
  iterate 2 obtain ⟨_, -, h⟩ := bind_ok h
  cases h
  obtain ⟨hfound, hdraft⟩ := requireDraftRequisition_ok hstored
  exact ⟨stored, hfound, hdraft, rfl⟩

theorem prepareSubmittedRequisition_ok {requisitionId requestId : String}
    {platform : PlatformStore} {plan : PurchaseRequisition × ApprovalRequest}
    (h : prepareSubmittedRequisition service requisitionId requestId platform = .ok plan) :
    ∃ stored, platform.inventory.requisitions.get? plan.1.id = some stored ∧
      stored.status = .draft ∧ plan.1.status = .submitted := by
  obtain ⟨_, -, h⟩ := bind_ok h
  obtain ⟨stored, hstored, h⟩ := bind_ok h
  iterate 3 obtain ⟨_, -, h⟩ := bind_ok h
  cases h
  obtain ⟨hfound, hdraft⟩ := requireDraftRequisition_ok hstored
  exact ⟨stored, hfound, hdraft, rfl⟩

/-! ### Orders -/

theorem getPurchaseOrder_ok {purchaseOrderId : String} {order : PurchaseOrder}
    (h : getPurchaseOrder service store purchaseOrderId = .ok order) :
    store.orders.get? order.id = some order ∧ order.id = purchaseOrderId := by
  iterate 2 obtain ⟨_, -, h⟩ := bind_ok h
  obtain ⟨hfound, -⟩ := Option.filter_eq_some_iff.mp (require_eq_ok.mp h)
  have hid := (Table.get?_eq_some_iff.mp hfound).2
  rw [hid]
  exact ⟨hfound, rfl⟩

theorem requireDraftPurchaseOrder_ok {purchaseOrderId : String} {order : PurchaseOrder}
    (h : requireDraftPurchaseOrder service store purchaseOrderId = .ok order) :
    store.orders.get? order.id = some order ∧ order.status = .draft ∧
      order.id = purchaseOrderId := by
  obtain ⟨_, hfound, h⟩ := bind_ok h
  obtain ⟨_, hdraft, h⟩ := bind_ok h
  cases h
  obtain ⟨hfound, hid⟩ := getPurchaseOrder_ok hfound
  exact ⟨hfound, ensure_eq_ok.mp hdraft, hid⟩

theorem validateSourceRequisition_ok {sourceRequisitionId : Option String}
    {organizationId : String} {source : Option PurchaseRequisition}
    (h : validateSourceRequisition sourceRequisitionId organizationId store = .ok source)
    (requisitionId : String) (hmem : requisitionId ∈ source.map PurchaseRequisition.id) :
    requisitionId ≠ "" ∧
      ∃ requisition ∈ store.requisitions.get? requisitionId, requisition.IsReady := by
  obtain ⟨requisition, rfl, rfl⟩ := Option.map_eq_some_iff.mp hmem
  unfold validateSourceRequisition at h
  simp only at h
  split at h
  · cases h
  next hgiven =>
    obtain ⟨_, hfound, h⟩ := bind_ok h
    obtain ⟨_, hready, h⟩ := bind_ok h
    obtain rfl := Option.some.inj (Except.ok.inj h)
    obtain ⟨hfound, -⟩ := Option.filter_eq_some_iff.mp (require_eq_ok.mp hfound)
    have hid := (Table.get?_eq_some_iff.mp hfound).2
    rw [hid]
    exact ⟨hgiven, _, hfound, ensure_eq_ok.mp hready⟩

theorem validateSourceRequisitionLine_ok {order : PurchaseOrder} {item : StockItem}
    {sourceRequisitionLineId : Option String} {quantity : ℚ} {uom : String}
    {requisitionLine : PurchaseRequisitionLine}
    (h : validateSourceRequisitionLine order item sourceRequisitionLineId quantity uom store =
      .ok (some requisitionLine)) :
    requisitionLine.id = normalizeOptionalText sourceRequisitionLineId ∧
      store.requisitionLines.get? requisitionLine.id = some requisitionLine ∧
      requisitionLine.stockItemId = item.id ∧ 0 < uomFactor item requisitionLine.uom ∧
        (∀ requisitionId ∈ order.sourceRequisitionId,
          requisitionId ≠ "" → requisitionLine.purchaseRequisitionId = requisitionId) ∧
        requisitionLine.quantitySourced < requisitionLine.quantityRequested := by
  unfold validateSourceRequisitionLine at h
  simp only at h
  split at h
  · cases h
  · obtain ⟨_, hfound, h⟩ := bind_ok h
    obtain ⟨_, hitem, h⟩ := bind_ok h
    obtain ⟨_, hheader, h⟩ := bind_ok h
    obtain ⟨_, hremaining, h⟩ := bind_ok h
    obtain ⟨_, -, h⟩ := bind_ok h
    obtain ⟨_, hconverted, h⟩ := bind_ok h
    obtain ⟨_, -, h⟩ := bind_ok h
    obtain rfl := Option.some.inj (Except.ok.inj h)
    have hfound := require_eq_ok.mp hfound
    have hid := (Table.get?_eq_some_iff.mp hfound).2
    refine ⟨hid, ?_, ensure_eq_ok.mp hitem, (convertItemQuantity_iff.mp hconverted).1.2,
      ensure_eq_ok.mp hheader, ?_⟩
    · rw [hid]
      exact hfound
    · have hpos := ensure_eq_ok.mp hremaining
      rw [lt_max_iff] at hpos
      exact sub_pos.mp (hpos.resolve_left (lt_irrefl 0))

theorem preparePurchaseOrder_ok {arguments : OrderArguments} {platform : PlatformStore}
    {order : PurchaseOrder}
    (h : preparePurchaseOrder service arguments platform = .ok order) :
    order.status = .draft ∧ HeaderReady platform.inventory order := by
  iterate 3 obtain ⟨_, -, h⟩ := bind_ok h
  obtain ⟨_, hsource, h⟩ := bind_ok h
  obtain ⟨_, -, h⟩ := bind_ok h
  cases h
  exact ⟨rfl, validateSourceRequisition_ok hsource⟩

/-- What was checked of an order line before it is inserted. -/
structure OrderLinePrepared (store : InventoryStore) (arguments : OrderLineArguments)
    (line : PurchaseOrderLine) (order : PurchaseOrder) (item : StockItem) : Prop where
  purchaseOrderId : line.purchaseOrderId = arguments.purchaseOrderId
  orderFound : store.orders.get? line.purchaseOrderId = some order
  draft : order.status = .draft
  itemFound : store.items.get? line.stockItemId = some item
  unit : 0 < uomFactor item line.uom
  received : line.quantityReceived = 0
  rejected : line.quantityRejected = 0
  ordered : 0 < line.quantityOrdered
  source : SourceAccepted store order item line
  sourceId : ∀ requisitionLineId ∈ line.sourceLineId,
    requisitionLineId = normalizeOptionalText arguments.sourceRequisitionLineId

theorem preparePurchaseOrderLine_ok {arguments : OrderLineArguments} {line : PurchaseOrderLine}
    (h : preparePurchaseOrderLine service arguments store = .ok line) :
    ∃ order item, OrderLinePrepared store arguments line order item := by
  obtain ⟨_, -, h⟩ := bind_ok h
  obtain ⟨order, horder, h⟩ := bind_ok h
  obtain ⟨item, hitem, h⟩ := bind_ok h
  iterate 7 obtain ⟨_, -, h⟩ := bind_ok h
  obtain ⟨_, hunit, h⟩ := bind_ok h
  obtain ⟨source, hsource, h⟩ := bind_ok h
  obtain ⟨_, hquantity, h⟩ := bind_ok h
  obtain ⟨_, -, h⟩ := bind_ok h
  cases h
  obtain ⟨hfound, hdraft, hid⟩ := requireDraftPurchaseOrder_ok horder
  obtain ⟨rfl, hpos⟩ := normalizePositiveQuantity_eq_ok hquantity
  obtain ⟨_, -, hitem⟩ := bind_ok hitem
  obtain ⟨hitem, hitemId⟩ := getItemForInternalUse_ok hitem
  have hline : ∀ requisitionLineId ∈ (source.map PurchaseRequisitionLine.id).filter (· ≠ ""),
      ∃ requisitionLine, source = some requisitionLine ∧
        requisitionLine.id = requisitionLineId := by
    intro requisitionLineId hmem
    obtain ⟨hmem, -⟩ := Option.filter_eq_some_iff.mp hmem
    exact Option.map_eq_some_iff.mp hmem
  refine ⟨order, item, hid, hfound, hdraft, hitemId ▸ hitem, (resolveItemUomFactor_iff.mp hunit).2,
    rfl, rfl, hpos, ?_, ?_⟩
  · intro requisitionLineId hmem
    obtain ⟨requisitionLine, rfl, rfl⟩ := hline requisitionLineId hmem
    exact ⟨requisitionLine, (validateSourceRequisitionLine_ok hsource).2⟩
  · intro requisitionLineId hmem
    obtain ⟨requisitionLine, rfl, rfl⟩ := hline requisitionLineId hmem
    exact (validateSourceRequisitionLine_ok hsource).1

theorem prepareUpdatedOrder_ok {arguments : OrderUpdate} {platform : PlatformStore}
    {order : PurchaseOrder} (h : prepareUpdatedOrder service arguments platform = .ok order) :
    (∃ stored, platform.inventory.orders.get? order.id = some stored ∧ stored.status = .draft ∧
      order.status = .draft ∧ order.organizationId = stored.organizationId) ∧
      HeaderReady platform.inventory order := by
  obtain ⟨_, -, h⟩ := bind_ok h
  obtain ⟨stored, hstored, h⟩ := bind_ok h
  iterate 3 obtain ⟨_, -, h⟩ := bind_ok h
  obtain ⟨_, hsource, h⟩ := bind_ok h
  obtain ⟨_, -, h⟩ := bind_ok h
  cases h
  obtain ⟨hfound, hdraft, -⟩ := requireDraftPurchaseOrder_ok hstored
  exact ⟨⟨stored, hfound, hdraft, hdraft, rfl⟩, validateSourceRequisition_ok hsource⟩

theorem prepareSubmittedOrder_ok {purchaseOrderId requestId : String} {platform : PlatformStore}
    {plan : PurchaseOrder × ApprovalRequest}
    (h : prepareSubmittedOrder service purchaseOrderId requestId platform = .ok plan) :
    ∃ stored requestId, platform.inventory.orders.get? stored.id = some stored ∧
      stored.status = .draft ∧
      plan.1 = { stored with status := .submitted, approvalRequestId := requestId } := by
  obtain ⟨_, -, h⟩ := bind_ok h
  obtain ⟨stored, hstored, h⟩ := bind_ok h
  iterate 5 obtain ⟨_, -, h⟩ := bind_ok h
  cases h
  obtain ⟨hfound, hdraft, -⟩ := requireDraftPurchaseOrder_ok hstored
  exact ⟨stored, _, hfound, hdraft, rfl⟩

theorem prepareCancelledOrder_ok {purchaseOrderId : String} {expectedVersion : Option ℕ}
    {order : PurchaseOrder}
    (h : prepareCancelledOrder service purchaseOrderId expectedVersion store = .ok order) :
    ∃ stored, store.orders.get? stored.id = some stored ∧ stored.status = .draft ∧
      order = { stored with status := .cancelled } := by
  obtain ⟨_, -, h⟩ := bind_ok h
  obtain ⟨stored, hstored, h⟩ := bind_ok h
  iterate 2 obtain ⟨_, -, h⟩ := bind_ok h
  cases h
  obtain ⟨hfound, hdraft, -⟩ := requireDraftPurchaseOrder_ok hstored
  exact ⟨stored, hfound, hdraft, rfl⟩

/-- Only an order that is open for receiving can be sent, and one that was. -/
theorem prepareSentOrder_ok {purchaseOrderId : String} {order : PurchaseOrder}
    (h : prepareSentOrder service purchaseOrderId store = .ok order) :
    ∃ stored date, store.orders.get? stored.id = some stored ∧
      stored.status ∈ [PurchaseOrderStatus.approved, .sent] ∧
      order = { stored with status := .sent, orderDate := date } := by
  obtain ⟨_, -, h⟩ := bind_ok h
  obtain ⟨stored, hstored, h⟩ := bind_ok h
  obtain ⟨_, htransition, h⟩ := bind_ok h
  cases h
  refine ⟨stored, _, (getPurchaseOrder_ok hstored).1, ?_, rfl⟩
  have htransition := validateTransition_iff.mp htransition
  revert htransition
  cases stored.status <;> decide

theorem prepareClosedOrder_ok {purchaseOrderId : String} {order : PurchaseOrder}
    (h : prepareClosedOrder service purchaseOrderId store = .ok order) :
    ∃ stored, store.orders.get? stored.id = some stored ∧
      stored.status ∈
        [PurchaseOrderStatus.approved, .sent, .partiallyReceived, .fullyReceived, .closed] ∧
      order = { stored with status := .closed } ∧
      ∀ line ∈ store.orderLines.rows, line.purchaseOrderId = order.id →
        lineOutstandingQty line ≤ 0 := by
  obtain ⟨_, -, h⟩ := bind_ok h
  obtain ⟨stored, hstored, h⟩ := bind_ok h
  obtain ⟨_, -, h⟩ := bind_ok h
  obtain ⟨_, hprocessed, h⟩ := bind_ok h
  obtain ⟨_, htransition, h⟩ := bind_ok h
  cases h
  refine ⟨stored, (getPurchaseOrder_ok hstored).1, ?_, rfl, ?_⟩
  · have htransition := validateTransition_iff.mp htransition
    revert htransition
    cases stored.status <;> decide
  · intro line hline horder
    obtain ⟨-, hprocessed⟩ := isPurchaseOrderFullyProcessed_iff.mp (ensure_eq_ok.mp hprocessed)
    exact hprocessed line (mem_listForPurchaseOrder.mpr ⟨hline, horder⟩)

/-! ### Receipts -/

theorem prepareReceiptLine_ok {receipt : ReceiptHeader} {index : ℕ} {payload : ReceiptPayload}
    {line : PurchaseOrderLine} {item : StockItem} {received : ReceiptLine}
    (h : prepareReceiptLine service receipt index payload store = .ok (line, item, received)) :
    (store.orderLines.get? line.id = some line ∧
      line.purchaseOrderId = receipt.purchaseOrderId) ∧
      (store.items.get? line.stockItemId = some item ∧ item.id = line.stockItemId) ∧
      0 ≤ received.quantityAccepted ∧ 0 ≤ received.quantityRejected ∧
      line.quantityReceived + received.quantityAccepted +
        (line.quantityRejected + received.quantityRejected) ≤ line.quantityOrdered := by
  obtain ⟨_, -, h⟩ := bind_ok h
  obtain ⟨_, hline, h⟩ := bind_ok h
  obtain ⟨_, hitem, h⟩ := bind_ok h
  iterate 2 obtain ⟨_, -, h⟩ := bind_ok h
  obtain ⟨_, haccepted, h⟩ := bind_ok h
  obtain ⟨_, hrejected, h⟩ := bind_ok h
  obtain ⟨_, hpos, h⟩ := bind_ok h
  obtain ⟨_, hopen, h⟩ := bind_ok h
  iterate 3 obtain ⟨_, -, h⟩ := bind_ok h
  cases Except.ok.inj h
  obtain ⟨hfound, horder⟩ := Option.filter_eq_some_iff.mp (require_eq_ok.mp hline)
  obtain ⟨rfl, hnonneg⟩ := normalizeNonnegativeQuantity_eq_ok haccepted
  obtain ⟨rfl, hnonneg'⟩ := normalizeNonnegativeQuantity_eq_ok hrejected
  have hpos := ensure_eq_ok.mp hpos
  have hopen := ensure_eq_ok.mp hopen
  refine ⟨⟨?_, of_decide_eq_true horder⟩, getItemForInternalUse_ok hitem, hnonneg, hnonneg', ?_⟩
  · rw [(Table.get?_eq_some_iff.mp hfound).2]
    exact hfound
  · -- Something is received, so that the open quantity is not cut off at zero.
    unfold lineOutstandingQty at hopen
    rcases max_cases 0 (line.quantityOrdered - line.quantityReceived - line.quantityRejected)
      with ⟨hmax, -⟩ | ⟨hmax, -⟩
    · linarith
    · linarith

theorem postAccepted_frame {received : ReceiptLine} {ids : PostingIds}
    (h : postAccepted service received ids store = .ok next) :
    (∃ balances transactions,
      next = { store with balances := balances, transactions := transactions }) ∧
      ∀ position, (next.balanceAt position).onOrderQty =
        (store.balanceAt position).onOrderQty := by
  unfold postAccepted at h
  split at h
  · have hposted := postAdjustment_posted h
    exact ⟨hposted.frame, fun position => (hposted.balanceAt position).2⟩
  · obtain rfl := Except.ok.inj h
    exact ⟨⟨_, _, rfl⟩, fun _ => rfl⟩

theorem OnOrderAdjusted.onOrderQty {position : StockPosition} {quantity : ℚ}
    (h : OnOrderAdjusted store position quantity next) (other : StockPosition) :
    (next.balanceAt other).onOrderQty = (store.balanceAt other).onOrderQty +
      if other = position then quantity else 0 := by
  cases h with
  | unchanged => rw [ite_self, add_zero]
  | stored isNew balance hposition hisNew _ _ _ _ _ honOrder =>
      subst hposition
      rw [balanceAt_storeBalance hisNew]
      by_cases hother : other = balance.position
      · rw [if_pos hother, if_pos hother, hother, honOrder]
      · rw [if_neg hother, if_neg hother, add_zero]

theorem LinesReceived.receiveLine {order : PurchaseOrder} {receipt : ReceiptHeader} {index : ℕ}
    {payload : ReceiptPayload} {start : InventoryStore}
    (hreceived : LinesReceived order start store) (horder : receipt.purchaseOrderId = order.id)
    (horganization : receipt.organizationId = order.organizationId)
    (h : receiveLine service receipt index payload store = .ok next) :
    LinesReceived order start next := by
  obtain ⟨⟨line, item, received⟩, hprepared, h⟩ := bind_ok h
  obtain ⟨inserted, hinserted, h⟩ := bind_ok h
  obtain ⟨posted, hposted, h⟩ := bind_ok h
  obtain ⟨_, -, hinserted⟩ := bind_ok hinserted
  cases hinserted
  obtain ⟨⟨hline, hparent⟩, ⟨hitem, hid⟩, haccepted, hrejected, hfits⟩ :=
    prepareReceiptLine_ok hprepared
  obtain ⟨⟨balances, transactions, rfl⟩, hstock⟩ := postAccepted_frame hposted
  have hadjusted := adjustOnOrderBalance_ok h
  obtain ⟨balances', rfl⟩ := hadjusted.frame
  refine .line hreceived line received.quantityAccepted received.quantityRejected _ hline
    (hparent.trans horder) (by rw [hitem]; rfl) haccepted hrejected hfits ⟨_, _, _, rfl⟩ ?_
  intro position
  rw [hadjusted.onOrderQty, hstock]
  have hposition : (⟨receipt.organizationId, item.id, line.destinationStoreroomId⟩ :
      StockPosition) = order.positionOf line := by
    rw [horganization, hid]
    rfl
  have hquantity : stockQuantity item (-(received.quantityAccepted + received.quantityRejected))
      line.uom = store.lineQuantity line
        (-(received.quantityAccepted + received.quantityRejected)) := by
    unfold InventoryStore.lineQuantity
    rw [hitem]
    rfl
  rw [hposition, hquantity]
  rfl

theorem LinesReceived.receiveLines {order : PurchaseOrder} {receipt : ReceiptHeader} {index : ℕ}
    {start : InventoryStore} (payloads : List ReceiptPayload)
    (hreceived : LinesReceived order start store) (horder : receipt.purchaseOrderId = order.id)
    (horganization : receipt.organizationId = order.organizationId)
    (h : receiveLines service receipt index payloads store = .ok next) :
    LinesReceived order start next := by
  induction payloads generalizing index store with
  | nil =>
      cases h
      exact hreceived
  | cons payload rest ih =>
      obtain ⟨current, hcurrent, h⟩ := bind_ok h
      exact ih (hreceived.receiveLine horder horganization hcurrent) h

theorem prepareReceipt_ok {arguments : ReceiptArguments}
    {plan : PurchaseOrder × ReceiptHeader}
    (h : prepareReceipt service arguments store = .ok plan) :
    store.orders.get? plan.1.id = some plan.1 ∧
      plan.1.status ∈ [PurchaseOrderStatus.approved, .sent, .partiallyReceived] ∧
      plan.2.purchaseOrderId = plan.1.id ∧ plan.2.organizationId = plan.1.organizationId := by
  obtain ⟨_, -, h⟩ := bind_ok h
  obtain ⟨order, horder, h⟩ := bind_ok h
  obtain ⟨_, hstatus, h⟩ := bind_ok h
  obtain ⟨_, -, h⟩ := bind_ok h
  cases h
  exact ⟨(getPurchaseOrder_ok horder).1, ensure_eq_ok.mp hstatus, rfl, rfl⟩

theorem postReceipt_step {arguments : ReceiptArguments} {plan : PurchaseOrder × ReceiptHeader}
    (hplan : prepareReceipt service arguments store = .ok plan)
    (h : (postReceipt service arguments).body plan store = .ok next) :
    ProcurementStep service adds store next := by
  obtain ⟨hstored, hbefore, horder, horganization⟩ := prepareReceipt_ok hplan
  obtain ⟨inserted, hinserted, h⟩ := bind_ok h
  obtain ⟨received, hreceived, h⟩ := bind_ok h
  cases h
  obtain ⟨_, -, hinserted⟩ := bind_ok hinserted
  cases hinserted
  have hlines : LinesReceived plan.1 store received :=
    .receiveLines _ (.other .refl ⟨_, _, rfl⟩) horder horganization hreceived
  refine .receive _ plan.1 received hstored rfl rfl hbefore hlines ?_
  unfold resolvePurchaseOrderReceivingStatus
  split
  next hprocessed =>
    refine Or.inr ⟨rfl, fun line hline hparent => ?_⟩
    exact (isPurchaseOrderFullyProcessed_iff.mp hprocessed).2 line
      (mem_listForPurchaseOrder.mpr ⟨hline, hparent⟩)
  next => exact Or.inl rfl

end

end ProjectManager
