import ProjectManager.Procurement.Calls

/-! # The on-order quantity

What a balance has on order is what is outstanding on the lines of the orders
that are open for receiving. The approval of an order counts its lines, each
receipt takes off what it accepts or rejects, and nothing else moves.
-/

namespace ProjectManager

open Foundation

/-- Open for receiving. -/
def PurchaseOrder.IsOnOrder (order : PurchaseOrder) : Prop :=
  order.status ∈ [PurchaseOrderStatus.approved, .sent, .partiallyReceived]

instance (order : PurchaseOrder) : Decidable order.IsOnOrder :=
  inferInstanceAs (Decidable (_ ∈ _))

def PurchaseOrder.IsUndecided (order : PurchaseOrder) : Prop :=
  order.status ∈ [PurchaseOrderStatus.draft, .submitted, .underReview]

def outstandingAt (store : InventoryStore) (position : StockPosition) (order : PurchaseOrder)
    (line : PurchaseOrderLine) : ℚ :=
  if order.IsOnOrder ∧ order.positionOf line = position then
    store.lineQuantity line (line.quantityOrdered - line.quantityReceived - line.quantityRejected)
  else 0

def outstanding (store : InventoryStore) (position : StockPosition) : ℚ :=
  store.orderLines.sumRefs store.orders PurchaseOrderLine.purchaseOrderId
    (outstandingAt store position)

/-- No more of a line was received and rejected than was ordered. -/
def PurchaseOrderLine.Within (line : PurchaseOrderLine) : Prop :=
  0 ≤ line.quantityReceived ∧ 0 ≤ line.quantityRejected ∧
    line.quantityReceived + line.quantityRejected ≤ line.quantityOrdered

instance (line : PurchaseOrderLine) : Decidable line.Within :=
  inferInstanceAs (Decidable (_ ∧ _ ∧ _))

/-- The balances agree with the orders, and the orders with their lines. -/
structure OrdersAgree (store : InventoryStore) : Prop where
  onOrderQty : ∀ position, (store.balanceAt position).onOrderQty = outstanding store position
  within : ∀ line ∈ store.orderLines.rows, line.Within
  processed : ∀ order ∈ store.orders.rows,
    order.status ∈ [PurchaseOrderStatus.fullyReceived, .closed] →
      ∀ line ∈ store.orderLines.rows, line.purchaseOrderId = order.id →
        line.quantityReceived + line.quantityRejected = line.quantityOrdered

/-- What carries the agreement from call to call. -/
structure OrdersInvariant (store : InventoryStore) : Prop extends OrdersAgree store where
  parents : ∀ line ∈ store.orderLines.rows, line.purchaseOrderId ∈ store.orders.ids
  unreceived : ∀ line ∈ store.orderLines.rows, ∀ order ∈ store.orders.rows,
    line.purchaseOrderId = order.id → order.IsUndecided →
      line.quantityReceived = 0 ∧ line.quantityRejected = 0

section

variable {store next : InventoryStore}

@[simp] theorem lineQuantity_zero (store : InventoryStore) (line : PurchaseOrderLine) :
    store.lineQuantity line 0 = 0 := by
  unfold InventoryStore.lineQuantity
  cases store.items.get? line.stockItemId with
  | none => rfl
  | some item => exact stockQuantity_zero item line.uom

theorem lineQuantity_sub (store : InventoryStore) (line : PurchaseOrderLine) (first second : ℚ) :
    store.lineQuantity line (first - second) =
      store.lineQuantity line first - store.lineQuantity line second := by
  unfold InventoryStore.lineQuantity
  cases store.items.get? line.stockItemId with
  | none => exact (sub_zero 0).symm
  | some item => exact stockQuantity_sub item first second line.uom

theorem outstandingAt_of_not_isOnOrder {order : PurchaseOrder} (h : ¬ order.IsOnOrder)
    (position : StockPosition) (line : PurchaseOrderLine) :
    outstandingAt store position order line = 0 :=
  if_neg fun hboth => h hboth.1

theorem outstandingAt_of_processed {line : PurchaseOrderLine}
    (h : line.quantityReceived + line.quantityRejected = line.quantityOrdered)
    (position : StockPosition) (order : PurchaseOrder) :
    outstandingAt store position order line = 0 := by
  unfold outstandingAt
  rw [sub_sub, h, sub_self, lineQuantity_zero, ite_self]

theorem processed_of_outstanding_le {line : PurchaseOrderLine} (hwithin : line.Within)
    (h : lineOutstandingQty line ≤ 0) :
    line.quantityReceived + line.quantityRejected = line.quantityOrdered := by
  have hle := le_of_max_le_right h
  have hge := hwithin.2.2
  linarith

theorem not_isOnOrder_of_isUndecided {order : PurchaseOrder} (h : order.IsUndecided) :
    ¬ order.IsOnOrder := by
  unfold PurchaseOrder.IsUndecided at h
  unfold PurchaseOrder.IsOnOrder
  revert h
  cases order.status <;> decide

theorem not_isOnOrder_of_processed {order : PurchaseOrder}
    (h : order.status ∈ [PurchaseOrderStatus.fullyReceived, .closed]) : ¬ order.IsOnOrder := by
  unfold PurchaseOrder.IsOnOrder
  revert h
  cases order.status <;> decide

theorem OrdersInvariant.updateOrder {order stored : PurchaseOrder} (h : OrdersInvariant store)
    (hstored : store.orders.get? order.id = some stored)
    (hcount : ∀ line ∈ store.orderLines.rows, line.purchaseOrderId = order.id →
      ∀ position, outstandingAt store position order line =
        outstandingAt store position stored line)
    (hprocessed : order.status ∈ [PurchaseOrderStatus.fullyReceived, .closed] →
      ∀ line ∈ store.orderLines.rows, line.purchaseOrderId = order.id →
        line.quantityReceived + line.quantityRejected = line.quantityOrdered)
    (hundecided : order.IsUndecided → stored.IsUndecided) :
    OrdersInvariant
      { store with
        orders := store.orders.update order } := by
  obtain ⟨hmem, hid⟩ := Table.get?_eq_some_iff.mp hstored
  constructor
  · constructor
    · intro position
      refine (h.onOrderQty position).trans (Eq.symm ?_)
      exact Table.sumRefs_update_parent_of_eq hstored fun line hline horder =>
        hcount line hline horder position
    · exact h.within
    · intro other hother hstatus line hline hparent
      rcases Table.mem_update_iff.mp hother with ⟨rfl, -⟩ | ⟨hother, -⟩
      · exact hprocessed hstatus line hline hparent
      · exact h.processed other hother hstatus line hline hparent
  · intro line hline
    change _ ∈ (store.orders.update order).ids
    rw [Table.ids_update]
    exact h.parents line hline
  · intro line hline other hother hparent hstatus
    rcases Table.mem_update_iff.mp hother with ⟨rfl, -⟩ | ⟨hother, -⟩
    · exact h.unreceived line hline stored hmem (hparent.trans hid.symm) (hundecided hstatus)
    · exact h.unreceived line hline other hother hparent hstatus

/-- Lines that differ in their status only. -/
theorem OrdersInvariant.relabelLines {lines : Table PurchaseOrderLine.id}
    (h : OrdersInvariant store)
    (hlines : lines.rows.map PurchaseOrderLine.bare =
      store.orderLines.rows.map PurchaseOrderLine.bare) :
    OrdersInvariant
      { store with
        orderLines := lines } := by
  constructor
  · constructor
    · intro position
      refine (h.onOrderQty position).trans (Eq.symm ?_)
      exact Table.sum_eq_of_map_eq hlines fun _ => rfl
    · exact Table.forall_of_map_eq hlines (fun _ => Iff.rfl) h.within
    · intro order horder hstatus
      exact Table.forall_of_map_eq hlines (fun _ => Iff.rfl) (h.processed order horder hstatus)
  · exact Table.forall_of_map_eq hlines (fun _ => Iff.rfl) h.parents
  · exact Table.forall_of_map_eq hlines (fun _ => Iff.rfl) h.unreceived

/-! ## Receiving -/

theorem outstanding_updateLine {order : PurchaseOrder} {line : PurchaseOrderLine}
    (row : PurchaseOrderLine) (hline : store.orderLines.get? row.id = some line)
    (hparent : row.purchaseOrderId = line.purchaseOrderId)
    (horder : store.orders.get? line.purchaseOrderId = some order) (position : StockPosition) :
    (store.orderLines.update row).sumRefs store.orders PurchaseOrderLine.purchaseOrderId
        (outstandingAt store position) =
      outstanding store position - outstandingAt store position order line +
        outstandingAt store position order row :=
  Table.sumRefs_update_child hline hparent horder

theorem OrdersInvariant.receiveLine {order : PurchaseOrder} {line : PurchaseOrderLine}
    {accepted rejected : ℚ} {status : PurchaseOrderLineStatus} (h : OrdersInvariant store)
    (hline : store.orderLines.get? line.id = some line)
    (horder : store.orders.get? line.purchaseOrderId = some order) (hopen : order.IsOnOrder)
    (haccepted : 0 ≤ accepted) (hrejected : 0 ≤ rejected)
    (hfits : line.quantityReceived + accepted + (line.quantityRejected + rejected) ≤
      line.quantityOrdered)
    (hframe : ∃ balances transactions receiptLines, next =
      { store with
        balances := balances
        transactions := transactions
        receiptLines := receiptLines
        orderLines := store.orderLines.update { line with
          quantityReceived := line.quantityReceived + accepted
          quantityRejected := line.quantityRejected + rejected
          status := status } })
    (honOrder : ∀ position, (next.balanceAt position).onOrderQty =
      (store.balanceAt position).onOrderQty +
        if position = order.positionOf line then
          store.lineQuantity line (-(accepted + rejected))
        else 0) : OrdersInvariant next := by
  obtain ⟨hmem, -⟩ := Table.get?_eq_some_iff.mp hline
  obtain ⟨horderMem, horderId⟩ := Table.get?_eq_some_iff.mp horder
  obtain ⟨balances, transactions, receiptLines, rfl⟩ := hframe
  constructor
  · constructor
    · intro position
      rw [honOrder, h.onOrderQty]
      refine Eq.trans ?_ (outstanding_updateLine { line with
        quantityReceived := line.quantityReceived + accepted
        quantityRejected := line.quantityRejected + rejected
        status := status } hline rfl horder position).symm
      rw [sub_add_eq_add_sub, add_sub_assoc]
      congr 1
      unfold outstandingAt
      by_cases hat : order.positionOf line = position
      · rw [if_pos hat.symm, if_pos ⟨hopen, hat⟩, if_pos ⟨hopen, hat⟩]
        refine Eq.trans ?_ (lineQuantity_sub store line _ _)
        congr 1
        simp only
        ring
      · rw [if_neg (Ne.symm hat), if_neg fun hboth => hat hboth.2, if_neg fun hboth => hat hboth.2,
          sub_zero]
    · intro other hother
      rcases Table.mem_update_iff.mp hother with ⟨rfl, -⟩ | ⟨hother, -⟩
      · obtain ⟨hfirst, hsecond, -⟩ := h.within line hmem
        exact ⟨add_nonneg hfirst haccepted, add_nonneg hsecond hrejected, hfits⟩
      · exact h.within other hother
    · intro other hother hstatus child hchild hparent
      rcases Table.mem_update_iff.mp hchild with ⟨rfl, -⟩ | ⟨hchild, -⟩
      · -- The order of the line is open, so it is none of these.
        obtain rfl := store.orders.eq_of_key_eq hother horderMem (hparent.symm.trans horderId.symm)
        exact absurd hopen (not_isOnOrder_of_processed hstatus)
      · exact h.processed other hother hstatus child hchild hparent
  · intro other hother
    rcases Table.mem_update_iff.mp hother with ⟨rfl, -⟩ | ⟨hother, -⟩
    · exact h.parents line hmem
    · exact h.parents other hother
  · intro child hchild other hother hparent hstatus
    rcases Table.mem_update_iff.mp hchild with ⟨rfl, -⟩ | ⟨hchild, -⟩
    · obtain rfl := store.orders.eq_of_key_eq hother horderMem (hparent.symm.trans horderId.symm)
      exact absurd hopen (not_isOnOrder_of_isUndecided hstatus)
    · exact h.unreceived child hchild other hother hparent hstatus

theorem LinesReceived.orders {order : PurchaseOrder} (h : LinesReceived order store next) :
    next.orders = store.orders := by
  induction h with
  | refl => rfl
  | other _ hframe ih =>
      obtain ⟨_, _, rfl⟩ := hframe
      exact ih
  | line _ _ _ _ _ _ _ _ _ _ _ hframe _ ih =>
      obtain ⟨_, _, _, rfl⟩ := hframe
      exact ih

theorem LinesReceived.ordersInvariant {order : PurchaseOrder}
    (hreceived : LinesReceived order store next)
    (horder : store.orders.get? order.id = some order) (hopen : order.IsOnOrder)
    (h : OrdersInvariant store) : OrdersInvariant next := by
  induction hreceived with
  | refl => exact h
  | other hprevious hframe ih =>
      obtain ⟨_, _, rfl⟩ := hframe
      exact ⟨⟨ih.onOrderQty, ih.within, ih.processed⟩, ih.parents, ih.unreceived⟩
  | line hprevious stored accepted rejected status hstored hparent _ haccepted hrejected hfits
      hframe honOrder ih =>
      refine ih.receiveLine hstored ?_ hopen haccepted hrejected hfits hframe honOrder
      rw [hprevious.orders, hparent]
      exact horder

theorem sum_outstandingAt_opened {order stored : PurchaseOrder} (h : OrdersInvariant store)
    (hstored : stored ∈ store.orders.rows) (hid : order.id = stored.id)
    (hundecided : stored.IsUndecided) (hopen : order.IsOnOrder) (position : StockPosition) :
    ((store.orderLines.rows.filter fun line => line.purchaseOrderId = order.id).map fun line =>
        outstandingAt store position order line - outstandingAt store position stored line).sum =
      store.orderedAt order (listForPurchaseOrder store order.id) position := by
  have hperm : (listForPurchaseOrder store order.id).Perm
      (store.orderLines.rows.filter fun line => line.purchaseOrderId = order.id) :=
    List.perm_insertionSort _ _
  unfold InventoryStore.orderedAt
  rw [(hperm.map _).sum_eq]
  refine congrArg List.sum (List.map_congr_left fun line hline => ?_)
  obtain ⟨hline, hparent⟩ := List.mem_filter.mp hline
  have hparent := of_decide_eq_true hparent
  obtain ⟨hreceived, hrejected⟩ :=
    h.unreceived line hline stored hstored (hparent.trans hid) hundecided
  rw [outstandingAt_of_not_isOnOrder (not_isOnOrder_of_isUndecided hundecided), sub_zero]
  unfold outstandingAt
  rw [hreceived, hrejected, sub_zero, sub_zero]
  simp only [hopen, true_and]

theorem OrderApproved.ordersInvariant {service : InventoryService} {order stored : PurchaseOrder}
    (happroved : OrderApproved service store order next) (h : OrdersInvariant store)
    (hstored : store.orders.get? order.id = some stored)
    (hbefore : stored.status ∈ [PurchaseOrderStatus.submitted, .underReview])
    (horder : order = { stored with status := .approved }) : OrdersInvariant next := by
  obtain ⟨hmem, hid⟩ := Table.get?_eq_some_iff.mp hstored
  have hundecided : stored.IsUndecided := List.mem_cons_of_mem _ hbefore
  have hopen : order.IsOnOrder := by
    rw [horder]
    exact List.mem_cons_self
  obtain ⟨balances, requisitions, requisitionLines, orderLines, rfl⟩ := happroved.frame
  have hlines := happroved.orderLines
  let row : PurchaseOrder := { order with version := order.version + 1 }
  constructor
  · constructor
    · intro position
      rw [happroved.onOrder, h.onOrderQty]
      refine Eq.symm ((Table.sum_eq_of_map_eq hlines fun _ => rfl).trans ?_)
      refine (Table.sumRefs_update_parent (f := outstandingAt store position)
        (show store.orders.get? row.id = some stored from hstored)).trans ?_
      exact congrArg (outstanding store position + ·)
        (sum_outstandingAt_opened h hmem (show row.id = _ from hid.symm) hundecided hopen position)
    · exact Table.forall_of_map_eq hlines (fun _ => Iff.rfl) h.within
    · intro other hother hstatus
      rcases Table.mem_update_iff.mp hother with ⟨rfl, -⟩ | ⟨hother, -⟩
      · exact absurd hopen (not_isOnOrder_of_processed hstatus)
      · exact Table.forall_of_map_eq hlines (fun _ => Iff.rfl) (h.processed other hother hstatus)
  · refine Table.forall_of_map_eq hlines (fun _ => Iff.rfl) ?_
    intro line hline
    rw [Table.ids_update]
    exact h.parents line hline
  · refine Table.forall_of_map_eq hlines (fun _ => Iff.rfl) ?_
    intro line hline other hother hparent hstatus
    rcases Table.mem_update_iff.mp hother with ⟨rfl, -⟩ | ⟨hother, -⟩
    · exact absurd hopen (not_isOnOrder_of_isUndecided hstatus)
    · exact h.unreceived line hline other hother hparent hstatus

/-! ## Steps and runs -/

theorem OrdersInvariant.draftOrder {order : PurchaseOrder} (h : OrdersInvariant store)
    (hfresh : order.id ∉ store.orders.ids) (hdraft : order.status = .draft) :
    OrdersInvariant
      { store with
        orders := store.orders.insert order } := by
  have hunreferred : ∀ line ∈ store.orderLines.rows, line.purchaseOrderId ≠ order.id :=
    fun line hline hparent => hfresh (hparent ▸ h.parents line hline)
  constructor
  · constructor
    · intro position
      refine (h.onOrderQty position).trans (Eq.symm ?_)
      exact Table.sumRefs_insert_parent hfresh fun line hline hparent =>
        absurd hparent (hunreferred line hline)
    · exact h.within
    · intro other hother hstatus line hline hparent
      rcases Table.mem_insert hother with rfl | hother
      · exact absurd hparent (hunreferred line hline)
      · exact h.processed other hother hstatus line hline hparent
  · intro line hline
    change _ ∈ (store.orders.insert order).rows.map PurchaseOrder.id
    rw [Table.rows_insert hfresh]
    exact List.mem_cons_of_mem _ (h.parents line hline)
  · intro line hline other hother hparent hstatus
    rcases Table.mem_insert hother with rfl | hother
    · exact absurd hparent (hunreferred line hline)
    · exact h.unreceived line hline other hother hparent hstatus

theorem OrdersInvariant.addOrderLine {line : PurchaseOrderLine} {order : PurchaseOrder}
    (h : OrdersInvariant store)
    (horder : store.orders.get? line.purchaseOrderId = some order) (hdraft : order.status = .draft)
    (hfresh : line.id ∉ store.orderLines.ids) (hreceived : line.quantityReceived = 0)
    (hrejected : line.quantityRejected = 0) (hordered : 0 < line.quantityOrdered) :
    OrdersInvariant
      { store with
        orderLines := store.orderLines.insert line } := by
  obtain ⟨hmem, hid⟩ := Table.get?_eq_some_iff.mp horder
  have hundecided : order.IsUndecided := by
    rw [PurchaseOrder.IsUndecided, hdraft]
    exact List.mem_cons_self
  constructor
  · constructor
    · intro position
      refine (h.onOrderQty position).trans (Eq.symm ?_)
      refine Table.sumRefs_insert_child hfresh fun parent hparent => ?_
      rw [horder] at hparent
      obtain rfl := Option.some.inj hparent
      exact outstandingAt_of_not_isOnOrder (not_isOnOrder_of_isUndecided hundecided) position line
    · intro other hother
      rcases Table.mem_insert hother with rfl | hother
      · unfold PurchaseOrderLine.Within
        rw [hreceived, hrejected, add_zero]
        exact ⟨le_refl 0, le_refl 0, hordered.le⟩
      · exact h.within other hother
    · intro other hother hstatus child hchild hparent
      rcases Table.mem_insert hchild with rfl | hchild
      · obtain rfl := store.orders.eq_of_key_eq hother hmem (hparent.symm.trans hid.symm)
        rw [hdraft] at hstatus
        exact absurd hstatus (by decide)
      · exact h.processed other hother hstatus child hchild hparent
  · intro other hother
    rcases Table.mem_insert hother with rfl | hother
    · exact hid ▸ store.orders.mem_ids hmem
    · exact h.parents other hother
  · intro child hchild other hother hparent hstatus
    rcases Table.mem_insert hchild with rfl | hchild
    · exact ⟨hreceived, hrejected⟩
    · exact h.unreceived child hchild other hother hparent hstatus

/-- Both count, or neither does. -/
theorem outstandingAt_congr {order stored : PurchaseOrder}
    (horganization : order.organizationId = stored.organizationId)
    (hopen : order.IsOnOrder ↔ stored.IsOnOrder) (position : StockPosition)
    (line : PurchaseOrderLine) :
    outstandingAt store position order line = outstandingAt store position stored line := by
  unfold outstandingAt PurchaseOrder.positionOf
  rw [horganization]
  simp only [hopen]

theorem ProcurementStep.ordersInvariant {service : InventoryService}
    {adds : PurchaseOrderLine → Prop} (hstep : ProcurementStep service adds store next) (h : OrdersInvariant store) :
    OrdersInvariant next := by
  cases hstep with
  | draftRequisition => exact ⟨⟨h.onOrderQty, h.within, h.processed⟩, h.parents, h.unreceived⟩
  | addRequisitionLine => exact ⟨⟨h.onOrderQty, h.within, h.processed⟩, h.parents, h.unreceived⟩
  | moveRequisition => exact ⟨⟨h.onOrderQty, h.within, h.processed⟩, h.parents, h.unreceived⟩
  | draftOrder order hfresh hdraft => exact h.draftOrder hfresh hdraft
  | addOrderLine line order item horder hdraft hfresh _ _ hreceived hrejected hordered =>
      exact h.addOrderLine horder hdraft hfresh hreceived hrejected hordered
  | moveOrder order stored hstored horganization hbefore hafter _ lines hlines =>
      have hcounted : ¬ order.IsOnOrder := by
        unfold PurchaseOrder.IsOnOrder
        revert hafter
        cases order.status <;> decide
      have hupdated : OrdersInvariant
          { store with
            orders := store.orders.update order } := by
        refine h.updateOrder hstored ?_ ?_ fun _ => hbefore
        · intro line _ _ position
          exact outstandingAt_congr horganization
            (iff_of_false hcounted (not_isOnOrder_of_isUndecided hbefore)) position line
        · intro hstatus
          revert hstatus hafter
          cases order.status <;> simp
      exact hupdated.relabelLines hlines
  | sendOrder order stored hstored horganization _ hbefore hafter =>
      refine h.updateOrder hstored ?_ ?_ ?_
      · intro line _ _ position
        refine outstandingAt_congr horganization (iff_of_true ?_ ?_) position line
        · rw [PurchaseOrder.IsOnOrder, hafter]
          decide
        · exact List.mem_append_left [PurchaseOrderStatus.partiallyReceived] hbefore
      · rw [hafter]
        intro hstatus
        exact absurd hstatus (by decide)
      · rw [PurchaseOrder.IsUndecided, hafter]
        intro hstatus
        exact absurd hstatus (by decide)
  | closeOrder order stored hstored _ _ _ hafter hprocessed =>
      have hlines : ∀ line ∈ store.orderLines.rows, line.purchaseOrderId = order.id →
          line.quantityReceived + line.quantityRejected = line.quantityOrdered :=
        fun line hline hparent =>
          processed_of_outstanding_le (h.within line hline) (hprocessed line hline hparent)
      refine h.updateOrder hstored ?_ (fun _ => hlines) ?_
      · intro line hline hparent position
        rw [outstandingAt_of_processed (hlines line hline hparent),
          outstandingAt_of_processed (hlines line hline hparent)]
      · rw [PurchaseOrder.IsUndecided, hafter]
        intro hstatus
        exact absurd hstatus (by decide)
  | receive order stored received hstored horganization _ hbefore hreceived hafter =>
      have hid : stored.id = order.id := (Table.get?_eq_some_iff.mp hstored).2
      have hlines := hreceived.ordersInvariant (hid ▸ hstored) hbefore h
      have hfound : received.orders.get? order.id = some stored := by
        rw [hreceived.orders]
        exact hstored
      rcases hafter with hpartly | ⟨hfully, hprocessed⟩
      · refine hlines.updateOrder hfound ?_ ?_ ?_
        · intro line _ _ position
          refine outstandingAt_congr horganization (iff_of_true ?_ hbefore) position line
          rw [PurchaseOrder.IsOnOrder, hpartly]
          decide
        · rw [hpartly]
          intro hstatus
          exact absurd hstatus (by decide)
        · rw [PurchaseOrder.IsUndecided, hpartly]
          intro hstatus
          exact absurd hstatus (by decide)
      · have hrows : ∀ line ∈ received.orderLines.rows, line.purchaseOrderId = order.id →
            line.quantityReceived + line.quantityRejected = line.quantityOrdered :=
          fun line hline hparent =>
            processed_of_outstanding_le (hlines.within line hline) (hprocessed line hline hparent)
        refine hlines.updateOrder hfound ?_ (fun _ => hrows) ?_
        · intro line hline hparent position
          rw [outstandingAt_of_processed (hrows line hline hparent),
            outstandingAt_of_processed (hrows line hline hparent)]
        · rw [PurchaseOrder.IsUndecided, hfully]
          intro hstatus
          exact absurd hstatus (by decide)
  | approveOrder order stored _ hstored hbefore horder happroved =>
      exact happroved.ordersInvariant h hstored hbefore horder

end

/-- Nothing was ordered yet. -/
structure NoOrders (store : InventoryStore) : Prop where
  orders : store.orders.rows = []
  orderLines : store.orderLines.rows = []
  onOrderQty : ∀ position, (store.balanceAt position).onOrderQty = 0

theorem NoOrders.ordersInvariant {store : InventoryStore} (h : NoOrders store) :
    OrdersInvariant store := by
  have hlines : ∀ line, line ∉ store.orderLines.rows := by
    rw [h.orderLines]
    exact fun line => List.not_mem_nil
  constructor
  · constructor
    · intro position
      rw [h.onOrderQty]
      exact (Table.sum_eq_zero fun line hline => absurd hline (hlines line)).symm
    · exact fun line hline => absurd hline (hlines line)
    · exact fun _ _ _ line hline => absurd hline (hlines line)
  · exact fun line hline => absurd hline (hlines line)
  · exact fun line hline => absurd hline (hlines line)

/-- No call is waiting to be committed, and the orders agree. -/
def OrdersSettled (session : Session PlatformStore) : Prop :=
  ∃ store, session = .clean store ∧ store.addedBalances = [] ∧ OrdersInvariant store.inventory

theorem runProcurementCall_ordersSettled (session : Session PlatformStore)
    (call : InventoryService × ProcurementCall) (hfits : ProcurementCall.Fits session call)
    (h : OrdersSettled session) : OrdersSettled (runProcurementCall call session).2 := by
  obtain ⟨store, rfl, hsettled, hinvariant⟩ := h
  obtain ⟨state, hstate, hproceeds⟩ := runProcurementCall_proceeds hsettled hfits
  refine ⟨state, hstate, hproceeds.settled, ?_⟩
  rcases hproceeds.inventory with hsame | hstep
  · rw [hsame]
    exact hinvariant
  · exact hstep.ordersInvariant hinvariant

/-- In every run whose approvals meet orders that fit, the balances agree with the orders. -/
theorem procurementRun_ordersAgree (calls : List (InventoryService × ProcurementCall))
    (store : PlatformStore) (hsettled : store.addedBalances = [])
    (hnone : NoOrders store.inventory)
    (hfits : EachCall runProcurementCall ProcurementCall.Fits (.clean store) calls) :
    OrdersAgree (sessionAfter runProcurementCall (.clean store) calls).committed.inventory := by
  obtain ⟨last, hlast, -, hinvariant⟩ := sessionAfter_invariant runProcurementCall_ordersSettled
    calls hfits ⟨store, rfl, hsettled, hnone.ordersInvariant⟩
  rw [hlast]
  exact hinvariant.toOrdersAgree

/-- Ten bolts are ordered for a requisition, and six of them arrive. -/
def boltDelivery : List (InventoryService × ProcurementCall) :=
  boltRequisition ++ [approveBolts "0", boltOrder "1", boltOrderLine "1" "a" 10 (some "need1"),
    submitBoltOrder "1", approveBolts "1", (inventoryAdmin, .sendPurchaseOrder "order1"),
    (inventoryAdmin, .postReceipt
      { purchaseOrderId := "order1", receiptDate := 1, receiptId := "receipt"
        generatedNumber := "1"
        receiptLines := [{ purchaseOrderLineId := "line1a", quantityAccepted := 6
                           receiptLineId := "receipt1", ids := boltIds "1"
                           onOrderBalanceId := "" }] })]

theorem boltYard_noOrders : NoOrders boltYard.inventory :=
  ⟨rfl, rfl, fun _ => rfl⟩

theorem procurementRun_ordersAgree_bolts :
    OrdersAgree
      (sessionAfter runProcurementCall (.clean boltYard) boltDelivery).committed.inventory :=
  procurementRun_ordersAgree boltDelivery boltYard rfl boltYard_noOrders (by decide +kernel)

/-- The second order asks again for the bolts of the requisition. Its approval raises at the
first line and leaves the order open; whatever is committed next commits it too, with the five
bolts of its second line uncounted. -/
def boltOversourcing : List (InventoryService × ProcurementCall) :=
  boltRequisition ++ [approveBolts "0", boltOrder "1", boltOrderLine "1" "a" 10 (some "need1"),
    submitBoltOrder "1", boltOrder "2", boltOrderLine "2" "a" 10 (some "need1"),
    boltOrderLine "2" "b" 5 none, submitBoltOrder "2", approveBolts "1", approveBolts "2",
    boltOrder "3"]

theorem not_ordersAgree_bolts :
    ¬ OrdersAgree
      (sessionAfter runProcurementCall (.clean boltYard) boltOversourcing).committed.inventory := by
  intro h
  have hquantity := h.onOrderQty ⟨"org", "bolt", "main"⟩
  revert hquantity
  decide +kernel

end ProjectManager
