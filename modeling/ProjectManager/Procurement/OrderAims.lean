import ProjectManager.Procurement.Calls

/-! # Where order lines go and what they draw on

A line names a storeroom at the site of its order, and a line of the requisition that
its order draws on. The lines are checked against the header when they are added, and
no other call touches what the check was about, except an update of the header.
-/

namespace ProjectManager

open Foundation

/-! ## The invariant -/

def ReceivedAt (store : InventoryStore) (siteId : String) (line : PurchaseOrderLine) : Prop :=
  ∃ storeroom ∈ store.storerooms.rows,
    storeroom.id = line.destinationStoreroomId ∧ storeroom.siteId = siteId

def DrawsOn (store : InventoryStore) (requisitionId : String) (line : PurchaseOrderLine) : Prop :=
  ∀ requisitionLineId ∈ line.sourceLineId, ∃ requisitionLine ∈ store.requisitionLines.rows,
    requisitionLine.id = requisitionLineId ∧
      requisitionLine.purchaseRequisitionId = requisitionId

structure AimedBy (store : InventoryStore) (line : PurchaseOrderLine) (order : PurchaseOrder) :
    Prop where
  parent : order.id = line.purchaseOrderId
  received : ReceivedAt store order.siteId line
  source : ∀ requisitionId ∈ order.sourceRequisitionId, requisitionId ≠ "" →
    DrawsOn store requisitionId line

/-- Every line agrees with the header of its order. -/
def LinesAimed (store : InventoryStore) : Prop :=
  ∀ line ∈ store.orderLines.rows, ∃ order ∈ store.orders.rows, AimedBy store line order

instance (store : InventoryStore) (siteId : String) (line : PurchaseOrderLine) :
    Decidable (ReceivedAt store siteId line) :=
  inferInstanceAs (Decidable (∃ _ ∈ _, _))

instance (store : InventoryStore) (requisitionId : String) (line : PurchaseOrderLine) :
    Decidable (DrawsOn store requisitionId line) :=
  inferInstanceAs (Decidable (∀ _ ∈ _, ∃ _ ∈ _, _))

instance (store : InventoryStore) (line : PurchaseOrderLine) (order : PurchaseOrder) :
    Decidable (AimedBy store line order) :=
  decidable_of_iff (order.id = line.purchaseOrderId ∧ ReceivedAt store order.siteId line ∧
      ∀ requisitionId ∈ order.sourceRequisitionId, requisitionId ≠ "" →
        DrawsOn store requisitionId line)
    ⟨fun ⟨hparent, hreceived, hsource⟩ => ⟨hparent, hreceived, hsource⟩,
      fun ⟨hparent, hreceived, hsource⟩ => ⟨hparent, hreceived, hsource⟩⟩

instance (store : InventoryStore) : Decidable (LinesAimed store) :=
  inferInstanceAs (Decidable (∀ _ ∈ _, ∃ _ ∈ _, _))

/-! ## What the invariant is about -/

def PurchaseOrder.header (order : PurchaseOrder) : String × String × Option String :=
  (order.id, order.siteId, order.sourceRequisitionId)

def PurchaseOrderLine.aim (line : PurchaseOrderLine) : String × String × String × Option String :=
  (line.id, line.purchaseOrderId, line.destinationStoreroomId, line.sourceRequisitionLineId)

def PurchaseRequisitionLine.origin (line : PurchaseRequisitionLine) : String × String :=
  (line.id, line.purchaseRequisitionId)

/-- The headers and aims of a store. -/
structure OrderAims where
  headers : List (String × String × Option String)
  aims : List (String × String × String × Option String)
  origins : List (String × String)
  storerooms : Table Storeroom.id

def InventoryStore.orderAims (store : InventoryStore) : OrderAims where
  headers := store.orders.rows.map PurchaseOrder.header
  aims := store.orderLines.rows.map PurchaseOrderLine.aim
  origins := store.requisitionLines.rows.map PurchaseRequisitionLine.origin
  storerooms := store.storerooms

section

variable {store next : InventoryStore}

theorem exists_of_map_eq {α β : Type} {g : α → β} {first second : List α}
    (h : first.map g = second.map g) {row : α} (hrow : row ∈ first) :
    ∃ other ∈ second, g other = g row :=
  List.mem_map.mp (h ▸ List.mem_map_of_mem hrow)

/-- The invariant sees nothing but headers and aims. -/
theorem LinesAimed.congr (haimed : LinesAimed store) (h : next.orderAims = store.orderAims) :
    LinesAimed next := by
  have hheaders : next.orders.rows.map PurchaseOrder.header =
      store.orders.rows.map PurchaseOrder.header := congrArg OrderAims.headers h
  have haims : next.orderLines.rows.map PurchaseOrderLine.aim =
      store.orderLines.rows.map PurchaseOrderLine.aim := congrArg OrderAims.aims h
  have horigins : next.requisitionLines.rows.map PurchaseRequisitionLine.origin =
      store.requisitionLines.rows.map PurchaseRequisitionLine.origin := congrArg OrderAims.origins h
  have hstorerooms : next.storerooms = store.storerooms := congrArg OrderAims.storerooms h
  intro line hline
  obtain ⟨stored, hstored, haim⟩ := exists_of_map_eq haims hline
  obtain ⟨order, horder, hparent, hreceived, hsource⟩ := haimed stored hstored
  obtain ⟨current, hcurrent, hheader⟩ := exists_of_map_eq hheaders.symm horder
  simp only [PurchaseOrderLine.aim, Prod.mk.injEq] at haim
  simp only [PurchaseOrder.header, Prod.mk.injEq] at hheader
  obtain ⟨-, hlineParent, hdestination, hlineSource⟩ := haim
  obtain ⟨hid, hsite, hrequisition⟩ := hheader
  refine ⟨current, hcurrent, hid.trans (hparent.trans hlineParent), ?_, ?_⟩
  · obtain ⟨storeroom, hstoreroom, hnamed, hat⟩ := hreceived
    exact ⟨storeroom, hstorerooms ▸ hstoreroom, hnamed.trans hdestination, hat.trans hsite.symm⟩
  · intro requisitionId hgiven hne requisitionLineId hmem
    have hmemStored : requisitionLineId ∈ stored.sourceLineId := by
      unfold PurchaseOrderLine.sourceLineId at hmem ⊢
      rw [hlineSource]
      exact hmem
    obtain ⟨requisitionLine, hrow, hname, hof⟩ :=
      hsource requisitionId (hrequisition ▸ hgiven) hne requisitionLineId hmemStored
    obtain ⟨other, hother, horigin⟩ := exists_of_map_eq horigins.symm hrow
    obtain ⟨hotherId, hotherOf⟩ := Prod.mk.inj horigin
    exact ⟨other, hother, hotherId.trans hname, hotherOf.trans hof⟩

theorem LinesAimed.mono (h : LinesAimed store) (hlines : next.orderLines = store.orderLines)
    (hstorerooms : next.storerooms = store.storerooms)
    (horders : ∀ order ∈ store.orders.rows, order ∈ next.orders.rows)
    (hrequisitionLines : ∀ line ∈ store.requisitionLines.rows,
      line ∈ next.requisitionLines.rows) : LinesAimed next := by
  intro line hline
  obtain ⟨order, horder, hparent, ⟨storeroom, hstoreroom, hat⟩, hsource⟩ := h line (hlines ▸ hline)
  refine ⟨order, horders order horder, hparent, ⟨storeroom, hstorerooms ▸ hstoreroom, hat⟩, ?_⟩
  intro requisitionId hgiven hne requisitionLineId hmem
  obtain ⟨requisitionLine, hrow, hof⟩ := hsource requisitionId hgiven hne requisitionLineId hmem
  exact ⟨requisitionLine, hrequisitionLines requisitionLine hrow, hof⟩

/-! ## Writes that keep headers and aims -/

theorem orderAims_updateOrder (row : PurchaseOrder) (h : row.header ∈ store.orderAims.headers) :
    ({ store with orders := store.orders.update row } : InventoryStore).orderAims =
      store.orderAims := by
  have hheaders := @Table.map_rows_update_of_mem _ _ PurchaseOrder.id _ store.orders _
    PurchaseOrder.header Prod.fst (fun _ => rfl) row h
  unfold InventoryStore.orderAims
  rw [hheaders]

theorem orderAims_updatePurchaseOrder {order : PurchaseOrder}
    (h : order.header ∈ store.orderAims.headers) :
    (updatePurchaseOrder store order).orderAims = store.orderAims :=
  orderAims_updateOrder { order with version := order.version + 1 } h

theorem orderAims_updateLine {line : PurchaseOrderLine} (h : line.aim ∈ store.orderAims.aims) :
    ({ store with orderLines := store.orderLines.update line } : InventoryStore).orderAims =
      store.orderAims := by
  have haims := @Table.map_rows_update_of_mem _ _ PurchaseOrderLine.id _ store.orderLines _
    PurchaseOrderLine.aim Prod.fst (fun _ => rfl) line h
  unfold InventoryStore.orderAims
  rw [haims]

theorem orderAims_updateRequisitionLine {line : PurchaseRequisitionLine}
    (h : line.origin ∈ store.orderAims.origins) :
    ({ store with
      requisitionLines := store.requisitionLines.update line } : InventoryStore).orderAims =
      store.orderAims := by
  have horigins := @Table.map_rows_update_of_mem _ _ PurchaseRequisitionLine.id _
    store.requisitionLines _ PurchaseRequisitionLine.origin Prod.fst (fun _ => rfl) line h
  unfold InventoryStore.orderAims
  rw [horigins]

theorem orderAims_setOrderLineStatus (purchaseOrderId : String)
    (status : PurchaseOrderLineStatus) :
    (setOrderLineStatus store purchaseOrderId status).orderAims = store.orderAims := by
  have haims : (setOrderLineStatus store purchaseOrderId status).orderLines.rows.map
      PurchaseOrderLine.aim = store.orderLines.rows.map PurchaseOrderLine.aim := by
    refine Table.map_rows_mapRows _ (fun line => ?_) fun line => ?_ <;> split <;> rfl
  unfold InventoryStore.orderAims
  rw [haims]
  rfl

theorem orderAims_setRequisitionLineStatus (requisitionId : String)
    (status : PurchaseRequisitionLineStatus) :
    (setRequisitionLineStatus store requisitionId status).orderAims = store.orderAims := by
  have horigins : (setRequisitionLineStatus store requisitionId status).requisitionLines.rows.map
      PurchaseRequisitionLine.origin =
      store.requisitionLines.rows.map PurchaseRequisitionLine.origin := by
    refine Table.map_rows_mapRows _ (fun line => ?_) fun line => ?_ <;> split <;> rfl
  unfold InventoryStore.orderAims
  rw [horigins]
  rfl

theorem header_mem {order : PurchaseOrder} (h : order ∈ store.orders.rows) :
    order.header ∈ store.orderAims.headers :=
  List.mem_map_of_mem h

theorem aim_mem {line : PurchaseOrderLine} (h : line ∈ store.orderLines.rows) :
    line.aim ∈ store.orderAims.aims :=
  List.mem_map_of_mem h

theorem origin_mem {line : PurchaseRequisitionLine} (h : line ∈ store.requisitionLines.rows) :
    line.origin ∈ store.orderAims.origins :=
  List.mem_map_of_mem h

theorem LinesReceived.orderAims {order : PurchaseOrder} (h : LinesReceived order store next) :
    next.orderAims = store.orderAims := by
  induction h with
  | refl => rfl
  | other h hframe ih =>
      obtain ⟨receipts, receiptLines, rfl⟩ := hframe
      exact ih
  | @line current next h stored accepted rejected status hstored horder hitem haccepted hrejected
      hfits hframe honOrder ih =>
      obtain ⟨balances, transactions, receiptLines, rfl⟩ := hframe
      have haim : stored.aim ∈ current.orderAims.aims :=
        aim_mem (Table.get?_eq_some_iff.mp hstored).1
      let counted : PurchaseOrderLine := { stored with
        quantityReceived := stored.quantityReceived + accepted
        quantityRejected := stored.quantityRejected + rejected
        status := status }
      exact (@orderAims_updateLine current counted haim).trans ih

end

end ProjectManager
