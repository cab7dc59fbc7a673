import ProjectManager.Procurement.OrderApproval

/-! # What an approval does

The loop over the lines is followed by two prefixes of them: those counted on
order and those that sourced their requisition line. Each iteration either goes
through and extends both, or raises because the line does not fit.
-/

namespace ProjectManager

open Foundation

/-- An order line without its status. -/
def PurchaseOrderLine.bare (line : PurchaseOrderLine) : PurchaseOrderLine :=
  { line with status := .draft }

/-- The on-order quantity of the balances at a position that no query sees yet. -/
def PlatformStore.addedAt (store : PlatformStore) (position : StockPosition) : ℚ :=
  (store.addedBalances.map fun balance =>
    if balance.position = position then balance.onOrderQty else 0).sum

/-- The store on the way through the approval of an order. -/
structure Approving (start : PlatformStore) (order : PurchaseOrder)
    (counted sourced : List PurchaseOrderLine) (current : PlatformStore) : Prop where
  frame : ∃ balances requisitionLines orderLines addedBalances, current =
    { start with
      inventory := { start.inventory with
        balances := balances
        requisitionLines := requisitionLines
        orderLines := orderLines }
      addedBalances := addedBalances }
  orderLines : current.inventory.orderLines.rows.map PurchaseOrderLine.bare =
    start.inventory.orderLines.rows.map PurchaseOrderLine.bare
  balances : ∀ position,
    (current.inventory.balances.get? position).map StockBalance.onOrderQty =
      (start.inventory.balances.get? position).map fun balance =>
        balance.onOrderQty + start.inventory.orderedAt order counted position
  added : ∀ position, current.addedAt position = start.addedAt position +
    if (start.inventory.balances.get? position).isNone then
      start.inventory.orderedAt order counted position
    else 0
  requisitionLines : current.inventory.requisitionLines.rows =
    start.inventory.requisitionLines.rows.map (start.inventory.sourcedBy sourced)

section

variable {start : PlatformStore} {order : PurchaseOrder} {counted sourced : List PurchaseOrderLine}
  {current : PlatformStore} {line : PurchaseOrderLine}

theorem Approving.refl (start : PlatformStore) (order : PurchaseOrder) :
    Approving start order [] [] start where
  frame := ⟨_, _, _, _, rfl⟩
  orderLines := rfl
  balances position := by
    simp only [InventoryStore.orderedAt, List.map_nil, List.sum_nil, add_zero]
  added position := by
    simp only [InventoryStore.orderedAt, List.map_nil, List.sum_nil, ite_self, add_zero]
  requisitionLines := (List.map_id _).symm

theorem Approving.items (h : Approving start order counted sourced current) :
    current.inventory.items = start.inventory.items := by
  obtain ⟨_, _, _, _, rfl⟩ := h.frame
  rfl

theorem Approving.orders (h : Approving start order counted sourced current) :
    current.inventory.orders = start.inventory.orders := by
  obtain ⟨_, _, _, _, rfl⟩ := h.frame
  rfl

theorem Approving.get?_requisitionLines (h : Approving start order counted sourced current)
    (id : String) : current.inventory.requisitionLines.get? id =
      (start.inventory.requisitionLines.get? id).map (start.inventory.sourcedBy sourced) :=
  Table.get?_of_rows_map (sourcedBy_id sourced) h.requisitionLines id

/-- Writing a line with another status. -/
theorem bare_update {table next : Table PurchaseOrderLine.id} {row : PurchaseOrderLine}
    (h : next.rows.map PurchaseOrderLine.bare = table.rows.map PurchaseOrderLine.bare)
    (hline : line ∈ table.rows) (hrow : row.bare = line.bare) :
    (next.update row).rows.map PurchaseOrderLine.bare = table.rows.map PurchaseOrderLine.bare := by
  have hid : row.id = line.id := congrArg (·.id) hrow
  rw [← h]
  change (next.rows.map _).map _ = _
  rw [List.map_map]
  apply List.map_congr_left
  intro old hold
  by_cases hsame : old.id = row.id
  · have hmem : old.bare ∈ table.rows.map PurchaseOrderLine.bare := h ▸ List.mem_map_of_mem hold
    obtain ⟨stored, hstored, hbare⟩ := List.mem_map.mp hmem
    have hstoredId : stored.id = old.id := congrArg (·.id) hbare
    obtain rfl := table.eq_of_key_eq hstored hline (hstoredId.trans (hsame.trans hid))
    simp only [Function.comp_apply, if_pos hsame, hrow, hbare]
  · simp only [Function.comp_apply, if_neg hsame]

theorem Approving.openLine (h : Approving start order counted sourced current)
    (hline : line ∈ start.inventory.orderLines.rows) (status : PurchaseOrderLineStatus) :
    Approving start order counted sourced
      { current with
        inventory := { current.inventory with
          orderLines := current.inventory.orderLines.update { line with status := status } } } where
  frame := by
    obtain ⟨_, _, _, _, rfl⟩ := h.frame
    exact ⟨_, _, _, _, rfl⟩
  orderLines := bare_update h.orderLines hline rfl
  balances := h.balances
  added := h.added
  requisitionLines := h.requisitionLines

/-! ## Counting a line on order -/

/-- When the balance is written and what is written to it. -/
theorem onOrderBalance_spec (store : InventoryStore) (organizationId : String) (item : StockItem)
    (storeroomId uom : String) (delta : ℚ) (balanceId : String) :
    match onOrderBalance store organizationId item storeroomId uom delta balanceId with
    | .ok none => delta = 0
    | .ok (some (isNew, balance)) =>
        ((0 < uomFactor item uom ∧ 0 < uomFactor item item.stockUom) ∧ 0 ≤ balance.onOrderQty) ∧
          isNew = (store.balances.get? ⟨organizationId, item.id, storeroomId⟩).isNone ∧
          balance.position = ⟨organizationId, item.id, storeroomId⟩ ∧
          balance.onOrderQty =
            ((store.balances.get? ⟨organizationId, item.id, storeroomId⟩).map
              StockBalance.onOrderQty).getD 0 + stockQuantity item delta uom
    | .error _ => ¬ (delta = 0 ∨ ((0 < uomFactor item uom ∧ 0 < uomFactor item item.stockUom) ∧
        0 ≤ ((store.balances.get? ⟨organizationId, item.id, storeroomId⟩).map
          StockBalance.onOrderQty).getD 0 + stockQuantity item delta uom)) := by
  unfold onOrderBalance
  by_cases hzero : delta = 0
  · rw [if_pos hzero]
    exact hzero
  rw [if_neg hzero]
  cases hconverted : convertItemQuantity item delta uom item.stockUom
      "Purchase-order line UOM" with
  | error e =>
      rintro (h | ⟨hunits, -⟩)
      · exact hzero h
      · rw [convertItemQuantity_iff.mpr ⟨hunits, rfl⟩] at hconverted
        cases hconverted
  | ok converted =>
      obtain ⟨hunits, -⟩ := convertItemQuantity_iff.mp hconverted
      obtain rfl := convertItemQuantity_stock hconverted
      have hstart : ((store.balances.get? ⟨organizationId, item.id, storeroomId⟩).getD
          (createBalance balanceId ⟨organizationId, item.id, storeroomId⟩
            item.stockUom)).onOrderQty =
          ((store.balances.get? ⟨organizationId, item.id, storeroomId⟩).map
            StockBalance.onOrderQty).getD 0 := by
        cases store.balances.get? ⟨organizationId, item.id, storeroomId⟩ <;> rfl
      obtain ⟨hposition, -⟩ := startBalance store ⟨organizationId, item.id, storeroomId⟩ balanceId
        item.stockUom
      simp only [bind, Except.bind, ensure, hstart]
      by_cases hnonneg : 0 ≤ ((store.balances.get? ⟨organizationId, item.id, storeroomId⟩).map
          StockBalance.onOrderQty).getD 0 + stockQuantity item delta uom
      · rw [if_pos hnonneg]
        exact ⟨⟨hunits, hnonneg⟩, rfl, hposition, rfl⟩
      · rw [if_neg hnonneg]
        rintro (h | ⟨-, h⟩)
        · exact hzero h
        · exact hnonneg h

theorem lineQuantity_of_item {store : InventoryStore} {item : StockItem}
    (hitem : store.items.get? line.stockItemId = some item) (quantity : ℚ) :
    store.lineQuantity line quantity = stockQuantity item quantity line.uom := by
  rw [InventoryStore.lineQuantity, hitem]
  rfl

theorem convertedQuantity_of_item {store : InventoryStore} {item : StockItem}
    (hitem : store.items.get? line.stockItemId = some item) (uom : String) :
    store.convertedQuantity line uom =
      line.quantityOrdered * uomFactor item line.uom / uomFactor item uom := by
  rw [InventoryStore.convertedQuantity, hitem]
  rfl

theorem Approving.count_nothing (h : Approving start order counted sourced current)
    {item : StockItem} (hitem : start.inventory.items.get? line.stockItemId = some item)
    (hzero : line.quantityOrdered = 0) :
    Approving start order (counted ++ [line]) sourced current where
  frame := h.frame
  orderLines := h.orderLines
  balances position := by
    rw [h.balances, orderedAt_append, orderedAt_singleton, lineQuantity_of_item hitem, hzero,
      stockQuantity_zero, ite_self, add_zero]
  added position := by
    rw [h.added, orderedAt_append, orderedAt_singleton, lineQuantity_of_item hitem, hzero,
      stockQuantity_zero, ite_self, add_zero]
  requisitionLines := h.requisitionLines

theorem Approving.count_stored (h : Approving start order counted sourced current)
    {balance : StockBalance} (hposition : balance.position = order.positionOf line)
    (hsome : (current.inventory.balances.get? (order.positionOf line)).isNone = false)
    (hquantity : balance.onOrderQty =
      ((current.inventory.balances.get? (order.positionOf line)).map
        StockBalance.onOrderQty).getD 0 +
          start.inventory.lineQuantity line line.quantityOrdered) :
    Approving start order (counted ++ [line]) sourced
      { current with inventory := storeBalance current.inventory false balance } := by
  obtain ⟨stored, hstored⟩ : ∃ stored,
      current.inventory.balances.get? (order.positionOf line) = some stored :=
    Option.ne_none_iff_exists'.mp (Option.isNone_eq_false_iff.mp hsome |> Option.isSome_iff_ne_none.mp)
  have hstart := h.balances (order.positionOf line)
  rw [hstored, Option.map_some] at hstart hquantity
  obtain ⟨first, hfirst, honOrder⟩ := Option.map_eq_some_iff.mp hstart.symm
  constructor
  · obtain ⟨_, _, _, _, rfl⟩ := h.frame
    exact ⟨_, _, _, _, rfl⟩
  · exact h.orderLines
  · intro position
    rw [orderedAt_append, orderedAt_singleton]
    by_cases hsame : order.positionOf line = position
    · subst hsame
      rw [← hposition, get?_storeBalance_self (by rw [hposition, hstored]; rfl), hposition, hfirst,
        if_pos rfl, Option.map_some, Option.map_some, hquantity, Option.getD_some, ← honOrder,
        add_assoc]
    · rw [get?_storeBalance_of_ne false (by rw [hposition]; exact Ne.symm hsame), h.balances,
        if_neg hsame, add_zero]
  · intro position
    change current.addedAt position = _
    rw [h.added, orderedAt_append, orderedAt_singleton]
    by_cases hsame : order.positionOf line = position
    · rw [← hsame, hfirst]
      rfl
    · rw [if_neg hsame, add_zero]
  · exact h.requisitionLines

theorem Approving.count_added (h : Approving start order counted sourced current)
    {balance : StockBalance} (hposition : balance.position = order.positionOf line)
    (hnone : (current.inventory.balances.get? (order.positionOf line)).isNone = true)
    (hquantity : balance.onOrderQty = start.inventory.lineQuantity line line.quantityOrdered) :
    Approving start order (counted ++ [line]) sourced
      { current with addedBalances := current.addedBalances ++ [balance] } := by
  have hstart : start.inventory.balances.get? (order.positionOf line) = none := by
    have hmap := h.balances (order.positionOf line)
    rw [Option.isNone_iff_eq_none.mp hnone, Option.map_none] at hmap
    exact Option.map_eq_none_iff.mp hmap.symm
  constructor
  · obtain ⟨_, _, _, _, rfl⟩ := h.frame
    exact ⟨_, _, _, _, rfl⟩
  · exact h.orderLines
  · intro position
    rw [h.balances, orderedAt_append, orderedAt_singleton]
    by_cases hsame : order.positionOf line = position
    · rw [← hsame, hstart]
      rfl
    · rw [if_neg hsame, add_zero]
  · intro position
    have hadded : PlatformStore.addedAt
        { current with addedBalances := current.addedBalances ++ [balance] } position =
        current.addedAt position +
          if order.positionOf line = position then balance.onOrderQty else 0 := by
      unfold PlatformStore.addedAt
      rw [List.map_append, List.sum_append, List.map_singleton, List.sum_singleton, hposition]
    rw [hadded, h.added, orderedAt_append, orderedAt_singleton, add_assoc]
    by_cases hsame : order.positionOf line = position
    · rw [← hsame, hstart, if_pos rfl, if_pos rfl, hquantity]
      rfl
    · rw [if_neg hsame, if_neg hsame, add_zero, add_zero]
  · exact h.requisitionLines

theorem storeOnOrder_spec {session : Session PlatformStore} {item : StockItem}
    (h : Approving start order counted sourced session.pending)
    (hitem : start.inventory.items.get? line.stockItemId = some item) (balanceId : String) :
    (storeOnOrder order item line balanceId).Spec session
      (fun _ next => StockFits start.inventory order counted item line ∧
        next.committed = session.committed ∧
        Approving start order (counted ++ [line]) sourced next.pending)
      (fun _ next => ¬ StockFits start.inventory order counted item line ∧ next = session) := by
  have hid : item.id = line.stockItemId := (Table.get?_eq_some_iff.mp hitem).2
  have hposition : (⟨order.organizationId, item.id, line.destinationStoreroomId⟩ : StockPosition) =
      order.positionOf line := by
    rw [hid]
    rfl
  have hspec := onOrderBalance_spec session.pending.inventory order.organizationId item
    line.destinationStoreroomId line.uom line.quantityOrdered balanceId
  rw [hposition] at hspec
  have hstart := congrArg (fun quantity : Option ℚ => quantity.getD 0)
    (h.balances (order.positionOf line))
  rw [hstart] at hspec
  unfold storeOnOrder
  rw [Program.spec_step]
  simp only [bind, Except.bind]
  cases hwritten : onOrderBalance session.pending.inventory order.organizationId item
      line.destinationStoreroomId line.uom line.quantityOrdered balanceId with
  | error e =>
      rw [hwritten] at hspec
      exact ⟨hspec, trivial⟩
  | ok written =>
      rw [hwritten] at hspec
      obtain _ | ⟨isNew, balance⟩ := written
      · exact ⟨Or.inl hspec, trivial, h.count_nothing hitem hspec⟩
      · obtain ⟨⟨hunits, hnonneg⟩, hisNew, hbalance, hquantity⟩ := hspec
        have hfits : StockFits start.inventory order counted item line :=
          Or.inr ⟨hunits, hquantity ▸ hnonneg⟩
        rw [← lineQuantity_of_item hitem] at hquantity
        cases isNew with
        | true =>
            refine ⟨hfits, trivial, h.count_added hbalance hisNew.symm ?_⟩
            rw [Option.isNone_iff_eq_none.mp hisNew.symm] at hstart
            rw [hquantity, ← hstart]
            exact zero_add _
        | false =>
            refine ⟨hfits, trivial, h.count_stored hbalance hisNew.symm ?_⟩
            rw [hquantity, hstart]

/-! ## Sourcing a requisition line -/

theorem Approving.sourceLine (h : Approving start order counted sourced current)
    {stored : PurchaseRequisitionLine}
    (hstored : start.inventory.requisitionLines.get? stored.id = some stored)
    (hsource : line.sourceLineId = some stored.id) :
    Approving start order counted (sourced ++ [line])
      { current with
        inventory := { current.inventory with
          requisitionLines := current.inventory.requisitionLines.update
            (sourcedRequisitionLine (start.inventory.sourcedBy sourced stored)
              (start.inventory.convertedQuantity line stored.uom)) } } where
  frame := by
    obtain ⟨_, _, _, _, rfl⟩ := h.frame
    exact ⟨_, _, _, _, rfl⟩
  orderLines := h.orderLines
  balances := h.balances
  added := h.added
  requisitionLines := by
    have hwritten : start.inventory.sourcedBy (sourced ++ [line]) stored =
        sourcedRequisitionLine (start.inventory.sourcedBy sourced stored)
          (start.inventory.convertedQuantity line stored.uom) := by
      rw [sourcedBy_append, sourcedBy_singleton, sourcedBy_id, sourcedBy_uom, if_pos hsource]
    rw [← hwritten]
    refine Table.rows_update_of_rows_map h.requisitionLines (sourcedBy_id sourced)
      (Table.get?_eq_some_iff.mp hstored).1 ?_ (sourcedBy_id _ _)
    intro row hrow
    rw [sourcedBy_append, sourcedBy_singleton, sourcedBy_id, if_neg]
    rw [hsource]
    exact fun hsame => hrow (Option.some.inj hsame).symm

theorem Approving.source_nothing (h : Approving start order counted sourced current)
    (hsource : line.sourceLineId = none) :
    Approving start order counted (sourced ++ [line]) current where
  frame := h.frame
  orderLines := h.orderLines
  balances := h.balances
  added := h.added
  requisitionLines := by
    rw [h.requisitionLines]
    apply List.map_congr_left
    intro row _
    rw [sourcedBy_append, sourcedBy_singleton, hsource]
    rfl

theorem sourceRequisitionLine_spec {item : StockItem} {requisitionLineId : String}
    (h : Approving start order counted sourced current)
    (hitem : start.inventory.items.get? line.stockItemId = some item)
    (hsource : line.sourceLineId = some requisitionLineId) :
    match sourceRequisitionLine item line requisitionLineId current.inventory with
    | .ok row => SourceFits start.inventory sourced item line ∧
        start.inventory.touchedRequisition line = some row.purchaseRequisitionId ∧
        Approving start order counted (sourced ++ [line])
          { current with
            inventory := { current.inventory with
              requisitionLines := current.inventory.requisitionLines.update row } }
    | .error _ => ¬ SourceFits start.inventory sourced item line := by
  unfold sourceRequisitionLine requireRequisitionLine
  rw [h.get?_requisitionLines]
  cases hstored : start.inventory.requisitionLines.get? requisitionLineId with
  | none =>
      intro hfits
      obtain ⟨_, hmem, -⟩ := hfits requisitionLineId hsource
      rw [hstored] at hmem
      cases hmem
  | some stored =>
      obtain rfl := (Table.get?_eq_some_iff.mp hstored).2
      have hfits : SourceFits start.inventory sourced item line ↔
          (0 < uomFactor item line.uom ∧ 0 < uomFactor item stored.uom) ∧
            stored.quantitySourced + start.inventory.sourcedFrom sourced stored +
                line.quantityOrdered * uomFactor item line.uom / uomFactor item stored.uom ≤
              stored.quantityRequested := by
        unfold SourceFits
        rw [hsource]
        simp only [Option.mem_some_iff, forall_eq', hstored, exists_eq_left']
      rw [Option.map_some]
      simp only [require, bind, Except.bind]
      cases hconverted : convertItemQuantity item line.quantityOrdered line.uom
          (start.inventory.sourcedBy sourced stored).uom "Purchase-order line UOM" with
      | error e =>
          rw [hfits]
          rintro ⟨hunits, -⟩
          rw [sourcedBy_uom, convertItemQuantity_iff.mpr ⟨hunits, rfl⟩] at hconverted
          cases hconverted
      | ok converted =>
          rw [sourcedBy_uom] at hconverted
          obtain ⟨hunits, rfl⟩ := convertItemQuantity_iff.mp hconverted
          simp only [ensure, sourcedBy_quantitySourced, sourcedBy_quantityRequested]
          by_cases hle : stored.quantitySourced + start.inventory.sourcedFrom sourced stored +
              line.quantityOrdered * uomFactor item line.uom / uomFactor item stored.uom ≤
                stored.quantityRequested
          · rw [if_pos hle]
            refine ⟨hfits.mpr ⟨hunits, hle⟩, ?_, ?_⟩
            · rw [InventoryStore.touchedRequisition, hsource, Option.bind_some, hstored]
              exact congrArg some (sourcedBy_purchaseRequisitionId sourced stored).symm
            · rw [← convertedQuantity_of_item hitem]
              exact h.sourceLine hstored hsource
          · rw [if_neg hle]
            exact fun h => hle (hfits.mp h).2

/-! ## The loop over the lines -/

variable {service : InventoryService}

theorem getItemForInternalUse_congr {store next : InventoryStore}
    (hitems : next.items = store.items) (itemId : String) :
    getItemForInternalUse service next itemId = getItemForInternalUse service store itemId := by
  unfold getItemForInternalUse
  rw [hitems]

/-- An iteration goes through exactly when its line fits after the lines before it. -/
theorem approveLine_spec {before : List PurchaseOrderLine} {session : Session PlatformStore}
    (h : Approving start order before before session.pending)
    (hline : line ∈ start.inventory.orderLines.rows) (balanceId : String) :
    (approveLine service order balanceId line).Spec session
      (fun touched next => LineFits service start.inventory order before line ∧
        touched = start.inventory.touchedRequisition line ∧
        next.committed = session.committed ∧
        Approving start order (before ++ [line]) (before ++ [line]) next.pending)
      (fun _ next => ¬ LineFits service start.inventory order before line ∧
        next.committed = session.committed ∧
        next.pending.inventory.orders = start.inventory.orders) := by
  have hopened := h.openLine hline .open
  unfold approveLine
  rw [Program.spec_bind, ServiceProgram.spec_write_ok, Program.spec_bind,
    ServiceProgram.spec_read, getItemForInternalUse_congr hopened.items]
  cases hitem : getItemForInternalUse service start.inventory line.stockItemId with
  | error e =>
      refine ⟨?_, rfl, hopened.orders⟩
      rintro ⟨item, hmem, -⟩
      rw [hitem] at hmem
      cases hmem
  | ok item =>
      have hfits : LineFits service start.inventory order before line ↔
          StockFits start.inventory order before item line ∧
            SourceFits start.inventory before item line := by
        unfold LineFits
        rw [hitem]
        simp only [Except.toOption, Option.mem_some_iff, exists_eq_left']
      have hfound := (getItemForInternalUse_ok hitem).1
      simp only
      rw [Program.spec_bind]
      refine (storeOnOrder_spec hopened hfound balanceId).mono ?_ ?_
      · rintro - next ⟨hstock, hcommitted, hcounted⟩
        cases hsource : line.sourceLineId with
        | none =>
            refine ⟨hfits.mpr ⟨hstock, ?_⟩, ?_, hcommitted, hcounted.source_nothing hsource⟩
            · intro requisitionLineId hmem
              rw [hsource] at hmem
              cases hmem
            · rw [InventoryStore.touchedRequisition, hsource]
              rfl
        | some requisitionLineId =>
            have hspec := sourceRequisitionLine_spec hcounted hfound hsource
            simp only
            rw [Program.spec_bind, ServiceProgram.spec_read]
            cases hrow : sourceRequisitionLine item line requisitionLineId
                next.pending.inventory with
            | error e =>
                rw [hrow] at hspec
                exact ⟨fun h => hspec (hfits.mp h).2, hcommitted, hcounted.orders⟩
            | ok row =>
                rw [hrow] at hspec
                obtain ⟨hfitsSource, htouched, hsourced⟩ := hspec
                simp only
                rw [Program.spec_bind, ServiceProgram.spec_write_ok]
                exact ⟨hfits.mpr ⟨hstock, hfitsSource⟩, htouched.symm, hcommitted, hsourced⟩
      · rintro e next ⟨hstock, rfl⟩
        exact ⟨fun h => hstock (hfits.mp h).1, rfl, hopened.orders⟩

theorem linesFit_append {store : InventoryStore} {before first second : List PurchaseOrderLine} :
    LinesFit service store order before (first ++ second) ↔
      LinesFit service store order before first ∧
        LinesFit service store order (before ++ first) second := by
  induction first generalizing before with
  | nil => rw [List.append_nil]; exact (true_and _).symm.to_iff
  | cons line rest ih =>
      change (_ ∧ LinesFit service store order (before ++ [line]) (rest ++ second)) ↔
        (_ ∧ LinesFit service store order (before ++ [line]) rest) ∧ _
      rw [ih, List.append_assoc, and_assoc]
      rfl

/-- The loop goes through exactly when the lines fit. -/
theorem approveLines_spec {lines : List PurchaseOrderLine} (session : Session PlatformStore)
    (h : Approving start order [] [] session.pending)
    (hlines : ∀ line ∈ lines, line ∈ start.inventory.orderLines.rows)
    (balanceId : String → String) :
    (approveLines service order balanceId lines).Spec session
      (fun touched next => LinesFit service start.inventory order [] lines ∧ touched.Nodup ∧
        (∀ requisitionId, requisitionId ∈ touched ↔
          ∃ line ∈ lines, requisitionId ∈ start.inventory.touchedRequisition line) ∧
        next.committed = session.committed ∧ Approving start order lines lines next.pending)
      (fun _ next => ¬ LinesFit service start.inventory order [] lines ∧
        next.committed = session.committed ∧
        next.pending.inventory.orders = start.inventory.orders) := by
  unfold approveLines
  refine Program.spec_foldlM
    (fun before (touched : List String) current => LinesFit service start.inventory order [] before ∧
      touched.Nodup ∧ (∀ requisitionId, requisitionId ∈ touched ↔
        ∃ line ∈ before, requisitionId ∈ start.inventory.touchedRequisition line) ∧
      current.committed = session.committed ∧ Approving start order before before current.pending)
    lines ?_ ⟨trivial, List.nodup_nil, by simp, rfl, h⟩
  rintro before line after touched current hsplit ⟨hfit, hnodup, htouched, hcommitted, happroving⟩
  have hline : line ∈ lines := by
    rw [hsplit]
    exact List.mem_append_right _ List.mem_cons_self
  rw [Program.spec_bind]
  refine (approveLine_spec happroving (hlines line hline) (balanceId line.id)).mono ?_ ?_
  · rintro requisitionId next ⟨hlineFits, rfl, hnext, happroved⟩
    refine ⟨linesFit_append.mpr ⟨hfit, hlineFits, trivial⟩, ?_, ?_, hnext.trans hcommitted,
      happroved⟩
    · cases start.inventory.touchedRequisition line with
      | none => exact hnodup
      | some requisitionId => exact hnodup.insert
    · intro other
      simp only [List.mem_append, List.mem_singleton, or_and_right, exists_or, exists_eq_left]
      cases start.inventory.touchedRequisition line with
      | none => simpa using htouched other
      | some requisitionId =>
          simp only [Option.map_some, Option.getD_some, List.mem_insert_iff, htouched,
            Option.mem_some_iff]
          rw [or_comm, eq_comm]
  · rintro e next ⟨hlineFits, hnext, horders⟩
    refine ⟨?_, hnext.trans hcommitted, horders⟩
    rw [hsplit]
    exact fun h => hlineFits (linesFit_append.mp h).2.1

/-! ## Refreshing the requisitions -/

def refreshedRequisition (store : InventoryStore) (lines : List PurchaseOrderLine)
    (touched : List String) (requisition : PurchaseRequisition) : PurchaseRequisition :=
  let nextStatus := nextRequisitionStatus requisition.status
    (store.sourcedLines lines requisition.id)
  if requisition.id ∈ touched ∧ nextStatus ≠ requisition.status then
    { requisition with status := nextStatus, version := requisition.version + 1 }
  else requisition

theorem refreshedRequisition_id (store : InventoryStore) (lines : List PurchaseOrderLine)
    (touched : List String) (requisition : PurchaseRequisition) :
    (refreshedRequisition store lines touched requisition).id = requisition.id := by
  unfold refreshedRequisition
  dsimp only
  split <;> rfl

theorem refreshedRequisition_of_notMem {store : InventoryStore} {lines : List PurchaseOrderLine}
    {touched : List String} {requisition : PurchaseRequisition}
    (h : requisition.id ∉ touched) :
    refreshedRequisition store lines touched requisition = requisition :=
  if_neg fun hboth => h hboth.1

theorem nextRequisitionStatus_perm {status : PurchaseRequisitionStatus}
    {lines lines' : List PurchaseRequisitionLine} (h : lines.Perm lines') :
    nextRequisitionStatus status lines = nextRequisitionStatus status lines' := by
  have hnil : lines = [] ↔ lines' = [] :=
    ⟨fun hnil => List.nil_perm.mp (hnil ▸ h), fun hnil => List.perm_nil.mp (hnil ▸ h)⟩
  unfold nextRequisitionStatus
  simp only [hnil, h.mem_iff]

theorem listForRequisition_perm {lines : List PurchaseOrderLine}
    (h : current.inventory.requisitionLines.rows =
      start.inventory.requisitionLines.rows.map (start.inventory.sourcedBy lines))
    (requisitionId : String) :
    (listForRequisition current.inventory requisitionId).Perm
      (start.inventory.sourcedLines lines requisitionId) := by
  refine (List.perm_insertionSort _ _).trans (List.Perm.of_eq ?_)
  rw [h, List.filter_map, InventoryStore.sourcedLines]
  simp only [Function.comp_def, sourcedBy_purchaseRequisitionId]

/-- The store on the way through the refresh. -/
structure Refreshing (approved : PlatformStore) (start : InventoryStore)
    (lines : List PurchaseOrderLine) (touched : List String) (current : PlatformStore) : Prop where
  frame : ∃ requisitions, current =
    { approved with inventory := { approved.inventory with requisitions := requisitions } }
  requisitions : current.inventory.requisitions.rows =
    start.requisitions.rows.map (refreshedRequisition start lines touched)

theorem refreshTouchedRequisition_spec {approved : PlatformStore} {lines : List PurchaseOrderLine}
    {touched : List String} {requisitionId : String} {session : Session PlatformStore}
    (happroved : Approving start order lines lines approved)
    (h : Refreshing approved start.inventory lines touched session.pending)
    (hnew : requisitionId ∉ touched) :
    (refreshTouchedRequisition requisitionId).Spec session
      (fun _ next => RequisitionFits start.inventory lines requisitionId ∧
        next.committed = session.committed ∧
        Refreshing approved start.inventory lines (touched ++ [requisitionId]) next.pending)
      (fun _ next => ¬ RequisitionFits start.inventory lines requisitionId ∧ next = session) := by
  have hget := Table.get?_of_rows_map
    (refreshedRequisition_id start.inventory lines touched) h.requisitions requisitionId
  have hrows : session.pending.inventory.requisitionLines.rows =
      start.inventory.requisitionLines.rows.map (start.inventory.sourcedBy lines) := by
    obtain ⟨_, hframe⟩ := h.frame
    rw [hframe]
    exact happroved.requisitionLines
  have hlines := listForRequisition_perm hrows requisitionId
  unfold refreshTouchedRequisition
  rw [ServiceProgram.spec_write, hget]
  cases hstored : start.inventory.requisitions.get? requisitionId with
  | none =>
      refine ⟨?_, rfl, h.frame, ?_⟩
      · intro requisition hmem
        rw [hstored] at hmem
        cases hmem
      · -- No requisition has the id, so that none is refreshed for it.
        change session.pending.inventory.requisitions.rows = _
        rw [h.requisitions]
        apply List.map_congr_left
        intro row hrow
        have hne : row.id ≠ requisitionId := by
          intro hsame
          exact Table.get?_eq_none.mp hstored
            (hsame ▸ start.inventory.requisitions.mem_ids hrow)
        unfold refreshedRequisition
        simp only [List.mem_append, List.mem_singleton, hne, or_false]
  | some stored =>
      obtain ⟨hmem, rfl⟩ := Table.get?_eq_some_iff.mp hstored
      have hfits : RequisitionFits start.inventory lines stored.id ↔
          nextRequisitionStatus stored.status (start.inventory.sourcedLines lines stored.id) ∈
            stored.status :: requisitionStatusTransitions stored.status := by
        unfold RequisitionFits
        simp only [hstored, Option.mem_some_iff, forall_eq']
      have hothers : ∀ row : PurchaseRequisition, row.id ≠ stored.id →
          refreshedRequisition start.inventory lines (touched ++ [stored.id]) row =
            refreshedRequisition start.inventory lines touched row := by
        intro row hrow
        unfold refreshedRequisition
        simp only [List.mem_append, List.mem_singleton, hrow, or_false]
      rw [Option.map_some, refreshedRequisition_of_notMem hnew]
      simp only
      unfold refreshRequisitionStatus
      rw [nextRequisitionStatus_perm hlines]
      by_cases hsame : nextRequisitionStatus stored.status
          (start.inventory.sourcedLines lines stored.id) = stored.status
      · simp only [hsame, if_true]
        refine ⟨hfits.mpr (List.mem_cons.mpr (Or.inl hsame)), trivial, h.frame, ?_⟩
        change session.pending.inventory.requisitions.rows = _
        rw [h.requisitions]
        apply List.map_congr_left
        intro row hrow
        by_cases hid : row.id = stored.id
        · obtain rfl := start.inventory.requisitions.eq_of_key_eq hrow hmem hid
          rw [refreshedRequisition_of_notMem hnew]
          exact (if_neg fun hboth => hboth.2 hsame).symm
        · exact (hothers row hid).symm
      · simp only [hsame, if_false, validateTransition, bind, Except.bind, ensure]
        by_cases hallowed : nextRequisitionStatus stored.status
            (start.inventory.sourcedLines lines stored.id) ∈
              requisitionStatusTransitions stored.status
        · simp only [hallowed, or_true, if_true]
          refine ⟨hfits.mpr (List.mem_cons_of_mem _ hallowed), trivial, ?_, ?_⟩
          · obtain ⟨_, hframe⟩ := h.frame
            rw [hframe]
            exact ⟨_, rfl⟩
          · have hwritten : refreshedRequisition start.inventory lines (touched ++ [stored.id])
                stored = { stored with
                  status := nextRequisitionStatus stored.status
                    (start.inventory.sourcedLines lines stored.id)
                  version := stored.version + 1 } :=
              if_pos ⟨List.mem_append_right _ List.mem_cons_self, hsame⟩
            have hrows := Table.rows_update_of_rows_map h.requisitions
              (refreshedRequisition_id start.inventory lines touched) hmem hothers
              (refreshedRequisition_id _ _ _ stored)
            rw [hwritten] at hrows
            exact hrows
        · simp only [hallowed, or_false, if_false]
          refine ⟨fun h => ?_, trivial⟩
          rcases List.mem_cons.mp (hfits.mp h) with h | h
          · exact hsame h
          · exact hallowed h

theorem refreshTouchedRequisitions_spec {approved : PlatformStore} {lines : List PurchaseOrderLine}
    {touched : List String} {session : Session PlatformStore}
    (happroved : Approving start order lines lines approved) (hpending : session.pending = approved)
    (hnodup : touched.Nodup) :
    (touched.forM refreshTouchedRequisition).Spec session
      (fun _ next => (∀ requisitionId ∈ touched,
          RequisitionFits start.inventory lines requisitionId) ∧
        next.committed = session.committed ∧
        Refreshing approved start.inventory lines touched next.pending)
      (fun _ next => ¬ (∀ requisitionId ∈ touched,
          RequisitionFits start.inventory lines requisitionId) ∧
        next.committed = session.committed ∧
        next.pending.inventory.orders = start.inventory.orders) := by
  apply Program.spec_forM fun before current =>
    (∀ requisitionId ∈ before, RequisitionFits start.inventory lines requisitionId) ∧
      current.committed = session.committed ∧
      Refreshing approved start.inventory lines before current.pending
  · rintro before requisitionId after current hsplit ⟨hfits, hcurrent, hrefreshing⟩
    have hnew : requisitionId ∉ before := by
      rw [hsplit] at hnodup
      exact fun hmem => (List.nodup_append.mp hnodup).2.2 _ hmem _ List.mem_cons_self rfl
    refine (refreshTouchedRequisition_spec happroved hrefreshing hnew).mono ?_ ?_
    · rintro - last ⟨hrequisition, hlast, hrefreshed⟩
      refine ⟨?_, hlast.trans hcurrent, hrefreshed⟩
      intro other hother
      rcases List.mem_append.mp hother with hother | hother
      · exact hfits other hother
      · obtain rfl := List.mem_singleton.mp hother
        exact hrequisition
    · rintro e last ⟨hrequisition, rfl⟩
      obtain ⟨_, hframe⟩ := hrefreshing.frame
      refine ⟨fun hall => hrequisition (hall requisitionId ?_), hcurrent, ?_⟩
      · rw [hsplit]
        exact List.mem_append_right _ List.mem_cons_self
      · rw [hframe]
        exact happroved.orders
  · rw [hpending]
    refine ⟨fun _ h => (List.not_mem_nil h).elim, rfl, ⟨_, rfl⟩, ?_⟩
    obtain ⟨_, _, _, _, hframe⟩ := happroved.frame
    rw [hframe]
    refine (List.map_id _).symm.trans (List.map_congr_left fun row _ => ?_)
    exact (refreshedRequisition_of_notMem List.not_mem_nil).symm

end

end ProjectManager
