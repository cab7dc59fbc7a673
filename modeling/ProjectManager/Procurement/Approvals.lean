import ProjectManager.Procurement.ApprovedOrders

/-! # Decisions on requisitions and orders

On a session without open changes an approval or a rejection either applies the
whole decision, or raises and leaves the session alone; but for the approval of
an order that does not fit, which leaves its first writes in the session.
-/

namespace ProjectManager

open Foundation

/-! ## Flushing -/

theorem insertBalances_ok (added : List StockBalance) {inventory next : InventoryStore}
    (h : added.foldlM (fun (current : InventoryStore) balance => do
      ensure (balance.position ∉ current.balances.ids) takenStockPosition
      return storeBalance current true balance) inventory = .ok next) :
    (∃ balances, next = { inventory with balances := balances }) ∧
      ∀ position, (next.balanceAt position).onOrderQty =
        (inventory.balanceAt position).onOrderQty +
          (added.map fun balance =>
            if balance.position = position then balance.onOrderQty else 0).sum := by
  induction added generalizing inventory with
  | nil =>
      cases h
      exact ⟨⟨_, rfl⟩, fun position => (add_zero _).symm⟩
  | cons balance rest ih =>
      rw [List.foldlM_cons] at h
      obtain ⟨inserted, hinserted, h⟩ := bind_ok h
      obtain ⟨_, hfresh, hinserted⟩ := bind_ok hinserted
      cases hinserted
      obtain ⟨⟨balances, rfl⟩, hrest⟩ := ih h
      have hnone := Table.get?_eq_none.mpr (ensure_eq_ok.mp hfresh)
      refine ⟨⟨_, rfl⟩, fun position => ?_⟩
      rw [hrest, balanceAt_storeBalance (by rw [hnone]; rfl), List.map_cons, List.sum_cons,
        ← add_assoc]
      by_cases hposition : position = balance.position
      · rw [if_pos hposition, if_pos hposition.symm, InventoryStore.balanceAt, hposition, hnone]
        exact congrArg (· + _) (zero_add balance.onOrderQty).symm
      · rw [if_neg hposition, if_neg (Ne.symm hposition), add_zero]

theorem flush_ok {store next : PlatformStore} (h : store.flush = .ok next) :
    (∃ balances, next =
      { store with
        inventory := { store.inventory with balances := balances }
        addedBalances := [] }) ∧
      ∀ position, (next.inventory.balanceAt position).onOrderQty =
        (store.inventory.balanceAt position).onOrderQty + store.addedAt position := by
  obtain ⟨inventory, hinserted, h⟩ := bind_ok h
  cases h
  obtain ⟨⟨balances, rfl⟩, hquantity⟩ := insertBalances_ok _ hinserted
  exact ⟨⟨balances, rfl⟩, hquantity⟩

theorem flush_error {store : PlatformStore} {e : DomainError} (h : store.flush = .error e) :
    e = takenStockPosition := by
  have hinserted : ∀ (added : List StockBalance) (inventory : InventoryStore),
      added.foldlM (fun (current : InventoryStore) balance => do
        ensure (balance.position ∉ current.balances.ids) takenStockPosition
        return storeBalance current true balance) inventory = .error e →
      e = takenStockPosition := by
    intro added
    induction added with
    | nil => exact fun _ h => (nomatch h)
    | cons balance rest ih =>
        intro inventory h
        rw [List.foldlM_cons] at h
        by_cases hfresh : balance.position ∉ inventory.balances.ids
        · rw [ensure, if_pos hfresh] at h
          exact ih _ h
        · rw [ensure, if_neg hfresh] at h
          exact (Except.error.inj h).symm
  rcases bind_eq_error.mp h with h | ⟨_, -, h⟩
  · exact hinserted _ _ h
  · cases h

/-! ## Approval of an order -/

/-- The store after an order was approved; the order is that of the decision. -/
structure OrderApproved (service : InventoryService) (store : InventoryStore)
    (order : PurchaseOrder) (next : InventoryStore) : Prop where
  fits : OrderFits service store order
  frame : ∃ balances requisitions requisitionLines orderLines, next =
    { store with
      balances := balances
      requisitions := requisitions
      requisitionLines := requisitionLines
      orders := store.orders.update { order with version := order.version + 1 }
      orderLines := orderLines }
  orderLines : next.orderLines.rows.map PurchaseOrderLine.bare =
    store.orderLines.rows.map PurchaseOrderLine.bare
  requisitionLines : next.requisitionLines.rows =
    store.requisitionLines.rows.map (store.sourcedBy (listForPurchaseOrder store order.id))
  requisitions : ∃ touched : List String,
    (∀ requisitionId, requisitionId ∈ touched ↔
      ∃ line ∈ listForPurchaseOrder store order.id,
        requisitionId ∈ store.touchedRequisition line) ∧
    next.requisitions.rows = store.requisitions.rows.map
      (refreshedRequisition store (listForPurchaseOrder store order.id) touched)
  onOrder : ∀ position, (next.balanceAt position).onOrderQty =
    (store.balanceAt position).onOrderQty +
      store.orderedAt order (listForPurchaseOrder store order.id) position

theorem onOrder_of_approving {start current : PlatformStore} {order : PurchaseOrder}
    {counted sourced : List PurchaseOrderLine} (hsettled : start.addedBalances = [])
    (h : Approving start order counted sourced current) (position : StockPosition) :
    (current.inventory.balanceAt position).onOrderQty + current.addedAt position =
      (start.inventory.balanceAt position).onOrderQty +
        start.inventory.orderedAt order counted position := by
  have hat : ∀ store : InventoryStore, (store.balanceAt position).onOrderQty =
      ((store.balances.get? position).map StockBalance.onOrderQty).getD 0 := by
    intro store
    unfold InventoryStore.balanceAt
    cases store.balances.get? position <;> rfl
  have hstart : start.addedAt position = 0 := by
    unfold PlatformStore.addedAt
    rw [hsettled]
    rfl
  rw [hat, hat, h.balances, h.added, hstart, zero_add]
  cases start.inventory.balances.get? position with
  | none => rfl
  | some balance => exact add_zero _

theorem linesFit_updatePurchaseOrder {service : InventoryService} {store : InventoryStore}
    {order row : PurchaseOrder} (before lines : List PurchaseOrderLine) :
    LinesFit service (updatePurchaseOrder store row) order before lines ↔
      LinesFit service store order before lines := by
  induction lines generalizing before with
  | nil => exact Iff.rfl
  | cons line rest ih => exact and_congr Iff.rfl (ih _)

variable {service : InventoryService} {store : PlatformStore} {request : ApprovalRequest}

/-- What is left in a session when the approval of an order raises half way. -/
def HalfApproved (store : PlatformStore) (order : PurchaseOrder) (next : Session PlatformStore) :
    Prop :=
  next.committed = store ∧ next.pending.inventory.orders =
    store.inventory.orders.update { order with version := order.version + 1 }

theorem applySubmittedPurchaseOrderApproval_spec (hsettled : store.addedBalances = [])
    (balanceId : String → String) :
    (applySubmittedPurchaseOrderApproval service balanceId request).Spec (.clean store)
      (fun _ next => ∃ order approved,
        decidedPurchaseOrder request .approved store.inventory = .ok order ∧
          next = .clean { store with inventory := approved } ∧
          OrderApproved service store.inventory order approved)
      (fun e next => (next = .clean store ∧
          (e = takenStockPosition ∨
            decidedPurchaseOrder request .approved store.inventory = .error e)) ∨
        ∃ order, decidedPurchaseOrder request .approved store.inventory = .ok order ∧
          ¬ OrderFits service store.inventory order ∧ HalfApproved store order next) := by
  unfold applySubmittedPurchaseOrderApproval
  rw [Program.spec_bind, ServiceProgram.spec_read, Session.clean_pending]
  cases horder : decidedPurchaseOrder request .approved store.inventory with
  | error e => exact Or.inl ⟨rfl, Or.inr rfl⟩
  | ok order =>
      simp only
      rw [Program.spec_bind, ServiceProgram.spec_write_ok, Program.spec_bind,
        ServiceProgram.spec_read]
      simp only
      rw [Program.spec_bind]
      let start : PlatformStore :=
        { store with inventory := updatePurchaseOrder store.inventory order }
      have hlines : ∀ line ∈ listForPurchaseOrder start.inventory order.id,
          line ∈ start.inventory.orderLines.rows :=
        fun line hline => (mem_listForPurchaseOrder.mp hline).1
      refine (approveLines_spec ⟨store, start⟩ (Approving.refl start order)
        hlines balanceId).mono ?_ ?_
      · rintro touched next ⟨hfit, hnodup, htouched, hcommitted, happroving⟩
        rw [Program.spec_bind]
        refine (refreshTouchedRequisitions_spec happroving rfl hnodup).mono ?_ ?_
        · rintro - last ⟨hfits, hlast, hrefreshed⟩
          rw [ServiceProgram.spec_commit]
          cases hflush : last.pending.flush with
          | error e =>
              refine Or.inl ⟨?_, Or.inl (flush_error hflush)⟩
              rw [Session.rollback, hlast, hcommitted]
          | ok approved =>
              obtain ⟨⟨balances, hflushed⟩, hquantity⟩ := flush_ok hflush
              obtain ⟨requisitions, hrequisitions⟩ := hrefreshed.frame
              obtain ⟨_, _, _, _, hframe⟩ := happroving.frame
              have hstored := hrefreshed.requisitions
              refine ⟨order, approved.inventory, rfl, ?_,
                ⟨(linesFit_updatePurchaseOrder _ _).mp hfit, ?_⟩, ?_, ?_, ?_,
                ⟨touched, htouched, ?_⟩, ?_⟩
              · rw [hflushed, hrequisitions, hframe, ← hsettled]
              · intro line hline requisitionId hmem
                exact hfits requisitionId ((htouched requisitionId).mpr ⟨line, hline, hmem⟩)
              · rw [hflushed, hrequisitions, hframe]
                exact ⟨_, _, _, _, rfl⟩
              · rw [hflushed, hrequisitions]
                exact happroving.orderLines
              · rw [hflushed, hrequisitions]
                exact happroving.requisitionLines
              · rw [hflushed]
                exact hstored
              · intro position
                rw [hquantity, hrequisitions]
                exact onOrder_of_approving (show start.addedBalances = [] from hsettled) happroving
                  position
        · rintro e last ⟨hunfit, hlast, horders⟩
          refine Or.inr ⟨order, rfl, ?_, hlast.trans hcommitted, horders⟩
          rintro ⟨-, hfits⟩
          apply hunfit
          intro requisitionId hmem
          obtain ⟨line, hline, hrequisition⟩ := (htouched requisitionId).mp hmem
          exact hfits line hline requisitionId hrequisition
      · rintro e next ⟨hunfit, hcommitted, horders⟩
        exact Or.inr ⟨order, rfl, fun h => hunfit ((linesFit_updatePurchaseOrder _ _).mpr h.1),
          hcommitted, horders⟩

theorem decideRequisition_spec (hsettled : store.addedBalances = [])
    (nextStatus : PurchaseRequisitionStatus) (lineStatus : PurchaseRequisitionLineStatus) :
    (decideRequisition nextStatus lineStatus request).Spec (.clean store)
      (fun _ next => ∃ requisition,
        decidedRequisition request nextStatus store.inventory = .ok requisition ∧
          next = .clean { store with
            inventory := setRequisitionLineStatus (updateRequisition store.inventory requisition)
              requisition.id lineStatus })
      (fun _ next => next = .clean store) := by
  unfold decideRequisition
  rw [Program.spec_bind, ServiceProgram.spec_read, Session.clean_pending]
  cases hrequisition : decidedRequisition request nextStatus store.inventory with
  | error e => rfl
  | ok requisition =>
      simp only
      rw [Program.spec_bind, ServiceProgram.spec_write_ok, Program.spec_bind,
        ServiceProgram.spec_write_ok, ServiceProgram.spec_commit_settled hsettled]
      exact ⟨requisition, rfl, rfl⟩

theorem applySubmittedPurchaseOrderRejection_spec (hsettled : store.addedBalances = []) :
    (applySubmittedPurchaseOrderRejection request).Spec (.clean store)
      (fun _ next => ∃ order,
        decidedPurchaseOrder request .rejected store.inventory = .ok order ∧
          next = .clean { store with
            inventory := setOrderLineStatus (updatePurchaseOrder store.inventory order)
              order.id .cancelled })
      (fun _ next => next = .clean store) := by
  unfold applySubmittedPurchaseOrderRejection
  rw [Program.spec_bind, ServiceProgram.spec_read, Session.clean_pending]
  cases horder : decidedPurchaseOrder request .rejected store.inventory with
  | error e => rfl
  | ok order =>
      simp only
      rw [Program.spec_bind, ServiceProgram.spec_write_ok, Program.spec_bind,
        ServiceProgram.spec_write_ok, ServiceProgram.spec_commit_settled hsettled]
      exact ⟨order, rfl, rfl⟩

/-- An approval goes through with its handler; then the request is marked. -/
theorem approveAndApply_spec {handlers : String → Option ApplyHandler} {requestId : String}
    (note : Option String) (applied : ApprovalRequest → PlatformStore → Prop)
    (raised : ApprovalRequest → Session PlatformStore → Prop)
    (hhandler : ∀ request handler,
      requestToDecide service "approve approval request" requestId store = .ok request →
      handlers request.requestType = some handler →
        (handler request).Spec (.clean store)
          (fun _ next => ∃ state, next = .clean state ∧ state.addedBalances = [] ∧
            applied request state)
          (fun _ next => raised request next)) :
    (approveAndApply service handlers requestId note).Spec (.clean store)
      (fun _ next => ∃ request state,
        requestToDecide service "approve approval request" requestId store = .ok request ∧
          applied request state ∧ next = .clean { state with
            approvals := state.approvals.upsert (decidedRequest service request .approved note) })
      (fun _ next => next = .clean store ∨ ∃ request,
        requestToDecide service "approve approval request" requestId store = .ok request ∧
          raised request next) := by
  unfold approveAndApply
  rw [Program.spec_bind, ServiceProgram.spec_read, Session.clean_pending]
  cases hrequest : requestToDecide service "approve approval request" requestId store with
  | error e => exact Or.inl rfl
  | ok request =>
      simp only
      rw [Program.spec_bind, ServiceProgram.spec_read]
      cases hregistered : registeredHandler handlers request.requestType with
      | error e => exact Or.inl rfl
      | ok handler =>
          simp only
          rw [Program.spec_bind]
          refine (hhandler request handler hrequest (require_eq_ok.mp hregistered)).mono ?_ ?_
          · rintro - next ⟨state, rfl, hsettled, happlied⟩
            unfold updateRequest
            rw [Program.spec_bind, Program.spec_step]
            simp only [Session.clean_pending]
            rw [Program.spec_bind, ServiceProgram.spec_commit_settled hsettled]
            exact ⟨request, state, rfl, happlied, rfl⟩
          · intro e next hraised
            exact Or.inr ⟨request, rfl, hraised⟩

/-- A rejection goes through with its handler, if there is one. -/
theorem reject_spec {handlers : String → Option ApplyHandler} {requestId : String}
    (note : Option String) (applied : ApprovalRequest → PlatformStore → Prop)
    (hhandler : ∀ request handler, handlers request.requestType = some handler →
      (handler request).Spec (.clean store)
        (fun _ next => ∃ state, next = .clean state ∧ state.addedBalances = [] ∧
          applied request state)
        (fun _ next => next = .clean store))
    (hsettled : store.addedBalances = []) (hnone : ∀ request, applied request store) :
    (reject service handlers requestId note).Spec (.clean store)
      (fun _ next => ∃ request state, applied request state ∧ state.addedBalances = [] ∧
        ∃ approvals, next = .clean { state with approvals := approvals })
      (fun _ next => next = .clean store) := by
  have hmark : ∀ {request : ApprovalRequest} {state : PlatformStore},
      state.addedBalances = [] → applied request state → (do
        updateRequest request
        ServiceProgram.commit
        return request : ServiceProgram ApprovalRequest).Spec (.clean state)
        (fun _ next => ∃ request state, applied request state ∧ state.addedBalances = [] ∧
          ∃ approvals, next = .clean { state with approvals := approvals })
        (fun _ next => next = .clean store) := by
    intro request state hstate happlied
    unfold updateRequest
    rw [Program.spec_bind, Program.spec_step]
    simp only [Session.clean_pending]
    rw [Program.spec_bind, ServiceProgram.spec_commit_settled hstate]
    exact ⟨request, state, happlied, hstate, _, rfl⟩
  unfold reject
  rw [Program.spec_bind, ServiceProgram.spec_read, Session.clean_pending]
  cases hrequest : requestToDecide service "reject approval request" requestId store with
  | error e => rfl
  | ok request =>
      simp only
      cases hregistered : handlers request.requestType with
      | none => exact hmark hsettled (hnone _)
      | some handler =>
          simp only
          rw [Program.spec_bind]
          refine (hhandler (decidedRequest service request .rejected note) handler
            hregistered).mono ?_ fun _ _ => id
          rintro - next ⟨state, rfl, hstate, happlied⟩
          exact hmark hstate happlied

end ProjectManager
