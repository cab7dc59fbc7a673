import ProjectManager.Procurement.Steps

/-! # Runs of procurement calls

The calls on requisitions and orders, their decisions included. As long as every
approval meets an order that fits, a run leaves no open changes behind, and each
call of it takes at most one step.
-/

namespace ProjectManager

open Foundation

inductive ProcurementCall
  | createRequisition (arguments : RequisitionArguments)
  | addRequisitionLine (arguments : RequisitionLineArguments)
  | submitRequisition (requisitionId requestId : String)
  | updateRequisition (arguments : RequisitionUpdate)
  | cancelRequisition (requisitionId : String) (expectedVersion : Option ℕ)
  | createPurchaseOrder (arguments : OrderArguments)
  | addPurchaseOrderLine (arguments : OrderLineArguments)
  | submitPurchaseOrder (purchaseOrderId requestId : String)
  | updatePurchaseOrder (arguments : OrderUpdate)
  | cancelPurchaseOrder (purchaseOrderId : String) (expectedVersion : Option ℕ)
  | sendPurchaseOrder (purchaseOrderId : String)
  | closePurchaseOrder (purchaseOrderId : String)
  | postReceipt (arguments : ReceiptArguments)
  | approve (requestId : String) (note : Option String) (balanceId : String → String)
  | reject (requestId : String) (note : Option String)

def procurementApplyHandlers (service : InventoryService) (balanceId : String → String)
    (requestType : String) : Option ApplyHandler :=
  if requestType = "purchase_requisition.submit" then some applySubmittedRequisitionApproval
  else if requestType = "purchase_order.submit" then
    some (applySubmittedPurchaseOrderApproval service balanceId)
  else none

def procurementRejectHandlers (requestType : String) : Option ApplyHandler :=
  if requestType = "purchase_requisition.submit" then some applySubmittedRequisitionRejection
  else if requestType = "purchase_order.submit" then some applySubmittedPurchaseOrderRejection
  else none

section

variable {service : InventoryService} {balanceId : String → String} {requestType : String}
  {handler : ApplyHandler} {P : PlatformStore → Prop}

theorem procurementApplyHandlers_cases
    (h : procurementApplyHandlers service balanceId requestType = some handler) :
    handler = applySubmittedRequisitionApproval ∨ requestType = "purchase_order.submit" ∧
      handler = applySubmittedPurchaseOrderApproval service balanceId := by
  unfold procurementApplyHandlers at h
  split at h
  · exact Or.inl (Option.some.inj h).symm
  · split at h
    next htype => exact Or.inr ⟨htype, (Option.some.inj h).symm⟩
    next => cases h

theorem procurementRejectHandlers_cases
    (h : procurementRejectHandlers requestType = some handler) :
    handler = applySubmittedRequisitionRejection ∨
      handler = applySubmittedPurchaseOrderRejection := by
  unfold procurementRejectHandlers at h
  split at h
  · exact Or.inl (Option.some.inj h).symm
  · split at h
    · exact Or.inr (Option.some.inj h).symm
    · cases h

theorem keeps_updateRequest
    (h : ∀ store approvals, P store → P { store with approvals := approvals })
    (request : ApprovalRequest) : (updateRequest request).Keeps P := by
  apply Program.keeps_step
  intro store next hstore hstep
  cases hstep
  exact h store _ hstore

/-- An approval keeps what both handlers, the mark on the request and the commit keep. -/
theorem approveAndApply_keeps {requestId : String} {note : Option String}
    (hcommit : ServiceProgram.commit.Keeps P) (hmark : ∀ request, (updateRequest request).Keeps P)
    (hrequisition : ∀ request, (applySubmittedRequisitionApproval request).Keeps P)
    (horder : ∀ request, (applySubmittedPurchaseOrderApproval service balanceId request).Keeps P) :
    (approveAndApply service (procurementApplyHandlers service balanceId) requestId note).Keeps
      P := by
  unfold approveAndApply
  refine ServiceProgram.keeps_read.bind fun request => ?_
  refine ServiceProgram.keeps_read_bind fun handler _ _ hregistered => Program.Keeps.bind ?_ ?_
  · obtain rfl | ⟨-, rfl⟩ := procurementApplyHandlers_cases (require_eq_ok.mp hregistered)
    · exact hrequisition request
    · exact horder request
  · exact fun _ => (hmark _).bind fun _ => hcommit.bind fun _ => Program.keeps_pure

theorem reject_keeps {requestId : String} {note : Option String}
    (hcommit : ServiceProgram.commit.Keeps P) (hmark : ∀ request, (updateRequest request).Keeps P)
    (hrequisition : ∀ request, (applySubmittedRequisitionRejection request).Keeps P)
    (horder : ∀ request, (applySubmittedPurchaseOrderRejection request).Keeps P) :
    (reject service procurementRejectHandlers requestId note).Keeps P := by
  unfold reject
  refine ServiceProgram.keeps_read.bind fun request => ?_
  have hmarked : (updateRequest (decidedRequest service request .rejected note) >>= fun _ =>
      ServiceProgram.commit >>= fun _ =>
        Pure.pure (decidedRequest service request .rejected note)).Keeps P :=
    (hmark _).bind fun _ => hcommit.bind fun _ => Program.keeps_pure
  cases hregistered : procurementRejectHandlers request.requestType with
  | none => exact hmarked
  | some handler =>
      refine Program.Keeps.bind ?_ fun _ => hmarked
      obtain rfl | rfl := procurementRejectHandlers_cases hregistered
      · exact hrequisition _
      · exact horder _

end

def ProcurementCall.program (service : InventoryService) : ProcurementCall → ServiceProgram Unit
  | .createRequisition arguments => Program.call (ProjectManager.createRequisition service arguments)
  | .addRequisitionLine arguments =>
      Program.call (ProjectManager.addRequisitionLine service arguments)
  | .submitRequisition requisitionId requestId =>
      Program.call (ProjectManager.submitRequisition service requisitionId requestId)
  | .updateRequisition arguments => Program.call (updateDraftRequisition service arguments)
  | .cancelRequisition requisitionId expectedVersion =>
      Program.call (ProjectManager.cancelRequisition service requisitionId expectedVersion)
  | .createPurchaseOrder arguments =>
      Program.call (ProjectManager.createPurchaseOrder service arguments)
  | .addPurchaseOrderLine arguments =>
      Program.call (ProjectManager.addPurchaseOrderLine service arguments)
  | .submitPurchaseOrder purchaseOrderId requestId =>
      Program.call (ProjectManager.submitPurchaseOrder service purchaseOrderId requestId)
  | .updatePurchaseOrder arguments => Program.call (updateDraftPurchaseOrder service arguments)
  | .cancelPurchaseOrder purchaseOrderId expectedVersion =>
      Program.call (ProjectManager.cancelPurchaseOrder service purchaseOrderId expectedVersion)
  | .sendPurchaseOrder purchaseOrderId =>
      Program.call (ProjectManager.sendPurchaseOrder service purchaseOrderId)
  | .closePurchaseOrder purchaseOrderId =>
      Program.call (ProjectManager.closePurchaseOrder service purchaseOrderId)
  | .postReceipt arguments => Program.call (receivePurchaseOrder service arguments)
  | .approve requestId note balanceId => do
      let _ ← approveAndApply service (procurementApplyHandlers service balanceId) requestId note
      return ()
  | .reject requestId note => do
      let _ ← ProjectManager.reject service procurementRejectHandlers requestId note
      return ()

def runProcurementCall (call : InventoryService × ProcurementCall)
    (session : Session PlatformStore) : Outcome DomainError PlatformStore :=
  (call.2.program call.1).outcome session

/-- An approval of an order meets an order that fits. -/
def ApprovalFits (service : InventoryService) (store : PlatformStore) (requestId : String) :
    Prop :=
  ∀ request ∈ (requestToDecide service "approve approval request" requestId store).toOption,
    request.requestType = "purchase_order.submit" →
      ∀ order ∈ (decidedPurchaseOrder request .approved store.inventory).toOption,
        OrderFits service store.inventory order

instance (service : InventoryService) (store : PlatformStore) (requestId : String) :
    Decidable (ApprovalFits service store requestId) :=
  inferInstanceAs (Decidable (∀ _ ∈ _, _ → ∀ _ ∈ _, _))

def ProcurementCall.approvedRequest : ProcurementCall → Option String
  | .approve requestId _ _ => some requestId
  | _ => none

/-- The approvals of a run meet orders that fit. -/
def ProcurementCall.Fits (session : Session PlatformStore)
    (call : InventoryService × ProcurementCall) : Prop :=
  ∀ requestId ∈ call.2.approvedRequest, ApprovalFits call.1 session.pending requestId

instance (session : Session PlatformStore) (call : InventoryService × ProcurementCall) :
    Decidable (ProcurementCall.Fits session call) :=
  inferInstanceAs (Decidable (∀ _ ∈ _, _))

/-! ## One call -/

/-- The store after a call that left no open changes behind. -/
structure Proceeds (service : InventoryService) (adds : PurchaseOrderLine → Prop)
    (store next : PlatformStore) : Prop where
  settled : next.addedBalances = []
  inventory : next.inventory = store.inventory ∨
    ProcurementStep service adds store.inventory next.inventory

section

variable {service : InventoryService} {adds : PurchaseOrderLine → Prop} {store : PlatformStore}

theorem Proceeds.refl (service : InventoryService) (adds : PurchaseOrderLine → Prop)
    (hsettled : store.addedBalances = []) :
    Proceeds service adds store store :=
  ⟨hsettled, Or.inl rfl⟩

theorem call_proceeds {guarded : GuardedCall DomainError PlatformStore}
    (hsettled : store.addedBalances = [])
    (heffect : ∀ next, guarded.effect store = .ok next → Proceeds service adds store next) :
    (Program.call guarded).Spec (.clean store)
      (fun _ next => ∃ state, next = .clean state ∧ Proceeds service adds store state)
      (fun _ next => ∃ state, next = .clean state ∧ Proceeds service adds store state) := by
  rw [Program.spec_call]
  cases h : guarded.effect store with
  | error e => exact ⟨store, rfl, .refl service adds hsettled⟩
  | ok next => exact ⟨next, rfl, heffect next h⟩

theorem inventoryCall_proceeds {Plan : Type} {checks : PlatformStore → Except DomainError Plan}
    {body : Plan → InventoryStore → Except DomainError InventoryStore}
    (hsettled : store.addedBalances = [])
    (hbody : ∀ plan inventory, checks store = .ok plan →
      body plan store.inventory = .ok inventory →
        ProcurementStep service adds store.inventory inventory) :
    (Program.call (inventoryCall checks body)).Spec (.clean store)
      (fun _ next => ∃ state, next = .clean state ∧ Proceeds service adds store state)
      (fun _ next => ∃ state, next = .clean state ∧ Proceeds service adds store state) := by
  apply call_proceeds hsettled
  intro next h
  obtain ⟨plan, inventory, hplan, hinventory, rfl⟩ := inventoryCall_ok hsettled h
  exact ⟨hsettled, Or.inr (hbody plan inventory hplan hinventory)⟩

theorem insertRequisitionLine_step {inventory next : InventoryStore}
    {line : PurchaseRequisitionLine}
    (hline : (∃ requisition, inventory.requisitions.get? line.purchaseRequisitionId =
      some requisition ∧ requisition.status = .draft) ∧
      line.status = .draft ∧ line.quantitySourced = 0 ∧ 0 < line.quantityRequested)
    (h : insertRequisitionLine inventory line = .ok next) :
    ProcurementStep service adds inventory next := by
  obtain ⟨⟨requisition, hrequisition, hdraft⟩, hstatus, hsourced, hrequested⟩ := hline
  obtain ⟨_, hfresh, h⟩ := bind_ok h
  cases h
  exact .addRequisitionLine line requisition hrequisition hdraft (ensure_eq_ok.mp hfresh).1 hstatus
    hsourced hrequested

theorem insertPurchaseOrder_step {inventory next : InventoryStore} {order : PurchaseOrder}
    (horder : order.status = .draft ∧ HeaderReady inventory order)
    (h : insertPurchaseOrder inventory order = .ok next) :
    ProcurementStep service adds inventory next := by
  obtain ⟨_, hfresh, h⟩ := bind_ok h
  cases h
  exact .draftOrder order (ensure_eq_ok.mp hfresh).1 horder.1 horder.2

theorem insertPurchaseOrderLine_step {inventory next : InventoryStore}
    {arguments : OrderLineArguments} {line : PurchaseOrderLine}
    (hline : preparePurchaseOrderLine service arguments inventory = .ok line) (hadds : adds line)
    (h : insertPurchaseOrderLine inventory line = .ok next) :
    ProcurementStep service adds inventory next := by
  obtain ⟨_, hfresh, h⟩ := bind_ok h
  cases h
  obtain ⟨order, item, hprepared⟩ := preparePurchaseOrderLine_ok hline
  exact .addOrderLine line order item hprepared.orderFound hprepared.draft (ensure_eq_ok.mp hfresh).1
    hprepared.itemFound hprepared.unit hprepared.received hprepared.rejected hprepared.ordered
    hprepared.source hadds

/-- An order that awaits a decision is written with another status. -/
theorem updatePurchaseOrder_step {inventory : InventoryStore} {order stored : PurchaseOrder}
    (hstored : inventory.orders.get? order.id = some stored)
    (horganization : order.organizationId = stored.organizationId)
    (hbefore : stored.status ∈ [PurchaseOrderStatus.draft, .submitted, .underReview])
    (hafter : order.status ∈ [PurchaseOrderStatus.draft, .submitted, .rejected, .cancelled])
    (hheader : order.sourceRequisitionId = stored.sourceRequisitionId ∨
      HeaderReady inventory order) :
    ProcurementStep service adds inventory (updatePurchaseOrder inventory order) :=
  .moveOrder { order with version := order.version + 1 } stored hstored horganization hbefore
    hafter hheader _ rfl

theorem updatePurchaseOrder_lines_step {inventory : InventoryStore} (order : PurchaseOrder)
    {stored : PurchaseOrder}
    (hstored : inventory.orders.get? order.id = some stored)
    (horganization : order.organizationId = stored.organizationId)
    (hbefore : stored.status ∈ [PurchaseOrderStatus.draft, .submitted, .underReview])
    (hafter : order.status ∈ [PurchaseOrderStatus.draft, .submitted, .rejected, .cancelled])
    (hheader : order.sourceRequisitionId = stored.sourceRequisitionId)
    (status : PurchaseOrderLineStatus) :
    ProcurementStep service adds inventory
      (updatePurchaseOrder (setOrderLineStatus inventory order.id status) order) := by
  refine .moveOrder { order with version := order.version + 1 } stored hstored horganization
    hbefore hafter (Or.inl hheader) _ ?_
  change (inventory.orderLines.rows.map _).map _ = _
  rw [List.map_map]
  apply List.map_congr_left
  intro line _
  simp only [Function.comp_apply]
  split <;> rfl

/-! ### Decisions -/

theorem decidedRequisition_ok {request : ApprovalRequest} {inventory : InventoryStore}
    {nextStatus : PurchaseRequisitionStatus} {requisition : PurchaseRequisition}
    (h : decidedRequisition request nextStatus inventory = .ok requisition) :
    ∃ stored, inventory.requisitions.get? requisition.id = some stored ∧
      stored.status ∈ [PurchaseRequisitionStatus.submitted, .underReview] ∧
      requisition.status = nextStatus := by
  obtain ⟨stored, hstored, h⟩ := bind_ok h
  obtain ⟨_, -, h⟩ := bind_ok h
  obtain ⟨_, hstatus, h⟩ := bind_ok h
  obtain ⟨_, -, h⟩ := bind_ok h
  cases h
  have hfound := require_eq_ok.mp hstored
  refine ⟨stored, ?_, ensure_eq_ok.mp hstatus, rfl⟩
  rw [show stored.id = request.entityId from (Table.get?_eq_some_iff.mp hfound).2]
  exact hfound

theorem decidedPurchaseOrder_ok {request : ApprovalRequest} {inventory : InventoryStore}
    {nextStatus : PurchaseOrderStatus} {order : PurchaseOrder}
    (h : decidedPurchaseOrder request nextStatus inventory = .ok order) :
    ∃ stored, inventory.orders.get? order.id = some stored ∧
      stored.status ∈ [PurchaseOrderStatus.submitted, .underReview] ∧
      order = { stored with status := nextStatus } := by
  obtain ⟨stored, hstored, h⟩ := bind_ok h
  obtain ⟨_, -, h⟩ := bind_ok h
  obtain ⟨_, hstatus, h⟩ := bind_ok h
  obtain ⟨_, -, h⟩ := bind_ok h
  cases h
  have hfound := require_eq_ok.mp hstored
  refine ⟨stored, ?_, ensure_eq_ok.mp hstatus, rfl⟩
  rw [show stored.id = request.entityId from (Table.get?_eq_some_iff.mp hfound).2]
  exact hfound

theorem decideRequisition_proceeds {request : ApprovalRequest}
    (hsettled : store.addedBalances = []) {nextStatus : PurchaseRequisitionStatus}
    (hnext : nextStatus ∈ [PurchaseRequisitionStatus.approved, .rejected])
    {lineStatus : PurchaseRequisitionLineStatus} (hline : lineStatus ≠ .fullySourced) :
    (decideRequisition nextStatus lineStatus request).Spec (.clean store)
      (fun _ next => ∃ state, next = .clean state ∧ Proceeds service adds store state)
      (fun _ next => next = .clean store) := by
  refine (decideRequisition_spec hsettled nextStatus lineStatus).mono ?_ fun _ _ h => h
  rintro - next ⟨requisition, hrequisition, rfl⟩
  obtain ⟨stored, hstored, hbefore, rfl⟩ := decidedRequisition_ok hrequisition
  refine ⟨_, rfl, hsettled, Or.inr ?_⟩
  refine .moveRequisition { requisition with version := requisition.version + 1 } stored hstored
    (List.mem_cons_of_mem _ hbefore) ?_ _ (Or.inr ⟨lineStatus, hline, rfl⟩)
  rcases List.mem_pair.mp hnext with h | h
  · simp [h]
  · simp [h]

theorem applySubmittedPurchaseOrderRejection_proceeds {request : ApprovalRequest}
    (hsettled : store.addedBalances = []) :
    (applySubmittedPurchaseOrderRejection request).Spec (.clean store)
      (fun _ next => ∃ state, next = .clean state ∧ Proceeds service adds store state)
      (fun _ next => next = .clean store) := by
  refine (applySubmittedPurchaseOrderRejection_spec hsettled).mono ?_ fun _ _ h => h
  rintro - next ⟨order, horder, rfl⟩
  obtain ⟨stored, hstored, hbefore, rfl⟩ := decidedPurchaseOrder_ok horder
  exact ⟨_, rfl, hsettled, Or.inr (updatePurchaseOrder_lines_step
    { stored with status := .rejected } hstored rfl (List.mem_cons_of_mem _ hbefore) (by simp) rfl
    .cancelled)⟩

theorem applySubmittedPurchaseOrderApproval_proceeds {request : ApprovalRequest}
    (hsettled : store.addedBalances = []) (balanceId : String → String)
    (hfits : ∀ order ∈ (decidedPurchaseOrder request .approved store.inventory).toOption,
      OrderFits service store.inventory order) :
    (applySubmittedPurchaseOrderApproval service balanceId request).Spec (.clean store)
      (fun _ next => ∃ state, next = .clean state ∧ Proceeds service adds store state)
      (fun _ next => next = .clean store) := by
  refine (applySubmittedPurchaseOrderApproval_spec hsettled balanceId).mono ?_ ?_
  · rintro - next ⟨order, approved, horder, rfl, happroved⟩
    obtain ⟨stored, hstored, hbefore, horderEq⟩ := decidedPurchaseOrder_ok horder
    exact ⟨_, rfl, hsettled, Or.inr (.approveOrder order stored approved hstored hbefore horderEq
      happroved)⟩
  · rintro e next (⟨hclean, -⟩ | ⟨order, horder, hunfit, -⟩)
    · exact hclean
    · refine absurd (hfits order ?_) hunfit
      rw [horder]
      rfl

theorem Proceeds.withApprovals {state : PlatformStore} (h : Proceeds service adds store state)
    (approvals : Table ApprovalRequest.id) :
    Proceeds service adds store { state with approvals := approvals } :=
  ⟨h.settled, h.inventory⟩

theorem approve_proceeds (hsettled : store.addedBalances = []) {requestId : String}
    (note : Option String) (balanceId : String → String)
    (hfits : ApprovalFits service store requestId) :
    ((ProcurementCall.approve requestId note balanceId).program service).Spec (.clean store)
      (fun _ next => ∃ state, next = .clean state ∧ Proceeds service adds store state)
      (fun _ next => ∃ state, next = .clean state ∧ Proceeds service adds store state) := by
  unfold ProcurementCall.program
  rw [Program.spec_bind]
  refine (approveAndApply_spec note (fun _ state => Proceeds service adds store state)
    (fun _ next => next = .clean store) ?_).mono ?_ ?_
  · intro request handler hrequest hhandler
    have hproceeds : (handler request).Spec (.clean store)
        (fun _ next => ∃ state, next = .clean state ∧ Proceeds service adds store state)
        (fun _ next => next = .clean store) := by
      obtain rfl | ⟨htype, rfl⟩ := procurementApplyHandlers_cases hhandler
      · exact decideRequisition_proceeds hsettled (by decide) (by decide)
      · refine applySubmittedPurchaseOrderApproval_proceeds hsettled balanceId ?_
        exact hfits request (by rw [hrequest]; rfl) htype
    refine hproceeds.mono ?_ fun _ _ h => h
    rintro - next ⟨state, rfl, hstate⟩
    exact ⟨state, rfl, hstate.settled, hstate⟩
  · rintro - next ⟨_, state, -, hstate, rfl⟩
    exact ⟨_, rfl, hstate.withApprovals _⟩
  · rintro e next (rfl | ⟨_, -, rfl⟩)
    · exact ⟨store, rfl, .refl service adds hsettled⟩
    · exact ⟨store, rfl, .refl service adds hsettled⟩

theorem reject_proceeds (hsettled : store.addedBalances = []) {requestId : String}
    (note : Option String) :
    ((ProcurementCall.reject requestId note).program service).Spec (.clean store)
      (fun _ next => ∃ state, next = .clean state ∧ Proceeds service adds store state)
      (fun _ next => ∃ state, next = .clean state ∧ Proceeds service adds store state) := by
  unfold ProcurementCall.program
  rw [Program.spec_bind]
  refine (reject_spec note (fun _ state => Proceeds service adds store state) ?_ hsettled
    fun _ => .refl service adds hsettled).mono ?_ ?_
  · intro request handler hhandler
    have hproceeds : (handler request).Spec (.clean store)
        (fun _ next => ∃ state, next = .clean state ∧ Proceeds service adds store state)
        (fun _ next => next = .clean store) := by
      obtain rfl | rfl := procurementRejectHandlers_cases hhandler
      · exact decideRequisition_proceeds hsettled (by decide) (by decide)
      · exact applySubmittedPurchaseOrderRejection_proceeds hsettled
    refine hproceeds.mono ?_ fun _ _ h => h
    rintro - next ⟨state, rfl, hstate⟩
    exact ⟨state, rfl, hstate.settled, hstate⟩
  · rintro - next ⟨_, state, hstate, -, _, rfl⟩
    exact ⟨_, rfl, hstate.withApprovals _⟩
  · rintro e next rfl
    exact ⟨store, rfl, .refl service adds hsettled⟩

def ProcurementCall.Adds (service : InventoryService) (store : InventoryStore)
    (call : ProcurementCall) (line : PurchaseOrderLine) : Prop :=
  ∃ arguments, call = .addPurchaseOrderLine arguments ∧
    preparePurchaseOrderLine service arguments store = .ok line

/-- A call whose approval fits, if it is one, leaves no open changes and takes at most one
step. -/
theorem program_proceeds (call : ProcurementCall) (hsettled : store.addedBalances = [])
    (hfits : ProcurementCall.Fits (.clean store) (service, call)) :
    (call.program service).Spec (.clean store)
      (fun _ next => ∃ state, next = .clean state ∧
        Proceeds service (call.Adds service store.inventory) store state)
      (fun _ next => ∃ state, next = .clean state ∧
        Proceeds service (call.Adds service store.inventory) store state) := by
  cases call with
  | createRequisition arguments =>
      apply inventoryCall_proceeds hsettled
      intro requisition inventory hprepared h
      exact insertRequisition_step (prepareRequisition_ok hprepared) h
  | addRequisitionLine arguments =>
      apply inventoryCall_proceeds hsettled
      intro line inventory hprepared h
      exact insertRequisitionLine_step (prepareRequisitionLine_ok hprepared) h
  | submitRequisition requisitionId requestId =>
      apply call_proceeds hsettled
      intro next h
      obtain ⟨plan, hplan, h⟩ := GuardedCall.effect_eq_ok.mp h
      obtain ⟨flushed, hflushed, h⟩ := bind_ok h
      rw [PlatformStore.flush_settled hsettled] at hflushed
      cases hflushed
      cases h
      obtain ⟨stored, hstored, hdraft, hsubmitted⟩ := prepareSubmittedRequisition_ok hplan
      exact ⟨hsettled, Or.inr (updateRequisition_lines_step hstored (by simp [hdraft])
        (by simp [hsubmitted]) .draft (by decide))⟩
  | updateRequisition arguments =>
      apply inventoryCall_proceeds hsettled
      intro requisition inventory hprepared h
      cases h
      obtain ⟨stored, hstored, hdraft, hafter⟩ := prepareUpdatedRequisition_ok hprepared
      exact updateRequisition_step hstored (by simp [hdraft]) (by simp [hafter])
  | cancelRequisition requisitionId expectedVersion =>
      apply inventoryCall_proceeds hsettled
      intro requisition inventory hprepared h
      cases h
      obtain ⟨stored, hstored, hdraft, hafter⟩ := prepareCancelledRequisition_ok hprepared
      exact updateRequisition_lines_step hstored (by simp [hdraft]) (by simp [hafter]) .cancelled
        (by decide)
  | createPurchaseOrder arguments =>
      apply inventoryCall_proceeds hsettled
      intro order inventory hprepared h
      exact insertPurchaseOrder_step (preparePurchaseOrder_ok hprepared) h
  | addPurchaseOrderLine arguments =>
      apply inventoryCall_proceeds hsettled
      intro line inventory hprepared h
      exact insertPurchaseOrderLine_step hprepared ⟨arguments, rfl, hprepared⟩ h
  | submitPurchaseOrder purchaseOrderId requestId =>
      apply call_proceeds hsettled
      intro next h
      obtain ⟨plan, hplan, h⟩ := GuardedCall.effect_eq_ok.mp h
      obtain ⟨flushed, hflushed, h⟩ := bind_ok h
      rw [PlatformStore.flush_settled hsettled] at hflushed
      cases hflushed
      cases h
      obtain ⟨stored, _, hstored, hdraft, hsubmitted⟩ := prepareSubmittedOrder_ok hplan
      rw [hsubmitted]
      exact ⟨hsettled, Or.inr (updatePurchaseOrder_step hstored rfl (by simp [hdraft]) (by simp)
        (Or.inl rfl))⟩
  | updatePurchaseOrder arguments =>
      apply inventoryCall_proceeds hsettled
      intro order inventory hprepared h
      cases h
      obtain ⟨⟨stored, hstored, hdraft, hafter, horganization⟩, hheader⟩ :=
        prepareUpdatedOrder_ok hprepared
      exact updatePurchaseOrder_step hstored horganization (by simp [hdraft]) (by simp [hafter])
        (Or.inr hheader)
  | cancelPurchaseOrder purchaseOrderId expectedVersion =>
      apply inventoryCall_proceeds hsettled
      intro order inventory hprepared h
      cases h
      obtain ⟨stored, hstored, hdraft, rfl⟩ := prepareCancelledOrder_ok hprepared
      exact updatePurchaseOrder_lines_step { stored with status := .cancelled } hstored rfl
        (by simp [hdraft]) (by simp) rfl .cancelled
  | sendPurchaseOrder purchaseOrderId =>
      apply inventoryCall_proceeds hsettled
      intro order inventory hprepared h
      cases h
      obtain ⟨stored, _, hstored, hbefore, rfl⟩ := prepareSentOrder_ok hprepared
      exact .sendOrder _ stored hstored rfl rfl hbefore rfl
  | closePurchaseOrder purchaseOrderId =>
      apply inventoryCall_proceeds hsettled
      intro order inventory hprepared h
      cases h
      obtain ⟨stored, hstored, hbefore, rfl, hprocessed⟩ := prepareClosedOrder_ok hprepared
      exact .closeOrder _ stored hstored rfl rfl hbefore rfl hprocessed
  | postReceipt arguments =>
      apply inventoryCall_proceeds hsettled
      intro plan inventory hprepared h
      exact postReceipt_step hprepared h
  | approve requestId note balanceId =>
      exact approve_proceeds hsettled note balanceId (hfits requestId rfl)
  | reject requestId note => exact reject_proceeds hsettled note

theorem runProcurementCall_proceeds {call : InventoryService × ProcurementCall}
    (hsettled : store.addedBalances = []) (hfits : ProcurementCall.Fits (.clean store) call) :
    ∃ state, (runProcurementCall call (.clean store)).2 = .clean state ∧
      Proceeds call.1 (call.2.Adds call.1 store.inventory) store state := by
  have hspec := (program_proceeds call.2 hsettled hfits).outcome
  unfold runProcurementCall
  generalize (call.2.program call.1).outcome (.clean store) = result at hspec ⊢
  obtain ⟨_ | e, next⟩ := result
  · obtain ⟨_, h⟩ := hspec
    exact h
  · exact hspec

end

/-! ## A yard that buys bolts -/

def boltYard : PlatformStore where
  sites := ⟨[{ id := "yard", organizationId := "org", currencyCode := "EUR" }], by decide⟩
  parties := ⟨[{ id := "supplier", organizationId := "org", partyType := .supplier }], by decide⟩
  approvals := .empty
  inventory :=
    { boltStore with
      storerooms := ⟨[{ id := "main", organizationId := "org", siteId := "yard"
                        isActive := true }], by decide⟩ }

/-- The user who decides on requests. -/
def purchasingOfficer : InventoryService :=
  { inventoryAdmin with
    principal := some ("p", "purchasing") }

/-- Ten bolts are asked for, and the requisition is submitted. -/
def boltRequisition : List (InventoryService × ProcurementCall) :=
  [(inventoryAdmin, .createRequisition
      { requestingSiteId := "yard", requestingStoreroomId := "main", requisitionId := "need"
        generatedNumber := "R1" }),
    (inventoryAdmin, .addRequisitionLine
      { requisitionId := "need", stockItemId := "bolt", quantityRequested := 10
        lineId := "need1" }),
    (inventoryAdmin, .submitRequisition "need" "request0")]

def boltOrder (number : String) : InventoryService × ProcurementCall :=
  (inventoryAdmin, .createPurchaseOrder
    { siteId := "yard", supplierPartyId := "supplier", orderId := "order" ++ number
      generatedNumber := number })

def boltLineArguments (number letter : String) (quantity : ℚ) (source : Option String) :
    OrderLineArguments where
  purchaseOrderId := "order" ++ number
  stockItemId := "bolt"
  destinationStoreroomId := "main"
  quantityOrdered := quantity
  sourceRequisitionLineId := source
  lineId := "line" ++ number ++ letter

def boltOrderLine (number letter : String) (quantity : ℚ) (source : Option String) :
    InventoryService × ProcurementCall :=
  (inventoryAdmin, .addPurchaseOrderLine (boltLineArguments number letter quantity source))

def submitBoltOrder (number : String) : InventoryService × ProcurementCall :=
  (inventoryAdmin, .submitPurchaseOrder ("order" ++ number) ("request" ++ number))

def approveBolts (number : String) : InventoryService × ProcurementCall :=
  (purchasingOfficer, .approve ("request" ++ number) none fun lineId => "balance" ++ lineId)

end ProjectManager
