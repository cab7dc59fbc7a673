import ProjectManager.Procurement.SourcingApproval

/-! # Runs and sourced quantities

A run keeps the sourced quantities as long as its approvals meet orders that fit
and its order lines draw on requisitions that are ready.
-/

namespace ProjectManager

open Foundation

section

variable {store next : InventoryStore}

/-- The requisition line that an order line draws on belongs to a requisition that is ready. -/
def SourceReady (store : InventoryStore) (line : PurchaseOrderLine) : Prop :=
  ∀ requisitionLineId ∈ line.sourceLineId,
    ∃ requisitionLine ∈ store.requisitionLines.get? requisitionLineId,
      ∃ requisition ∈ store.requisitions.get? requisitionLine.purchaseRequisitionId,
        requisition.IsReady

theorem ProcurementStep.sourcingInvariant {service : InventoryService}
    {adds : PurchaseOrderLine → Prop} (hstep : ProcurementStep service adds store next)
    (hadds : ∀ line, adds line → SourceReady store line) (h : SourcingInvariant store) :
    SourcingInvariant next := by
  cases hstep with
  | draftRequisition requisition hfresh hdraft => exact h.draftRequisition hfresh hdraft
  | addRequisitionLine line requisition hrequisition hdraft hfresh hstatus hsourced hrequested =>
      exact h.addRequisitionLine hrequisition hdraft hfresh hstatus hsourced hrequested
  | moveRequisition requisition stored hstored hbefore hafter lines hlines =>
      have hbefore := not_isSourcing_of_undecided hbefore
      have hafter : requisition.status ≠ .fullySourced := by
        intro hfull
        rw [hfull] at hafter
        exact absurd hafter (by decide)
      rcases hlines with rfl | ⟨status, hstatus, rfl⟩
      · refine h.moveRequisition (f := id) hstored hbefore hafter (List.map_id _).symm
          (fun line => ⟨line.status, rfl⟩) (fun _ _ => rfl) ?_
        intro line hline hparent hfull
        have hle := (h.lineStatus line hline).mp hfull
        rw [h.quantitySourced_eq_zero hline ?_] at hle
        · exact (h.requested line hline).not_ge hle
        · intro found hfound
          rw [hparent, Option.mem_def, hstored] at hfound
          cases hfound
          exact hbefore
      · refine h.moveRequisition hstored hbefore hafter rfl ?_ ?_ ?_
        · intro line
          split
          · exact ⟨status, rfl⟩
          · exact ⟨line.status, rfl⟩
        · exact fun line hne => if_neg hne
        · intro line _ hparent
          rw [if_pos hparent]
          exact hstatus
  | draftOrder order hfresh _ hheader => exact h.draftOrder hfresh hheader
  | addOrderLine line order item horder hdraft hfresh hitem hunit _ _ hordered hsource hadded =>
      refine h.addOrderLine horder hdraft hfresh hitem hunit hordered ?_
      intro requisitionLineId hreference
      obtain ⟨requisitionLine, hfound, -, hunit', -⟩ := hsource requisitionLineId hreference
      obtain ⟨_, hfound', hready⟩ := hadds line hadded requisitionLineId hreference
      rw [Option.mem_def, Option.mem_def.mp hfound] at hfound'
      obtain rfl := Option.some.inj hfound'
      exact ⟨requisitionLine, hfound, hunit', hready⟩
  | moveOrder order stored hstored _ hbefore hafter hheader lines hlines =>
      have hcounts : order.HasSourced ↔ stored.HasSourced := by
        unfold PurchaseOrder.HasSourced
        refine iff_of_false ?_ ?_
        · revert hafter
          cases order.status <;> decide
        · revert hbefore
          cases stored.status <;> decide
      have hupdated := h.updateOrder hstored hcounts hheader
      exact hupdated.relabelLines (map_terms_of_bare hlines)
  | sendOrder order stored hstored _ hheader hbefore hafter =>
      refine h.updateOrder hstored (iff_of_true ?_ ?_) (Or.inl hheader)
      · rw [PurchaseOrder.HasSourced, hafter]
        decide
      · exact List.mem_append_left
          [PurchaseOrderStatus.partiallyReceived, .fullyReceived, .closed] hbefore
  | closeOrder order stored hstored _ hheader hbefore hafter =>
      refine h.updateOrder hstored (iff_of_true ?_ hbefore) (Or.inl hheader)
      rw [PurchaseOrder.HasSourced, hafter]
      decide
  | receive order stored received hstored _ hheader hbefore hreceived hafter =>
      obtain ⟨_, _, _, _, orderLines, rfl, hterms⟩ := hreceived.frame
      have hcounts : order.HasSourced ↔ stored.HasSourced := by
        refine iff_of_true ?_ ?_
        · unfold PurchaseOrder.HasSourced
          rcases hafter with hpartly | ⟨hfully, -⟩
          · rw [hpartly]
            decide
          · rw [hfully]
            decide
        · exact List.mem_append_left [PurchaseOrderStatus.fullyReceived, .closed] hbefore
      have hupdated := (h.updateOrder hstored hcounts (Or.inl hheader)).relabelLines hterms
      exact ⟨⟨hupdated.sourced, hupdated.lineStatus, hupdated.status⟩, hupdated.references,
        hupdated.parents, hupdated.headers, hupdated.lineParents, hupdated.requested⟩
  | approveOrder order stored _ hstored hbefore horder happroved =>
      exact happroved.sourcingInvariant h hstored hbefore horder

end

/-- A line for an order without a requisition in its header draws on a requisition that is
ready. The call does not check this. -/
def HeaderlessSourceReady (service : InventoryService) (store : InventoryStore)
    (arguments : OrderLineArguments) : Prop :=
  (preparePurchaseOrderLine service arguments store).isOk = true →
    ∀ order ∈ store.orders.get? arguments.purchaseOrderId, order.sourceRequisitionId = none →
      ∀ requisitionLine ∈ store.requisitionLines.get?
          (normalizeOptionalText arguments.sourceRequisitionLineId),
        ∃ requisition ∈ store.requisitions.get? requisitionLine.purchaseRequisitionId,
          requisition.IsReady

instance (service : InventoryService) (store : InventoryStore) (arguments : OrderLineArguments) :
    Decidable (HeaderlessSourceReady service store arguments) :=
  inferInstanceAs (Decidable (_ → ∀ _ ∈ _, _ → ∀ _ ∈ _, ∃ _ ∈ _, _))

def ProcurementCall.addedLine : ProcurementCall → Option OrderLineArguments
  | .addPurchaseOrderLine arguments => some arguments
  | _ => none

/-- Approvals meet orders that fit, and lines draw on requisitions that are ready. -/
def ProcurementCall.FitsReady (session : Session PlatformStore)
    (call : InventoryService × ProcurementCall) : Prop :=
  ProcurementCall.Fits session call ∧
    ∀ arguments ∈ call.2.addedLine,
      HeaderlessSourceReady call.1 session.pending.inventory arguments

instance (session : Session PlatformStore) (call : InventoryService × ProcurementCall) :
    Decidable (ProcurementCall.FitsReady session call) :=
  inferInstanceAs (Decidable (_ ∧ ∀ _ ∈ _, _))

/-- The order lines that a call may add draw on requisitions that are ready. -/
def ProcurementCall.AddsReady (session : Session PlatformStore)
    (call : InventoryService × ProcurementCall) : Prop :=
  ∀ line, call.2.Adds call.1 session.pending.inventory line →
    SourceReady session.pending.inventory line

theorem addsReady_of_fitsReady {store : PlatformStore}
    {call : InventoryService × ProcurementCall} (h : SourcingInvariant store.inventory)
    (hready : ProcurementCall.FitsReady (.clean store) call) :
    ProcurementCall.AddsReady (.clean store) call := by
  rintro line ⟨arguments, hcall, hprepared⟩ requisitionLineId hreference
  obtain ⟨order, item, hline⟩ := preparePurchaseOrderLine_ok hprepared
  obtain ⟨requisitionLine, hfound, -, -, hheader, hdemand⟩ :=
    hline.source requisitionLineId hreference
  refine ⟨requisitionLine, hfound, ?_⟩
  cases hsource : order.sourceRequisitionId with
  | none =>
      have hready := hready.2 arguments (by rw [hcall]; rfl)
      refine hready (by rw [hprepared]; rfl) order ?_ hsource requisitionLine ?_
      · rw [← hline.purchaseOrderId]
        exact hline.orderFound
      · rw [← hline.sourceId requisitionLineId hreference]
        exact hfound
  | some requisitionId =>
      exact h.ready_of_header (Table.get?_eq_some_iff.mp hline.orderFound).1 hsource
        (Table.get?_eq_some_iff.mp hfound).1 (hheader requisitionId hsource) hdemand

/-- No call is waiting to be committed, and the sourced quantities agree. -/
def SourcingSettled (session : Session PlatformStore) : Prop :=
  ∃ store, session = .clean store ∧ store.addedBalances = [] ∧ SourcingInvariant store.inventory

theorem runProcurementCall_sourcingSettled (session : Session PlatformStore)
    (call : InventoryService × ProcurementCall) (hready : ProcurementCall.FitsReady session call)
    (h : SourcingSettled session) : SourcingSettled (runProcurementCall call session).2 := by
  obtain ⟨store, rfl, hsettled, hinvariant⟩ := h
  obtain ⟨state, hstate, hproceeds⟩ := runProcurementCall_proceeds hsettled hready.1
  refine ⟨state, hstate, hproceeds.settled, ?_⟩
  rcases hproceeds.inventory with hsame | hstep
  · rw [hsame]
    exact hinvariant
  · exact hstep.sourcingInvariant (addsReady_of_fitsReady hinvariant hready) hinvariant

/-! ## Approvals -/

/-- Every line of an order can be counted on order. -/
def StockSideFits (service : InventoryService) (store : InventoryStore) (order : PurchaseOrder) :
    Prop :=
  ∀ before line after, listForPurchaseOrder store order.id = before ++ line :: after →
    ∃ item, getItemForInternalUse service store line.stockItemId = .ok item ∧
      StockFits store order before item line

/-- What the lines of an order order of a requisition line fits its demand. -/
def QuantitiesFit (store : InventoryStore) (order : PurchaseOrder) : Prop :=
  ∀ requisitionLine ∈ store.requisitionLines.rows,
    requisitionLine.quantitySourced +
        store.sourcedFrom (listForPurchaseOrder store order.id) requisitionLine ≤
      requisitionLine.quantityRequested

section

variable {service : InventoryService} {store : InventoryStore} {order : PurchaseOrder}

theorem SourcingInvariant.linesFit (h : SourcingInvariant store)
    (hstock : StockSideFits service store order) (hquantities : QuantitiesFit store order)
    (before lines : List PurchaseOrderLine)
    (hlines : listForPurchaseOrder store order.id = before ++ lines) :
    LinesFit service store order before lines := by
  induction lines generalizing before with
  | nil => trivial
  | cons line rest ih =>
      have hall : ∀ other ∈ before ++ line :: rest, other ∈ store.orderLines.rows :=
        fun other hother => (mem_listForPurchaseOrder.mp (hlines ▸ hother)).1
      refine ⟨?_, ih (before ++ [line]) (by rw [hlines, List.append_assoc]; rfl)⟩
      obtain ⟨item, hitem, hfits⟩ := hstock before line rest hlines
      refine ⟨item, toOption_eq_some.mpr hitem, hfits, fun requisitionLineId hreference => ?_⟩
      obtain ⟨-, hrefers⟩ := h.references line (hall line (by simp))
      obtain ⟨requisitionLine, hfound, ⟨unitItem, hunitItem, hunit, hunit'⟩, -⟩ :=
        hrefers requisitionLineId hreference
      obtain ⟨hfoundItem, -⟩ := getItemForInternalUse_ok hitem
      rw [Option.mem_def, hfoundItem] at hunitItem
      cases hunitItem
      obtain ⟨hmem, hid⟩ := Table.get?_eq_some_iff.mp hfound
      refine ⟨requisitionLine, hfound, ⟨hunit, hunit'⟩, ?_⟩
      have hquantity := hquantities requisitionLine hmem
      rw [hlines, List.append_cons, sourcedFrom_append, sourcedFrom_append,
        sourcedFrom_singleton, if_pos (hreference.trans (congrArg some hid.symm))] at hquantity
      have hrest : 0 ≤ store.sourcedFrom rest requisitionLine :=
        h.sourcedFrom_nonneg hmem fun other hother => hall other (by simp [hother])
      have hconverted : store.convertedQuantity line requisitionLine.uom =
          line.quantityOrdered * uomFactor item line.uom / uomFactor item requisitionLine.uom := by
        unfold InventoryStore.convertedQuantity
        rw [hfoundItem]
        rfl
      rw [hconverted] at hquantity
      linarith

/-- Nothing on the side of the requisitions stops the approval of an order whose quantities
fit. -/
theorem SourcingInvariant.orderFits (h : SourcingInvariant store)
    (hstock : StockSideFits service store order) (hquantities : QuantitiesFit store order) :
    OrderFits service store order := by
  refine ⟨h.linesFit hstock hquantities [] _ rfl, ?_⟩
  intro line hline requisitionId htouched requisition hfound
  obtain ⟨requisitionLine, hsource, hparent⟩ := Option.map_eq_some_iff.mp htouched
  obtain ⟨requisitionLineId, hreference, hrequisitionLine⟩ := Option.bind_eq_some_iff.mp hsource
  obtain ⟨-, hrefers⟩ := h.references line (mem_listForPurchaseOrder.mp hline).1
  obtain ⟨found, hfoundLine, -, sourcing, hsourcing, hstatus⟩ := hrefers _ hreference
  rw [Option.mem_def, hrequisitionLine] at hfoundLine
  cases hfoundLine
  rw [hparent, Option.mem_def, Option.mem_def.mp hfound] at hsourcing
  cases hsourcing
  obtain ⟨hmem, rfl⟩ := Table.get?_eq_some_iff.mp hfound
  have hnext := nextRequisitionStatus_mem requisition.status
    (store.sourcedLines (listForPurchaseOrder store order.id) requisition.id)
  by_cases hfull : requisition.status = .fullySourced
  · have hlines : ∀ line ∈ listForPurchaseOrder store order.id, line ∈ store.orderLines.rows :=
      fun line hline => (mem_listForPurchaseOrder.mp hline).1
    have hrows := h.sourcedLines_fullySourced hlines hmem hfull
    unfold nextRequisitionStatus
    rw [if_pos hrows, hfull, ite_self]
    exact List.mem_cons_self
  · generalize nextRequisitionStatus requisition.status _ = nextStatus at hnext ⊢
    unfold PurchaseRequisition.IsSourcing at hstatus
    revert hnext hstatus hfull
    cases requisition.status <;> cases nextStatus <;> decide

/-- The approval of an order that fits raises only when it takes a stock position twice. -/
theorem approval_outcome {platform : PlatformStore} {request : ApprovalRequest}
    (hsettled : platform.addedBalances = []) (balanceId : String → String)
    (hdecided : decidedPurchaseOrder request .approved platform.inventory = .ok order)
    (hfits : OrderFits service platform.inventory order) :
    let raised := ((applySubmittedPurchaseOrderApproval service balanceId request).outcome
      (.clean platform)).1
    raised = none ∨ raised = some takenStockPosition := by
  have hspec := Program.Spec.outcome
    (show (applySubmittedPurchaseOrderApproval service balanceId request).Spec _ _ _ from
      applySubmittedPurchaseOrderApproval_spec hsettled balanceId)
  generalize (applySubmittedPurchaseOrderApproval service balanceId request).outcome
    (.clean platform) = result at hspec ⊢
  obtain ⟨_ | e, next⟩ := result
  · exact Or.inl rfl
  · rcases hspec with ⟨-, rfl | herror⟩ | ⟨other, hother, hunfit, -⟩
    · exact Or.inr rfl
    · rw [hdecided] at herror
      cases herror
    · rw [hdecided] at hother
      cases hother
      exact absurd hfits hunfit

end

/-- Nothing was requested or ordered yet. -/
structure NoProcurement (store : InventoryStore) : Prop where
  requisitions : store.requisitions.rows = []
  requisitionLines : store.requisitionLines.rows = []
  orders : store.orders.rows = []
  orderLines : store.orderLines.rows = []

theorem NoProcurement.sourcingInvariant {store : InventoryStore} (h : NoProcurement store) :
    SourcingInvariant store := by
  have hrequisitions : ∀ row, row ∉ store.requisitions.rows := by
    rw [h.requisitions]
    exact fun row => List.not_mem_nil
  have hrequisitionLines : ∀ row, row ∉ store.requisitionLines.rows := by
    rw [h.requisitionLines]
    exact fun row => List.not_mem_nil
  have horders : ∀ row, row ∉ store.orders.rows := by
    rw [h.orders]
    exact fun row => List.not_mem_nil
  have horderLines : ∀ row, row ∉ store.orderLines.rows := by
    rw [h.orderLines]
    exact fun row => List.not_mem_nil
  constructor
  · constructor
    · exact fun row hrow => absurd hrow (hrequisitionLines row)
    · exact fun row hrow => absurd hrow (hrequisitionLines row)
    · exact fun row hrow => absurd hrow (hrequisitions row)
  · exact fun row hrow => absurd hrow (horderLines row)
  · exact fun row hrow => absurd hrow (horderLines row)
  · exact fun row hrow => absurd hrow (horders row)
  · exact fun row hrow => absurd hrow (hrequisitionLines row)
  · exact fun row hrow => absurd hrow (hrequisitionLines row)

/-- In every run whose approvals meet orders that fit and whose lines draw on requisitions that
are ready, sourced quantities agree with the approved orders, order lines are only added for
requisitions that are ready, and an order whose quantities fit and whose lines can be counted on
order (`StockSideFits`) is approved, unless its stock position is taken. -/
theorem procurementRun_sourcingAgrees (calls : List (InventoryService × ProcurementCall))
    (store : PlatformStore) (hsettled : store.addedBalances = [])
    (hnone : NoProcurement store.inventory)
    (hready : EachCall runProcurementCall ProcurementCall.FitsReady (.clean store) calls) :
    let last := (sessionAfter runProcurementCall (.clean store) calls).committed
    SourcingAgrees last.inventory ∧
      EachCall runProcurementCall ProcurementCall.AddsReady (.clean store) calls ∧
      ∀ service request order balanceId,
        decidedPurchaseOrder request .approved last.inventory = .ok order →
        StockSideFits service last.inventory order → QuantitiesFit last.inventory order →
          let raised := ((applySubmittedPurchaseOrderApproval service balanceId request).outcome
            (.clean last)).1
          raised = none ∨ raised = some takenStockPosition := by
  have hstart : SourcingSettled (.clean store) := ⟨store, rfl, hsettled, hnone.sourcingInvariant⟩
  obtain ⟨last, hlast, hlastSettled, hinvariant⟩ :=
    sessionAfter_invariant runProcurementCall_sourcingSettled calls hready hstart
  rw [hlast]
  refine ⟨hinvariant.toSourcingAgrees, ?_, ?_⟩
  · refine hready.conclude runProcurementCall_sourcingSettled ?_ hstart
    rintro session call hcall ⟨state, rfl, -, hstate⟩
    exact addsReady_of_fitsReady hstate hcall
  · intro service request order balanceId hdecided hstock hquantities
    exact approval_outcome hlastSettled balanceId hdecided
      (hinvariant.orderFits hstock hquantities)

theorem boltYard_noProcurement : NoProcurement boltYard.inventory :=
  ⟨rfl, rfl, rfl, rfl⟩

theorem procurementRun_sourcingAgrees_bolts :
    SourcingAgrees
      (sessionAfter runProcurementCall (.clean boltYard) boltDelivery).committed.inventory :=
  (procurementRun_sourcingAgrees boltDelivery boltYard rfl boltYard_noProcurement
    (by decide +kernel)).1

/-- An order without a requisition in its header draws on a requisition that is still a
draft. -/
def boltDraftSourcing : List (InventoryService × ProcurementCall) :=
  boltRequisition.take 2 ++ [boltOrder "1", boltOrderLine "1" "a" 10 (some "need1")]

theorem not_addsReady_bolts :
    let last := (sessionAfter runProcurementCall (.clean boltYard) boltDraftSourcing).committed
    last.inventory.orderLines.ids = ["line1a"] ∧
      ¬ EachCall runProcurementCall ProcurementCall.AddsReady (.clean boltYard)
        boltDraftSourcing := by
  refine ⟨by decide +kernel, ?_⟩
  rintro ⟨-, -, -, hadds, -⟩
  let store := (sessionAfter runProcurementCall (.clean boltYard)
    (boltDraftSourcing.take 3)).pending.inventory
  have hsource : ∀ line ∈ (preparePurchaseOrderLine inventoryAdmin
      (boltLineArguments "1" "a" 10 (some "need1")) store).toOption,
        line.sourceLineId = some "need1" := by
    decide +kernel
  have hunready : ¬ ∃ requisitionLine ∈ store.requisitionLines.get? "need1",
      ∃ requisition ∈ store.requisitions.get? requisitionLine.purchaseRequisitionId,
        requisition.IsReady := by
    decide +kernel
  have hprepared : (preparePurchaseOrderLine inventoryAdmin
      (boltLineArguments "1" "a" 10 (some "need1")) store).toOption.isSome := by
    decide +kernel
  obtain ⟨line, hline⟩ := Option.isSome_iff_exists.mp hprepared
  exact hunready (hadds line ⟨_, rfl, toOption_eq_some.mp hline⟩ "need1" (hsource line hline))

end ProjectManager
