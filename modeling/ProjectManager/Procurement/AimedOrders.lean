import ProjectManager.Approval.Handlers
import ProjectManager.Procurement.OrderAims

/-! # Orders whose lines agree with their headers

A decision keeps headers and aims even where it raises half way, and so does every
other call but the update of a draft. Lines are checked when they are added; an update
has to be looked at.
-/

namespace ProjectManager

open Foundation ServiceProgram

/-! ## Decisions -/

section

variable {aims : OrderAims}

theorem aims_commit : ServiceProgram.commit.Keeps fun store => store.inventory.orderAims = aims := by
  apply keeps_commit
  intro store next h hflush
  obtain ⟨⟨balances, rfl⟩, -⟩ := flush_ok hflush
  exact h

theorem aims_write {f : InventoryStore → InventoryStore}
    (hf : ∀ store : InventoryStore, store.orderAims = aims → (f store).orderAims = aims) :
    (write fun store => .ok (f store)).Keeps fun store => store.inventory.orderAims = aims := by
  apply keeps_write
  intro store inventory h hwritten
  cases hwritten
  exact hf store.inventory h

theorem decideRequisition_aims (nextStatus : PurchaseRequisitionStatus)
    (lineStatus : PurchaseRequisitionLineStatus) (request : ApprovalRequest) :
    (decideRequisition nextStatus lineStatus request).Keeps
      fun store => store.inventory.orderAims = aims := by
  unfold decideRequisition
  refine keeps_read.bind fun requisition => ?_
  refine (aims_write fun store h => ?_).bind fun _ => ?_
  · exact h
  refine (aims_write fun store h => ?_).bind fun _ => aims_commit
  exact (orderAims_setRequisitionLineStatus _ _).trans h

theorem decidedPurchaseOrder_header {request : ApprovalRequest} {status : PurchaseOrderStatus}
    {store : InventoryStore} {order : PurchaseOrder}
    (h : decidedPurchaseOrder request status store = .ok order) :
    order.header ∈ store.orderAims.headers := by
  obtain ⟨stored, hstored, h⟩ := bind_ok h
  iterate 3 obtain ⟨_, -, h⟩ := bind_ok h
  cases h
  have hheader : stored.header ∈ store.orderAims.headers :=
    header_mem (Table.get?_eq_some_iff.mp (require_eq_ok.mp hstored)).1
  exact hheader

theorem sourceRequisitionLine_origin {item : StockItem} {line : PurchaseOrderLine}
    {requisitionLineId : String} {store : InventoryStore} {sourced : PurchaseRequisitionLine}
    (h : sourceRequisitionLine item line requisitionLineId store = .ok sourced) :
    sourced.origin ∈ store.orderAims.origins := by
  obtain ⟨stored, hstored, h⟩ := bind_ok h
  iterate 2 obtain ⟨_, -, h⟩ := bind_ok h
  cases h
  have horigin : stored.origin ∈ store.orderAims.origins :=
    origin_mem (Table.get?_eq_some_iff.mp (require_eq_ok.mp hstored)).1
  exact horigin

theorem storeOnOrder_aims (order : PurchaseOrder) (item : StockItem) (line : PurchaseOrderLine)
    (balanceId : String) :
    (storeOnOrder order item line balanceId).Keeps
      fun store => store.inventory.orderAims = aims := by
  apply Program.keeps_step
  intro store next h hstep
  obtain ⟨written, -, hstep⟩ := bind_ok hstep
  split at hstep <;> obtain rfl := Except.ok.inj hstep <;> exact h

theorem approveLine_aims (service : InventoryService) (order : PurchaseOrder) (balanceId : String)
    {line : PurchaseOrderLine} (hline : line.aim ∈ aims.aims) :
    (approveLine service order balanceId line).Keeps
      fun store => store.inventory.orderAims = aims := by
  unfold approveLine
  refine (aims_write fun store h => ?_).bind fun _ => ?_
  · let opened : PurchaseOrderLine := { line with status := .open }
    have haim : opened.aim ∈ store.orderAims.aims := h ▸ hline
    exact (orderAims_updateLine haim).trans h
  refine keeps_read.bind fun item => ?_
  refine (storeOnOrder_aims order item line balanceId).bind fun _ => ?_
  cases line.sourceLineId with
  | none => exact Program.keeps_pure
  | some requisitionLineId =>
      refine keeps_read_bind fun sourced store hstore hsourced => ?_
      have horigin : sourced.origin ∈ aims.origins := hstore ▸ sourceRequisitionLine_origin hsourced
      refine (aims_write fun current h => ?_).bind fun _ => Program.keeps_pure
      exact (orderAims_updateRequisitionLine (h ▸ horigin)).trans h

theorem refreshTouchedRequisition_aims (requisitionId : String) :
    (refreshTouchedRequisition requisitionId).Keeps
      fun store => store.inventory.orderAims = aims := by
  apply keeps_write
  intro store inventory h hwritten
  split at hwritten
  · obtain rfl := Except.ok.inj hwritten
    exact h
  · unfold refreshRequisitionStatus at hwritten
    simp only at hwritten
    split at hwritten
    · obtain rfl := Except.ok.inj hwritten
      exact h
    · obtain ⟨_, -, hwritten⟩ := bind_ok hwritten
      cases hwritten
      exact h

theorem applySubmittedPurchaseOrderApproval_aims (service : InventoryService)
    (balanceId : String → String) (request : ApprovalRequest) :
    (applySubmittedPurchaseOrderApproval service balanceId request).Keeps
      fun store => store.inventory.orderAims = aims := by
  unfold applySubmittedPurchaseOrderApproval
  refine keeps_read_bind fun order store hstore horder => ?_
  have hheader : order.header ∈ aims.headers := hstore ▸ decidedPurchaseOrder_header horder
  refine (aims_write fun current h => ?_).bind fun _ => ?_
  · exact (orderAims_updatePurchaseOrder (h ▸ hheader)).trans h
  refine keeps_read_bind fun lines current hcurrent hlines => ?_
  have hlisted : ∀ line ∈ lines, line.aim ∈ aims.aims := by
    intro line hline
    cases hlines
    exact hcurrent ▸ aim_mem (mem_listForPurchaseOrder.mp hline).1
  refine Program.Keeps.bind ?_ fun touched => ?_
  · unfold approveLines
    refine Program.keeps_foldlM _ _ fun touched line hline => ?_
    exact (approveLine_aims service order _ (hlisted line hline)).bind fun _ => Program.keeps_pure
  · refine Program.Keeps.bind ?_ fun _ => aims_commit
    exact Program.keeps_forM _ fun requisitionId _ => refreshTouchedRequisition_aims requisitionId

theorem applySubmittedPurchaseOrderRejection_aims (request : ApprovalRequest) :
    (applySubmittedPurchaseOrderRejection request).Keeps
      fun store => store.inventory.orderAims = aims := by
  unfold applySubmittedPurchaseOrderRejection
  refine keeps_read_bind fun order store hstore horder => ?_
  have hheader : order.header ∈ aims.headers := hstore ▸ decidedPurchaseOrder_header horder
  refine (aims_write fun current h => ?_).bind fun _ => ?_
  · exact (orderAims_updatePurchaseOrder (h ▸ hheader)).trans h
  refine (aims_write fun current h => ?_).bind fun _ => aims_commit
  exact (orderAims_setOrderLineStatus _ _).trans h

theorem approveAndApply_aims (service : InventoryService) (balanceId : String → String)
    (requestId : String) (note : Option String) :
    (approveAndApply service (procurementApplyHandlers service balanceId) requestId note).Keeps
      fun store => store.inventory.orderAims = aims :=
  approveAndApply_keeps aims_commit (keeps_updateRequest fun _ _ h => h)
    (decideRequisition_aims _ _) (applySubmittedPurchaseOrderApproval_aims service balanceId)

theorem reject_aims (service : InventoryService) (requestId : String) (note : Option String) :
    (reject service procurementRejectHandlers requestId note).Keeps
      fun store => store.inventory.orderAims = aims :=
  reject_keeps aims_commit (keeps_updateRequest fun _ _ h => h) (decideRequisition_aims _ _)
    applySubmittedPurchaseOrderRejection_aims

end

/-! ## Sessions -/

/-- Every line agrees with its header, in what is committed and in what the session sees, which
may differ in other things only. -/
structure AimedSession (session : Session PlatformStore) : Prop where
  aims : session.pending.inventory.orderAims = session.committed.inventory.orderAims
  aimed : LinesAimed session.pending.inventory

theorem aimedSession_clean {store : PlatformStore} (h : LinesAimed store.inventory) :
    AimedSession (.clean store) :=
  ⟨rfl, h⟩

section

variable {session : Session PlatformStore}

theorem AimedSession.committed (h : AimedSession session) :
    LinesAimed session.committed.inventory :=
  h.aimed.congr h.aims.symm

theorem AimedSession.keeps {α : Type} {program : ServiceProgram α} (h : AimedSession session)
    (hprogram : ∀ aims, program.Keeps fun store => store.inventory.orderAims = aims) :
    AimedSession (program.outcome session).2 := by
  have hboth : session.Both fun store =>
      store.inventory.orderAims = session.committed.inventory.orderAims := ⟨rfl, h.aims⟩
  obtain ⟨hcommitted, hpending⟩ := (hprogram _).outcome hboth
  exact ⟨hpending.trans hcommitted.symm, h.aimed.congr (hpending.trans h.aims.symm)⟩

theorem AimedSession.call {guarded : GuardedCall DomainError PlatformStore}
    (h : AimedSession session)
    (hbody : ∀ plan next, guarded.checks session.pending = .ok plan →
      guarded.body plan session.pending = .ok next → LinesAimed next.inventory) :
    AimedSession ((Program.call guarded).outcome session).2 := by
  rw [Program.outcome_call]
  unfold GuardedCall.run
  cases hchecks : guarded.checks session.pending with
  | error e => exact h
  | ok plan =>
      simp only
      cases hwritten : guarded.body plan session.pending with
      | error e => exact aimedSession_clean h.committed
      | ok next => exact aimedSession_clean (hbody plan next hchecks hwritten)

/-- A call flushes first, which changes no header and no aim. -/
theorem AimedSession.inventoryCall {Plan : Type} {checks : PlatformStore → Except DomainError Plan}
    {body : Plan → InventoryStore → Except DomainError InventoryStore} (h : AimedSession session)
    (hbody : ∀ plan balances inventory, checks session.pending = .ok plan →
      body plan { session.pending.inventory with balances := balances } = .ok inventory →
        LinesAimed inventory) :
    AimedSession ((Program.call (inventoryCall checks body)).outcome session).2 := by
  apply h.call
  intro plan next hplan hwritten
  obtain ⟨flushed, hflushed, hwritten⟩ := bind_ok hwritten
  obtain ⟨inventory, hinventory, hwritten⟩ := bind_ok hwritten
  cases hwritten
  obtain ⟨⟨balances, rfl⟩, -⟩ := flush_ok hflushed
  exact hbody plan balances inventory hplan hinventory

end

/-! ## Updates of a draft -/

/-- The update moves no line away from its storeroom or its requisition. -/
def OrderUpdate.KeepsLines (service : InventoryService) (arguments : OrderUpdate)
    (store : PlatformStore) : Prop :=
  (prepareUpdatedOrder service arguments store).isOk = true →
    ∀ line ∈ store.inventory.orderLines.rows, line.purchaseOrderId = arguments.purchaseOrderId →
      (normalizeOptionalText arguments.siteId ≠ "" →
        ReceivedAt store.inventory (normalizeOptionalText arguments.siteId) line) ∧
      (normalizeOptionalText arguments.sourceRequisitionId ≠ "" →
        DrawsOn store.inventory (normalizeOptionalText arguments.sourceRequisitionId) line)

instance (service : InventoryService) (arguments : OrderUpdate) (store : PlatformStore) :
    Decidable (arguments.KeepsLines service store) :=
  inferInstanceAs (Decidable (_ → ∀ _ ∈ _, _ → (_ → _) ∧ (_ → _)))

section

variable {service : InventoryService} {store : PlatformStore}

theorem getSite_id {siteId : String} {site : Site} (h : getSite service store siteId = .ok site) :
    site.id = siteId := by
  iterate 3 obtain ⟨_, -, h⟩ := bind_ok h
  obtain ⟨found, hfound, h⟩ := bind_ok h
  obtain ⟨_, -, h⟩ := bind_ok h
  cases h
  obtain ⟨hfound, -⟩ := Option.filter_eq_some_iff.mp (require_eq_ok.mp hfound)
  exact (Table.get?_eq_some_iff.mp hfound).2

/-- The header of an updated draft: its site is the given or the stored one, and its requisition is
the given one. -/
theorem prepareUpdatedOrder_header {arguments : OrderUpdate} {order : PurchaseOrder}
    (h : prepareUpdatedOrder service arguments store = .ok order) :
    ∃ stored ∈ store.inventory.orders.rows, stored.id = order.id ∧
      order.id = arguments.purchaseOrderId ∧
      order.siteId = orElse (normalizeOptionalText arguments.siteId) stored.siteId ∧
      ∀ requisitionId ∈ order.sourceRequisitionId,
        requisitionId = normalizeOptionalText arguments.sourceRequisitionId := by
  obtain ⟨_, -, h⟩ := bind_ok h
  obtain ⟨stored, hstored, h⟩ := bind_ok h
  iterate 2 obtain ⟨_, -, h⟩ := bind_ok h
  obtain ⟨⟨site, supplier⟩, hpartners, h⟩ := bind_ok h
  obtain ⟨source, hsource, h⟩ := bind_ok h
  obtain ⟨_, -, h⟩ := bind_ok h
  cases h
  obtain ⟨found, hsite, hpartners⟩ := bind_ok hpartners
  iterate 3 obtain ⟨_, -, hpartners⟩ := bind_ok hpartners
  obtain ⟨rfl, -⟩ := Prod.mk.inj (Except.ok.inj hpartners)
  obtain ⟨hfound, -, hid⟩ := requireDraftPurchaseOrder_ok hstored
  refine ⟨stored, (Table.get?_eq_some_iff.mp hfound).1, rfl, hid, getSite_id hsite, ?_⟩
  intro requisitionId hmem
  obtain ⟨requisition, hrequisition, rfl⟩ := Option.map_eq_some_iff.mp hmem
  rw [hrequisition] at hsource
  unfold validateSourceRequisition at hsource
  simp only at hsource
  split at hsource
  · cases hsource
  · obtain ⟨_, hrow, hsource⟩ := bind_ok hsource
    obtain ⟨_, -, hsource⟩ := bind_ok hsource
    obtain rfl := Option.some.inj (Except.ok.inj hsource)
    obtain ⟨hrow, -⟩ := Option.filter_eq_some_iff.mp (require_eq_ok.mp hrow)
    exact (Table.get?_eq_some_iff.mp hrow).2

/-- An update that keeps the lines where they are leaves them in agreement with the header. -/
theorem updatePurchaseOrder_linesAimed {arguments : OrderUpdate} {order : PurchaseOrder}
    {balances : Table StockBalance.position} (h : LinesAimed store.inventory)
    (hkeeps : arguments.KeepsLines service store)
    (hprepared : prepareUpdatedOrder service arguments store = .ok order) :
    LinesAimed
      (updatePurchaseOrder { store.inventory with balances := balances } order) := by
  obtain ⟨stored, hstored, hid, hnamed, hsite, hsource⟩ := prepareUpdatedOrder_header hprepared
  have haccepted : (prepareUpdatedOrder service arguments store).isOk = true := by
    rw [hprepared]
    rfl
  intro line hline
  obtain ⟨current, hcurrent, haimed⟩ := h line hline
  by_cases hsame : current.id = order.id
  · obtain rfl := store.inventory.orders.eq_of_key_eq hcurrent hstored (hsame.trans hid.symm)
    have hparent : line.purchaseOrderId = arguments.purchaseOrderId :=
      haimed.parent.symm.trans (hsame.trans hnamed)
    obtain ⟨hreceived, hdraws⟩ := hkeeps haccepted line hline hparent
    refine ⟨{ order with version := order.version + 1 }, ?_, hsame.symm.trans haimed.parent, ?_, ?_⟩
    · exact Table.mem_update_self hstored hid.symm
    · change ReceivedAt _ order.siteId line
      rw [hsite]
      unfold orElse
      split
      · exact haimed.received
      next hgiven => exact hreceived hgiven
    · intro requisitionId hmem hne
      obtain rfl := hsource requisitionId hmem
      exact hdraws hne
  · exact ⟨current, Table.mem_update_iff.mpr (Or.inr ⟨hcurrent, hsame⟩), haimed.parent,
      haimed.received, haimed.source⟩

/-! ## Other calls -/

theorem getStoreroom_mem {storeroomId : String} {inventory : InventoryStore}
    {storeroom : Storeroom}
    (h : getStoreroom service inventory storeroomId = .ok storeroom) :
    storeroom ∈ inventory.storerooms.rows := by
  iterate 2 obtain ⟨_, -, h⟩ := bind_ok h
  obtain ⟨_, hfound, h⟩ := bind_ok h
  obtain ⟨_, -, h⟩ := bind_ok h
  cases h
  obtain ⟨hfound, -⟩ := Option.filter_eq_some_iff.mp (require_eq_ok.mp hfound)
  exact (Table.get?_eq_some_iff.mp hfound).1

theorem preparePurchaseOrderLine_aimedBy {arguments : OrderLineArguments}
    {inventory : InventoryStore} {line : PurchaseOrderLine}
    (h : preparePurchaseOrderLine service arguments inventory = .ok line) :
    ∃ order ∈ inventory.orders.rows, AimedBy inventory line order := by
  obtain ⟨_, -, h⟩ := bind_ok h
  obtain ⟨order, horder, h⟩ := bind_ok h
  obtain ⟨item, -, h⟩ := bind_ok h
  iterate 2 obtain ⟨_, -, h⟩ := bind_ok h
  obtain ⟨storeroom, hstoreroom, h⟩ := bind_ok h
  obtain ⟨_, -, h⟩ := bind_ok h
  obtain ⟨_, hsite, h⟩ := bind_ok h
  iterate 3 obtain ⟨_, -, h⟩ := bind_ok h
  obtain ⟨source, hsource, h⟩ := bind_ok h
  iterate 2 obtain ⟨_, -, h⟩ := bind_ok h
  cases h
  obtain ⟨hfound, -, -⟩ := requireDraftPurchaseOrder_ok horder
  refine ⟨order, (Table.get?_eq_some_iff.mp hfound).1, rfl,
    ⟨storeroom, getStoreroom_mem hstoreroom, rfl, ensure_eq_ok.mp hsite⟩, ?_⟩
  intro requisitionId hgiven hne requisitionLineId hmem
  obtain ⟨hmem, -⟩ := Option.filter_eq_some_iff.mp hmem
  obtain ⟨requisitionLine, rfl, rfl⟩ := Option.map_eq_some_iff.mp hmem
  obtain ⟨-, hrow, -, -, hof, -⟩ := validateSourceRequisitionLine_ok hsource
  exact ⟨requisitionLine, (Table.get?_eq_some_iff.mp hrow).1, rfl, hof requisitionId hgiven hne⟩

theorem mem_rows_insert {α κ : Type} {key : α → κ} [DecidableEq κ] {table : Table key}
    {row other : α} (h : other ∈ table.rows) : other ∈ (table.insert row).rows := by
  unfold Table.insert
  split
  · exact h
  · exact List.mem_cons_of_mem _ h

theorem insertPurchaseOrderLine_linesAimed {arguments : OrderLineArguments}
    {inventory next : InventoryStore} {balances : Table StockBalance.position}
    {line : PurchaseOrderLine} (haimed : LinesAimed inventory)
    (hprepared : preparePurchaseOrderLine service arguments inventory = .ok line)
    (h : insertPurchaseOrderLine { inventory with balances := balances } line = .ok next) :
    LinesAimed next := by
  obtain ⟨_, -, h⟩ := bind_ok h
  cases h
  intro other hother
  rcases Table.mem_insert hother with rfl | hstored
  · obtain ⟨order, horder, hline⟩ := preparePurchaseOrderLine_aimedBy hprepared
    exact ⟨order, horder, hline.parent, hline.received, hline.source⟩
  · obtain ⟨order, horder, hline⟩ := haimed other hstored
    exact ⟨order, horder, hline.parent, hline.received, hline.source⟩

theorem postReceipt_orderAims {arguments : ReceiptArguments} {inventory current next : InventoryStore}
    {plan : PurchaseOrder × ReceiptHeader} (hsame : current.orderAims = inventory.orderAims)
    (hplan : prepareReceipt service arguments inventory = .ok plan)
    (h : (postReceipt service arguments).body plan current = .ok next) :
    next.orderAims = inventory.orderAims := by
  obtain ⟨hstored, -, horder, horganization⟩ := prepareReceipt_ok hplan
  obtain ⟨inserted, hinserted, h⟩ := bind_ok h
  obtain ⟨received, hreceived, h⟩ := bind_ok h
  cases h
  obtain ⟨_, -, hinserted⟩ := bind_ok hinserted
  cases hinserted
  have hlines : LinesReceived plan.1 current received :=
    .receiveLines _ (.other .refl ⟨_, _, rfl⟩) horder horganization hreceived
  have haims := hlines.orderAims.trans hsame
  have hheader : plan.1.header ∈ received.orderAims.headers :=
    haims ▸ header_mem (Table.get?_eq_some_iff.mp hstored).1
  exact (orderAims_updateOrder { plan.1 with
    status := resolvePurchaseOrderReceivingStatus (listForPurchaseOrder received plan.1.id)
    version := plan.1.version + 1 } hheader).trans haims

end

/-- The updates of a run move no line away. -/
def ProcurementCall.KeepsLines (session : Session PlatformStore)
    (call : InventoryService × ProcurementCall) : Prop :=
  match call.2 with
  | .updatePurchaseOrder arguments => arguments.KeepsLines call.1 session.pending
  | _ => True

instance (session : Session PlatformStore) (call : InventoryService × ProcurementCall) :
    Decidable (ProcurementCall.KeepsLines session call) := by
  unfold ProcurementCall.KeepsLines
  split <;> infer_instance

/-- An order that is written back with its own header. -/
theorem updatePurchaseOrder_keepsAimed {inventory : InventoryStore}
    {balances : Table StockBalance.position} {order stored : PurchaseOrder}
    (haimed : LinesAimed inventory) (hstored : inventory.orders.get? stored.id = some stored)
    (hheader : order.header = stored.header) :
    LinesAimed (updatePurchaseOrder { inventory with balances := balances } order) := by
  refine haimed.congr (orderAims_updatePurchaseOrder ?_)
  rw [hheader]
  exact header_mem (Table.get?_eq_some_iff.mp hstored).1

theorem runProcurementCall_aimed (session : Session PlatformStore)
    (call : InventoryService × ProcurementCall)
    (hkeeps : ProcurementCall.KeepsLines session call) (h : AimedSession session) :
    AimedSession (runProcurementCall call session).2 := by
  obtain ⟨service, call⟩ := call
  unfold runProcurementCall
  cases call with
  | createRequisition arguments =>
      apply h.inventoryCall
      intro requisition balances inventory hprepared hwritten
      obtain ⟨_, -, hwritten⟩ := bind_ok hwritten
      cases hwritten
      exact h.aimed.congr rfl
  | addRequisitionLine arguments =>
      apply h.inventoryCall
      intro line balances inventory hprepared hwritten
      obtain ⟨_, -, hwritten⟩ := bind_ok hwritten
      cases hwritten
      exact h.aimed.mono rfl rfl (fun _ => id) fun _ => mem_rows_insert
  | submitRequisition requisitionId requestId =>
      apply h.call
      intro plan next hprepared hwritten
      obtain ⟨flushed, hflushed, hwritten⟩ := bind_ok hwritten
      cases hwritten
      obtain ⟨⟨balances, rfl⟩, -⟩ := flush_ok hflushed
      exact h.aimed.congr (@orderAims_setRequisitionLineStatus
        { session.pending.inventory with balances := balances } _ _)
  | updateRequisition arguments =>
      apply h.inventoryCall
      intro requisition balances inventory hprepared hwritten
      cases hwritten
      exact h.aimed.congr rfl
  | cancelRequisition requisitionId expectedVersion =>
      apply h.inventoryCall
      intro requisition balances inventory hprepared hwritten
      cases hwritten
      exact h.aimed.congr (@orderAims_setRequisitionLineStatus
        { session.pending.inventory with balances := balances } _ _)
  | createPurchaseOrder arguments =>
      apply h.inventoryCall
      intro order balances inventory hprepared hwritten
      obtain ⟨_, -, hwritten⟩ := bind_ok hwritten
      cases hwritten
      exact h.aimed.mono rfl rfl (fun _ => mem_rows_insert) fun _ => id
  | addPurchaseOrderLine arguments =>
      apply h.inventoryCall
      intro line balances inventory hprepared hwritten
      exact insertPurchaseOrderLine_linesAimed h.aimed hprepared hwritten
  | submitPurchaseOrder purchaseOrderId requestId =>
      apply h.call
      intro plan next hprepared hwritten
      obtain ⟨flushed, hflushed, hwritten⟩ := bind_ok hwritten
      cases hwritten
      obtain ⟨⟨balances, rfl⟩, -⟩ := flush_ok hflushed
      obtain ⟨stored, _, hstored, -, hsubmitted⟩ := prepareSubmittedOrder_ok hprepared
      exact updatePurchaseOrder_keepsAimed h.aimed hstored (by rw [hsubmitted]; rfl)
  | updatePurchaseOrder arguments =>
      apply h.inventoryCall
      intro order balances inventory hprepared hwritten
      cases hwritten
      exact updatePurchaseOrder_linesAimed h.aimed hkeeps hprepared
  | cancelPurchaseOrder purchaseOrderId expectedVersion =>
      apply h.inventoryCall
      intro order balances inventory hprepared hwritten
      cases hwritten
      obtain ⟨stored, hstored, -, rfl⟩ := prepareCancelledOrder_ok hprepared
      have hcancelled := @orderAims_setOrderLineStatus
        { session.pending.inventory with balances := balances } stored.id .cancelled
      refine (h.aimed.congr hcancelled).congr (orderAims_updatePurchaseOrder ?_)
      rw [hcancelled]
      have hheader : stored.header ∈ session.pending.inventory.orderAims.headers :=
        header_mem (Table.get?_eq_some_iff.mp hstored).1
      exact hheader
  | sendPurchaseOrder purchaseOrderId =>
      apply h.inventoryCall
      intro order balances inventory hprepared hwritten
      cases hwritten
      obtain ⟨stored, _, hstored, -, rfl⟩ := prepareSentOrder_ok hprepared
      exact updatePurchaseOrder_keepsAimed h.aimed hstored rfl
  | closePurchaseOrder purchaseOrderId =>
      apply h.inventoryCall
      intro order balances inventory hprepared hwritten
      cases hwritten
      obtain ⟨stored, hstored, -, rfl, -⟩ := prepareClosedOrder_ok hprepared
      exact updatePurchaseOrder_keepsAimed h.aimed hstored rfl
  | postReceipt arguments =>
      apply h.inventoryCall
      intro plan balances inventory hprepared hwritten
      have haims : inventory.orderAims = session.pending.inventory.orderAims :=
        @postReceipt_orderAims _ _ _ { session.pending.inventory with balances := balances } _ _ rfl
          hprepared hwritten
      exact h.aimed.congr haims
  | approve requestId note balanceId =>
      exact h.keeps fun aims =>
        (approveAndApply_aims service balanceId requestId note).bind fun _ => Program.keeps_pure
  | reject requestId note =>
      exact h.keeps fun aims => (reject_aims service requestId note).bind fun _ => Program.keeps_pure

/-- In every run whose updates move no line away from its storeroom or its requisition, the lines
agree with the headers of their orders. -/
theorem procurementRun_linesAimed (calls : List (InventoryService × ProcurementCall))
    (start : PlatformStore) (h : LinesAimed start.inventory)
    (hcalls : EachCall runProcurementCall ProcurementCall.KeepsLines (.clean start) calls) :
    let last := sessionAfter runProcurementCall (.clean start) calls
    LinesAimed last.pending.inventory ∧ LinesAimed last.committed.inventory := by
  have hlast : AimedSession (sessionAfter runProcurementCall (.clean start) calls) :=
    sessionAfter_invariant runProcurementCall_aimed calls hcalls (aimedSession_clean h)
  exact ⟨hlast.aimed, hlast.committed⟩

/-- Bolts are ordered for a requisition, and the draft is given a reference before it is
submitted. -/
def boltReference : List (InventoryService × ProcurementCall) :=
  boltRequisition ++ [approveBolts "0", boltOrder "1", boltOrderLine "1" "a" 10 (some "need1"),
    (inventoryAdmin, .updatePurchaseOrder
      { purchaseOrderId := "order1", siteId := some "yard", supplierReference := some "S7" }),
    submitBoltOrder "1", approveBolts "1"]

theorem procurementRun_linesAimed_bolts :
    let last := sessionAfter runProcurementCall (.clean boltYard) boltReference
    LinesAimed last.pending.inventory ∧ LinesAimed last.committed.inventory :=
  procurementRun_linesAimed boltReference boltYard (by decide) (by decide +kernel)

/-- The yard and a dock without a storeroom. -/
def boltDock : PlatformStore :=
  { boltYard with
    sites := ⟨[{ id := "yard", organizationId := "org", currencyCode := "EUR" },
      { id := "dock", organizationId := "org", currencyCode := "EUR" }], by decide⟩ }

/-- The order moves to the dock after its line was checked against the yard. -/
def boltMove : List (InventoryService × ProcurementCall) :=
  [boltOrder "1", boltOrderLine "1" "a" 10 none,
    (inventoryAdmin, .updatePurchaseOrder { purchaseOrderId := "order1", siteId := some "dock" })]

theorem not_linesAimed_dock :
    LinesAimed boltDock.inventory ∧
      ¬ LinesAimed
        (sessionAfter runProcurementCall (.clean boltDock) boltMove).committed.inventory := by
  constructor
  · decide
  · decide +kernel

end ProjectManager
