import Mathlib.Tactic.FieldSimp
import ProjectManager.Maintenance.MaterialRequirements
import ProjectManager.Procurement.Steps

/-! # What an escalation does

An escalation that passes its own checks creates a requisition with one line for the
missing quantity. Nothing it does after the requisition can fail, but for the
submission for approval.
-/

namespace ProjectManager.Maintenance

open Foundation

def availableStock (inventory : InventoryStore) (organizationId stockItemId storeroomId : String) :
    ℚ :=
  ((inventory.balances.get? ⟨organizationId, stockItemId, storeroomId⟩).map
    StockBalance.availableQty).getD 0

/-- What the checks of an escalation have found. -/
structure Escalates (service : InventoryService) (store : PlatformStore)
    (arguments : EscalationArguments) (availability : MaterialAvailability) (item : StockItem)
    (storeroom : Storeroom) (organizationId : String) : Prop where
  organization : service.activeOrganization = some organizationId
  mayRead : service.userSession.hasPermission "inventory.read" = true
  itemFound : store.inventory.items.get? arguments.demand.stockItemId = some item
  itemOrganization : item.organizationId = organizationId
  active : item.isActive = true
  purchaseAllowed : item.isPurchaseAllowed = true
  storeroomId : storeroom.id = arguments.demand.storeroomId
  uom : normalizeUom (orElse (arguments.demand.uom.getD "") (orElse item.issueUom item.stockUom))
    "Maintenance material UOM" = .ok availability.requestedUom
  requestedFactor : 0 < uomFactor item availability.requestedUom
  stockFactor : 0 < uomFactor item item.stockUom
  missing : availability.missingStockQty =
    stockQuantity item arguments.demand.quantity availability.requestedUom -
      availableStock store.inventory organizationId item.id storeroom.id
  lacks : 0 < availability.missingStockQty
  sourceType : availability.sourceReferenceType =
    lower (strip arguments.demand.sourceReferenceType)
  sourceId : availability.sourceReferenceId = strip arguments.demand.sourceReferenceId

section

variable {service : InventoryService} {store : PlatformStore} {arguments : EscalationArguments}
  {availability : MaterialAvailability} {item : StockItem} {storeroom : Storeroom}

theorem activeOrganization_eq_ok {organizationId : String} :
    activeOrganization service = .ok organizationId ↔
      service.activeOrganization = some organizationId :=
  require_eq_ok

theorem getItemForInternalUse_eq_ok {inventory : InventoryStore} {itemId organizationId : String}
    (horganization : service.activeOrganization = some organizationId) :
    getItemForInternalUse service inventory itemId = .ok item ↔
      inventory.items.get? itemId = some item ∧ item.organizationId = organizationId := by
  unfold getItemForInternalUse
  rw [bind_eq_ok]
  constructor
  · rintro ⟨organization, hactive, h⟩
    obtain rfl := Option.some.inj (horganization.symm.trans (activeOrganization_eq_ok.mp hactive))
    obtain ⟨hfound, horg⟩ := Option.filter_eq_some_iff.mp (require_eq_ok.mp h)
    exact ⟨hfound, of_decide_eq_true horg⟩
  · rintro ⟨hfound, horg⟩
    refine ⟨organizationId, activeOrganization_eq_ok.mpr horganization, require_eq_ok.mpr ?_⟩
    exact Option.filter_eq_some_iff.mpr ⟨hfound, decide_eq_true horg⟩

theorem getStoreroomForInternalUse_id {storeroomId : String}
    (h : getStoreroomForInternalUse service store storeroomId = .ok storeroom) :
    storeroom.id = storeroomId := by
  obtain ⟨_, -, h⟩ := bind_ok h
  obtain ⟨hfound, -⟩ := Option.filter_eq_some_iff.mp (require_eq_ok.mp h)
  exact (Table.get?_eq_some_iff.mp hfound).2

theorem getBalanceForStockPosition_ok {stockItemId storeroomId organizationId : String}
    {balance : Option StockBalance} (horganization : service.activeOrganization = some organizationId)
    (h : getBalanceForStockPosition service store stockItemId storeroomId = .ok balance) :
    service.userSession.hasPermission "inventory.read" = true ∧
      balance = store.inventory.balances.get? ⟨organizationId, stockItemId, storeroomId⟩ := by
  obtain ⟨_, hread, h⟩ := bind_ok h
  obtain ⟨_, hactive, h⟩ := bind_ok h
  obtain ⟨item, hitem, h⟩ := bind_ok h
  obtain ⟨storeroom, hstoreroom, h⟩ := bind_ok h
  obtain ⟨-, -, h⟩ := bind_ok h
  cases h
  obtain rfl := Option.some.inj (horganization.symm.trans (activeOrganization_eq_ok.mp hactive))
  obtain ⟨_, -, hitem⟩ := bind_ok hitem
  obtain ⟨hfound, -⟩ := (getItemForInternalUse_eq_ok horganization).mp hitem
  iterate 2 obtain ⟨_, -, hstoreroom⟩ := bind_ok hstoreroom
  obtain ⟨row, hrow, hstoreroom⟩ := bind_ok hstoreroom
  obtain ⟨_, -, hstoreroom⟩ := bind_ok hstoreroom
  cases hstoreroom
  obtain ⟨hroom, -⟩ := Option.filter_eq_some_iff.mp (require_eq_ok.mp hrow)
  refine ⟨ensure_eq_ok.mp hread, ?_⟩
  rw [(Table.get?_eq_some_iff.mp hfound).2, (Table.get?_eq_some_iff.mp hroom).2]

theorem prepareEscalation_ok
    (h : prepareEscalation service store arguments = .ok (availability, item, storeroom)) :
    ∃ organizationId,
      Escalates service store arguments availability item storeroom organizationId := by
  obtain ⟨found, havailability, h⟩ := bind_ok h
  obtain ⟨_, -, h⟩ := bind_ok h
  obtain ⟨_, hlacks, h⟩ := bind_ok h
  obtain ⟨again, hagain, h⟩ := bind_ok h
  obtain ⟨room, hroom, h⟩ := bind_ok h
  obtain ⟨_, hpurchase, h⟩ := bind_ok h
  obtain ⟨rfl, hpair⟩ := Prod.mk.inj (Except.ok.inj h)
  obtain ⟨rfl, rfl⟩ := Prod.mk.inj hpair
  obtain ⟨first, hfirst, h⟩ := bind_ok havailability
  obtain ⟨firstRoom, hfirstRoom, h⟩ := bind_ok h
  obtain ⟨sourceType, hsourceType, h⟩ := bind_ok h
  obtain ⟨sourceId, hsourceId, h⟩ := bind_ok h
  obtain ⟨quantity, hquantity, h⟩ := bind_ok h
  obtain ⟨uom, huom, h⟩ := bind_ok h
  obtain ⟨_, hactive, h⟩ := bind_ok h
  iterate 2 obtain ⟨_, -, h⟩ := bind_ok h
  obtain ⟨requested, hrequested, h⟩ := bind_ok h
  obtain ⟨balance, hbalance, h⟩ := bind_ok h
  cases h
  obtain ⟨organizationId, horganization, -⟩ := bind_ok hfirst
  have horganization := activeOrganization_eq_ok.mp horganization
  obtain ⟨hitem, hitemOrganization⟩ := (getItemForInternalUse_eq_ok horganization).mp hfirst
  have hsame : store.inventory.items.get? first.id = some again :=
    ((getItemForInternalUse_eq_ok horganization).mp hagain).1
  have hfirstId := (Table.get?_eq_some_iff.mp hitem).2
  obtain rfl := Option.some.inj (hitem.symm.trans (hfirstId ▸ hsame))
  obtain ⟨hread, rfl⟩ := getBalanceForStockPosition_ok horganization hbalance
  have hlacks := ensure_eq_ok.mp hlacks
  have hfactors := (convertItemQuantity_eq hrequested).2
  have hquantity : quantity = arguments.demand.quantity :=
    (normalizePositiveQuantity_eq_ok hquantity).1
  have hroomId : room.id = firstRoom.id := getStoreroomForInternalUse_id hroom
  iterate 2 obtain ⟨_, -, hsourceType⟩ := bind_ok hsourceType
  obtain ⟨_, -, hsourceId⟩ := bind_ok hsourceId
  refine ⟨organizationId, {
    organization := horganization
    mayRead := hread
    itemFound := hitem
    itemOrganization := hitemOrganization
    active := ensure_eq_ok.mp hactive
    purchaseAllowed := ensure_eq_ok.mp hpurchase
    storeroomId := hroomId.trans (getStoreroomForInternalUse_id hfirstRoom)
    uom := huom
    requestedFactor := hfactors.1
    stockFactor := hfactors.2
    missing := ?_
    lacks := hlacks
    sourceType := (Except.ok.inj hsourceType).symm
    sourceId := (Except.ok.inj hsourceId).symm }⟩
  dsimp only at hlacks ⊢
  have hmax := max_eq_right_of_lt ((lt_max_iff.mp hlacks).resolve_left (lt_irrefl 0))
  rw [hmax, convertItemQuantity_stock hrequested, hquantity, availableStock, hroomId]

/-! ## The three calls -/

/-- The one requisition and its one line that an escalation adds. -/
structure Requisitioned (store next : PlatformStore) (arguments : EscalationArguments)
    (availability : MaterialAvailability) (item : StockItem) (requisition : PurchaseRequisition)
    (line : PurchaseRequisitionLine) : Prop where
  requisitionId : requisition.id = arguments.requisitionId
  fresh : requisition.id ∉ store.inventory.requisitions.ids
  sourceType : requisition.sourceReferenceType = lower (strip availability.sourceReferenceType)
  sourceId : requisition.sourceReferenceId = strip availability.sourceReferenceId
  lineFresh : line.id ∉ store.inventory.requisitionLines.ids
  lineOf : line.purchaseRequisitionId = requisition.id
  lineStatus : line.status = .draft
  lineItem : line.stockItemId = item.id
  lineQuantity : stockQuantity item line.quantityRequested line.uom = availability.missingStockQty
  settled : next.addedBalances = []
  inventory : next.inventory =
    { store.inventory with
      requisitions := store.inventory.requisitions.insert requisition
      requisitionLines := store.inventory.requisitionLines.insert line }

/-- The requisition that an escalation creates first. -/
structure Created (service : InventoryService) (store : PlatformStore)
    (arguments : EscalationArguments) (availability : MaterialAvailability)
    (requisition : PurchaseRequisition) (organizationId : String) : Prop where
  mayManage : service.userSession.hasPermission "inventory.manage" = true
  requisitionId : requisition.id = arguments.requisitionId
  fresh : requisition.id ∉ store.inventory.requisitions.ids
  organization : requisition.organizationId = organizationId
  draft : requisition.status = .draft
  sourceType : requisition.sourceReferenceType = lower (strip availability.sourceReferenceType)
  sourceId : requisition.sourceReferenceId = strip availability.sourceReferenceId

/-- The store with the requisition, and nothing else. -/
def withRequisition (store : PlatformStore) (requisition : PurchaseRequisition) : PlatformStore :=
  { store with
    inventory := { store.inventory with
      requisitions := store.inventory.requisitions.insert requisition } }

def withLine (store : PlatformStore) (line : PurchaseRequisitionLine) : PlatformStore :=
  { store with
    inventory := { store.inventory with
      requisitionLines := store.inventory.requisitionLines.insert line } }

theorem createRequisition_created {organizationId : String} {next : PlatformStore}
    (horganization : service.activeOrganization = some organizationId)
    (hsettled : store.addedBalances = [])
    (h : (createRequisition service
      (escalatedRequisition arguments availability storeroom)).effect store = .ok next) :
    ∃ requisition, Created service store arguments availability requisition organizationId ∧
      next = withRequisition store requisition := by
  obtain ⟨requisition, inventory, hprepare, hinsert, rfl⟩ := inventoryCall_ok hsettled h
  obtain ⟨_, hfresh, hinsert⟩ := bind_ok hinsert
  obtain rfl := Except.ok.inj hinsert
  obtain ⟨_, hmanage, hprepare⟩ := bind_ok hprepare
  obtain ⟨_, hactive, hprepare⟩ := bind_ok hprepare
  iterate 2 obtain ⟨_, -, hprepare⟩ := bind_ok hprepare
  obtain ⟨sourceType, hsource, hprepare⟩ := bind_ok hprepare
  obtain rfl := Except.ok.inj hprepare
  obtain rfl := Option.some.inj (horganization.symm.trans (activeOrganization_eq_ok.mp hactive))
  obtain ⟨_, -, hsource⟩ := bind_ok hsource
  obtain rfl := Except.ok.inj hsource
  exact ⟨_, ⟨ensure_eq_ok.mp hmanage, rfl, (ensure_eq_ok.mp hfresh).1, rfl, rfl, rfl, rfl⟩, rfl⟩

/-- The draft is found again by the calls that follow. -/
theorem requireDraftRequisition_created {organizationId : String} {requisition : PurchaseRequisition}
    {inventory : InventoryStore}
    (hescalates : Escalates service store arguments availability item storeroom organizationId)
    (hcreated : Created service store arguments availability requisition organizationId)
    (hfound : inventory.requisitions.get? requisition.id = some requisition) :
    requireDraftRequisition service arguments.requisitionId inventory = .ok requisition := by
  have hget : getRequisition service arguments.requisitionId inventory = .ok requisition := by
    refine bind_eq_ok.mpr ⟨(), ensure_eq_ok.mpr hescalates.mayRead, ?_⟩
    refine bind_eq_ok.mpr ⟨_, activeOrganization_eq_ok.mpr hescalates.organization, ?_⟩
    rw [← hcreated.requisitionId, hfound]
    apply require_eq_ok.mpr
    exact Option.filter_eq_some_iff.mpr ⟨rfl, decide_eq_true hcreated.organization⟩
  exact bind_eq_ok.mpr ⟨requisition, hget, bind_eq_ok.mpr
    ⟨(), ensure_eq_ok.mpr hcreated.draft, rfl⟩⟩

/-- The missing quantity is converted to the unit of the demand and counts the same. -/
theorem requestedMissingQty_ok {organizationId : String}
    (h : Escalates service store arguments availability item storeroom organizationId) :
    ∃ quantity, requestedMissingQty availability item = .ok quantity ∧ 0 < quantity ∧
      stockQuantity item quantity availability.requestedUom = availability.missingStockQty := by
  have hrequested := h.requestedFactor
  have hstock := h.stockFactor
  unfold requestedMissingQty
  split
  next hne =>
    refine ⟨_, convertItemQuantity_iff.mpr ⟨⟨hstock, hrequested⟩, rfl⟩, ?_, ?_⟩
    · exact div_pos (mul_pos h.lacks hstock) hrequested
    · unfold stockQuantity
      field_simp
  next heq =>
    refine ⟨_, rfl, h.lacks, ?_⟩
    rw [not_not.mp heq]
    unfold stockQuantity
    field_simp

/-- Nothing refuses the line of a requisition that was just created. -/
theorem addRequisitionLine_created {organizationId : String} {requisition : PurchaseRequisition}
    {quantity : ℚ} (hsettled : store.addedBalances = [])
    (hescalates : Escalates service store arguments availability item storeroom organizationId)
    (hcreated : Created service store arguments availability requisition organizationId)
    (hlines : ∀ line ∈ store.inventory.requisitionLines.rows,
      line.purchaseRequisitionId ∈ store.inventory.requisitions.ids)
    (hfresh : arguments.lineId ∉ store.inventory.requisitionLines.ids) (hquantity : 0 < quantity) :
    ∃ line : PurchaseRequisitionLine,
      (addRequisitionLine service (escalatedLine arguments availability item quantity)).effect
        (withRequisition store requisition) = .ok (withLine (withRequisition store requisition) line) ∧
      line.id = arguments.lineId ∧ line.purchaseRequisitionId = requisition.id ∧
      line.status = .draft ∧ line.stockItemId = item.id ∧ line.quantityRequested = quantity ∧
      line.uom = availability.requestedUom := by
  have hfound : (withRequisition store requisition).inventory.requisitions.get? requisition.id =
      some requisition := Table.get?_insert_self hcreated.fresh
  have hdraft := requireDraftRequisition_created hescalates hcreated hfound
  have hitem : getItem service store.inventory item.id = .ok item := by
    refine bind_eq_ok.mpr ⟨(), ensure_eq_ok.mpr hescalates.mayRead, ?_⟩
    apply (getItemForInternalUse_eq_ok hescalates.organization).mpr
    rw [(Table.get?_eq_some_iff.mp hescalates.itemFound).2]
    exact ⟨hescalates.itemFound, hescalates.itemOrganization⟩
  obtain ⟨-, hne⟩ := normalizeUom_eq_ok.mp hescalates.uom
  have huom : givenUom (some availability.requestedUom) item = availability.requestedUom :=
    if_neg hne
  have hnone : ∀ line ∈ store.inventory.requisitionLines.rows,
      line.purchaseRequisitionId ≠ requisition.id :=
    fun line hline heq => hcreated.fresh (heq ▸ hlines line hline)
  let line : PurchaseRequisitionLine :=
    { id := arguments.lineId
      purchaseRequisitionId := requisition.id
      lineNumber := (listForRequisition store.inventory requisition.id).length + 1
      stockItemId := item.id
      description := orElse (strip ("Maintenance shortage for " ++ availability.source)) item.name
      quantityRequested := quantity
      uom := availability.requestedUom
      neededByDate := arguments.neededByDate
      notes := strip arguments.notes }
  have hprepare : prepareRequisitionLine service
      (escalatedLine arguments availability item quantity) (withRequisition store requisition) =
        .ok line := by
    refine bind_eq_ok.mpr ⟨(), ensure_eq_ok.mpr hcreated.mayManage, ?_⟩
    refine bind_eq_ok.mpr ⟨requisition, hdraft, ?_⟩
    refine bind_eq_ok.mpr ⟨item, hitem, ?_⟩
    refine bind_eq_ok.mpr ⟨(), ensure_eq_ok.mpr ?_, ?_⟩
    · exact hescalates.itemOrganization.trans hcreated.organization.symm
    refine bind_eq_ok.mpr ⟨(), ensure_eq_ok.mpr hescalates.active, ?_⟩
    refine bind_eq_ok.mpr ⟨(), ensure_eq_ok.mpr hescalates.purchaseAllowed, ?_⟩
    refine bind_eq_ok.mpr ⟨availability.requestedUom, ?_, ?_⟩
    · change normalizeUom (givenUom (some availability.requestedUom) item) _ = _
      rw [huom]
      exact normalizeUom_normalized hescalates.uom _
    refine bind_eq_ok.mpr
      ⟨_, resolveItemUomFactor_iff.mpr ⟨rfl, hescalates.requestedFactor⟩, ?_⟩
    refine bind_eq_ok.mpr ⟨none, rfl, ?_⟩
    refine bind_eq_ok.mpr ⟨quantity, bind_eq_ok.mpr ⟨(), ensure_eq_ok.mpr hquantity, rfl⟩, ?_⟩
    exact bind_eq_ok.mpr ⟨0, bind_eq_ok.mpr ⟨(), ensure_eq_ok.mpr le_rfl, rfl⟩, rfl⟩
  have hinsert : insertRequisitionLine (withRequisition store requisition).inventory line =
      .ok (withLine (withRequisition store requisition) line).inventory := by
    refine bind_eq_ok.mpr ⟨(), ensure_eq_ok.mpr ⟨hfresh, ?_⟩, rfl⟩
    intro other hother heq
    exact absurd heq (hnone other hother)
  refine ⟨line, bind_eq_ok.mpr ⟨line, hprepare, ?_⟩, rfl, rfl, rfl, rfl, rfl, rfl⟩
  refine bind_eq_ok.mpr ⟨_, PlatformStore.flush_settled hsettled, ?_⟩
  exact bind_eq_ok.mpr ⟨_, hinsert, rfl⟩

/-- A submission that may be requested goes through. -/
theorem submitRequisition_created {organizationId : String} {requisition : PurchaseRequisition}
    {line : PurchaseRequisitionLine} {request : ApprovalRequest}
    (hsettled : store.addedBalances = [])
    (hescalates : Escalates service store arguments availability item storeroom organizationId)
    (hcreated : Created service store arguments availability requisition organizationId)
    (hlines : ∀ line ∈ store.inventory.requisitionLines.rows,
      line.purchaseRequisitionId ∈ store.inventory.requisitions.ids)
    (hfresh : line.id ∉ store.inventory.requisitionLines.ids)
    (hline : line.purchaseRequisitionId = requisition.id) (hstatus : line.status = .draft)
    (hrequest : requestChange service "purchase_requisition.submit" "purchase_requisition"
      arguments.requisitionId none arguments.requestId store = .ok request) :
    ∃ submitted : PurchaseRequisition,
      (submitRequisition service arguments.requisitionId arguments.requestId).effect
        (withLine (withRequisition store requisition) line) = .ok
          { withLine (withRequisition store submitted) line with
            approvals := store.approvals.insert request } ∧
      submitted.id = requisition.id ∧
      submitted.sourceReferenceType = requisition.sourceReferenceType ∧
      submitted.sourceReferenceId = requisition.sourceReferenceId := by
  let submitted : PurchaseRequisition :=
    { requisition with status := .submitted, approvalRequestId := some request.id }
  have hfound : (withLine (withRequisition store requisition) line).inventory.requisitions.get?
      requisition.id = some requisition := Table.get?_insert_self hcreated.fresh
  have hdraft := requireDraftRequisition_created hescalates hcreated hfound
  have hnonempty : listForRequisition (withLine (withRequisition store requisition) line).inventory
      requisition.id ≠ [] := by
    apply List.ne_nil_of_mem (a := line)
    apply (List.mem_insertionSort _).mpr
    refine List.mem_filter.mpr ⟨?_, decide_eq_true hline⟩
    change line ∈ (store.inventory.requisitionLines.insert line).rows
    rw [Table.rows_insert hfresh]
    exact List.mem_cons_self
  have hprepare : prepareSubmittedRequisition service arguments.requisitionId arguments.requestId
      (withLine (withRequisition store requisition) line) = .ok (submitted, request) := by
    refine bind_eq_ok.mpr ⟨(), ensure_eq_ok.mpr hcreated.mayManage, ?_⟩
    refine bind_eq_ok.mpr ⟨requisition, hdraft, ?_⟩
    refine bind_eq_ok.mpr ⟨(), ensure_eq_ok.mpr hnonempty, ?_⟩
    refine bind_eq_ok.mpr ⟨request, hcreated.requisitionId ▸ hrequest, ?_⟩
    refine bind_eq_ok.mpr ⟨(), validateTransition_iff.mpr (Or.inr ?_), rfl⟩
    rw [hcreated.draft]
    decide
  have hdrafts : setRequisitionLineStatus (withLine (withRequisition store requisition) line).inventory
      requisition.id .draft = (withLine (withRequisition store requisition) line).inventory := by
    unfold setRequisitionLineStatus
    rw [Table.mapRows_eq_self]
    intro other hother
    split
    next hsame =>
      rcases Table.mem_insert hother with rfl | hother
      · rw [← hstatus]
      · exact absurd (hsame ▸ hlines other hother) hcreated.fresh
    next => rfl
  have hupdated : (store.inventory.requisitions.insert requisition).update
      { submitted with version := submitted.version + 1 } =
        store.inventory.requisitions.insert { submitted with version := submitted.version + 1 } :=
    Table.update_insert rfl hcreated.fresh
  refine ⟨{ submitted with version := submitted.version + 1 }, ?_, rfl, rfl, rfl⟩
  refine bind_eq_ok.mpr ⟨(submitted, request), hprepare, ?_⟩
  refine bind_eq_ok.mpr ⟨_, PlatformStore.flush_settled hsettled, ?_⟩
  dsimp only
  rw [hdrafts]
  unfold updateRequisition
  change Except.ok { withLine (withRequisition store requisition) line with
    approvals := store.approvals.insert request
    inventory := { (withLine (withRequisition store requisition) line).inventory with
      requisitions := (store.inventory.requisitions.insert requisition).update
        { submitted with version := submitted.version + 1 } } } = _
  rw [hupdated]
  rfl

end

/-! ## The escalation -/

/-- Requisition lines belong to stored requisitions, and nothing waits to be flushed. -/
structure PlatformSettled (store : PlatformStore) : Prop where
  balances : store.addedBalances = []
  lines : ∀ line ∈ store.inventory.requisitionLines.rows,
    line.purchaseRequisitionId ∈ store.inventory.requisitions.ids

/-- What could refuse an escalation once its requisition is committed: the id generated for the
line, and the request for approval when it is to be submitted. -/
def CanFinish (service : InventoryService) (store : PlatformStore)
    (arguments : EscalationArguments) : Prop :=
  arguments.lineId ∉ store.inventory.requisitionLines.ids ∧
    (arguments.autoSubmit = true → (requestChange service "purchase_requisition.submit"
      "purchase_requisition" arguments.requisitionId none arguments.requestId store).isOk = true)

instance (service : InventoryService) (store : PlatformStore) (arguments : EscalationArguments) :
    Decidable (CanFinish service store arguments) :=
  inferInstanceAs (Decidable (_ ∧ _))

section

variable {σ : Type} {platform : Part σ PlatformStore} {service : InventoryService}
  {arguments : EscalationArguments} {state : σ}

/-- An escalation that can be finished adds a requisition with a line for what is missing, or
changes nothing. -/
theorem escalateShortageToRequisition_settles (hsettled : PlatformSettled (platform.get state))
    (hfinish : ∀ found, prepareEscalation service (platform.get state) arguments = .ok found →
      CanFinish service (platform.get state) arguments) :
    (escalateShortageToRequisition platform service arguments).Settles state
      (fun availability next => ∃ item storeroom organizationId store requisition line,
        prepareEscalation service (platform.get state) arguments =
          .ok (availability, item, storeroom) ∧
        Escalates service (platform.get state) arguments availability item storeroom
          organizationId ∧
        Requisitioned (platform.get state) store arguments availability item requisition line ∧
        next = platform.set state store)
      fun _ next => next = state := by
  unfold escalateShortageToRequisition
  apply Program.Settles.bind
  rw [Program.settles_check]
  refine ⟨?_, fun _ _ => rfl⟩
  rintro ⟨availability, item, storeroom⟩ hprepare
  obtain ⟨hlineFresh, happroval⟩ := hfinish _ hprepare
  obtain ⟨organizationId, hescalates⟩ := prepareEscalation_ok hprepare
  dsimp only
  apply Program.Settles.bind
  rw [Program.settles_call_within]
  refine ⟨?_, fun _ _ => rfl⟩
  intro created hcreate
  obtain ⟨requisition, hcreated, rfl⟩ :=
    createRequisition_created hescalates.organization hsettled.balances hcreate
  obtain ⟨quantity, hquantity, hpositive, hmissing⟩ := requestedMissingQty_ok hescalates
  apply Program.Settles.bind
  rw [Program.settles_check, hquantity]
  refine ⟨?_, fun _ h => (nomatch h)⟩
  intro _ h
  cases h
  obtain ⟨line, hadded, hlineId, hlineOf, hstatus, hlineItem, hlineQuantity, hlineUom⟩ :=
    addRequisitionLine_created hsettled.balances hescalates hcreated hsettled.lines hlineFresh
      hpositive
  apply Program.Settles.bind
  rw [Program.settles_call_within, platform.get_set, hadded]
  refine ⟨?_, fun _ h => (nomatch h)⟩
  intro _ h
  cases h
  rw [platform.set_set]
  have hrequisitioned : ∀ last submitted,
      submitted.id = requisition.id →
      submitted.sourceReferenceType = requisition.sourceReferenceType →
      submitted.sourceReferenceId = requisition.sourceReferenceId →
      last.addedBalances = [] →
      last.inventory = (withLine (withRequisition (platform.get state) submitted) line).inventory →
      Requisitioned (platform.get state) last arguments availability item submitted line := by
    intro last submitted hid htype hsource hlast hinventory
    exact
      { requisitionId := hid.trans hcreated.requisitionId
        fresh := hid ▸ hcreated.fresh
        sourceType := htype.trans hcreated.sourceType
        sourceId := hsource.trans hcreated.sourceId
        lineFresh := hlineId ▸ hlineFresh
        lineOf := hlineOf.trans hid.symm
        lineStatus := hstatus
        lineItem := hlineItem
        lineQuantity := hlineQuantity ▸ hlineUom ▸ hmissing
        settled := hlast
        inventory := hinventory }
  apply Program.Settles.bind
  unfold submitEscalated
  split
  next hsubmit =>
    obtain ⟨request, hrequest⟩ := isOk_iff.mp (happroval hsubmit)
    obtain ⟨submitted, heffect, hid, htype, hsource⟩ := submitRequisition_created hsettled.balances
      hescalates hcreated hsettled.lines (hlineId ▸ hlineFresh) hlineOf hstatus hrequest
    rw [Program.settles_call_within, platform.get_set, heffect]
    refine ⟨?_, fun _ h => (nomatch h)⟩
    intro _ h
    cases h
    rw [Program.settles_pure, platform.set_set]
    refine ⟨item, storeroom, organizationId, _, submitted, line, hprepare, hescalates, ?_, rfl⟩
    exact hrequisitioned _ submitted hid htype hsource hsettled.balances rfl
  next =>
    rw [Program.settles_pure, Program.settles_pure]
    refine ⟨item, storeroom, organizationId, _, requisition, line, hprepare, hescalates, ?_, rfl⟩
    exact hrequisitioned _ requisition rfl rfl rfl hsettled.balances rfl

end

end ProjectManager.Maintenance
