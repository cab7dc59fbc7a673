import ProjectManager.Inventory.Items
import ProjectManager.Inventory.ReplacedItem
import ProjectManager.Inventory.Reserved
import ProjectManager.Procurement.OnOrder

/-! # Stock obligations across an update of the item

Balances, open reservations and open order lines state their quantities in units
of the item. An update of the item keeps what they state, and what can still be
done about them, exactly when the requested units count alike, the item stays in
use and it is not tracked in a way that the open lines do not allow.
-/

namespace ProjectManager

open Foundation ReservationService StockControlService

/-! ## What an accepted update does to the row -/

namespace ItemMasterService

/-- The units and ratios that an update asks for. -/
def UpdateArguments.requestedUoms (arguments : UpdateArguments) (item : StockItem) : StockItem :=
  let stockUom := (arguments.stockUom.map fun given => upper (strip given)).getD item.stockUom
  let followed (stored : String) : String :=
    if arguments.stockUom.isSome ∧ upper (strip stored) = item.stockUom then stockUom else stored
  { item with
    stockUom := stockUom
    orderUom :=
      (arguments.orderUom.map fun given => upper (strip given)).getD (followed item.orderUom)
    issueUom :=
      (arguments.issueUom.map fun given => upper (strip given)).getD (followed item.issueUom)
    orderUomRatio := arguments.orderUomRatio.getD item.orderUomRatio
    issueUomRatio := arguments.issueUomRatio.getD item.issueUomRatio }

/-- The status or flag asked for is the active one. -/
def UpdateArguments.LeavesActive (arguments : UpdateArguments) (item : StockItem) : Prop :=
  match arguments.status, arguments.isActive with
  | some given, _ => orElse (upper (strip given)) item.status.value = "ACTIVE"
  | none, some isActive => isActive = true
  | none, none => item.status = .active

/-- What stock calls can tell of an updated row. -/
structure Updated (arguments : UpdateArguments) (item updated : StockItem) : Prop where
  id : updated.id = item.id
  organizationId : updated.organizationId = item.organizationId
  stockUom : updated.stockUom = (arguments.requestedUoms item).stockUom
  uomFactor : ∀ uom, uomFactor updated uom = uomFactor (arguments.requestedUoms item) uom
  isActive : updated.isActive = true ↔ arguments.LeavesActive item
  isStocked : updated.isStocked = arguments.isStocked.getD item.isStocked
  isSerialTracked : updated.isSerialTracked = arguments.isSerialTracked.getD item.isSerialTracked
  reorderPoint : updated.reorderPoint = arguments.reorderPoint.getD item.reorderPoint
  reorderPoint_nonneg : ∀ given ∈ arguments.reorderPoint, 0 ≤ given

section

variable {arguments : UpdateArguments} {item updated : StockItem}

theorem givenOr_eq_ok {α β : Type} {given : Option α} {stored value : β}
    {normalize : α → Except DomainError β} {f : α → β}
    (hnormalize : ∀ a b, normalize a = .ok b → b = f a)
    (h : givenOr given stored normalize = .ok value) : value = (given.map f).getD stored := by
  cases given with
  | none => exact (Except.ok.inj h).symm
  | some a => exact hnormalize a value h

/-- Resolving a resolved ratio once more changes nothing. -/
theorem resolveConfiguredUomRatio_resolved {uom stockUom label lower : String} {ratio factor : ℚ}
    (h : resolveConfiguredUomRatio uom stockUom (some ratio) label lower = .ok factor) :
    resolveConfiguredUomRatio uom stockUom (some factor) label lower = .ok factor := by
  obtain ⟨_, hstock, hrest⟩ := bind_ok h
  obtain ⟨_, huom, hrest⟩ := bind_ok hrest
  refine bind_eq_ok.mpr ⟨_, hstock, bind_eq_ok.mpr ⟨_, huom, ?_⟩⟩
  split at hrest
  next hsame => rw [if_pos hsame, ← hrest]
  next hother =>
    rw [if_neg hother]
    exact bind_eq_ok.mpr ⟨factor, rfl,
      bind_eq_ok.mpr ⟨(), ensure_eq_ok.mpr (resolveConfiguredUomRatio_pos h), rfl⟩⟩

theorem updateUoms_ok (h : updateUoms arguments item = .ok updated) :
    (∃ ratio ratio', updated = { arguments.requestedUoms item with
        orderUomRatio := ratio, issueUomRatio := ratio' }) ∧
      ∀ uom, uomFactor updated uom = uomFactor (arguments.requestedUoms item) uom := by
  obtain ⟨stockUom, hstock, h⟩ := bind_ok h
  obtain ⟨orderUom, horder, h⟩ := bind_ok h
  obtain ⟨issueUom, hissue, h⟩ := bind_ok h
  iterate 2 obtain ⟨_, -, h⟩ := bind_ok h
  obtain ⟨orderRatio, horderRatio, h⟩ := bind_ok h
  obtain ⟨issueRatio, hissueRatio, h⟩ := bind_ok h
  cases h
  have hnormalize : ∀ label a b, normalizeUom a label = .ok b → b = upper (strip a) :=
    fun _ _ _ h => (normalizeUom_eq_ok.mp h).1
  obtain rfl := givenOr_eq_ok (hnormalize _) hstock
  obtain rfl := givenOr_eq_ok (hnormalize _) horder
  obtain rfl := givenOr_eq_ok (hnormalize _) hissue
  have horderAgain := resolveConfiguredUomRatio_resolved horderRatio
  have hissueAgain := resolveConfiguredUomRatio_resolved hissueRatio
  refine ⟨⟨orderRatio, issueRatio, rfl⟩, ?_⟩
  intro uom
  unfold ProjectManager.uomFactor resolveItemUomFactor configuredUomFactor
  simp only [UpdateArguments.requestedUoms, horderRatio, hissueRatio, horderAgain, hissueAgain]

theorem updateTexts_ok {store : PlatformStore} (h : updateTexts store arguments item = .ok updated) :
    ∃ itemCode name description itemType, updated = { item with
      itemCode := itemCode, name := name, description := description, itemType := itemType } := by
  iterate 2 obtain ⟨_, -, h⟩ := bind_ok h
  cases h
  exact ⟨_, _, _, _, rfl⟩

/-- The settings leave the units and the status alone. -/
theorem updateSettings_ok {service : InventoryService} {store : PlatformStore}
    (h : updateSettings service store arguments item = .ok updated) :
    (updated.id = item.id ∧ updated.organizationId = item.organizationId ∧
      updated.status = item.status ∧ updated.stockUom = item.stockUom ∧
      ∀ uom, uomFactor updated uom = uomFactor item uom) ∧
      updated.isStocked = arguments.isStocked.getD item.isStocked ∧
      updated.isSerialTracked = arguments.isSerialTracked.getD item.isSerialTracked ∧
      updated.reorderPoint = arguments.reorderPoint.getD item.reorderPoint ∧
      ∀ given ∈ arguments.reorderPoint, 0 ≤ given := by
  iterate 3 obtain ⟨_, -, h⟩ := bind_ok h
  obtain ⟨_, hpoint, h⟩ := bind_ok h
  iterate 4 obtain ⟨_, -, h⟩ := bind_ok h
  cases h
  refine ⟨⟨rfl, rfl, rfl, rfl, fun _ => rfl⟩, rfl, rfl, ?_, ?_⟩
  · refine (givenOr_eq_ok (fun _ _ h => ?_) hpoint).trans (by rw [Option.map_id, id])
    exact (normalizeNonnegativeQuantity_eq_ok h).1
  · intro given hgiven
    rw [Option.mem_def.mp hgiven] at hpoint
    exact (normalizeNonnegativeQuantity_eq_ok hpoint).2

theorem value_eq_active {status : StockItemStatus} :
    status.value = "ACTIVE" ↔ status = .active := by
  cases status <;> decide

theorem normalizeItemStatus_ok {given : String} {defaultStatus status : StockItemStatus}
    (h : normalizeItemStatus (some given) defaultStatus = .ok status) :
    status.value = orElse (upper (strip given)) defaultStatus.value := by
  unfold normalizeItemStatus normalizeOptionalText at h
  by_cases hempty : upper (strip given) = ""
  · obtain rfl := Except.ok.inj ((if_pos hempty).symm.trans h)
    exact (if_pos hempty).symm
  · have hfound := List.find?_some (require_eq_ok.mp ((if_neg hempty).symm.trans h))
    exact (of_decide_eq_true hfound).trans (if_neg hempty).symm

theorem updatedStatus_ok {status : StockItemStatus}
    (h : updatedStatus arguments item = .ok status) :
    status = .active ↔ arguments.LeavesActive item := by
  unfold updatedStatus at h
  unfold UpdateArguments.LeavesActive
  cases hgiven : arguments.status with
  | some given =>
      rw [hgiven] at h
      obtain ⟨_, hnormalized, h⟩ := bind_ok h
      obtain ⟨_, -, h⟩ := bind_ok h
      cases h
      rw [← value_eq_active, normalizeItemStatus_ok hnormalized]
  | none =>
      rw [hgiven] at h
      cases hflag : arguments.isActive with
      | none =>
          rw [hflag] at h
          rw [Except.ok.inj h]
      | some isActive =>
          rw [hflag] at h
          obtain ⟨_, -, h⟩ := bind_ok h
          cases h
          cases isActive with
          | true => exact ⟨fun _ => rfl, fun _ => rfl⟩
          | false =>
              -- Without the flag an active item becomes inactive.
              by_cases hactive : item.status = .active
              · simp [hactive]
              · simp [hactive]

theorem prepareUpdatedItem_ok {service : InventoryService} {store : PlatformStore} {itemId : String}
    (h : prepareUpdatedItem service store itemId arguments = .ok updated) :
    ∃ item, getItemForInternalUse service store.inventory itemId = .ok item ∧
      Updated arguments item updated := by
  obtain ⟨_, -, hprepared⟩ := bind_ok h
  obtain ⟨item, hitem, hprepared⟩ := bind_ok hprepared
  obtain ⟨_, -, hprepared⟩ := bind_ok hprepared
  obtain ⟨named, hnamed, hprepared⟩ := bind_ok hprepared
  obtain ⟨measured, hmeasured, hprepared⟩ := bind_ok hprepared
  obtain ⟨set, hset, hprepared⟩ := bind_ok hprepared
  obtain ⟨_, hstatus, hprepared⟩ := bind_ok hprepared
  iterate 2 obtain ⟨_, -, hprepared⟩ := bind_ok hprepared
  cases hprepared
  obtain ⟨_, hnext, hupdated⟩ := bind_ok hstatus
  cases hupdated
  obtain ⟨_, _, _, _, rfl⟩ := updateTexts_ok hnamed
  obtain ⟨⟨_, _, rfl⟩, hmeasured⟩ := updateUoms_ok hmeasured
  obtain ⟨⟨hid, horganization, hsame, hstockUom, hfactor⟩, hstocked, htracked, hpoint, hnonneg⟩ :=
    updateSettings_ok hset
  have hactive := updatedStatus_ok hnext
  refine ⟨item, hitem, hid, horganization, hstockUom, ?_, ?_, hstocked, htracked, hpoint, hnonneg⟩
  · intro uom
    exact (hfactor uom).trans (hmeasured uom)
  · rw [resolveActiveFlagFromStatus, decide_eq_true_iff, hactive, UpdateArguments.LeavesActive,
      UpdateArguments.LeavesActive, hsame]
    rfl

theorem updateItem_ok {service : InventoryService} {store next : PlatformStore} {itemId : String}
    (hsettled : store.addedBalances = [])
    (h : (updateItem service itemId arguments).effect store = .ok next) :
    ∃ item updated, getItemForInternalUse service store.inventory itemId = .ok item ∧
      next = { store with inventory := store.inventory.withItem updated } ∧
      Updated arguments item updated := by
  obtain ⟨updated, hprepared, h⟩ := GuardedCall.effect_eq_ok.mp h
  obtain ⟨flushed, hflushed, h⟩ := bind_ok h
  obtain rfl := Except.ok.inj ((PlatformStore.flush_settled hsettled).symm.trans hflushed)
  obtain ⟨_, hinventory, h⟩ := bind_ok h
  cases hinventory
  cases h
  obtain ⟨item, hitem, hupdated⟩ := prepareUpdatedItem_ok hprepared
  exact ⟨item, _, hitem, rfl, { hupdated with }⟩

end

end ItemMasterService

/-! ## The obligations of an item -/

def InventoryStore.IsOpenLine (store : InventoryStore) (line : PurchaseOrderLine) : Prop :=
  ∃ order, store.orders.get? line.purchaseOrderId = some order ∧ order.IsOnOrder ∧
    line.quantityOrdered - line.quantityReceived - line.quantityRejected ≠ 0

/-- A balance, an open reservation or an open order line of the item is stated in the unit. -/
def InventoryStore.UnitInUse (store : InventoryStore) (itemId uom : String) : Prop :=
  (∃ balance ∈ store.balances.rows, balance.stockItemId = itemId ∧ balance.uom = uom) ∨
    (∃ reservation ∈ store.reservations.rows,
      reservation.stockItemId = itemId ∧ reservation.IsOpen ∧ reservation.uom = uom) ∨
    ∃ line ∈ store.orderLines.rows,
      line.stockItemId = itemId ∧ store.IsOpenLine line ∧ line.uom = uom

section

variable (service : InventoryService) (store : InventoryStore)

/-- The user can release all that the reservation still holds. -/
def CanRelease (reservation : StockReservation) : Prop :=
  ∃ note ids next, (ReservationService.releaseReservation service reservation.id note ids).effect
    store = .ok next

/-- The user can issue all that the reservation still holds. -/
def CanIssue (reservation : StockReservation) : Prop :=
  ∃ note ids next, (issueReservedStock service reservation.id reservation.remainingQty note
    ids).effect store = .ok next

/-- The user can accept all that is outstanding on the order line. -/
def CanReceive (line : PurchaseOrderLine) : Prop :=
  ∃ (arguments : ReceiptArguments) (payload : ReceiptPayload) (next : InventoryStore),
    arguments.purchaseOrderId = line.purchaseOrderId ∧
      strip payload.purchaseOrderLineId = line.id ∧
      payload.quantityAccepted = lineOutstandingQty line ∧
      (postReceipt service { arguments with receiptLines := [payload] }).effect store = .ok next

end

/-- The quantities of an item mean what they meant, and what could be done about them still
can. -/
structure ObligationsKept (store next : InventoryStore) (itemId : String) : Prop where
  meaning : ∀ uom, store.UnitInUse itemId uom → ∀ quantity,
    quantityInStock next itemId quantity (some uom) =
      quantityInStock store itemId quantity (some uom)
  reservedQty : ∀ position : StockPosition, position.stockItemId = itemId →
    (store.balanceAt position).reservedQty = openClaims store position →
      (next.balanceAt position).reservedQty = openClaims next position
  onOrderQty : ∀ position : StockPosition, position.stockItemId = itemId →
    (store.balanceAt position).onOrderQty = outstanding store position →
      (next.balanceAt position).onOrderQty = outstanding next position
  released : ∀ service, ∀ reservation ∈ store.reservations.rows, reservation.stockItemId = itemId →
    CanRelease service store reservation → CanRelease service next reservation
  issued : ∀ service, ∀ reservation ∈ store.reservations.rows, reservation.stockItemId = itemId →
    CanIssue service store reservation → CanIssue service next reservation
  received : ∀ service, ∀ line ∈ store.orderLines.rows, line.stockItemId = itemId →
    CanReceive service store line → CanReceive service next line

/-- Nobody can do anything about the obligations of the item. -/
structure Stuck (store : InventoryStore) (itemId : String) : Prop where
  released : ∀ service, ∀ reservation ∈ store.reservations.rows, reservation.stockItemId = itemId →
    ¬ CanRelease service store reservation
  issued : ∀ service, ∀ reservation ∈ store.reservations.rows, reservation.stockItemId = itemId →
    ¬ CanIssue service store reservation
  received : ∀ service, ∀ line ∈ store.orderLines.rows, line.stockItemId = itemId →
    ¬ CanReceive service store line

/-- What an update asks for does not touch the obligations of its item. -/
structure ItemMasterService.UpdateArguments.Harmless (arguments : UpdateArguments)
    (store : InventoryStore) (item : StockItem) : Prop where
  units : ∀ uom, store.UnitInUse item.id uom →
    CountsAlike item (arguments.requestedUoms item) (some uom)
  inUse : arguments.LeavesActive item ∧ arguments.isStocked.getD item.isStocked = true ∨
    Stuck store item.id
  tracking : arguments.isSerialTracked.getD item.isSerialTracked = true →
    ∀ service, ∀ line ∈ store.orderLines.rows, line.stockItemId = item.id →
      CanReceive service store line → |lineOutstandingQty line - 1| ≤ 1 / 10 ^ 9

/-! ## Calls that go through -/

section

variable {service : InventoryService} {store next : InventoryStore} {itemId : String}
  {item updated : StockItem}

theorem resolveStockScope_inUse {label storeroomId : String} {scope : StockScope}
    (hfound : store.items.get? itemId = some item)
    (h : resolveStockScope service store label itemId storeroomId = .ok scope) :
    item.isActive = true ∧ item.isStocked = true := by
  iterate 2 obtain ⟨_, -, h⟩ := bind_ok h
  obtain ⟨_, hitem, -⟩ := bind_ok h
  have hsame := Option.some.inj (hfound.symm.trans (validateStockItem_ok hitem).1)
  obtain ⟨_, -, h⟩ := bind_ok hitem
  obtain ⟨_, hactive, h⟩ := bind_ok h
  obtain ⟨_, hstocked, h⟩ := bind_ok h
  cases h
  rw [hsame]
  exact ⟨ensure_eq_ok.mp hactive, ensure_eq_ok.mp hstocked⟩

theorem getReservation_stored {reservation stored : StockReservation}
    (hstored : reservation ∈ store.reservations.rows)
    (h : getReservation service store reservation.id = .ok stored) : stored = reservation :=
  Option.some.inj ((getReservation_ok h).1.symm.trans (Table.get?_of_mem _ hstored))

theorem closeReservation_isOpen {reservation : StockReservation} {label note : String}
    {status : StockReservationStatus} {ids : PostingIds}
    (hstored : reservation ∈ store.reservations.rows)
    (h : (closeReservation service label reservation.id status note ids).effect store =
      .ok next) : reservation.IsOpen := by
  obtain ⟨_, hprepared, -⟩ := GuardedCall.effect_eq_ok.mp h
  obtain ⟨_, -, hprepared⟩ := bind_ok hprepared
  obtain ⟨stored, hread, hprepared⟩ := bind_ok hprepared
  obtain ⟨_, hopen, -⟩ := bind_ok hprepared
  obtain rfl := getReservation_stored hstored hread
  exact ensure_eq_ok.mp hopen

theorem issueReservedStock_isOpen {reservation : StockReservation} {note : String} {quantity : ℚ}
    {ids : PostingIds} (hstored : reservation ∈ store.reservations.rows)
    (h : (issueReservedStock service reservation.id quantity note ids).effect store =
      .ok next) : reservation.IsOpen := by
  obtain ⟨_, hprepared, -⟩ := GuardedCall.effect_eq_ok.mp h
  obtain ⟨_, -, hprepared⟩ := bind_ok hprepared
  obtain ⟨stored, hread, hprepared⟩ := bind_ok hprepared
  obtain ⟨_, hopen, -⟩ := bind_ok hprepared
  obtain rfl := getReservation_stored hstored hread
  exact ensure_eq_ok.mp hopen

theorem CanRelease.inUse {reservation : StockReservation} (h : CanRelease service store reservation)
    (hstored : reservation ∈ store.reservations.rows)
    (hfound : store.items.get? reservation.stockItemId = some item) :
    item.isActive = true ∧ item.isStocked = true := by
  obtain ⟨_, _, _, h⟩ := h
  obtain ⟨plan, hprepared, h⟩ := GuardedCall.effect_eq_ok.mp h
  obtain ⟨_, hreleased, -⟩ := bind_ok h
  obtain ⟨_, -, hprepared⟩ := bind_ok hprepared
  obtain ⟨stored, hread, hprepared⟩ := bind_ok hprepared
  iterate 3 obtain ⟨_, -, hprepared⟩ := bind_ok hprepared
  cases hprepared
  obtain rfl := getReservation_stored hstored hread
  obtain ⟨_, hposting, -⟩ := GuardedCall.effect_eq_ok.mp hreleased
  obtain ⟨_, hscope, -⟩ := bind_ok hposting
  exact resolveStockScope_inUse hfound hscope

theorem CanIssue.inUse {reservation : StockReservation} (h : CanIssue service store reservation)
    (hstored : reservation ∈ store.reservations.rows)
    (hfound : store.items.get? reservation.stockItemId = some item) :
    item.isActive = true ∧ item.isStocked = true := by
  obtain ⟨_, _, _, h⟩ := h
  obtain ⟨plan, hprepared, h⟩ := GuardedCall.effect_eq_ok.mp h
  obtain ⟨_, hissued, -⟩ := bind_ok h
  obtain ⟨_, -, hprepared⟩ := bind_ok hprepared
  obtain ⟨stored, hread, hprepared⟩ := bind_ok hprepared
  iterate 4 obtain ⟨_, -, hprepared⟩ := bind_ok hprepared
  cases hprepared
  obtain rfl := getReservation_stored hstored hread
  obtain ⟨_, hposting, -⟩ := GuardedCall.effect_eq_ok.mp hissued
  obtain ⟨_, hscope, -⟩ := bind_ok hposting
  exact resolveStockScope_inUse hfound hscope

theorem CanReceive.spec {line : PurchaseOrderLine} (h : CanReceive service store line)
    (hstored : line ∈ store.orderLines.rows)
    (hfound : store.items.get? line.stockItemId = some item) :
    store.IsOpenLine line ∧ (item.isActive = true ∧ item.isStocked = true) ∧
      item.Receives (lineOutstandingQty line) ∧ 0 < lineOutstandingQty line := by
  obtain ⟨arguments, payload, _, horderId, hlineId, hquantity, h⟩ := h
  obtain ⟨⟨order, receipt⟩, hprepared, h⟩ := GuardedCall.effect_eq_ok.mp h
  obtain ⟨_, hinserted, h⟩ := bind_ok h
  obtain ⟨_, hreceived, -⟩ := bind_ok h
  obtain ⟨_, hreceived, -⟩ := bind_ok hreceived
  obtain ⟨_, -, hinserted⟩ := bind_ok hinserted
  cases hinserted
  obtain ⟨⟨read, readItem, received⟩, hread, hreceived⟩ := bind_ok hreceived
  obtain ⟨_, hinserted, hreceived⟩ := bind_ok hreceived
  obtain ⟨_, hposted, -⟩ := bind_ok hreceived
  obtain ⟨_, -, hinserted⟩ := bind_ok hinserted
  cases hinserted
  obtain ⟨hfoundLine, hfoundItem, hitemId, -, haccepted, hreceives⟩ :=
    prepareReceiptLine_copies hread
  rw [hlineId] at hfoundLine
  obtain rfl : read = line :=
    Option.some.inj (hfoundLine.symm.trans (store.orderLines.get?_of_mem hstored))
  obtain rfl : readItem = item := Option.some.inj (hfoundItem.symm.trans hfound)
  have hprocessed := prepareReceiptLine_processed hread
  have hpositive : 0 < lineOutstandingQty read := hprocessed.1.trans_le hprocessed.2
  refine ⟨?_, ?_, hquantity ▸ hreceives, hpositive⟩
  · obtain ⟨_, -, hprepared⟩ := bind_ok hprepared
    obtain ⟨_, horder, hprepared⟩ := bind_ok hprepared
    obtain ⟨_, hstatus, hprepared⟩ := bind_ok hprepared
    iterate 2 obtain ⟨_, -, horder⟩ := bind_ok horder
    refine ⟨_, horderId ▸ (Option.filter_eq_some_iff.mp (require_eq_ok.mp horder)).1,
      ensure_eq_ok.mp hstatus, ?_⟩
    intro hnone
    rw [lineOutstandingQty, hnone, max_self] at hpositive
    exact lt_irrefl 0 hpositive
  · unfold postAccepted at hposted
    rw [haccepted, hquantity, if_pos hpositive] at hposted
    obtain ⟨_, hposting, -⟩ := GuardedCall.effect_eq_ok.mp hposted
    obtain ⟨_, hscope, -⟩ := bind_ok hposting
    exact resolveStockScope_inUse (hitemId.symm ▸ hfound) hscope

/-! ## The update -/

section

variable {arguments : ItemMasterService.UpdateArguments}

theorem ItemMasterService.Updated.countsAlike
    (h : ItemMasterService.Updated arguments item updated) (uom : Option String) :
    CountsAlike item updated uom ↔ CountsAlike item (arguments.requestedUoms item) uom := by
  unfold CountsAlike stockQuantity givenUom
  rw [h.stockUom, h.uomFactor, h.uomFactor]

theorem quantityInStock_withItem (hfound : store.items.get? item.id = some item)
    (hid : updated.id = item.id) (quantity : ℚ) (uom : Option String) :
    quantityInStock (store.withItem updated) item.id quantity uom =
      stockQuantity updated quantity (givenUom uom updated) := by
  have hnext : (store.withItem updated).items.get? item.id = some updated := by
    rw [← hid] at hfound ⊢
    exact Table.get?_update_self hfound
  rw [quantityInStock, hnext]
  rfl

theorem openClaims_withItem (hfound : store.items.get? item.id = some item)
    (hid : updated.id = item.id)
    (hunits : ∀ uom, store.UnitInUse item.id uom → CountsAlike item updated (some uom))
    {position : StockPosition} (hposition : position.stockItemId = item.id) :
    openClaims (store.withItem updated) position = openClaims store position := by
  apply Table.sum_congr
  intro reservation hstored
  unfold openClaim
  by_cases hclaims : reservation.position = position ∧ reservation.IsOpen
  · have hitem : reservation.stockItemId = item.id := by
      rw [← hposition, ← hclaims.1]
      rfl
    have hcount := hunits reservation.uom
      (Or.inr (Or.inl ⟨reservation, hstored, hitem, hclaims.2, rfl⟩))
    rw [if_pos hclaims, if_pos hclaims, hitem, quantityInStock_withItem hfound hid,
      hcount.quantity, quantityInStock, hfound]
    rfl
  · rw [if_neg hclaims, if_neg hclaims]

theorem lineQuantity_withItem (hfound : store.items.get? item.id = some item)
    (hid : updated.id = item.id) {line : PurchaseOrderLine} (hitem : line.stockItemId = item.id)
    (hcount : CountsAlike item updated (some line.uom)) (quantity : ℚ) :
    (store.withItem updated).lineQuantity line quantity = store.lineQuantity line quantity := by
  have hnext : (store.withItem updated).items.get? item.id = some updated := by
    rw [← hid] at hfound ⊢
    exact Table.get?_update_self hfound
  rw [InventoryStore.lineQuantity, InventoryStore.lineQuantity, hitem, hnext, hfound]
  change stockQuantity updated quantity line.uom = stockQuantity item quantity line.uom
  by_cases hempty : line.uom = ""
  · -- No item converts the empty unit.
    have hzero : ∀ other : StockItem, uomFactor other "" = 0 := fun _ => rfl
    unfold stockQuantity
    rw [hempty, hzero, hzero, mul_zero, zero_div, zero_div]
  · have hquantity := hcount.quantity quantity
    have hgiven : ∀ other : StockItem, givenUom (some line.uom) other = line.uom :=
      fun _ => if_neg hempty
    rw [hgiven, hgiven] at hquantity
    exact hquantity

theorem outstanding_withItem (hfound : store.items.get? item.id = some item)
    (hid : updated.id = item.id)
    (hunits : ∀ uom, store.UnitInUse item.id uom → CountsAlike item updated (some uom))
    {position : StockPosition} (hposition : position.stockItemId = item.id) :
    outstanding (store.withItem updated) position = outstanding store position := by
  apply Table.sumRefs_congr
  intro line hstored order horder
  unfold outstandingAt
  by_cases hcounts : order.IsOnOrder ∧ order.positionOf line = position
  · rw [if_pos hcounts, if_pos hcounts]
    have hitem : line.stockItemId = item.id := by
      rw [← hposition, ← hcounts.2]
      rfl
    by_cases hnone : line.quantityOrdered - line.quantityReceived - line.quantityRejected = 0
    · rw [hnone, lineQuantity_zero, lineQuantity_zero]
    · exact lineQuantity_withItem hfound hid hitem (hunits line.uom (Or.inr (Or.inr
        ⟨line, hstored, hitem, ⟨order, horder, hcounts.1, hnone⟩, rfl⟩))) _
  · rw [if_neg hcounts, if_neg hcounts]

theorem ObligationsKept.harmless (hfound : store.items.get? item.id = some item)
    (hupdated : ItemMasterService.Updated arguments item updated)
    (h : ObligationsKept store (store.withItem updated) item.id) :
    arguments.Harmless store item := by
  have hnext : (store.withItem updated).items.get? item.id = some updated := by
    rw [← hupdated.id] at hfound ⊢
    exact Table.get?_update_self hfound
  constructor
  · intro uom huse
    have hone := h.meaning uom huse 1
    rw [quantityInStock_withItem hfound hupdated.id, quantityInStock, hfound] at hone
    exact (hupdated.countsAlike _).mp hone
  · by_cases hinUse : updated.isActive = true ∧ updated.isStocked = true
    · left
      rw [← hupdated.isActive, ← hupdated.isStocked]
      exact hinUse
    · -- A call that went through before would still do so, on an item out of use.
      right
      constructor
      · intro service reservation hstored hitem hcan
        have hkept := h.released service reservation hstored hitem hcan
        exact hinUse (hkept.inUse hstored (hitem.symm ▸ hnext))
      · intro service reservation hstored hitem hcan
        have hkept := h.issued service reservation hstored hitem hcan
        exact hinUse (hkept.inUse hstored (hitem.symm ▸ hnext))
      · intro service line hstored hitem hcan
        have hkept := h.received service line hstored hitem hcan
        exact hinUse (hkept.spec hstored (hitem.symm ▸ hnext)).2.1
  · intro htracked service line hstored hitem hcan
    rw [← hupdated.isSerialTracked] at htracked
    have hkept := h.received service line hstored hitem hcan
    obtain ⟨hopen, -, hreceives, hpositive⟩ := hkept.spec hstored (hitem.symm ▸ hnext)
    exact hreceives htracked hpositive

theorem ItemMasterService.UpdateArguments.Harmless.obligationsKept
    (hfound : store.items.get? item.id = some item)
    (hupdated : ItemMasterService.Updated arguments item updated)
    (h : arguments.Harmless store item) :
    ObligationsKept store (store.withItem updated) item.id := by
  have hunits : ∀ uom, store.UnitInUse item.id uom → CountsAlike item updated (some uom) :=
    fun uom huse => (hupdated.countsAlike _).mpr (h.units uom huse)
  have hstill : ¬ Stuck store item.id → StillStocked item updated := by
    intro hstuck
    obtain ⟨hactive, hstocked⟩ := h.inUse.resolve_right hstuck
    exact ⟨hupdated.id, hupdated.organizationId, hupdated.isActive.mpr hactive,
      hupdated.isStocked.trans hstocked⟩
  -- The one reservation with the id of an open one is stated in a unit in use.
  have hreservation : ∀ reservation ∈ store.reservations.rows,
      reservation.stockItemId = item.id → reservation.IsOpen →
        ∀ stored, store.reservations.get? reservation.id = some stored →
          store.items.get? stored.stockItemId = some item ∧
            CountsAlike item updated (some stored.uom) := by
    intro reservation hmem hitem hopen stored hstored
    obtain rfl := Option.some.inj (hstored.symm.trans (Table.get?_of_mem _ hmem))
    exact ⟨hitem.symm ▸ hfound,
      hunits stored.uom (Or.inr (Or.inl ⟨stored, hmem, hitem, hopen, rfl⟩))⟩
  constructor
  · intro uom huse quantity
    rw [quantityInStock_withItem hfound hupdated.id, (hunits uom huse).quantity, quantityInStock,
      hfound]
    rfl
  · intro position hposition hagrees
    rw [openClaims_withItem hfound hupdated.id hunits hposition, ← hagrees]
    rfl
  · intro position hposition hagrees
    rw [outstanding_withItem hfound hupdated.id hunits hposition, ← hagrees]
    rfl
  · intro service reservation hmem hitem hcan
    have hstuck : ¬ Stuck store item.id := fun hstuck =>
      hstuck.released service reservation hmem hitem hcan
    obtain ⟨note, ids, _, hcall⟩ := hcan
    have hopen := closeReservation_isOpen hmem hcall
    obtain ⟨next', hnext'⟩ := closeReservation_kept (hreservation reservation hmem hitem hopen)
      (hstill hstuck) hcall
    exact ⟨note, ids, next', hnext'⟩
  · intro service reservation hmem hitem hcan
    have hstuck : ¬ Stuck store item.id := fun hstuck =>
      hstuck.issued service reservation hmem hitem hcan
    obtain ⟨note, ids, _, hcall⟩ := hcan
    have hopen := issueReservedStock_isOpen hmem hcall
    obtain ⟨next', hnext'⟩ := issueReservedStock_kept (hreservation reservation hmem hitem hopen)
      (hstill hstuck) hcall
    exact ⟨note, ids, next', hnext'⟩
  · intro service line hmem hitem hcan
    have hstuck : ¬ Stuck store item.id := fun hstuck =>
      hstuck.received service line hmem hitem hcan
    obtain ⟨hopen, -⟩ := hcan.spec hmem (hitem.symm ▸ hfound)
    have hcount := hunits line.uom (Or.inr (Or.inr ⟨line, hmem, hitem, hopen, rfl⟩))
    have hreceives : updated.Receives (lineOutstandingQty line) := by
      intro htracked _
      rw [hupdated.isSerialTracked] at htracked
      exact h.tracking htracked service line hmem hitem hcan
    obtain ⟨receipt, payload, _, horder, hline, hquantity, hcall⟩ := hcan
    have hfoundLine : store.orderLines.get? (strip payload.purchaseOrderLineId) = some line :=
      hline ▸ store.orderLines.get?_of_mem hmem
    obtain ⟨next', hnext'⟩ := postReceipt_kept hcall hfoundLine (hitem.symm ▸ hfound)
      (hstill hstuck) hcount (hquantity.symm ▸ hreceives)
    exact ⟨receipt, payload.tracked updated receipt.receiptDate, next', horder, hline, hquantity,
      hnext'⟩

end

end

/-- An accepted update of an item keeps the obligations of its stock exactly when what it asks
for is harmless. -/
theorem updateItem_obligationsKept_iff {service : InventoryService} {store next : PlatformStore}
    {itemId : String} {arguments : ItemMasterService.UpdateArguments}
    (hsettled : store.addedBalances = [])
    (h : (ItemMasterService.updateItem service itemId arguments).effect store = .ok next) :
    ObligationsKept store.inventory next.inventory itemId ↔
      ∃ item, store.inventory.items.get? itemId = some item ∧
        arguments.Harmless store.inventory item := by
  obtain ⟨item, updated, hitem, rfl, hupdated⟩ := ItemMasterService.updateItem_ok hsettled h
  obtain ⟨hfound, rfl⟩ := getItemForInternalUse_ok hitem
  constructor
  · intro hkept
    exact ⟨item, hfound, hkept.harmless hfound hupdated⟩
  · rintro ⟨stored, hstored, hharmless⟩
    obtain rfl := Option.some.inj (hstored.symm.trans hfound)
    exact hharmless.obligationsKept hfound hupdated

/-! ## Two boxes in reserve -/

/-- Twenty bolts are held as two boxes of ten. -/
def reservedBoxes : List (InventoryService × StockCall) :=
  [(inventoryAdmin, .postOpeningBalance (boltArguments 100 "EA" "1") 2),
    (inventoryAdmin, .createReservation
      { stockItemId := "bolt", storeroomId := "main", reservedQty := 2, uom := some "BOX"
        sourceReferenceType := "task", sourceReferenceId := "t", reservationId := "boxes"
        reservationNumber := "R1", ids := boltIds "2" })]

def boxYard : PlatformStore where
  sites := .empty
  parties := .empty
  approvals := .empty
  inventory := (sessionAfter runStockCall
    (.clean { boltStore with
      items := ⟨[{ id := "bolt", organizationId := "org", name := "Bolt", itemCode := "BOLT"
                   status := .active, stockUom := "EA", orderUom := "BOX", issueUom := "EA"
                   orderUomRatio := 10, isActive := true }], by decide⟩ })
    reservedBoxes).committed

theorem boxYard_item : (boxYard.inventory.items.get? "bolt").map
    (fun item => (item.status, item.isStocked, item.isSerialTracked)) =
      some (.active, true, false) := by
  decide +kernel

theorem updateItem_obligationsKept_bolts :
    ∃ next, (ItemMasterService.updateItem inventoryAdmin "bolt"
        { reorderPoint := some 30, notes := some "M8" }).effect boxYard = .ok next ∧
      ObligationsKept boxYard.inventory next.inventory "bolt" := by
  have haccepted : ((ItemMasterService.updateItem inventoryAdmin "bolt"
      { reorderPoint := some 30, notes := some "M8" }).effect boxYard).toOption.isSome = true := by
    decide +kernel
  obtain ⟨next, hnext⟩ := Option.isSome_iff_exists.mp haccepted
  have h := toOption_eq_some.mp hnext
  obtain ⟨item, hitem, hrow⟩ := Option.map_eq_some_iff.mp boxYard_item
  refine ⟨next, h, (updateItem_obligationsKept_iff rfl h).mpr ⟨item, hitem, ?_⟩⟩
  obtain ⟨hstatus, hrow⟩ := Prod.mk.inj hrow
  obtain ⟨hstocked, htracked⟩ := Prod.mk.inj hrow
  exact ⟨fun _ _ => rfl, Or.inl ⟨hstatus, hstocked⟩, fun hserial => absurd hserial (by
    rw [Option.getD_none, htracked]
    decide)⟩

/-- With the ratio of the box doubled, the two reserved boxes no longer are the twenty bolts in
reserve, and can no longer be released. -/
theorem not_obligationsKept_bolts :
    ∃ next released, (ItemMasterService.updateItem inventoryAdmin "bolt"
        { orderUomRatio := some 20 }).effect boxYard = .ok next ∧
      (ReservationService.releaseReservation inventoryAdmin "boxes" "" (boltIds "3")).effect
        boxYard.inventory = .ok released ∧
      ((ReservationService.releaseReservation inventoryAdmin "boxes" "" (boltIds "3")).effect
        next.inventory).toOption.isSome = false ∧
      ¬ ObligationsKept boxYard.inventory next.inventory "bolt" := by
  have hnext : (((ItemMasterService.updateItem inventoryAdmin "bolt"
      { orderUomRatio := some 20 }).effect boxYard).toOption.map fun next =>
        (quantityInStock next.inventory "bolt" 1 (some "BOX"),
          ((ReservationService.releaseReservation inventoryAdmin "boxes" "" (boltIds "3")).effect
            next.inventory).toOption.isSome)) = some (20, false) := by
    decide +kernel
  have hreleased : ((ReservationService.releaseReservation inventoryAdmin "boxes" ""
      (boltIds "3")).effect boxYard.inventory).toOption.isSome = true := by
    decide +kernel
  have hbefore : quantityInStock boxYard.inventory "bolt" 1 (some "BOX") = 10 := by
    decide +kernel
  have huse : ∃ reservation ∈ boxYard.inventory.reservations.rows,
      reservation.stockItemId = "bolt" ∧ reservation.IsOpen ∧ reservation.uom = "BOX" := by
    decide +kernel
  obtain ⟨next, haccepted, hafter⟩ := Option.map_eq_some_iff.mp hnext
  obtain ⟨hquantity, hrefused⟩ := Prod.mk.inj hafter
  obtain ⟨released, hcall⟩ := Option.isSome_iff_exists.mp hreleased
  refine ⟨next, released, toOption_eq_some.mp haccepted, toOption_eq_some.mp hcall, hrefused, ?_⟩
  intro hkept
  have hmeaning := hkept.meaning "BOX" (Or.inr (Or.inl huse)) 1
  rw [hquantity, hbefore] at hmeaning
  exact absurd hmeaning (by decide)

end ProjectManager
