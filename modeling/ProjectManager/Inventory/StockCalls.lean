import ProjectManager.Inventory.Postings
import ProjectManager.Inventory.Reservations
import ProjectManager.Procurement.Receiving

/-! # Calls on stock

What each call of stock control, of reservations and of receiving does, in terms
of postings: each accepted call posts, and writes rows that stock does not read.
-/

namespace ProjectManager

open Foundation StockControlService

section

variable {store next : InventoryStore}

/-! ## The operations of stock control -/

variable {service : InventoryService}

theorem getItemForInternalUse_ok {itemId : String} {item : StockItem}
    (h : getItemForInternalUse service store itemId = .ok item) :
    store.items.get? itemId = some item ∧ item.id = itemId := by
  obtain ⟨_, -, h⟩ := bind_ok h
  obtain ⟨hfound, -⟩ := Option.filter_eq_some_iff.mp (require_eq_ok.mp h)
  exact ⟨hfound, (Table.get?_eq_some_iff.mp hfound).2⟩

theorem validateStockItem_ok {itemId : String} {item : StockItem}
    (h : validateStockItem service store itemId = .ok item) :
    store.items.get? itemId = some item ∧ item.id = itemId := by
  obtain ⟨_, hitem, h⟩ := bind_ok h
  iterate 2 obtain ⟨_, -, h⟩ := bind_ok h
  cases h
  obtain ⟨_, -, hitem⟩ := bind_ok hitem
  exact getItemForInternalUse_ok hitem

theorem getStoreroom_ok {storeroomId : String} {storeroom : Storeroom}
    (h : getStoreroom service store storeroomId = .ok storeroom) : storeroom.id = storeroomId := by
  iterate 2 obtain ⟨_, -, h⟩ := bind_ok h
  obtain ⟨found, hfound, h⟩ := bind_ok h
  obtain ⟨_, -, h⟩ := bind_ok h
  cases h
  exact (Table.get?_eq_some_iff.mp (Option.filter_eq_some_iff.mp (require_eq_ok.mp hfound)).1).2

theorem validateStoreroom_ok {storeroomId : String} {storeroom : Storeroom}
    (h : validateStoreroom service store storeroomId = .ok storeroom) :
    storeroom.id = storeroomId := by
  obtain ⟨_, hfound, h⟩ := bind_ok h
  obtain ⟨_, -, h⟩ := bind_ok h
  cases h
  exact getStoreroom_ok hfound

theorem resolveStockScope_ok {label stockItemId storeroomId : String} {scope : StockScope}
    (h : resolveStockScope service store label stockItemId storeroomId = .ok scope) :
    store.items.get? stockItemId = some scope.item ∧
      service.activeOrganization = some scope.organizationId ∧
      scope.item.id = stockItemId ∧ scope.storeroom.id = storeroomId := by
  obtain ⟨_, -, h⟩ := bind_ok h
  obtain ⟨_, horganization, h⟩ := bind_ok h
  obtain ⟨_, hitem, h⟩ := bind_ok h
  obtain ⟨_, hstoreroom, h⟩ := bind_ok h
  obtain ⟨_, -, h⟩ := bind_ok h
  cases h
  obtain ⟨hfound, hid⟩ := validateStockItem_ok hitem
  exact ⟨hfound, require_eq_ok.mp horganization, hid, validateStoreroom_ok hstoreroom⟩

/-- The position that a service works on. -/
def InventoryService.position (service : InventoryService) (stockItemId storeroomId : String) :
    StockPosition :=
  ⟨service.activeOrganization.getD "", stockItemId, storeroomId⟩

/-- A quantity of an item of the store in its stock unit, by the given unit or else the stock
unit. -/
def quantityInStock (store : InventoryStore) (stockItemId : String) (quantity : ℚ)
    (uom : Option String) : ℚ :=
  ((store.items.get? stockItemId).map fun item =>
    stockQuantity item quantity (givenUom uom item)).getD 0

def StockControlService.StockScope.position (scope : StockScope) : StockPosition :=
  ⟨scope.organizationId, scope.item.id, scope.storeroom.id⟩

/-- A posting made for a scope leads to the store after the call. -/
theorem posted_of_moves {label stockItemId storeroomId : String} {scope : StockScope}
    {posting : StockPosting} {onHand reserved : ℚ}
    (hscope : resolveStockScope service store label stockItemId storeroomId = .ok scope)
    (hmoves : posting.Moves store scope.item scope.position onHand reserved)
    (hwrite : posting.write store = .ok next) :
    Posted store next (service.position stockItemId storeroomId) reserved := by
  obtain ⟨hfound, horganization, hitem, hstoreroom⟩ := resolveStockScope_ok hscope
  have hposition : service.position stockItemId storeroomId = scope.position := by
    rw [InventoryService.position, horganization, ← hitem, ← hstoreroom]
    rfl
  rw [hposition]
  rw [← hitem] at hfound
  exact ⟨scope.item, posting, onHand, hfound, hmoves, hwrite⟩

theorem stockQuantity_of_scope {label stockItemId storeroomId : String} {scope : StockScope}
    (hscope : resolveStockScope service store label stockItemId storeroomId = .ok scope)
    (quantity : ℚ) (uom : Option String) :
    stockQuantity scope.item quantity (givenUom uom scope.item) =
      quantityInStock store stockItemId quantity uom := by
  rw [quantityInStock, (resolveStockScope_ok hscope).1]
  rfl

variable {arguments : StockArguments}

@[simp] theorem postingArguments_transactionType (scope : StockScope)
    (transactionType : StockTransactionType) (defaultReferenceType : String) :
    (arguments.postingArguments scope transactionType defaultReferenceType).transactionType =
      transactionType :=
  rfl

theorem postOpeningBalance_posted {unitCost : ℚ}
    (h : (postOpeningBalance service arguments unitCost).effect store = .ok next) :
    Posted store next (service.position arguments.stockItemId arguments.storeroomId) 0 := by
  obtain ⟨posting, h, hwrite⟩ := GuardedCall.effect_eq_ok.mp h
  obtain ⟨scope, hscope, h⟩ := bind_ok h
  obtain ⟨_, -, h⟩ := bind_ok h
  exact posted_of_moves hscope (postTransaction_moves one_ne_zero h) hwrite

theorem adjustmentType_sign (normalizedDirection : String) :
    (adjustmentType normalizedDirection).sign ≠ 0 := by
  unfold adjustmentType
  split
  · exact one_ne_zero
  · exact neg_ne_zero.mpr one_ne_zero

theorem postAdjustment_posted {direction : String} {unitCost : ℚ}
    (h : (postAdjustment service arguments direction unitCost).effect store = .ok next) :
    Posted store next (service.position arguments.stockItemId arguments.storeroomId) 0 := by
  obtain ⟨posting, h, hwrite⟩ := GuardedCall.effect_eq_ok.mp h
  obtain ⟨scope, hscope, h⟩ := bind_ok h
  obtain ⟨_, -, h⟩ := bind_ok h
  refine posted_of_moves hscope (postTransaction_moves ?_ h) hwrite
  rw [postingArguments_transactionType]
  exact adjustmentType_sign _

theorem holdReservation_posted
    (h : (holdReservation service arguments).effect store = .ok next) :
    Posted store next (service.position arguments.stockItemId arguments.storeroomId)
      (quantityInStock store arguments.stockItemId arguments.quantity arguments.uom) := by
  obtain ⟨posting, h, hwrite⟩ := GuardedCall.effect_eq_ok.mp h
  obtain ⟨scope, hscope, h⟩ := bind_ok h
  have hmoves := postReservationTransaction_moves (List.mem_cons_self) h
  rw [← stockQuantity_of_scope hscope]
  exact posted_of_moves hscope hmoves hwrite

theorem releaseReservation_posted
    (h : (releaseReservation service arguments).effect store = .ok next) :
    Posted store next (service.position arguments.stockItemId arguments.storeroomId)
      (-quantityInStock store arguments.stockItemId arguments.quantity arguments.uom) := by
  obtain ⟨posting, h, hwrite⟩ := GuardedCall.effect_eq_ok.mp h
  obtain ⟨scope, hscope, h⟩ := bind_ok h
  have hmoves := postReservationTransaction_moves (List.mem_cons_of_mem _ List.mem_cons_self) h
  rw [← stockQuantity_of_scope hscope]
  exact posted_of_moves hscope hmoves hwrite

theorem issueStock_posted {unitCost : Option ℚ} {releaseReservedQty : ℚ}
    (h : (issueStock service arguments unitCost releaseReservedQty).effect store = .ok next) :
    Posted store next (service.position arguments.stockItemId arguments.storeroomId)
      (-quantityInStock store arguments.stockItemId releaseReservedQty arguments.uom) := by
  obtain ⟨posting, h, hwrite⟩ := GuardedCall.effect_eq_ok.mp h
  obtain ⟨scope, hscope, h⟩ := bind_ok h
  iterate 2 obtain ⟨_, -, h⟩ := bind_ok h
  have hmoves := postMovementTransaction_moves List.mem_cons_self h
  rw [← stockQuantity_of_scope hscope]
  exact posted_of_moves hscope hmoves hwrite

theorem returnStock_posted {unitCost : Option ℚ}
    (h : (returnStock service arguments unitCost).effect store = .ok next) :
    Posted store next (service.position arguments.stockItemId arguments.storeroomId) 0 := by
  obtain ⟨posting, h, hwrite⟩ := GuardedCall.effect_eq_ok.mp h
  obtain ⟨scope, hscope, h⟩ := bind_ok h
  have hmoves := postMovementTransaction_moves (List.mem_cons_of_mem _ List.mem_cons_self) h
  rw [stockQuantity_zero, neg_zero] at hmoves
  exact posted_of_moves hscope hmoves hwrite

/-! ## Bookings that reserve nothing -/

/-- Rows that stock is not about may differ. -/
structure SameStock (store next : InventoryStore) : Prop where
  items : next.items = store.items
  balances : next.balances = store.balances
  transactions : next.transactions = store.transactions
  reservations : next.reservations = store.reservations

/-- The on-order quantity of a position moved by a quantity in the stock unit. -/
inductive OnOrderAdjusted (store : InventoryStore) (position : StockPosition) :
    ℚ → InventoryStore → Prop
  | unchanged : OnOrderAdjusted store position 0 store
  | stored (isNew : Bool) (balance : StockBalance) (hposition : balance.position = position)
      (hisNew : isNew = (store.balances.get? position).isNone)
      (honHand : balance.onHandQty = (store.balanceAt position).onHandQty)
      (hreserved : balance.reservedQty = (store.balanceAt position).reservedQty)
      (havailable : balance.availableQty = (store.balanceAt position).availableQty)
      (haverage : balance.averageCost = (store.balanceAt position).averageCost)
      (hflagged : balance.reorderRequired = (store.balanceAt position).reorderRequired)
      {quantity : ℚ} (honOrder : balance.onOrderQty = (store.balanceAt position).onOrderQty + quantity)
      (hnonneg : 0 ≤ balance.onOrderQty) :
      OnOrderAdjusted store position quantity (storeBalance store isNew balance)

theorem OnOrderAdjusted.frame {position : StockPosition} {quantity : ℚ}
    (h : OnOrderAdjusted store position quantity next) :
    ∃ balances, next = { store with balances := balances } := by
  cases h <;> exact ⟨_, rfl⟩

theorem onOrderBalance_ok {organizationId storeroomId uom balanceId : String}
    {item : StockItem} {delta : ℚ} {isNew : Bool} {balance : StockBalance}
    (h : onOrderBalance store organizationId item storeroomId uom delta balanceId =
      .ok (some (isNew, balance))) :
    OnOrderAdjusted store ⟨organizationId, item.id, storeroomId⟩ (stockQuantity item delta uom)
      (storeBalance store isNew balance) := by
  unfold onOrderBalance at h
  split at h
  · cases h
  · obtain ⟨converted, hconverted, h⟩ := bind_ok h
    obtain ⟨_, hnonneg, h⟩ := bind_ok h
    cases h
    obtain ⟨hposition, honHand, hreserved, honOrder⟩ := startBalance store
      ⟨organizationId, item.id, storeroomId⟩ balanceId item.stockUom
    have havailable := startBalance_availableQty store ⟨organizationId, item.id, storeroomId⟩
      balanceId item.stockUom
    rw [← convertItemQuantity_stock hconverted]
    refine .stored _ _ ?_ rfl ?_ ?_ ?_ ?_ ?_ ?_ ?_
    · exact hposition
    · exact honHand
    · exact hreserved
    · exact havailable
    · exact congrArg Stock.unitCost (startBalance_stock store ⟨organizationId, item.id, storeroomId⟩
        balanceId item.stockUom)
    · exact startBalance_reorderRequired store ⟨organizationId, item.id, storeroomId⟩ balanceId
        item.stockUom
    · exact congrArg (· + converted) honOrder
    · exact ensure_eq_ok.mp hnonneg

theorem onOrderBalance_none {organizationId storeroomId uom balanceId : String}
    {item : StockItem} {delta : ℚ}
    (h : onOrderBalance store organizationId item storeroomId uom delta balanceId = .ok none) :
    delta = 0 := by
  unfold onOrderBalance at h
  split at h
  next hzero => exact hzero
  next =>
    iterate 2 obtain ⟨_, -, h⟩ := bind_ok h
    cases h

theorem adjustOnOrderBalance_ok {organizationId storeroomId uom balanceId : String}
    {item : StockItem} {delta : ℚ}
    (h : adjustOnOrderBalance store organizationId item storeroomId uom delta balanceId =
      .ok next) :
    OnOrderAdjusted store ⟨organizationId, item.id, storeroomId⟩ (stockQuantity item delta uom)
      next := by
  obtain ⟨_ | ⟨isNew, balance⟩, hwritten, h⟩ := bind_ok h
  · obtain rfl := Except.ok.inj h
    rw [onOrderBalance_none hwritten, stockQuantity_zero]
    exact .unchanged
  · obtain rfl := Except.ok.inj h
    exact onOrderBalance_ok hwritten

/-- Postings that reserve nothing, lower on-order quantities and other rows, one after another. -/
inductive Booked (store : InventoryStore) : InventoryStore → Prop
  | refl : Booked store store
  | posted {current next : InventoryStore} {position : StockPosition} :
      Booked store current → Posted current next position 0 → Booked store next
  | onOrder {current next : InventoryStore} {position : StockPosition} {quantity : ℚ} :
      Booked store current → OnOrderAdjusted current position quantity next → quantity < 0 →
        Booked store next
  | other {current next : InventoryStore} :
      Booked store current → SameStock current next → Booked store next

theorem Booked.trans {current : InventoryStore} (hfirst : Booked store current)
    (hsecond : Booked current next) : Booked store next := by
  induction hsecond with
  | refl => exact hfirst
  | posted _ hposted ih => exact .posted ih hposted
  | onOrder _ hadjusted hquantity ih => exact .onOrder ih hadjusted hquantity
  | other _ hsame ih => exact .other ih hsame

/-- An accepted transfer posts the quantity out of the one position and, at the cost that it
left with, into the other. -/
theorem transferStock_ok {arguments : TransferArguments}
    (h : (transferStock service arguments).effect store = .ok next) :
    ∃ (item : StockItem) (outbound inbound : StockPosting) (moved : InventoryStore) (quantity : ℚ),
      store.items.get? arguments.stockItemId = some item ∧ 0 < quantity ∧
      arguments.sourceStoreroomId ≠ arguments.destinationStoreroomId ∧
      outbound.Moves store item
        (service.position arguments.stockItemId arguments.sourceStoreroomId) (-quantity) 0 ∧
      outbound.write store = .ok moved ∧
      inbound.Moves moved item
        (service.position arguments.stockItemId arguments.destinationStoreroomId) quantity 0 ∧
      inbound.write moved = .ok next ∧
      stockUnitCost item inbound.transaction = (store.balanceAt
        (service.position arguments.stockItemId arguments.sourceStoreroomId)).averageCost := by
  obtain ⟨scope, hchecks, h⟩ := GuardedCall.effect_eq_ok.mp h
  obtain ⟨_, -, hchecks⟩ := bind_ok hchecks
  obtain ⟨organizationId, horganization, hchecks⟩ := bind_ok hchecks
  obtain ⟨item, hitem, hchecks⟩ := bind_ok hchecks
  obtain ⟨source, hsource, hchecks⟩ := bind_ok hchecks
  obtain ⟨destination, hdestination, hchecks⟩ := bind_ok hchecks
  iterate 2 obtain ⟨_, -, hchecks⟩ := bind_ok hchecks
  obtain ⟨_, hdifferent, hchecks⟩ := bind_ok hchecks
  obtain ⟨_, -, hchecks⟩ := bind_ok hchecks
  cases hchecks
  obtain ⟨outbound, houtbound, h⟩ := bind_ok h
  obtain ⟨moved, hmoved, h⟩ := bind_ok h
  obtain ⟨inbound, hinbound, hwrite⟩ := bind_ok h
  obtain ⟨hfound, hid⟩ := validateStockItem_ok hitem
  have hsourceId := validateStoreroom_ok hsource
  have hdestinationId := validateStoreroom_ok hdestination
  have horganizationId := require_eq_ok.mp horganization
  have hout := postMovementTransaction_moves
    (show StockTransactionType.transferOut ∈ _ by decide) houtbound
  have hin := postMovementTransaction_moves
    (show StockTransactionType.transferIn ∈ _ by decide) hinbound
  rw [stockQuantity_zero, neg_zero] at hout hin
  obtain ⟨hpos, huomOut, haverage, -⟩ := postMovementTransaction_cost houtbound
  obtain ⟨-, huomIn, -, hgiven⟩ := postMovementTransaction_cost hinbound
  have hcost : stockUnitCost item inbound.transaction = stockUnitCost item outbound.transaction := by
    have huom : inbound.transaction.uom = outbound.transaction.uom :=
      Except.ok.inj (huomIn.symm.trans huomOut)
    rw [stockUnitCost, hgiven _ rfl, huom, stockUnitCost]
  unfold InventoryService.position
  rw [← hsourceId, ← hdestinationId, ← hid, horganizationId]
  rw [← hid] at hfound
  refine ⟨item, outbound, inbound, moved, _, hfound, hpos, ensure_eq_ok.mp hdifferent, ?_, hmoved,
    ?_, hwrite, hcost.trans (haverage rfl)⟩
  · rw [← neg_one_mul]
    exact hout
  · rw [← one_mul (PostingArguments.moved _)]
    exact hin

theorem transferStock_booked {arguments : TransferArguments}
    (h : (transferStock service arguments).effect store = .ok next) : Booked store next := by
  obtain ⟨item, outbound, inbound, moved, quantity, hitem, -, -, hout, hmoved, hin, hwrite, -⟩ :=
    transferStock_ok h
  have hposted : Posted store moved _ 0 := ⟨item, outbound, _, hitem, hout, hmoved⟩
  have hitems : moved.items = store.items := by
    obtain ⟨_, _, rfl⟩ := hposted.frame
    rfl
  rw [← hitems] at hitem
  exact .posted (.posted .refl hposted) ⟨item, inbound, _, hitem, hin, hwrite⟩

/-! ## Receipts -/

theorem insertReceiptLine_same {line : ReceiptLine} (h : insertReceiptLine store line = .ok next) :
    SameStock store next := by
  obtain ⟨_, -, h⟩ := bind_ok h
  cases h
  exact ⟨rfl, rfl, rfl, rfl⟩

theorem insertReceipt_same {receipt : ReceiptHeader} (h : insertReceipt store receipt = .ok next) :
    SameStock store next := by
  obtain ⟨_, -, h⟩ := bind_ok h
  cases h
  exact ⟨rfl, rfl, rfl, rfl⟩

theorem postAccepted_booked {received : ReceiptLine} {ids : PostingIds}
    (h : postAccepted service received ids store = .ok next) : Booked store next := by
  unfold postAccepted at h
  split at h
  · exact .posted .refl (postAdjustment_posted h)
  · obtain rfl := Except.ok.inj h
    exact .refl

/-- What a receipt line counts is positive, and still outstanding. -/
theorem prepareReceiptLine_processed {receipt : ReceiptHeader} {index : ℕ}
    {payload : ReceiptPayload} {line : PurchaseOrderLine} {item : StockItem}
    {received : ReceiptLine}
    (h : prepareReceiptLine service receipt index payload store = .ok (line, item, received)) :
    0 < received.quantityAccepted + received.quantityRejected ∧
      received.quantityAccepted + received.quantityRejected ≤ lineOutstandingQty line := by
  iterate 7 obtain ⟨_, -, h⟩ := bind_ok h
  obtain ⟨_, hpositive, h⟩ := bind_ok h
  obtain ⟨_, hopen, h⟩ := bind_ok h
  iterate 3 obtain ⟨_, -, h⟩ := bind_ok h
  cases h
  exact ⟨ensure_eq_ok.mp hpositive, ensure_eq_ok.mp hopen⟩

/-- What is taken off on order is taken off in the stock unit as well. -/
theorem adjustOnOrderBalance_neg {organizationId storeroomId uom balanceId : String}
    {item : StockItem} {delta : ℚ}
    (h : adjustOnOrderBalance store organizationId item storeroomId uom delta balanceId =
      .ok next) (hdelta : delta < 0) : stockQuantity item delta uom < 0 := by
  obtain ⟨_, hwritten, -⟩ := bind_ok h
  unfold onOrderBalance at hwritten
  rw [if_neg hdelta.ne] at hwritten
  obtain ⟨converted, hconverted, -⟩ := bind_ok hwritten
  obtain ⟨-, hfrom, hto⟩ := convertItemQuantity_eq hconverted
  exact div_neg_of_neg_of_pos (mul_neg_of_neg_of_pos hdelta hfrom) hto

theorem receiveLine_booked {receipt : ReceiptHeader} {index : ℕ} {payload : ReceiptPayload}
    (h : receiveLine service receipt index payload store = .ok next) : Booked store next := by
  obtain ⟨⟨line, item, received⟩, hprepared, h⟩ := bind_ok h
  obtain ⟨inserted, hinserted, h⟩ := bind_ok h
  obtain ⟨posted, hposted, h⟩ := bind_ok h
  have hprocessed := (prepareReceiptLine_processed hprepared).1
  have hcounted : Booked store
      { inserted with orderLines := inserted.orderLines.update (receivedLine line received) } :=
    .other (.other .refl (insertReceiptLine_same hinserted)) ⟨rfl, rfl, rfl, rfl⟩
  exact .onOrder (hcounted.trans (postAccepted_booked hposted)) (adjustOnOrderBalance_ok h)
    (adjustOnOrderBalance_neg h (neg_neg_of_pos hprocessed))

theorem receiveLines_booked {receipt : ReceiptHeader} {index : ℕ} (payloads : List ReceiptPayload)
    (h : receiveLines service receipt index payloads store = .ok next) : Booked store next := by
  induction payloads generalizing index store with
  | nil =>
      cases h
      exact .refl
  | cons payload rest ih =>
      obtain ⟨received, hreceived, h⟩ := bind_ok h
      exact (receiveLine_booked hreceived).trans (ih h)

theorem postReceipt_body_booked {arguments : ReceiptArguments}
    {plan : PurchaseOrder × ReceiptHeader}
    (h : (postReceipt service arguments).body plan store = .ok next) : Booked store next := by
  obtain ⟨inserted, hinserted, h⟩ := bind_ok h
  obtain ⟨received, hreceived, h⟩ := bind_ok h
  cases h
  have hbooked : Booked store received :=
    (Booked.other .refl (insertReceipt_same hinserted)).trans (receiveLines_booked _ hreceived)
  exact .other hbooked ⟨rfl, rfl, rfl, rfl⟩

theorem postReceipt_booked {arguments : ReceiptArguments}
    (h : (postReceipt service arguments).effect store = .ok next) : Booked store next := by
  obtain ⟨plan, -, h⟩ := GuardedCall.effect_eq_ok.mp h
  exact postReceipt_body_booked h

/-! ## Reservations -/

open ReservationService

theorem getReservation_ok {reservationId : String} {reservation : StockReservation}
    (h : getReservation service store reservationId = .ok reservation) :
    store.reservations.get? reservationId = some reservation ∧
      service.position reservation.stockItemId reservation.storeroomId = reservation.position := by
  obtain ⟨_, -, h⟩ := bind_ok h
  obtain ⟨_, horganization, h⟩ := bind_ok h
  obtain ⟨hfound, hscope⟩ := Option.filter_eq_some_iff.mp (require_eq_ok.mp h)
  refine ⟨hfound, ?_⟩
  rw [InventoryService.position, require_eq_ok.mp horganization, Option.getD_some,
    ← of_decide_eq_true hscope]
  rfl

theorem prepareReservation_ok {arguments : CreateArguments} {reservation : StockReservation}
    (h : prepareReservation service arguments store = .ok reservation) :
    reservation.status = .active ∧ reservation.issuedQty = 0 ∧
      reservation.reservedQty = reservation.remainingQty ∧ 0 < reservation.remainingQty ∧
      service.position reservation.stockItemId reservation.storeroomId = reservation.position := by
  obtain ⟨_, -, h⟩ := bind_ok h
  obtain ⟨_, horganization, h⟩ := bind_ok h
  iterate 7 obtain ⟨_, -, h⟩ := bind_ok h
  obtain ⟨quantity, hquantity, h⟩ := bind_ok h
  iterate 2 obtain ⟨_, -, h⟩ := bind_ok h
  cases h
  obtain ⟨rfl, hpos⟩ := normalizePositiveQuantity_eq_ok hquantity
  refine ⟨rfl, rfl, rfl, hpos, ?_⟩
  rw [InventoryService.position, require_eq_ok.mp horganization]
  rfl

/-- What an accepted creation does: the reservation is inserted, then its stock is held. -/
theorem createReservation_ok {arguments : CreateArguments}
    (h : (createReservation service arguments).effect store = .ok next) :
    ∃ reservation inserted, prepareReservation service arguments store = .ok reservation ∧
      reservation.id ∉ store.reservations.ids ∧
      inserted = { store with reservations := store.reservations.insert reservation } ∧
      Posted inserted next reservation.position
        (quantityInStock store reservation.stockItemId reservation.remainingQty
          (some reservation.uom)) := by
  obtain ⟨reservation, hprepared, h⟩ := GuardedCall.effect_eq_ok.mp h
  obtain ⟨inserted, hinserted, h⟩ := bind_ok h
  obtain ⟨_, hfresh, hinserted⟩ := bind_ok hinserted
  cases hinserted
  obtain ⟨-, -, hreserved, -, hposition⟩ := prepareReservation_ok hprepared
  have hposted := holdReservation_posted h
  refine ⟨reservation, _, hprepared, (ensure_eq_ok.mp hfresh).1, rfl, ?_⟩
  rw [← hposition, ← hreserved]
  exact hposted

/-- A call that takes a quantity off an open reservation, and gives its stock back. -/
structure TakesFrom (store next : InventoryStore) (stored updated : StockReservation)
    (quantity : ℚ) : Prop where
  found : store.reservations.get? stored.id = some stored
  isOpen : stored.IsOpen
  sameRow : updated.id = stored.id ∧ updated.position = stored.position ∧
    updated.uom = stored.uom ∧ updated.reservedQty = stored.reservedQty
  remaining : updated.IsOpen →
    updated.issuedQty = stored.issuedQty + quantity ∧
      updated.remainingQty = stored.remainingQty - quantity ∧ 0 < updated.remainingQty
  closed : ¬ updated.IsOpen → quantity = stored.remainingQty
  posted : ∃ current, Posted store current stored.position
    (-quantityInStock store stored.stockItemId quantity (some stored.uom)) ∧
      next = updateReservation current updated

theorem issueReservedStock_ok {reservationId note : String} {quantity : ℚ} {ids : PostingIds}
    (h : (issueReservedStock service reservationId quantity note ids).effect store = .ok next) :
    ∃ stored updated, TakesFrom store next stored updated quantity := by
  obtain ⟨plan, hprepared, h⟩ := GuardedCall.effect_eq_ok.mp h
  obtain ⟨issued, hissued, h⟩ := bind_ok h
  cases h
  obtain ⟨_, -, hprepared⟩ := bind_ok hprepared
  obtain ⟨stored, hstored, hprepared⟩ := bind_ok hprepared
  obtain ⟨_, hopen, hprepared⟩ := bind_ok hprepared
  obtain ⟨issueQty, hquantity, hprepared⟩ := bind_ok hprepared
  obtain ⟨_, hfits, hprepared⟩ := bind_ok hprepared
  obtain ⟨_, -, hprepared⟩ := bind_ok hprepared
  cases hprepared
  obtain rfl := (normalizePositiveQuantity_eq_ok hquantity).1.symm
  obtain ⟨hfound, hposition⟩ := getReservation_ok hstored
  have hrest : max 0 (stored.remainingQty - quantity) = stored.remainingQty - quantity :=
    max_eq_right (sub_nonneg.mpr (ensure_eq_ok.mp hfits))
  refine ⟨stored, issuedReservation stored quantity note,
    (Table.get?_eq_some_iff.mp hfound).2 ▸ hfound, ensure_eq_ok.mp hopen,
    ⟨rfl, rfl, rfl, rfl⟩, ?_, ?_, ⟨issued, hposition ▸ issueStock_posted hissued, rfl⟩⟩
  · -- Issued in part: something remains.
    intro hupdated
    by_cases hdone : max 0 (stored.remainingQty - quantity) ≤ 0
    · exact absurd hupdated (by simp [StockReservation.IsOpen, issuedReservation, hdone])
    · exact ⟨rfl, hrest, not_le.mp hdone⟩
  · -- Issued in full: nothing remains.
    intro hupdated
    by_cases hdone : max 0 (stored.remainingQty - quantity) ≤ 0
    · rw [hrest] at hdone
      exact le_antisymm (ensure_eq_ok.mp hfits) (sub_nonpos.mp hdone)
    · exact absurd (by simp [StockReservation.IsOpen, issuedReservation, hdone]) hupdated

theorem closeReservation_ok {label reservationId note : String} {status : StockReservationStatus}
    {ids : PostingIds} (hstatus : status ∉ [StockReservationStatus.active, .partiallyIssued])
    (h : (closeReservation service label reservationId status note ids).effect store = .ok next) :
    ∃ stored updated, TakesFrom store next stored updated stored.remainingQty := by
  obtain ⟨plan, hprepared, h⟩ := GuardedCall.effect_eq_ok.mp h
  obtain ⟨released, hreleased, h⟩ := bind_ok h
  cases h
  obtain ⟨_, -, hprepared⟩ := bind_ok hprepared
  obtain ⟨stored, hstored, hprepared⟩ := bind_ok hprepared
  obtain ⟨_, hopen, hprepared⟩ := bind_ok hprepared
  iterate 2 obtain ⟨_, -, hprepared⟩ := bind_ok hprepared
  cases hprepared
  obtain ⟨hfound, hposition⟩ := getReservation_ok hstored
  exact ⟨stored, closedReservation stored status note,
    (Table.get?_eq_some_iff.mp hfound).2 ▸ hfound, ensure_eq_ok.mp hopen,
    ⟨rfl, rfl, rfl, rfl⟩, fun hupdated => absurd hupdated hstatus, fun _ => rfl,
    ⟨released, hposition ▸ releaseReservation_posted hreleased, rfl⟩⟩

end

/-! ## Calls -/

inductive StockCall
  | postOpeningBalance (arguments : StockArguments) (unitCost : ℚ)
  | postAdjustment (arguments : StockArguments) (direction : String) (unitCost : ℚ)
  | holdReservation (arguments : StockArguments)
  | releaseHold (arguments : StockArguments)
  | issueStock (arguments : StockArguments) (unitCost : Option ℚ) (releaseReservedQty : ℚ)
  | returnStock (arguments : StockArguments) (unitCost : Option ℚ)
  | transferStock (arguments : TransferArguments)
  | createReservation (arguments : ReservationService.CreateArguments)
  | issueReservedStock (reservationId : String) (quantity : ℚ) (note : String) (ids : PostingIds)
  | releaseReservation (reservationId note : String) (ids : PostingIds)
  | cancelReservation (reservationId note : String) (ids : PostingIds)
  | postReceipt (arguments : ReceiptArguments)

def StockCall.guarded (service : InventoryService) :
    StockCall → GuardedCall DomainError InventoryStore
  | .postOpeningBalance arguments unitCost =>
      StockControlService.postOpeningBalance service arguments unitCost
  | .postAdjustment arguments direction unitCost =>
      StockControlService.postAdjustment service arguments direction unitCost
  | .holdReservation arguments => StockControlService.holdReservation service arguments
  | .releaseHold arguments => StockControlService.releaseReservation service arguments
  | .issueStock arguments unitCost releaseReservedQty =>
      StockControlService.issueStock service arguments unitCost releaseReservedQty
  | .returnStock arguments unitCost => StockControlService.returnStock service arguments unitCost
  | .transferStock arguments => StockControlService.transferStock service arguments
  | .createReservation arguments => ReservationService.createReservation service arguments
  | .issueReservedStock reservationId quantity note ids =>
      ReservationService.issueReservedStock service reservationId quantity note ids
  | .releaseReservation reservationId note ids =>
      ReservationService.releaseReservation service reservationId note ids
  | .cancelReservation reservationId note ids =>
      ReservationService.cancelReservation service reservationId note ids
  | .postReceipt arguments => ProjectManager.postReceipt service arguments

/-- A call made by a user. -/
def runStockCall (call : InventoryService × StockCall) (session : Session InventoryStore) :
    Outcome DomainError InventoryStore :=
  (call.2.guarded call.1).run session

/-! ## A storeroom of bolts -/

/-- A user who may do everything, in the organization of the bolts. -/
def inventoryAdmin : InventoryService where
  userSession := .admin
  principal := some ("u", "admin")
  activeOrganization := some "org"
  today := 1

/-- Bolts are counted singly and ordered in boxes of ten; nothing is in stock yet. -/
def boltStore : InventoryStore where
  items := ⟨[{ id := "bolt", organizationId := "org", name := "Bolt", stockUom := "EA"
               orderUom := "BOX", orderUomRatio := 10, isActive := true }], by decide⟩
  storerooms := ⟨[{ id := "main", organizationId := "org", isActive := true },
    { id := "spare", organizationId := "org", isActive := true }], by decide⟩
  balances := .empty
  transactions := .empty
  reservations := .empty
  requisitions := .empty
  requisitionLines := .empty
  orders := .empty
  orderLines := .empty
  receipts := .empty
  receiptLines := .empty

def boltIds (number : String) : PostingIds := ⟨"balance" ++ number, "transaction" ++ number, number⟩

def boltArguments (quantity : ℚ) (uom number : String) : StockArguments where
  stockItemId := "bolt"
  storeroomId := "main"
  quantity := quantity
  uom := some uom
  ids := boltIds number

end ProjectManager
