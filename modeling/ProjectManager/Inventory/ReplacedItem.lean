import ProjectManager.Inventory.StockCalls

/-! # Stock calls on an item that was replaced

The calls read an item for its flags and for what its units count. Where another
row of the item counts the unit of a call alike, the call goes through as before.
-/

namespace ProjectManager

open Foundation StockControlService

/-! ## What a unit counts -/

theorem uomFactor_nonneg (item : StockItem) (uom : String) : 0 ≤ uomFactor item uom := by
  unfold uomFactor
  cases h : resolveItemUomFactor item uom "" with
  | error e => exact le_refl 0
  | ok factor => exact (resolveItemUomFactor_pos h).le

theorem stockQuantity_eq_mul (item : StockItem) (quantity : ℚ) (uom : String) :
    stockQuantity item quantity uom = quantity * stockQuantity item 1 uom := by
  unfold stockQuantity
  ring

/-- A given unit counts as much in the stock unit of both items. -/
def CountsAlike (item updated : StockItem) (uom : Option String) : Prop :=
  stockQuantity updated 1 (givenUom uom updated) = stockQuantity item 1 (givenUom uom item)

instance (item updated : StockItem) (uom : Option String) :
    Decidable (CountsAlike item updated uom) :=
  inferInstanceAs (Decidable (_ = _))

theorem CountsAlike.quantity {item updated : StockItem} {uom : Option String}
    (h : CountsAlike item updated uom) (quantity : ℚ) :
    stockQuantity updated quantity (givenUom uom updated) =
      stockQuantity item quantity (givenUom uom item) := by
  rw [stockQuantity_eq_mul, h, ← stockQuantity_eq_mul]

/-- A unit that the one item knows, the other one knows. -/
theorem CountsAlike.pos {item updated : StockItem} {uom : Option String}
    (h : CountsAlike item updated uom)
    (hfactors : 0 < uomFactor item (givenUom uom item) ∧ 0 < uomFactor item item.stockUom) :
    0 < uomFactor updated (givenUom uom updated) ∧ 0 < uomFactor updated updated.stockUom := by
  have hcount : 0 < uomFactor updated (givenUom uom updated) / uomFactor updated updated.stockUom := by
    unfold CountsAlike stockQuantity at h
    rw [one_mul, one_mul] at h
    rw [h]
    exact div_pos hfactors.1 hfactors.2
  constructor
  · refine (uomFactor_nonneg updated _).lt_of_ne fun hzero => ?_
    rw [← hzero, zero_div] at hcount
    exact lt_irrefl 0 hcount
  · refine (uomFactor_nonneg updated _).lt_of_ne fun hzero => ?_
    rw [← hzero, div_zero] at hcount
    exact lt_irrefl 0 hcount

theorem CountsAlike.convert {item updated : StockItem} {uom : Option String}
    (h : CountsAlike item updated uom) {normalized label : String}
    (huom : normalizeUom (givenUom uom item) label = .ok normalized)
    (hfactors : 0 < uomFactor item normalized ∧ 0 < uomFactor item item.stockUom) :
    ∃ normalized', normalizeUom (givenUom uom updated) label = .ok normalized' ∧
      (∀ label', ∃ factor, resolveItemUomFactor updated normalized' label' = .ok factor) ∧
      ∀ quantity label', convertItemQuantity updated quantity normalized' updated.stockUom
        label' = .ok (stockQuantity item quantity (givenUom uom item)) := by
  rw [uomFactor_normalized huom] at hfactors
  obtain ⟨hgiven, hstock⟩ := h.pos hfactors
  have hresolved : resolveItemUomFactor updated (givenUom uom updated) label = .ok _ :=
    resolveItemUomFactor_iff.mpr ⟨rfl, hgiven⟩
  have hnormalized : normalizeUom (givenUom uom updated) label =
      .ok (upper (strip (givenUom uom updated))) :=
    normalizeUom_eq_ok.mpr ⟨rfl, (resolveItemUomFactor_eq_ok.mp hresolved).1⟩
  have hfactor : uomFactor updated (upper (strip (givenUom uom updated))) = uomFactor updated _ :=
    uomFactor_normalized hnormalized
  rw [← hfactor] at hgiven
  refine ⟨_, hnormalized, fun _ => ⟨_, resolveItemUomFactor_iff.mpr ⟨rfl, hgiven⟩⟩, ?_⟩
  intro quantity label'
  refine convertItemQuantity_iff.mpr ⟨⟨hgiven, hstock⟩, ?_⟩
  rw [hfactor, ← h.quantity]
  rfl

/-! ## Postings -/

/-- Two postings that the store takes or refuses alike. -/
structure SamePosting (posting posting' : StockPosting) : Prop where
  transaction : posting'.transaction.id = posting.transaction.id ∧
    posting'.transaction.organizationId = posting.transaction.organizationId ∧
    posting'.transaction.transactionNumber = posting.transaction.transactionNumber
  isNewBalance : posting'.isNewBalance = posting.isNewBalance
  balance : posting'.balance.id = posting.balance.id ∧
    posting'.balance.position = posting.balance.position ∧
    posting'.balance.onOrderQty = posting.balance.onOrderQty

section

variable {service : InventoryService} {store next : InventoryStore} {item updated : StockItem}
  {arguments : PostingArguments} {posting : StockPosting}

def PostingArguments.withItem (arguments : PostingArguments) (updated : StockItem) :
    PostingArguments :=
  { arguments with item := updated }

theorem PostingArguments.withItem_position (hid : updated.id = arguments.item.id) :
    (arguments.withItem updated).position = arguments.position := by
  unfold PostingArguments.position PostingArguments.withItem
  rw [hid]

theorem postReservationTransaction_kept
    (h : postReservationTransaction service store arguments = .ok posting)
    (hbalances : next.balances = store.balances) (hid : updated.id = arguments.item.id)
    (hcount : CountsAlike arguments.item updated arguments.uom) :
    ∃ posting', postReservationTransaction service next (arguments.withItem updated) =
      .ok posting' ∧ SamePosting posting posting' := by
  obtain ⟨quantity, hquantity, h⟩ := bind_ok h
  obtain ⟨uom, huom, h⟩ := bind_ok h
  obtain ⟨converted, hconverted, h⟩ := bind_ok h
  obtain ⟨balance, hbalance, h⟩ := bind_ok h
  obtain ⟨_, hreserved, h⟩ := bind_ok h
  obtain ⟨_, havailable, h⟩ := bind_ok h
  cases h
  obtain ⟨uom', huom', -, hconvert⟩ := hcount.convert huom (convertItemQuantity_eq hconverted).2
  obtain rfl := converted_eq huom hconverted
  rw [← PostingArguments.withItem_position hid, ← hbalances] at hbalance
  refine ⟨_, bind_eq_ok.mpr ⟨quantity, hquantity, bind_eq_ok.mpr ⟨uom', huom',
    bind_eq_ok.mpr ⟨_, hconvert quantity _, bind_eq_ok.mpr ⟨balance, hbalance,
      bind_eq_ok.mpr ⟨_, hreserved, bind_eq_ok.mpr ⟨_, havailable, rfl⟩⟩⟩⟩⟩⟩, ?_⟩
  exact ⟨⟨rfl, rfl, rfl⟩, rfl, ⟨rfl, rfl, rfl⟩⟩

theorem postMovementTransaction_kept {release : ℚ}
    (h : postMovementTransaction service store arguments none release = .ok posting)
    (hbalances : next.balances = store.balances) (hid : updated.id = arguments.item.id)
    (hcount : CountsAlike arguments.item updated arguments.uom) :
    ∃ posting', postMovementTransaction service next (arguments.withItem updated) none release =
      .ok posting' ∧ SamePosting posting posting' := by
  have hposition := PostingArguments.withItem_position hid
  unfold postMovementTransaction at h ⊢
  rw [hposition, hbalances]
  generalize store.balances.get? arguments.position = existing at h ⊢
  obtain ⟨quantity, hquantity, h⟩ := bind_ok h
  obtain ⟨released, hrelease, h⟩ := bind_ok h
  obtain ⟨uom, huom, h⟩ := bind_ok h
  obtain ⟨converted, hconverted, h⟩ := bind_ok h
  obtain ⟨convertedRelease, hconvertedRelease, h⟩ := bind_ok h
  obtain ⟨_, hreleased, h⟩ := bind_ok h
  obtain ⟨_, hexisting, h⟩ := bind_ok h
  obtain ⟨_, honHand, h⟩ := bind_ok h
  obtain ⟨_, hreserved, h⟩ := bind_ok h
  obtain ⟨_, havailable, h⟩ := bind_ok h
  obtain ⟨costs, hcosts, h⟩ := bind_ok h
  cases h
  obtain ⟨uom', huom', hresolve, hconvert⟩ :=
    hcount.convert huom (convertItemQuantity_eq hconverted).2
  obtain rfl := converted_eq huom hconverted
  obtain rfl := converted_eq huom hconvertedRelease
  obtain ⟨factor, hfactor⟩ := hresolve "Movement UOM"
  have hbound : ∀ balance, movementUnitCosts updated balance uom' none =
      .ok (balance.averageCost * factor, balance.averageCost) :=
    fun _ => bind_eq_ok.mpr ⟨factor, hfactor, rfl⟩
  cases existing <;>
    exact ⟨_, bind_eq_ok.mpr ⟨quantity, hquantity, bind_eq_ok.mpr ⟨released, hrelease,
      bind_eq_ok.mpr ⟨uom', huom', bind_eq_ok.mpr ⟨_, hconvert quantity _,
        bind_eq_ok.mpr ⟨_, hconvert released _, bind_eq_ok.mpr ⟨_, hreleased,
          bind_eq_ok.mpr ⟨_, hexisting, bind_eq_ok.mpr ⟨_, honHand, bind_eq_ok.mpr ⟨_, hreserved,
            bind_eq_ok.mpr ⟨_, havailable, bind_eq_ok.mpr ⟨_, hbound _, rfl⟩⟩⟩⟩⟩⟩⟩⟩⟩⟩⟩,
      ⟨⟨rfl, rfl, rfl⟩, rfl, ⟨rfl, rfl, rfl⟩⟩⟩

theorem postTransaction_kept {unitCost : ℚ}
    (h : postTransaction service store arguments unitCost = .ok posting)
    (hbalances : next.balances = store.balances) (hid : updated.id = arguments.item.id)
    (hcount : CountsAlike arguments.item updated arguments.uom) :
    ∃ posting', postTransaction service next (arguments.withItem updated) unitCost =
      .ok posting' ∧ SamePosting posting posting' := by
  have hposition := PostingArguments.withItem_position hid
  unfold postTransaction at h ⊢
  rw [hposition, hbalances]
  generalize store.balances.get? arguments.position = existing at h ⊢
  obtain ⟨quantity, hquantity, h⟩ := bind_ok h
  obtain ⟨uom, huom, h⟩ := bind_ok h
  obtain ⟨converted, hconverted, h⟩ := bind_ok h
  obtain ⟨cost, hcost, h⟩ := bind_ok h
  obtain ⟨stockCost, hstockCost, h⟩ := bind_ok h
  obtain ⟨_, honHand, h⟩ := bind_ok h
  obtain ⟨_, havailable, h⟩ := bind_ok h
  cases h
  obtain ⟨uom', huom', hresolve, hconvert⟩ :=
    hcount.convert huom (convertItemQuantity_eq hconverted).2
  obtain rfl := converted_eq huom hconverted
  obtain ⟨factor, hfactor⟩ := hresolve "Unit cost"
  obtain ⟨_, -, hstockCost⟩ := bind_ok hstockCost
  obtain ⟨stated, hstated, -⟩ := bind_ok hstockCost
  have hbound : convertItemUnitCostToStock updated cost uom' "Unit cost" =
      .ok (stated / factor) :=
    bind_eq_ok.mpr ⟨factor, hfactor, bind_eq_ok.mpr ⟨stated, hstated, rfl⟩⟩
  cases existing <;>
    exact ⟨_, bind_eq_ok.mpr ⟨quantity, hquantity, bind_eq_ok.mpr ⟨uom', huom',
      bind_eq_ok.mpr ⟨_, hconvert quantity _, bind_eq_ok.mpr ⟨cost, hcost,
        bind_eq_ok.mpr ⟨_, hbound, bind_eq_ok.mpr ⟨_, honHand,
          bind_eq_ok.mpr ⟨_, havailable, rfl⟩⟩⟩⟩⟩⟩⟩,
      ⟨⟨rfl, rfl, rfl⟩, rfl, ⟨rfl, rfl, rfl⟩⟩⟩

end

/-- What the store refuses of a posting, it refuses of a posting that it takes alike. -/
theorem SamePosting.write {store next written : InventoryStore} {posting posting' : StockPosting}
    (hsame : SamePosting posting posting') (hbalances : next.balances = store.balances)
    (htransactions : next.transactions = store.transactions)
    (h : posting.write store = .ok written) : ∃ written', posting'.write next = .ok written' := by
  obtain ⟨_, hfresh, -⟩ := bind_ok h
  refine ⟨_, bind_eq_ok.mpr ⟨(), ensure_eq_ok.mpr ?_, rfl⟩⟩
  obtain ⟨hid, horganization, hnumber⟩ := hsame.transaction
  rw [hid, horganization, hnumber, hsame.isNewBalance, hsame.balance.1, hbalances, htransactions]
  exact ensure_eq_ok.mp hfresh

/-! ## The item in the store -/

/-- Another row of an item that stock can still be posted of. -/
structure StillStocked (item updated : StockItem) : Prop where
  id : updated.id = item.id
  organizationId : updated.organizationId = item.organizationId
  isActive : updated.isActive = true
  isStocked : updated.isStocked = true

def InventoryStore.withItem (store : InventoryStore) (updated : StockItem) : InventoryStore :=
  { store with items := store.items.update updated }

/-- A store that differs, in what stock calls read, by another row of an item. -/
structure ItemReplaced (store other : InventoryStore) (updated : StockItem) : Prop where
  items : other.items = store.items.update updated
  storerooms : other.storerooms = store.storerooms
  balances : other.balances = store.balances
  transactions : other.transactions = store.transactions

theorem itemReplaced_withItem (store : InventoryStore) (updated : StockItem) :
    ItemReplaced store (store.withItem updated) updated :=
  ⟨rfl, rfl, rfl, rfl⟩

section

variable {service : InventoryService} {store other next : InventoryStore} {item updated : StockItem}

theorem getItemForInternalUse_kept {itemId : String} (hreplaced : ItemReplaced store other updated)
    (hid : updated.id = item.id) (horganization : updated.organizationId = item.organizationId)
    (h : getItemForInternalUse service store itemId = .ok item) :
    getItemForInternalUse service other itemId = .ok updated := by
  obtain ⟨organizationId, hactive, h⟩ := bind_ok h
  obtain ⟨hfound, hscope⟩ := Option.filter_eq_some_iff.mp (require_eq_ok.mp h)
  obtain ⟨-, hitemId⟩ := Table.get?_eq_some_iff.mp hfound
  refine bind_eq_ok.mpr ⟨organizationId, hactive, require_eq_ok.mpr
    (Option.filter_eq_some_iff.mpr ⟨?_, ?_⟩)⟩
  · rw [hreplaced.items, ← hitemId, ← hid]
    rw [← hitemId, ← hid] at hfound
    exact Table.get?_update_self hfound
  · rw [horganization]
    exact hscope

theorem validateStockItem_kept {itemId : String} (hreplaced : ItemReplaced store other updated)
    (hstill : StillStocked item updated)
    (h : validateStockItem service store itemId = .ok item) :
    validateStockItem service other itemId = .ok updated := by
  obtain ⟨_, hitem, h⟩ := bind_ok h
  iterate 2 obtain ⟨_, -, h⟩ := bind_ok h
  cases h
  obtain ⟨_, hread, hitem⟩ := bind_ok hitem
  have hfound := getItemForInternalUse_kept hreplaced hstill.id hstill.organizationId hitem
  exact bind_eq_ok.mpr ⟨updated, bind_eq_ok.mpr ⟨_, hread, hfound⟩,
    bind_eq_ok.mpr ⟨(), ensure_eq_ok.mpr hstill.isActive,
      bind_eq_ok.mpr ⟨(), ensure_eq_ok.mpr hstill.isStocked, rfl⟩⟩⟩

theorem validateStoreroom_congr (h : other.storerooms = store.storerooms) (storeroomId : String) :
    validateStoreroom service other storeroomId = validateStoreroom service store storeroomId := by
  unfold validateStoreroom getStoreroom
  rw [h]

theorem resolveStockScope_kept {label itemId storeroomId : String} {scope : StockScope}
    (hreplaced : ItemReplaced store other updated) (hstill : StillStocked scope.item updated)
    (h : resolveStockScope service store label itemId storeroomId = .ok scope) :
    resolveStockScope service other label itemId storeroomId =
      .ok { scope with item := updated } := by
  obtain ⟨_, hmanage, h⟩ := bind_ok h
  obtain ⟨_, horganization, h⟩ := bind_ok h
  obtain ⟨_, hitem, h⟩ := bind_ok h
  obtain ⟨_, hstoreroom, h⟩ := bind_ok h
  obtain ⟨_, hscope, h⟩ := bind_ok h
  cases h
  rw [← validateStoreroom_congr hreplaced.storerooms] at hstoreroom
  refine bind_eq_ok.mpr ⟨_, hmanage, bind_eq_ok.mpr ⟨_, horganization, bind_eq_ok.mpr
    ⟨updated, validateStockItem_kept hreplaced hstill hitem, bind_eq_ok.mpr ⟨_, hstoreroom,
      bind_eq_ok.mpr ⟨(), ensure_eq_ok.mpr ?_, rfl⟩⟩⟩⟩⟩
  rw [hstill.organizationId]
  exact ensure_eq_ok.mp hscope

/-! ## Calls -/

variable {arguments : StockArguments}

/-- The item that a call works on is the one of the store. -/
theorem scope_item {label storeroomId : String} {scope : StockScope}
    (hfound : store.items.get? arguments.stockItemId = some item)
    (h : resolveStockScope service store label arguments.stockItemId storeroomId = .ok scope) :
    scope.item = item :=
  Option.some.inj ((resolveStockScope_ok h).1.symm.trans hfound)

theorem postingArguments_withItem (scope : StockScope) (transactionType : StockTransactionType)
    (defaultReferenceType : String) :
    arguments.postingArguments { scope with item := updated } transactionType
        defaultReferenceType =
      (arguments.postingArguments scope transactionType defaultReferenceType).withItem updated :=
  rfl

theorem releaseReservation_kept
    (h : (StockControlService.releaseReservation service arguments).effect store = .ok next)
    (hreplaced : ItemReplaced store other updated)
    (hfound : store.items.get? arguments.stockItemId = some item)
    (hstill : StillStocked item updated) (hcount : CountsAlike item updated arguments.uom) :
    ∃ next', (StockControlService.releaseReservation service arguments).effect other =
      .ok next' := by
  obtain ⟨posting, hprepared, hwrite⟩ := GuardedCall.effect_eq_ok.mp h
  obtain ⟨scope, hscope, hposting⟩ := bind_ok hprepared
  obtain rfl := scope_item hfound hscope
  have hscope' := resolveStockScope_kept hreplaced hstill hscope
  obtain ⟨posting', hposting', hsame⟩ :=
    postReservationTransaction_kept hposting hreplaced.balances hstill.id hcount
  obtain ⟨written', hwrite'⟩ := hsame.write hreplaced.balances hreplaced.transactions hwrite
  rw [← postingArguments_withItem] at hposting'
  exact ⟨written', GuardedCall.effect_eq_ok.mpr
    ⟨posting', bind_eq_ok.mpr ⟨_, hscope', hposting'⟩, hwrite'⟩⟩

theorem issueStock_kept {release : ℚ}
    (h : (issueStock service arguments none release).effect store = .ok next)
    (hreplaced : ItemReplaced store other updated)
    (hfound : store.items.get? arguments.stockItemId = some item)
    (hstill : StillStocked item updated) (hcount : CountsAlike item updated arguments.uom) :
    ∃ next', (issueStock service arguments none release).effect other =
      .ok next' := by
  obtain ⟨posting, hprepared, hwrite⟩ := GuardedCall.effect_eq_ok.mp h
  obtain ⟨scope, hscope, hprepared⟩ := bind_ok hprepared
  obtain ⟨_, hallows, hprepared⟩ := bind_ok hprepared
  obtain ⟨_, hlinked, hposting⟩ := bind_ok hprepared
  obtain rfl := scope_item hfound hscope
  have hscope' := resolveStockScope_kept hreplaced hstill hscope
  obtain ⟨posting', hposting', hsame⟩ :=
    postMovementTransaction_kept hposting hreplaced.balances hstill.id hcount
  obtain ⟨written', hwrite'⟩ := hsame.write hreplaced.balances hreplaced.transactions hwrite
  rw [← postingArguments_withItem] at hposting'
  exact ⟨written', GuardedCall.effect_eq_ok.mpr ⟨posting', bind_eq_ok.mpr ⟨_, hscope',
    bind_eq_ok.mpr ⟨_, hallows, bind_eq_ok.mpr ⟨_, hlinked, hposting'⟩⟩⟩, hwrite'⟩⟩

theorem postAdjustment_kept {direction : String} {unitCost : ℚ}
    (h : (postAdjustment service arguments direction unitCost).effect store = .ok next)
    (hreplaced : ItemReplaced store other updated)
    (hfound : store.items.get? arguments.stockItemId = some item)
    (hstill : StillStocked item updated) (hcount : CountsAlike item updated arguments.uom) :
    ∃ next', (postAdjustment service arguments direction unitCost).effect other =
      .ok next' := by
  obtain ⟨posting, hprepared, hwrite⟩ := GuardedCall.effect_eq_ok.mp h
  obtain ⟨scope, hscope, hprepared⟩ := bind_ok hprepared
  obtain ⟨_, hdirection, hposting⟩ := bind_ok hprepared
  obtain rfl := scope_item hfound hscope
  have hscope' := resolveStockScope_kept hreplaced hstill hscope
  obtain ⟨posting', hposting', hsame⟩ :=
    postTransaction_kept hposting hreplaced.balances hstill.id hcount
  obtain ⟨written', hwrite'⟩ := hsame.write hreplaced.balances hreplaced.transactions hwrite
  rw [← postingArguments_withItem] at hposting'
  exact ⟨written', GuardedCall.effect_eq_ok.mpr ⟨posting', bind_eq_ok.mpr ⟨_, hscope',
    bind_eq_ok.mpr ⟨_, hdirection, hposting'⟩⟩, hwrite'⟩⟩

end

section

open ReservationService

variable {service : InventoryService} {store next : InventoryStore} {item updated : StockItem}
  {reservationId note : String} {ids : PostingIds}

theorem closeReservation_kept {label : String} {status : StockReservationStatus}
    (hfound : ∀ reservation, store.reservations.get? reservationId = some reservation →
      store.items.get? reservation.stockItemId = some item ∧
        CountsAlike item updated (some reservation.uom))
    (hstill : StillStocked item updated)
    (h : (closeReservation service label reservationId status note ids).effect store = .ok next) :
    ∃ next', (closeReservation service label reservationId status note ids).effect
      (store.withItem updated) = .ok next' := by
  obtain ⟨plan, hprepared, h⟩ := GuardedCall.effect_eq_ok.mp h
  obtain ⟨released, hreleased, -⟩ := bind_ok h
  have hchecks := hprepared
  obtain ⟨_, -, hprepared⟩ := bind_ok hprepared
  obtain ⟨stored, hstored, hprepared⟩ := bind_ok hprepared
  iterate 3 obtain ⟨_, -, hprepared⟩ := bind_ok hprepared
  cases hprepared
  obtain ⟨hitem, hcount⟩ := hfound stored (getReservation_ok hstored).1
  obtain ⟨released', hreleased'⟩ := releaseReservation_kept hreleased
    (itemReplaced_withItem store updated) hitem hstill hcount
  exact ⟨_, GuardedCall.effect_eq_ok.mpr
    ⟨_, hchecks, bind_eq_ok.mpr ⟨released', hreleased', rfl⟩⟩⟩

theorem issueReservedStock_kept {quantity : ℚ}
    (hfound : ∀ reservation, store.reservations.get? reservationId = some reservation →
      store.items.get? reservation.stockItemId = some item ∧
        CountsAlike item updated (some reservation.uom))
    (hstill : StillStocked item updated)
    (h : (issueReservedStock service reservationId quantity note ids).effect store = .ok next) :
    ∃ next', (issueReservedStock service reservationId quantity note ids).effect
      (store.withItem updated) = .ok next' := by
  obtain ⟨plan, hprepared, h⟩ := GuardedCall.effect_eq_ok.mp h
  obtain ⟨issued, hissued, -⟩ := bind_ok h
  have hchecks := hprepared
  obtain ⟨_, -, hprepared⟩ := bind_ok hprepared
  obtain ⟨stored, hstored, hprepared⟩ := bind_ok hprepared
  iterate 4 obtain ⟨_, -, hprepared⟩ := bind_ok hprepared
  cases hprepared
  obtain ⟨hitem, hcount⟩ := hfound stored (getReservation_ok hstored).1
  obtain ⟨issued', hissued'⟩ := issueStock_kept hissued
    (itemReplaced_withItem store updated) hitem hstill hcount
  exact ⟨_, GuardedCall.effect_eq_ok.mpr
    ⟨_, hchecks, bind_eq_ok.mpr ⟨issued', hissued', rfl⟩⟩⟩

end

/-! ## Receipts -/

section

variable {service : InventoryService} {store next : InventoryStore} {item updated : StockItem}

/-- A unit that an item converts is written in a text. -/
theorem givenUom_of_pos {item : StockItem} {uom : String} (h : 0 < uomFactor item uom)
    (other : StockItem) : givenUom (some uom) other = uom := by
  have hne : uom ≠ "" := by
    rintro rfl
    have hresolved : resolveItemUomFactor item "" "" = .ok _ :=
      resolveItemUomFactor_iff.mpr ⟨rfl, h⟩
    exact (resolveItemUomFactor_eq_ok.mp hresolved).1 (by decide)
  exact if_neg hne

theorem adjustOnOrderBalance_kept {organizationId storeroomId uom balanceId : String} {delta : ℚ}
    {adjusted : InventoryStore}
    (h : adjustOnOrderBalance store organizationId item storeroomId uom delta balanceId =
      .ok adjusted)
    (hid : updated.id = item.id) (hcount : CountsAlike item updated (some uom))
    (honOrder : ∀ position, (next.balanceAt position).onOrderQty =
      (store.balanceAt position).onOrderQty) :
    ∃ adjusted', adjustOnOrderBalance next organizationId updated storeroomId uom delta balanceId =
      .ok adjusted' := by
  obtain ⟨written, hwritten, -⟩ := bind_ok h
  unfold onOrderBalance at hwritten
  by_cases hzero : delta = 0
  · exact ⟨next, bind_eq_ok.mpr ⟨none, if_pos hzero, rfl⟩⟩
  rw [if_neg hzero] at hwritten
  obtain ⟨converted, hconverted, hwritten⟩ := bind_ok hwritten
  obtain ⟨_, hnonneg, -⟩ := bind_ok hwritten
  obtain ⟨rfl, hfactors⟩ := convertItemQuantity_eq hconverted
  have hgiven := givenUom_of_pos hfactors.1
  have hcounted := hcount.quantity delta
  have hfactors' := hcount.pos ((hgiven item).symm ▸ hfactors)
  rw [hgiven] at hfactors'
  rw [hgiven, hgiven] at hcounted
  have hnonneg' := ensure_eq_ok.mp hnonneg
  obtain ⟨-, -, -, hstart⟩ := startBalance store ⟨organizationId, item.id, storeroomId⟩ balanceId
    item.stockUom
  obtain ⟨-, -, -, hstart'⟩ := startBalance next ⟨organizationId, updated.id, storeroomId⟩
    balanceId updated.stockUom
  rw [hstart] at hnonneg'
  refine ⟨_, bind_eq_ok.mpr ⟨_, (if_neg hzero).trans (bind_eq_ok.mpr
    ⟨stockQuantity updated delta uom, convertItemQuantity_iff.mpr ⟨hfactors', rfl⟩,
      bind_eq_ok.mpr ⟨(), ensure_eq_ok.mpr ?_, rfl⟩⟩), rfl⟩⟩
  rw [hstart', honOrder, hcounted, hid]
  exact hnonneg'

def ReceiptPayload.tracked (payload : ReceiptPayload) (item : StockItem) (receiptDate : Date) :
    ReceiptPayload :=
  { payload with
    lotNumber := "LOT"
    serialNumber := "SERIAL"
    expiryDate := some (some (receiptDate + max 0 (item.shelfLifeDays.getD 0))) }

/-- An item that is tracked by serial numbers takes them one at a time. -/
def StockItem.Receives (item : StockItem) (quantity : ℚ) : Prop :=
  item.isSerialTracked = true → 0 < quantity → |quantity - 1| ≤ 1 / 10 ^ 9

theorem validateReceiptTracking_tracked {quantity : ℚ} (h : item.Receives quantity)
    (receiptDate : Date) :
    validateReceiptTracking item quantity (strip "LOT") (strip "SERIAL")
      (some (receiptDate + max 0 (item.shelfLifeDays.getD 0))) receiptDate = .ok () := by
  unfold validateReceiptTracking
  split
  next => rfl
  next hpos =>
    have hlot : strip "LOT" ≠ "" := by decide
    have hserial : strip "SERIAL" ≠ "" := by decide
    refine bind_eq_ok.mpr ⟨(), ensure_eq_ok.mpr fun h => hlot h.2, bind_eq_ok.mpr
      ⟨(), ensure_eq_ok.mpr fun h => hserial h.2, bind_eq_ok.mpr ⟨(), ensure_eq_ok.mpr ?_, ?_⟩⟩⟩
    · rintro ⟨htracked, hfar⟩
      exact absurd (h htracked (not_le.mp hpos)) (not_le.mpr hfar)
    · cases item.shelfLifeDays with
      | none => rfl
      | some days =>
          exact bind_eq_ok.mpr ⟨_, require_eq_ok.mpr rfl, ensure_eq_ok.mpr le_rfl⟩

theorem receives_of_validated {quantity : ℚ} {lotNumber serialNumber : String}
    {expiryDate : Option Date} {receiptDate : Date}
    (h : validateReceiptTracking item quantity lotNumber serialNumber expiryDate receiptDate =
      .ok ()) : item.Receives quantity := by
  intro htracked hpos
  unfold validateReceiptTracking at h
  rw [if_neg (not_le.mpr hpos)] at h
  iterate 2 obtain ⟨_, -, h⟩ := bind_ok h
  obtain ⟨_, hnear, -⟩ := bind_ok h
  exact not_lt.mp fun hfar => ensure_eq_ok.mp hnear ⟨htracked, hfar⟩

/-- Posting what was accepted leaves the on-order quantities alone. -/
theorem postAccepted_onOrderQty {received : ReceiptLine} {ids : PostingIds}
    (h : postAccepted service received ids store = .ok next) (position : StockPosition) :
    (next.balanceAt position).onOrderQty = (store.balanceAt position).onOrderQty := by
  unfold postAccepted at h
  split at h
  · exact ((postAdjustment_posted h).balanceAt position).2
  · obtain rfl := Except.ok.inj h
    rfl

theorem postAccepted_kept {other : InventoryStore} {received : ReceiptLine} {ids : PostingIds}
    (h : postAccepted service received ids store = .ok next)
    (hreplaced : ItemReplaced store other updated)
    (hfound : store.items.get? received.stockItemId = some item)
    (hstill : 0 < received.quantityAccepted → StillStocked item updated)
    (hcount : CountsAlike item updated (some received.uom))
    (lotNumber serialNumber : String) (expiryDate : Option Date) :
    ∃ next', postAccepted service
      { received with lotNumber := lotNumber, serialNumber := serialNumber
                      expiryDate := expiryDate } ids other = .ok next' := by
  unfold postAccepted at h ⊢
  by_cases haccepted : 0 < received.quantityAccepted
  · rw [if_pos haccepted] at h
    obtain ⟨next', hnext'⟩ := postAdjustment_kept h hreplaced hfound (hstill haccepted) hcount
    exact ⟨next', (if_pos haccepted).trans hnext'⟩
  · exact ⟨other, if_neg haccepted⟩

def ReceiptLine.tracked (received : ReceiptLine) (item : StockItem) (receiptDate : Date) :
    ReceiptLine :=
  { received with
    lotNumber := strip "LOT"
    serialNumber := strip "SERIAL"
    expiryDate := some (receiptDate + max 0 (item.shelfLifeDays.getD 0)) }

theorem prepareReceiptLine_kept {receipt : ReceiptHeader} {index : ℕ} {payload : ReceiptPayload}
    {line : PurchaseOrderLine} {received : ReceiptLine}
    (h : prepareReceiptLine service receipt index payload store = .ok (line, item, received))
    (hid : updated.id = item.id) (horganization : updated.organizationId = item.organizationId)
    (hreceives : updated.Receives payload.quantityAccepted) :
    prepareReceiptLine service receipt index (payload.tracked updated receipt.receiptDate)
      (store.withItem updated) =
        .ok (line, updated, received.tracked updated receipt.receiptDate) := by
  obtain ⟨_, hlineId, h⟩ := bind_ok h
  obtain ⟨_, hstored, h⟩ := bind_ok h
  obtain ⟨_, hitem, h⟩ := bind_ok h
  obtain ⟨_, hstoreroom, h⟩ := bind_ok h
  obtain ⟨_, hreference, h⟩ := bind_ok h
  obtain ⟨accepted, haccepted, h⟩ := bind_ok h
  obtain ⟨rejected, hrejected, h⟩ := bind_ok h
  obtain ⟨_, hpositive, h⟩ := bind_ok h
  obtain ⟨_, hopen, h⟩ := bind_ok h
  obtain ⟨unitCost, hcost, h⟩ := bind_ok h
  iterate 2 obtain ⟨_, -, h⟩ := bind_ok h
  cases h
  have hitem' := getItemForInternalUse_kept (itemReplaced_withItem store updated) hid
    horganization hitem
  have hquantity := (normalizeNonnegativeQuantity_eq_ok haccepted).1
  have htracking := validateReceiptTracking_tracked (hquantity ▸ hreceives) receipt.receiptDate
  exact bind_eq_ok.mpr ⟨_, hlineId, bind_eq_ok.mpr ⟨_, hstored, bind_eq_ok.mpr ⟨_, hitem',
    bind_eq_ok.mpr ⟨_, hstoreroom, bind_eq_ok.mpr ⟨_, hreference, bind_eq_ok.mpr ⟨_, haccepted,
      bind_eq_ok.mpr ⟨_, hrejected, bind_eq_ok.mpr ⟨_, hpositive, bind_eq_ok.mpr ⟨_, hopen,
        bind_eq_ok.mpr ⟨_, hcost, bind_eq_ok.mpr ⟨_, rfl,
          bind_eq_ok.mpr ⟨(), htracking, rfl⟩⟩⟩⟩⟩⟩⟩⟩⟩⟩⟩⟩

theorem prepareReceiptLine_copies {receipt : ReceiptHeader} {index : ℕ} {payload : ReceiptPayload}
    {line : PurchaseOrderLine} {received : ReceiptLine}
    (h : prepareReceiptLine service receipt index payload store = .ok (line, item, received)) :
    store.orderLines.get? (strip payload.purchaseOrderLineId) = some line ∧
      store.items.get? line.stockItemId = some item ∧ received.stockItemId = line.stockItemId ∧
      received.uom = line.uom ∧ received.quantityAccepted = payload.quantityAccepted ∧
      item.Receives payload.quantityAccepted := by
  obtain ⟨_, -, h⟩ := bind_ok h
  obtain ⟨_, hstored, h⟩ := bind_ok h
  obtain ⟨_, hitem, h⟩ := bind_ok h
  iterate 2 obtain ⟨_, -, h⟩ := bind_ok h
  obtain ⟨_, haccepted, h⟩ := bind_ok h
  iterate 5 obtain ⟨_, -, h⟩ := bind_ok h
  obtain ⟨_, htracking, h⟩ := bind_ok h
  cases h
  have hquantity := (normalizeNonnegativeQuantity_eq_ok haccepted).1
  exact ⟨(Option.filter_eq_some_iff.mp (require_eq_ok.mp hstored)).1,
    (getItemForInternalUse_ok hitem).1, rfl, rfl, hquantity,
    hquantity ▸ receives_of_validated htracking⟩

theorem receiveLine_kept {receipt : ReceiptHeader} {index : ℕ} {payload : ReceiptPayload}
    {line : PurchaseOrderLine}
    (h : receiveLine service receipt index payload store = .ok next)
    (hline : store.orderLines.get? (strip payload.purchaseOrderLineId) = some line)
    (hfound : store.items.get? line.stockItemId = some item)
    (hstill : StillStocked item updated) (hcount : CountsAlike item updated (some line.uom))
    (hreceives : updated.Receives payload.quantityAccepted) :
    ∃ next', receiveLine service receipt index (payload.tracked updated receipt.receiptDate)
      (store.withItem updated) = .ok next' := by
  obtain ⟨⟨stored, storedItem, received⟩, hprepared, h⟩ := bind_ok h
  obtain ⟨inserted, hinserted, h⟩ := bind_ok h
  obtain ⟨posted, hposted, hadjusted⟩ := bind_ok h
  obtain ⟨hstored, hitem, hitemId, huom, -, -⟩ := prepareReceiptLine_copies hprepared
  obtain rfl : stored = line := Option.some.inj (hstored.symm.trans hline)
  obtain rfl : storedItem = item := Option.some.inj (hitem.symm.trans hfound)
  obtain ⟨_, hfresh, hinserted⟩ := bind_ok hinserted
  cases hinserted
  have hprepared' := prepareReceiptLine_kept hprepared hstill.id hstill.organizationId hreceives
  let inserted' : InventoryStore :=
    { store.withItem updated with
      receiptLines := store.receiptLines.insert (received.tracked updated receipt.receiptDate) }
  have hinserted' : insertReceiptLine (store.withItem updated)
      (received.tracked updated receipt.receiptDate) = .ok inserted' :=
    bind_eq_ok.mpr ⟨(), ensure_eq_ok.mpr (ensure_eq_ok.mp hfresh), rfl⟩
  obtain ⟨posted', hposted'⟩ := postAccepted_kept hposted
    (show ItemReplaced _ { inserted' with
        orderLines := store.orderLines.update (receivedLine stored received) } updated from
      ⟨rfl, rfl, rfl, rfl⟩)
    (hitemId.symm ▸ hfound) (fun _ => hstill) (huom.symm ▸ hcount) (strip "LOT") (strip "SERIAL")
    (some (receipt.receiptDate + max 0 (updated.shelfLifeDays.getD 0)))
  obtain ⟨adjusted', hadjusted'⟩ := adjustOnOrderBalance_kept hadjusted hstill.id hcount
    fun position => (postAccepted_onOrderQty hposted' position).trans
      (postAccepted_onOrderQty hposted position).symm
  exact ⟨adjusted', bind_eq_ok.mpr ⟨_, hprepared', bind_eq_ok.mpr ⟨_, hinserted',
    bind_eq_ok.mpr ⟨posted', hposted', hadjusted'⟩⟩⟩⟩

theorem postReceipt_kept {arguments : ReceiptArguments} {payload : ReceiptPayload}
    {line : PurchaseOrderLine}
    (h : (postReceipt service { arguments with receiptLines := [payload] }).effect store = .ok next)
    (hline : store.orderLines.get? (strip payload.purchaseOrderLineId) = some line)
    (hfound : store.items.get? line.stockItemId = some item)
    (hstill : StillStocked item updated) (hcount : CountsAlike item updated (some line.uom))
    (hreceives : updated.Receives payload.quantityAccepted) :
    ∃ next', (postReceipt service { arguments with
        receiptLines := [payload.tracked updated arguments.receiptDate] }).effect
      (store.withItem updated) = .ok next' := by
  obtain ⟨⟨order, receipt⟩, hprepared, h⟩ := GuardedCall.effect_eq_ok.mp h
  obtain ⟨inserted, hinserted, h⟩ := bind_ok h
  obtain ⟨received, hreceived, -⟩ := bind_ok h
  obtain ⟨received, hreceived, -⟩ := bind_ok hreceived
  obtain ⟨_, hmanage, hprepared⟩ := bind_ok hprepared
  obtain ⟨_, horder, hprepared⟩ := bind_ok hprepared
  obtain ⟨_, hopen, hprepared⟩ := bind_ok hprepared
  obtain ⟨_, -, hprepared⟩ := bind_ok hprepared
  cases hprepared
  obtain ⟨_, hfresh, hinserted⟩ := bind_ok hinserted
  cases hinserted
  obtain ⟨received', hreceived'⟩ := receiveLine_kept hreceived hline hfound hstill hcount hreceives
  exact ⟨_, GuardedCall.effect_eq_ok.mpr ⟨_,
    bind_eq_ok.mpr ⟨_, hmanage, bind_eq_ok.mpr ⟨_, horder, bind_eq_ok.mpr ⟨_, hopen,
      bind_eq_ok.mpr ⟨(), ensure_eq_ok.mpr (List.cons_ne_nil _ _), rfl⟩⟩⟩⟩,
    bind_eq_ok.mpr ⟨_, bind_eq_ok.mpr ⟨(), hfresh, rfl⟩,
      bind_eq_ok.mpr ⟨received', bind_eq_ok.mpr ⟨received', hreceived', rfl⟩, rfl⟩⟩⟩⟩

end

end ProjectManager
