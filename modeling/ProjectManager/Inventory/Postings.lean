import ProjectManager.Foundation.WeightedAverage
import ProjectManager.Inventory.StockControl

/-! # What a posting moves

The three posting routines compute the new balance each in its own way. All that
later proofs need of them is how far they move the quantity on hand and the
reserved quantity, that the new balance stays within its bounds, and that the
transaction records it.
-/

namespace ProjectManager

open Foundation

def InventoryStore.balanceAt (store : InventoryStore) (position : StockPosition) : StockBalance :=
  (store.balances.get? position).getD (createBalance "" position "")

/-- The sign with which a transaction counts on hand; holds and releases do not count. -/
def StockTransactionType.sign : StockTransactionType → ℚ
  | .openingBalance => 1
  | .adjustmentIncrease => 1
  | .adjustmentDecrease => -1
  | .issue => -1
  | .return => 1
  | .transferOut => -1
  | .transferIn => 1
  | .reservationHold => 0
  | .reservationRelease => 0

/-- What a transaction adds to the quantity on hand, in the stock unit of its item. -/
def signedQuantity (item : StockItem) (transaction : StockTransaction) : ℚ :=
  transaction.transactionType.sign * stockQuantity item transaction.quantity transaction.uom

def stockUnitCost (item : StockItem) (transaction : StockTransaction) : ℚ :=
  transaction.unitCost / uomFactor item transaction.uom

def StockBalance.stock (balance : StockBalance) : Stock ℚ := ⟨balance.onHandQty, balance.averageCost⟩

/-- The posting moves a position by these quantities. -/
structure StockPosting.Moves (posting : StockPosting) (store : InventoryStore) (item : StockItem)
    (position : StockPosition) (onHand reserved : ℚ) : Prop where
  balance_position : posting.balance.position = position
  transaction_position : posting.transaction.position = position
  isNewBalance : posting.isNewBalance = (store.balances.get? position).isNone
  onHandQty : posting.balance.onHandQty = (store.balanceAt position).onHandQty + onHand
  reservedQty : posting.balance.reservedQty = (store.balanceAt position).reservedQty + reserved
  onOrderQty : posting.balance.onOrderQty = (store.balanceAt position).onOrderQty
  availableQty : posting.balance.availableQty =
    posting.balance.onHandQty - posting.balance.reservedQty
  reserved_nonneg : 0 ≤ (store.balanceAt position).reservedQty → 0 ≤ posting.balance.reservedQty
  reserved_le_onHand : posting.balance.reservedQty ≤ posting.balance.onHandQty
  resulting : posting.transaction.resultingOnHandQty = posting.balance.onHandQty ∧
    posting.transaction.resultingAvailableQty = posting.balance.availableQty
  signed : signedQuantity item posting.transaction = onHand
  onHand_nonneg : 0 ≤ (store.balanceAt position).onHandQty → 0 ≤ posting.balance.onHandQty
  averageCost : 0 ≤ (store.balanceAt position).onHandQty → posting.balance.averageCost =
    ((store.balanceAt position).stock.move onHand (stockUnitCost item posting.transaction)).unitCost
  flagged : posting.balance.reorderRequired = reorderRequired item posting.balance.availableQty

section

variable {service : InventoryService} {store : InventoryStore} {arguments : PostingArguments}
  {posting : StockPosting}

theorem startBalance (store : InventoryStore) (position : StockPosition) (id uom : String) :
    let balance := (store.balances.get? position).getD (createBalance id position uom)
    balance.position = position ∧ balance.onHandQty = (store.balanceAt position).onHandQty ∧
      balance.reservedQty = (store.balanceAt position).reservedQty ∧
      balance.onOrderQty = (store.balanceAt position).onOrderQty := by
  unfold InventoryStore.balanceAt
  cases h : store.balances.get? position with
  | none => exact ⟨rfl, rfl, rfl, rfl⟩
  | some balance => exact ⟨(Table.get?_eq_some_iff.mp h).2, rfl, rfl, rfl⟩

theorem startBalance_availableQty (store : InventoryStore) (position : StockPosition)
    (id uom : String) :
    ((store.balances.get? position).getD (createBalance id position uom)).availableQty =
      (store.balanceAt position).availableQty := by
  unfold InventoryStore.balanceAt
  cases store.balances.get? position <;> rfl

theorem startBalance_reorderRequired (store : InventoryStore) (position : StockPosition)
    (id uom : String) :
    ((store.balances.get? position).getD (createBalance id position uom)).reorderRequired =
      (store.balanceAt position).reorderRequired := by
  unfold InventoryStore.balanceAt
  cases store.balances.get? position <;> rfl

theorem startBalance_stock (store : InventoryStore) (position : StockPosition)
    (id uom : String) :
    ((store.balances.get? position).getD (createBalance id position uom)).stock =
      (store.balanceAt position).stock := by
  unfold InventoryStore.balanceAt
  cases store.balances.get? position <;> rfl

theorem resolveAverageCost_eq {balance : StockBalance} {delta quantity : ℚ}
    (honHand : 0 ≤ balance.onHandQty) (hquantity : 0 < delta → quantity = delta) (cost : ℚ) :
    resolveAverageCost { balance with onHandQty := balance.onHandQty + delta } balance.onHandQty
      delta quantity cost = (balance.stock.move delta cost).unitCost := by
  by_cases hdelta : delta ≤ 0
  · rw [resolveAverageCost, if_pos hdelta, Stock.move_of_nonpos hdelta]
    rfl
  · have hpos := not_le.mp hdelta
    rw [resolveAverageCost, if_neg hdelta, Stock.move_of_pos hpos, hquantity hpos]
    by_cases hempty : balance.onHandQty ≤ 0
    · have hstock : balance.stock.quantity = 0 := le_antisymm hempty honHand
      rw [if_pos hempty, Stock.receive_of_empty hstock hpos.ne']
    · have hrest : ¬ balance.onHandQty + delta ≤ 0 := by linarith
      rw [if_neg hempty, if_neg hrest]
      rfl

theorem normalizePositiveQuantity_eq_ok {value quantity : ℚ} {label : String}
    (h : normalizePositiveQuantity value label = .ok quantity) : quantity = value ∧ 0 < value := by
  obtain ⟨_, hpos, h⟩ := bind_ok h
  exact ⟨(Except.ok.inj h).symm, ensure_eq_ok.mp hpos⟩

theorem normalizeNonnegativeQuantity_eq_ok {value quantity : ℚ} {label : String}
    (h : normalizeNonnegativeQuantity value label = .ok quantity) :
    quantity = value ∧ 0 ≤ value := by
  obtain ⟨_, hnonneg, h⟩ := bind_ok h
  exact ⟨(Except.ok.inj h).symm, ensure_eq_ok.mp hnonneg⟩

/-- A converted quantity counts as the given one in the given unit. -/
theorem converted_eq {item : StockItem} {uom normalized label label' : String}
    {quantity converted : ℚ} (huom : normalizeUom uom label = .ok normalized)
    (h : convertItemQuantity item quantity normalized item.stockUom label' = .ok converted) :
    converted = stockQuantity item quantity uom := by
  rw [convertItemQuantity_stock h, stockQuantity, uomFactor_normalized huom, stockQuantity]

theorem converted_pos {item : StockItem} {uom label : String} {quantity converted : ℚ}
    (hquantity : 0 < quantity)
    (h : convertItemQuantity item quantity uom item.stockUom label = .ok converted) :
    0 < converted := by
  obtain ⟨rfl, hfrom, hto⟩ := convertItemQuantity_eq h
  exact div_pos (mul_pos hquantity hfrom) hto

theorem convertItemUnitCostToStock_eq {item : StockItem} {unitCost converted : ℚ}
    {uom label : String} (h : convertItemUnitCostToStock item unitCost uom label = .ok converted) :
    converted = unitCost / uomFactor item uom := by
  obtain ⟨factor, hfactor, h⟩ := bind_ok h
  obtain ⟨cost, hcost, h⟩ := bind_ok h
  cases h
  rw [(normalizeNonnegativeQuantity_eq_ok hcost).1, uomFactor_of_resolved hfactor]

/-- The quantity of the arguments in the stock unit. -/
def PostingArguments.moved (arguments : PostingArguments) : ℚ :=
  stockQuantity arguments.item arguments.quantity (givenUom arguments.uom arguments.item)

theorem resolveQuantityDelta_eq {transactionType : StockTransactionType}
    (h : transactionType.sign ≠ 0) (quantity : ℚ) :
    resolveQuantityDelta transactionType quantity = transactionType.sign * quantity := by
  cases transactionType with
  | reservationHold => exact absurd rfl h
  | reservationRelease => exact absurd rfl h
  | _ => simp [resolveQuantityDelta, StockTransactionType.sign]

/-- A quantity that comes in comes in as it is. -/
theorem resolveQuantityDelta_of_pos {transactionType : StockTransactionType} {quantity : ℚ}
    (hquantity : 0 < quantity) (h : 0 < resolveQuantityDelta transactionType quantity) :
    quantity = resolveQuantityDelta transactionType quantity := by
  unfold resolveQuantityDelta at h ⊢
  split at h
  next hincoming => rw [if_pos hincoming]
  next => linarith

theorem postTransaction_moves {unitCost : ℚ} (htype : arguments.transactionType.sign ≠ 0)
    (h : postTransaction service store arguments unitCost = .ok posting) :
    posting.Moves store arguments.item arguments.position
      (arguments.transactionType.sign * arguments.moved) 0 := by
  obtain ⟨quantity, hquantity, h⟩ := bind_ok h
  obtain ⟨uom, huom, h⟩ := bind_ok h
  obtain ⟨converted, hconverted, h⟩ := bind_ok h
  obtain ⟨cost, -, h⟩ := bind_ok h
  obtain ⟨stockCost, hstockCost, h⟩ := bind_ok h
  obtain ⟨_, honHand, h⟩ := bind_ok h
  obtain ⟨_, havailable, h⟩ := bind_ok h
  cases h
  obtain ⟨rfl, hpos⟩ := normalizePositiveQuantity_eq_ok hquantity
  have hstored := convertItemQuantity_stock hconverted
  have hmoved := converted_eq huom hconverted
  rw [← PostingArguments.moved] at hmoved
  obtain ⟨hposition, hstartOnHand, hstartReserved, hstartOnOrder⟩ := startBalance store
    arguments.position arguments.ids.balanceId arguments.item.stockUom
  have hdelta := resolveQuantityDelta_eq htype converted
  have hreserved := ensure_eq_ok.mp havailable
  rw [hdelta] at hreserved
  constructor
  · exact hposition
  · rfl
  · rfl
  · rw [← hmoved, ← hdelta, ← hstartOnHand]
  · rw [add_zero]
    exact hstartReserved
  · exact hstartOnOrder
  · simp only [hdelta]
    exact max_eq_right (sub_nonneg.mpr hreserved)
  · intro hnonneg
    rw [← hstartReserved] at hnonneg
    exact hnonneg
  · simp only [hdelta]
    exact hreserved
  · exact ⟨rfl, rfl⟩
  · change arguments.transactionType.sign * stockQuantity arguments.item arguments.quantity uom = _
    rw [← hstored, hmoved]
  · intro _
    exact ensure_eq_ok.mp honHand
  · intro hnonneg
    have hstart := startBalance_stock store arguments.position arguments.ids.balanceId
      arguments.item.stockUom
    rw [← hstartOnHand] at hnonneg
    have hincoming : 0 < resolveQuantityDelta arguments.transactionType converted →
        converted = resolveQuantityDelta arguments.transactionType converted :=
      resolveQuantityDelta_of_pos (converted_pos hpos hconverted)
    rw [← hstart, ← hmoved, ← hdelta]
    refine (resolveAverageCost_eq hnonneg hincoming stockCost).trans ?_
    rw [convertItemUnitCostToStock_eq hstockCost]
    rfl
  · rfl

/-- A hold reserves the quantity, a release gives it back; neither counts on hand. -/
theorem postReservationTransaction_moves
    (htype : arguments.transactionType ∈
      [StockTransactionType.reservationHold, .reservationRelease])
    (h : postReservationTransaction service store arguments = .ok posting) :
    posting.Moves store arguments.item arguments.position 0
      (if arguments.transactionType = .reservationHold then arguments.moved
        else -arguments.moved) := by
  obtain ⟨quantity, hquantity, h⟩ := bind_ok h
  obtain ⟨uom, huom, h⟩ := bind_ok h
  obtain ⟨converted, hconverted, h⟩ := bind_ok h
  obtain ⟨balance, hbalance, h⟩ := bind_ok h
  obtain ⟨_, hreserved, h⟩ := bind_ok h
  obtain ⟨_, havailable, h⟩ := bind_ok h
  cases h
  obtain ⟨rfl, -⟩ := normalizePositiveQuantity_eq_ok hquantity
  have hmoved := converted_eq huom hconverted
  rw [← PostingArguments.moved] at hmoved
  obtain hbalance := require_eq_ok.mp hbalance
  have hat : store.balanceAt arguments.position = balance := by
    rw [InventoryStore.balanceAt, hbalance, Option.getD_some]
  have hsign : arguments.transactionType.sign = 0 := by
    rcases List.mem_pair.mp htype with h | h <;> rw [h] <;> rfl
  constructor
  · exact (Table.get?_eq_some_iff.mp hbalance).2
  · rfl
  · rw [hbalance]
    rfl
  · rw [hat, add_zero]
  · rw [hat, ← hmoved]
  · rw [hat]
  · rfl
  · intro _
    exact ensure_eq_ok.mp hreserved
  · exact sub_nonneg.mp (ensure_eq_ok.mp havailable)
  · exact ⟨rfl, rfl⟩
  · change arguments.transactionType.sign * _ = 0
    rw [hsign, zero_mul]
  · intro hnonneg
    rw [hat] at hnonneg
    exact hnonneg
  · intro _
    rw [hat, Stock.move_zero]
    rfl
  · rfl

theorem movementDelta_eq {transactionType : StockTransactionType}
    (h : transactionType ∈ [StockTransactionType.issue, .return, .transferOut, .transferIn])
    (quantity : ℚ) :
    (if transactionType ∈ [StockTransactionType.return, .transferIn] then quantity
      else -quantity) = transactionType.sign * quantity := by
  simp only [List.mem_cons, List.not_mem_nil, or_false] at h
  rcases h with rfl | rfl | rfl | rfl <;> simp [StockTransactionType.sign]

theorem movementUnitCosts_eq {item : StockItem} {balance : StockBalance} {uom : String}
    {unitCost : Option ℚ} {costs : ℚ × ℚ}
    (h : movementUnitCosts item balance uom unitCost = .ok costs) :
    costs.2 = costs.1 / uomFactor item uom := by
  cases unitCost with
  | none =>
      obtain ⟨factor, hfactor, h⟩ := bind_ok h
      cases h
      rw [uomFactor_of_resolved hfactor]
      exact (mul_div_cancel_right₀ _ (resolveItemUomFactor_pos hfactor).ne').symm
  | some given =>
      obtain ⟨effective, -, h⟩ := bind_ok h
      obtain ⟨cost, hcost, h⟩ := bind_ok h
      cases h
      exact convertItemUnitCostToStock_eq hcost

theorem movementUnitCosts_none {item : StockItem} {balance : StockBalance} {uom : String}
    {costs : ℚ × ℚ} (h : movementUnitCosts item balance uom none = .ok costs) :
    costs.2 = balance.averageCost := by
  obtain ⟨_, -, h⟩ := bind_ok h
  cases h
  rfl

theorem movementUnitCosts_some {item : StockItem} {balance : StockBalance} {uom : String}
    {given : ℚ} {costs : ℚ × ℚ} (h : movementUnitCosts item balance uom (some given) = .ok costs) :
    costs.1 = given := by
  obtain ⟨effective, heffective, h⟩ := bind_ok h
  obtain ⟨_, -, h⟩ := bind_ok h
  cases h
  exact (normalizeNonnegativeQuantity_eq_ok heffective).1

theorem postMovementTransaction_moves {unitCost : Option ℚ} {releaseReservedQty : ℚ}
    (htype : arguments.transactionType ∈
      [StockTransactionType.issue, .return, .transferOut, .transferIn])
    (h : postMovementTransaction service store arguments unitCost releaseReservedQty =
      .ok posting) :
    posting.Moves store arguments.item arguments.position
      (arguments.transactionType.sign * arguments.moved)
      (-stockQuantity arguments.item releaseReservedQty
        (givenUom arguments.uom arguments.item)) := by
  obtain ⟨quantity, hquantity, h⟩ := bind_ok h
  obtain ⟨release, hrelease, h⟩ := bind_ok h
  obtain ⟨uom, huom, h⟩ := bind_ok h
  obtain ⟨converted, hconverted, h⟩ := bind_ok h
  obtain ⟨released, hreleased, h⟩ := bind_ok h
  iterate 2 obtain ⟨_, -, h⟩ := bind_ok h
  obtain ⟨_, honHand, h⟩ := bind_ok h
  obtain ⟨_, hreserved, h⟩ := bind_ok h
  obtain ⟨_, havailable, h⟩ := bind_ok h
  obtain ⟨costs, hcosts, h⟩ := bind_ok h
  cases h
  obtain ⟨rfl, hpos⟩ := normalizePositiveQuantity_eq_ok hquantity
  obtain ⟨rfl, -⟩ := normalizeNonnegativeQuantity_eq_ok hrelease
  have hstored := convertItemQuantity_stock hconverted
  have hmoved := converted_eq huom hconverted
  rw [← PostingArguments.moved] at hmoved
  have hreleasedMoved := converted_eq huom hreleased
  obtain ⟨hposition, hstartOnHand, hstartReserved, hstartOnOrder⟩ := startBalance store
    arguments.position arguments.ids.balanceId arguments.item.stockUom
  have hdelta := movementDelta_eq htype converted
  constructor
  · exact hposition
  · rfl
  · rfl
  · rw [← hmoved, ← hdelta, ← hstartOnHand]
  · rw [← hreleasedMoved, ← hstartReserved]
  · exact hstartOnOrder
  · rfl
  · intro _
    exact ensure_eq_ok.mp hreserved
  · exact sub_nonneg.mp (ensure_eq_ok.mp havailable)
  · exact ⟨rfl, rfl⟩
  · change arguments.transactionType.sign * stockQuantity arguments.item arguments.quantity uom = _
    rw [← hstored, hmoved]
  · intro _
    exact ensure_eq_ok.mp honHand
  · intro hnonneg
    have hstart := startBalance_stock store arguments.position arguments.ids.balanceId
      arguments.item.stockUom
    rw [← hstartOnHand] at hnonneg
    change (if 0 < _ then _ else _) = _
    rw [← hstart, ← hmoved, ← hdelta]
    by_cases hincoming : arguments.transactionType ∈ [StockTransactionType.return, .transferIn]
    · rw [if_pos hincoming, if_pos (converted_pos hpos hconverted),
        resolveAverageCost_eq hnonneg (fun _ => rfl), movementUnitCosts_eq hcosts]
      rfl
    · have hout : -converted ≤ 0 := neg_nonpos.mpr (converted_pos hpos hconverted).le
      rw [if_neg hincoming, if_neg (not_lt.mpr hout), Stock.move_of_nonpos hout]
      rfl
  · rfl

/-! ## What a posting costs -/

theorem converted_moved_pos {uom label label' : String} {converted : ℚ}
    (hquantity : 0 < arguments.quantity)
    (huom : normalizeUom (givenUom arguments.uom arguments.item) label = .ok uom)
    (h : convertItemQuantity arguments.item arguments.quantity uom arguments.item.stockUom label' =
      .ok converted) : 0 < arguments.moved := by
  have hmoved := converted_eq huom h
  rw [← PostingArguments.moved] at hmoved
  rw [← hmoved]
  exact converted_pos hquantity h

theorem postTransaction_cost {unitCost : ℚ}
    (h : postTransaction service store arguments unitCost = .ok posting) :
    0 < arguments.moved ∧ stockUnitCost arguments.item posting.transaction =
      unitCost / uomFactor arguments.item (givenUom arguments.uom arguments.item) := by
  obtain ⟨quantity, hquantity, h⟩ := bind_ok h
  obtain ⟨uom, huom, h⟩ := bind_ok h
  obtain ⟨converted, hconverted, h⟩ := bind_ok h
  obtain ⟨cost, hcost, h⟩ := bind_ok h
  iterate 3 obtain ⟨_, -, h⟩ := bind_ok h
  cases h
  obtain ⟨rfl, hpos⟩ := normalizePositiveQuantity_eq_ok hquantity
  obtain ⟨rfl, -⟩ := normalizeNonnegativeQuantity_eq_ok hcost
  refine ⟨converted_moved_pos hpos huom hconverted, ?_⟩
  rw [← uomFactor_normalized huom]
  rfl

theorem postMovementTransaction_cost {unitCost : Option ℚ} {releaseReservedQty : ℚ}
    (h : postMovementTransaction service store arguments unitCost releaseReservedQty =
      .ok posting) :
    0 < arguments.moved ∧
      normalizeUom (givenUom arguments.uom arguments.item) "Movement UOM" =
        .ok posting.transaction.uom ∧
      (unitCost = none → stockUnitCost arguments.item posting.transaction =
        (store.balanceAt arguments.position).averageCost) ∧
      ∀ given, unitCost = some given → posting.transaction.unitCost = given := by
  obtain ⟨quantity, hquantity, h⟩ := bind_ok h
  obtain ⟨_, -, h⟩ := bind_ok h
  obtain ⟨uom, huom, h⟩ := bind_ok h
  obtain ⟨converted, hconverted, h⟩ := bind_ok h
  iterate 6 obtain ⟨_, -, h⟩ := bind_ok h
  obtain ⟨costs, hcosts, h⟩ := bind_ok h
  cases h
  obtain ⟨rfl, hpos⟩ := normalizePositiveQuantity_eq_ok hquantity
  refine ⟨converted_moved_pos hpos huom hconverted, huom, ?_, ?_⟩
  · rintro rfl
    have hstart := startBalance_stock store arguments.position arguments.ids.balanceId
      arguments.item.stockUom
    refine (movementUnitCosts_eq hcosts).symm.trans ?_
    rw [movementUnitCosts_none hcosts]
    exact congrArg Stock.unitCost hstart
  · rintro given rfl
    exact movementUnitCosts_some hcosts

end

section

variable {store next : InventoryStore}

/-! ## Balances that are stored -/

theorem mem_storeBalance {balance other : StockBalance} {isNew : Bool}
    (hisNew : isNew = (store.balances.get? balance.position).isNone)
    (hother : other ∈ (storeBalance store isNew balance).balances.rows) :
    other = balance ∨ (other ∈ store.balances.rows ∧ other.position ≠ balance.position) := by
  cases hfound : store.balances.get? balance.position with
  | none =>
      rw [hfound] at hisNew
      subst hisNew
      rcases Table.mem_insert hother with rfl | hother
      · exact Or.inl rfl
      · refine Or.inr ⟨hother, ?_⟩
        intro hposition
        exact Table.get?_eq_none.mp hfound (hposition ▸ store.balances.mem_ids hother)
  | some stored =>
      rw [hfound] at hisNew
      subst hisNew
      rcases Table.mem_update_iff.mp hother with ⟨rfl, -⟩ | hkept
      · exact Or.inl rfl
      · exact Or.inr hkept

theorem get?_storeBalance_self {balance : StockBalance} {isNew : Bool}
    (hisNew : isNew = (store.balances.get? balance.position).isNone) :
    (storeBalance store isNew balance).balances.get? balance.position = some balance := by
  cases hfound : store.balances.get? balance.position with
  | none =>
      rw [hfound] at hisNew
      subst hisNew
      exact Table.get?_insert_self (Table.get?_eq_none.mp hfound)
  | some stored =>
      rw [hfound] at hisNew
      subst hisNew
      exact Table.get?_update_self hfound

theorem get?_storeBalance_of_ne {balance : StockBalance} (isNew : Bool)
    {position : StockPosition} (h : position ≠ balance.position) :
    (storeBalance store isNew balance).balances.get? position = store.balances.get? position := by
  cases isNew with
  | true => exact Table.get?_insert_of_ne h
  | false => exact Table.get?_update_of_ne h

theorem balanceAt_storeBalance {balance : StockBalance} {isNew : Bool}
    (hisNew : isNew = (store.balances.get? balance.position).isNone) (position : StockPosition) :
    (storeBalance store isNew balance).balanceAt position =
      if position = balance.position then balance else store.balanceAt position := by
  unfold InventoryStore.balanceAt
  by_cases h : position = balance.position
  · rw [if_pos h, h, get?_storeBalance_self hisNew]
    rfl
  · rw [if_neg h, get?_storeBalance_of_ne isNew h]

theorem mem_ids_storeBalance {balance : StockBalance} {isNew : Bool}
    (hisNew : isNew = (store.balances.get? balance.position).isNone) {position : StockPosition}
    (h : position = balance.position ∨ position ∈ store.balances.ids) :
    position ∈ (storeBalance store isNew balance).balances.ids := by
  by_contra hnone
  rw [← Table.get?_eq_none] at hnone
  by_cases hposition : position = balance.position
  · rw [hposition, get?_storeBalance_self hisNew] at hnone
    cases hnone
  · rw [get?_storeBalance_of_ne isNew hposition] at hnone
    rcases h with h | h
    · exact hposition h
    · exact Table.get?_eq_none.mp hnone h

theorem balanceAt_position (store : InventoryStore) (position : StockPosition) :
    (store.balanceAt position).position = position :=
  (startBalance store position "" "").1

theorem StockPosting.write_ok {posting : StockPosting} (h : posting.write store = .ok next) :
    posting.transaction.id ∉ store.transactions.ids ∧
      next = { storeBalance store posting.isNewBalance posting.balance with
        transactions := store.transactions.insert posting.transaction } := by
  obtain ⟨_, hfresh, h⟩ := bind_ok h
  exact ⟨(ensure_eq_ok.mp hfresh).1, (Except.ok.inj h).symm⟩

/-! ## Stores after a posting -/

def Posted (store next : InventoryStore) (position : StockPosition) (reserved : ℚ) : Prop :=
  ∃ (item : StockItem) (posting : StockPosting) (onHand : ℚ), store.items.get? position.stockItemId = some item ∧
    posting.Moves store item position onHand reserved ∧ posting.write store = .ok next

theorem Posted.frame {position : StockPosition} {reserved : ℚ}
    (h : Posted store next position reserved) :
    ∃ balances transactions,
      next = { store with balances := balances, transactions := transactions } := by
  obtain ⟨_, posting, _, -, -, hwrite⟩ := h
  exact ⟨_, _, (posting.write_ok hwrite).2⟩

theorem Posted.balanceAt {position : StockPosition} {reserved : ℚ}
    (h : Posted store next position reserved) (other : StockPosition) :
    (next.balanceAt other).reservedQty =
        (store.balanceAt other).reservedQty + (if other = position then reserved else 0) ∧
      (next.balanceAt other).onOrderQty = (store.balanceAt other).onOrderQty := by
  obtain ⟨_, posting, _, -, hmoves, hwrite⟩ := h
  obtain ⟨-, rfl⟩ := posting.write_ok hwrite
  have hisNew : posting.isNewBalance =
      (store.balances.get? posting.balance.position).isNone := by
    rw [hmoves.balance_position]
    exact hmoves.isNewBalance
  have hat := balanceAt_storeBalance hisNew other
  rw [hmoves.balance_position] at hat
  change ((storeBalance store posting.isNewBalance posting.balance).balanceAt other).reservedQty =
    _ ∧ ((storeBalance store posting.isNewBalance posting.balance).balanceAt other).onOrderQty = _
  rw [hat]
  by_cases hother : other = position
  · subst hother
    rw [if_pos rfl, if_pos rfl]
    exact ⟨hmoves.reservedQty, hmoves.onOrderQty⟩
  · rw [if_neg hother, if_neg hother, add_zero]
    exact ⟨rfl, rfl⟩

end

end ProjectManager
