import ProjectManager.Inventory.StockCalls

/-! # The stock ledger

Every balance agrees with the transactions of its position: the quantity on hand
is what they sum up to, and the last one records it. Posting keeps this, and
every call only posts or writes rows that the ledger does not read.
-/

namespace ProjectManager

open Foundation StockControlService

section

variable {store next : InventoryStore}

/-! ## Agreement -/

/-- What a transaction adds on hand, by the item of the store. -/
def signedQuantityIn (store : InventoryStore) (transaction : StockTransaction) : ℚ :=
  ((store.items.get? transaction.stockItemId).map fun item =>
    signedQuantity item transaction).getD 0

/-- The transactions of a position, summed up in the stock unit. -/
def ledgerQuantity (store : InventoryStore) (position : StockPosition) : ℚ :=
  store.transactions.sum fun transaction =>
    if transaction.position = position then signedQuantityIn store transaction else 0

/-- The transaction posted last at a position. -/
def latestTransaction (store : InventoryStore) (position : StockPosition) :
    Option StockTransaction :=
  store.transactions.rows.find? fun transaction => transaction.position = position

structure BalanceAgrees (store : InventoryStore) (balance : StockBalance) : Prop where
  reserved_nonneg : 0 ≤ balance.reservedQty
  reserved_le_onHand : balance.reservedQty ≤ balance.onHandQty
  availableQty : balance.availableQty = balance.onHandQty - balance.reservedQty
  onHandQty : balance.onHandQty = ledgerQuantity store balance.position
  latest : ∀ transaction ∈ latestTransaction store balance.position,
    transaction.resultingOnHandQty = balance.onHandQty ∧
      transaction.resultingAvailableQty = balance.availableQty

/-- Balances agree with the ledger, and no transaction is without a balance. -/
structure LedgerAgrees (store : InventoryStore) : Prop where
  balances : ∀ balance ∈ store.balances.rows, BalanceAgrees store balance
  positions : ∀ transaction ∈ store.transactions.rows,
    transaction.position ∈ store.balances.ids

theorem LedgerAgrees.congr (h : LedgerAgrees store) (hitems : next.items = store.items)
    (hbalances : next.balances = store.balances)
    (htransactions : next.transactions = store.transactions) : LedgerAgrees next := by
  obtain ⟨items, storerooms, balances, transactions⟩ := next
  obtain rfl : items = store.items := hitems
  obtain rfl : balances = store.balances := hbalances
  obtain rfl : transactions = store.transactions := htransactions
  exact ⟨fun balance hbalance =>
    ⟨(h.balances balance hbalance).1, (h.balances balance hbalance).2,
      (h.balances balance hbalance).3, (h.balances balance hbalance).4,
      (h.balances balance hbalance).5⟩, h.positions⟩

/-! ## The ledger of a position -/

theorem LedgerAgrees.at (h : LedgerAgrees store) (position : StockPosition) :
    BalanceAgrees store (store.balanceAt position) := by
  unfold InventoryStore.balanceAt
  cases hfound : store.balances.get? position with
  | some balance => exact h.balances balance (Table.get?_eq_some_iff.mp hfound).1
  | none =>
      have hother : ∀ transaction ∈ store.transactions.rows, transaction.position ≠ position := by
        rintro transaction htransaction rfl
        exact Table.get?_eq_none.mp hfound (h.positions transaction htransaction)
      refine ⟨le_rfl, le_rfl, (sub_zero 0).symm, (Table.sum_eq_zero ?_).symm, ?_⟩
      · intro transaction htransaction
        exact if_neg (hother transaction htransaction)
      · intro transaction hlatest
        have hposition := List.find?_some hlatest
        exact absurd (of_decide_eq_true hposition)
          (hother transaction (List.mem_of_find?_eq_some hlatest))

/-- Storing a balance with the quantities of its position keeps the agreement. -/
theorem LedgerAgrees.storeBalance {balance : StockBalance} {isNew : Bool}
    (hisNew : isNew = (store.balances.get? balance.position).isNone)
    (honHand : balance.onHandQty = (store.balanceAt balance.position).onHandQty)
    (hreserved : balance.reservedQty = (store.balanceAt balance.position).reservedQty)
    (havailable : balance.availableQty = (store.balanceAt balance.position).availableQty)
    (h : LedgerAgrees store) : LedgerAgrees (ProjectManager.storeBalance store isNew balance) := by
  constructor
  · intro other hother
    rcases mem_storeBalance hisNew hother with rfl | ⟨hother, -⟩
    · have hold := h.at other.position
      constructor
      · exact hreserved ▸ hold.reserved_nonneg
      · exact hreserved ▸ honHand ▸ hold.reserved_le_onHand
      · exact hreserved ▸ honHand ▸ havailable ▸ hold.availableQty
      · rw [honHand, hold.onHandQty, balanceAt_position]
        rfl
      · rw [honHand, havailable]
        have hlatest := hold.latest
        rw [balanceAt_position] at hlatest
        exact hlatest
    · have hold := h.balances other hother
      exact ⟨hold.1, hold.2, hold.3, hold.4, hold.5⟩
  · intro transaction htransaction
    exact mem_ids_storeBalance hisNew (Or.inr (h.positions transaction htransaction))

theorem StockPosting.Moves.ledgerAgrees {posting : StockPosting} {item : StockItem}
    {position : StockPosition} {onHand reserved : ℚ}
    (hmoves : posting.Moves store item position onHand reserved)
    (hitem : store.items.get? position.stockItemId = some item)
    (hwrite : posting.write store = .ok next) (h : LedgerAgrees store) : LedgerAgrees next := by
  obtain ⟨hfresh, rfl⟩ := posting.write_ok hwrite
  have hrows := Table.rows_insert hfresh
  have hisNew : posting.isNewBalance =
      (store.balances.get? posting.balance.position).isNone := by
    rw [hmoves.balance_position]
    exact hmoves.isNewBalance
  have hsigned : signedQuantityIn store posting.transaction = onHand := by
    have hid : posting.transaction.stockItemId = position.stockItemId := by
      rw [← hmoves.transaction_position]
      rfl
    rw [signedQuantityIn, hid, hitem, Option.map_some, Option.getD_some, hmoves.signed]
  have hledger : ∀ other, ledgerQuantity
      { storeBalance store posting.isNewBalance posting.balance with
        transactions := store.transactions.insert posting.transaction } other =
      (if position = other then onHand else 0) + ledgerQuantity store other := by
    intro other
    change (store.transactions.insert posting.transaction).sum _ = _
    rw [Table.sum_insert hfresh, hmoves.transaction_position]
    change (if position = other then signedQuantityIn store posting.transaction else 0) + _ = _
    rw [hsigned]
    rfl
  have hlatest : ∀ other, latestTransaction
      { storeBalance store posting.isNewBalance posting.balance with
        transactions := store.transactions.insert posting.transaction } other =
      if position = other then some posting.transaction else latestTransaction store other := by
    intro other
    change (store.transactions.insert posting.transaction).rows.find? _ = _
    rw [hrows, List.find?_cons, hmoves.transaction_position]
    by_cases hother : position = other <;> simp [hother, latestTransaction]
  constructor
  · intro balance hbalance
    rcases mem_storeBalance hisNew hbalance with rfl | ⟨hbalance, hposition⟩
    · have hold := h.at position
      have hbefore := hold.onHandQty
      rw [balanceAt_position] at hbefore
      refine ⟨hmoves.reserved_nonneg hold.reserved_nonneg, hmoves.reserved_le_onHand, hmoves.availableQty, ?_, ?_⟩
      · rw [hledger, hmoves.balance_position, if_pos rfl, hmoves.onHandQty, hbefore, add_comm]
      · intro transaction htransaction
        rw [hlatest, hmoves.balance_position, if_pos rfl] at htransaction
        obtain rfl := Option.some.inj htransaction
        exact hmoves.resulting
    · have hold := h.balances balance hbalance
      have hother : position ≠ balance.position := by
        rw [← hmoves.balance_position]
        exact hposition.symm
      refine ⟨hold.reserved_nonneg, hold.reserved_le_onHand, hold.availableQty, ?_, ?_⟩
      · rw [hledger, if_neg hother, zero_add, hold.onHandQty]
      · intro transaction htransaction
        rw [hlatest, if_neg hother] at htransaction
        exact hold.latest transaction htransaction
  · intro transaction htransaction
    rcases Table.mem_insert htransaction with rfl | htransaction
    · refine mem_ids_storeBalance hisNew (Or.inl ?_)
      rw [hmoves.transaction_position, hmoves.balance_position]
    · exact mem_ids_storeBalance hisNew (Or.inr (h.positions transaction htransaction))

/-! ## Calls keep the agreement -/

theorem Posted.ledgerAgrees {position : StockPosition} {reserved : ℚ}
    (hposted : Posted store next position reserved) (h : LedgerAgrees store) :
    LedgerAgrees next := by
  obtain ⟨_, _, _, hitem, hmoves, hwrite⟩ := hposted
  exact hmoves.ledgerAgrees hitem hwrite h

theorem Booked.ledgerAgrees (hbooked : Booked store next) (h : LedgerAgrees store) :
    LedgerAgrees next := by
  induction hbooked with
  | refl => exact h
  | posted _ hposted ih => exact hposted.ledgerAgrees ih
  | onOrder _ hadjusted _ ih =>
      cases hadjusted with
      | unchanged => exact ih
      | stored isNew balance hposition hisNew honHand hreserved havailable =>
          subst hposition
          exact ih.storeBalance hisNew honHand hreserved havailable
  | other _ hsame ih => exact ih.congr hsame.items hsame.balances hsame.transactions

theorem TakesFrom.ledgerAgrees {stored updated : StockReservation} {quantity : ℚ}
    (htakes : TakesFrom store next stored updated quantity) (h : LedgerAgrees store) :
    LedgerAgrees next := by
  obtain ⟨current, hposted, rfl⟩ := htakes.posted
  exact (hposted.ledgerAgrees h).congr rfl rfl rfl

end

theorem StockCall.effect_ledgerAgrees {service : InventoryService} {call : StockCall}
    {store next : InventoryStore} (hcall : (call.guarded service).effect store = .ok next)
    (h : LedgerAgrees store) : LedgerAgrees next := by
  cases call with
  | postOpeningBalance => exact (postOpeningBalance_posted hcall).ledgerAgrees h
  | postAdjustment => exact (postAdjustment_posted hcall).ledgerAgrees h
  | holdReservation => exact (holdReservation_posted hcall).ledgerAgrees h
  | releaseHold => exact (releaseReservation_posted hcall).ledgerAgrees h
  | issueStock => exact (issueStock_posted hcall).ledgerAgrees h
  | returnStock => exact (returnStock_posted hcall).ledgerAgrees h
  | transferStock => exact (transferStock_booked hcall).ledgerAgrees h
  | createReservation =>
      obtain ⟨_, _, -, -, rfl, hposted⟩ := createReservation_ok hcall
      exact hposted.ledgerAgrees (h.congr rfl rfl rfl)
  | issueReservedStock =>
      obtain ⟨_, _, htakes⟩ := issueReservedStock_ok hcall
      exact htakes.ledgerAgrees h
  | releaseReservation =>
      obtain ⟨_, _, htakes⟩ := closeReservation_ok (by decide) hcall
      exact htakes.ledgerAgrees h
  | cancelReservation =>
      obtain ⟨_, _, htakes⟩ := closeReservation_ok (by decide) hcall
      exact htakes.ledgerAgrees h
  | postReceipt => exact (postReceipt_booked hcall).ledgerAgrees h

/-- A session whose changes are all committed, on a store that agrees with its ledger. -/
def LedgerSession (session : Session InventoryStore) : Prop :=
  ∃ store, session = .clean store ∧ LedgerAgrees store

theorem runStockCall_ledgerSession {session : Session InventoryStore}
    (call : InventoryService × StockCall) (h : LedgerSession session) :
    LedgerSession (runStockCall call session).2 := by
  obtain ⟨store, rfl, hstore⟩ := h
  unfold runStockCall
  rw [GuardedCall.run_clean]
  cases heffect : (call.2.guarded call.1).effect store with
  | error e => exact ⟨store, rfl, hstore⟩
  | ok next => exact ⟨next, rfl, StockCall.effect_ledgerAgrees heffect hstore⟩

/-- After every run of calls, accepted or rejected, every balance agrees with the ledger,
nothing is left uncommitted, and a call that raises leaves the session as it was. -/
theorem stockRun_ledgerAgrees (calls : List (InventoryService × StockCall))
    (store : InventoryStore) (h : LedgerAgrees store) :
    let session := sessionAfter runStockCall (.clean store) calls
    session.pending = session.committed ∧ LedgerAgrees session.committed ∧
      ∀ call error, (runStockCall call session).1 = some error →
        (runStockCall call session).2 = session := by
  intro session
  obtain ⟨last, hlast, hagrees⟩ : LedgerSession session :=
    sessionAfter_invariant (fun _ call _ => runStockCall_ledgerSession call) calls
      (eachCall_of_forall (fun _ _ => trivial) calls _) ⟨store, rfl, h⟩
  refine ⟨by rw [hlast]; rfl, by rw [hlast]; exact hagrees, ?_⟩
  intro call error
  rw [hlast, runStockCall, GuardedCall.run_clean]
  cases (call.2.guarded call.1).effect last with
  | error e => exact fun _ => rfl
  | ok next => exact fun hnone => (nomatch hnone)

/-- Two boxes come in; a reservation is made and issued in part, stock is held directly; an
issue and a transfer that would need reserved stock are refused. -/
def boltCalls : List (InventoryService × StockCall) :=
  [.postOpeningBalance (boltArguments 2 "box" "1") 30,
    .createReservation { stockItemId := "bolt", storeroomId := "main", reservedQty := 5
                         sourceReferenceType := "task", sourceReferenceId := "design"
                         reservationId := "r", reservationNumber := "R1", ids := boltIds "2" },
    .issueStock (boltArguments 16 "EA" "3") none 0,
    .issueReservedStock "r" 2 "" (boltIds "4"),
    .holdReservation (boltArguments 7 "EA" "5"),
    .transferStock { stockItemId := "bolt", sourceStoreroomId := "main"
                     destinationStoreroomId := "spare", quantity := 1, uom := some "BOX"
                     transferReference := "T", outboundIds := boltIds "6"
                     inboundIds := boltIds "7" }].map (Prod.mk inventoryAdmin)

theorem stockRun_ledgerAgrees_bolts :
    let session := sessionAfter runStockCall (.clean boltStore) boltCalls
    session.pending = session.committed ∧ LedgerAgrees session.committed ∧
      ∀ call error, (runStockCall call session).1 = some error →
        (runStockCall call session).2 = session :=
  stockRun_ledgerAgrees boltCalls boltStore
    ⟨fun _ hmem => (List.not_mem_nil hmem).elim, fun _ hmem => (List.not_mem_nil hmem).elim⟩

example : ((sessionAfter runStockCall (.clean boltStore) boltCalls).committed.balances.rows.map
    fun balance => (balance.onHandQty, balance.reservedQty, balance.availableQty)) =
      [(18, 10, 8)] := by
  decide +kernel

end ProjectManager
