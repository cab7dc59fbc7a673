import ProjectManager.Inventory.Ledger

/-! # What stock is worth

A position is a stock at a weighted average cost: what a call posts is booked
into it one transaction after another. Transfers keep the worth of both sides,
issues keep the average, and the average stays between the costs that came in.
-/

namespace ProjectManager

open Foundation StockControlService

section

variable {store next : InventoryStore}

/-! ## Booking transactions -/

def InventoryStore.stockAt (store : InventoryStore) (position : StockPosition) : Stock ℚ :=
  (store.balanceAt position).stock

def stockUnitCostIn (store : InventoryStore) (transaction : StockTransaction) : ℚ :=
  ((store.items.get? transaction.stockItemId).map fun item =>
    stockUnitCost item transaction).getD 0

def bookAt (store : InventoryStore) (position : StockPosition) (transaction : StockTransaction)
    (stock : Stock ℚ) : Stock ℚ :=
  if transaction.position = position then
    stock.move (signedQuantityIn store transaction) (stockUnitCostIn store transaction)
  else stock

/-- The unit costs that come in at a position with these transactions. -/
def enteredCosts (store : InventoryStore) (position : StockPosition)
    (transactions : List StockTransaction) : List ℚ :=
  (transactions.filter fun transaction =>
    transaction.position = position ∧ 0 < signedQuantityIn store transaction).map
      (stockUnitCostIn store)

/-- No position has less than nothing on hand. -/
def NonnegativeStock (store : InventoryStore) : Prop :=
  ∀ position, 0 ≤ (store.balanceAt position).onHandQty

/-- The posted transactions, the newest first, lead from the one store to the other. -/
structure Books (store next : InventoryStore) (posted : List StockTransaction) : Prop where
  items : next.items = store.items
  transactions : next.transactions.rows = posted ++ store.transactions.rows
  nonneg : NonnegativeStock next
  stock : ∀ position, next.stockAt position =
    posted.foldr (bookAt store position) (store.stockAt position)
  within : ∀ position costs, (store.stockAt position).Within costs →
    (next.stockAt position).Within (enteredCosts store position posted ++ costs)

theorem bookAt_congr (hitems : next.items = store.items) : bookAt next = bookAt store := by
  funext position transaction stock
  unfold bookAt signedQuantityIn stockUnitCostIn
  rw [hitems]

theorem enteredCosts_congr (hitems : next.items = store.items) :
    enteredCosts next = enteredCosts store := by
  funext position transactions
  unfold enteredCosts stockUnitCostIn signedQuantityIn
  rw [hitems]

theorem enteredCosts_append (store : InventoryStore) (position : StockPosition)
    (first second : List StockTransaction) :
    enteredCosts store position (first ++ second) =
      enteredCosts store position first ++ enteredCosts store position second := by
  unfold enteredCosts
  rw [List.filter_append, List.map_append]

theorem Books.trans {current : InventoryStore} {first second : List StockTransaction}
    (hfirst : Books store current first) (hsecond : Books current next second) :
    Books store next (second ++ first) where
  items := hsecond.items.trans hfirst.items
  transactions := by rw [hsecond.transactions, hfirst.transactions, List.append_assoc]
  nonneg := hsecond.nonneg
  stock position := by
    rw [hsecond.stock, hfirst.stock, bookAt_congr hfirst.items, List.foldr_append]
  within position costs hcosts := by
    have hwithin := hsecond.within position _ (hfirst.within position costs hcosts)
    rw [enteredCosts_congr hfirst.items, ← List.append_assoc] at hwithin
    rw [enteredCosts_append]
    exact hwithin

/-- Neither the stock of a position nor a transaction changes. -/
structure SameStockValue (store next : InventoryStore) : Prop where
  transactions : next.transactions = store.transactions
  stock : ∀ position, next.stockAt position = store.stockAt position

theorem SameStockValue.nonneg (hsame : SameStockValue store next) (h : NonnegativeStock store) :
    NonnegativeStock next := by
  intro position
  have hquantity := congrArg Stock.quantity (hsame.stock position)
  change (next.balanceAt position).onHandQty = (store.balanceAt position).onHandQty at hquantity
  rw [hquantity]
  exact h position

theorem SameStockValue.books (hsame : SameStockValue store next) (hitems : next.items = store.items)
    (h : NonnegativeStock store) : Books store next [] where
  items := hitems
  transactions := by rw [hsame.transactions, List.nil_append]
  nonneg := hsame.nonneg h
  stock := hsame.stock
  within position costs hcosts := by
    rw [hsame.stock]
    exact hcosts

theorem SameStock.sameStockValue (h : SameStock store next) : SameStockValue store next where
  transactions := h.transactions
  stock position := by
    unfold InventoryStore.stockAt InventoryStore.balanceAt
    rw [h.balances]

/-- What is on order does not count. -/
theorem OnOrderAdjusted.sameStockValue {position : StockPosition} {quantity : ℚ}
    (h : OnOrderAdjusted store position quantity next) : SameStockValue store next := by
  cases h with
  | unchanged => exact ⟨rfl, fun _ => rfl⟩
  | stored isNew balance hposition hisNew honHand _ _ haverage =>
      subst hposition
      refine ⟨rfl, ?_⟩
      intro other
      unfold InventoryStore.stockAt
      rw [balanceAt_storeBalance hisNew]
      split
      next hother =>
        subst hother
        unfold StockBalance.stock
        rw [honHand, haverage]
      next => rfl

theorem StockPosting.Moves.books {posting : StockPosting} {item : StockItem}
    {position : StockPosition} {onHand reserved : ℚ}
    (hmoves : posting.Moves store item position onHand reserved)
    (hitem : store.items.get? position.stockItemId = some item)
    (hwrite : posting.write store = .ok next) (h : NonnegativeStock store) :
    Books store next [posting.transaction] := by
  obtain ⟨hfresh, rfl⟩ := posting.write_ok hwrite
  have hisNew : posting.isNewBalance =
      (store.balances.get? posting.balance.position).isNone := by
    rw [hmoves.balance_position]
    exact hmoves.isNewBalance
  have hid : posting.transaction.stockItemId = position.stockItemId := by
    rw [← hmoves.transaction_position]
    rfl
  have hsigned : signedQuantityIn store posting.transaction = onHand := by
    rw [signedQuantityIn, hid, hitem, Option.map_some, Option.getD_some, hmoves.signed]
  have hcost : stockUnitCostIn store posting.transaction =
      stockUnitCost item posting.transaction := by
    rw [stockUnitCostIn, hid, hitem, Option.map_some, Option.getD_some]
  have hat : ∀ other, (InventoryStore.balanceAt
      { storeBalance store posting.isNewBalance posting.balance with
        transactions := store.transactions.insert posting.transaction } other) =
      if other = position then posting.balance else store.balanceAt other := by
    intro other
    rw [← hmoves.balance_position]
    exact balanceAt_storeBalance hisNew other
  have hposted : posting.balance.stock =
      (store.stockAt position).move onHand (stockUnitCost item posting.transaction) := by
    ext1
    · rw [Stock.move_quantity]
      exact hmoves.onHandQty
    · exact hmoves.averageCost (h position)
  have hstock : ∀ other, InventoryStore.stockAt
      { storeBalance store posting.isNewBalance posting.balance with
        transactions := store.transactions.insert posting.transaction } other =
      bookAt store other posting.transaction (store.stockAt other) := by
    intro other
    rw [InventoryStore.stockAt, hat, bookAt, hmoves.transaction_position, hsigned, hcost]
    by_cases hother : other = position
    · subst hother
      rw [if_pos rfl, if_pos rfl]
      exact hposted
    · rw [if_neg hother, if_neg (Ne.symm hother)]
      rfl
  refine ⟨rfl, Table.rows_insert hfresh, ?_, hstock, ?_⟩
  · intro other
    rw [hat]
    split
    next => exact hmoves.onHand_nonneg (h position)
    next => exact h other
  · intro other costs hcosts
    rw [hstock, bookAt, hmoves.transaction_position, hsigned, hcost]
    unfold enteredCosts
    rw [List.filter_singleton, hmoves.transaction_position, hsigned]
    by_cases hother : position = other
    · subst hother
      have hrest : 0 ≤ (store.stockAt position).quantity + onHand := by
        rw [← Stock.move_quantity _ _ (stockUnitCost item posting.transaction), ← hposted]
        exact hmoves.onHand_nonneg (h position)
      have hmoved := hcosts.move hrest (stockUnitCost item posting.transaction)
      by_cases hincoming : 0 < onHand
      · simpa [hincoming, hcost] using hmoved
      · simpa [hincoming] using hmoved
    · simpa [hother] using hcosts

/-! ## Calls book what they post -/

theorem Posted.books {position : StockPosition} {reserved : ℚ}
    (hposted : Posted store next position reserved) (h : NonnegativeStock store) :
    ∃ posted, Books store next posted := by
  obtain ⟨_, posting, _, hitem, hmoves, hwrite⟩ := hposted
  exact ⟨_, hmoves.books hitem hwrite h⟩

theorem Booked.books (hbooked : Booked store next) (h : NonnegativeStock store) :
    ∃ posted, Books store next posted := by
  induction hbooked with
  | refl => exact ⟨[], SameStockValue.books ⟨rfl, fun _ => rfl⟩ rfl h⟩
  | posted _ hposted ih =>
      obtain ⟨posted, hcurrent⟩ := ih
      obtain ⟨_, hnext⟩ := hposted.books hcurrent.nonneg
      exact ⟨_, hcurrent.trans hnext⟩
  | onOrder _ hadjusted _ ih =>
      obtain ⟨posted, hcurrent⟩ := ih
      have hsame := hadjusted.sameStockValue
      obtain ⟨balances, rfl⟩ := hadjusted.frame
      exact ⟨_, hcurrent.trans (hsame.books rfl hcurrent.nonneg)⟩
  | other _ hsame ih =>
      obtain ⟨posted, hcurrent⟩ := ih
      exact ⟨_, hcurrent.trans (hsame.sameStockValue.books hsame.items hcurrent.nonneg)⟩

theorem books_reservations (store : InventoryStore) (reservations : Table StockReservation.id)
    (h : NonnegativeStock store) :
    Books store { store with reservations := reservations } [] :=
  SameStockValue.books ⟨rfl, fun _ => rfl⟩ rfl h

theorem TakesFrom.books {stored updated : StockReservation} {quantity : ℚ}
    (htakes : TakesFrom store next stored updated quantity) (h : NonnegativeStock store) :
    ∃ posted, Books store next posted := by
  obtain ⟨current, hposted, rfl⟩ := htakes.posted
  obtain ⟨_, hcurrent⟩ := hposted.books h
  exact ⟨_, hcurrent.trans (books_reservations current _ hcurrent.nonneg)⟩

theorem StockPosting.Moves.stockAt {posting : StockPosting} {item : StockItem}
    {position : StockPosition} {onHand reserved : ℚ}
    (hmoves : posting.Moves store item position onHand reserved)
    (hitem : store.items.get? position.stockItemId = some item)
    (hwrite : posting.write store = .ok next) (h : NonnegativeStock store)
    (other : StockPosition) : next.stockAt other =
      if other = position then
        (store.stockAt position).move onHand (stockUnitCost item posting.transaction)
      else store.stockAt other := by
  have hbooks := (hmoves.books hitem hwrite h).stock other
  have hid : posting.transaction.stockItemId = position.stockItemId := by
    rw [← hmoves.transaction_position]
    rfl
  rw [hbooks, List.foldr_cons, List.foldr_nil, bookAt, hmoves.transaction_position,
    signedQuantityIn, stockUnitCostIn, hid, hitem, Option.map_some, Option.getD_some,
    Option.map_some, Option.getD_some, hmoves.signed]
  by_cases hother : position = other
  · rw [if_pos hother, if_pos hother.symm, hother]
  · rw [if_neg hother, if_neg (Ne.symm hother)]

variable {service : InventoryService}

/-- A transfer changes neither what both sides hold nor what it is worth. -/
theorem transferStock_conserves {arguments : TransferArguments} (h : NonnegativeStock store)
    (hcall : (transferStock service arguments).effect store = .ok next) :
    let source := service.position arguments.stockItemId arguments.sourceStoreroomId
    let destination := service.position arguments.stockItemId arguments.destinationStoreroomId
    (next.balanceAt source).onHandQty + (next.balanceAt destination).onHandQty =
        (store.balanceAt source).onHandQty + (store.balanceAt destination).onHandQty ∧
      (next.stockAt source).value + (next.stockAt destination).value =
        (store.stockAt source).value + (store.stockAt destination).value := by
  intro source destination
  obtain ⟨item, outbound, inbound, moved, quantity, hitem, hpos, hstorerooms, hout, hmoved, hin,
    hwrite, hcost⟩ := transferStock_ok hcall
  have hdifferent : source ≠ destination := fun hsame =>
    hstorerooms (congrArg StockPosition.storeroomId hsame)
  have hbooks := hout.books hitem hmoved h
  have hsourceMoved := hout.stockAt hitem hmoved h source
  have hdestinationMoved := hout.stockAt hitem hmoved h destination
  have hitemMoved : moved.items.get? arguments.stockItemId = some item := by
    rw [hbooks.items]
    exact hitem
  have hsource := hin.stockAt hitemMoved hwrite hbooks.nonneg source
  have hdestination := hin.stockAt hitemMoved hwrite hbooks.nonneg destination
  rw [if_pos rfl] at hsourceMoved hdestination
  rw [if_neg hdifferent, hsourceMoved] at hsource
  rw [if_neg hdifferent.symm] at hdestinationMoved
  rw [hdestinationMoved, hcost] at hdestination
  have hquantity : ∀ position, (next.balanceAt position).onHandQty =
      (next.stockAt position).quantity := fun _ => rfl
  constructor
  · rw [hquantity, hquantity, hsource, hdestination, Stock.move_quantity, Stock.move_quantity]
    change (store.balanceAt source).onHandQty + -quantity +
      ((store.balanceAt destination).onHandQty + quantity) = _
    ring
  · rw [hsource, hdestination, Stock.move_of_nonpos (neg_nonpos.mpr hpos.le),
      ← Stock.move_of_nonpos (neg_nonpos.mpr hpos.le) (store.stockAt source).unitCost]
    exact Stock.transfer_value (h destination) hpos

/-- What goes out goes at the average. -/
theorem StockPosting.Moves.averageCost_eq {posting : StockPosting} {item : StockItem}
    {position : StockPosition} {onHand reserved : ℚ}
    (hmoves : posting.Moves store item position onHand reserved)
    (hitem : store.items.get? position.stockItemId = some item)
    (hwrite : posting.write store = .ok next) (h : NonnegativeStock store) (honHand : onHand ≤ 0)
    (other : StockPosition) :
    (next.balanceAt other).averageCost = (store.balanceAt other).averageCost := by
  have hstock := congrArg Stock.unitCost (hmoves.stockAt hitem hwrite h other)
  rw [Stock.move_of_nonpos honHand] at hstock
  split at hstock
  next hother =>
    subst hother
    exact hstock
  next => exact hstock

variable {arguments : StockArguments}

theorem scope_position {label stockItemId storeroomId : String} {scope : StockScope}
    (hscope : resolveStockScope service store label stockItemId storeroomId = .ok scope) :
    scope.position = service.position stockItemId storeroomId ∧
      store.items.get? scope.position.stockItemId = some scope.item := by
  obtain ⟨hfound, horganization, hitem, hstoreroom⟩ := resolveStockScope_ok hscope
  constructor
  · rw [InventoryService.position, horganization, ← hitem, ← hstoreroom]
    rfl
  · rw [← hitem] at hfound
    exact hfound

theorem issueStock_averageCost {unitCost : Option ℚ} {releaseReservedQty : ℚ}
    (h : NonnegativeStock store)
    (hcall : (issueStock service arguments unitCost releaseReservedQty).effect store = .ok next)
    (position : StockPosition) :
    (next.balanceAt position).averageCost = (store.balanceAt position).averageCost := by
  obtain ⟨posting, hprepared, hwrite⟩ := GuardedCall.effect_eq_ok.mp hcall
  obtain ⟨scope, hscope, hprepared⟩ := bind_ok hprepared
  iterate 2 obtain ⟨_, -, hprepared⟩ := bind_ok hprepared
  have hmoves := postMovementTransaction_moves List.mem_cons_self hprepared
  have hpos := (postMovementTransaction_cost hprepared).1
  refine hmoves.averageCost_eq (scope_position hscope).2 hwrite h ?_ position
  change -1 * _ ≤ (0 : ℚ)
  linarith

theorem issueReservedStock_averageCost {reservationId note : String} {quantity : ℚ}
    {ids : PostingIds} (h : NonnegativeStock store)
    (hcall : (ReservationService.issueReservedStock service reservationId quantity note ids).effect
      store = .ok next) (position : StockPosition) :
    (next.balanceAt position).averageCost = (store.balanceAt position).averageCost := by
  obtain ⟨plan, -, hcall⟩ := GuardedCall.effect_eq_ok.mp hcall
  obtain ⟨issued, hissued, hcall⟩ := bind_ok hcall
  cases hcall
  exact issueStock_averageCost h hissued position

def unitCostInStock (store : InventoryStore) (stockItemId : String) (unitCost : ℚ)
    (uom : Option String) : ℚ :=
  ((store.items.get? stockItemId).map fun item => unitCost / uomFactor item (givenUom uom item)).getD 0

/-- An increase is averaged in. -/
theorem postAdjustment_receives {direction : String} {unitCost : ℚ} (h : NonnegativeStock store)
    (hdirection : upper (strip direction) = "INCREASE")
    (hcall : (postAdjustment service arguments direction unitCost).effect store = .ok next) :
    let quantity := quantityInStock store arguments.stockItemId arguments.quantity arguments.uom
    let cost := unitCostInStock store arguments.stockItemId unitCost arguments.uom
    0 < quantity ∧ ∀ position, next.stockAt position =
      if service.position arguments.stockItemId arguments.storeroomId = position then
        (store.stockAt position).receive quantity cost
      else store.stockAt position := by
  intro quantity cost
  obtain ⟨(posting : StockPosting), hprepared, hwrite⟩ := GuardedCall.effect_eq_ok.mp hcall
  obtain ⟨scope, hscope, hprepared⟩ := bind_ok hprepared
  obtain ⟨_, -, hprepared⟩ := bind_ok hprepared
  have hincrease : (adjustmentType (upper (strip direction))).sign = 1 := by
    rw [hdirection]
    rfl
  have hmoves := postTransaction_moves (by
    rw [postingArguments_transactionType, hincrease]
    exact one_ne_zero) hprepared
  obtain ⟨hpos, hcost⟩ := postTransaction_cost hprepared
  obtain ⟨hposition, hitem⟩ := scope_position hscope
  rw [postingArguments_transactionType, hincrease, one_mul] at hmoves
  have hquantity : (arguments.postingArguments scope
      (adjustmentType (upper (strip direction))) "adjustment").moved = quantity :=
    stockQuantity_of_scope hscope arguments.quantity arguments.uom
  have hunitCost : stockUnitCost scope.item posting.transaction = cost := by
    refine hcost.trans ?_
    change _ = ((store.items.get? arguments.stockItemId).map _).getD 0
    rw [(resolveStockScope_ok hscope).1]
    rfl
  rw [hquantity] at hmoves hpos
  refine ⟨hpos, ?_⟩
  intro position
  have hstock : next.stockAt position = if position = scope.position then
      (store.stockAt scope.position).move quantity (stockUnitCost scope.item posting.transaction)
    else store.stockAt position := hmoves.stockAt hitem hwrite h position
  rw [← hposition, hstock, hunitCost, Stock.move_of_pos hpos]
  by_cases hother : position = scope.position
  · rw [if_pos hother.symm, hother]
    exact if_pos rfl
  · rw [if_neg (Ne.symm hother)]
    exact if_neg hother

/-! ## Receipts -/

/-- What a line of a receipt accepts is averaged in at its position. -/
def receiveAt (service : InventoryService) (store : InventoryStore) (position : StockPosition)
    (line : ReceiptLine) (stock : Stock ℚ) : Stock ℚ :=
  if service.position line.stockItemId line.storeroomId = position ∧ 0 < line.quantityAccepted then
    stock.receive (quantityInStock store line.stockItemId line.quantityAccepted (some line.uom))
      (unitCostInStock store line.stockItemId line.unitCost (some line.uom))
  else stock

/-- The lines of a receipt, the last first, lead from the one store to the other. -/
structure Receives (service : InventoryService) (store next : InventoryStore)
    (lines : List ReceiptLine) : Prop where
  items : next.items = store.items
  receiptLines : next.receiptLines.rows = lines ++ store.receiptLines.rows
  nonneg : NonnegativeStock next
  stock : ∀ position, next.stockAt position =
    lines.foldr (receiveAt service store position) (store.stockAt position)

theorem receiveAt_congr (hitems : next.items = store.items) :
    receiveAt service next = receiveAt service store := by
  funext position line stock
  unfold receiveAt quantityInStock unitCostInStock
  rw [hitems]

theorem Receives.trans {current : InventoryStore} {first second : List ReceiptLine}
    (hfirst : Receives service store current first)
    (hsecond : Receives service current next second) :
    Receives service store next (second ++ first) where
  items := hsecond.items.trans hfirst.items
  receiptLines := by rw [hsecond.receiptLines, hfirst.receiptLines, List.append_assoc]
  nonneg := hsecond.nonneg
  stock position := by
    rw [hsecond.stock, hfirst.stock, receiveAt_congr hfirst.items, List.foldr_append]

theorem postAdjustment_receiptLines {direction : String} {unitCost : ℚ}
    (hcall : (postAdjustment service arguments direction unitCost).effect store = .ok next) :
    next.items = store.items ∧ next.receiptLines = store.receiptLines := by
  obtain ⟨_, _, rfl⟩ := (postAdjustment_posted hcall).frame
  exact ⟨rfl, rfl⟩

theorem postAccepted_receives {received : ReceiptLine} {ids : PostingIds}
    (hcall : postAccepted service received ids store = .ok next) (h : NonnegativeStock store) :
    next.items = store.items ∧ next.receiptLines = store.receiptLines ∧ NonnegativeStock next ∧
      ∀ position, next.stockAt position =
        receiveAt service store position received (store.stockAt position) := by
  unfold postAccepted at hcall
  split at hcall
  next haccepted =>
    obtain ⟨hitems, hlines⟩ := postAdjustment_receiptLines hcall
    obtain ⟨_, hbooks⟩ := (postAdjustment_posted hcall).books h
    obtain ⟨-, hstock⟩ := postAdjustment_receives h (by decide) hcall
    refine ⟨hitems, hlines, hbooks.nonneg, ?_⟩
    intro position
    rw [hstock, receiveAt]
    simp only [haccepted, and_true]
  next hrejected =>
    cases hcall
    refine ⟨rfl, rfl, h, ?_⟩
    intro position
    rw [receiveAt, if_neg (fun hboth => hrejected hboth.2)]

theorem receiveLine_receives {receipt : ReceiptHeader} {index : ℕ} {payload : ReceiptPayload}
    (hcall : receiveLine service receipt index payload store = .ok next)
    (h : NonnegativeStock store) :
    ∃ line, Receives service store next [line] := by
  obtain ⟨⟨line, item, received⟩, -, hcall⟩ := bind_ok hcall
  obtain ⟨inserted, hinserted, hcall⟩ := bind_ok hcall
  obtain ⟨posted, hposted, honOrder⟩ := bind_ok hcall
  obtain ⟨_, hfresh, hinserted⟩ := bind_ok hinserted
  cases hinserted
  obtain ⟨hitems, hlines, hnonneg, hstock⟩ := postAccepted_receives hposted h
  have hadjusted := adjustOnOrderBalance_ok honOrder
  have hsame := hadjusted.sameStockValue
  obtain ⟨balances, rfl⟩ := hadjusted.frame
  refine ⟨received, hitems, ?_, hsame.nonneg hnonneg, ?_⟩
  · change posted.receiptLines.rows = _
    rw [hlines]
    exact Table.rows_insert (ensure_eq_ok.mp hfresh)
  · intro position
    rw [hsame.stock, hstock]
    rfl

theorem receiveLines_receives {receipt : ReceiptHeader} (payloads : List ReceiptPayload)
    {index : ℕ} (hcall : receiveLines service receipt index payloads store = .ok next)
    (h : NonnegativeStock store) :
    ∃ lines, Receives service store next lines := by
  induction payloads generalizing index store with
  | nil =>
      cases hcall
      exact ⟨[], rfl, rfl, h, fun _ => rfl⟩
  | cons payload rest ih =>
      obtain ⟨current, hcurrent, hcall⟩ := bind_ok hcall
      obtain ⟨line, hline⟩ := receiveLine_receives hcurrent h
      obtain ⟨lines, hlines⟩ := ih hcall hline.nonneg
      exact ⟨_, hline.trans hlines⟩

theorem postReceipt_receives {arguments : ReceiptArguments} (h : NonnegativeStock store)
    (hcall : (postReceipt service arguments).effect store = .ok next) :
    ∃ lines, Receives service store next lines := by
  obtain ⟨plan, -, hcall⟩ := GuardedCall.effect_eq_ok.mp hcall
  obtain ⟨inserted, hinserted, hcall⟩ := bind_ok hcall
  obtain ⟨received, hreceived, hcall⟩ := bind_ok hcall
  cases hcall
  obtain ⟨_, -, hinserted⟩ := bind_ok hinserted
  cases hinserted
  obtain ⟨lines, hlines⟩ := receiveLines_receives arguments.receiptLines hreceived h
  exact ⟨lines, hlines.items, hlines.receiptLines, hlines.nonneg, hlines.stock⟩

end

theorem StockCall.effect_books {service : InventoryService} {call : StockCall}
    {store next : InventoryStore} (hcall : (call.guarded service).effect store = .ok next)
    (h : NonnegativeStock store) : ∃ posted, Books store next posted := by
  cases call with
  | postOpeningBalance => exact (postOpeningBalance_posted hcall).books h
  | postAdjustment => exact (postAdjustment_posted hcall).books h
  | holdReservation => exact (holdReservation_posted hcall).books h
  | releaseHold => exact (releaseReservation_posted hcall).books h
  | issueStock => exact (issueStock_posted hcall).books h
  | returnStock => exact (returnStock_posted hcall).books h
  | transferStock => exact (transferStock_booked hcall).books h
  | createReservation =>
      obtain ⟨reservation, _, -, -, rfl, hposted⟩ := createReservation_ok hcall
      have hinserted := books_reservations store (store.reservations.insert reservation) h
      obtain ⟨posted, hnext⟩ := hposted.books hinserted.nonneg
      exact ⟨_, hinserted.trans hnext⟩
  | issueReservedStock =>
      obtain ⟨_, _, htakes⟩ := issueReservedStock_ok hcall
      exact htakes.books h
  | releaseReservation =>
      obtain ⟨_, _, htakes⟩ := closeReservation_ok (by decide) hcall
      exact htakes.books h
  | cancelReservation =>
      obtain ⟨_, _, htakes⟩ := closeReservation_ok (by decide) hcall
      exact htakes.books h
  | postReceipt => exact (postReceipt_booked hcall).books h

/-! ## Runs -/

/-- The transactions that a call has posted, the newest first. -/
def postedSince (store next : InventoryStore) : List StockTransaction :=
  next.transactions.rows.take (next.transactions.rows.length - store.transactions.rows.length)

theorem Books.postedSince_eq {store next : InventoryStore} {posted : List StockTransaction}
    (h : Books store next posted) : postedSince store next = posted := by
  rw [postedSince, h.transactions, List.length_append, Nat.add_sub_cancel]
  exact List.take_left

/-- Accepted calls on stock, made by any users, with the unit costs that each brings in at each
position. In between anything may happen that posts nothing and leaves the stock of every
position alone: items and their units, orders and what is on order may change. -/
inductive StockRun (start : InventoryStore) :
    InventoryStore → (StockPosition → List ℚ) → Prop
  | start : StockRun start start fun _ => []
  | call {current next : InventoryStore} {entered : StockPosition → List ℚ}
      (service : InventoryService) (call : StockCall) (hrun : StockRun start current entered)
      (hcall : (call.guarded service).effect current = .ok next) :
      StockRun start next fun position =>
        enteredCosts current position (postedSince current next) ++ entered position
  | other {current next : InventoryStore} {entered : StockPosition → List ℚ}
      (hrun : StockRun start current entered) (hsame : SameStockValue current next) :
      StockRun start next entered

/-- Whatever a run does, the stock of a position lies within the costs that came in. -/
theorem StockRun.within {start last : InventoryStore} {entered : StockPosition → List ℚ}
    (hstart : start.balances.rows = []) (hrun : StockRun start last entered) :
    NonnegativeStock last ∧ ∀ position, (last.stockAt position).Within (entered position) := by
  induction hrun with
  | start =>
      have hempty : ∀ position, start.balanceAt position = createBalance "" position "" := by
        intro position
        rw [InventoryStore.balanceAt, Table.get?, hstart]
        rfl
      constructor
      · intro position
        rw [hempty]
        exact le_rfl
      · intro position
        rw [InventoryStore.stockAt, hempty]
        exact Stock.within_empty
  | call service call _ hcall ih =>
      obtain ⟨hnonneg, hwithin⟩ := ih
      obtain ⟨posted, hbooks⟩ := call.effect_books hcall hnonneg
      refine ⟨hbooks.nonneg, ?_⟩
      intro position
      rw [hbooks.postedSince_eq]
      exact hbooks.within position _ (hwithin position)
  | other _ hsame ih =>
      obtain ⟨hnonneg, hwithin⟩ := ih
      refine ⟨hsame.nonneg hnonneg, ?_⟩
      intro position
      rw [hsame.stock]
      exact hwithin position

/-- What accepted calls do to quantities, worth and average costs. -/
structure KeepsStockValue (store : InventoryStore) : Prop where
  /-- Both sides of a transfer together hold as much as before, and it is worth as much. -/
  transfer : ∀ (service : InventoryService) (arguments : TransferArguments) (next : InventoryStore),
    (transferStock service arguments).effect store = .ok next →
      let source := service.position arguments.stockItemId arguments.sourceStoreroomId
      let destination := service.position arguments.stockItemId arguments.destinationStoreroomId
      (next.balanceAt source).onHandQty + (next.balanceAt destination).onHandQty =
          (store.balanceAt source).onHandQty + (store.balanceAt destination).onHandQty ∧
        (next.balanceAt source).onHandQty * (next.balanceAt source).averageCost +
            (next.balanceAt destination).onHandQty * (next.balanceAt destination).averageCost =
          (store.balanceAt source).onHandQty * (store.balanceAt source).averageCost +
            (store.balanceAt destination).onHandQty * (store.balanceAt destination).averageCost
  issue : ∀ (service : InventoryService) (arguments : StockArguments) (unitCost : Option ℚ)
    (releaseReservedQty : ℚ) (next : InventoryStore),
    (issueStock service arguments unitCost releaseReservedQty).effect store = .ok next →
      ∀ position, (next.balanceAt position).averageCost = (store.balanceAt position).averageCost
  issueReserved : ∀ (service : InventoryService) (reservationId note : String) (quantity : ℚ)
    (ids : PostingIds) (next : InventoryStore),
    (ReservationService.issueReservedStock service reservationId quantity note ids).effect store =
      .ok next →
      ∀ position, (next.balanceAt position).averageCost = (store.balanceAt position).averageCost
  /-- An increase sets the average of its position to that of both quantities. -/
  increase : ∀ (service : InventoryService) (arguments : StockArguments) (direction : String)
    (unitCost : ℚ) (next : InventoryStore), upper (strip direction) = "INCREASE" →
    (postAdjustment service arguments direction unitCost).effect store = .ok next →
      let position := service.position arguments.stockItemId arguments.storeroomId
      let quantity := quantityInStock store arguments.stockItemId arguments.quantity arguments.uom
      let cost := unitCostInStock store arguments.stockItemId unitCost arguments.uom
      let old := store.balanceAt position
      0 < quantity ∧ (next.balanceAt position).onHandQty = old.onHandQty + quantity ∧
        (next.balanceAt position).averageCost =
          (old.onHandQty * old.averageCost + quantity * cost) / (old.onHandQty + quantity)
  /-- A receipt averages in what its lines accept, one line after another. -/
  receipt : ∀ (service : InventoryService) (arguments : ReceiptArguments) (next : InventoryStore),
    (postReceipt service arguments).effect store = .ok next →
      ∃ lines, next.receiptLines.rows = lines ++ store.receiptLines.rows ∧
        ∀ position, next.stockAt position =
          lines.foldr (receiveAt service store position) (store.stockAt position)

theorem keepsStockValue_of_nonneg {store : InventoryStore} (h : NonnegativeStock store) :
    KeepsStockValue store where
  transfer service arguments next hcall := transferStock_conserves h hcall
  issue service arguments unitCost releaseReservedQty next hcall :=
    issueStock_averageCost h hcall
  issueReserved service reservationId note quantity ids next hcall :=
    issueReservedStock_averageCost h hcall
  increase service arguments direction unitCost next hdirection hcall := by
    intro position quantity cost old
    obtain ⟨hpos, hstock⟩ := postAdjustment_receives h hdirection hcall
    have hreceived := hstock position
    rw [if_pos rfl] at hreceived
    exact ⟨hpos, congrArg Stock.quantity hreceived, congrArg Stock.unitCost hreceived⟩
  receipt service arguments next hcall := by
    obtain ⟨lines, hlines⟩ := postReceipt_receives h hcall
    exact ⟨lines, hlines.receiptLines, hlines.stock⟩

/-- In every state that a run reaches from an empty stock, calls keep quantities, worth and
averages as they should, and the average cost of a balance lies between the smallest and the
largest unit cost that came in. -/
theorem stockRun_keepsValue {start last : InventoryStore} {entered : StockPosition → List ℚ}
    (hstart : start.balances.rows = []) (hrun : StockRun start last entered) :
    KeepsStockValue last ∧ ∀ balance ∈ last.balances.rows, entered balance.position ≠ [] →
      ∃ low ∈ entered balance.position, ∃ high ∈ entered balance.position,
        low ≤ balance.averageCost ∧ balance.averageCost ≤ high := by
  obtain ⟨hnonneg, hwithin⟩ := hrun.within hstart
  refine ⟨keepsStockValue_of_nonneg hnonneg, ?_⟩
  intro balance hbalance hentered
  have hat : last.balanceAt balance.position = balance := by
    rw [InventoryStore.balanceAt, last.balances.get?_of_mem hbalance, Option.getD_some]
  have hbetween := (hwithin balance.position).between hentered
  rw [InventoryStore.stockAt, hat] at hbetween
  exact hbetween

/-! ## Bolts at two prices -/

/-- Two boxes at 30 each. -/
def openingBolts : StockCall := .postOpeningBalance (boltArguments 2 "BOX" "1") 30

def dearerBolts : StockCall := .postAdjustment (boltArguments 10 "EA" "2") "increase" 6

def boltsOpened : InventoryStore :=
  ((openingBolts.guarded inventoryAdmin).effect boltStore).toOption.getD boltStore

def boltsAveraged : InventoryStore :=
  ((dearerBolts.guarded inventoryAdmin).effect boltsOpened).toOption.getD boltStore

/-- Six of them go to another storeroom. -/
def movedBolts : StockCall :=
  .transferStock
    { stockItemId := "bolt", sourceStoreroomId := "main", destinationStoreroomId := "spare"
      quantity := 6, transferReference := "T1", outboundIds := boltIds "3"
      inboundIds := boltIds "4" }

def boltsMoved : InventoryStore :=
  ((movedBolts.guarded inventoryAdmin).effect boltsAveraged).toOption.getD boltStore

theorem stockRun_keepsValue_bolts :
    ∃ entered, StockRun boltStore boltsMoved entered ∧
      entered ⟨"org", "bolt", "main"⟩ = [6, 3] ∧ entered ⟨"org", "bolt", "spare"⟩ = [4] ∧
      (boltsMoved.balanceAt ⟨"org", "bolt", "main"⟩).onHandQty = 24 ∧
      (boltsMoved.balanceAt ⟨"org", "bolt", "spare"⟩).averageCost = 4 ∧
      KeepsStockValue boltsMoved ∧
      ∀ balance ∈ boltsMoved.balances.rows, entered balance.position ≠ [] →
        ∃ low ∈ entered balance.position, ∃ high ∈ entered balance.position,
          low ≤ balance.averageCost ∧ balance.averageCost ≤ high := by
  have hopened : (openingBolts.guarded inventoryAdmin).effect boltStore = .ok boltsOpened :=
    eq_ok_getD (by decide +kernel) boltStore
  have haveraged : (dearerBolts.guarded inventoryAdmin).effect boltsOpened = .ok boltsAveraged :=
    eq_ok_getD (by decide +kernel) boltStore
  have hmoved : (movedBolts.guarded inventoryAdmin).effect boltsAveraged = .ok boltsMoved :=
    eq_ok_getD (by decide +kernel) boltStore
  have hrun := ((StockRun.start.call inventoryAdmin openingBolts hopened).call inventoryAdmin
    dearerBolts haveraged).call inventoryAdmin movedBolts hmoved
  exact ⟨_, hrun, by decide +kernel, by decide +kernel, by decide +kernel, by decide +kernel,
    stockRun_keepsValue rfl hrun⟩

end ProjectManager
