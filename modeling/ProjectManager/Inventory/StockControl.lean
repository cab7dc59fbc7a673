import ProjectManager.Inventory.Support

/-! # Stock control

Three routines prepare a posting: the new balance of a position and the
transaction that explains it. Writing a posting upserts the one and inserts the
other. The public operations commit; used within another operation, they are
the effect of the same call.
-/

namespace ProjectManager

open Foundation

section

variable (service : InventoryService) (store : InventoryStore)

/-! ## Lookups -/

def activeOrganization : Except DomainError String :=
  require service.activeOrganization
    (notFoundError "Active organization not found." "ORGANIZATION_NOT_FOUND")

def getItemForInternalUse (itemId : String) : Except DomainError StockItem := do
  let organizationId ← activeOrganization service
  require ((store.items.get? itemId).filter fun item => item.organizationId = organizationId)
    (notFoundError "Inventory item not found in the active organization."
      "INVENTORY_ITEM_NOT_FOUND")

def getItem (itemId : String) : Except DomainError StockItem := do
  service.requireRead "view inventory item"
  getItemForInternalUse service store itemId

def getStoreroom (storeroomId : String) : Except DomainError Storeroom := do
  service.requireRead "view storeroom"
  let organizationId ← activeOrganization service
  let storeroom ← require
    ((store.storerooms.get? storeroomId).filter fun row => row.organizationId = organizationId)
    (notFoundError "Storeroom not found in the active organization."
      "INVENTORY_STOREROOM_NOT_FOUND")
  service.userSession.requireScopePermission "storeroom" storeroom.id "inventory.read"
    "view storeroom"
  return storeroom

def validateStockItem (stockItemId : String) : Except DomainError StockItem := do
  let item ← getItem service store stockItemId
  ensure (item.isActive = true) (validationError
    "Stock item must be active before transactions can be posted." "INVENTORY_ITEM_INACTIVE")
  ensure (item.isStocked = true) (validationError
    "Non-stocked items cannot receive stock transactions." "INVENTORY_ITEM_NOT_STOCKED")
  return item

def validateStoreroom (storeroomId : String) : Except DomainError Storeroom := do
  let storeroom ← getStoreroom service store storeroomId
  ensure (storeroom.isActive = true) (validationError
    "Storeroom must be active before transactions can be posted." "INVENTORY_STOREROOM_INACTIVE")
  return storeroom

def ensureSameScope (item : StockItem) (storeroom : Storeroom) (organizationId : String) :
    Except DomainError Unit :=
  ensure (item.organizationId = organizationId ∧ storeroom.organizationId = organizationId)
    (validationError "Stock transaction references must stay inside the active organization."
      "INVENTORY_SCOPE_INVALID")

end

/-! ## Postings -/

structure PostingIds where
  balanceId : String
  transactionId : String
  transactionNumber : String
  deriving DecidableEq

/-- What the posting routines are told. -/
structure PostingArguments where
  organizationId : String
  item : StockItem
  storeroom : Storeroom
  transactionType : StockTransactionType
  quantity : ℚ
  uom : Option String := none
  referenceType : String := ""
  referenceId : String := ""
  notes : String := ""
  ids : PostingIds

def PostingArguments.position (arguments : PostingArguments) : StockPosition :=
  ⟨arguments.organizationId, arguments.item.id, arguments.storeroom.id⟩

/-- A balance to store and the transaction that leads to it. -/
structure StockPosting where
  balance : StockBalance
  isNewBalance : Bool
  transaction : StockTransaction

/-- Add or update a balance. -/
def storeBalance (store : InventoryStore) (isNewBalance : Bool) (balance : StockBalance) :
    InventoryStore :=
  { store with
    balances :=
      if isNewBalance then store.balances.insert balance else store.balances.update balance }

def StockPosting.write (posting : StockPosting) (store : InventoryStore) :
    Except DomainError InventoryStore := do
  ensure (posting.transaction.id ∉ store.transactions.ids ∧
      (∀ other ∈ store.transactions.rows,
        other.organizationId = posting.transaction.organizationId →
          other.transactionNumber ≠ posting.transaction.transactionNumber) ∧
      (posting.isNewBalance = true → ∀ other ∈ store.balances.rows, other.id ≠ posting.balance.id))
    (validationError "Stock transaction number already exists." "INVENTORY_TRANSACTION_EXISTS")
  return { storeBalance store posting.isNewBalance posting.balance with
    transactions := store.transactions.insert posting.transaction }

def createBalance (id : String) (position : StockPosition) (uom : String) : StockBalance where
  id := id
  organizationId := position.organizationId
  stockItemId := position.stockItemId
  storeroomId := position.storeroomId
  uom := uom

def createTransaction (service : InventoryService) (arguments : PostingArguments)
    (quantity : ℚ) (uom : String) (unitCost : ℚ) (balance : StockBalance) : StockTransaction where
  id := arguments.ids.transactionId
  organizationId := arguments.organizationId
  transactionNumber := arguments.ids.transactionNumber
  stockItemId := arguments.item.id
  storeroomId := arguments.storeroom.id
  transactionType := arguments.transactionType
  quantity := quantity
  uom := uom
  unitCost := unitCost
  referenceType := strip arguments.referenceType
  referenceId := strip arguments.referenceId
  performedByUserId := service.userId
  performedByUsername := service.username
  resultingOnHandQty := balance.onHandQty
  resultingAvailableQty := balance.availableQty
  notes := strip arguments.notes

def reorderRequired (item : StockItem) (availableQty : ℚ) : Bool :=
  item.reorderPoint ≠ 0 ∧ availableQty ≤ item.reorderPoint

def resolveAverageCost (balance : StockBalance) (previousOnHand delta quantity unitCost : ℚ) : ℚ :=
  if delta ≤ 0 then balance.averageCost
  else if previousOnHand ≤ 0 then unitCost
  else if balance.onHandQty ≤ 0 then unitCost
  else (previousOnHand * balance.averageCost + quantity * unitCost) / balance.onHandQty

def resolveQuantityDelta (transactionType : StockTransactionType) (quantity : ℚ) : ℚ :=
  if transactionType ∈ [StockTransactionType.openingBalance, .adjustmentIncrease, .return,
      .transferIn] then quantity
  else -quantity

def ensureNonnegativeAvailable (condition : Prop) [Decidable condition] (subject : String) :
    Except DomainError Unit :=
  ensure condition (validationError (subject ++ " would make available quantity negative.")
    "INVENTORY_NEGATIVE_AVAILABLE")

section

variable (service : InventoryService) (store : InventoryStore) (arguments : PostingArguments)

/-- `_post_transaction`: opening balances and adjustments. -/
def postTransaction (unitCost : ℚ) : Except DomainError StockPosting := do
  let item := arguments.item
  let normalizedQuantity ← normalizePositiveQuantity arguments.quantity "Transaction quantity"
  let normalizedUom ← normalizeUom (givenUom arguments.uom item) "Transaction UOM"
  let stockQuantity ← convertItemQuantity item normalizedQuantity normalizedUom item.stockUom
    "Transaction UOM"
  let normalizedUnitCost ← normalizeNonnegativeQuantity unitCost "Unit cost"
  let stockUnitCost ← convertItemUnitCostToStock item normalizedUnitCost normalizedUom "Unit cost"
  let existing := store.balances.get? arguments.position
  let balance := existing.getD
    (createBalance arguments.ids.balanceId arguments.position item.stockUom)
  let delta := resolveQuantityDelta arguments.transactionType stockQuantity
  let newOnHand := balance.onHandQty + delta
  ensure (0 ≤ newOnHand) (validationError "Transaction would make on-hand quantity negative."
    "INVENTORY_NEGATIVE_ON_HAND")
  ensureNonnegativeAvailable (balance.reservedQty ≤ newOnHand) "Transaction"
  let available := max 0 (newOnHand - balance.reservedQty)
  let posted := { balance with
    onHandQty := newOnHand
    availableQty := available
    uom := item.stockUom
    averageCost := resolveAverageCost { balance with onHandQty := newOnHand } balance.onHandQty
      delta stockQuantity stockUnitCost
    reorderRequired := reorderRequired item available }
  return {
    balance := posted
    isNewBalance := existing.isNone
    transaction := createTransaction service arguments normalizedQuantity normalizedUom
      normalizedUnitCost posted }

/-- `_post_reservation_transaction`: holds and releases. -/
def postReservationTransaction : Except DomainError StockPosting := do
  let item := arguments.item
  let normalizedQuantity ← normalizePositiveQuantity arguments.quantity "Reservation quantity"
  let normalizedUom ← normalizeUom (givenUom arguments.uom item) "Reservation UOM"
  let stockQuantity ← convertItemQuantity item normalizedQuantity normalizedUom item.stockUom
    "Reservation UOM"
  let balance ← require (store.balances.get? arguments.position) (validationError
    "Stock reservation requires an existing stock balance with available quantity."
    "INVENTORY_STOCK_BALANCE_REQUIRED")
  let delta := if arguments.transactionType = .reservationHold then stockQuantity
    else -stockQuantity
  let newReserved := balance.reservedQty + delta
  ensure (0 ≤ newReserved) (validationError
    "Reservation release would make reserved quantity negative." "INVENTORY_NEGATIVE_RESERVED")
  let newAvailable := balance.onHandQty - newReserved
  ensureNonnegativeAvailable (0 ≤ newAvailable) "Reservation"
  let posted := { balance with
    reservedQty := newReserved
    availableQty := newAvailable
    uom := item.stockUom
    reorderRequired := reorderRequired item newAvailable }
  return {
    balance := posted
    isNewBalance := false
    transaction := createTransaction service arguments normalizedQuantity normalizedUom 0 posted }

/-- The cost of a unit moved and of a stock unit: a movement without a cost goes at the
average. -/
def movementUnitCosts (item : StockItem) (balance : StockBalance) (normalizedUom : String)
    (unitCost : Option ℚ) : Except DomainError (ℚ × ℚ) :=
  match unitCost with
  | none => do
      let factor ← resolveItemUomFactor item normalizedUom "Movement UOM"
      return (balance.averageCost * factor, balance.averageCost)
  | some given => do
      let effective ← normalizeNonnegativeQuantity given "Unit cost"
      let stockUnitCost ← convertItemUnitCostToStock item effective normalizedUom "Unit cost"
      return (effective, stockUnitCost)

/-- `_post_movement_transaction`: issues, returns and both sides of a transfer. -/
def postMovementTransaction (unitCost : Option ℚ) (releaseReservedQty : ℚ) :
    Except DomainError StockPosting := do
  let item := arguments.item
  let normalizedQuantity ← normalizePositiveQuantity arguments.quantity "Movement quantity"
  let normalizedReservedRelease ← normalizeNonnegativeQuantity releaseReservedQty
    "Reserved release quantity"
  let normalizedUom ← normalizeUom (givenUom arguments.uom item) "Movement UOM"
  let movementStockQuantity ← convertItemQuantity item normalizedQuantity normalizedUom
    item.stockUom "Movement UOM"
  let reservedReleaseStockQuantity ← convertItemQuantity item normalizedReservedRelease
    normalizedUom item.stockUom "Movement UOM"
  ensure (reservedReleaseStockQuantity ≤ movementStockQuantity) (validationError
    "Reserved release quantity cannot exceed issued quantity." "INVENTORY_RESERVED_RELEASE_INVALID")
  let incoming := arguments.transactionType ∈ [StockTransactionType.return, .transferIn]
  let existing := store.balances.get? arguments.position
  ensure (existing.isSome = true ∨ incoming) (validationError
    "Stock movement requires an existing stock balance." "INVENTORY_STOCK_BALANCE_REQUIRED")
  let balance := existing.getD
    (createBalance arguments.ids.balanceId arguments.position item.stockUom)
  let onHandDelta := if incoming then movementStockQuantity else -movementStockQuantity
  let newOnHand := balance.onHandQty + onHandDelta
  let newReserved := balance.reservedQty + -reservedReleaseStockQuantity
  ensure (0 ≤ newOnHand) (validationError "Movement would make on-hand quantity negative."
    "INVENTORY_NEGATIVE_ON_HAND")
  ensure (0 ≤ newReserved) (validationError "Movement would make reserved quantity negative."
    "INVENTORY_NEGATIVE_RESERVED")
  let newAvailable := newOnHand - newReserved
  ensureNonnegativeAvailable (0 ≤ newAvailable) "Movement"
  let (effectiveUnitCost, stockUnitCost) ← movementUnitCosts item balance normalizedUom unitCost
  let posted := { balance with
    onHandQty := newOnHand
    reservedQty := newReserved
    availableQty := newAvailable
    uom := item.stockUom
    averageCost :=
      if 0 < onHandDelta then
        resolveAverageCost { balance with onHandQty := newOnHand } balance.onHandQty onHandDelta
          movementStockQuantity stockUnitCost
      else balance.averageCost
    reorderRequired := reorderRequired item newAvailable }
  return {
    balance := posted
    isNewBalance := existing.isNone
    transaction := createTransaction service arguments normalizedQuantity normalizedUom
      effectiveUnitCost posted }

end

/-! ## Public operations -/

namespace StockControlService

/-- The organization, item and storeroom that an operation works on. -/
structure StockScope where
  organizationId : String
  item : StockItem
  storeroom : Storeroom

/-- What the operations are given; a missing reference type takes the default of the operation. -/
structure StockArguments where
  stockItemId : String
  storeroomId : String
  quantity : ℚ
  uom : Option String := none
  referenceType : Option String := none
  referenceId : String := ""
  notes : String := ""
  ids : PostingIds

def StockArguments.postingArguments (arguments : StockArguments) (scope : StockScope)
    (transactionType : StockTransactionType) (defaultReferenceType : String) :
    PostingArguments where
  organizationId := scope.organizationId
  item := scope.item
  storeroom := scope.storeroom
  transactionType := transactionType
  quantity := arguments.quantity
  uom := arguments.uom
  referenceType := arguments.referenceType.getD defaultReferenceType
  referenceId := arguments.referenceId
  notes := arguments.notes
  ids := arguments.ids

def resolveStockScope (service : InventoryService) (store : InventoryStore)
    (operationLabel stockItemId storeroomId : String) : Except DomainError StockScope := do
  service.requireManage operationLabel
  let organizationId ← activeOrganization service
  let item ← validateStockItem service store stockItemId
  let storeroom ← validateStoreroom service store storeroomId
  ensureSameScope item storeroom organizationId
  return ⟨organizationId, item, storeroom⟩

/-- Prepare a posting, then write it and commit. -/
def postingCall (prepare : InventoryStore → Except DomainError StockPosting) :
    GuardedCall DomainError InventoryStore where
  Plan := StockPosting
  checks := prepare
  body := StockPosting.write

section

variable (service : InventoryService) (arguments : StockArguments)

def postOpeningBalance (unitCost : ℚ) : GuardedCall DomainError InventoryStore :=
  postingCall fun store => do
    let scope ← resolveStockScope service store "post opening balance" arguments.stockItemId
      arguments.storeroomId
    ensure (∀ transaction ∈ store.transactions.rows, transaction.position ≠
        ⟨scope.organizationId, scope.item.id, scope.storeroom.id⟩)
      (validationError "Opening balance has already been posted for this stock position."
        "INVENTORY_OPENING_BALANCE_EXISTS")
    postTransaction service store
      { arguments.postingArguments scope .openingBalance "opening_balance" with
        referenceType := "opening_balance"
        referenceId := "" }
      unitCost

def adjustmentType (normalizedDirection : String) : StockTransactionType :=
  if normalizedDirection = "INCREASE" then .adjustmentIncrease else .adjustmentDecrease

def postAdjustment (direction : String) (unitCost : ℚ) : GuardedCall DomainError InventoryStore :=
  postingCall fun store => do
    let scope ← resolveStockScope service store "post stock adjustment" arguments.stockItemId
      arguments.storeroomId
    let normalizedDirection := upper (strip direction)
    ensure (normalizedDirection ∈ ["INCREASE", "DECREASE"])
      (validationError "Adjustment direction is invalid." "INVENTORY_ADJUSTMENT_DIRECTION_INVALID")
    postTransaction service store
      (arguments.postingArguments scope (adjustmentType normalizedDirection) "adjustment") unitCost

def holdReservation : GuardedCall DomainError InventoryStore :=
  postingCall fun store => do
    let scope ← resolveStockScope service store "hold stock reservation" arguments.stockItemId
      arguments.storeroomId
    postReservationTransaction service store
      (arguments.postingArguments scope .reservationHold "inventory_reservation")

def releaseReservation : GuardedCall DomainError InventoryStore :=
  postingCall fun store => do
    let scope ← resolveStockScope service store "release stock reservation" arguments.stockItemId
      arguments.storeroomId
    postReservationTransaction service store
      (arguments.postingArguments scope .reservationRelease "inventory_reservation")

def issueStock (unitCost : Option ℚ) (releaseReservedQty : ℚ) :
    GuardedCall DomainError InventoryStore :=
  postingCall fun store => do
    let scope ← resolveStockScope service store "issue stock" arguments.stockItemId
      arguments.storeroomId
    ensure (scope.storeroom.allowsIssue = true)
      (validationError "Selected storeroom does not allow issues." "INVENTORY_ISSUE_FORBIDDEN")
    ensure (¬ (scope.storeroom.requiresReservationForIssue = true ∧ releaseReservedQty ≤ 0))
      (validationError "Selected storeroom requires a linked reservation release for issues."
        "INVENTORY_ISSUE_RESERVATION_REQUIRED")
    postMovementTransaction service store (arguments.postingArguments scope .issue "issue")
      unitCost releaseReservedQty

def returnStock (unitCost : Option ℚ) : GuardedCall DomainError InventoryStore :=
  postingCall fun store => do
    let scope ← resolveStockScope service store "return stock" arguments.stockItemId
      arguments.storeroomId
    postMovementTransaction service store (arguments.postingArguments scope .return "return")
      unitCost 0

end

/-- What a transfer is given, with the generated ids of its two postings. -/
structure TransferArguments where
  stockItemId : String
  sourceStoreroomId : String
  destinationStoreroomId : String
  quantity : ℚ
  uom : Option String := none
  notes : String := ""
  transferReference : String
  outboundIds : PostingIds
  inboundIds : PostingIds

structure TransferScope where
  organizationId : String
  item : StockItem
  source : Storeroom
  destination : Storeroom

def TransferArguments.postingArguments (arguments : TransferArguments) (scope : TransferScope)
    (storeroom : Storeroom) (transactionType : StockTransactionType) (ids : PostingIds) :
    PostingArguments where
  organizationId := scope.organizationId
  item := scope.item
  storeroom := storeroom
  transactionType := transactionType
  quantity := arguments.quantity
  uom := arguments.uom
  referenceType := "stock_transfer"
  referenceId := arguments.transferReference
  notes := arguments.notes
  ids := ids

def transferStock (service : InventoryService) (arguments : TransferArguments) :
    GuardedCall DomainError InventoryStore where
  Plan := TransferScope
  checks store := do
    service.requireManage "transfer stock"
    let organizationId ← activeOrganization service
    let item ← validateStockItem service store arguments.stockItemId
    let source ← validateStoreroom service store arguments.sourceStoreroomId
    let destination ← validateStoreroom service store arguments.destinationStoreroomId
    ensureSameScope item source organizationId
    ensureSameScope item destination organizationId
    ensure (source.id ≠ destination.id)
      (validationError "Source and destination storerooms must be different."
        "INVENTORY_TRANSFER_STOREROOM_DUPLICATE")
    ensure (source.allowsTransfer = true ∧ destination.allowsTransfer = true)
      (validationError "Both storerooms must allow transfers." "INVENTORY_TRANSFER_FORBIDDEN")
    return ⟨organizationId, item, source, destination⟩
  body scope store := do
    let outbound ← postMovementTransaction service store
      (arguments.postingArguments scope scope.source .transferOut arguments.outboundIds) none 0
    let moved ← outbound.write store
    -- The inbound side costs what the outbound side did.
    let inbound ← postMovementTransaction service moved
      (arguments.postingArguments scope scope.destination .transferIn arguments.inboundIds)
      (some outbound.transaction.unitCost) 0
    inbound.write moved

end StockControlService

end ProjectManager
