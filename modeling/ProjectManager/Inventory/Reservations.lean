import ProjectManager.Inventory.StockControl

/-! # Reservations

A reservation holds stock of a position when it is created, and gives it back
when it is issued, released or cancelled. After its commit a call only repeats
reads whose checks it has passed.
-/

namespace ProjectManager

open Foundation

/-- The reservation still claims stock. -/
def StockReservation.IsOpen (reservation : StockReservation) : Prop :=
  reservation.status ∈ [StockReservationStatus.active, .partiallyIssued]

instance (reservation : StockReservation) : Decidable reservation.IsOpen :=
  inferInstanceAs (Decidable (_ ∈ _))

namespace ReservationService

open StockControlService

structure CreateArguments where
  stockItemId : String
  storeroomId : String
  reservedQty : ℚ
  uom : Option String := none
  needByDate : Option Date := none
  sourceReferenceType : String
  sourceReferenceId : String
  notes : String := ""
  reservationId : String
  reservationNumber : String
  ids : PostingIds

section

variable (service : InventoryService)

def getReservation (store : InventoryStore) (reservationId : String) :
    Except DomainError StockReservation := do
  service.requireRead "view stock reservation"
  let organizationId ← activeOrganization service
  require ((store.reservations.get? reservationId).filter fun row =>
      row.organizationId = organizationId)
    (notFoundError "Stock reservation not found in the active organization."
      "INVENTORY_RESERVATION_NOT_FOUND")

/-- The checks of a new reservation, and its row. -/
def prepareReservation (arguments : CreateArguments) (store : InventoryStore) :
    Except DomainError StockReservation := do
  service.requireManage "create stock reservation"
  let organizationId ← activeOrganization service
  let item ← getItem service store arguments.stockItemId
  let storeroom ← getStoreroom service store arguments.storeroomId
  ensure (item.organizationId = organizationId ∧ storeroom.organizationId = organizationId)
    (validationError "Reservation references must stay inside the active organization."
      "INVENTORY_SCOPE_INVALID")
  ensure (item.isActive = true ∧ item.isStocked = true)
    (validationError "Reservation item must be an active stocked item."
      "INVENTORY_ITEM_NOT_STOCKED")
  ensure (storeroom.isActive = true)
    (validationError "Reservation storeroom must be active." "INVENTORY_STOREROOM_INACTIVE")
  let sourceType ← normalizeSourceReferenceType arguments.sourceReferenceType
  let sourceId := strip arguments.sourceReferenceId
  ensure (sourceType ≠ "" ∧ sourceId ≠ "")
    (validationError "Stock reservation requires source reference type and ID."
      "INVENTORY_RESERVATION_SOURCE_REQUIRED")
  let quantity ← normalizePositiveQuantity arguments.reservedQty "Reservation quantity"
  let uom ← normalizeUom (givenUom arguments.uom item) "Reservation UOM"
  let _ ← resolveItemUomFactor item uom "Reservation UOM"
  return {
    id := arguments.reservationId
    organizationId := organizationId
    reservationNumber := arguments.reservationNumber
    stockItemId := item.id
    storeroomId := storeroom.id
    reservedQty := quantity
    remainingQty := quantity
    uom := uom
    needByDate := arguments.needByDate
    sourceReferenceType := sourceType
    sourceReferenceId := sourceId
    requestedByUserId := service.userId
    requestedByUsername := service.username
    notes := strip arguments.notes }

def insertReservation (store : InventoryStore) (reservation : StockReservation) :
    Except DomainError InventoryStore := do
  ensure (reservation.id ∉ store.reservations.ids ∧ ∀ other ∈ store.reservations.rows,
      other.organizationId = reservation.organizationId →
        other.reservationNumber ≠ reservation.reservationNumber)
    (validationError "Reservation number already exists." "INVENTORY_RESERVATION_NUMBER_EXISTS")
  return { store with reservations := store.reservations.insert reservation }

/-- What a reservation asks of stock control. -/
def stockArguments (reservation : StockReservation) (quantity : ℚ) (notes : String)
    (ids : PostingIds) : StockArguments where
  stockItemId := reservation.stockItemId
  storeroomId := reservation.storeroomId
  quantity := quantity
  uom := some reservation.uom
  referenceType := some "inventory_reservation"
  referenceId := reservation.id
  notes := notes
  ids := ids

def createReservation (arguments : CreateArguments) : GuardedCall DomainError InventoryStore where
  Plan := StockReservation
  checks := prepareReservation service arguments
  body reservation store := do
    let inserted ← insertReservation store reservation
    (holdReservation service (stockArguments reservation reservation.reservedQty reservation.notes
      arguments.ids)).effect inserted

def ensureOpen (reservation : StockReservation) (verb : String) : Except DomainError Unit :=
  ensure reservation.IsOpen (validationError ("Only active reservations can be " ++ verb ++ ".")
    "INVENTORY_RESERVATION_STATUS_INVALID")

def updateReservation (store : InventoryStore) (reservation : StockReservation) : InventoryStore :=
  { store with reservations := store.reservations.update reservation }

def issuedReservation (reservation : StockReservation) (issueQty : ℚ) (note : String) :
    StockReservation :=
  let nextRemaining := max 0 (reservation.remainingQty - issueQty)
  { reservation with
    issuedQty := reservation.issuedQty + issueQty
    remainingQty := nextRemaining
    status := if nextRemaining ≤ 0 then .fullyIssued else .partiallyIssued
    notes := orElse (strip note) reservation.notes }

/-- The reservation after its rest is given back. -/
def closedReservation (reservation : StockReservation) (status : StockReservationStatus)
    (note : String) : StockReservation :=
  { reservation with
    remainingQty := 0
    status := status
    notes := orElse (strip note) reservation.notes }

def prepareIssue (reservationId : String) (quantity : ℚ) (note : String) (store : InventoryStore) :
    Except DomainError (StockReservation × ℚ) := do
  service.requireManage "issue reserved stock"
  let reservation ← getReservation service store reservationId
  ensureOpen reservation "issued"
  let issueQty ← normalizePositiveQuantity quantity "Issued quantity"
  ensure (issueQty ≤ reservation.remainingQty)
    (validationError "Issued quantity exceeds the reservation remaining quantity."
      "INVENTORY_RESERVATION_QTY_EXCEEDED")
  let updated := issuedReservation reservation issueQty note
  validateTransition StockReservationStatus.value reservationStatusTransitions reservation.status
    updated.status
  return (updated, issueQty)

def issueReservedStock (reservationId : String) (quantity : ℚ) (note : String)
    (ids : PostingIds) : GuardedCall DomainError InventoryStore where
  Plan := StockReservation × ℚ
  checks := prepareIssue service reservationId quantity note
  body plan store := do
    let issued ← (issueStock service
      (stockArguments plan.1 plan.2 plan.1.notes ids) none plan.2).effect store
    return updateReservation issued plan.1

/-- The closed reservation and the quantity that it gives back. -/
def prepareClose (operationLabel reservationId : String) (status : StockReservationStatus)
    (note : String) (store : InventoryStore) : Except DomainError (StockReservation × ℚ) := do
  service.requireManage operationLabel
  let reservation ← getReservation service store reservationId
  ensureOpen reservation "closed"
  let quantityToRelease := reservation.remainingQty
  ensure (0 < quantityToRelease)
    (validationError "Reservation has no remaining quantity to release."
      "INVENTORY_RESERVATION_ALREADY_CONSUMED")
  validateTransition StockReservationStatus.value reservationStatusTransitions reservation.status
    status
  return (closedReservation reservation status note, quantityToRelease)

def closeReservation (operationLabel reservationId : String) (status : StockReservationStatus)
    (note : String) (ids : PostingIds) : GuardedCall DomainError InventoryStore where
  Plan := StockReservation × ℚ
  checks := prepareClose service operationLabel reservationId status note
  body plan store := do
    let released ← (StockControlService.releaseReservation service
      (stockArguments plan.1 plan.2 plan.1.notes ids)).effect store
    return updateReservation released plan.1

def releaseReservation (reservationId note : String) (ids : PostingIds) :
    GuardedCall DomainError InventoryStore :=
  closeReservation service "release stock reservation" reservationId .released note ids

def cancelReservation (reservationId note : String) (ids : PostingIds) :
    GuardedCall DomainError InventoryStore :=
  closeReservation service "cancel stock reservation" reservationId .cancelled note ids

end

end ReservationService

end ProjectManager
