import ProjectManager.Inventory.Ledger

/-! # The reserved quantity

What a balance holds in reserve is what its open reservations still claim, and
what callers of stock control have moved on their own account.
-/

namespace ProjectManager

open Foundation StockControlService

section

variable {store next : InventoryStore}

def openClaim (store : InventoryStore) (position : StockPosition)
    (reservation : StockReservation) : ℚ :=
  if reservation.position = position ∧ reservation.IsOpen then
    quantityInStock store reservation.stockItemId reservation.remainingQty (some reservation.uom)
  else 0

def openClaims (store : InventoryStore) (position : StockPosition) : ℚ :=
  store.reservations.sum (openClaim store position)

/-- An open reservation has something left, and has accounted for all that it reserved. -/
def StockReservation.Accounted (reservation : StockReservation) : Prop :=
  reservation.IsOpen → reservation.reservedQty = reservation.issuedQty + reservation.remainingQty ∧
    0 < reservation.remainingQty

/-- The reserved quantities are the open claims and what was moved directly. -/
structure ReservedAgrees (store : InventoryStore) (direct : StockPosition → ℚ) : Prop where
  reservedQty : ∀ position, (store.balanceAt position).reservedQty =
    openClaims store position + direct position
  accounted : ∀ reservation ∈ store.reservations.rows, reservation.Accounted

theorem openClaims_congr (hitems : next.items = store.items)
    (hreservations : next.reservations = store.reservations) (position : StockPosition) :
    openClaims next position = openClaims store position := by
  unfold openClaims openClaim quantityInStock
  rw [hitems, hreservations]

theorem quantityInStock_sub (store : InventoryStore) (stockItemId : String) (first second : ℚ)
    (uom : Option String) : quantityInStock store stockItemId (first - second) uom =
      quantityInStock store stockItemId first uom -
        quantityInStock store stockItemId second uom := by
  unfold quantityInStock
  cases store.items.get? stockItemId with
  | none => exact (sub_zero 0).symm
  | some item => exact stockQuantity_sub item first second _

/-! ## Bookings -/

theorem Posted.openClaims {position : StockPosition} {reserved : ℚ}
    (h : Posted store next position reserved) (other : StockPosition) :
    openClaims next other = openClaims store other := by
  obtain ⟨_, _, rfl⟩ := h.frame
  exact openClaims_congr rfl rfl other

theorem Posted.reservedAgrees {position : StockPosition} {reserved : ℚ}
    {direct : StockPosition → ℚ} (hposted : Posted store next position reserved)
    (h : ReservedAgrees store direct) :
    ReservedAgrees next fun other => direct other + if other = position then reserved else 0 where
  reservedQty other := by
    rw [(hposted.balanceAt other).1, hposted.openClaims, h.reservedQty, add_assoc]
  accounted := by
    obtain ⟨_, _, rfl⟩ := hposted.frame
    exact h.accounted

theorem Posted.reservedAgrees_zero {position : StockPosition} {direct : StockPosition → ℚ}
    (hposted : Posted store next position 0) (h : ReservedAgrees store direct) :
    ReservedAgrees next direct := by
  have hnext := hposted.reservedAgrees h
  simp only [ite_self, add_zero] at hnext
  exact hnext

theorem OnOrderAdjusted.reservedQty {position : StockPosition} {quantity : ℚ}
    (h : OnOrderAdjusted store position quantity next) (other : StockPosition) :
    (next.balanceAt other).reservedQty = (store.balanceAt other).reservedQty := by
  cases h with
  | unchanged => rfl
  | stored isNew balance hposition hisNew _ hreserved =>
      subst hposition
      rw [balanceAt_storeBalance hisNew]
      split
      next hother => rw [hother, hreserved]
      next => rfl

theorem OnOrderAdjusted.sameReservations {position : StockPosition} {quantity : ℚ}
    (h : OnOrderAdjusted store position quantity next) :
    next.items = store.items ∧ next.reservations = store.reservations := by
  cases h <;> exact ⟨rfl, rfl⟩

theorem Booked.reservedAgrees {direct : StockPosition → ℚ} (hbooked : Booked store next)
    (h : ReservedAgrees store direct) : ReservedAgrees next direct := by
  induction hbooked with
  | refl => exact h
  | posted _ hposted ih => exact hposted.reservedAgrees_zero ih
  | onOrder _ hadjusted _ ih =>
      obtain ⟨hitems, hreservations⟩ := hadjusted.sameReservations
      constructor
      · intro other
        rw [hadjusted.reservedQty, openClaims_congr hitems hreservations, ih.reservedQty]
      · rw [hreservations]
        exact ih.accounted
  | other _ hsame ih =>
      constructor
      · intro other
        rw [openClaims_congr hsame.items hsame.reservations, ← ih.reservedQty]
        unfold InventoryStore.balanceAt
        rw [hsame.balances]
      · rw [hsame.reservations]
        exact ih.accounted

/-! ## Reservations -/

theorem createReservation_reservedAgrees {service : InventoryService}
    {arguments : ReservationService.CreateArguments} {direct : StockPosition → ℚ}
    (hcall : (ReservationService.createReservation service arguments).effect store = .ok next)
    (h : ReservedAgrees store direct) : ReservedAgrees next direct := by
  obtain ⟨reservation, _, hprepared, hfresh, rfl, hposted⟩ := createReservation_ok hcall
  obtain ⟨hstatus, hissued, hreserved, hpos, -⟩ := prepareReservation_ok hprepared
  have hopen : reservation.IsOpen := by
    rw [StockReservation.IsOpen, hstatus]
    exact List.mem_cons_self
  constructor
  · intro position
    rw [(hposted.balanceAt position).1, hposted.openClaims]
    have hsum : openClaims { store with reservations := store.reservations.insert reservation }
        position = openClaim store position reservation + openClaims store position :=
      Table.sum_insert hfresh _
    have hclaim : openClaim store position reservation = if position = reservation.position then
        quantityInStock store reservation.stockItemId reservation.remainingQty
          (some reservation.uom) else 0 := by
      simp only [openClaim, hopen, and_true, eq_comm]
    have hbefore := h.reservedQty position
    change (store.balanceAt position).reservedQty + _ = _
    rw [hsum, hclaim, hbefore]
    ring
  · obtain ⟨_, _, rfl⟩ := hposted.frame
    intro other hother
    rcases Table.mem_insert hother with rfl | hother
    · intro _
      rw [hissued, hreserved, zero_add]
      exact ⟨rfl, hpos⟩
    · exact h.accounted other hother

/-- What a reservation gives up is exactly what its balance gives back. -/
theorem TakesFrom.openClaim_sub {stored updated : StockReservation} {quantity : ℚ}
    (h : TakesFrom store next stored updated quantity) (position : StockPosition) :
    openClaim store position updated = openClaim store position stored -
      if position = stored.position then
        quantityInStock store stored.stockItemId quantity (some stored.uom) else 0 := by
  obtain ⟨-, hposition, huom, -⟩ := h.sameRow
  have hitem : updated.stockItemId = stored.stockItemId :=
    congrArg StockPosition.stockItemId hposition
  unfold openClaim
  rw [hposition, hitem, huom]
  by_cases hother : position = stored.position
  · subst hother
    by_cases hopen : updated.IsOpen
    · simp only [hopen, h.isOpen, and_true, if_true]
      rw [(h.remaining hopen).2.1, quantityInStock_sub]
    · simp only [hopen, h.isOpen, and_true, and_false, if_true, if_false]
      rw [h.closed hopen, sub_self]
  · simp only [Ne.symm hother, hother, false_and, if_false, sub_zero]

theorem TakesFrom.reservedAgrees {stored updated : StockReservation} {quantity : ℚ}
    {direct : StockPosition → ℚ} (htakes : TakesFrom store next stored updated quantity)
    (h : ReservedAgrees store direct) : ReservedAgrees next direct := by
  obtain ⟨current, hposted, rfl⟩ := htakes.posted
  obtain ⟨hid, -, -, hreserved⟩ := htakes.sameRow
  have hfound : store.reservations.get? updated.id = some stored := by
    rw [hid]
    exact htakes.found
  constructor
  · intro position
    have hsum : openClaims (ReservationService.updateReservation current updated) position =
        openClaims store position - openClaim store position stored +
          openClaim store position updated := by
      obtain ⟨_, _, rfl⟩ := hposted.frame
      exact Table.sum_update hfound (openClaim store position)
    change (current.balanceAt position).reservedQty = _
    rw [hsum, htakes.openClaim_sub, (hposted.balanceAt position).1, h.reservedQty]
    by_cases hposition : position = stored.position
    · simp only [if_pos hposition]
      ring
    · simp only [if_neg hposition]
      ring
  · obtain ⟨_, _, rfl⟩ := hposted.frame
    intro other hother
    rcases Table.mem_update_iff.mp hother with ⟨rfl, -⟩ | ⟨hother, -⟩
    · intro hopen
      obtain ⟨hissued, hremaining, hpos⟩ := htakes.remaining hopen
      obtain ⟨hbefore, -⟩ := h.accounted stored (Table.get?_eq_some_iff.mp hfound).1 htakes.isOpen
      refine ⟨?_, hpos⟩
      rw [hreserved, hissued, hremaining, hbefore]
      ring
    · exact h.accounted other hother

end

/-! ## Calls -/

/-- What a call of stock control moves on its own account: holds, releases, and the
reserved quantity that an issue releases. -/
def StockCall.direct (service : InventoryService) (store : InventoryStore) :
    StockCall → StockPosition → ℚ
  | .holdReservation arguments, position =>
      if position = service.position arguments.stockItemId arguments.storeroomId then
        quantityInStock store arguments.stockItemId arguments.quantity arguments.uom else 0
  | .releaseHold arguments, position =>
      if position = service.position arguments.stockItemId arguments.storeroomId then
        -quantityInStock store arguments.stockItemId arguments.quantity arguments.uom else 0
  | .issueStock arguments _ releaseReservedQty, position =>
      if position = service.position arguments.stockItemId arguments.storeroomId then
        -quantityInStock store arguments.stockItemId releaseReservedQty arguments.uom else 0
  | _, _ => 0

theorem StockCall.effect_reservedAgrees {service : InventoryService} {call : StockCall}
    {store next : InventoryStore} {direct : StockPosition → ℚ}
    (hcall : (call.guarded service).effect store = .ok next) (h : ReservedAgrees store direct) :
    ReservedAgrees next fun position => direct position + call.direct service store position := by
  have hunmoved : ∀ {last : InventoryStore}, ReservedAgrees last direct →
      ReservedAgrees last fun position => direct position + 0 := by
    intro last hlast
    simp only [add_zero]
    exact hlast
  cases call with
  | holdReservation => exact (holdReservation_posted hcall).reservedAgrees h
  | releaseHold => exact (releaseReservation_posted hcall).reservedAgrees h
  | issueStock => exact (issueStock_posted hcall).reservedAgrees h
  | postOpeningBalance =>
      exact hunmoved ((postOpeningBalance_posted hcall).reservedAgrees_zero h)
  | postAdjustment => exact hunmoved ((postAdjustment_posted hcall).reservedAgrees_zero h)
  | returnStock => exact hunmoved ((returnStock_posted hcall).reservedAgrees_zero h)
  | transferStock => exact hunmoved ((transferStock_booked hcall).reservedAgrees h)
  | postReceipt => exact hunmoved ((postReceipt_booked hcall).reservedAgrees h)
  | createReservation => exact hunmoved (createReservation_reservedAgrees hcall h)
  | issueReservedStock =>
      obtain ⟨_, _, htakes⟩ := issueReservedStock_ok hcall
      exact hunmoved (htakes.reservedAgrees h)
  | releaseReservation =>
      obtain ⟨_, _, htakes⟩ := closeReservation_ok (by decide) hcall
      exact hunmoved (htakes.reservedAgrees h)
  | cancelReservation =>
      obtain ⟨_, _, htakes⟩ := closeReservation_ok (by decide) hcall
      exact hunmoved (htakes.reservedAgrees h)

/-- What the accepted calls of a run moved directly. -/
def directlyReserved :
    List (InventoryService × StockCall) → InventoryStore → StockPosition → ℚ
  | [], _, _ => 0
  | call :: rest, store, position =>
      match (call.2.guarded call.1).effect store with
      | .ok next => call.2.direct call.1 store position + directlyReserved rest next position
      | .error _ => directlyReserved rest store position

/-- The reserved quantity of every position is, after every run, what its open reservations
claim and what calls of stock control moved directly. -/
theorem stockRun_reservedAgrees (calls : List (InventoryService × StockCall))
    (store : InventoryStore) (direct : StockPosition → ℚ) (h : ReservedAgrees store direct) :
    ReservedAgrees (sessionAfter runStockCall (.clean store) calls).committed fun position =>
      direct position + directlyReserved calls store position := by
  induction calls generalizing store direct with
  | nil =>
      simp only [directlyReserved, add_zero]
      exact h
  | cons call rest ih =>
      change ReservedAgrees
        (sessionAfter runStockCall (runStockCall call (.clean store)).2 rest).committed _
      unfold runStockCall directlyReserved
      rw [GuardedCall.run_clean]
      cases heffect : (call.2.guarded call.1).effect store with
      | error e => exact ih store direct h
      | ok next =>
          have hnext := ih next _ (StockCall.effect_reservedAgrees heffect h)
          simp only [add_assoc] at hnext
          exact hnext

theorem stockRun_reservedAgrees_bolts :
    ReservedAgrees (sessionAfter runStockCall (.clean boltStore) boltCalls).committed
      fun position => 0 + directlyReserved boltCalls boltStore position :=
  stockRun_reservedAgrees boltCalls boltStore (fun _ => 0)
    ⟨fun _ => (add_zero 0).symm, fun _ hmem => (List.not_mem_nil hmem).elim⟩

/-- Stock control moves the reserved quantity away from the reservations: five bolts are
reserved, then some are held, released or issued directly. -/
theorem reserved_ne_openClaims_bolts :
    List.Forall (fun call =>
      let last := (sessionAfter runStockCall (.clean boltStore)
        (boltCalls.take 2 ++ [(inventoryAdmin, call)])).committed
      openClaims last ⟨"org", "bolt", "main"⟩ = 5 ∧
        (last.balanceAt ⟨"org", "bolt", "main"⟩).reservedQty ≠
          openClaims last ⟨"org", "bolt", "main"⟩)
      [StockCall.holdReservation (boltArguments 7 "EA" "3"),
        .releaseHold (boltArguments 2 "EA" "3"), .issueStock (boltArguments 1 "EA" "3") none 1] := by
  decide +kernel

end ProjectManager
