import ProjectManager.Inventory.Obligations
import ProjectManager.Procurement.InventoryRuns

/-! # Reorder flags

Every posting computes the reorder flag of the balance that it writes, from the
reorder point of the item at that time. Two writes do not: an update that changes
the reorder point leaves the balances of the item alone, and an approved order
starts balances whose flag is down.
-/

namespace ProjectManager

open Foundation

/-! ## The invariant -/

def StockItem.AtReorderPoint (item : StockItem) (availableQty : ℚ) : Prop :=
  0 < item.reorderPoint ∧ availableQty ≤ item.reorderPoint

instance (item : StockItem) (availableQty : ℚ) : Decidable (item.AtReorderPoint availableQty) :=
  inferInstanceAs (Decidable (_ ∧ _))

/-- The flag of the balance says what its item asks for. -/
def FlagCurrent (store : InventoryStore) (balance : StockBalance) : Prop :=
  ∃ item ∈ store.items.rows, item.id = balance.stockItemId ∧
    (balance.reorderRequired = true ↔ item.AtReorderPoint balance.availableQty)

def FlagsCurrent (store : InventoryStore) : Prop :=
  ∀ balance ∈ store.balances.rows, FlagCurrent store balance

instance (store : InventoryStore) (balance : StockBalance) : Decidable (FlagCurrent store balance) :=
  inferInstanceAs (Decidable (∃ _ ∈ _, _))

instance (store : InventoryStore) : Decidable (FlagsCurrent store) :=
  inferInstanceAs (Decidable (∀ _ ∈ _, _))

/-- No reorder point is negative, and the flags are current, those of added balances
included. -/
structure SoundFlags (store : PlatformStore) : Prop where
  points : ∀ item ∈ store.inventory.items.rows, 0 ≤ item.reorderPoint
  current : FlagsCurrent store.inventory
  added : ∀ balance ∈ store.addedBalances, FlagCurrent store.inventory balance

instance (store : PlatformStore) : Decidable (SoundFlags store) :=
  decidable_of_iff ((∀ item ∈ store.inventory.items.rows, 0 ≤ item.reorderPoint) ∧
      FlagsCurrent store.inventory ∧
      ∀ balance ∈ store.addedBalances, FlagCurrent store.inventory balance)
    ⟨fun ⟨hpoints, hcurrent, hadded⟩ => ⟨hpoints, hcurrent, hadded⟩,
      fun h => ⟨h.points, h.current, h.added⟩⟩

section

variable {store next : InventoryStore}

theorem FlagCurrent.congr {balance : StockBalance} (h : FlagCurrent store balance)
    (hitems : next.items = store.items) : FlagCurrent next balance := by
  unfold FlagCurrent
  rw [hitems]
  exact h

theorem FlagsCurrent.congr (h : FlagsCurrent store) (hitems : next.items = store.items)
    (hbalances : next.balances = store.balances) : FlagsCurrent next := by
  intro balance hbalance
  rw [hbalances] at hbalance
  exact (h balance hbalance).congr hitems

theorem FlagCurrent.of_same {balance stored : StockBalance} (h : FlagCurrent store stored)
    (hitem : balance.stockItemId = stored.stockItemId)
    (havailable : balance.availableQty = stored.availableQty)
    (hflagged : balance.reorderRequired = stored.reorderRequired) : FlagCurrent store balance := by
  unfold FlagCurrent
  rw [hitem, havailable, hflagged]
  exact h

/-- Where no reorder point is negative, the flag of a posting says whether it is reached. -/
theorem reorderRequired_iff {item : StockItem} (hpoint : 0 ≤ item.reorderPoint)
    (availableQty : ℚ) :
    reorderRequired item availableQty = true ↔ item.AtReorderPoint availableQty := by
  unfold reorderRequired StockItem.AtReorderPoint
  rw [decide_eq_true_iff, hpoint.lt_iff_ne']

/-! ## Postings and receipts -/

theorem FlagsCurrent.storeBalance {balance : StockBalance} {isNew : Bool} (h : FlagsCurrent store)
    (hisNew : isNew = (store.balances.get? balance.position).isNone)
    (hbalance : FlagCurrent store balance) : FlagsCurrent (storeBalance store isNew balance) := by
  intro other hother
  rcases mem_storeBalance hisNew hother with rfl | ⟨hother, -⟩
  · exact hbalance
  · exact h other hother

/-- The items stay, and current flags stay current. -/
structure FlagsKept (store next : InventoryStore) : Prop where
  items : next.items = store.items
  current : (∀ item ∈ store.items.rows, 0 ≤ item.reorderPoint) → FlagsCurrent store →
    FlagsCurrent next

theorem FlagsKept.of_same (hitems : next.items = store.items)
    (hbalances : next.balances = store.balances) : FlagsKept store next :=
  ⟨hitems, fun _ h => h.congr hitems hbalances⟩

theorem FlagsKept.trans {current : InventoryStore} (hfirst : FlagsKept store current)
    (hsecond : FlagsKept current next) : FlagsKept store next := by
  refine ⟨hsecond.items.trans hfirst.items, fun hpoints hflags => ?_⟩
  exact hsecond.current (hfirst.items ▸ hpoints) (hfirst.current hpoints hflags)

theorem Posted.flagsKept {position : StockPosition} {reserved : ℚ}
    (h : Posted store next position reserved) : FlagsKept store next := by
  obtain ⟨item, posting, onHand, hitem, hmoves, hwrite⟩ := h
  obtain ⟨-, rfl⟩ := posting.write_ok hwrite
  refine ⟨rfl, fun hpoints hflags => ?_⟩
  obtain ⟨hmem, hid⟩ := Table.get?_eq_some_iff.mp hitem
  have hposition := hmoves.balance_position
  have hcurrent : FlagCurrent store posting.balance := by
    refine ⟨item, hmem, ?_, ?_⟩
    · rw [hid, ← hposition]
      rfl
    · rw [hmoves.flagged]
      exact reorderRequired_iff (hpoints item hmem) _
  have hisNew : posting.isNewBalance = (store.balances.get? posting.balance.position).isNone := by
    rw [hposition]
    exact hmoves.isNewBalance
  exact (hflags.storeBalance hisNew hcurrent).congr rfl rfl

/-- A balance whose on-order quantity goes down is there already. -/
theorem OnOrderAdjusted.flagsKept {position : StockPosition} {quantity : ℚ}
    (h : OnOrderAdjusted store position quantity next) (hquantity : quantity < 0) :
    FlagsKept store next := by
  refine ⟨h.sameReservations.1, fun _ hflags => ?_⟩
  cases h with
  | unchanged => exact hflags
  | stored isNew balance hposition hisNew _ _ havailable _ hflagged honOrder hnonneg =>
      subst hposition
      refine hflags.storeBalance hisNew ?_
      rw [honOrder] at hnonneg
      unfold InventoryStore.balanceAt at havailable hflagged hnonneg
      cases hfound : store.balances.get? balance.position with
      | none =>
          rw [hfound] at hnonneg
          have hzero : (createBalance "" balance.position "").onOrderQty = 0 := rfl
          rw [Option.getD_none, hzero, zero_add] at hnonneg
          exact absurd hquantity (not_lt.mpr hnonneg)
      | some stored =>
          rw [hfound] at havailable hflagged
          obtain ⟨hmem, hsame⟩ := Table.get?_eq_some_iff.mp hfound
          exact (hflags stored hmem).of_same (congrArg StockPosition.stockItemId hsame).symm
            havailable hflagged

theorem Booked.flagsKept (h : Booked store next) : FlagsKept store next := by
  induction h with
  | refl => exact .of_same rfl rfl
  | posted _ hposted ih => exact ih.trans hposted.flagsKept
  | onOrder _ hadjusted hquantity ih => exact ih.trans (hadjusted.flagsKept hquantity)
  | other _ hsame ih => exact ih.trans (.of_same hsame.items hsame.balances)

theorem TakesFrom.flagsKept {stored updated : StockReservation} {quantity : ℚ}
    (h : TakesFrom store next stored updated quantity) : FlagsKept store next := by
  obtain ⟨current, hposted, rfl⟩ := h.posted
  exact hposted.flagsKept.trans (.of_same rfl rfl)

theorem StockCall.flagsKept {service : InventoryService} {call : StockCall}
    (h : (call.guarded service).effect store = .ok next) : FlagsKept store next := by
  cases call with
  | postOpeningBalance => exact (postOpeningBalance_posted h).flagsKept
  | postAdjustment => exact (postAdjustment_posted h).flagsKept
  | holdReservation => exact (holdReservation_posted h).flagsKept
  | releaseHold => exact (releaseReservation_posted h).flagsKept
  | issueStock => exact (issueStock_posted h).flagsKept
  | returnStock => exact (returnStock_posted h).flagsKept
  | transferStock => exact (transferStock_booked h).flagsKept
  | createReservation =>
      obtain ⟨_, inserted, -, -, hinserted, hposted⟩ := createReservation_ok h
      have hkept : FlagsKept store inserted := hinserted ▸ .of_same rfl rfl
      exact hkept.trans hposted.flagsKept
  | issueReservedStock =>
      obtain ⟨_, _, htakes⟩ := issueReservedStock_ok h
      exact htakes.flagsKept
  | releaseReservation =>
      obtain ⟨_, _, htakes⟩ := closeReservation_ok (by decide) h
      exact htakes.flagsKept
  | cancelReservation =>
      obtain ⟨_, _, htakes⟩ := closeReservation_ok (by decide) h
      exact htakes.flagsKept
  | postReceipt => exact (postReceipt_booked h).flagsKept

end

/-! ## Calls on a session -/

section

variable {service : InventoryService} {store next : PlatformStore}

theorem SoundFlags.inventory (h : SoundFlags store) {inventory : InventoryStore}
    (hkept : FlagsKept store.inventory inventory) :
    SoundFlags { store with inventory := inventory } where
  points := hkept.items ▸ h.points
  current := hkept.current h.points h.current
  added balance hmem := (h.added balance hmem).congr hkept.items

theorem mem_flush (hflush : store.flush = .ok next) {balance : StockBalance}
    (hbalance : balance ∈ next.inventory.balances.rows) :
    balance ∈ store.inventory.balances.rows ∨ balance ∈ store.addedBalances := by
  obtain ⟨inventory, hinserted, hflush⟩ := bind_ok hflush
  cases hflush
  let Inserted (current : InventoryStore) : Prop := ∀ balance ∈ current.balances.rows,
    balance ∈ store.inventory.balances.rows ∨ balance ∈ store.addedBalances
  have hlast : Inserted inventory := by
    refine foldlM_invariant ?_ hinserted fun _ => Or.inl
    intro current added hmem next hstep h other hother
    obtain ⟨_, -, hstep⟩ := bind_ok hstep
    cases hstep
    rcases Table.mem_insert hother with rfl | hother
    · exact Or.inr hmem
    · exact h other hother
  exact hlast balance hbalance

theorem SoundFlags.flush (h : SoundFlags store) (hflush : store.flush = .ok next) :
    SoundFlags next := by
  have hmem (balance : StockBalance) := @mem_flush store next hflush balance
  obtain ⟨⟨balances, rfl⟩, -⟩ := flush_ok hflush
  refine ⟨h.points, fun balance hbalance => ?_, fun _ hadded => nomatch hadded⟩
  rcases hmem balance hbalance with hstored | hadded
  · exact (h.current balance hstored).congr rfl
  · exact (h.added balance hadded).congr rfl

theorem SoundFlags.inventoryCall {Plan : Type} {checks : PlatformStore → Except DomainError Plan}
    {body : Plan → InventoryStore → Except DomainError InventoryStore} {plan : Plan}
    (h : SoundFlags store) (hrun : (inventoryCall checks body).body plan store = .ok next)
    (hbody : ∀ current inventory, body plan current = .ok inventory →
      FlagsKept current inventory) : SoundFlags next := by
  obtain ⟨flushed, hflushed, hrun⟩ := bind_ok hrun
  obtain ⟨inventory, hinventory, hrun⟩ := bind_ok hrun
  cases hrun
  exact (h.flush hflushed).inventory (hbody _ _ hinventory)

theorem SoundFlags.insertAdded (h : SoundFlags store) {inventory : InventoryStore}
    (hkept : FlagsKept store.inventory inventory)
    (hinserted : insertAdded { store with inventory := inventory } = .ok next) : SoundFlags next :=
  (h.inventory hkept).flush (insertAdded_ok hinserted)

theorem movement_flagsKept {inventory moved : InventoryStore} {arguments : PostingArguments}
    {posting : StockPosting} {unitCost : Option ℚ} {releaseReservedQty : ℚ}
    (hitem : inventory.items.get? arguments.item.id = some arguments.item)
    (htype : arguments.transactionType ∈
      [StockTransactionType.issue, .return, .transferOut, .transferIn])
    (h : postMovementTransaction service inventory arguments unitCost releaseReservedQty =
      .ok posting) (hwrite : posting.write inventory = .ok moved) : FlagsKept inventory moved := by
  have hposted : Posted inventory moved arguments.position _ :=
    ⟨arguments.item, posting, _, hitem, postMovementTransaction_moves htype h, hwrite⟩
  exact hposted.flagsKept

theorem SoundFlags.transfer {arguments : StockControlService.TransferArguments}
    (h : SoundFlags store) (hrun : (transferOnSession service arguments).effect store = .ok next) :
    SoundFlags next := by
  obtain ⟨scope, hchecks, hrun⟩ := GuardedCall.effect_eq_ok.mp hrun
  obtain ⟨outbound, houtbound, hrun⟩ := bind_ok hrun
  obtain ⟨moved, hmoved, hrun⟩ := bind_ok hrun
  obtain ⟨flushed, hflushed, hrun⟩ := bind_ok hrun
  obtain ⟨inbound, hinbound, hrun⟩ := bind_ok hrun
  obtain ⟨arrived, harrived, hrun⟩ := bind_ok hrun
  cases hrun
  have hitem : store.inventory.items.get? scope.item.id = some scope.item := by
    iterate 2 obtain ⟨_, -, hchecks⟩ := bind_ok hchecks
    obtain ⟨item, hvalid, hchecks⟩ := bind_ok hchecks
    iterate 6 obtain ⟨_, -, hchecks⟩ := bind_ok hchecks
    cases hchecks
    obtain ⟨hfound, hid⟩ := validateStockItem_ok hvalid
    exact hid ▸ hfound
  have hout := movement_flagsKept hitem (show StockTransactionType.transferOut ∈ _ by decide)
    houtbound hmoved
  obtain ⟨⟨balances, hframe⟩, -⟩ := flush_ok (insertAdded_ok hflushed)
  have hflushedItem : flushed.inventory.items.get? scope.item.id = some scope.item := by
    rw [hframe]
    exact hout.items ▸ hitem
  exact (h.insertAdded hout hflushed).inventory
    (movement_flagsKept hflushedItem (show StockTransactionType.transferIn ∈ _ by decide) hinbound
      harrived)

theorem SoundFlags.stock {call : StockCall} (h : SoundFlags store)
    (hrun : (call.onSession service).effect store = .ok next) : SoundFlags next := by
  have hposting (hguarded : (postingOnSession (call.guarded service)).effect store = .ok next) :
      SoundFlags next := by
    obtain ⟨plan, hplan, hrun⟩ := GuardedCall.effect_eq_ok.mp hguarded
    obtain ⟨inventory, hinventory, hinserted⟩ := bind_ok hrun
    exact h.insertAdded (StockCall.flagsKept
      (GuardedCall.effect_eq_ok.mpr ⟨plan, hplan, hinventory⟩)) hinserted
  cases call with
  | transferStock arguments => exact h.transfer hrun
  | postReceipt arguments =>
      obtain ⟨plan, hplan, hrun⟩ := GuardedCall.effect_eq_ok.mp hrun
      exact h.inventoryCall hrun fun _ _ hreceived => (postReceipt_body_booked hreceived).flagsKept
  | _ => exact hposting hrun

/-! ### Items -/

theorem prepareItem_reorderPoint {arguments : ItemMasterService.CreateArguments} {item : StockItem}
    (h : ItemMasterService.prepareItem service store arguments = .ok item) :
    0 ≤ item.reorderPoint := by
  iterate 14 obtain ⟨_, -, h⟩ := bind_ok h
  obtain ⟨point, hpoint, h⟩ := bind_ok h
  iterate 6 obtain ⟨_, -, h⟩ := bind_ok h
  cases h
  obtain ⟨rfl, hnonneg⟩ := normalizeNonnegativeQuantity_eq_ok hpoint
  exact hnonneg

/-- A new item has no balances yet. -/
theorem SoundFlags.createItem {arguments : ItemMasterService.CreateArguments} (h : SoundFlags store)
    (hrun : (ItemMasterService.createItem service arguments).effect store = .ok next) :
    SoundFlags next := by
  obtain ⟨item, hprepared, hrun⟩ := GuardedCall.effect_eq_ok.mp hrun
  obtain ⟨flushed, hflushed, hrun⟩ := bind_ok hrun
  obtain ⟨inventory, hinventory, hrun⟩ := bind_ok hrun
  cases hrun
  obtain ⟨_, hfresh, hinventory⟩ := bind_ok hinventory
  cases hinventory
  have hsound := h.flush hflushed
  have hrows : (flushed.inventory.items.insert item).rows = item :: flushed.inventory.items.rows :=
    Table.rows_insert (ensure_eq_ok.mp hfresh)
  have hkept {balance : StockBalance} (hbalance : FlagCurrent flushed.inventory balance) :
      FlagCurrent { flushed.inventory with items := flushed.inventory.items.insert item }
        balance := by
    obtain ⟨other, hother, hid, hflag⟩ := hbalance
    refine ⟨other, ?_, hid, hflag⟩
    rw [hrows]
    exact List.mem_cons_of_mem _ hother
  refine ⟨fun other hother => ?_, fun balance hbalance => hkept (hsound.current balance hbalance),
    fun balance hadded => hkept (hsound.added balance hadded)⟩
  rcases Table.mem_insert hother with rfl | hother
  · exact prepareItem_reorderPoint hprepared
  · exact hsound.points other hother

/-- An update that is accepted leaves every balance of the item on its side of the reorder
point. -/
def KeepsReorderPoint (service : InventoryService) (itemId : String)
    (arguments : ItemMasterService.UpdateArguments) (store : PlatformStore) : Prop :=
  ((ItemMasterService.updateItem service itemId arguments).effect store).isOk = true →
    ∀ reorderPoint ∈ arguments.reorderPoint, ∀ item ∈ store.inventory.items.get? itemId,
      ∀ balance ∈ store.inventory.balances.rows ++ store.addedBalances,
        balance.stockItemId = itemId →
          (StockItem.AtReorderPoint { item with reorderPoint := reorderPoint }
            balance.availableQty ↔ item.AtReorderPoint balance.availableQty)

instance (service : InventoryService) (itemId : String)
    (arguments : ItemMasterService.UpdateArguments) (store : PlatformStore) :
    Decidable (KeepsReorderPoint service itemId arguments store) :=
  inferInstanceAs (Decidable (_ → ∀ _ ∈ _, ∀ _ ∈ _, ∀ _ ∈ _, _ → _))

theorem SoundFlags.updateItem {itemId : String} {arguments : ItemMasterService.UpdateArguments}
    (h : SoundFlags store) (hkeeps : KeepsReorderPoint service itemId arguments store)
    (hrun : (ItemMasterService.updateItem service itemId arguments).effect store = .ok next) :
    SoundFlags next := by
  have hkeeps := hkeeps (by rw [hrun]; rfl)
  obtain ⟨updated, hprepared, hrun⟩ := GuardedCall.effect_eq_ok.mp hrun
  obtain ⟨flushed, hflushed, hrun⟩ := bind_ok hrun
  obtain ⟨inventory, hinventory, hrun⟩ := bind_ok hrun
  cases hrun
  cases hinventory
  obtain ⟨item, hitem, hupdated⟩ := ItemMasterService.prepareUpdatedItem_ok hprepared
  obtain ⟨hfound, rfl⟩ := getItemForInternalUse_ok hitem
  have hmem := @mem_flush store flushed hflushed
  have hsound := h.flush hflushed
  obtain ⟨⟨balances, rfl⟩, -⟩ := flush_ok hflushed
  have hpoint : 0 ≤ updated.reorderPoint := by
    rw [hupdated.reorderPoint]
    cases hgiven : arguments.reorderPoint with
    | none => exact h.points item (Table.get?_eq_some_iff.mp hfound).1
    | some given => exact hupdated.reorderPoint_nonneg given hgiven
  have hsame : ∀ balance ∈ balances.rows, balance.stockItemId = item.id →
      (updated.AtReorderPoint balance.availableQty ↔ item.AtReorderPoint balance.availableQty) := by
    intro balance hbalance hof
    unfold StockItem.AtReorderPoint
    rw [hupdated.reorderPoint]
    cases hgiven : arguments.reorderPoint with
    | none => rfl
    | some given =>
        exact hkeeps given hgiven item hfound balance (List.mem_append.mpr (hmem hbalance)) hof
  refine ⟨fun other hother => ?_, fun balance hbalance => ?_, fun _ hadded => nomatch hadded⟩
  · rcases Table.mem_update_iff.mp hother with ⟨rfl, -⟩ | ⟨hother, -⟩
    · exact hpoint
    · exact h.points other hother
  · obtain ⟨other, hother, hid, hflag⟩ := hsound.current balance hbalance
    by_cases hof : balance.stockItemId = item.id
    · obtain rfl := store.inventory.items.eq_of_key_eq hother
        (Table.get?_eq_some_iff.mp hfound).1 (hid.trans hof)
      refine ⟨{ updated with version := updated.version + 1 }, ?_, ?_, ?_⟩
      · exact Table.mem_update_iff.mpr (Or.inl ⟨rfl, hupdated.id ▸ store.inventory.items.mem_ids hother⟩)
      · exact hupdated.id.trans hof.symm
      · exact hflag.trans (hsame balance hbalance hof).symm
    · refine ⟨other, Table.mem_update_iff.mpr (Or.inr ⟨hother, ?_⟩), hid, hflag⟩
      rw [hid]
      exact fun heq => hof (heq.trans hupdated.id)

end

/-! ## Decisions -/

section

variable {service : InventoryService}

open ServiceProgram

theorem commit_flags : ServiceProgram.commit.Keeps SoundFlags :=
  keeps_commit fun _ _ h hflush => h.flush hflush

theorem write_flags {f : InventoryStore → InventoryStore}
    (hitems : ∀ store : InventoryStore, (f store).items = store.items)
    (hbalances : ∀ store : InventoryStore, (f store).balances = store.balances) :
    (write fun store => .ok (f store)).Keeps SoundFlags := by
  apply keeps_write
  intro store inventory h hwritten
  cases hwritten
  exact h.inventory (.of_same (hitems _) (hbalances _))

theorem updateRequest_flags (request : ApprovalRequest) :
    (updateRequest request).Keeps SoundFlags :=
  keeps_updateRequest (fun _ _ h => ⟨h.points, h.current, h.added⟩) request

theorem decideRequisition_flags (nextStatus : PurchaseRequisitionStatus)
    (lineStatus : PurchaseRequisitionLineStatus) (request : ApprovalRequest) :
    (decideRequisition nextStatus lineStatus request).Keeps SoundFlags := by
  unfold decideRequisition
  refine keeps_read.bind fun requisition => ?_
  refine Program.Keeps.bind ?_ fun _ => Program.Keeps.bind ?_ fun _ => commit_flags
  · exact write_flags (fun _ => rfl) fun _ => rfl
  · exact write_flags (fun _ => rfl) fun _ => rfl

theorem applySubmittedPurchaseOrderRejection_flags (request : ApprovalRequest) :
    (applySubmittedPurchaseOrderRejection request).Keeps SoundFlags := by
  unfold applySubmittedPurchaseOrderRejection
  refine keeps_read.bind fun order => ?_
  refine Program.Keeps.bind ?_ fun _ => Program.Keeps.bind ?_ fun _ => commit_flags
  · exact write_flags (fun _ => rfl) fun _ => rfl
  · exact write_flags (fun _ => rfl) fun _ => rfl

theorem refreshTouchedRequisition_flags (requisitionId : String) :
    (refreshTouchedRequisition requisitionId).Keeps SoundFlags := by
  apply keeps_write
  intro store inventory h hwritten
  refine h.inventory ?_
  split at hwritten
  · obtain rfl := Except.ok.inj hwritten
    exact .of_same rfl rfl
  · unfold refreshRequisitionStatus at hwritten
    simp only at hwritten
    split at hwritten
    · obtain rfl := Except.ok.inj hwritten
      exact .of_same rfl rfl
    · obtain ⟨_, -, hwritten⟩ := bind_ok hwritten
      cases hwritten
      exact .of_same rfl rfl

/-! ### Approved lines -/

/-- What the lines of an order are approved on: the items, and the positions with a balance. -/
structure LinesSession (items : Table StockItem.id) (positions : List StockPosition)
    (session : Session PlatformStore) : Prop where
  sound : session.Both SoundFlags
  items : session.pending.inventory.items = items
  positions : session.pending.inventory.balances.ids = positions

/-- The line is of an item without a reorder point, or its position has a balance. -/
def LineKeepsFlag (items : Table StockItem.id) (positions : List StockPosition)
    (order : PurchaseOrder) (line : PurchaseOrderLine) : Prop :=
  ∀ item ∈ items.get? line.stockItemId, line.quantityOrdered ≠ 0 →
    order.positionOf line ∉ positions → ¬ 0 < item.reorderPoint

instance (items : Table StockItem.id) (positions : List StockPosition) (order : PurchaseOrder)
    (line : PurchaseOrderLine) : Decidable (LineKeepsFlag items positions order line) :=
  inferInstanceAs (Decidable (∀ _ ∈ _, _ → _ → ¬ _))

variable {items : Table StockItem.id} {positions : List StockPosition} {order : PurchaseOrder}
  {line : PurchaseOrderLine} {item : StockItem}

theorem onOrderBalance_flag {store : InventoryStore}
    {organizationId storeroomId uom balanceId : String} {delta : ℚ} {isNew : Bool}
    {balance : StockBalance}
    (h : onOrderBalance store organizationId item storeroomId uom delta balanceId =
      .ok (some (isNew, balance))) :
    delta ≠ 0 ∧ isNew = (store.balances.get? balance.position).isNone ∧
      balance.position = ⟨organizationId, item.id, storeroomId⟩ ∧
      balance.availableQty = (store.balanceAt balance.position).availableQty ∧
      balance.reorderRequired = (store.balanceAt balance.position).reorderRequired := by
  unfold onOrderBalance at h
  split at h
  next => cases h
  next hdelta =>
    iterate 2 obtain ⟨_, -, h⟩ := bind_ok h
    cases h
    let position : StockPosition := ⟨organizationId, item.id, storeroomId⟩
    have hposition := (startBalance store position balanceId item.stockUom).1
    refine ⟨hdelta, ?_, hposition, ?_, ?_⟩
    · exact congrArg (fun position => (store.balances.get? position).isNone) hposition.symm
    · refine (startBalance_availableQty store position balanceId item.stockUom).trans ?_
      exact congrArg (fun position => (store.balanceAt position).availableQty) hposition.symm
    · refine (startBalance_reorderRequired store position balanceId item.stockUom).trans ?_
      exact congrArg (fun position => (store.balanceAt position).reorderRequired) hposition.symm

theorem storeOnOrder_flags {session : Session PlatformStore}
    (h : LinesSession items positions session) (hline : LineKeepsFlag items positions order line)
    (hitem : items.get? line.stockItemId = some item) (balanceId : String) :
    (storeOnOrder order item line balanceId).Spec session
      (fun _ next => LinesSession items positions next) fun _ next => next.Both SoundFlags := by
  unfold storeOnOrder
  rw [Program.spec_step]
  cases hwritten : onOrderBalance session.pending.inventory order.organizationId item
    line.destinationStoreroomId line.uom line.quantityOrdered balanceId with
  | error e => exact h.sound
  | ok written =>
      cases written with
      | none => exact h
      | some written =>
          obtain ⟨isNew, balance⟩ := written
          obtain ⟨hquantity, hisNew, hposition, havailable, hflagged⟩ := onOrderBalance_flag hwritten
          obtain ⟨hmem, hid⟩ := Table.get?_eq_some_iff.mp hitem
          have hof : balance.position = order.positionOf line := by
            rw [hposition, hid]
            rfl
          unfold InventoryStore.balanceAt at havailable hflagged
          cases hfound : session.pending.inventory.balances.get? balance.position with
          | none =>
              -- A new balance starts with its flag down.
              rw [hfound] at hisNew havailable hflagged
              subst hisNew
              have hpoint := hline item hitem hquantity (by
                rw [← h.positions, ← hof]
                exact Table.get?_eq_none.mp hfound)
              have hcurrent : FlagCurrent session.pending.inventory balance := by
                refine ⟨item, h.items ▸ hmem, (congrArg StockPosition.stockItemId hposition).symm, ?_⟩
                rw [hflagged]
                exact iff_of_false Bool.false_ne_true fun hat => hpoint hat.1
              refine ⟨h.sound.write ⟨h.sound.2.points, h.sound.2.current, ?_⟩, h.items, h.positions⟩
              intro other hother
              rcases List.mem_append.mp hother with hother | hother
              · exact h.sound.2.added other hother
              · exact List.mem_singleton.mp hother ▸ hcurrent
          | some stored =>
              rw [hfound] at hisNew havailable hflagged
              subst hisNew
              obtain ⟨hstored, hsame⟩ := Table.get?_eq_some_iff.mp hfound
              have hcurrent : FlagCurrent session.pending.inventory balance :=
                (h.sound.2.current stored hstored).of_same
                  (congrArg StockPosition.stockItemId hsame).symm havailable hflagged
              have hkept : FlagsKept session.pending.inventory
                  (storeBalance session.pending.inventory false balance) :=
                ⟨rfl, fun _ hflags => hflags.storeBalance (by rw [hfound]; rfl) hcurrent⟩
              refine ⟨h.sound.write (h.sound.2.inventory hkept), h.items, ?_⟩
              exact (Table.ids_update _).trans h.positions

theorem approveLine_flags {session : Session PlatformStore}
    (h : LinesSession items positions session) (hline : LineKeepsFlag items positions order line)
    (balanceId : String) :
    (approveLine service order balanceId line).Spec session
      (fun _ next => LinesSession items positions next) fun _ next => next.Both SoundFlags := by
  unfold approveLine
  rw [Program.spec_bind, spec_write_ok, Program.spec_bind, spec_read]
  have hopened : LinesSession items positions { session with
      pending := { session.pending with
        inventory := { session.pending.inventory with
          orderLines := session.pending.inventory.orderLines.update
            { line with status := .open } } } } :=
    ⟨h.sound.write (h.sound.2.inventory (.of_same rfl rfl)), h.items, h.positions⟩
  split
  next item hread =>
    obtain ⟨hitem, -⟩ := getItemForInternalUse_ok hread
    rw [Program.spec_bind]
    refine (storeOnOrder_flags hopened hline (h.items ▸ hitem) balanceId).mono ?_ fun _ _ => id
    intro _ next hnext
    cases line.sourceLineId with
    | none => exact hnext
    | some requisitionLineId =>
        rw [Program.spec_bind, spec_read]
        split
        next sourced hsourced =>
          exact ⟨hnext.sound.write (hnext.sound.2.inventory (.of_same rfl rfl)), hnext.items,
            hnext.positions⟩
        next => exact hnext.sound
  next => exact hopened.sound

/-- The order that a request asks to approve, if it is one of a purchase order, has lines that
keep flags only. -/
def ApprovalKeepsFlags (service : InventoryService) (store : PlatformStore) (requestId : String) :
    Prop :=
  ∀ request ∈ (requestToDecide service "approve approval request" requestId store).toOption,
    request.requestType = "purchase_order.submit" →
      ∀ order ∈ (decidedPurchaseOrder request .approved store.inventory).toOption,
        ∀ line ∈ listForPurchaseOrder store.inventory order.id,
          LineKeepsFlag store.inventory.items store.inventory.balances.ids order line

instance (service : InventoryService) (store : PlatformStore) (requestId : String) :
    Decidable (ApprovalKeepsFlags service store requestId) :=
  inferInstanceAs (Decidable (∀ _ ∈ _, _ → ∀ _ ∈ _, ∀ _ ∈ _, _))

theorem applySubmittedPurchaseOrderApproval_flags {session : Session PlatformStore}
    (h : session.Both SoundFlags) (balanceId : String → String) (request : ApprovalRequest)
    (hlines : ∀ order ∈ (decidedPurchaseOrder request .approved session.pending.inventory).toOption,
      ∀ line ∈ listForPurchaseOrder session.pending.inventory order.id,
        LineKeepsFlag session.pending.inventory.items session.pending.inventory.balances.ids order
          line) :
    (applySubmittedPurchaseOrderApproval service balanceId request).Spec session
      (fun _ next => next.Both SoundFlags) fun _ next => next.Both SoundFlags := by
  unfold applySubmittedPurchaseOrderApproval
  rw [Program.spec_bind, spec_read]
  split
  next order hread =>
    have hlines := hlines order (by rw [hread]; rfl)
    rw [Program.spec_bind, spec_write_ok, Program.spec_bind, spec_read]
    simp only [Program.spec_bind]
    unfold approveLines
    let Approving (_ : List PurchaseOrderLine) (_ : List String) (current : Session PlatformStore) :
        Prop := LinesSession session.pending.inventory.items session.pending.inventory.balances.ids
          current
    have hstart : Approving [] [] { session with
        pending := { session.pending with
          inventory := updatePurchaseOrder session.pending.inventory order } } :=
      ⟨h.write (h.2.inventory (.of_same rfl rfl)), rfl, rfl⟩
    refine (Program.spec_foldlM Approving _ ?_ hstart).mono ?_ fun _ _ => id
    · intro before line after touched current hsplit hcurrent
      have hmem : line ∈ listForPurchaseOrder session.pending.inventory order.id := by
        change listForPurchaseOrder session.pending.inventory order.id = _ at hsplit
        rw [hsplit]
        exact List.mem_append_right _ List.mem_cons_self
      rw [Program.spec_bind]
      exact approveLine_flags hcurrent (hlines line hmem) _
    · intro touched next hnext
      have hrest : (touched.forM refreshTouchedRequisition >>= fun _ =>
          ServiceProgram.commit).Keeps SoundFlags :=
        (Program.keeps_forM _ fun requisitionId _ =>
          refreshTouchedRequisition_flags requisitionId).bind fun _ => commit_flags
      exact Program.spec_bind.mp (hrest next hnext.sound)
  next => exact h

theorem approveAndApply_flags {session : Session PlatformStore} (h : session.Both SoundFlags)
    (balanceId : String → String) (requestId : String) (note : Option String)
    (hkeeps : ApprovalKeepsFlags service session.pending requestId) :
    (approveAndApply service (procurementApplyHandlers service balanceId) requestId note).Spec
      session (fun _ next => next.Both SoundFlags) fun _ next => next.Both SoundFlags := by
  unfold approveAndApply
  rw [Program.spec_bind, spec_read]
  split
  next request hread =>
    rw [Program.spec_bind, spec_read]
    split
    next handler hregistered =>
      have hhandler : (handler request).Spec session (fun _ next => next.Both SoundFlags)
          fun _ next => next.Both SoundFlags := by
        obtain rfl | ⟨htype, rfl⟩ := procurementApplyHandlers_cases (require_eq_ok.mp hregistered)
        · exact decideRequisition_flags _ _ request session h
        · exact applySubmittedPurchaseOrderApproval_flags h balanceId request
            (hkeeps request (by rw [hread]; rfl) htype)
      rw [Program.spec_bind]
      refine hhandler.mono ?_ fun _ _ => id
      intro _ next hnext
      have hrest : (updateRequest (decidedRequest service request .approved note) >>= fun _ =>
          ServiceProgram.commit >>= fun _ =>
            Pure.pure (decidedRequest service request .approved note)).Keeps SoundFlags :=
        (updateRequest_flags _).bind fun _ => commit_flags.bind fun _ => Program.keeps_pure
      exact hrest next hnext
    next => exact h
  next => exact h

theorem reject_flags (requestId : String) (note : Option String) :
    (reject service procurementRejectHandlers requestId note).Keeps SoundFlags :=
  reject_keeps commit_flags updateRequest_flags (decideRequisition_flags _ _)
    applySubmittedPurchaseOrderRejection_flags

end

/-! ## Runs -/

/-- Updates of items keep balances on their side of the reorder point, and approved orders start
no balance of an item with a reorder point. -/
def InventoryCall.KeepsFlags (session : Session PlatformStore)
    (call : InventoryService × InventoryCall) : Prop :=
  match call.2 with
  | .updateItem itemId arguments => KeepsReorderPoint call.1 itemId arguments session.pending
  | .procurement (.approve requestId _ _) => ApprovalKeepsFlags call.1 session.pending requestId
  | _ => True

instance (session : Session PlatformStore) (call : InventoryService × InventoryCall) :
    Decidable (InventoryCall.KeepsFlags session call) := by
  unfold InventoryCall.KeepsFlags
  split <;> infer_instance

section

variable {service : InventoryService} {session : Session PlatformStore}

theorem call_flags {guarded : GuardedCall DomainError PlatformStore}
    (h : session.Both SoundFlags)
    (heffect : ∀ next, guarded.effect session.pending = .ok next → SoundFlags next) :
    ((Program.call guarded).outcome session).2.Both SoundFlags := by
  rw [Program.outcome_call]
  refine GuardedCall.both_run (fun plan next hchecks hbody => ?_) h
  exact heffect next (GuardedCall.effect_eq_ok.mpr ⟨plan, hchecks, hbody⟩)

/-- A call that writes neither items nor balances. -/
theorem inventoryCall_flags {Plan : Type} {checks : PlatformStore → Except DomainError Plan}
    {body : Plan → InventoryStore → Except DomainError InventoryStore} (h : session.Both SoundFlags)
    (hbody : ∀ plan current inventory, body plan current = .ok inventory →
      FlagsKept current inventory) :
    ((Program.call (inventoryCall checks body)).outcome session).2.Both SoundFlags := by
  apply call_flags h
  intro next hrun
  obtain ⟨plan, -, hrun⟩ := GuardedCall.effect_eq_ok.mp hrun
  exact h.2.inventoryCall hrun (hbody plan)

theorem runProcurementCall_flags (call : ProcurementCall) (h : session.Both SoundFlags)
    (hkeeps : InventoryCall.KeepsFlags session (service, .procurement call)) :
    ((call.program service).outcome session).2.Both SoundFlags := by
  cases call with
  | createRequisition arguments =>
      apply inventoryCall_flags h
      intro requisition current inventory hwritten
      obtain ⟨_, -, hwritten⟩ := bind_ok hwritten
      cases hwritten
      exact .of_same rfl rfl
  | addRequisitionLine arguments =>
      apply inventoryCall_flags h
      intro line current inventory hwritten
      obtain ⟨_, -, hwritten⟩ := bind_ok hwritten
      cases hwritten
      exact .of_same rfl rfl
  | submitRequisition requisitionId requestId =>
      apply call_flags h
      intro next hrun
      obtain ⟨plan, -, hrun⟩ := GuardedCall.effect_eq_ok.mp hrun
      obtain ⟨flushed, hflushed, hrun⟩ := bind_ok hrun
      cases hrun
      have hsound := h.2.flush hflushed
      exact ⟨hsound.points, hsound.current, hsound.added⟩
  | updateRequisition arguments =>
      apply inventoryCall_flags h
      intro requisition current inventory hwritten
      cases hwritten
      exact .of_same rfl rfl
  | cancelRequisition requisitionId expectedVersion =>
      apply inventoryCall_flags h
      intro requisition current inventory hwritten
      cases hwritten
      exact .of_same rfl rfl
  | createPurchaseOrder arguments =>
      apply inventoryCall_flags h
      intro order current inventory hwritten
      obtain ⟨_, -, hwritten⟩ := bind_ok hwritten
      cases hwritten
      exact .of_same rfl rfl
  | addPurchaseOrderLine arguments =>
      apply inventoryCall_flags h
      intro line current inventory hwritten
      obtain ⟨_, -, hwritten⟩ := bind_ok hwritten
      cases hwritten
      exact .of_same rfl rfl
  | submitPurchaseOrder purchaseOrderId requestId =>
      apply call_flags h
      intro next hrun
      obtain ⟨plan, -, hrun⟩ := GuardedCall.effect_eq_ok.mp hrun
      obtain ⟨flushed, hflushed, hrun⟩ := bind_ok hrun
      cases hrun
      have hsound := h.2.flush hflushed
      exact ⟨hsound.points, hsound.current, hsound.added⟩
  | updatePurchaseOrder arguments =>
      apply inventoryCall_flags h
      intro order current inventory hwritten
      cases hwritten
      exact .of_same rfl rfl
  | cancelPurchaseOrder purchaseOrderId expectedVersion =>
      apply inventoryCall_flags h
      intro order current inventory hwritten
      cases hwritten
      exact .of_same rfl rfl
  | sendPurchaseOrder purchaseOrderId =>
      apply inventoryCall_flags h
      intro order current inventory hwritten
      cases hwritten
      exact .of_same rfl rfl
  | closePurchaseOrder purchaseOrderId =>
      apply inventoryCall_flags h
      intro order current inventory hwritten
      cases hwritten
      exact .of_same rfl rfl
  | postReceipt arguments =>
      apply inventoryCall_flags h
      intro plan current inventory hwritten
      exact (postReceipt_body_booked hwritten).flagsKept
  | approve requestId note balanceId =>
      have hspec : ((ProcurementCall.approve requestId note balanceId).program service).Spec session
          (fun _ next => next.Both SoundFlags) fun _ next => next.Both SoundFlags := by
        unfold ProcurementCall.program
        rw [Program.spec_bind]
        exact approveAndApply_flags h balanceId requestId note hkeeps
      exact hspec.outcome_snd
  | reject requestId note =>
      exact Program.Keeps.outcome ((reject_flags requestId note).bind fun _ => Program.keeps_pure) h

end

theorem runInventoryCall_flags (session : Session PlatformStore)
    (call : InventoryService × InventoryCall) (hkeeps : InventoryCall.KeepsFlags session call)
    (h : session.Both SoundFlags) : (runInventoryCall call session).2.Both SoundFlags := by
  obtain ⟨service, call⟩ := call
  cases call with
  | stock call => exact call_flags h fun _ => h.2.stock
  | procurement call => exact runProcurementCall_flags call h hkeeps
  | createItem arguments => exact call_flags h fun _ => h.2.createItem
  | updateItem itemId arguments => exact call_flags h fun _ => h.2.updateItem hkeeps
  | createCategory arguments =>
      apply inventoryCall_flags h
      intro category current inventory hwritten
      obtain ⟨_, -, hwritten⟩ := bind_ok hwritten
      cases hwritten
      exact .of_same rfl rfl
  | updateCategory categoryId arguments =>
      apply inventoryCall_flags h
      intro category current inventory hwritten
      cases hwritten
      exact .of_same rfl rfl

/-- In every run whose updates of items keep balances on their side of the reorder point and whose
approved orders start no balance of an item with one, the reorder flags are current. -/
theorem inventoryRun_flagsCurrent (calls : List (InventoryService × InventoryCall))
    (start : PlatformStore) (hstart : SoundFlags start)
    (hcalls : EachCall runInventoryCall InventoryCall.KeepsFlags (.clean start) calls) :
    let last := sessionAfter runInventoryCall (.clean start) calls
    SoundFlags last.pending ∧ SoundFlags last.committed := by
  have hlast : (sessionAfter runInventoryCall (.clean start) calls).Both SoundFlags :=
    sessionAfter_invariant runInventoryCall_flags calls hcalls (Session.both_clean.mpr hstart)
  exact ⟨hlast.2, hlast.1⟩

/-- Bolts with a reorder point of five come in, and some of them go out. -/
def boltTraffic : List (InventoryService × InventoryCall) :=
  [(inventoryAdmin, .updateItem "bolt"
      { issueUom := some "EA", reorderPoint := some 5, status := some "active" }),
    (inventoryAdmin, .stock (.postOpeningBalance (boltArguments 8 "EA" "1") 1)),
    (inventoryAdmin, .stock (.issueStock (boltArguments 4 "EA" "2") none 0))]

/-- The bolts that go out turn the flag. -/
theorem inventoryRun_flagsCurrent_bolts :
    let last := sessionAfter runInventoryCall (.clean boltYard) boltTraffic
    (SoundFlags last.pending ∧ SoundFlags last.committed) ∧
      (sessionAfter runInventoryCall (.clean boltYard)
        (boltTraffic.take 2)).committed.inventory.balances.rows.map
          (fun balance => (balance.availableQty, balance.reorderRequired)) = [(8, false)] ∧
      last.committed.inventory.balances.rows.map
        (fun balance => (balance.availableQty, balance.reorderRequired)) = [(4, true)] :=
  ⟨inventoryRun_flagsCurrent boltTraffic boltYard (by decide) (by decide +kernel),
    by decide +kernel, by decide +kernel⟩

/-- The reorder point is raised above what is in stock. -/
def boltShortage : List (InventoryService × InventoryCall) :=
  [(inventoryAdmin, .stock (.postOpeningBalance (boltArguments 8 "EA" "1") 1)),
    (inventoryAdmin, .updateItem "bolt" { issueUom := some "EA", reorderPoint := some 20 })]

theorem not_flagsCurrent_shortage :
    SoundFlags boltYard ∧
      ¬ FlagsCurrent
        (sessionAfter runInventoryCall (.clean boltYard) boltShortage).committed.inventory := by
  constructor
  · decide
  · decide +kernel

end ProjectManager
