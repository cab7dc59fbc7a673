import ProjectManager.Maintenance.Escalations
import ProjectManager.Procurement.Calls

/-! # Shortages that are ordered once

The open requisition lines of a requirement stay within what is not issued yet, along
every run whose escalations find the open and the issued quantities in the stock, can
be finished, and whose updates leave the open quantity to be issued.
-/

namespace ProjectManager.Maintenance

open Foundation

/-! ## Open quantities -/

/-- Every order of the line, which is sourced in full, is received. -/
def Received (inventory : InventoryStore) (line : PurchaseRequisitionLine) : Prop :=
  line.status = .fullySourced ∧ ∀ ordered ∈ inventory.orderLines.rows,
    ordered.sourceRequisitionLineId = some line.id → ordered.status = .fullyReceived

instance (inventory : InventoryStore) (line : PurchaseRequisitionLine) :
    Decidable (Received inventory line) :=
  inferInstanceAs (Decidable (_ ∧ _))

def CreatedFor (requirementId : String) (requisition : PurchaseRequisition) : Prop :=
  requisition.sourceReferenceType = materialSourceType ∧
    requisition.sourceReferenceId = requirementId

instance (requirementId : String) (requisition : PurchaseRequisition) :
    Decidable (CreatedFor requirementId requisition) :=
  inferInstanceAs (Decidable (_ ∧ _))

/-- The line is neither rejected, cancelled nor received, and was created for the requirement. -/
def OpenFor (inventory : InventoryStore) (requirementId : String)
    (line : PurchaseRequisitionLine) : Prop :=
  line.status ≠ .rejected ∧ line.status ≠ .cancelled ∧ ¬ Received inventory line ∧
    ∃ requisition ∈ inventory.requisitions.get? line.purchaseRequisitionId,
      CreatedFor requirementId requisition

instance (inventory : InventoryStore) (requirementId : String) (line : PurchaseRequisitionLine) :
    Decidable (OpenFor inventory requirementId line) :=
  inferInstanceAs (Decidable (_ ∧ _ ∧ _ ∧ _))

/-- The quantity of a line in the stock unit of its item. -/
def lineStockQuantity (inventory : InventoryStore) (line : PurchaseRequisitionLine) : ℚ :=
  ((inventory.items.get? line.stockItemId).map fun item =>
    stockQuantity item line.quantityRequested line.uom).getD 0

/-- What is on the open lines of a requirement. -/
def openQuantity (inventory : InventoryStore) (requirementId : String) : ℚ :=
  inventory.requisitionLines.sum fun line =>
    if OpenFor inventory requirementId line then lineStockQuantity inventory line else 0

/-- A quantity of a requirement in the stock unit of its item. Without an item it counts as it
is. -/
def requirementQuantity (inventory : InventoryStore) (requirement : MaterialRequirement)
    (quantity : ℚ) : ℚ :=
  match requirement.stockItemId.bind inventory.items.get? with
  | some item => stockQuantity item quantity requirement.requiredUom
  | none => quantity

/-- The open lines order no more than what is not issued. -/
def MaterialRequirement.Covered (inventory : InventoryStore) (requirement : MaterialRequirement) :
    Prop :=
  openQuantity inventory requirement.id ≤
    requirementQuantity inventory requirement (requirement.requiredQty - requirement.issuedQty)

instance (inventory : InventoryStore) (requirement : MaterialRequirement) :
    Decidable (requirement.Covered inventory) :=
  inferInstanceAs (Decidable (_ ≤ _))

def MaterialStore.Covered (store : MaterialStore) : Prop :=
  ∀ requirement ∈ store.requirements.rows, requirement.Covered store.platform.inventory

instance (store : MaterialStore) : Decidable store.Covered :=
  inferInstanceAs (Decidable (∀ _ ∈ _, _))

/-- The ids of the requirements are plain and their units are given. -/
structure MaterialStore.Sound (store : MaterialStore) : Prop where
  platform : PlatformSettled store.platform
  ids : ∀ requirement ∈ store.requirements.rows, strip requirement.id = requirement.id
  uoms : ∀ requirement ∈ store.requirements.rows, requirement.requiredUom ≠ ""
  covered : store.Covered

/-! ## Calls -/

inductive MaterialCall
  | update (services : MaterialServices) (arguments : UpdateRequirementArguments)
  | refresh (services : MaterialServices) (materialRequirementId : String)
      (expectedVersion : Option ℕ)
  | escalate (services : MaterialServices) (arguments : EscalateRequirementArguments)

def MaterialCall.program : MaterialCall → MaterialProgram Unit
  | .update services arguments => updateRequirement services arguments
  | .refresh services materialRequirementId expectedVersion =>
      refreshRequirementAvailability services materialRequirementId expectedVersion
  | .escalate services arguments => escalateRequirementShortage services arguments

def MaterialCall.run (call : MaterialCall) : Session MaterialStore → Outcome DomainError MaterialStore :=
  call.program.outcome

/-- The quantities and the unit that an update leaves a stored requirement with. -/
def UpdateRequirementArguments.applied (arguments : UpdateRequirementArguments)
    (inventory : InventoryStore) (requirement : MaterialRequirement) : MaterialRequirement :=
  let given := givenRequirement requirement arguments
    (arguments.requiredQty.join.getD requirement.requiredQty,
      (arguments.issuedQty.map fun quantity => quantity.getD 0).getD requirement.issuedQty)
  if given.isStockItem = true then
    { given with
      requiredUom := orElse given.requiredUom
        (((given.stockItemId.bind inventory.items.get?).map fun item =>
          upper (strip (orElse item.issueUom item.stockUom))).getD "") }
  else { given with stockItemId := none }

/-- An update leaves the open quantity to be issued. An escalation finds the open and the issued
quantities in the stock, and can be finished. -/
def MaterialCall.Fits (store : MaterialStore) : MaterialCall → Prop
  | .update services arguments =>
      (prepareUpdatedRequirement services store arguments).isOk = true →
        ∀ requirement ∈ store.requirements.get? arguments.materialRequirementId,
          (arguments.applied store.platform.inventory requirement).Covered store.platform.inventory
  | .refresh _ _ _ => True
  | .escalate services arguments =>
      ∀ prepared ∈ (prepareEscalatedRequirement services store arguments).toOption,
        (prepareEscalation services.inventoryService store.platform prepared.2).isOk = true →
          CanFinish services.inventoryService store.platform prepared.2 ∧
            openQuantity store.platform.inventory prepared.1.id +
                requirementQuantity store.platform.inventory prepared.1 prepared.1.issuedQty ≤
              availableStock store.platform.inventory prepared.1.organizationId
                prepared.2.demand.stockItemId prepared.2.demand.storeroomId

instance decidableFits (store : MaterialStore) : (call : MaterialCall) → Decidable (call.Fits store)
  | .update _ _ => inferInstanceAs (Decidable (_ → ∀ _ ∈ _, _))
  | .refresh _ _ _ => isTrue trivial
  | .escalate _ _ => inferInstanceAs (Decidable (∀ _ ∈ _, _ → _ ∧ _))

section

variable {inventory next : InventoryStore} {requirementId : String}

theorem openQuantity_requisitioned {requisition : PurchaseRequisition}
    {line : PurchaseRequisitionLine}
    (hlines : ∀ other ∈ inventory.requisitionLines.rows,
      other.purchaseRequisitionId ∈ inventory.requisitions.ids)
    (hfresh : requisition.id ∉ inventory.requisitions.ids)
    (hlineFresh : line.id ∉ inventory.requisitionLines.ids)
    (hlineOf : line.purchaseRequisitionId = requisition.id) (hstatus : line.status = .draft)
    (hnext : next = { inventory with
      requisitions := inventory.requisitions.insert requisition
      requisitionLines := inventory.requisitionLines.insert line }) :
    openQuantity next requirementId = openQuantity inventory requirementId +
      if CreatedFor requirementId requisition then lineStockQuantity inventory line else 0 := by
  subst hnext
  unfold openQuantity
  rw [Table.sum_insert hlineFresh, add_comm]
  congr 1
  · apply Table.sum_congr
    intro other hother
    have hne : other.purchaseRequisitionId ≠ requisition.id :=
      fun heq => hfresh (heq ▸ hlines other hother)
    have hsame : OpenFor { inventory with
        requisitions := inventory.requisitions.insert requisition
        requisitionLines := inventory.requisitionLines.insert line } requirementId other ↔
          OpenFor inventory requirementId other := by
      unfold OpenFor
      rw [Table.get?_insert_of_ne hne]
      rfl
    simp only [hsame]
    rfl
  · have hopen : OpenFor { inventory with
        requisitions := inventory.requisitions.insert requisition
        requisitionLines := inventory.requisitionLines.insert line } requirementId line ↔
          CreatedFor requirementId requisition := by
      unfold OpenFor Received
      rw [hlineOf, Table.get?_insert_self hfresh, hstatus]
      simp
    simp only [hopen]
    rfl

end

/-! ## What the calls write -/

section

variable {services : MaterialServices} {store : MaterialStore} {requirement : MaterialRequirement}

theorem saveRequirement_effect (hsettled : store.platform.addedBalances = []) :
    (saveRequirement requirement).effect store = .ok (store.writeRequirement requirement) := by
  refine bind_eq_ok.mpr ⟨(), rfl, ?_⟩
  change (store.platform.flush.map _) = _
  rw [PlatformStore.flush_settled hsettled]
  rfl

theorem requireChangeable_ok {operationLabel materialRequirementId : String}
    {expectedVersion : Option ℕ} {workOrder : WorkOrder}
    (h : requireChangeable services store operationLabel materialRequirementId expectedVersion =
      .ok (requirement, workOrder)) :
    store.requirements.get? materialRequirementId = some requirement ∧
      services.activeOrganization = some requirement.organizationId := by
  obtain ⟨_, -, h⟩ := bind_ok h
  obtain ⟨found, hfound, h⟩ := bind_ok h
  iterate 4 obtain ⟨_, -, h⟩ := bind_ok h
  obtain ⟨rfl, rfl⟩ := Prod.mk.inj (Except.ok.inj h)
  obtain ⟨_, -, hfound⟩ := bind_ok hfound
  obtain ⟨organization, horganization, hfound⟩ := bind_ok hfound
  obtain ⟨row, hrow, hfound⟩ := bind_ok hfound
  obtain ⟨_, -, hfound⟩ := bind_ok hfound
  cases hfound
  obtain ⟨hstored, horg⟩ := Option.filter_eq_some_iff.mp (require_eq_ok.mp hrow)
  refine ⟨hstored, ?_⟩
  rw [of_decide_eq_true horg]
  exact require_eq_ok.mp horganization

theorem changedQuantities_ok {arguments : UpdateRequirementArguments} {quantities : ℚ × ℚ}
    (h : changedQuantities requirement arguments = .ok quantities) :
    quantities = (arguments.requiredQty.join.getD requirement.requiredQty,
      (arguments.issuedQty.map fun quantity => quantity.getD 0).getD requirement.issuedQty) := by
  obtain ⟨requiredQty, hrequired, h⟩ := bind_ok h
  obtain ⟨issuedQty, hissued, h⟩ := bind_ok h
  obtain ⟨_, -, h⟩ := bind_ok h
  cases h
  congr 1
  · cases hgiven : arguments.requiredQty with
    | none =>
        rw [hgiven] at hrequired
        exact (Except.ok.inj hrequired).symm
    | some value =>
        rw [hgiven] at hrequired
        obtain ⟨coerced, hcoerced, hrequired⟩ := bind_ok hrequired
        obtain ⟨_, -, hcoerced⟩ := bind_ok hcoerced
        cases hcoerced
        obtain ⟨rfl, -⟩ := Option.filter_eq_some_iff.mp (require_eq_ok.mp hrequired)
        rfl
  · cases hgiven : arguments.issuedQty with
    | none =>
        rw [hgiven] at hissued
        exact (Except.ok.inj hissued).symm
    | some value =>
        rw [hgiven] at hissued
        change (ensure _ _ >>= fun _ => Except.ok value).map _ = _ at hissued
        cases hensure : ensure (∀ given ∈ value, 0 ≤ given) (validationError
            ("Issued quantity" ++ " cannot be negative.")
            (labelCode "Issued quantity" ++ "_NEGATIVE")) with
        | error e =>
            rw [hensure] at hissued
            cases hissued
        | ok _ =>
            rw [hensure] at hissued
            exact (Except.ok.inj hissued).symm

/-- What an update leaves a requirement with, as far as it is ordered for. -/
theorem prepareUpdatedRequirement_ok {arguments : UpdateRequirementArguments}
    {changed : MaterialRequirement}
    (h : prepareUpdatedRequirement services store arguments = .ok changed) :
    ∃ requirement, store.requirements.get? arguments.materialRequirementId = some requirement ∧
      changed.id = requirement.id ∧ changed.requiredUom ≠ "" ∧
      (changed.Covered store.platform.inventory ↔
        (arguments.applied store.platform.inventory requirement).Covered
          store.platform.inventory) := by
  obtain ⟨⟨requirement, workOrder⟩, hfound, h⟩ := bind_ok h
  obtain ⟨quantities, hquantities, h⟩ := bind_ok h
  obtain ⟨resolved, hresolved, h⟩ := bind_ok h
  obtain ⟨_, huom, h⟩ := bind_ok h
  obtain ⟨_, -, h⟩ := bind_ok h
  cases h
  obtain rfl := changedQuantities_ok hquantities
  refine ⟨requirement, (requireChangeable_ok hfound).1, ?_⟩
  unfold UpdateRequirementArguments.applied
  unfold resolveInventoryLinks at hresolved
  dsimp only at hresolved ⊢
  split at hresolved
  next hstock =>
    obtain ⟨stockItemId, hid, hresolved⟩ := bind_ok hresolved
    obtain ⟨storeroomId, -, hresolved⟩ := bind_ok hresolved
    obtain ⟨item, hitem, hresolved⟩ := bind_ok hresolved
    obtain ⟨storeroom, -, hresolved⟩ := bind_ok hresolved
    obtain ⟨_, -, hresolved⟩ := bind_ok hresolved
    cases hresolved
    obtain ⟨_, -, hitem⟩ := bind_ok hitem
    obtain ⟨hstored, -⟩ := Option.filter_eq_some_iff.mp (require_eq_ok.mp hitem)
    have hid := require_eq_ok.mp hid
    refine ⟨rfl, ensure_eq_ok.mp huom, ?_⟩
    rw [if_pos hstock, hid, Option.bind_some, hstored]
    rfl
  next hstock =>
    cases hresolved
    refine ⟨rfl, ensure_eq_ok.mp huom, ?_⟩
    rw [if_neg hstock]
    rfl

end

/-! ## What the calls keep -/

section

variable {services : MaterialServices} {store : MaterialStore}
  {requirement changed : MaterialRequirement}

theorem MaterialStore.Sound.writeRequirement (h : store.Sound)
    (hstored : requirement ∈ store.requirements.rows) (hid : changed.id = requirement.id)
    (huom : changed.requiredUom ≠ "") (hcovered : changed.Covered store.platform.inventory) :
    (store.writeRequirement changed).Sound := by
  have hrows : ∀ row ∈ (store.writeRequirement changed).requirements.rows,
      row = { changed with version := changed.version + 1 } ∨ row ∈ store.requirements.rows := by
    intro row hrow
    exact (Table.mem_update_iff.mp hrow).imp And.left And.left
  constructor
  · exact h.platform
  · intro row hrow
    rcases hrows row hrow with rfl | hrow
    · exact hid ▸ h.ids requirement hstored
    · exact h.ids row hrow
  · intro row hrow
    rcases hrows row hrow with rfl | hrow
    · exact huom
    · exact h.uoms row hrow
  · intro row hrow
    rcases hrows row hrow with rfl | hrow
    · exact hcovered
    · exact h.covered row hrow

theorem saveRequirement_settles (h : store.Sound) (hsound : (store.writeRequirement changed).Sound) :
    (Program.call (saveRequirement changed)).Settles store (fun _ next => next.Sound)
      fun _ next => next = store := by
  rw [Program.settles_call, saveRequirement_effect h.platform.balances]
  refine ⟨?_, fun _ herror => (nomatch herror)⟩
  intro next hnext
  cases hnext
  exact hsound

theorem updateRequirement_settles {arguments : UpdateRequirementArguments} (h : store.Sound)
    (hfits : (MaterialCall.update services arguments).Fits store) :
    (updateRequirement services arguments).Settles store (fun _ next => next.Sound)
      fun _ next => next = store := by
  apply Program.Settles.bind
  rw [Program.settles_check]
  refine ⟨?_, fun _ _ => rfl⟩
  intro changed hchanged
  obtain ⟨requirement, hstored, hid, huom, hcovered⟩ := prepareUpdatedRequirement_ok hchanged
  apply saveRequirement_settles h
  apply h.writeRequirement (Table.get?_eq_some_iff.mp hstored).1 hid huom
  exact hcovered.mpr (hfits (by rw [hchanged]; rfl) requirement hstored)

/-- A refresh changes neither quantities nor units. -/
theorem prepareRefreshedRequirement_ok {materialRequirementId : String}
    {expectedVersion : Option ℕ}
    (h : prepareRefreshedRequirement services store materialRequirementId expectedVersion =
      .ok changed) :
    ∃ requirement ∈ store.requirements.rows, changed.id = requirement.id ∧
      changed.requiredUom = requirement.requiredUom ∧
      (changed.Covered store.platform.inventory ↔
        requirement.Covered store.platform.inventory) := by
  obtain ⟨⟨requirement, workOrder⟩, hfound, h⟩ := bind_ok h
  have hmem := (Table.get?_eq_some_iff.mp (requireChangeable_ok hfound).1).1
  dsimp only at h
  split at h
  next =>
    cases h
    exact ⟨requirement, hmem, rfl, rfl, Iff.rfl⟩
  next =>
    obtain ⟨availability, -, h⟩ := bind_ok h
    cases h
    exact ⟨requirement, hmem, rfl, rfl, Iff.rfl⟩

theorem refreshRequirementAvailability_settles {materialRequirementId : String}
    {expectedVersion : Option ℕ} (h : store.Sound) :
    (refreshRequirementAvailability services materialRequirementId expectedVersion).Settles store
      (fun _ next => next.Sound) fun _ next => next = store := by
  apply Program.Settles.bind
  rw [Program.settles_check]
  refine ⟨?_, fun _ _ => rfl⟩
  intro changed hchanged
  obtain ⟨requirement, hmem, hid, huom, hcovered⟩ := prepareRefreshedRequirement_ok hchanged
  apply saveRequirement_settles h
  apply h.writeRequirement hmem hid (huom ▸ h.uoms requirement hmem)
  exact hcovered.mpr (h.covered requirement hmem)

theorem prepareEscalatedRequirement_ok {arguments : EscalateRequirementArguments}
    {escalation : EscalationArguments}
    (h : prepareEscalatedRequirement services store arguments = .ok (requirement, escalation)) :
    requirement ∈ store.requirements.rows ∧
      services.activeOrganization = some requirement.organizationId ∧
      ∃ links, requirement.stockItemId = some links.1 ∧
        escalation.demand = materialDemand requirement links := by
  obtain ⟨⟨found, workOrder⟩, hfound, h⟩ := bind_ok h
  obtain ⟨_, -, h⟩ := bind_ok h
  obtain ⟨links, hlinks, h⟩ := bind_ok h
  obtain ⟨rfl, rfl⟩ := Prod.mk.inj (Except.ok.inj h)
  obtain ⟨hstored, horganization⟩ := requireChangeable_ok hfound
  refine ⟨(Table.get?_eq_some_iff.mp hstored).1, horganization, links, ?_, rfl⟩
  unfold requireInventoryLinks at hlinks
  split at hlinks
  next stockItemId storeroomId hitem _ =>
    cases hlinks
    exact hitem
  next => cases hlinks

/-- The line of an escalation orders the shortage, which the open and the issued quantities leave
to be ordered when the stock covers them. -/
theorem MaterialStore.Sound.escalated (h : store.Sound) {arguments : EscalateRequirementArguments}
    {escalation : EscalationArguments} {availability : MaterialAvailability} {item : StockItem}
    {storeroom : Storeroom} {organizationId : String} {platform : PlatformStore}
    {requisition : PurchaseRequisition} {line : PurchaseRequisitionLine}
    (hprepared : prepareEscalatedRequirement services store arguments =
      .ok (requirement, escalation))
    (hescalates : Escalates services.inventoryService store.platform escalation availability item
      storeroom organizationId)
    (hrequisitioned : Requisitioned store.platform platform escalation availability item requisition
      line)
    (hstock : openQuantity store.platform.inventory requirement.id +
        requirementQuantity store.platform.inventory requirement requirement.issuedQty ≤
      availableStock store.platform.inventory requirement.organizationId
        escalation.demand.stockItemId escalation.demand.storeroomId) :
    (({ store with platform := platform } : MaterialStore).writeRequirement
      (escalatedRequirement requirement escalation.requisitionId availability)).Sound := by
  obtain ⟨hmem, horganization, links, hitemId, hdemand⟩ := prepareEscalatedRequirement_ok hprepared
  obtain rfl := Option.some.inj (horganization.symm.trans hescalates.organization)
  have hitem : store.platform.inventory.items.get? links.1 = some item := by
    have hfound := hescalates.itemFound
    rw [hdemand] at hfound
    exact hfound
  have hitemKey := (Table.get?_eq_some_iff.mp hitem).2
  have hquantity : ∀ quantity, requirementQuantity store.platform.inventory requirement quantity =
      stockQuantity item quantity requirement.requiredUom := by
    intro quantity
    unfold requirementQuantity
    rw [hitemId, Option.bind_some, hitem]
  have hrequested : ∀ quantity, stockQuantity item quantity availability.requestedUom =
      stockQuantity item quantity requirement.requiredUom := by
    intro quantity
    have huom := hescalates.uom
    rw [hdemand] at huom
    have hgiven : orElse ((materialDemand requirement links).uom.getD "")
        (orElse item.issueUom item.stockUom) = requirement.requiredUom :=
      if_neg (h.uoms requirement hmem)
    rw [hgiven] at huom
    rw [stockQuantity, uomFactor_normalized huom, stockQuantity]
  have hmissing : availability.missingStockQty =
      stockQuantity item requirement.requiredQty requirement.requiredUom -
        availableStock store.platform.inventory requirement.organizationId
          escalation.demand.stockItemId escalation.demand.storeroomId := by
    rw [hescalates.missing, hrequested, hescalates.storeroomId, hdemand]
    dsimp only [materialDemand]
    rw [hitemKey]
  have hsource : CreatedFor requirement.id requisition := by
    constructor
    · rw [hrequisitioned.sourceType, hescalates.sourceType, hdemand]
      change lower (strip (lower (strip materialSourceType))) = materialSourceType
      decide +kernel
    · rw [hrequisitioned.sourceId, hescalates.sourceId, hdemand, strip_strip]
      exact h.ids requirement hmem
  have hline : lineStockQuantity store.platform.inventory line = availability.missingStockQty := by
    unfold lineStockQuantity
    rw [hrequisitioned.lineItem, hitemKey, hitem]
    exact hrequisitioned.lineQuantity
  have hopen : ∀ requirementId, openQuantity platform.inventory requirementId =
      openQuantity store.platform.inventory requirementId +
        if CreatedFor requirementId requisition then availability.missingStockQty else 0 := by
    intro requirementId
    rw [openQuantity_requisitioned h.platform.lines hrequisitioned.fresh hrequisitioned.lineFresh
      hrequisitioned.lineOf hrequisitioned.lineStatus hrequisitioned.inventory, hline]
  have hitems : platform.inventory.items = store.platform.inventory.items := by
    rw [hrequisitioned.inventory]
  have hsame : ∀ (row : MaterialRequirement) quantity,
      requirementQuantity platform.inventory row quantity =
        requirementQuantity store.platform.inventory row quantity := by
    intro row quantity
    unfold requirementQuantity
    rw [hitems]
  have hrows : ∀ row ∈ (({ store with platform := platform } : MaterialStore).writeRequirement
      (escalatedRequirement requirement escalation.requisitionId availability)).requirements.rows,
      row = { escalatedRequirement requirement escalation.requisitionId availability with
          version := requirement.version + 1 } ∨
        row ∈ store.requirements.rows ∧ row.id ≠ requirement.id := by
    intro row hrow
    exact (Table.mem_update_iff.mp hrow).imp And.left id
  constructor
  · constructor
    · exact hrequisitioned.settled
    · intro other hother
      change other ∈ platform.inventory.requisitionLines.rows at hother
      change other.purchaseRequisitionId ∈ platform.inventory.requisitions.ids
      rw [hrequisitioned.inventory] at hother ⊢
      change _ ∈ (store.platform.inventory.requisitions.insert requisition).rows.map _
      rw [Table.rows_insert hrequisitioned.fresh, List.map_cons, List.mem_cons]
      rcases Table.mem_insert hother with rfl | hother
      · exact Or.inl hrequisitioned.lineOf
      · exact Or.inr (h.platform.lines other hother)
  · intro row hrow
    rcases hrows row hrow with rfl | ⟨hrow, -⟩
    · exact h.ids requirement hmem
    · exact h.ids row hrow
  · intro row hrow
    rcases hrows row hrow with rfl | ⟨hrow, -⟩
    · exact h.uoms requirement hmem
    · exact h.uoms row hrow
  · intro row hrow
    rcases hrows row hrow with rfl | ⟨hrow, hne⟩
    · change openQuantity platform.inventory requirement.id ≤
        requirementQuantity platform.inventory requirement
          (requirement.requiredQty - requirement.issuedQty)
      rw [hopen, if_pos hsource, hsame, hquantity, stockQuantity_sub, hmissing]
      rw [hquantity] at hstock
      linarith
    · change openQuantity platform.inventory row.id ≤ requirementQuantity platform.inventory row _
      rw [hopen, if_neg fun hother => hne (hother.2.symm.trans hsource.2), add_zero, hsame]
      exact h.covered row hrow

end

section

variable {store : MaterialStore}

theorem escalateRequirementShortage_settles {services : MaterialServices}
    {arguments : EscalateRequirementArguments} (h : store.Sound)
    (hfits : (MaterialCall.escalate services arguments).Fits store) :
    (escalateRequirementShortage services arguments).Settles store (fun _ next => next.Sound)
      fun _ next => next = store := by
  apply Program.Settles.bind
  rw [Program.settles_check]
  refine ⟨?_, fun _ _ => rfl⟩
  rintro ⟨requirement, escalation⟩ hprepared
  apply Program.Settles.bind
  apply (escalateShortageToRequisition_settles h.platform ?_).mono ?_ fun _ _ => id
  · intro found hfound
    change prepareEscalation services.inventoryService store.platform escalation = _ at hfound
    exact (hfits _ (toOption_eq_some.mpr hprepared) (by rw [hfound]; rfl)).1
  · rintro availability _ ⟨item, storeroom, organizationId, platform, requisition, line,
      hfound, hescalates, hrequisitioned, rfl⟩
    change prepareEscalation services.inventoryService store.platform escalation = _ at hfound
    have hstock := (hfits _ (toOption_eq_some.mpr hprepared) (by rw [hfound]; rfl)).2
    have hsound := h.escalated hprepared hescalates hrequisitioned hstock
    rw [Program.settles_call, saveRequirement_effect hrequisitioned.settled]
    refine ⟨?_, fun _ herror => (nomatch herror)⟩
    intro next hnext
    cases hnext
    exact hsound

/-- A call that fits keeps the store sound, and one that raises leaves it alone. -/
theorem MaterialCall.settles (call : MaterialCall) (h : store.Sound) (hfits : call.Fits store) :
    call.program.Settles store (fun _ next => next.Sound) fun _ next => next = store := by
  cases call with
  | update services arguments => exact updateRequirement_settles h hfits
  | refresh services materialRequirementId expectedVersion =>
      exact refreshRequirementAvailability_settles h
  | escalate services arguments => exact escalateRequirementShortage_settles h hfits

end

/-! ## Runs -/

/-- Nothing is left uncommitted, and the store is sound. -/
def MaterialSettled (session : Session MaterialStore) : Prop :=
  ∃ store, session = .clean store ∧ store.Sound

theorem MaterialCall.run_settled (session : Session MaterialStore) (call : MaterialCall)
    (hfits : call.Fits session.pending) (h : MaterialSettled session) :
    MaterialSettled (call.run session).2 := by
  obtain ⟨store, rfl, hsound⟩ := h
  apply Program.Settles.outcome
  apply (call.settles hsound hfits).mono fun _ _ => id
  intro _ _ heq
  exact heq ▸ hsound

/-- A call that raises leaves neither rows nor an open transaction behind. -/
def MaterialCall.Atomic (session : Session MaterialStore) (call : MaterialCall) : Prop :=
  (call.run session).1 = none ∨ (call.run session).2 = session

theorem MaterialCall.atomic_of_fits (session : Session MaterialStore) (call : MaterialCall)
    (hfits : call.Fits session.pending) (h : MaterialSettled session) : call.Atomic session := by
  obtain ⟨store, rfl, hsound⟩ := h
  have houtcome := Program.Spec.outcome (call.settles hsound hfits)
  unfold MaterialCall.Atomic MaterialCall.run
  generalize call.program.outcome (.clean store) = result at houtcome ⊢
  obtain ⟨_ | e, next⟩ := result
  · exact Or.inl rfl
  · obtain ⟨_, rfl, rfl⟩ := houtcome
    exact Or.inr rfl

/-- In every run whose calls fit, the open lines of every requirement order no more than what is
not issued, and a call that raises changes nothing. -/
theorem materialRun_covered (calls : List MaterialCall) (store : MaterialStore) (h : store.Sound)
    (hfits : EachCall MaterialCall.run (fun session call => call.Fits session.pending)
      (.clean store) calls) :
    (sessionAfter MaterialCall.run (.clean store) calls).Both MaterialStore.Covered ∧
      EachCall MaterialCall.run MaterialCall.Atomic (.clean store) calls := by
  have hstart : MaterialSettled (.clean store) := ⟨store, rfl, h⟩
  constructor
  · obtain ⟨last, hlast, hsound⟩ :=
      sessionAfter_invariant MaterialCall.run_settled calls hfits hstart
    rw [hlast]
    exact Session.both_clean.mpr hsound.covered
  · exact hfits.conclude MaterialCall.run_settled MaterialCall.atomic_of_fits hstart

/-! ## A shortage of bolts -/

/-- The user has the permissions that the check allows. -/
def storesKeeper (allows : String → Bool) : MaterialServices where
  userSession :=
    { hasPermission := allows
      hasScopePermission := fun _ _ _ => true
      isScopeRestricted := fun _ => false
      scopeIdsFor := fun _ _ => [] }
  activeOrganization := some "org"
  now := 0
  today := 1

/-- A work order needs five bolts, and two are in stock. -/
def boltShortage : MaterialStore where
  maintenance :=
    { orders := ⟨[{ id := "repair", organizationId := "org", siteId := "yard"
                    workOrderCode := "REPAIR", workOrderType := .corrective
                    sourceType := "MANUAL" }], by decide⟩ }
  requirements := ⟨[{ id := "bolts", organizationId := "org", workOrderId := "repair"
                      stockItemId := some "bolt", description := "Bolts", requiredQty := 5
                      requiredUom := "EA", preferredStoreroomId := some "main" }], by decide⟩
  platform :=
    { boltYard with
      inventory :=
        { boltYard.inventory with
          balances := ⟨[{ id := "stock", organizationId := "org", stockItemId := "bolt"
                          storeroomId := "main", uom := "EA", onHandQty := 2
                          availableQty := 2 }], by decide⟩ } }

def boltEscalation (number : String) : EscalateRequirementArguments where
  materialRequirementId := "bolts"
  requisitionId := "need" ++ number
  generatedNumber := "R" ++ number
  lineId := "line" ++ number
  requestId := "request" ++ number

theorem boltShortage_sound : boltShortage.Sound :=
  { platform := ⟨rfl, by decide⟩
    ids := by decide +kernel
    uoms := by decide
    covered := by decide +kernel }

/-- The shortage is escalated, and what is in stock is issued. -/
def boltIssue : List MaterialCall :=
  [.escalate (storesKeeper fun _ => true) (boltEscalation "1"),
    .refresh (storesKeeper fun _ => true) "bolts" none,
    .update (storesKeeper fun _ => true)
      { materialRequirementId := "bolts", issuedQty := some (some 2) }]

theorem materialRun_covered_bolts :
    let last := sessionAfter MaterialCall.run (.clean boltShortage) boltIssue
    last.Both MaterialStore.Covered ∧ openQuantity last.committed.platform.inventory "bolts" = 3 :=
  ⟨(materialRun_covered boltIssue boltShortage boltShortage_sound (by decide +kernel)).1,
    by decide +kernel⟩

/-- A shortage that is escalated twice is ordered twice, and an escalation that cannot be
submitted leaves its requisition and the line behind. -/
theorem not_materialRun_covered_bolts :
    let keeper := storesKeeper fun _ => true
    let twice := sessionAfter MaterialCall.run (.clean boltShortage)
      [.escalate keeper (boltEscalation "1"), .escalate keeper (boltEscalation "2")]
    let refused := MaterialCall.run (.escalate (storesKeeper fun code => code ≠ "approval.request")
      { boltEscalation "1" with autoSubmit := true }) (.clean boltShortage)
    (¬ twice.committed.Covered ∧
        openQuantity twice.committed.platform.inventory "bolts" = 6) ∧
      refused.1.isSome = true ∧
      refused.2.committed.platform.inventory.requisitions.ids = ["need1"] ∧
      refused.2.committed.platform.inventory.requisitionLines.ids = ["line1"] := by
  decide +kernel

end ProjectManager.Maintenance
