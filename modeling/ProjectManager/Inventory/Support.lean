import Mathlib.Algebra.Order.Field.Rat
import ProjectManager.Inventory.Domain

/-! # Quantities, units of measure and status transitions

A quantity counts in the item's stock unit through the factors of its units:
the stock unit counts once, the order and issue units by their ratios.
-/

namespace ProjectManager

open Foundation

/-! ## Status transitions -/

def reservationStatusTransitions : StockReservationStatus → List StockReservationStatus
  | .active => [.partiallyIssued, .fullyIssued, .released, .cancelled]
  | .partiallyIssued => [.fullyIssued, .released]
  | .fullyIssued => []
  | .released => []
  | .cancelled => []

def requisitionStatusTransitions : PurchaseRequisitionStatus → List PurchaseRequisitionStatus
  | .draft => [.submitted, .cancelled]
  | .submitted => [.underReview, .approved, .rejected, .cancelled]
  | .underReview => [.approved, .rejected, .cancelled]
  | .approved => [.partiallySourced, .fullySourced, .cancelled]
  | .partiallySourced => [.fullySourced, .cancelled]
  | .fullySourced => [.closed]
  | .rejected => []
  | .cancelled => []
  | .closed => []

def purchaseOrderStatusTransitions : PurchaseOrderStatus → List PurchaseOrderStatus
  | .draft => [.submitted, .cancelled]
  | .submitted => [.underReview, .approved, .rejected, .cancelled]
  | .underReview => [.approved, .rejected, .cancelled]
  | .approved => [.sent, .partiallyReceived, .fullyReceived, .cancelled, .closed]
  | .sent => [.partiallyReceived, .fullyReceived, .cancelled, .closed]
  | .partiallyReceived => [.fullyReceived, .closed, .cancelled]
  | .fullyReceived => [.closed]
  | .rejected => []
  | .cancelled => []
  | .closed => []

def validateTransition {Status : Type} [DecidableEq Status] (value : Status → String)
    (transitions : Status → List Status) (currentStatus nextStatus : Status) :
    Except DomainError Unit :=
  ensure (nextStatus = currentStatus ∨ nextStatus ∈ transitions currentStatus)
    (validationError
      ("Status transition " ++ value currentStatus ++ " -> " ++ value nextStatus ++
        " is not allowed.")
      "INVENTORY_STATUS_TRANSITION_INVALID")

/-! ## Texts and quantities -/

def normalizeOptionalText (value : Option String) : String := strip (value.getD "")

def inventorySourceReferenceTypes : List String :=
  ["task", "work_order", "maintenance_task", "maintenance_work_order", "maintenance_request",
    "maintenance_operation", "maintenance_plan", "maintenance_material_demand", "reservation",
    "requisition", "purchase_order"]

def normalizeSourceReferenceType (value : String) : Except DomainError String := do
  let normalized := lower (strip value)
  ensure (normalized = "" ∨ normalized ∈ inventorySourceReferenceTypes)
    (validationError "Source reference type is invalid." "INVENTORY_SOURCE_REFERENCE_TYPE_INVALID")
  return normalized

/-- A given date that is no ISO date is `some none`. -/
def normalizeOptionalDate (value : Option (Option Date)) (label : String) :
    Except DomainError (Option Date) :=
  match value with
  | none => .ok none
  | some parsed => do
      let date ← require parsed (validationError (label ++ " must use ISO date format YYYY-MM-DD.")
        "INVENTORY_DATE_INVALID")
      return some date

def normalizeUom (value label : String) : Except DomainError String := do
  let normalized := upper (strip value)
  ensure (normalized ≠ "") (validationError (label ++ " is required.") "INVENTORY_UOM_REQUIRED")
  return normalized

def normalizeNonnegativeQuantity (value : ℚ) (label : String) : Except DomainError ℚ := do
  ensure (0 ≤ value)
    (validationError (label ++ " cannot be negative.") "INVENTORY_QUANTITY_INVALID")
  return value

def normalizePositiveQuantity (value : ℚ) (label : String) : Except DomainError ℚ := do
  ensure (0 < value)
    (validationError (label ++ " must be greater than zero.") "INVENTORY_QUANTITY_REQUIRED")
  return value

/-- `uom or item.stock_uom` -/
def givenUom (uom : Option String) (item : StockItem) : String :=
  orElse (uom.getD "") item.stockUom

/-! ## Units of measure -/

def resolveConfiguredUomRatio (uom stockUom : String) (ratio : Option ℚ) (label lower : String) :
    Except DomainError ℚ := do
  let normalizedStockUom ← normalizeUom stockUom "Stock UOM"
  let normalizedUom ← normalizeUom uom (label ++ " UOM")
  if normalizedUom = normalizedStockUom then
    return 1
  else
    let factor ← require ratio (validationError
      (label ++ " UOM factor is required when " ++ lower ++ " UOM differs from stock UOM.")
      "INVENTORY_UOM_FACTOR_REQUIRED")
    ensure (0 < factor) (validationError (label ++ " UOM factor must be greater than zero.")
      "INVENTORY_UOM_FACTOR_REQUIRED")
    return factor

/-- The factor of a unit that the item has; its ratio may still be refused. -/
def configuredUomFactor (item : StockItem) (normalizedUom : String) :
    Option (Except DomainError ℚ) :=
  if normalizedUom = item.stockUom then
    some (.ok 1)
  else if normalizedUom = item.orderUom then
    some (resolveConfiguredUomRatio item.orderUom item.stockUom (some item.orderUomRatio)
      "Order" "order")
  else if normalizedUom = item.issueUom then
    some (resolveConfiguredUomRatio item.issueUom item.stockUom (some item.issueUomRatio)
      "Issue" "issue")
  else none

def resolveItemUomFactor (item : StockItem) (uom label : String) : Except DomainError ℚ := do
  let normalizedUom ← normalizeUom uom label
  let factor ← require (configuredUomFactor item normalizedUom) (validationError
    (label ++ " must match the item's configured stock UOM or supported order/issue UOM.")
    "INVENTORY_UOM_CONVERSION_REQUIRED")
  factor

def convertItemQuantity (item : StockItem) (quantity : ℚ) (fromUom toUom label : String) :
    Except DomainError ℚ := do
  let fromFactor ← resolveItemUomFactor item fromUom label
  let toFactor ← resolveItemUomFactor item toUom label
  return quantity * fromFactor / toFactor

def convertItemUnitCostToStock (item : StockItem) (unitCost : ℚ) (uom label : String) :
    Except DomainError ℚ := do
  let factor ← resolveItemUomFactor item uom label
  let cost ← normalizeNonnegativeQuantity unitCost label
  return cost / factor

/-! ## What a unit counts -/

/-- The factor of a unit, or zero for a unit that the item does not have. -/
def uomFactor (item : StockItem) (uom : String) : ℚ :=
  (resolveItemUomFactor item uom "").toOption.getD 0

def stockQuantity (item : StockItem) (quantity : ℚ) (uom : String) : ℚ :=
  quantity * uomFactor item uom / uomFactor item item.stockUom

theorem normalizeUom_eq_ok {value label normalized : String} :
    normalizeUom value label = .ok normalized ↔
      normalized = upper (strip value) ∧ normalized ≠ "" := by
  unfold normalizeUom
  rw [bind_eq_ok]
  constructor
  · rintro ⟨_, hensure, h⟩
    obtain rfl := Except.ok.inj h
    exact ⟨rfl, ensure_eq_ok.mp hensure⟩
  · rintro ⟨rfl, h⟩
    exact ⟨(), ensure_eq_ok.mpr h, rfl⟩

/-- Normalizing a normalized unit changes nothing. -/
theorem normalizeUom_normalized {value label normalized : String}
    (h : normalizeUom value label = .ok normalized) (other : String) :
    normalizeUom normalized other = .ok normalized := by
  obtain ⟨rfl, hne⟩ := normalizeUom_eq_ok.mp h
  refine normalizeUom_eq_ok.mpr ⟨?_, hne⟩
  rw [strip_upper_strip, upper_upper]

theorem resolveConfiguredUomRatio_pos {uom stockUom label lower : String} {ratio : Option ℚ}
    {factor : ℚ} (h : resolveConfiguredUomRatio uom stockUom ratio label lower = .ok factor) :
    0 < factor := by
  iterate 2 obtain ⟨_, -, h⟩ := bind_ok h
  split at h
  · obtain rfl := Except.ok.inj h
    exact one_pos
  · obtain ⟨_, -, h⟩ := bind_ok h
    obtain ⟨_, hpos, h⟩ := bind_ok h
    cases h
    exact ensure_eq_ok.mp hpos

theorem configuredUomFactor_pos {item : StockItem} {normalizedUom : String} {factor : ℚ}
    (h : configuredUomFactor item normalizedUom = some (.ok factor)) : 0 < factor := by
  unfold configuredUomFactor at h
  split at h
  · obtain rfl := Except.ok.inj (Option.some.inj h)
    exact one_pos
  split at h
  · exact resolveConfiguredUomRatio_pos (Option.some.inj h)
  split at h
  · exact resolveConfiguredUomRatio_pos (Option.some.inj h)
  · cases h

theorem resolveItemUomFactor_eq_ok {item : StockItem} {uom label : String} {factor : ℚ} :
    resolveItemUomFactor item uom label = .ok factor ↔
      upper (strip uom) ≠ "" ∧
        configuredUomFactor item (upper (strip uom)) = some (.ok factor) := by
  unfold resolveItemUomFactor
  rw [bind_eq_ok]
  constructor
  · rintro ⟨_, hnormalized, h⟩
    obtain ⟨rfl, hne⟩ := normalizeUom_eq_ok.mp hnormalized
    obtain ⟨_, hfactor, rfl⟩ := bind_ok h
    exact ⟨hne, require_eq_ok.mp hfactor⟩
  · rintro ⟨hne, hfactor⟩
    exact ⟨_, normalizeUom_eq_ok.mpr ⟨rfl, hne⟩, bind_eq_ok.mpr ⟨_, require_eq_ok.mpr hfactor, rfl⟩⟩

/-- The label only names the unit in errors. -/
theorem uomFactor_of_resolved {item : StockItem} {uom label : String} {factor : ℚ}
    (h : resolveItemUomFactor item uom label = .ok factor) : uomFactor item uom = factor := by
  have hfactor : resolveItemUomFactor item uom "" = .ok factor :=
    resolveItemUomFactor_eq_ok.mpr (resolveItemUomFactor_eq_ok.mp h)
  rw [uomFactor, hfactor]
  rfl

theorem resolveItemUomFactor_pos {item : StockItem} {uom label : String} {factor : ℚ}
    (h : resolveItemUomFactor item uom label = .ok factor) : 0 < factor :=
  configuredUomFactor_pos (resolveItemUomFactor_eq_ok.mp h).2

/-- A unit is known to an item when its factor is positive. -/
theorem resolveItemUomFactor_iff {item : StockItem} {uom label : String} {factor : ℚ} :
    resolveItemUomFactor item uom label = .ok factor ↔
      uomFactor item uom = factor ∧ 0 < uomFactor item uom := by
  constructor
  · intro h
    rw [uomFactor_of_resolved h]
    exact ⟨rfl, resolveItemUomFactor_pos h⟩
  · rintro ⟨rfl, hpos⟩
    cases h : resolveItemUomFactor item uom "" with
    | error e =>
        rw [uomFactor, h] at hpos
        exact absurd hpos (lt_irrefl 0)
    | ok factor =>
        rw [uomFactor_of_resolved h]
        exact resolveItemUomFactor_eq_ok.mpr (resolveItemUomFactor_eq_ok.mp h)

/-- A unit counts as its normalized text. -/
theorem uomFactor_normalized {item : StockItem} {uom label normalized : String}
    (h : normalizeUom uom label = .ok normalized) :
    uomFactor item normalized = uomFactor item uom := by
  have hboth : normalizeUom normalized "" = normalizeUom uom "" := by
    rw [normalizeUom_normalized h]
    exact (normalizeUom_eq_ok.mpr (normalizeUom_eq_ok.mp h)).symm
  unfold uomFactor resolveItemUomFactor
  rw [hboth]

theorem convertItemQuantity_eq {item : StockItem} {quantity converted : ℚ}
    {fromUom toUom label : String}
    (h : convertItemQuantity item quantity fromUom toUom label = .ok converted) :
    converted = quantity * uomFactor item fromUom / uomFactor item toUom ∧
      0 < uomFactor item fromUom ∧ 0 < uomFactor item toUom := by
  obtain ⟨fromFactor, hfrom, h⟩ := bind_ok h
  obtain ⟨toFactor, hto, h⟩ := bind_ok h
  cases h
  rw [uomFactor_of_resolved hfrom, uomFactor_of_resolved hto]
  exact ⟨rfl, resolveItemUomFactor_pos hfrom, resolveItemUomFactor_pos hto⟩

theorem convertItemQuantity_iff {item : StockItem} {quantity converted : ℚ}
    {fromUom toUom label : String} :
    convertItemQuantity item quantity fromUom toUom label = .ok converted ↔
      (0 < uomFactor item fromUom ∧ 0 < uomFactor item toUom) ∧
        converted = quantity * uomFactor item fromUom / uomFactor item toUom := by
  constructor
  · intro h
    exact ⟨(convertItemQuantity_eq h).2, (convertItemQuantity_eq h).1⟩
  · rintro ⟨⟨hfrom, hto⟩, rfl⟩
    exact bind_eq_ok.mpr ⟨_, resolveItemUomFactor_iff.mpr ⟨rfl, hfrom⟩,
      bind_eq_ok.mpr ⟨_, resolveItemUomFactor_iff.mpr ⟨rfl, hto⟩, rfl⟩⟩

theorem convertItemQuantity_stock {item : StockItem} {quantity converted : ℚ}
    {uom label : String}
    (h : convertItemQuantity item quantity uom item.stockUom label = .ok converted) :
    converted = stockQuantity item quantity uom :=
  (convertItemQuantity_eq h).1

theorem stockQuantity_sub (item : StockItem) (first second : ℚ) (uom : String) :
    stockQuantity item (first - second) uom =
      stockQuantity item first uom - stockQuantity item second uom := by
  unfold stockQuantity
  ring

theorem stockQuantity_zero (item : StockItem) (uom : String) : stockQuantity item 0 uom = 0 := by
  unfold stockQuantity
  ring

end ProjectManager
