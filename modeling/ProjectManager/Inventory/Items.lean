import ProjectManager.Approval.Domain

/-! # Items and their categories

Creating and updating stock items, and the categories that items name by their code. An
update of an item replaces what it is given and keeps the rest; the units are resolved
first, then the remaining fields, the status last.
-/

namespace ProjectManager

open Foundation

def itemStatusTransitions : StockItemStatus → List StockItemStatus
  | .draft => [.active]
  | .active => [.inactive, .obsolete]
  | .inactive => [.active]
  | .obsolete => []

/-- `label.upper().replace(" ", "_")` with the suffix of a required field. -/
def requiredCode (label : String) : String :=
  String.ofList ((upper label).toList.map fun c => if c = ' ' then '_' else c) ++ "_REQUIRED"

def normalizeCode (value label : String) : Except DomainError String := do
  let normalized := upper (strip value)
  ensure (normalized ≠ "") (validationError (label ++ " is required.") (requiredCode label))
  return normalized

def normalizeName (value label : String) : Except DomainError String := do
  let normalized := strip value
  ensure (normalized ≠ "") (validationError (label ++ " is required.") (requiredCode label))
  return normalized

def normalizeNonnegativeDays (value : Option ℤ) (label : String) :
    Except DomainError (Option ℤ) := do
  ensure (∀ days ∈ value, 0 ≤ days)
    (validationError (label ++ " cannot be negative.") "INVENTORY_DAYS_INVALID")
  return value

/-- An empty status takes the default. -/
def normalizeItemStatus (value : Option String) (defaultStatus : StockItemStatus) :
    Except DomainError StockItemStatus :=
  let normalized := upper (normalizeOptionalText value)
  if normalized = "" then .ok defaultStatus
  else require
    ([StockItemStatus.draft, .active, .inactive, .obsolete].find? fun status =>
      status.value = normalized)
    (validationError "Inventory item status is invalid." "INVENTORY_STATUS_INVALID")

def resolveActiveFlagFromStatus (status : StockItemStatus) : Bool := status = .active

def resolveStatusFromActive (currentStatus : StockItemStatus) (isActive : Bool) :
    Except DomainError StockItemStatus := do
  let candidate := if isActive then .active else if currentStatus = .active then .inactive
    else currentStatus
  validateTransition StockItemStatus.value itemStatusTransitions currentStatus candidate
  return candidate

/-- Keep the stored value unless another one is given. -/
def givenOr {α β : Type} (given : Option α) (stored : β) (normalize : α → Except DomainError β) :
    Except DomainError β :=
  match given with
  | some value => normalize value
  | none => .ok stored

namespace ItemMasterService

structure CreateArguments where
  itemCode : String
  name : String
  description : String := ""
  itemType : String := ""
  status : Option String := none
  stockUom : String
  orderUom : Option String := none
  issueUom : Option String := none
  orderUomRatio : Option ℚ := none
  issueUomRatio : Option ℚ := none
  categoryCode : String := ""
  commodityCode : String := ""
  isStocked : Bool := true
  isPurchaseAllowed : Bool := true
  defaultReorderPolicy : String := ""
  minQty : ℚ := 0
  maxQty : ℚ := 0
  reorderPoint : ℚ := 0
  reorderQty : ℚ := 0
  leadTimeDays : Option ℤ := none
  isLotTracked : Bool := false
  isSerialTracked : Bool := false
  shelfLifeDays : Option ℤ := none
  preferredPartyId : Option String := none
  notes : String := ""
  itemId : String

structure UpdateArguments where
  itemCode : Option String := none
  name : Option String := none
  description : Option String := none
  itemType : Option String := none
  status : Option String := none
  isStocked : Option Bool := none
  isPurchaseAllowed : Option Bool := none
  stockUom : Option String := none
  orderUom : Option String := none
  issueUom : Option String := none
  orderUomRatio : Option ℚ := none
  issueUomRatio : Option ℚ := none
  categoryCode : Option String := none
  commodityCode : Option String := none
  defaultReorderPolicy : Option String := none
  minQty : Option ℚ := none
  maxQty : Option ℚ := none
  reorderPoint : Option ℚ := none
  reorderQty : Option ℚ := none
  leadTimeDays : Option ℤ := none
  isLotTracked : Option Bool := none
  isSerialTracked : Option Bool := none
  shelfLifeDays : Option ℤ := none
  preferredPartyId : Option String := none
  isActive : Option Bool := none
  notes : Option String := none
  expectedVersion : Option ℕ := none

section

variable (service : InventoryService) (store : PlatformStore)

def validatePartyReference (partyId : Option String) : Except DomainError (Option String) :=
  let normalized := normalizeOptionalText partyId
  if normalized = "" then .ok none
  else do
    let party ← getPlatformParty service store normalized
    ensure (party.isActive = true)
      (validationError "Preferred party must be active." "INVENTORY_PARTY_INACTIVE")
    ensure (party.partyType ∈ businessPartyTypes)
      (validationError
        "Preferred party must be a supplier, vendor, contractor, or service provider."
        "INVENTORY_PARTY_SCOPE_INVALID")
    return some party.id

def findCategoryByCode (organizationId categoryCode : String) : Option InventoryItemCategory :=
  store.inventory.categories.rows.find? fun category =>
    category.organizationId = organizationId ∧ category.categoryCode = categoryCode

/-- The code and the category that it names; the stored code is not looked up again. -/
def resolveCategoryReference (organizationId categoryCode existingCode : String) :
    Except DomainError (String × Option InventoryItemCategory) :=
  let normalized := upper (strip categoryCode)
  let existing := upper (strip existingCode)
  if normalized = "" then .ok ("", none)
  else if existing ≠ "" ∧ normalized = existing then
    .ok (normalized, findCategoryByCode store organizationId normalized)
  else do
    let category ← require
      ((findCategoryByCode store organizationId normalized).filter fun category =>
        category.isActive)
      (validationError "Category code must reference an active inventory item category."
        "INVENTORY_CATEGORY_NOT_FOUND")
    return (category.categoryCode, some category)

def getByCode (organizationId itemCode : String) : Option StockItem :=
  store.inventory.items.rows.find? fun item =>
    item.organizationId = organizationId ∧ item.itemCode = itemCode

def itemCodeExists : DomainError :=
  validationError "Item code already exists in the active organization."
    "INVENTORY_ITEM_CODE_EXISTS"

def validateUomConfiguration (item : StockItem) : Except DomainError Unit :=
  ensure (¬ (item.orderUom = item.issueUom ∧
      1 / 10 ^ 9 < |item.orderUomRatio - item.issueUomRatio|))
    (validationError "Order and issue UOM factors must match when they use the same UOM code."
      "INVENTORY_UOM_FACTOR_CONFLICT")

def validateReorderQuantities (item : StockItem) : Except DomainError Unit := do
  ensure (¬ (item.maxQty ≠ 0 ∧ item.maxQty < item.minQty))
    (validationError "Maximum quantity cannot be less than minimum quantity."
      "INVENTORY_REORDER_RANGE_INVALID")
  ensure (¬ (item.maxQty ≠ 0 ∧ item.maxQty < item.reorderPoint))
    (validationError "Reorder point cannot exceed maximum quantity."
      "INVENTORY_REORDER_POINT_INVALID")

def prepareItem (arguments : CreateArguments) : Except DomainError StockItem := do
  service.requireManage "create inventory item"
  let organizationId ← activeOrganization service
  let itemCode ← normalizeCode arguments.itemCode "Item code"
  ensure (getByCode store organizationId itemCode = none) itemCodeExists
  let stockUom ← normalizeUom arguments.stockUom "Stock UOM"
  let orderUom ← normalizeUom (orElse (arguments.orderUom.getD "") arguments.stockUom) "Order UOM"
  let issueUom ← normalizeUom (orElse (arguments.issueUom.getD "") arguments.stockUom) "Issue UOM"
  let (categoryCode, category) ← resolveCategoryReference store organizationId
    arguments.categoryCode ""
  let status ← normalizeItemStatus arguments.status .draft
  let name ← normalizeName arguments.name "Item name"
  let orderUomRatio ← resolveConfiguredUomRatio orderUom stockUom arguments.orderUomRatio
    "Order" "order"
  let issueUomRatio ← resolveConfiguredUomRatio issueUom stockUom arguments.issueUomRatio
    "Issue" "issue"
  let minQty ← normalizeNonnegativeQuantity arguments.minQty "Minimum quantity"
  let maxQty ← normalizeNonnegativeQuantity arguments.maxQty "Maximum quantity"
  let reorderPoint ← normalizeNonnegativeQuantity arguments.reorderPoint "Reorder point"
  let reorderQty ← normalizeNonnegativeQuantity arguments.reorderQty "Reorder quantity"
  let leadTimeDays ← normalizeNonnegativeDays arguments.leadTimeDays "Lead time days"
  let shelfLifeDays ← normalizeNonnegativeDays arguments.shelfLifeDays "Shelf life days"
  let preferredPartyId ← validatePartyReference service store arguments.preferredPartyId
  let item : StockItem := {
    id := arguments.itemId
    organizationId := organizationId
    itemCode := itemCode
    name := name
    description := strip arguments.description
    itemType := orElse (upper (strip arguments.itemType))
      ((category.map InventoryItemCategory.categoryType).getD "")
    status := status
    stockUom := stockUom
    orderUom := orderUom
    issueUom := issueUom
    orderUomRatio := orderUomRatio
    issueUomRatio := issueUomRatio
    categoryCode := categoryCode
    commodityCode := upper (strip arguments.commodityCode)
    isStocked := arguments.isStocked
    isPurchaseAllowed := arguments.isPurchaseAllowed
    isActive := resolveActiveFlagFromStatus status
    defaultReorderPolicy := upper (strip arguments.defaultReorderPolicy)
    minQty := minQty
    maxQty := maxQty
    reorderPoint := reorderPoint
    reorderQty := reorderQty
    leadTimeDays := leadTimeDays
    isLotTracked := arguments.isLotTracked
    isSerialTracked := arguments.isSerialTracked
    shelfLifeDays := shelfLifeDays
    preferredPartyId := preferredPartyId
    notes := strip arguments.notes }
  validateUomConfiguration item
  validateReorderQuantities item
  return item

def createItem (arguments : CreateArguments) : GuardedCall DomainError PlatformStore :=
  inventoryCall (fun store => prepareItem service store arguments) fun item store => do
    ensure (item.id ∉ store.items.ids) itemCodeExists
    return { store with items := store.items.insert item }

/-! ## Update -/

def updateTexts (arguments : UpdateArguments) (item : StockItem) : Except DomainError StockItem := do
  let itemCode ← givenOr arguments.itemCode item.itemCode fun given => do
    let normalized ← normalizeCode given "Item code"
    ensure (∀ existing ∈ getByCode store item.organizationId normalized, existing.id = item.id)
      itemCodeExists
    return normalized
  let name ← givenOr arguments.name item.name fun given => normalizeName given "Item name"
  return { item with
    itemCode := itemCode
    name := name
    description := (arguments.description.map strip).getD item.description
    itemType := (arguments.itemType.map fun given => upper (strip given)).getD item.itemType }

/-- An order or issue unit: the one given, or the stored one, which follows the stock unit when
it was the same. -/
def updatedUom (given : Option String) (stored : String) (stockGiven : Bool)
    (previousStockUom stockUom label : String) : Except DomainError String :=
  givenOr given
    (if stockGiven ∧ upper (strip stored) = previousStockUom then stockUom else stored)
    fun uom => normalizeUom uom label

def requireUomFactor (stockGiven : Bool) (uom stockUom : String) (ratio : Option ℚ)
    (label lower : String) : Except DomainError Unit :=
  ensure (¬ (stockGiven = true ∧ uom ≠ stockUom ∧ ratio = none))
    (validationError
      (label ++ " UOM factor must be provided when stock UOM changes and " ++ lower ++
        " UOM remains different.")
      "INVENTORY_UOM_FACTOR_REQUIRED")

def updateUoms (arguments : UpdateArguments) (item : StockItem) : Except DomainError StockItem := do
  let stockGiven := arguments.stockUom.isSome
  let stockUom ← givenOr arguments.stockUom item.stockUom fun given =>
    normalizeUom given "Stock UOM"
  let orderUom ← updatedUom arguments.orderUom item.orderUom stockGiven item.stockUom stockUom
    "Order UOM"
  let issueUom ← updatedUom arguments.issueUom item.issueUom stockGiven item.stockUom stockUom
    "Issue UOM"
  requireUomFactor stockGiven orderUom stockUom arguments.orderUomRatio "Order" "order"
  requireUomFactor stockGiven issueUom stockUom arguments.issueUomRatio "Issue" "issue"
  let orderUomRatio ← resolveConfiguredUomRatio orderUom stockUom
    (some (arguments.orderUomRatio.getD item.orderUomRatio)) "Order" "order"
  let issueUomRatio ← resolveConfiguredUomRatio issueUom stockUom
    (some (arguments.issueUomRatio.getD item.issueUomRatio)) "Issue" "issue"
  return { item with
    stockUom := stockUom
    orderUom := orderUom
    issueUom := issueUom
    orderUomRatio := orderUomRatio
    issueUomRatio := issueUomRatio }

def updateSettings (arguments : UpdateArguments) (item : StockItem) :
    Except DomainError StockItem := do
  let categoryCode ← givenOr arguments.categoryCode item.categoryCode fun given =>
    Prod.fst <$> resolveCategoryReference store item.organizationId given item.categoryCode
  let minQty ← givenOr arguments.minQty item.minQty fun given =>
    normalizeNonnegativeQuantity given "Minimum quantity"
  let maxQty ← givenOr arguments.maxQty item.maxQty fun given =>
    normalizeNonnegativeQuantity given "Maximum quantity"
  let reorderPoint ← givenOr arguments.reorderPoint item.reorderPoint fun given =>
    normalizeNonnegativeQuantity given "Reorder point"
  let reorderQty ← givenOr arguments.reorderQty item.reorderQty fun given =>
    normalizeNonnegativeQuantity given "Reorder quantity"
  let leadTimeDays ← givenOr arguments.leadTimeDays item.leadTimeDays fun given =>
    normalizeNonnegativeDays (some given) "Lead time days"
  let shelfLifeDays ← givenOr arguments.shelfLifeDays item.shelfLifeDays fun given =>
    normalizeNonnegativeDays (some given) "Shelf life days"
  let preferredPartyId ← givenOr arguments.preferredPartyId item.preferredPartyId fun given =>
    validatePartyReference service store (some given)
  return { item with
    categoryCode := categoryCode
    commodityCode :=
      (arguments.commodityCode.map fun given => upper (strip given)).getD item.commodityCode
    isStocked := arguments.isStocked.getD item.isStocked
    isPurchaseAllowed := arguments.isPurchaseAllowed.getD item.isPurchaseAllowed
    defaultReorderPolicy := (arguments.defaultReorderPolicy.map fun given =>
      upper (strip given)).getD item.defaultReorderPolicy
    minQty := minQty
    maxQty := maxQty
    reorderPoint := reorderPoint
    reorderQty := reorderQty
    leadTimeDays := leadTimeDays
    isLotTracked := arguments.isLotTracked.getD item.isLotTracked
    isSerialTracked := arguments.isSerialTracked.getD item.isSerialTracked
    shelfLifeDays := shelfLifeDays
    preferredPartyId := preferredPartyId }

/-- A given status goes before a given active flag. -/
def updatedStatus (arguments : UpdateArguments) (item : StockItem) :
    Except DomainError StockItemStatus :=
  match arguments.status, arguments.isActive with
  | some given, _ => do
      let nextStatus ← normalizeItemStatus (some given) item.status
      validateTransition StockItemStatus.value itemStatusTransitions item.status nextStatus
      return nextStatus
  | none, some isActive => resolveStatusFromActive item.status isActive
  | none, none => .ok item.status

def updateStatus (arguments : UpdateArguments) (item : StockItem) :
    Except DomainError StockItem := do
  let nextStatus ← updatedStatus arguments item
  return { item with
    status := nextStatus
    isActive := resolveActiveFlagFromStatus nextStatus
    notes := (arguments.notes.map strip).getD item.notes }

def prepareUpdatedItem (itemId : String) (arguments : UpdateArguments) :
    Except DomainError StockItem := do
  service.requireManage "update inventory item"
  let item ← getItemForInternalUse service store.inventory itemId
  ensure (∀ version ∈ arguments.expectedVersion, item.version = version)
    (staleWrite "Inventory item")
  let named ← updateTexts store arguments item
  let measured ← updateUoms arguments named
  let set ← updateSettings service store arguments measured
  let updated ← updateStatus arguments set
  validateUomConfiguration updated
  validateReorderQuantities updated
  return updated

def writeItem (store : InventoryStore) (item : StockItem) : InventoryStore :=
  { store with items := store.items.update { item with version := item.version + 1 } }

def updateItem (itemId : String) (arguments : UpdateArguments) :
    GuardedCall DomainError PlatformStore :=
  inventoryCall (fun store => prepareUpdatedItem service store itemId arguments)
    fun item store => .ok (writeItem store item)

end

end ItemMasterService

/-! ## Categories -/

def itemCategoryTypes : List String :=
  ["CONSUMABLE", "SPARE", "EQUIPMENT", "TOOL", "CHEMICAL", "MATERIAL", "SERVICE", "OTHER"]

def normalizeItemCategoryType (value : Option String) : Except DomainError String := do
  let normalized := orElse (upper (normalizeOptionalText value)) "MATERIAL"
  ensure (normalized ∈ itemCategoryTypes)
    (validationError "Item category type is invalid." "INVENTORY_CATEGORY_TYPE_INVALID")
  return normalized

namespace ItemCategoryService

structure CreateArguments where
  categoryCode : String
  name : String
  description : String := ""
  categoryType : String := "MATERIAL"
  isEquipment : Bool := false
  supportsProjectUsage : Bool := false
  supportsMaintenanceUsage : Bool := false
  isActive : Bool := true
  categoryId : String

structure UpdateArguments where
  categoryCode : Option String := none
  name : Option String := none
  description : Option String := none
  categoryType : Option String := none
  isEquipment : Option Bool := none
  supportsProjectUsage : Option Bool := none
  supportsMaintenanceUsage : Option Bool := none
  isActive : Option Bool := none
  expectedVersion : Option ℕ := none

def categoryCodeExists : DomainError :=
  validationError "Category code already exists in the active organization."
    "INVENTORY_CATEGORY_CODE_EXISTS"

section

variable (service : InventoryService) (store : PlatformStore)

def prepareCategory (arguments : CreateArguments) : Except DomainError InventoryItemCategory := do
  service.requireManage "create inventory item category"
  let organizationId ← activeOrganization service
  let categoryCode ← normalizeCode arguments.categoryCode "Category code"
  ensure (ItemMasterService.findCategoryByCode store organizationId categoryCode = none)
    categoryCodeExists
  let categoryType ← normalizeItemCategoryType (some arguments.categoryType)
  let name ← normalizeName arguments.name "Category name"
  return {
    id := arguments.categoryId
    organizationId := organizationId
    categoryCode := categoryCode
    name := name
    description := strip arguments.description
    categoryType := categoryType
    isEquipment := arguments.isEquipment || categoryType = "EQUIPMENT"
    supportsProjectUsage := arguments.supportsProjectUsage
    supportsMaintenanceUsage := arguments.supportsMaintenanceUsage
    isActive := arguments.isActive }

def createCategory (arguments : CreateArguments) : GuardedCall DomainError PlatformStore :=
  inventoryCall (fun store => prepareCategory service store arguments) fun category store => do
    ensure (category.id ∉ store.categories.ids) categoryCodeExists
    return { store with categories := store.categories.insert category }

def prepareUpdatedCategory (categoryId : String) (arguments : UpdateArguments) :
    Except DomainError InventoryItemCategory := do
  service.requireManage "update inventory item category"
  let organizationId ← activeOrganization service
  let category ← require
    ((store.inventory.categories.get? categoryId).filter fun row =>
      row.organizationId = organizationId)
    (notFoundError "Inventory item category not found in the active organization."
      "INVENTORY_CATEGORY_NOT_FOUND")
  ensure (∀ version ∈ arguments.expectedVersion, category.version = version)
    (staleWrite "Inventory item category")
  let categoryCode ← givenOr arguments.categoryCode category.categoryCode fun given => do
    let normalized ← normalizeCode given "Category code"
    ensure (∀ existing ∈ ItemMasterService.findCategoryByCode store organizationId normalized,
        existing.id = category.id)
      categoryCodeExists
    return normalized
  let name ← givenOr arguments.name category.name fun given => normalizeName given "Category name"
  let categoryType ← givenOr arguments.categoryType category.categoryType fun given =>
    normalizeItemCategoryType (some given)
  return { category with
    categoryCode := categoryCode
    name := name
    description := (arguments.description.map strip).getD category.description
    categoryType := categoryType
    isEquipment := categoryType = "EQUIPMENT" || arguments.isEquipment.getD category.isEquipment
    supportsProjectUsage := arguments.supportsProjectUsage.getD category.supportsProjectUsage
    supportsMaintenanceUsage :=
      arguments.supportsMaintenanceUsage.getD category.supportsMaintenanceUsage
    isActive := arguments.isActive.getD category.isActive }

def updateCategory (categoryId : String) (arguments : UpdateArguments) :
    GuardedCall DomainError PlatformStore :=
  inventoryCall (fun store => prepareUpdatedCategory service store categoryId arguments)
    fun category store => .ok { store with
      categories := store.categories.update { category with version := category.version + 1 } }

end

end ItemCategoryService

end ProjectManager
