import ProjectManager.Inventory.Items
import ProjectManager.Procurement.Calls

/-! # Runs of all calls on the inventory

Calls on stock, on reservations, on requisitions, orders and receipts, and on items
and their categories, made on one session. A posting reads the balances that are
stored; what was added before it is inserted together with it.
-/

namespace ProjectManager

open Foundation StockControlService

/-- Insert what was added, within a posting. -/
def insertAdded (store : PlatformStore) : Except DomainError PlatformStore :=
  store.flush.mapError fun _ =>
    validationError "Stock transaction number already exists." "INVENTORY_TRANSACTION_EXISTS"

/-- A call that makes one posting. -/
def postingOnSession (guarded : GuardedCall DomainError InventoryStore) :
    GuardedCall DomainError PlatformStore where
  Plan := guarded.Plan
  checks store := guarded.checks store.inventory
  body plan store := do
    let inventory ← guarded.body plan store.inventory
    insertAdded { store with inventory := inventory }

/-- A transfer makes two, and inserts what was added with the first. -/
def transferOnSession (service : InventoryService) (arguments : TransferArguments) :
    GuardedCall DomainError PlatformStore where
  Plan := TransferScope
  checks store := (transferStock service arguments).checks store.inventory
  body scope store := do
    let outbound ← postMovementTransaction service store.inventory
      (arguments.postingArguments scope scope.source .transferOut arguments.outboundIds) none 0
    let moved ← outbound.write store.inventory
    let flushed ← insertAdded { store with inventory := moved }
    let inbound ← postMovementTransaction service flushed.inventory
      (arguments.postingArguments scope scope.destination .transferIn arguments.inboundIds)
      (some outbound.transaction.unitCost) 0
    let arrived ← inbound.write flushed.inventory
    return { flushed with inventory := arrived }

/-- A receipt inserts what was added with its header. -/
def StockCall.onSession (service : InventoryService) :
    StockCall → GuardedCall DomainError PlatformStore
  | .transferStock arguments => transferOnSession service arguments
  | .postReceipt arguments => receivePurchaseOrder service arguments
  | call => postingOnSession (call.guarded service)

inductive InventoryCall
  | stock (call : StockCall)
  | procurement (call : ProcurementCall)
  | createItem (arguments : ItemMasterService.CreateArguments)
  | updateItem (itemId : String) (arguments : ItemMasterService.UpdateArguments)
  | createCategory (arguments : ItemCategoryService.CreateArguments)
  | updateCategory (categoryId : String) (arguments : ItemCategoryService.UpdateArguments)

def InventoryCall.program (service : InventoryService) : InventoryCall → ServiceProgram Unit
  | .stock call => Program.call (call.onSession service)
  | .procurement call => call.program service
  | .createItem arguments => Program.call (ItemMasterService.createItem service arguments)
  | .updateItem itemId arguments =>
      Program.call (ItemMasterService.updateItem service itemId arguments)
  | .createCategory arguments =>
      Program.call (ItemCategoryService.createCategory service arguments)
  | .updateCategory categoryId arguments =>
      Program.call (ItemCategoryService.updateCategory service categoryId arguments)

def runInventoryCall (call : InventoryService × InventoryCall) (session : Session PlatformStore) :
    Outcome DomainError PlatformStore :=
  (call.2.program call.1).outcome session

section

variable {service : InventoryService} {store next : PlatformStore}

theorem insertAdded_ok (h : insertAdded store = .ok next) : store.flush = .ok next := by
  unfold insertAdded at h
  cases hflush : store.flush with
  | error e =>
      rw [hflush] at h
      cases h
  | ok flushed =>
      rw [hflush] at h
      exact congrArg Except.ok (Except.ok.inj h)

end

end ProjectManager
