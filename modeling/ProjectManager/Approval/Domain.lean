import ProjectManager.Domain.Projects
import ProjectManager.Foundation.KeptStates
import ProjectManager.Procurement.Support

/-! # Approval requests and the platform store

A request for a governed change waits for a decision. The store holds the
requests beside the sites and parties of the organization, the rows of the
inventory and the projects. Sessions do not flush by themselves: a balance that was added is
seen by no query before the next flush, which refuses two balances of one
position.
-/

namespace ProjectManager

open Foundation

inductive ApprovalStatus
  | pending
  | approved
  | rejected
  deriving DecidableEq, Repr

/-- What a request asks to be done, as far as its handler reads it. -/
inductive ApprovalPayload
  | empty
  | addDependency (predecessorId successorId : String) (dependencyType : DependencyType)
      (lagDays : ℤ)
  | removeDependency (dependencyId : String)
  deriving DecidableEq

structure ApprovalRequest where
  id : String
  requestType : String
  entityType : String
  entityId : String
  projectId : Option String := none
  status : ApprovalStatus := .pending
  requestedByUserId : Option String := none
  requestedByUsername : Option String := none
  decidedByUserId : Option String := none
  decidedByUsername : Option String := none
  decidedAt : Option Moment := none
  decisionNote : Option String := none
  payload : ApprovalPayload := .empty
  deriving DecidableEq

structure Site where
  id : String
  organizationId : String
  currencyCode : String := ""
  isActive : Bool := true
  deriving DecidableEq

inductive PartyType
  | general
  | supplier
  | manufacturer
  | vendor
  | contractor
  | serviceProvider
  deriving DecidableEq, Repr

structure Party where
  id : String
  organizationId : String
  partyType : PartyType := .general
  isActive : Bool := true
  deriving DecidableEq

def businessPartyTypes : List PartyType :=
  [.supplier, .manufacturer, .vendor, .contractor, .serviceProvider]

/-- The database refuses a second balance of a position. -/
def takenStockPosition : DomainError where
  errorClass := .integrityError
  message := "UNIQUE constraint failed: inventory_stock_balances.organization_id, inventory_stock_balances.stock_item_id, inventory_stock_balances.storeroom_id"

structure PlatformStore where
  sites : Table Site.id
  parties : Table Party.id
  approvals : Table ApprovalRequest.id
  inventory : InventoryStore
  addedBalances : List StockBalance := []
  projects : ProjectStore := {}

namespace PlatformStore

/-- Insert the balances that were added since the last flush. -/
def flush (store : PlatformStore) : Except DomainError PlatformStore := do
  let inventory ← store.addedBalances.foldlM (fun (current : InventoryStore) balance => do
    ensure (balance.position ∉ current.balances.ids) takenStockPosition
    return storeBalance current true balance) store.inventory
  return { store with inventory := inventory, addedBalances := [] }

theorem flush_settled {store : PlatformStore} (h : store.addedBalances = []) :
    store.flush = .ok store := by
  unfold flush
  rw [h]
  cases store
  cases h
  rfl

end PlatformStore

/-- A program of a service on the session of the platform. -/
abbrev ServiceProgram := Program DomainError PlatformStore

namespace ServiceProgram

variable {α : Type}

def read (f : PlatformStore → Except DomainError α) : ServiceProgram α := Program.check f

def write (f : InventoryStore → Except DomainError InventoryStore) : ServiceProgram Unit :=
  Program.step fun store => do
    let inventory ← f store.inventory
    return { store with inventory := inventory }

def commit : ServiceProgram Unit := Program.commit PlatformStore.flush

/-- Flush what was added; a flush that is refused rolls the transaction back. -/
def flush : ServiceProgram Unit := Program.rollingBack (Program.step PlatformStore.flush)

section

variable {session : Session PlatformStore} {raises : DomainError → Session PlatformStore → Prop}

theorem spec_read {f : PlatformStore → Except DomainError α}
    {returns : α → Session PlatformStore → Prop} :
    (read f).Spec session returns raises ↔
      match f session.pending with
      | .ok value => returns value session
      | .error e => raises e session := by
  unfold read
  rw [Program.spec_check]
  cases f session.pending <;> rfl

theorem spec_write {f : InventoryStore → Except DomainError InventoryStore}
    {returns : Unit → Session PlatformStore → Prop} :
    (write f).Spec session returns raises ↔
      match f session.pending.inventory with
      | .ok inventory =>
          returns () { session with pending := { session.pending with inventory := inventory } }
      | .error e => raises e session := by
  unfold write
  rw [Program.spec_step]
  cases f session.pending.inventory <;> rfl

theorem spec_write_ok {g : InventoryStore → InventoryStore}
    {returns : Unit → Session PlatformStore → Prop} :
    (write fun store => .ok (g store)).Spec session returns raises ↔
      returns () { session with
        pending := { session.pending with inventory := g session.pending.inventory } } :=
  Iff.rfl

theorem spec_commit {returns : Unit → Session PlatformStore → Prop} :
    commit.Spec session returns raises ↔
      match session.pending.flush with
      | .ok next => returns () (.clean next)
      | .error e => raises e session.rollback := by
  unfold commit
  rw [Program.spec_commit]
  cases session.pending.flush <;> rfl

/-- Without added balances a commit goes through. -/
theorem spec_commit_settled {returns : Unit → Session PlatformStore → Prop}
    (h : session.pending.addedBalances = []) :
    commit.Spec session returns raises ↔ returns () (.clean session.pending) := by
  rw [spec_commit, PlatformStore.flush_settled h]

end

section

variable {P : PlatformStore → Prop}

theorem keeps_read {f : PlatformStore → Except DomainError α} : (read f).Keeps P :=
  Program.keeps_check

theorem keeps_read_bind {β : Type} {f : PlatformStore → Except DomainError α}
    {rest : α → ServiceProgram β}
    (hrest : ∀ value store, P store → f store = .ok value → (rest value).Keeps P) :
    (read f >>= rest).Keeps P :=
  Program.keeps_check_bind hrest

theorem keeps_write {f : InventoryStore → Except DomainError InventoryStore}
    (hf : ∀ (store : PlatformStore) inventory, P store → f store.inventory = .ok inventory →
      P { store with inventory := inventory }) : (write f).Keeps P := by
  apply Program.keeps_step
  intro store next h hstep
  obtain ⟨inventory, hinventory, hstep⟩ := bind_ok hstep
  obtain rfl := Except.ok.inj hstep
  exact hf store inventory h hinventory

theorem keeps_commit
    (hflush : ∀ store next, P store → PlatformStore.flush store = .ok next → P next) :
    commit.Keeps P :=
  Program.keeps_commit hflush

end

end ServiceProgram

/-- A call that checks, and then writes to the inventory and commits. -/
def inventoryCall {Plan : Type} (checks : PlatformStore → Except DomainError Plan)
    (body : Plan → InventoryStore → Except DomainError InventoryStore) :
    GuardedCall DomainError PlatformStore where
  Plan := Plan
  checks := checks
  body plan store := do
    let flushed ← store.flush
    let inventory ← body plan flushed.inventory
    return { flushed with inventory := inventory }

/-! ## Sites and parties -/

section

variable (service : InventoryService) (store : PlatformStore)

def getSite (siteId : String) : Except DomainError Site := do
  service.requireRead "view inventory reference site"
  service.userSession.requireAnyPermission ["settings.manage", "site.read"] "view site"
  let organizationId ← activeOrganization service
  let site ← require ((store.sites.get? siteId).filter fun row => row.organizationId = organizationId)
    (notFoundError "Site not found in the active organization." "SITE_NOT_FOUND")
  service.userSession.requireScopePermission "site" site.id "site.read" "view site"
  return site

/-- `get_party` of the party service. -/
def getPlatformParty (partyId : String) : Except DomainError Party := do
  service.userSession.requireAnyPermission ["settings.manage", "party.read"] "view party"
  let organizationId ← activeOrganization service
  require ((store.parties.get? partyId).filter fun row => row.organizationId = organizationId)
    (notFoundError "Party not found in the active organization." "PARTY_NOT_FOUND")

/-- `get_party` of the inventory reference service. -/
def getParty (partyId : String) : Except DomainError Party := do
  service.requireRead "view inventory business party"
  let party ← getPlatformParty service store partyId
  ensure (party.partyType ∈ businessPartyTypes)
    { errorClass := .valueError
      message := "Party is not in the inventory business-party scope." }
  return party

end

end ProjectManager
