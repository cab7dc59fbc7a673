import ProjectManager.Domain.Checks
import ProjectManager.Foundation.Aliases
import ProjectManager.Foundation.SavingPrograms
import Mathlib.Data.List.Sort

/-! # Modules and entitlements

Every organization has a record of entitlement for each module of the catalog. What is
asked about the modules of an organization that has none yet writes the records of the
installation first. A module may be stored under a code that it had before.
-/

namespace ProjectManager.Org

open Foundation

/-! ## Codes -/

def legacyModuleCodeAliases : List (String × String) := [("payroll", "hr_management")]

def normalizeModuleCode (moduleCode : String) : String :=
  let normalized := lower (strip moduleCode)
  ((legacyModuleCodeAliases.find? fun entry => entry.1 = normalized).map Prod.snd).getD normalized

/-- The older codes of a canonical one. -/
def legacyModuleCodes (canonicalCode : String) : List String :=
  (legacyModuleCodeAliases.filter fun entry => entry.2 = canonicalCode).map Prod.fst

def moduleSpellings : Spellings String where
  canonical := normalizeModuleCode
  older := legacyModuleCodes
  canonical_older := by
    intro key old hold
    obtain ⟨entry, hentry, rfl⟩ := List.mem_map.mp hold
    obtain ⟨hmem, hkey⟩ := List.mem_filter.mp hentry
    obtain rfl := List.mem_singleton.mp hmem
    obtain rfl := of_decide_eq_true hkey
    decide

/-! ## Data -/

inductive LifecycleStatus
  | inactive
  | active
  | trial
  | suspended
  | expired
  deriving DecidableEq, Repr

def LifecycleStatus.value : LifecycleStatus → String
  | .inactive => "inactive"
  | .active => "active"
  | .trial => "trial"
  | .suspended => "suspended"
  | .expired => "expired"

/-- `MODULE_RUNTIME_ACCESS_STATUSES` -/
def LifecycleStatus.hasRuntimeAccess (status : LifecycleStatus) : Bool :=
  status ∈ [LifecycleStatus.active, .trial]

structure EnterpriseModule where
  code : String
  label : String
  defaultEnabled : Bool := false
  stage : String := "planned"
  deriving DecidableEq

def defaultEnterpriseModules : List EnterpriseModule :=
  [{ code := "project_management", label := "Project Management", defaultEnabled := true,
     stage := "enabled" },
   { code := "inventory_procurement", label := "Inventory & Procurement", stage := "available" },
   { code := "maintenance_management", label := "Maintenance Management", stage := "available" },
   { code := "qhse", label := "QHSE" },
   { code := "hr_management", label := "HR Management" }]

structure ModuleEntitlementRecord where
  moduleCode : String
  licensed : Bool
  enabled : Bool
  lifecycleStatus : LifecycleStatus
  deriving DecidableEq

structure ModuleEntitlement where
  module : EnterpriseModule
  licensed : Bool
  enabled : Bool
  lifecycleStatus : LifecycleStatus
  deriving DecidableEq

def ModuleEntitlement.runtimeEnabled (entitlement : ModuleEntitlement) : Bool :=
  entitlement.licensed && entitlement.enabled && entitlement.lifecycleStatus.hasRuntimeAccess

structure EntitlementRow where
  organizationId : String
  moduleCode : String
  licensed : Bool
  enabled : Bool
  lifecycleStatus : LifecycleStatus
  deriving DecidableEq

def EntitlementRow.id (row : EntitlementRow) : String × String :=
  (row.organizationId, row.moduleCode)

abbrev EntitlementStore := Table EntitlementRow.id

/-- What the module services raise. -/
inductive ModuleError
  | domain (error : DomainError)
  | runtime (message : String)
  deriving DecidableEq

abbrev ModuleProgram (α : Type) := Program ModuleError EntitlementStore α

def raising {α : Type} (result : Except DomainError α) : Except ModuleError α :=
  result.mapError ModuleError.domain

/-! ## The repository -/

/-- What is not licensed is not enabled. -/
def toRecord (row : EntitlementRow) : ModuleEntitlementRecord where
  moduleCode := normalizeModuleCode row.moduleCode
  licensed := row.licensed
  enabled := row.enabled && row.licensed
  lifecycleStatus := row.lifecycleStatus

section

variable (store : EntitlementStore) (organizationId : String)

def rowsOfOrganization : List EntitlementRow :=
  (store.rows.filter fun row => row.organizationId = organizationId).insertionSort
    fun first second => first.moduleCode ≤ second.moduleCode

/-- The records by code. A row with an older code gives way to one with the canonical code. -/
def recordsByCode : Table ModuleEntitlementRecord.moduleCode :=
  (rowsOfOrganization store organizationId).foldl
    (moduleSpellings.enter EntitlementRow.moduleCode toRecord) .empty

def listAllForOrganization : List ModuleEntitlementRecord :=
  (recordsByCode store organizationId).rows.insertionSort
    fun first second => first.moduleCode ≤ second.moduleCode

/-- One row under the canonical code replaces all rows of the module. -/
def upsertForOrganization (record : ModuleEntitlementRecord) : EntitlementStore :=
  moduleSpellings.put store {
    organizationId := organizationId
    moduleCode := normalizeModuleCode record.moduleCode
    licensed := record.licensed
    enabled := record.enabled && record.licensed
    lifecycleStatus := record.lifecycleStatus }

end

/-! ## The catalog -/

def defaultLifecycleStatus (licensed : Bool) : LifecycleStatus :=
  if licensed then .active else .inactive

/-- The modules, and what an installation licenses and enables of them. -/
structure ModuleCatalog where
  modules : List EnterpriseModule
  licensedCodes : List String
  enabledCodes : List String

/-- The constructor of the service: only known modules are licensed, and only licensed ones
enabled. -/
def moduleCatalog (modules : List EnterpriseModule)
    (enabledCodes licensedCodes : Option (List String)) : ModuleCatalog :=
  let given := fun codes : List String =>
    (codes.filter fun code => strip code ≠ "").map normalizeModuleCode
  let defaults := (modules.filter EnterpriseModule.defaultEnabled).map EnterpriseModule.code
  let licensed := (licensedCodes.map given).getD defaults
  let enabled := (enabledCodes.map given).getD licensed
  let known := licensed.filter fun code => code ∈ modules.map EnterpriseModule.code
  { modules := modules
    licensedCodes := known
    enabledCodes := enabled.filter fun code => code ∈ known }

def parseModuleCodes (rawValue : Option String) : List String :=
  ((((rawValue.getD "").toList.splitOn ',').map String.ofList).filter fun token =>
    strip token ≠ "").map normalizeModuleCode

/-- The codes that are listed, or those of the modules that are enabled by default. -/
def parseListedModuleCodes (rawValue : Option String) : List String :=
  let tokens := parseModuleCodes rawValue
  if tokens = [] then
    (defaultEnterpriseModules.filter EnterpriseModule.defaultEnabled).map EnterpriseModule.code
  else tokens

/-- The catalog of an installation, from its two environment variables. -/
def installedCatalog (enabledModules licensedModules : Option String) : ModuleCatalog :=
  moduleCatalog defaultEnterpriseModules (some (parseListedModuleCodes enabledModules))
    (some (parseListedModuleCodes (licensedModules <|> enabledModules)))

/-! ## Checks -/

def moduleNotFound : DomainError := notFoundError "Module not found." "MODULE_NOT_FOUND"

def normalizeLifecycleStatus (value : String) : Except DomainError LifecycleStatus :=
  require ([LifecycleStatus.inactive, .active, .trial, .suspended, .expired].find? fun status =>
      status.value = lower (strip value))
    (validationError
      "Lifecycle status must be one of: inactive, active, trial, suspended, expired."
      "MODULE_STATUS_INVALID")

structure ModuleStateChange where
  licensed : Option Bool := none
  enabled : Option Bool := none
  lifecycleStatus : Option String := none

/-- The record of a licensed module. A status without access switches the module off. -/
def licensedRecord (module : EnterpriseModule) (enabledGiven : Option Bool) (enabled : Bool)
    (status : LifecycleStatus) : Except DomainError ModuleEntitlementRecord := do
  let effective := if status = .inactive then defaultLifecycleStatus true else status
  if effective.hasRuntimeAccess then
    return ⟨module.code, true, enabled, effective⟩
  else do
    ensure (enabledGiven ≠ some true)
      (validationError "Only active or trial modules can be enabled."
        "MODULE_STATUS_BLOCKS_ENABLEMENT")
    return ⟨module.code, true, false, effective⟩

def nextRecord (module : EnterpriseModule) (current : ModuleEntitlement)
    (change : ModuleStateChange) : Except DomainError ModuleEntitlementRecord := do
  let licensed := change.licensed.getD current.licensed
  let enabled := change.enabled.getD current.enabled
  let status ← givenOr change.lifecycleStatus current.lifecycleStatus normalizeLifecycleStatus
  ensure (¬ (change.lifecycleStatus.isSome = true ∧ status ≠ .inactive ∧ licensed = false))
    (validationError "A module must be licensed before its lifecycle can be changed."
      "MODULE_NOT_LICENSED")
  ensure (¬ (change.enabled = some true ∧ licensed = false))
    (validationError "A module must be licensed before it can be enabled." "MODULE_NOT_LICENSED")
  ensure (¬ (module.stage = "planned" ∧
      (licensed = true ∨ enabled = true ∨ status ≠ .inactive)))
    (validationError (module.label ++
      " is planned and cannot be licensed, enabled, or activated yet.") "MODULE_NOT_AVAILABLE")
  if licensed then
    licensedRecord module change.enabled enabled status
  else
    return ⟨module.code, false, false, .inactive⟩

def provisionedRecord (licensed enabled : List String) (module : EnterpriseModule) :
    ModuleEntitlementRecord where
  moduleCode := module.code
  licensed := module.code ∈ licensed
  enabled := module.code ∈ enabled ∧ module.code ∈ licensed
  lifecycleStatus := defaultLifecycleStatus (module.code ∈ licensed)

def moduleDisabledMessage (label operation : String) : LifecycleStatus → String
  | .suspended => label ++ " is suspended for this organization, so you cannot " ++ operation ++ "."
  | .expired => label ++ " has expired for this organization, so you cannot " ++ operation ++ "."
  | .trial =>
      label ++ " is in trial but not enabled for runtime use, so you cannot " ++ operation ++ "."
  | _ => label ++ " is not enabled for this installation, so you cannot " ++ operation ++ "."

/-- What a message calls the module that was asked for. -/
def EnterpriseModule.shownLabel (module : EnterpriseModule) (moduleCode : String) : String :=
  orElse module.label (title (moduleCode.map fun c => if c = '_' then ' ' else c))

/-! ## The service -/

/-- The catalog service of a session, in the organization that is active. -/
structure ModuleServices where
  catalog : ModuleCatalog
  userSession : AuthorizationEngine
  activeOrganization : Option String

namespace ModuleServices

variable (services : ModuleServices)

def activeOrganizationId : Option String := services.activeOrganization.filter (· ≠ "")

def listAll (store : EntitlementStore) : List ModuleEntitlementRecord :=
  match services.activeOrganizationId with
  | some id => listAllForOrganization store id
  | none => []

def upsert (record : ModuleEntitlementRecord) (store : EntitlementStore) :
    Except ModuleError EntitlementStore :=
  match services.activeOrganizationId with
  | some id => .ok (upsertForOrganization store id record)
  | none =>
      .error (.runtime "Active organization context is required for module entitlements.")

/-- What the installation entitles an organization to at first. -/
def defaultRecord (module : EnterpriseModule) : ModuleEntitlementRecord where
  moduleCode := module.code
  licensed := module.code ∈ services.catalog.licensedCodes
  enabled := module.code ∈ services.catalog.enabledCodes ∧
    module.code ∈ services.catalog.licensedCodes
  lifecycleStatus := defaultLifecycleStatus (module.code ∈ services.catalog.licensedCodes)

def saveDefaults (store : EntitlementStore) : Except ModuleError EntitlementStore :=
  services.catalog.modules.foldlM
    (fun store module => services.upsert (services.defaultRecord module) store) store

def ensureContextDefaults : ModuleProgram (List ModuleEntitlementRecord) := do
  let records ← Program.read services.listAll
  if records ≠ [] then return records
  else do
    Program.save services.saveDefaults
    Program.read services.listAll

/-! ## Queries -/

/-- The codes of the licensed modules, and of those that are enabled. -/
def effectiveCodes : ModuleProgram (List String × List String) := do
  let records ← services.ensureContextDefaults
  if records = [] then return (services.catalog.licensedCodes, services.catalog.enabledCodes)
  else
    return ((records.filter ModuleEntitlementRecord.licensed).map fun record =>
        normalizeModuleCode record.moduleCode,
      (records.filter fun record => record.licensed && record.enabled &&
        record.lifecycleStatus.hasRuntimeAccess).map fun record =>
          normalizeModuleCode record.moduleCode)

def isLicensed (moduleCode : String) : ModuleProgram Bool := do
  let codes ← services.effectiveCodes
  return normalizeModuleCode moduleCode ∈ codes.1

def isEnabled (moduleCode : String) : ModuleProgram Bool := do
  let codes ← services.effectiveCodes
  return normalizeModuleCode moduleCode ∈ codes.2

def findModule (moduleCode : String) : Option EnterpriseModule :=
  services.catalog.modules.find? fun module => module.code = normalizeModuleCode moduleCode

/-- A module without a record is entitled as the installation is. -/
def entitlementFrom (records : List ModuleEntitlementRecord) (module : EnterpriseModule) :
    ModuleEntitlement :=
  match records.find? fun record => record.moduleCode = module.code with
  | some record => ⟨module, record.licensed, record.enabled, record.lifecycleStatus⟩
  | none =>
      let licensed : Bool := module.code ∈ services.catalog.licensedCodes
      ⟨module, licensed, module.code ∈ services.catalog.enabledCodes,
        defaultLifecycleStatus licensed⟩

def buildEntitlement (module : EnterpriseModule) : ModuleProgram ModuleEntitlement := do
  let records ← services.ensureContextDefaults
  return services.entitlementFrom records module

def getEntitlement (moduleCode : String) : ModuleProgram (Option ModuleEntitlement) :=
  match services.findModule moduleCode with
  | some module => do
      let entitlement ← services.buildEntitlement module
      return some entitlement
  | none => return none

/-- The guard in front of the services of a module. An unknown code is let through. -/
def requireModuleEnabled (moduleCode : String) (operationLabel : Option String) :
    ModuleProgram Unit := do
  let entitlement ← services.getEntitlement moduleCode
  Program.check fun _ => raising (whenGiven entitlement fun entitlement =>
    ensure (entitlement.runtimeEnabled = true) (businessRuleError
      (moduleDisabledMessage (entitlement.module.shownLabel moduleCode)
        (strip (orElse (operationLabel.getD "") "access this feature"))
        entitlement.lifecycleStatus) "MODULE_DISABLED"))

/-! ## Changes -/

def setModuleState (moduleCode : String) (change : ModuleStateChange) :
    ModuleProgram ModuleEntitlement := do
  Program.check fun _ => raising
    (services.userSession.requirePermission "settings.manage" "manage module entitlements")
  let module ← Program.check fun _ => raising
    (require (services.findModule moduleCode) moduleNotFound)
  let found ← services.getEntitlement module.code
  let current ← Program.check fun _ => raising (require found moduleNotFound)
  let record ← Program.check fun _ => raising (nextRecord module current change)
  Program.save (services.upsert record)
  let saved ← services.getEntitlement module.code
  Program.check fun _ => raising (require saved
    (notFoundError "Module entitlement not found after update." "MODULE_NOT_FOUND"))

/-- The codes that are not blank, each of a known module. -/
def normalizeSelectedModuleCodes (moduleCodes : List String) : Except DomainError (List String) :=
  ((moduleCodes.filter fun code => strip code ≠ "").map normalizeModuleCode).mapM fun code => do
    let _ ← require (services.findModule code) moduleNotFound
    return code

/-- A planned module is not provisioned. -/
def requireAvailable (moduleCode : String) : Except DomainError Unit := do
  let module ← require (services.findModule moduleCode) moduleNotFound
  ensure (module.stage ≠ "planned")
    (validationError (module.label ++ " is planned and cannot be provisioned yet.")
      "MODULE_NOT_AVAILABLE")

def selectProvision (organizationId : String) (licensedModuleCodes : List String)
    (enabledModuleCodes : Option (List String)) :
    Except DomainError (String × List String × List String) := do
  services.userSession.requirePermission "settings.manage" "provision organization modules"
  let id := strip organizationId
  ensure (id ≠ "")
    (validationError "Organization context is required for module provisioning."
      "ORGANIZATION_REQUIRED")
  let licensed ← services.normalizeSelectedModuleCodes licensedModuleCodes
  let enabled ← givenOr enabledModuleCodes licensed services.normalizeSelectedModuleCodes
  ensure (∀ code ∈ enabled, code ∈ licensed)
    (validationError "Enabled modules must also be licensed." "MODULE_ENABLEMENT_REQUIRES_LICENSE")
  licensed.forM services.requireAvailable
  return (id, licensed, enabled)

def provisionOrganizationEntitlements (organizationId : String) (licensedModuleCodes : List String)
    (enabledModuleCodes : Option (List String)) : ModuleProgram (List ModuleEntitlementRecord) := do
  let (id, licensed, enabled) ← Program.check fun _ => raising
    (services.selectProvision organizationId licensedModuleCodes enabledModuleCodes)
  Program.save fun store => .ok (services.catalog.modules.foldl
    (fun store module => upsertForOrganization store id (provisionedRecord licensed enabled module))
    store)
  Program.read fun store => listAllForOrganization store id

end ModuleServices

/-! ## Calls -/

inductive ModuleCall
  | bootstrapDefaults (services : ModuleServices)
  | isLicensed (services : ModuleServices) (moduleCode : String)
  | isEnabled (services : ModuleServices) (moduleCode : String)
  | getEntitlement (services : ModuleServices) (moduleCode : String)
  | requireModuleEnabled (services : ModuleServices) (moduleCode : String)
      (operationLabel : Option String)
  | setModuleState (services : ModuleServices) (moduleCode : String) (change : ModuleStateChange)
  | provision (services : ModuleServices) (organizationId : String)
      (licensedModuleCodes : List String) (enabledModuleCodes : Option (List String))

def ModuleCall.services : ModuleCall → ModuleServices
  | .bootstrapDefaults services => services
  | .isLicensed services _ => services
  | .isEnabled services _ => services
  | .getEntitlement services _ => services
  | .requireModuleEnabled services _ _ => services
  | .setModuleState services _ _ => services
  | .provision services _ _ _ => services

/-- The organization that a call is about. -/
def ModuleCall.subject : ModuleCall → Option String
  | .provision _ organizationId _ _ => some (strip organizationId)
  | call => call.services.activeOrganizationId

def ModuleCall.run : ModuleCall → Session EntitlementStore → Outcome ModuleError EntitlementStore
  | .bootstrapDefaults services => services.ensureContextDefaults.outcome
  | .isLicensed services moduleCode => (services.isLicensed moduleCode).outcome
  | .isEnabled services moduleCode => (services.isEnabled moduleCode).outcome
  | .getEntitlement services moduleCode => (services.getEntitlement moduleCode).outcome
  | .requireModuleEnabled services moduleCode operationLabel =>
      (services.requireModuleEnabled moduleCode operationLabel).outcome
  | .setModuleState services moduleCode change =>
      (services.setModuleState moduleCode change).outcome
  | .provision services organizationId licensedModuleCodes enabledModuleCodes =>
      (services.provisionOrganizationEntitlements organizationId licensedModuleCodes
        enabledModuleCodes).outcome

end ProjectManager.Org
