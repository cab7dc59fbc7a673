import ProjectManager.Foundation.Tables
import ProjectManager.Foundation.Transactions
import ProjectManager.Domain.Checks

/-! # Organizations

The organizations of an installation, one of which is active. Whoever activates one
deactivates the others first, each row over the version with which it was read.
-/

namespace ProjectManager.Org

open Foundation

structure Organization where
  id : String
  id_ne : id ≠ ""
  organizationCode : String
  displayName : String
  timezoneName : String := "UTC"
  baseCurrency : String := "EUR"
  isActive : Bool := true
  version : ℕ := 1

/-! ## The table -/

abbrev OrganizationStore := Table Organization.id

/-- A row to add, or a row with the version that it was read with. -/
inductive OrganizationWrite
  | insert (organization : Organization)
  | update (organization : Organization)

namespace OrganizationWrite

def organization : OrganizationWrite → Organization
  | insert organization => organization
  | update organization => organization

def expected : OrganizationWrite → Option ℕ
  | insert _ => none
  | update organization => some organization.version

def written : OrganizationWrite → Organization
  | insert organization => organization
  | update organization => { organization with version := organization.version + 1 }

end OrganizationWrite

def organizationCodeExists : DomainError :=
  validationError "Organization code already exists." "ORGANIZATION_CODE_EXISTS"

/-- The unique codes of the table, with the error that a violation is raised as. -/
def requireFreeCode (store : OrganizationStore) (organization : Organization) :
    Except DomainError Unit :=
  ensure (∀ other ∈ store.rows, other.id ≠ organization.id →
    other.organizationCode ≠ organization.organizationCode) organizationCodeExists

/-- `update_with_version_check`, as far as it decides whether to write. An added row waits for the
flush. -/
def checkVersion (store : OrganizationStore) : OrganizationWrite → Except DomainError Unit
  | .insert _ => .ok ()
  | .update organization => do
      let stored ← require (store.get? organization.id) (notFoundError "Organization not found.")
      ensure (stored.version = organization.version)
        (concurrencyError "Organization was updated by another user." "STALE_WRITE")
      requireFreeCode store organization

def applyWrite (store : OrganizationStore) (write : OrganizationWrite) :
    Except DomainError OrganizationStore := do
  requireFreeCode store write.organization
  match write with
  | .insert organization =>
      ensure (organization.id ∉ store.ids) organizationCodeExists
      return store.insert organization
  | .update organization =>
      let _ ← require (store.get? organization.id) (notFoundError "Organization not found.")
      return store.update write.written

def organizationRows :
    VersionedStore OrganizationStore String Organization OrganizationWrite DomainError where
  row store id := store.get? id
  version := Organization.version
  key write := write.organization.id
  expected := OrganizationWrite.expected
  written := OrganizationWrite.written
  check := checkVersion
  apply := applyWrite

/-! ## The service -/

abbrev OrganizationTransaction := Transaction OrganizationStore OrganizationWrite DomainError

def listActive (store : OrganizationStore) : List Organization :=
  store.rows.filter fun organization => organization.isActive = true

def getByCode (store : OrganizationStore) (organizationCode : String) : Option Organization :=
  store.rows.find? fun organization => organization.organizationCode = organizationCode

/-- An organization that is excluded is one that was read, so that its id is not empty. -/
def deactivateOtherOrganizations (excludeId : Option String) : OrganizationTransaction Unit := do
  let active ← .query fun store => .ok (listActive store)
  active.forM fun organization =>
    if excludeId = some organization.id then pure ()
    else if ¬ organization.isActive = true then pure ()
    else .issue (.update { organization with isActive := false })

def hasOtherActiveOrganizations (store : OrganizationStore) (organizationId : String) : Bool :=
  (listActive store).any fun organization => organization.id ≠ organizationId

structure CreateOrganizationArguments where
  organizationCode : String
  displayName : String
  timezoneName : String := "UTC"
  baseCurrency : String := "EUR"
  isActive : Bool := true
  organizationId : String
  organizationId_ne : organizationId ≠ ""

structure UpdateOrganizationArguments where
  organizationId : String
  organizationCode : Option String := none
  displayName : Option String := none
  timezoneName : Option String := none
  baseCurrency : Option String := none
  isActive : Option Bool := none
  expectedVersion : Option ℕ := none

section

variable (engine : AuthorizationEngine)

/-- The default organization of an empty table. -/
def bootstrapDefaults (organizationId : String) (hid : organizationId ≠ "") :
    OrganizationTransaction Unit := do
  let all ← .query fun store => .ok store.rows
  if all ≠ [] then pure ()
  else
    .issue (.insert
      { id := organizationId
        id_ne := hid
        organizationCode := "DEFAULT"
        displayName := "Default Organization"
        timezoneName := "UTC"
        baseCurrency := "EUR"
        isActive := true })

def checkedOrganization (arguments : CreateOrganizationArguments) :
    Except DomainError Organization := do
  engine.requirePermission "settings.manage" "create organization"
  let organizationCode ← normalizeCode arguments.organizationCode "Organization code"
  let displayName ← normalizeName arguments.displayName "Organization name"
  let timezoneName ← normalizeName arguments.timezoneName "Timezone"
  let baseCurrency ← normalizeCode arguments.baseCurrency "Base currency"
  return {
    id := arguments.organizationId
    id_ne := arguments.organizationId_ne
    organizationCode := organizationCode
    displayName := displayName
    timezoneName := timezoneName
    baseCurrency := baseCurrency
    isActive := arguments.isActive }

def createOrganization (arguments : CreateOrganizationArguments) :
    OrganizationTransaction Organization := do
  let organization ← .lift (checkedOrganization engine arguments)
  .query fun store =>
    ensure (getByCode store organization.organizationCode = none) organizationCodeExists
  if organization.isActive = true then
    deactivateOtherOrganizations none
  .issue (.insert organization)
  return organization

def getOrganization (store : OrganizationStore) (organizationId : String) :
    Except DomainError Organization :=
  require (store.get? organizationId)
    (notFoundError "Organization not found." "ORGANIZATION_NOT_FOUND")

/-- The code of the row after an update: a code that is given must not be that of another row. -/
def changedCode (organization : Organization) :
    Option String → OrganizationTransaction String
  | none => pure organization.organizationCode
  | some given => do
      let normalized ← .lift (normalizeCode given "Organization code")
      .query fun store =>
        ensure (∀ existing ∈ getByCode store normalized, existing.id = organization.id)
          organizationCodeExists
      return normalized

/-- The last active organization is not deactivated. -/
def changedActive (organization : Organization) : Option Bool → OrganizationTransaction Bool
  | none => pure organization.isActive
  | some given => do
      if given = false ∧ organization.isActive = true then
        .query fun store =>
          ensure (hasOtherActiveOrganizations store organization.id = true)
            (validationError "At least one active organization is required."
              "ORGANIZATION_ACTIVE_REQUIRED")
      return given

def updateOrganization (arguments : UpdateOrganizationArguments) :
    OrganizationTransaction Organization := do
  .lift (engine.requirePermission "settings.manage" "update organization")
  let stored ← .query fun store => getOrganization store arguments.organizationId
  .lift (ensure (∀ version ∈ arguments.expectedVersion, stored.version = version)
    (staleWrite "Organization"))
  let organizationCode ← changedCode stored arguments.organizationCode
  let displayName ← .lift (givenOr arguments.displayName stored.displayName fun given =>
    normalizeName given "Organization name")
  let timezoneName ← .lift (givenOr arguments.timezoneName stored.timezoneName fun given =>
    normalizeName given "Timezone")
  let baseCurrency ← .lift (givenOr arguments.baseCurrency stored.baseCurrency fun given =>
    normalizeCode given "Base currency")
  let isActive ← changedActive stored arguments.isActive
  let organization :=
    { stored with
      organizationCode := organizationCode
      displayName := displayName
      timezoneName := timezoneName
      baseCurrency := baseCurrency
      isActive := isActive }
  if isActive = true then
    deactivateOtherOrganizations (some organization.id)
  .issue (.update organization)
  return organization

def setActiveOrganization (organizationId : String) : OrganizationTransaction Organization := do
  .lift (engine.requirePermission "settings.manage" "set active organization")
  let stored ← .query fun store => getOrganization store organizationId
  deactivateOtherOrganizations (some stored.id)
  let organization := { stored with isActive := true }
  .issue (.update organization)
  return organization

end

end ProjectManager.Org
