import ProjectManager.Auth.Logins
import Mathlib.Data.List.Dedup
import Mathlib.Data.List.Sort

/-! # Scoped access grants

A grant gives a user the permissions of a scope role in one scope: a project, a site, a
storeroom. The modules register a policy for each type of scope.
-/

namespace ProjectManager

open Foundation AuthProgram

/-! ## Policies -/

structure ScopedRolePolicy where
  roleChoices : List String
  normalizeRole : String → Except DomainError String
  resolvePermissions : String → List String

/-- The policies by normalized type. -/
abbrev ScopedRolePolicyRegistry := String → Option ScopedRolePolicy

namespace ScopedRolePolicyRegistry

def normalizeScopeType (scopeType : String) : Except DomainError String := do
  let normalized := lower (strip scopeType)
  ensure (normalized ≠ "") (validationError "Scope type is required." "SCOPE_TYPE_REQUIRED")
  return normalized

variable (registry : ScopedRolePolicyRegistry)

def requireScopePolicy (scopeType : String) : Except DomainError ScopedRolePolicy :=
  require (registry scopeType)
    (validationError ("Unsupported scope type '" ++ scopeType ++ "'.") "UNSUPPORTED_SCOPE_TYPE")

def normalizeScopeRole (scopeType scopeRole : String) : Except DomainError String := do
  let policy ← registry.requireScopePolicy scopeType
  let normalized ← policy.normalizeRole scopeRole
  let normalizedRole := lower (strip normalized)
  ensure (normalizedRole ∈ policy.roleChoices)
    (validationError ("Unsupported scope role '" ++ normalizedRole ++ "' for " ++ scopeType ++ ".")
      "UNSUPPORTED_SCOPE_ROLE")
  return normalizedRole

def resolveScopePermissions (scopeType scopeRole : String) : Except DomainError (List String) := do
  let policy ← registry.requireScopePolicy scopeType
  return ((policy.resolvePermissions scopeRole).map strip).filter (· ≠ "") |>.dedup
    |>.insertionSort (· ≤ ·)

end ScopedRolePolicyRegistry

/-! ## Roles in projects -/

def projectScopeRoleChoices : List String := ["viewer", "contributor", "lead", "owner"]

def normalizeProjectScopeRole (scopeRole : String) : String :=
  let key := orElse (lower (strip scopeRole)) "viewer"
  if key = "editor" then "contributor" else key

def resolveProjectScopePermissions (scopeRole : String) : List String :=
  match normalizeProjectScopeRole scopeRole with
  | "contributor" =>
      ["project.read", "task.read", "task.manage", "cost.read", "register.read",
        "collaboration.read", "collaboration.manage", "timesheet.submit"]
  | "lead" =>
      ["project.read", "task.read", "task.manage", "cost.read", "cost.manage", "baseline.manage",
        "register.read", "register.manage", "report.view", "report.export", "collaboration.read",
        "collaboration.manage", "timesheet.submit", "approval.request"]
  | "owner" =>
      ["project.read", "project.manage", "task.read", "task.manage", "cost.read", "cost.manage",
        "baseline.manage", "register.read", "register.manage", "report.view", "report.export",
        "collaboration.read", "collaboration.manage", "timesheet.submit", "timesheet.approve",
        "timesheet.lock", "approval.request"]
  | _ =>
      ["project.read", "task.read", "cost.read", "register.read", "report.view",
        "collaboration.read"]

def projectScopePolicy : ScopedRolePolicy where
  roleChoices := projectScopeRoleChoices
  normalizeRole scopeRole := .ok (normalizeProjectScopeRole scopeRole)
  resolvePermissions := resolveProjectScopePermissions

def scopeNotFound (scopeType : String) : DomainError :=
  notFoundError (title scopeType ++ " not found.") (upper scopeType ++ "_NOT_FOUND")

/-! ## Grants -/

def getForScopeUser (store : AuthStore) (scopeType scopeId userId : String) :
    Option ScopedAccessGrant :=
  store.grants.rows.find? fun grant =>
    grant.scopeType = scopeType ∧ grant.scopeId = scopeId ∧ grant.userId = userId

/-- The arguments of an assignment, the id of a new grant, and what the module of the scope answers
when it is asked whether the scope exists. -/
structure GrantArguments where
  scopeType : String
  scopeId : String
  userId : String
  scopeRole : String
  grantId : String
  scopeExists : Option Bool := none

section

variable (registry : ScopedRolePolicyRegistry) (caller : AuthCaller)

/-- The grant to write, and whether it is new. -/
def checkScopeGrant (arguments : GrantArguments) (store : AuthStore) :
    Except DomainError (ScopedAccessGrant × Bool) := do
  caller.userSession.requirePermission "access.manage" "assign scoped access grant"
  let scopeType ← ScopedRolePolicyRegistry.normalizeScopeType arguments.scopeType
  let scopeId := strip arguments.scopeId
  ensure (scopeId ≠ "") (validationError "Scope id is required." "SCOPE_ID_REQUIRED")
  let _ ← requireUser store arguments.userId
  let scopeRole ← registry.normalizeScopeRole scopeType arguments.scopeRole
  let permissions ← registry.resolveScopePermissions scopeType scopeRole
  ensure (permissions ≠ []) (validationError "Scope role must resolve to at least one permission.")
  ensure (arguments.scopeExists ≠ some false) (scopeNotFound scopeType)
  match getForScopeUser store scopeType scopeId arguments.userId with
  | some grant =>
      return ({ grant with scopeRole := scopeRole, permissionCodes := permissions }, false)
  | none =>
      return (⟨arguments.grantId, scopeType, scopeId, arguments.userId, scopeRole, permissions⟩, true)

def writeGrant (grant : ScopedAccessGrant × Bool) (store : AuthStore) :
    Except DomainError AuthStore :=
  if grant.2 then do
    ensure (grant.1.id ∉ store.grants.ids) (takenPrimaryKey "scoped_access_grants")
    return { store with grants := store.grants.insert grant.1 }
  else .ok { store with grants := store.grants.update grant.1 }

def assignScopeGrant (arguments : GrantArguments) : AuthProgram ScopedAccessGrant := do
  let grant ← read (checkScopeGrant registry caller arguments)
  commitWith (writeGrant grant)
  recordAuthEvent
  return grant.1

def grantNotFound (scopeType : String) : DomainError :=
  if scopeType = "project" then
    notFoundError "Project membership not found." "PROJECT_MEMBERSHIP_NOT_FOUND"
  else notFoundError "Scoped access grant not found." "SCOPED_ACCESS_GRANT_NOT_FOUND"

def checkGrantRemoval (scopeType scopeId userId : String) (store : AuthStore) :
    Except DomainError ScopedAccessGrant := do
  caller.userSession.requirePermission "access.manage" "remove scoped access grant"
  let normalizedScopeType ← ScopedRolePolicyRegistry.normalizeScopeType scopeType
  let _ ← registry.requireScopePolicy normalizedScopeType
  let normalizedScopeId := strip scopeId
  ensure (normalizedScopeId ≠ "") (validationError "Scope id is required." "SCOPE_ID_REQUIRED")
  require (getForScopeUser store normalizedScopeType normalizedScopeId userId)
    (grantNotFound normalizedScopeType)

def removeScopeGrant (scopeType scopeId userId : String) : AuthProgram Unit := do
  let grant ← read (checkGrantRemoval registry caller scopeType scopeId userId)
  write fun store => .ok { store with grants := store.grants.filter fun row => row.id ≠ grant.id }
  commit
  recordAuthEvent

end

end ProjectManager
