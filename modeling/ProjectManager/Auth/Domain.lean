import ProjectManager.Auth.Secrets
import ProjectManager.Domain.Checks
import ProjectManager.Foundation.KeptStates
import ProjectManager.Foundation.LimitedAttempts
import ProjectManager.Foundation.Tables

/-! # Users, roles and sessions

A user session acts for a principal: a copy of the user with the roles, the
permissions and the scoped access that it had when the copy was made. The
authorization engine answers from the principal that is active. In the tables of
the authentication service, a user row carries the state of its lock, a persisted
session belongs to a user, and roles grant permissions. Beside the tables the store
keeps a log that no table has: the wrong secrets that were compared, and the resets
of the locks.
-/

namespace ProjectManager

/-- The user of a session. The ids of users are generated and never empty. -/
structure UserSessionPrincipal where
  userId : String
  userId_ne : userId ≠ ""
  username : String
  displayName : Option String := none
  roleNames : List String := []
  permissions : List String := []
  scopedAccess : List (String × List (String × List String)) := []
  sessionExpiresAt : Option Moment := none
  mustChangePassword : Bool := false
  sessionRevision : ℤ := 1
  identityProvider : Option String := none
  lastLoginAuthMethod : Option String := none
  sessionId : Option String := none

namespace UserSessionPrincipal

variable (principal : UserSessionPrincipal)

def scopeRows (scopeType : String) : List (String × List String) :=
  let normalizedScopeType := lower (strip scopeType)
  if normalizedScopeType = "" then []
  else (principal.scopedAccess.lookup normalizedScopeType).getD []

def hasPermission (permissionCode : String) : Bool := permissionCode ∈ principal.permissions

def hasScopePermission (scopeType scopeId permissionCode : String) : Bool :=
  let scopeRows := principal.scopeRows scopeType
  principal.hasPermission permissionCode &&
    (decide ("admin" ∈ principal.roleNames) || scopeRows.isEmpty ||
      decide (permissionCode ∈ (scopeRows.lookup (strip scopeId)).getD []))

def hasAnyScopeAccess (scopeType permissionCode : String) : Bool :=
  let scopeRows := principal.scopeRows scopeType
  principal.hasPermission permissionCode &&
    (decide ("admin" ∈ principal.roleNames) || scopeRows.isEmpty ||
      scopeRows.any fun scope => decide (permissionCode ∈ scope.2))

def scopeIdsFor (scopeType permissionCode : String) : List String :=
  ((principal.scopeRows scopeType).filter fun scope => permissionCode ∈ scope.2).map Prod.fst

def isScopeRestricted (scopeType : String) : Bool :=
  decide ("admin" ∉ principal.roleNames) && !(principal.scopeRows scopeType).isEmpty

end UserSessionPrincipal

def filterScopeRows {α : Type} (active : Option UserSessionPrincipal) (rows : List α)
    (scopeType permissionCode : String) (scopeIdGetter : α → String) : List α :=
  if active.any fun principal => principal.hasPermission permissionCode then
    if active.any fun principal => principal.isScopeRestricted scopeType then
      rows.filter fun row => active.any fun principal =>
        scopeIdGetter row ∈ principal.scopeIdsFor scopeType permissionCode
    else rows
  else []

/-- The answers of the engine while the given principal is active. -/
def sessionAuthorizationEngine (active : Option UserSessionPrincipal) : AuthorizationEngine where
  hasPermission permissionCode := active.any fun principal => principal.hasPermission permissionCode
  hasScopePermission scopeType scopeId permissionCode :=
    active.any fun principal => principal.hasScopePermission scopeType scopeId permissionCode

/-- Only an active principal is permitted anything. -/
theorem exists_active {active : Option UserSessionPrincipal} {permissionCode : String}
    (h : (sessionAuthorizationEngine active).hasPermission permissionCode = true) :
    ∃ principal, active = some principal := by
  cases active with
  | none => cases h
  | some principal => exact ⟨principal, rfl⟩

end ProjectManager

namespace ProjectManager

open Foundation

/-! ## Settings -/

/-- What the environment sets, as far as `int` can read it. -/
structure AuthSettings where
  lockoutAttempts : Option ℤ := none
  lockoutMinutes : Option ℤ := none
  sessionMinutes : Option ℤ := none
  deriving DecidableEq

namespace AuthSettings

variable (settings : AuthSettings)

def loginLockoutThreshold : ℕ := (max 1 (settings.lockoutAttempts.getD 5)).toNat

def loginLockoutMinutes : ℤ := max 1 (settings.lockoutMinutes.getD 15)

def sessionTimeoutMinutes : ℤ := max 5 (settings.sessionMinutes.getD 480)

theorem loginLockoutThreshold_pos : 0 < settings.loginLockoutThreshold := by
  unfold loginLockoutThreshold
  omega

end AuthSettings

def Moment.addMinutes (moment : Moment) (minutes : ℤ) : Moment :=
  moment + minutes * (60 * Moment.second)

/-- A timeout in minutes that the service accepts. -/
structure SessionTimeout where
  minutes : ℤ
  bounds : 5 ≤ minutes ∧ minutes ≤ 1440
  deriving DecidableEq

/-! ## Rows -/

structure UserAccount where
  id : String
  id_ne : id ≠ ""
  username : String
  passwordHash : PasswordHash
  displayName : Option String := none
  email : Option String := none
  identityProvider : Option String := none
  federatedSubject : Option String := none
  mfaSecret : Option (List UInt8) := none
  mfaEnabled : Bool := false
  sessionTimeoutMinutesOverride : Option SessionTimeout := none
  sessionRevision : ℕ := 1
  lastLoginAuthMethod : Option String := none
  lastLoginDeviceLabel : Option String := none
  isActive : Bool := true
  failedLoginAttempts : ℕ := 0
  lockedUntil : Option Moment := none
  lastLoginAt : Option Moment := none
  sessionExpiresAt : Option Moment := none
  passwordChangedAt : Option Moment := none
  mustChangePassword : Bool := false
  version : ℕ := 1
  deriving DecidableEq

/-- What a login returns. No column keeps the session that it opened. -/
structure AuthenticatedUser where
  user : UserAccount
  activeSessionId : String

structure AuthSession where
  id : String
  userId : String
  sessionRevision : ℕ
  authMethod : String
  deviceLabel : Option String := none
  expiresAt : Option Moment
  revokedAt : Option Moment := none
  deriving DecidableEq

structure Role where
  id : String
  name : String
  deriving DecidableEq

structure Permission where
  id : String
  code : String
  deriving DecidableEq

structure UserRoleBinding where
  userId : String
  roleId : String
  deriving DecidableEq

structure RolePermissionBinding where
  roleId : String
  permissionId : String
  deriving DecidableEq

structure ScopedAccessGrant where
  id : String
  scopeType : String
  scopeId : String
  userId : String
  scopeRole : String
  permissionCodes : List String
  deriving DecidableEq

structure AuthStore where
  users : Table UserAccount.id := .empty
  roles : Table Role.id := .empty
  permissions : Table Permission.id := .empty
  userRoles : Table (id : UserRoleBinding → UserRoleBinding) := .empty
  rolePermissions : Table (id : RolePermissionBinding → RolePermissionBinding) := .empty
  authSessions : Table AuthSession.id := .empty
  grants : Table ScopedAccessGrant.id := .empty
  attempts : List (AttemptEvent String) := []

structure AuthCaller where
  userSession : AuthorizationEngine
  now : Moment

structure AuthService where
  digests : Digests
  settings : AuthSettings := {}

/-! ## Programs on the store -/

abbrev AuthProgram := Program DomainError AuthStore

namespace AuthProgram

variable {α : Type}

def read (f : AuthStore → Except DomainError α) : AuthProgram α := Program.check f

def raise (e : DomainError) : AuthProgram α := Program.check fun _ => .error e

def write (f : AuthStore → Except DomainError AuthStore) : AuthProgram Unit := Program.step f

def commit : AuthProgram Unit := Program.commit .ok

/-- Commit the open transaction together with a row that it adds. -/
def commitWith (f : AuthStore → Except DomainError AuthStore) : AuthProgram Unit := Program.commit f

/-- The log is no table, and no rollback takes back what was seen. -/
def observe (event : AttemptEvent String) : AuthProgram Unit := fun session =>
  (.ok (), { committed := { session.committed with attempts := event :: session.committed.attempts }
             pending := { session.pending with attempts := event :: session.pending.attempts } })

section

variable {β : Type} {P : AuthStore → Prop}

theorem keeps_read {f : AuthStore → Except DomainError α} : (read f).Keeps P :=
  Program.keeps_check

theorem keeps_write {f : AuthStore → Except DomainError AuthStore}
    (hf : ∀ store next, P store → f store = .ok next → P next) : (write f).Keeps P :=
  Program.keeps_step hf

theorem keeps_read_bind {f : AuthStore → Except DomainError α} {rest : α → AuthProgram β}
    (hrest : ∀ value store, P store → f store = .ok value → (rest value).Keeps P) :
    (read f >>= rest).Keeps P :=
  Program.keeps_check_bind hrest

theorem keeps_commit : commit.Keeps P :=
  Program.keeps_commit fun _ _ hstate hnext => Except.ok.inj hnext ▸ hstate

end

end AuthProgram

/-! ## Lookups -/

section

variable (store : AuthStore)

def requireUser (userId : String) : Except DomainError UserAccount :=
  require (store.users.get? userId) (notFoundError "User not found." "USER_NOT_FOUND")

def getByUsername (username : String) : Option UserAccount :=
  store.users.rows.find? fun user => user.username = username

/-- An absent argument is compared as `IS NULL`. -/
def getByFederatedIdentity (identityProvider federatedSubject : Option String) :
    Option UserAccount :=
  store.users.rows.find? fun user =>
    user.identityProvider = identityProvider ∧ user.federatedSubject = federatedSubject

def getByName (name : String) : Option Role := store.roles.rows.find? fun role => role.name = name

def requireRoleByName (roleName : String) : Except DomainError Role :=
  require (getByName store (lower (strip roleName)))
    (notFoundError "Role not found." "ROLE_NOT_FOUND")

def listRoleIds (userId : String) : List String :=
  (store.userRoles.rows.filter fun binding => binding.userId = userId).map UserRoleBinding.roleId

def listPermissionIds (roleId : String) : List String :=
  (store.rolePermissions.rows.filter fun binding => binding.roleId = roleId).map
    RolePermissionBinding.permissionId

def getUserRoleNames (userId : String) : List String :=
  (listRoleIds store userId).filterMap fun roleId => (store.roles.get? roleId).map Role.name

def getUserPermissions (userId : String) : List String :=
  ((listRoleIds store userId).flatMap (listPermissionIds store)).filterMap fun permissionId =>
    (store.permissions.get? permissionId).map Permission.code

def listSessionsByUser (userId : String) : List AuthSession :=
  store.authSessions.rows.filter fun row => row.userId = userId

end

end ProjectManager
