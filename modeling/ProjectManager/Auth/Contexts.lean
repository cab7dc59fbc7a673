import ProjectManager.Auth.Logins

/-! # Contexts of user sessions

A process keeps the principal of its user. Every permission check has the principal
validated against the stored user and the stored session, and takes the principal that
the validation builds. Services rebuild the principal after they wrote to its user.
-/

namespace ProjectManager

open Foundation

/-! ## Scoped access -/

abbrev ScopedAccess := List (String × List (String × List String))

def normalizePermissionSet (values : List String) : List String :=
  (values.map strip).filter (· ≠ "") |>.dedup

/-- Replace the value of a key, or add it. -/
def setEntry {β : Type} (entries : List (String × β)) (key : String) (value : β) :
    List (String × β) :=
  if key ∈ entries.map Prod.fst then
    entries.map fun entry => if entry.1 = key then (key, value) else entry
  else entries ++ [(key, value)]

/-- Add permissions in a scope. A blank scope and permissions that are all blank are skipped. -/
def mergeScope (access : ScopedAccess) (scopeType scopeId : String) (permissions : List String) :
    ScopedAccess :=
  let scopeType := lower (strip scopeType)
  let scopeId := strip scopeId
  let permissions := normalizePermissionSet permissions
  if scopeType = "" ∨ scopeId = "" ∨ permissions = [] then access
  else
    let scopeRows := (access.lookup scopeType).getD []
    let existing := (scopeRows.lookup scopeId).getD []
    setEntry access scopeType (setEntry scopeRows scopeId (existing ∪ permissions))

/-- The access to projects is merged once more: principals carry it twice. -/
def normalizeScopedAccess (access : ScopedAccess) : ScopedAccess :=
  let merged := access.foldl (fun normalized scope => scope.2.foldl (fun normalized row =>
    mergeScope normalized scope.1 row.1 row.2) normalized) []
  ((access.lookup "project").getD []).foldl (fun normalized row =>
    mergeScope normalized "project" row.1 row.2) merged

/-! ## Principals -/

/-- `str(value or "").strip() or None` -/
def strippedText (value : Option String) : Option String :=
  (value.map strip).filter (· ≠ "")

def UserSessionPrincipal.normalized (principal : UserSessionPrincipal) : UserSessionPrincipal :=
  { principal with
    permissions := normalizePermissionSet principal.permissions
    scopedAccess := normalizeScopedAccess principal.scopedAccess
    sessionRevision := max 1 principal.sessionRevision
    identityProvider := strippedText principal.identityProvider
    lastLoginAuthMethod := strippedText principal.lastLoginAuthMethod
    sessionId := strippedText principal.sessionId }

section

variable (store : AuthStore) (now : Moment)

/-- The session that the principal is built for, unless it is revoked. A session id that is not
stored is kept. -/
def resolveSession (sessionId activeSessionId : Option String) :
    Option String × Option AuthSession :=
  match strippedText sessionId <|> strippedText activeSessionId with
  | none => (none, none)
  | some resolved =>
      match store.authSessions.get? resolved with
      | none => (some resolved, none)
      | some row => if row.revokedAt = none then (some resolved, some row) else (none, none)

/-- Without a session the principal expires with the row of the user. Only a user who was just
logged in carries an active session. -/
def buildPrincipal (user : UserAccount) (sessionId : Option String)
    (activeSessionId : Option String := none) : UserSessionPrincipal :=
  let resolved := resolveSession store sessionId activeSessionId
  { userId := user.id
    userId_ne := user.id_ne
    username := user.username
    displayName := user.displayName
    roleNames := getUserRoleNames store user.id
    permissions := getUserPermissions store user.id
    scopedAccess := (store.grants.rows.filter fun grant => grant.userId = user.id).foldl
      (fun access grant => mergeScope access grant.scopeType grant.scopeId grant.permissionCodes) []
    sessionExpiresAt := (resolved.2.map AuthSession.expiresAt).getD user.sessionExpiresAt
    mustChangePassword := user.mustChangePassword
    sessionRevision := max 1 user.sessionRevision
    identityProvider := user.identityProvider
    lastLoginAuthMethod := (resolved.2.map fun row => some row.authMethod).getD
      user.lastLoginAuthMethod
    sessionId := resolved.1 }

def validateSession (user : UserAccount) (sessionId : String) : Option UserSessionPrincipal := do
  let row ← store.authSessions.get? sessionId
  guard (row.userId = user.id)
  guard (row.revokedAt = none)
  let expiresAt ← row.expiresAt
  guard (now < expiresAt)
  guard (max 1 row.sessionRevision = max 1 user.sessionRevision)
  return buildPrincipal store user (some row.id)

/-- Without a session, the principal has to agree with the row of the user. -/
def validateRevision (user : UserAccount) (principal : UserSessionPrincipal) :
    Option UserSessionPrincipal := do
  let expiresAt ← principal.sessionExpiresAt
  guard (some expiresAt = user.sessionExpiresAt)
  guard (max 1 principal.sessionRevision = (max 1 user.sessionRevision : ℕ))
  return buildPrincipal store user none

/-- The principal that goes on, if any. -/
def validateSessionPrincipal (principal : UserSessionPrincipal) : Option UserSessionPrincipal := do
  let user ← store.users.get? principal.userId
  guard (user.isActive = true)
  let currentExpiresAt ← user.sessionExpiresAt
  guard (now < currentExpiresAt)
  match principal.sessionId.filter (· ≠ "") with
  | some sessionId => validateSession store now user sessionId
  | none => validateRevision store user principal

def activePrincipal (context : Option UserSessionPrincipal) : Option UserSessionPrincipal := do
  let principal ← context
  guard (∀ expiresAt ∈ principal.sessionExpiresAt, now < expiresAt)
  let validated ← validateSessionPrincipal store now principal
  return validated.normalized

/-- The session of the principal, as long as it is stored and not revoked. -/
def currentPrincipalSessionId (principal : UserSessionPrincipal) : Option String := do
  let sessionId ← strippedText principal.sessionId
  let row ← store.authSessions.get? sessionId
  guard (row.revokedAt = none)
  return sessionId

/-- What the authentication service does to the context after it wrote to a user. -/
def refreshCurrentSessionIfUser (userId : String) (context : Option UserSessionPrincipal) :
    Option UserSessionPrincipal := do
  let principal ← context
  if principal.userId = userId then do
    let user ← store.users.get? userId
    guard (user.isActive = true)
    guard (∀ expiresAt ∈ user.sessionExpiresAt, now < expiresAt)
    return (buildPrincipal store user (currentPrincipalSessionId store principal)).normalized
  else return principal

/-- What the access service does to the context: it does not look at the session. -/
def refreshCurrentSessionIfNeeded (userId : String) (context : Option UserSessionPrincipal) :
    Option UserSessionPrincipal := do
  let principal ← context
  if principal.userId = userId then do
    let user ← store.users.get? userId
    return (buildPrincipal store user none).normalized
  else return principal

end

/-! ## Permission checks -/

inductive PermissionCheck
  | permission (permissionCode : String)
  | anyScopeAccess (scopeType permissionCode : String)
  | scopePermission (scopeType scopeId permissionCode : String)

def PermissionCheck.answer (active : Option UserSessionPrincipal) : PermissionCheck → Bool
  | .permission permissionCode => active.any fun principal => principal.hasPermission permissionCode
  | .anyScopeAccess scopeType permissionCode =>
      active.any fun principal => principal.hasAnyScopeAccess scopeType permissionCode
  | .scopePermission scopeType scopeId permissionCode => active.any fun principal =>
      principal.hasScopePermission scopeType scopeId permissionCode

@[simp] theorem PermissionCheck.answer_none (check : PermissionCheck) :
    check.answer none = false := by
  cases check <;> rfl

end ProjectManager
