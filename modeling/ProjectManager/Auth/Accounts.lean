import ProjectManager.Auth.Logins

/-! # Passwords, locks and sessions of an account

Users change their password with the current one; managers reset it, unlock the
account or revoke its sessions. A new password and a revocation end all persisted
sessions of the user.
-/

namespace ProjectManager

open Foundation AuthProgram

/-! ## Sessions -/

def UserAccount.rotated (user : UserAccount) : UserAccount :=
  { user with sessionRevision := max 1 user.sessionRevision + 1 }

def AuthSession.revoked (row : AuthSession) (revokedAt : Moment) : AuthSession :=
  { row with revokedAt := some revokedAt }

def AuthStore.revokeAllPersistedSessions (store : AuthStore) (userId : String)
    (revokedAt : Moment) : AuthStore :=
  { store with
    authSessions := store.authSessions.mapRows
      (fun row =>
        if row.userId = userId ∧ row.revokedAt = none then row.revoked revokedAt else row)
      fun row => by split <;> rfl }

section

variable (service : AuthService) (caller : AuthCaller)

/-! ## Passwords -/

def AuthService.passwordChanged (user : UserAccount) (password : PasswordHash)
    (mustChangePassword : Bool) : UserAccount :=
  { user.rotated with
    passwordHash := password
    passwordChangedAt := some caller.now
    mustChangePassword := mustChangePassword
    sessionExpiresAt := some (nextSessionExpiry service caller.now user) }

/-- The current password is asked for, but wrong ones are not counted. -/
def changePassword (userId currentPassword newPassword : String) (salt : List UInt8) :
    AuthProgram UserAccount := do
  let user ← read fun store => requireUser store userId
  if verifyPassword service.digests currentPassword user.passwordHash then do
    let _ ← read fun _ => validatePassword newPassword
    write fun store => .ok (store.revokeAllPersistedSessions user.id caller.now)
    let saved ← updateUser (service.passwordChanged caller user
      (hashPassword service.digests newPassword salt) false)
    commit
    return saved
  else do
    observe (.failed user.id)
    raise (validationError "Current password is incorrect." "AUTH_FAILED")

def resetUserPassword (userId newPassword : String) (salt : List UInt8) :
    AuthProgram UserAccount := do
  let _ ← read fun _ => caller.userSession.requirePermission "auth.manage" "reset user password"
  let user ← read fun store => requireUser store userId
  let _ ← read fun _ => validatePassword newPassword
  write fun store => .ok (store.revokeAllPersistedSessions user.id caller.now)
  let saved ← updateUser (service.passwordChanged caller user
    (hashPassword service.digests newPassword salt) true)
  commit
  return saved

def unlockUserAccount (userId : String) : AuthProgram UserAccount := do
  let _ ← read fun _ => caller.userSession.requireAnyPermission ["auth.manage", "security.manage"]
    "unlock user account"
  let user ← read fun store => requireUser store userId
  let saved ← updateUser user.unlocked
  observe (.reset user.id)
  commit
  return saved

def revokeUserSessions (userId : String) : AuthProgram UserAccount := do
  let _ ← read fun _ => caller.userSession.requireAnyPermission ["auth.manage", "security.manage"]
    "revoke user sessions"
  let user ← read fun store => requireUser store userId
  write fun store => .ok (store.revokeAllPersistedSessions user.id caller.now)
  let saved ← updateUser { user.rotated with sessionExpiresAt := some caller.now }
  commit
  recordAuthEvent
  return saved

def revokeSession (sessionId : String) : AuthProgram AuthSession := do
  let _ ← read fun _ => caller.userSession.requireAnyPermission ["auth.manage", "security.manage"]
    "revoke session"
  let row ← read fun store => require (store.authSessions.get? sessionId)
    (validationError "Session not found." "AUTH_SESSION_NOT_FOUND")
  write fun store =>
    .ok { store with authSessions := store.authSessions.update (row.revoked caller.now) }
  commit
  recordAuthEvent
  return row.revoked caller.now

end

end ProjectManager
