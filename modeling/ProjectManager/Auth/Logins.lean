import ProjectManager.Auth.Domain

/-! # Logins

A user enters with a password or through a federated identity, and with a one-time code
where that is switched on. Wrong secrets are counted in the row of the user, which is
locked for a while when there are too many. Every write here is committed before the
next check.
-/

namespace ProjectManager

open Foundation AuthProgram

/-! ## Writes of a user -/

def UserAccount.saved (user : UserAccount) : UserAccount := { user with version := user.version + 1 }

def AuthStore.putUser (store : AuthStore) (user : UserAccount) : AuthStore :=
  { store with users := store.users.update user.saved }

/-- `update_with_version_check` on the row of the user -/
def updateUser (user : UserAccount) : AuthProgram UserAccount := do
  write fun store => do
    let stored ← require (store.users.get? user.id) (notFoundError "User not found.")
    ensure (stored.version = user.version)
      (concurrencyError "User account was updated by another user." "STALE_WRITE")
    return store.putUser user
  return user.saved

/-- Audit rows are left out; their commit is not. -/
def recordAuthEvent : AuthProgram Unit := commit

def UserAccount.unlocked (user : UserAccount) : UserAccount :=
  { user with
    failedLoginAttempts := 0
    lockedUntil := none }

/-! ## Arguments -/

def normalizeIdentityProvider (identityProvider : Option String) : Option String :=
  let value := lower (strip (identityProvider.getD ""))
  if value = "" then none else some value

def normalizeFederatedSubject (federatedSubject : Option String) : Option String :=
  let value := strip (federatedSubject.getD "")
  if value = "" then none else some value

def normalizeDeviceLabel (deviceLabel : Option String) : Option String :=
  let value := strip (deviceLabel.getD "")
  if value = "" then none else some value

/-- Both are given or none is. -/
@[irreducible]
def validateFederatedIdentity (identityProvider federatedSubject : Option String) :
    Except DomainError Unit :=
  ensure (identityProvider.any (· ≠ "") = federatedSubject.any (· ≠ ""))
    (validationError "Identity provider and federated subject must be set together."
      "FEDERATED_IDENTITY_INCOMPLETE")

/-! ## The steps of a login -/

section

variable (service : AuthService) (caller : AuthCaller)

def nextSessionExpiry (now : Moment) (user : UserAccount) : Moment :=
  now.addMinutes ((user.sessionTimeoutMinutesOverride.map SessionTimeout.minutes).getD
    service.settings.sessionTimeoutMinutes)

def activeUser (found : Option UserAccount) (message : String) : AuthProgram UserAccount :=
  match found.filter UserAccount.isActive with
  | some user => pure user
  | none => do
      recordAuthEvent
      raise (validationError message "AUTH_FAILED")

/-- The lock of the user ends in the future. -/
def UserAccount.LockedAt (user : UserAccount) (now : Moment) : Prop :=
  ∃ moment ∈ user.lockedUntil, now < moment

instance (user : UserAccount) (now : Moment) : Decidable (user.LockedAt now) :=
  inferInstanceAs (Decidable (∃ _ ∈ _, _))

def releaseExpiredLock (user : UserAccount) : AuthProgram UserAccount :=
  if user.lockedUntil.isSome ∧ ¬ user.LockedAt caller.now then do
    let released ← updateUser user.unlocked
    observe (.reset user.id)
    commit
    return released
  else pure user

def accountLocked (lockedUntil : Moment) : DomainError :=
  validationError ("Account is locked until " ++ lockedUntil.isoformat ++ ".") "AUTH_LOCKED"

def refuseLocked (user : UserAccount) : AuthProgram Unit :=
  match user.lockedUntil.filter fun moment => caller.now < moment with
  | none => pure ()
  | some moment => do
      recordAuthEvent
      raise (accountLocked moment)

def AuthService.failedLogin (user : UserAccount) : UserAccount :=
  { user with
    failedLoginAttempts := user.failedLoginAttempts + 1
    lockedUntil :=
      if service.settings.loginLockoutThreshold ≤ user.failedLoginAttempts + 1 then
        some (caller.now.addMinutes service.settings.loginLockoutMinutes)
      else user.lockedUntil }

def registerFailedLogin (user : UserAccount) : AuthProgram Unit := do
  let _ ← updateUser (service.failedLogin caller user)
  commit

def checkPassword (user : UserAccount) (rawPassword : String) : AuthProgram Unit :=
  if verifyPassword service.digests rawPassword user.passwordHash then pure ()
  else do
    observe (.failed user.id)
    registerFailedLogin service caller user
    recordAuthEvent
    raise (validationError "Invalid credentials." "AUTH_FAILED")

def mfaRefused (mfaCode : Option String) : DomainError :=
  if strip (mfaCode.getD "") = "" then
    validationError "Multi-factor authentication code is required." "AUTH_MFA_REQUIRED"
  else validationError "Invalid multi-factor authentication code." "AUTH_MFA_FAILED"

/-- A code without six digits is counted without being compared, and one that the comparison does
not take raises without being counted. -/
def checkMfaCode (user : UserAccount) (mfaCode : Option String) : AuthProgram Unit :=
  if user.mfaEnabled then
    match verifyTotpCode service.digests user.mfaSecret mfaCode caller.now with
    | .ok true => pure ()
    | verification => do
        if totpCompared service.digests user.mfaSecret mfaCode caller.now then
          observe (.failed user.id)
        let _ ← read fun _ => verification
        registerFailedLogin service caller user
        recordAuthEvent
        raise (mfaRefused mfaCode)
  else pure ()

def AuthService.entered (user : UserAccount) (authMethod : String) (deviceLabel : Option String) :
    UserAccount :=
  { user.unlocked with
    lastLoginAt := some caller.now
    lastLoginAuthMethod := some authMethod
    lastLoginDeviceLabel := normalizeDeviceLabel deviceLabel
    sessionExpiresAt := some (nextSessionExpiry service caller.now user) }

def AuthService.openedSession (user : UserAccount) (authMethod : String)
    (deviceLabel : Option String) (sessionId : String) : AuthSession where
  id := sessionId
  userId := user.id
  sessionRevision := max 1 user.sessionRevision
  authMethod := orElse (strip authMethod) "password"
  deviceLabel := normalizeDeviceLabel deviceLabel
  expiresAt := some (nextSessionExpiry service caller.now user)

def insertSession (row : AuthSession) (store : AuthStore) : Except DomainError AuthStore := do
  ensure (row.id ∉ store.authSessions.ids) (takenPrimaryKey "auth_sessions")
  return { store with authSessions := store.authSessions.insert row }

def completeSuccessfulAuthentication (user : UserAccount) (authMethod : String)
    (deviceLabel : Option String) (sessionId : String) : AuthProgram AuthenticatedUser := do
  let saved ← updateUser (service.entered caller user authMethod deviceLabel)
  commitWith (insertSession (service.openedSession caller user authMethod deviceLabel sessionId))
  observe (.reset user.id)
  recordAuthEvent
  return ⟨saved, sessionId⟩

/-- What both kinds of logins do with the active user that they found. Without a password none is
asked for. -/
def enterAccount (user : UserAccount) (rawPassword mfaCode : Option String) (authMethod : String)
    (deviceLabel : Option String) (sessionId : String) : AuthProgram AuthenticatedUser := do
  let user ← releaseExpiredLock caller user
  refuseLocked caller user
  rawPassword.forM (checkPassword service caller user)
  checkMfaCode service caller user mfaCode
  completeSuccessfulAuthentication service caller user authMethod deviceLabel sessionId

/-! ## Logins -/

structure PasswordLogin where
  username : String
  rawPassword : String
  mfaCode : Option String := none
  deviceLabel : Option String := none
  sessionId : String

structure FederatedLogin where
  identityProvider : Option String
  federatedSubject : Option String
  mfaCode : Option String := none
  deviceLabel : Option String := none
  sessionId : String

namespace FederatedLogin

variable (arguments : FederatedLogin)

def provider : Option String := normalizeIdentityProvider arguments.identityProvider

def subject : Option String := normalizeFederatedSubject arguments.federatedSubject

def authMethod : String := "federated:" ++ arguments.provider.getD "None"

end FederatedLogin

def authenticate (arguments : PasswordLogin) : AuthProgram AuthenticatedUser := do
  let found ← read fun store => .ok (getByUsername store (lower (strip arguments.username)))
  let user ← activeUser found "Invalid credentials."
  enterAccount service caller user (some arguments.rawPassword) arguments.mfaCode "password"
    arguments.deviceLabel arguments.sessionId

def authenticateFederated (arguments : FederatedLogin) : AuthProgram AuthenticatedUser := do
  let _ ← read fun _ => validateFederatedIdentity arguments.provider arguments.subject
  let found ← read fun store =>
    .ok (getByFederatedIdentity store arguments.provider arguments.subject)
  let user ← activeUser found "Invalid federated identity."
  enterAccount service caller user none arguments.mfaCode arguments.authMethod
    arguments.deviceLabel arguments.sessionId

end

/-! ## An office with one administrator -/

/-- Digests that tell passwords apart, and a code that is always the same. -/
def plainDigests : Digests where
  pbkdf2Hmac _ rawPassword salt _ :=
    rawPassword.toList.map (fun c => UInt8.ofNat c.toNat) ++ salt
  hmacSha1 _ _ _ := 0

def plainAuth : AuthService where
  digests := plainDigests

/-- The user that the first start makes, without a federated identity. -/
def administrator : UserAccount where
  id := "user1"
  id_ne := by decide
  username := "admin"
  passwordHash := hashPassword plainDigests "ChangeMe123!" [7]
  mustChangePassword := true

def adminOffice : AuthStore where
  users := ⟨[administrator], List.nodup_singleton _⟩

/-- Nobody is signed in, at a moment of the year 2024. -/
def signedOut (minutes : ℤ) : AuthCaller where
  userSession := sessionAuthorizationEngine none
  now := (Moment.atTime 738886 0).addMinutes minutes

end ProjectManager
