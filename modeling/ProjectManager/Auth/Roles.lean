import ProjectManager.Auth.Logins
import ProjectManager.Auth.Policy

/-! # Registration and roles

The first start seeds the permissions and the roles of the system and registers an
administrator. Managers register users and assign or revoke their roles. Separation of
duties is enforced where roles are added.
-/

namespace ProjectManager

open Foundation AuthProgram

/-! ## System roles -/

/-- The ids that are generated for the rows of the first start. -/
structure SeedIds where
  permissionId : String → String
  roleId : String → String

def getByCode (store : AuthStore) (code : String) : Option Permission :=
  store.permissions.rows.find? fun permission => permission.code = code

section

variable (ids : SeedIds)

def ensureDefaultPermission (store : AuthStore) (code : String) : Except DomainError AuthStore :=
  if (getByCode store code).isSome then .ok store
  else do
    ensure (ids.permissionId code ∉ store.permissions.ids) (takenPrimaryKey "permissions")
    return { store with permissions := store.permissions.insert ⟨ids.permissionId code, code⟩ }

def ensureDefaultRole (store : AuthStore) (roleName : String) : Except DomainError AuthStore :=
  if (getByName store roleName).isSome then .ok store
  else do
    ensure (ids.roleId roleName ∉ store.roles.ids) (takenPrimaryKey "roles")
    return { store with roles := store.roles.insert ⟨ids.roleId roleName, roleName⟩ }

/-- What the system roles are granted by default, as far as both rows exist. -/
def defaultRoleBindings (store : AuthStore) : List RolePermissionBinding :=
  defaultRolePermissions.flatMap fun entry => entry.2.filterMap fun code => do
    let role ← getByName store entry.1
    let permission ← getByCode store code
    return ⟨role.id, permission.id⟩

def ensureRolePermissions (store : AuthStore) : AuthStore :=
  { store with
    rolePermissions := (defaultRoleBindings store).foldl Table.insert store.rolePermissions }

@[irreducible]
def seedDefaults (store : AuthStore) : Except DomainError AuthStore := do
  let withPermissions ← defaultPermissions.foldlM (ensureDefaultPermission ids) store
  let withRoles ← defaultRoleNames.foldlM (ensureDefaultRole ids) withPermissions
  return ensureRolePermissions withRoles

end

/-! ## Registration -/

structure Registration where
  username : String
  rawPassword : String
  displayName : Option String := none
  email : Option String := none
  isActive : Bool := true
  roleNames : List String := []
  mustChangePassword : Bool := false
  identityProvider : Option String := none
  federatedSubject : Option String := none
  sessionTimeoutMinutesOverride : Option ℤ := none
  userId : String
  userId_ne : userId ≠ ""
  salt : List UInt8

/-- Without roles the user becomes a viewer. -/
def Registration.resolvedRoleNames (arguments : Registration) : List String :=
  if arguments.roleNames = [] then ["viewer"] else arguments.roleNames

def normalizeEmail (email : Option String) : Option String :=
  let value := lower (strip (email.getD ""))
  if value = "" then none else some value

/-- A letter of the pattern for emails, or one of the other characters. -/
def emailChar (others : String) (c : Char) : Bool := c.isAlphanum || decide (c ∈ others.toList)

/-- `^[A-Za-z0-9._%+-]+@[A-Za-z0-9.-]+\.[A-Za-z]{2,}$` on a text without a line break at its end.
The last dot of the domain is the one before the letters. -/
def isEmail (email : String) : Bool :=
  match email.toList.splitOn '@' with
  | [user, domain] =>
      let letters := domain.reverse.takeWhile (· ≠ '.')
      let host := (domain.reverse.dropWhile (· ≠ '.')).drop 1
      decide (user ≠ []) && user.all (emailChar "._%+-") && decide (host ≠ []) &&
        host.all (emailChar ".-") && decide (2 ≤ letters.length) && letters.all Char.isAlpha
  | _ => false

def validateEmail (email : Option String) : Except DomainError Unit :=
  ensure (∀ value ∈ email, isEmail value = true)
    (validationError "Invalid email format." "INVALID_EMAIL")

def validateSessionTimeoutOverride (value : Option ℤ) :
    Except DomainError (Option SessionTimeout) :=
  match value with
  | none => .ok none
  | some minutes =>
      if bounds : 5 ≤ minutes ∧ minutes ≤ 1440 then .ok (some ⟨minutes, bounds⟩)
      else .error (validationError
        "Session timeout override must be between 5 and 1440 minutes."
        "AUTH_SESSION_TIMEOUT_INVALID")

def usernameExists : DomainError := validationError "Username already exists." "USERNAME_EXISTS"

section

variable (service : AuthService) (caller : AuthCaller) (rules : List SeparationOfDutiesRule)

@[irreducible]
def registeredUser (arguments : Registration) (store : AuthStore) :
    Except DomainError UserAccount := do
  let normalized := lower (strip arguments.username)
  let email := normalizeEmail arguments.email
  let identityProvider := normalizeIdentityProvider arguments.identityProvider
  let federatedSubject := normalizeFederatedSubject arguments.federatedSubject
  ensure (normalized ≠ "") (validationError "Username is required." "USERNAME_REQUIRED")
  validateEmail email
  validatePassword arguments.rawPassword
  validateFederatedIdentity identityProvider federatedSubject
  let timeout ← validateSessionTimeoutOverride arguments.sessionTimeoutMinutesOverride
  ensure (getByUsername store normalized = none) usernameExists
  ensure (identityProvider = none ∨ federatedSubject = none ∨
      getByFederatedIdentity store identityProvider federatedSubject = none)
    (validationError "Federated identity is already linked to another user."
      "FEDERATED_IDENTITY_EXISTS")
  enforceSeparationOfDuties rules arguments.resolvedRoleNames store
  return {
    id := arguments.userId
    id_ne := arguments.userId_ne
    username := normalized
    passwordHash := hashPassword service.digests arguments.rawPassword arguments.salt
    displayName := arguments.displayName.map strip |>.filter (· ≠ "")
    email := email
    identityProvider := identityProvider
    federatedSubject := federatedSubject
    sessionTimeoutMinutesOverride := timeout
    isActive := arguments.isActive
    passwordChangedAt := some caller.now
    mustChangePassword := arguments.mustChangePassword }

/-- Add the user with the roles. The flush writes the user first, and the text of its conflict names
the column of the usernames; a role that is given twice is a conflict of the bindings. -/
def addUser (user : UserAccount) (roleNames : List String) (store : AuthStore) :
    Except DomainError AuthStore := do
  let roles ← roleNames.mapM (requireRoleByName store)
  ensure (user.id ∉ store.users.ids) usernameExists
  ensure (roles.map Role.id).Nodup
    (validationError "Failed to create user due to data conflict." "USER_CREATE_CONFLICT")
  return { store with
    users := store.users.insert user
    userRoles := (roles.map fun role => ⟨user.id, role.id⟩).foldl Table.insert store.userRoles }

/-- The bootstrap registers without a permission, and commits itself. -/
def registerUser (arguments : Registration) (commits : Bool := true)
    (bypassPermission : Bool := false) : AuthProgram UserAccount := do
  let _ ← read fun _ =>
    if bypassPermission then .ok ()
    else caller.userSession.requirePermission "auth.manage" "register user"
  let user ← read (registeredUser service caller rules arguments)
  Program.rollingBack do
    write (addUser user arguments.resolvedRoleNames)
    if commits then commit
  return user

/-! ## Bootstrap -/

/-- Variables of the environment, the ids and the salt of a start. -/
structure BootstrapStart where
  adminUsername : Option String := none
  adminPassword : Option String := none
  allowDefaultAdminPassword : Option String := none
  ids : SeedIds
  userId : String
  userId_ne : userId ≠ ""
  salt : List UInt8

namespace BootstrapStart

variable (start : BootstrapStart)

def username : String := lower (orElse (strip (start.adminUsername.getD "admin")) "admin")

def truthyEnv (value : Option String) : Bool :=
  decide (lower (strip (value.getD "")) ∈ ["1", "true", "yes", "y", "on"])

def resolveBootstrapAdminPassword : Except DomainError String :=
  match start.adminPassword.filter fun configured => strip configured ≠ "" with
  | some configured => .ok configured
  | none =>
      if truthyEnv start.allowDefaultAdminPassword then .ok "ChangeMe123!"
      else .error (validationError
        "PM_ADMIN_PASSWORD must be set before the first administrator account can be bootstrapped."
        "AUTH_BOOTSTRAP_PASSWORD_REQUIRED")

def registration (rawPassword : String) : Registration where
  username := start.username
  rawPassword := rawPassword
  displayName := some "Administrator"
  roleNames := ["admin"]
  mustChangePassword := true
  userId := start.userId
  userId_ne := start.userId_ne
  salt := start.salt

end BootstrapStart

/-- Make sure that the user holds the role of administrators, if there is one. -/
def AuthStore.withAdminRole (store : AuthStore) (user : UserAccount) : AuthStore :=
  match getByName store "admin" with
  | some role => { store with userRoles := store.userRoles.insert ⟨user.id, role.id⟩ }
  | none => store

def bootstrapDefaults (start : BootstrapStart) : AuthProgram UserAccount := do
  Program.rollingBack (write (seedDefaults start.ids))
  let found ← read fun store => .ok (getByUsername store start.username)
  match found with
  | none => do
      let rawPassword ← read fun _ => start.resolveBootstrapAdminPassword
      let admin ← registerUser service caller rules (start.registration rawPassword) false true
      commit
      return admin
  | some admin => do
      write fun store => .ok (store.withAdminRole admin)
      commit
      return admin

/-! ## Roles of a user -/

def checkAssignment (userId roleName : String) (store : AuthStore) :
    Except DomainError UserRoleBinding := do
  caller.userSession.requirePermission "auth.manage" "assign role"
  let user ← requireUser store userId
  enforceSeparationOfDuties rules (getUserRoleNames store user.id ++ [roleName]) store
  let role ← requireRoleByName store roleName
  return ⟨user.id, role.id⟩

def assignRole (userId roleName : String) : AuthProgram Unit := do
  let binding ← read (checkAssignment caller rules userId roleName)
  let assigned ← read fun store => .ok (decide (binding ∈ store.userRoles.rows))
  if assigned then pure ()
  else do
    write fun store => .ok { store with userRoles := store.userRoles.insert binding }
    commit

def checkRevocation (userId roleName : String) (store : AuthStore) :
    Except DomainError UserRoleBinding := do
  caller.userSession.requirePermission "auth.manage" "revoke role"
  let user ← requireUser store userId
  let role ← requireRoleByName store roleName
  return ⟨user.id, role.id⟩

def revokeRole (userId roleName : String) : AuthProgram Unit := do
  let binding ← read (checkRevocation caller userId roleName)
  write fun store =>
    .ok { store with userRoles := store.userRoles.filter fun row => row ≠ binding }
  commit

end

end ProjectManager
