import ProjectManager.Auth.Access
import ProjectManager.Auth.Accounts
import ProjectManager.Auth.Contexts
import ProjectManager.Auth.Roles

/-! # Processes on one database

Several processes work on the committed tables, each with a context of its own. A login
puts its principal into the context of the process. Calls check the permission of the
context first, and refresh the context in the end; calls of different processes follow
each other.
-/

namespace ProjectManager

open Foundation

/-- The services of a process. -/
structure AuthServices extends AuthService where
  registry : ScopedRolePolicyRegistry := fun _ => none
  rules : List SeparationOfDutiesRule := defaultSeparationOfDutiesRules

/-! ## Calls -/

inductive AuthCall
  | assignRole (userId roleName : String)
  | revokeRole (userId roleName : String)
  | assignScopeGrant (arguments : GrantArguments)
  | removeScopeGrant (scopeType scopeId userId : String)
  | changePassword (userId currentPassword newPassword : String) (salt : List UInt8)
  | resetUserPassword (userId newPassword : String) (salt : List UInt8)
  | revokeUserSessions (userId : String)
  | revokeSession (sessionId : String)

namespace AuthCall

/-- What the call does to the tables, and the user whose context is refreshed afterwards. -/
def program (services : AuthServices) (caller : AuthCaller) : AuthCall → AuthProgram String
  | assignRole userId roleName => do
      ProjectManager.assignRole caller services.rules userId roleName
      return userId
  | revokeRole userId roleName => do
      ProjectManager.revokeRole caller userId roleName
      return userId
  | assignScopeGrant arguments => do
      let _ ← ProjectManager.assignScopeGrant services.registry caller arguments
      return arguments.userId
  | removeScopeGrant scopeType scopeId userId => do
      ProjectManager.removeScopeGrant services.registry caller scopeType scopeId userId
      return userId
  | changePassword userId currentPassword newPassword salt => do
      let _ ← ProjectManager.changePassword services.toAuthService caller userId currentPassword
        newPassword salt
      return userId
  | resetUserPassword userId newPassword salt => do
      let _ ← ProjectManager.resetUserPassword services.toAuthService caller userId newPassword salt
      return userId
  | revokeUserSessions userId => do
      let _ ← ProjectManager.revokeUserSessions caller userId
      return userId
  | revokeSession sessionId => do
      let row ← ProjectManager.revokeSession caller sessionId
      return row.userId

/-- The context after the check of the permission with which every call but one begins. -/
def checkedContext (store : AuthStore) (now : Moment) (context : Option UserSessionPrincipal) :
    AuthCall → Option UserSessionPrincipal
  | changePassword .. => context
  | _ => activePrincipal store now context

def refreshedContext (store : AuthStore) (now : Moment) (userId : String)
    (context : Option UserSessionPrincipal) : AuthCall → Option UserSessionPrincipal
  | assignScopeGrant .. | removeScopeGrant .. => refreshCurrentSessionIfNeeded store userId context
  | _ => refreshCurrentSessionIfUser store now userId context

/-- The sessions that the call revokes by its name, when it is accepted. -/
def revokes (store : AuthStore) : AuthCall → List String
  | revokeUserSessions userId => (listSessionsByUser store userId).map AuthSession.id
  | revokeSession sessionId => [sessionId]
  | _ => []

end AuthCall

/-! ## Logins -/

abbrev LoginArguments := PasswordLogin ⊕ FederatedLogin

def LoginArguments.sessionId (arguments : LoginArguments) : String :=
  arguments.elim PasswordLogin.sessionId FederatedLogin.sessionId

/-- The id of the session is generated, without blanks. -/
structure DeviceLogin where
  arguments : LoginArguments
  sessionId_plain : strip arguments.sessionId = arguments.sessionId ∧ arguments.sessionId ≠ ""

def DeviceLogin.program (login : DeviceLogin) (service : AuthService) (caller : AuthCaller) :
    AuthProgram AuthenticatedUser :=
  login.arguments.elim (authenticate service caller) (authenticateFederated service caller)

/-! ## The system -/

inductive AuthAction
  | login (login : DeviceLogin)
  | call (call : AuthCall)
  | check (check : PermissionCheck)

structure AuthEvent (π : Type) where
  process : π
  now : Moment
  action : AuthAction

/-- The tables and the contexts. Beside them it is kept which session a process was logged in with,
and which sessions were revoked by name. -/
structure AuthSystem (π : Type) where
  store : AuthStore
  context : π → Option UserSessionPrincipal
  loggedInWith : π → Option String
  revoked : List String

namespace AuthSystem

variable {π : Type} [DecidableEq π]

/-- Nobody is logged in yet. -/
def started (store : AuthStore) : AuthSystem π where
  store := store
  context _ := none
  loggedInWith _ := none
  revoked := []

variable (services : AuthServices) (system : AuthSystem π)

/-- The login dialog authenticates, builds the principal and sets it. -/
def afterLogin (process : π) (now : Moment) (login : DeviceLogin) : AuthSystem π :=
  match login.program services.toAuthService ⟨sessionAuthorizationEngine none, now⟩
      (.clean system.store) with
  | (.ok entered, next) =>
      { system with
        store := next.committed
        context := Function.update system.context process (some (buildPrincipal next.committed
          entered.user none (some entered.activeSessionId)).normalized)
        loggedInWith := Function.update system.loggedInWith process
          (some entered.activeSessionId) }
  | (.error _, next) => { system with store := next.committed }

def afterCall (process : π) (now : Moment) (call : AuthCall) : AuthSystem π :=
  let context := call.checkedContext system.store now (system.context process)
  match call.program services ⟨sessionAuthorizationEngine context, now⟩ (.clean system.store) with
  | (.ok userId, next) =>
      { system with
        store := next.committed
        context := Function.update system.context process
          (call.refreshedContext next.committed now userId context)
        revoked := call.revokes system.store ++ system.revoked }
  | (.error _, next) =>
      { system with
        store := next.committed
        context := Function.update system.context process context }

def activeAt (process : π) (now : Moment) : Option UserSessionPrincipal :=
  activePrincipal system.store now (system.context process)

def step (event : AuthEvent π) : AuthSystem π :=
  match event.action with
  | .login login => system.afterLogin services event.process event.now login
  | .call call => system.afterCall services event.process event.now call
  | .check _ =>
      { system with
        context := Function.update system.context event.process
          (system.activeAt event.process event.now) }

end AuthSystem

end ProjectManager
