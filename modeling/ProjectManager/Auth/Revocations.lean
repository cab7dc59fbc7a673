import ProjectManager.Auth.Devices
import ProjectManager.Auth.Entries

/-! # Revoked sessions

A process that was logged in with a session is denied everything once the session is
revoked, and keeps the session until the next login, unless a call rebuilds the
principal of its own process without a session.
-/

namespace ProjectManager

open Foundation Program AuthProgram

/-! ## Principals for a session -/

/-- A generated id: nothing is stripped, and it is not empty. -/
def PlainId (id : String) : Prop := strip id = id ∧ id ≠ ""

theorem PlainId.strippedText {id : String} (h : PlainId id) :
    ProjectManager.strippedText (some id) = some id := by
  unfold ProjectManager.strippedText
  rw [Option.map_some, h.1, Option.filter_some, if_pos (decide_eq_true h.2)]

section

variable {store : AuthStore} {now : Moment} {sessionId : String}

def OpenSession (store : AuthStore) (sessionId : String) : Prop :=
  ∃ row, store.authSessions.get? sessionId = some row ∧ row.revokedAt = none

theorem buildPrincipal_sessionId (hplain : PlainId sessionId) (hopen : OpenSession store sessionId)
    (user : UserAccount) {asked active : Option String}
    (hasked : (strippedText asked <|> strippedText active) = some sessionId) :
    (buildPrincipal store user asked active).normalized.sessionId = some sessionId := by
  obtain ⟨row, hrow, hrevoked⟩ := hopen
  have hresolved : resolveSession store asked active = (some sessionId, some row) := by
    unfold resolveSession
    rw [hasked]
    simp only [hrow, hrevoked, if_true]
  unfold buildPrincipal UserSessionPrincipal.normalized
  simp only [hresolved]
  exact hplain.strippedText

theorem validateSession_open {user : UserAccount} {validated : UserSessionPrincipal}
    (h : validateSession store now user sessionId = some validated) :
    OpenSession store sessionId ∧ validated = buildPrincipal store user (some sessionId) := by
  obtain ⟨row, hrow, h⟩ := Option.bind_eq_some_iff.mp h
  obtain ⟨-, -, h⟩ := Option.bind_eq_some_iff.mp h
  obtain ⟨_, hrevoked, h⟩ := Option.bind_eq_some_iff.mp h
  obtain ⟨_, -, h⟩ := Option.bind_eq_some_iff.mp h
  obtain ⟨-, -, h⟩ := Option.bind_eq_some_iff.mp h
  obtain ⟨-, -, h⟩ := Option.bind_eq_some_iff.mp h
  cases h
  rw [(Table.get?_eq_some_iff.mp hrow).2]
  exact ⟨⟨row, hrow, (Option.guard_eq_some' ()).mp hrevoked⟩, rfl⟩

theorem activePrincipal_session {context : Option UserSessionPrincipal}
    {active : UserSessionPrincipal} (hplain : PlainId sessionId)
    (hcontext : ∀ principal ∈ context, principal.sessionId = some sessionId)
    (h : activePrincipal store now context = some active) :
    active.sessionId = some sessionId ∧ OpenSession store sessionId := by
  obtain ⟨principal, hprincipal, h⟩ := Option.bind_eq_some_iff.mp h
  obtain ⟨-, -, h⟩ := Option.bind_eq_some_iff.mp h
  obtain ⟨validated, hvalidated, h⟩ := Option.bind_eq_some_iff.mp h
  cases h
  obtain ⟨user, -, hvalidated⟩ := Option.bind_eq_some_iff.mp hvalidated
  obtain ⟨-, -, hvalidated⟩ := Option.bind_eq_some_iff.mp hvalidated
  obtain ⟨_, -, hvalidated⟩ := Option.bind_eq_some_iff.mp hvalidated
  obtain ⟨-, -, hvalidated⟩ := Option.bind_eq_some_iff.mp hvalidated
  rw [hcontext principal hprincipal, Option.filter_some,
    if_pos (decide_eq_true hplain.2)] at hvalidated
  obtain ⟨hopen, rfl⟩ := validateSession_open hvalidated
  refine ⟨buildPrincipal_sessionId hplain hopen user ?_, hopen⟩
  rw [hplain.strippedText]
  rfl

theorem refreshCurrentSessionIfUser_session {userId : String}
    {context : Option UserSessionPrincipal} {next : UserSessionPrincipal}
    (hplain : PlainId sessionId)
    (hcontext : ∀ principal ∈ context, principal.sessionId = some sessionId)
    (hopen : ∀ principal ∈ context, principal.userId = userId →
      ∀ user, store.users.get? userId = some user → user.isActive = true →
        (∀ expiresAt ∈ user.sessionExpiresAt, now < expiresAt) → OpenSession store sessionId)
    (h : refreshCurrentSessionIfUser store now userId context = some next) :
    next.sessionId = some sessionId := by
  obtain ⟨principal, hprincipal, h⟩ := Option.bind_eq_some_iff.mp h
  split at h
  next hsame =>
    obtain ⟨user, huser, h⟩ := Option.bind_eq_some_iff.mp h
    obtain ⟨_, hactive, h⟩ := Option.bind_eq_some_iff.mp h
    obtain ⟨_, hexpires, h⟩ := Option.bind_eq_some_iff.mp h
    cases h
    have hsession := hopen principal hprincipal hsame user huser
      ((Option.guard_eq_some' ()).mp hactive) ((Option.guard_eq_some' ()).mp hexpires)
    have hcurrent : currentPrincipalSessionId store principal = some sessionId := by
      obtain ⟨row, hrow, hrevoked⟩ := hsession
      unfold currentPrincipalSessionId
      rw [hcontext principal hprincipal, hplain.strippedText]
      exact Option.bind_eq_some_iff.mpr ⟨sessionId, rfl, Option.bind_eq_some_iff.mpr
        ⟨row, hrow, Option.bind_eq_some_iff.mpr
          ⟨(), (Option.guard_eq_some' ()).mpr hrevoked, rfl⟩⟩⟩
    refine buildPrincipal_sessionId hplain hsession user ?_
    rw [hcurrent, hplain.strippedText]
    rfl
  next =>
    cases h
    exact hcontext _ hprincipal

/-- Other users are not rebuilt. -/
theorem refreshCurrentSessionIfNeeded_session {userId : String}
    {context : Option UserSessionPrincipal} {next : UserSessionPrincipal}
    (hcontext : ∀ principal ∈ context, principal.sessionId = some sessionId)
    (hother : ∀ principal ∈ context, principal.userId ≠ userId)
    (h : refreshCurrentSessionIfNeeded store userId context = some next) :
    next.sessionId = some sessionId := by
  obtain ⟨principal, hprincipal, h⟩ := Option.bind_eq_some_iff.mp h
  rw [if_neg (hother principal hprincipal)] at h
  cases h
  exact hcontext _ hprincipal

end

/-! ## Sessions of a store -/

def SessionsStay (before after : AuthStore) : Prop :=
  ∀ sessionId row, before.authSessions.get? sessionId = some row →
    ∃ later, after.authSessions.get? sessionId = some later ∧
      (row.revokedAt ≠ none → later.revokedAt ≠ none)

section

variable {store next : AuthStore}

theorem sessionsStay_of_eq (h : next.authSessions = store.authSessions) :
    SessionsStay store next := by
  intro sessionId row hrow
  rw [h]
  exact ⟨row, hrow, id⟩

theorem get?_revokeAll (userId sessionId : String) (revokedAt : Moment) :
    (store.revokeAllPersistedSessions userId revokedAt).authSessions.get? sessionId =
      (store.authSessions.get? sessionId).map fun row =>
        if row.userId = userId ∧ row.revokedAt = none then row.revoked revokedAt else row :=
  Table.get?_mapRows (fun row => by split <;> rfl) sessionId

theorem sessionsStay_revokeAll {userId : String} {revokedAt : Moment}
    (h : next.authSessions = (store.revokeAllPersistedSessions userId revokedAt).authSessions) :
    SessionsStay store next := by
  intro sessionId row hrow
  rw [h, get?_revokeAll, hrow]
  refine ⟨_, rfl, fun hrevoked => ?_⟩
  beta_reduce
  split
  · exact Option.some_ne_none _
  · exact hrevoked

theorem revokeAll_revoked {userId sessionId : String} {revokedAt : Moment}
    (h : next.authSessions = (store.revokeAllPersistedSessions userId revokedAt).authSessions)
    (hmem : sessionId ∈ (listSessionsByUser store userId).map AuthSession.id) :
    ∃ row, next.authSessions.get? sessionId = some row ∧ row.revokedAt ≠ none := by
  obtain ⟨row, hlisted, rfl⟩ := List.mem_map.mp hmem
  obtain ⟨hrow, huser⟩ := List.mem_filter.mp hlisted
  rw [h, get?_revokeAll, store.authSessions.get?_of_mem hrow]
  refine ⟨_, rfl, ?_⟩
  beta_reduce
  split
  · exact Option.some_ne_none _
  next hkept => exact fun hopen => hkept ⟨of_decide_eq_true huser, hopen⟩

theorem sessionsStay_revoke {row : AuthSession} {revokedAt : Moment}
    (hrow : row ∈ store.authSessions.rows)
    (h : next.authSessions = store.authSessions.update (row.revoked revokedAt)) :
    SessionsStay store next := by
  intro sessionId other hother
  rw [h]
  by_cases hsame : sessionId = row.id
  · subst hsame
    have hstored : store.authSessions.get? (row.revoked revokedAt).id = some row :=
      store.authSessions.get?_of_mem hrow
    exact ⟨_, Table.get?_update_self hstored, fun _ => Option.some_ne_none _⟩
  · have hne : sessionId ≠ (row.revoked revokedAt).id := hsame
    exact ⟨other, (Table.get?_update_of_ne hne).trans hother, id⟩

theorem sessionsStay_insert {row : AuthSession} (hfresh : row.id ∉ store.authSessions.ids)
    (h : next.authSessions = store.authSessions.insert row) : SessionsStay store next := by
  intro sessionId other hother
  have hne : sessionId ≠ row.id := by
    rintro rfl
    have hstored := Table.get?_eq_some_iff.mp hother
    exact hfresh (hstored.2 ▸ store.authSessions.mem_ids hstored.1)
  rw [h]
  exact ⟨other, (Table.get?_insert_of_ne hne).trans hother, id⟩

theorem OpenSession.congr {sessionId : String} (hopen : OpenSession store sessionId)
    (h : next.authSessions.get? sessionId = store.authSessions.get? sessionId) :
    OpenSession next sessionId := by
  obtain ⟨row, hrow, hrevoked⟩ := hopen
  exact ⟨row, h.trans hrow, hrevoked⟩

end

/-! ## What the calls leave -/

/-- No changes are open, and the sessions are those of the store. -/
def SameSessions (store : AuthStore) (next : Session AuthStore) : Prop :=
  ∃ state, next = .clean state ∧ state.authSessions = store.authSessions

section

variable {services : AuthServices} {caller : AuthCaller} {store : AuthStore}

theorem assignRole_sessions (userId roleName : String) :
    (assignRole caller services.rules userId roleName).Spec (.clean store)
      (fun _ => SameSessions store) fun _ => SameSessions store := by
  unfold assignRole
  rw [spec_bind]
  cases hchecked : checkAssignment caller services.rules userId roleName store with
  | error e =>
      rw [spec_read_of_error hchecked]
      exact ⟨store, rfl, rfl⟩
  | ok binding =>
      rw [spec_read_of_ok hchecked, spec_bind, spec_read_total]
      split
      · exact ⟨store, rfl, rfl⟩
      · exact ⟨_, rfl, rfl⟩

theorem revokeRole_sessions (userId roleName : String) :
    (revokeRole caller userId roleName).Spec (.clean store)
      (fun _ => SameSessions store) fun _ => SameSessions store := by
  unfold revokeRole
  rw [spec_bind]
  cases hchecked : checkRevocation caller userId roleName store with
  | error e =>
      rw [spec_read_of_error hchecked]
      exact ⟨store, rfl, rfl⟩
  | ok binding =>
      rw [spec_read_of_ok hchecked]
      exact ⟨_, rfl, rfl⟩

/-- What an accepted assignment passed. -/
def GrantAccepted (registry : ScopedRolePolicyRegistry) (caller : AuthCaller)
    (arguments : GrantArguments) (store : AuthStore) : Prop :=
  (checkScopeGrant registry caller arguments store >>= fun grant => writeGrant grant store).isOk =
    true

instance (registry : ScopedRolePolicyRegistry) (caller : AuthCaller) (arguments : GrantArguments)
    (store : AuthStore) : Decidable (GrantAccepted registry caller arguments store) :=
  inferInstanceAs (Decidable (_ = true))

theorem writeGrant_sessions {grant : ScopedAccessGrant × Bool} {next : AuthStore}
    (h : writeGrant grant store = .ok next) : next.authSessions = store.authSessions := by
  unfold writeGrant at h
  split at h
  · obtain ⟨-, -, h⟩ := bind_ok h
    cases h
    rfl
  · obtain rfl := Except.ok.inj h
    rfl

theorem assignScopeGrant_sessions (arguments : GrantArguments) :
    (assignScopeGrant services.registry caller arguments).Spec (.clean store)
      (fun _ next => SameSessions store next ∧
        GrantAccepted services.registry caller arguments store) fun _ => SameSessions store := by
  unfold assignScopeGrant
  rw [spec_bind]
  cases hchecked : checkScopeGrant services.registry caller arguments store with
  | error e =>
      rw [spec_read_of_error hchecked]
      exact ⟨store, rfl, rfl⟩
  | ok grant =>
      rw [spec_read_of_ok hchecked, spec_bind]
      cases hwritten : writeGrant grant store with
      | error e =>
          rw [spec_commitWith_of_error hwritten]
          exact ⟨store, rfl, rfl⟩
      | ok next =>
          rw [spec_commitWith_of_ok hwritten]
          refine ⟨⟨next, rfl, writeGrant_sessions hwritten⟩, ?_⟩
          have haccepted : (checkScopeGrant services.registry caller arguments store >>=
              fun grant => writeGrant grant store) = .ok next :=
            bind_eq_ok.mpr ⟨grant, hchecked, hwritten⟩
          unfold GrantAccepted
          rw [haccepted]
          rfl

theorem removeScopeGrant_sessions (scopeType scopeId userId : String) :
    (removeScopeGrant services.registry caller scopeType scopeId userId).Spec (.clean store)
      (fun _ next => SameSessions store next ∧
        (checkGrantRemoval services.registry caller scopeType scopeId userId store).isOk = true)
      fun _ => SameSessions store := by
  unfold removeScopeGrant
  rw [spec_bind]
  cases hchecked : checkGrantRemoval services.registry caller scopeType scopeId userId store with
  | error e =>
      rw [spec_read_of_error hchecked]
      exact ⟨store, rfl, rfl⟩
  | ok grant =>
      rw [spec_read_of_ok hchecked]
      exact ⟨⟨_, rfl, rfl⟩, rfl⟩

/-- The sessions of the user are revoked, and the row of the user was written. -/
structure SessionsRevoked (caller : AuthCaller) (store : AuthStore) (before after : UserAccount)
    (next : Session AuthStore) (state : AuthStore) : Prop where
  left : next = .clean state
  stored : store.users.get? before.id = some before
  sessions : state.authSessions =
    (store.revokeAllPersistedSessions before.id caller.now).authSessions
  written : state.users.get? before.id = some after

/-- The writes with which passwords and revocations end. -/
theorem revokeAndUpdate_spec {committed : AuthStore} {user : UserAccount} (written : UserAccount)
    (hstored : store.users.get? user.id = some user) (hid : written.id = user.id)
    (hversion : written.version = user.version) {returns : UserAccount → Session AuthStore → Prop}
    {raises : DomainError → Session AuthStore → Prop}
    (hreturns : ∀ state, SessionsRevoked caller store user written.saved (.clean state) state →
      returns written.saved ⟨committed, state⟩) :
    (updateUser written).Spec
      ⟨committed, store.revokeAllPersistedSessions user.id caller.now⟩ returns raises := by
  have hrow : user ∈ (store.revokeAllPersistedSessions user.id caller.now).users.rows :=
    (Table.get?_eq_some_iff.mp hstored).1
  rw [spec_updateUser written hrow hid hversion]
  refine hreturns _ ⟨rfl, hstored, rfl, ?_⟩
  have hget : store.users.get? written.saved.id = some user := by
    change store.users.get? written.id = some user
    rw [hid]
    exact hstored
  rw [← hid]
  exact Table.get?_update_self hget

theorem changePassword_sessions (userId currentPassword newPassword : String)
    (salt : List UInt8) :
    (changePassword services.toAuthService caller userId currentPassword newPassword salt).Spec
      (.clean store)
      (fun _ next => ∃ state before after, SessionsRevoked caller store before after next state ∧
        before.id = userId ∧ after.isActive = before.isActive ∧
        verifyPassword services.digests currentPassword before.passwordHash = true ∧
        (validatePassword newPassword).isOk = true)
      fun _ => SameSessions store := by
  unfold changePassword
  refine spec_requireUser (fun _ => ⟨store, rfl, rfl⟩) ?_
  rintro user hstored rfl
  split
  next hverified =>
    rw [spec_bind]
    cases hvalid : validatePassword newPassword with
    | error e => exact ⟨store, rfl, rfl⟩
    | ok _ =>
        rw [spec_read_value, spec_bind, spec_write_ok, spec_bind]
        apply revokeAndUpdate_spec (services.passwordChanged caller user
          (hashPassword services.digests newPassword salt) false)
          (store.users.get?_of_mem hstored) rfl rfl
        intro state hrevoked
        exact ⟨state, user, _, hrevoked, rfl, rfl, hverified, rfl⟩
  next => exact ⟨_, rfl, rfl⟩

theorem resetUserPassword_sessions (userId newPassword : String) (salt : List UInt8) :
    (resetUserPassword services.toAuthService caller userId newPassword salt).Spec (.clean store)
      (fun _ next => ∃ state before after, SessionsRevoked caller store before after next state ∧
        before.id = userId ∧ caller.userSession.hasPermission "auth.manage" = true ∧
        (validatePassword newPassword).isOk = true)
      fun _ => SameSessions store := by
  unfold resetUserPassword
  rw [spec_bind]
  cases hallowed : caller.userSession.requirePermission "auth.manage" "reset user password" with
  | error e => exact ⟨store, rfl, rfl⟩
  | ok _ =>
      rw [spec_read_value]
      refine spec_requireUser (fun _ => ⟨store, rfl, rfl⟩) ?_
      rintro user hstored rfl
      rw [spec_bind]
      cases hvalid : validatePassword newPassword with
      | error e => exact ⟨store, rfl, rfl⟩
      | ok _ =>
          rw [spec_read_value, spec_bind, spec_write_ok, spec_bind]
          apply revokeAndUpdate_spec (services.passwordChanged caller user
            (hashPassword services.digests newPassword salt) true)
            (store.users.get?_of_mem hstored) rfl rfl
          intro state hrevoked
          exact ⟨state, user, _, hrevoked, rfl, ensure_eq_ok.mp hallowed, rfl⟩

theorem revokeUserSessions_sessions (userId : String) :
    (revokeUserSessions caller userId).Spec (.clean store)
      (fun _ next => ∃ state before after, SessionsRevoked caller store before after next state ∧
        before.id = userId ∧ after.sessionExpiresAt = some caller.now)
      fun _ => SameSessions store := by
  unfold revokeUserSessions
  rw [spec_bind]
  cases caller.userSession.requireAnyPermission ["auth.manage", "security.manage"]
      "revoke user sessions" with
  | error e => exact ⟨store, rfl, rfl⟩
  | ok _ =>
      rw [spec_read_value]
      refine spec_requireUser (fun _ => ⟨store, rfl, rfl⟩) ?_
      rintro user hstored rfl
      rw [spec_bind, spec_write_ok, spec_bind]
      apply revokeAndUpdate_spec { user.rotated with sessionExpiresAt := some caller.now }
        (store.users.get?_of_mem hstored) rfl rfl
      intro state hrevoked
      exact ⟨state, user, _, hrevoked, rfl, rfl⟩

theorem revokeSession_sessions (sessionId : String) :
    (revokeSession caller sessionId).Spec (.clean store)
      (fun value next => ∃ state, ∃ row ∈ store.authSessions.rows, next = .clean state ∧
        row.id = sessionId ∧ value = row.revoked caller.now ∧
        state.authSessions = store.authSessions.update (row.revoked caller.now) ∧
        ∃ code ∈ ["auth.manage", "security.manage"], caller.userSession.hasPermission code = true)
      fun _ => SameSessions store := by
  unfold revokeSession
  rw [spec_bind]
  cases hallowed : caller.userSession.requireAnyPermission ["auth.manage", "security.manage"]
      "revoke session" with
  | error e => exact ⟨store, rfl, rfl⟩
  | ok _ =>
      rw [spec_read_value, spec_bind]
      cases hfound : require (store.authSessions.get? sessionId)
          (validationError "Session not found." "AUTH_SESSION_NOT_FOUND") with
      | error e =>
          rw [spec_read_of_error hfound]
          exact ⟨store, rfl, rfl⟩
      | ok row =>
          obtain ⟨hstored, hid⟩ := Table.get?_eq_some_iff.mp (require_eq_ok.mp hfound)
          rw [spec_read_of_ok hfound]
          exact ⟨_, row, hstored, rfl, hid, rfl, rfl, ensure_eq_ok.mp hallowed⟩

/-- A login adds its session to the sessions. -/
structure SessionOpened (store : AuthStore) (sessionId : String) (value : AuthenticatedUser)
    (next : Session AuthStore) (state : AuthStore) (row : AuthSession) : Prop where
  left : next = .clean state
  fresh : row.id ∉ store.authSessions.ids
  sessions : state.authSessions = store.authSessions.insert row
  id : row.id = sessionId
  unrevoked : row.revokedAt = none
  active : value.activeSessionId = sessionId

variable {service : AuthService}

theorem loginReturned_opened {found : Option UserAccount} {rawPassword mfaCode : Option String}
    {authMethod sessionId : String} {deviceLabel : Option String} {value : AuthenticatedUser}
    {next : Session AuthStore}
    (h : LoginReturned service caller store found rawPassword mfaCode authMethod deviceLabel
      sessionId value next) :
    ∃ state row, SessionOpened store sessionId value next state row := by
  obtain ⟨user, -, -, hreturned⟩ := h
  have hsessions := @released_authSessions caller store user
  refine ⟨_, service.openedSession caller (user.released caller) authMethod deviceLabel sessionId,
    hreturned.left, ?_, ?_, rfl, rfl, hreturned.session⟩
  · exact hsessions ▸ hreturned.fresh
  · exact congrArg (fun sessions : Table AuthSession.id => sessions.insert _) hsessions

theorem loginRaised_sessions {found : Option UserAccount} {rawPassword mfaCode : Option String}
    {sessionId : String} {e : DomainError} {next : Session AuthStore}
    (h : LoginRaised service caller store found rawPassword mfaCode sessionId e next) :
    SameSessions store next := by
  rcases h with ⟨-, -, rfl⟩ | ⟨user, -, -, state, rfl, hstate⟩
  · exact ⟨store, rfl, rfl⟩
  · have hsessions := @released_authSessions caller store user
    rcases hstate with ⟨-, -, rfl⟩ | hrefused
    · exact ⟨_, rfl, hsessions⟩
    · refine ⟨state, rfl, ?_⟩
      cases hrefused with
      | locked hmoment hlocked => exact hsessions
      | wrongPassword hunlocked hgiven hwrong hclass => exact hsessions
      | wrongCode hunlocked hmfa hwrong hclass hobserved =>
          rcases hobserved with rfl | rfl <;> exact hsessions
      | codeRaised hunlocked hpassword hmfa hraised =>
          split <;> exact hsessions

theorem DeviceLogin.program_spec (login : DeviceLogin) :
    (login.program service caller).Spec (.clean store)
      (fun value next => ∃ state row,
        SessionOpened store login.arguments.sessionId value next state row)
      fun _ => SameSessions store := by
  unfold DeviceLogin.program LoginArguments.sessionId
  cases login.arguments with
  | inl arguments =>
      exact (authenticate_spec arguments).mono (fun _ _ => loginReturned_opened)
        fun _ _ => loginRaised_sessions
  | inr arguments =>
      refine (authenticateFederated_spec arguments).mono (fun _ _ h => loginReturned_opened h.2)
        fun e next h => ?_
      rcases h with ⟨-, rfl⟩ | hraised
      · exact ⟨store, rfl, rfl⟩
      · exact loginRaised_sessions hraised

end

/-! ## The condition and the invariant -/

namespace AuthSystem

variable {π : Type} (services : AuthServices)

/-- The caller of a call that begins with a permission check. -/
def callerAt (system : AuthSystem π) (event : AuthEvent π) : AuthCaller where
  userSession := sessionAuthorizationEngine (system.activeAt event.process event.now)
  now := event.now

/-- No accepted call has its own process rebuild the principal without its session: no change of
the own password, no reset of it, no change of own grants, no revocation of the own session. -/
def KeepsSession (system : AuthSystem π) (event : AuthEvent π) : Prop :=
  match event.action with
  | .call (.changePassword userId currentPassword newPassword _) =>
      ∀ principal ∈ system.context event.process, principal.userId = userId →
        ∀ user ∈ system.store.users.get? userId, user.isActive = true →
          verifyPassword services.digests currentPassword user.passwordHash = true →
            (validatePassword newPassword).isOk = false
  | .call (.resetUserPassword userId newPassword _) =>
      ∀ principal ∈ system.activeAt event.process event.now, principal.userId = userId →
        principal.hasPermission "auth.manage" = true → (validatePassword newPassword).isOk = false
  | .call (.assignScopeGrant arguments) =>
      ∀ principal ∈ system.activeAt event.process event.now, principal.userId = arguments.userId →
        ¬ GrantAccepted services.registry (system.callerAt event) arguments system.store
  | .call (.removeScopeGrant scopeType scopeId userId) =>
      ∀ principal ∈ system.activeAt event.process event.now, principal.userId = userId →
        (checkGrantRemoval services.registry (system.callerAt event) scopeType scopeId userId
          system.store).isOk = false
  | .call (.revokeSession sessionId) =>
      ∀ principal ∈ system.activeAt event.process event.now, principal.sessionId = some sessionId →
        ∀ code ∈ ["auth.manage", "security.manage"], principal.hasPermission code = false
  | _ => True

instance (system : AuthSystem π) (event : AuthEvent π) :
    Decidable (KeepsSession services system event) := by
  unfold KeepsSession
  split <;> infer_instance

/-- The context is one of the session, whose id is plain. -/
def ContextOf (loggedInWith : Option String) (context : Option UserSessionPrincipal) : Prop :=
  ∀ principal ∈ context, ∃ sessionId, PlainId sessionId ∧ loggedInWith = some sessionId ∧
    principal.sessionId = some sessionId

/-- Every context is one of the session that its process was logged in with, and what was revoked
by name is revoked in the tables. -/
structure Sound (system : AuthSystem π) : Prop where
  contexts : ∀ process, ContextOf (system.loggedInWith process) (system.context process)
  revoked : ∀ sessionId ∈ system.revoked, ∃ row,
    system.store.authSessions.get? sessionId = some row ∧ row.revokedAt ≠ none

/-! ## Steps -/

variable {services} {system : AuthSystem π} {process : π} {now : Moment}

theorem ContextOf.map {loggedInWith : Option String} {context next : Option UserSessionPrincipal}
    (h : ContextOf loggedInWith context) (hnone : context = none → next = none)
    (hnext : ∀ sessionId, PlainId sessionId →
      (∀ principal ∈ context, principal.sessionId = some sessionId) →
        ∀ principal ∈ next, principal.sessionId = some sessionId) :
    ContextOf loggedInWith next := by
  intro principal hprincipal
  cases hcontext : context with
  | none =>
      rw [hnone hcontext] at hprincipal
      cases hprincipal
  | some before =>
      obtain ⟨sessionId, hplain, hlogin, hsession⟩ := h before hcontext
      refine ⟨sessionId, hplain, hlogin, hnext sessionId hplain ?_ principal hprincipal⟩
      rintro other hother
      obtain rfl := Option.some.inj (hcontext.symm.trans hother)
      exact hsession

theorem ContextOf.active {loggedInWith : Option String} {context : Option UserSessionPrincipal}
    {store : AuthStore} (h : ContextOf loggedInWith context) :
    ContextOf loggedInWith (activePrincipal store now context) := by
  refine h.map (fun hnone => ?_) fun sessionId hplain hcontext principal hprincipal => ?_
  · rw [hnone]
    rfl
  · exact (activePrincipal_session hplain hcontext hprincipal).1

theorem ContextOf.open_of_active {loggedInWith : Option String}
    {context : Option UserSessionPrincipal} {store : AuthStore} (h : ContextOf loggedInWith context)
    {sessionId : String} {principal : UserSessionPrincipal}
    (hprincipal : activePrincipal store now context = some principal)
    (hsession : principal.sessionId = some sessionId) : OpenSession store sessionId := by
  obtain ⟨before, hbefore, -⟩ := Option.bind_eq_some_iff.mp hprincipal
  obtain ⟨other, hplain, -, hother⟩ := h before hbefore
  have hcontext : ∀ principal ∈ context, principal.sessionId = some other := by
    intro found hfound
    obtain rfl := Option.some.inj (hbefore.symm.trans hfound)
    exact hother
  obtain ⟨hkept, hopen⟩ := activePrincipal_session hplain hcontext hprincipal
  obtain rfl := Option.some.inj (hsession.symm.trans hkept)
  exact hopen

/-- The check at the beginning of a call keeps the session of the context. -/
theorem contextOf_activeAt (h : ContextOf (system.loggedInWith process) (system.context process)) :
    ContextOf (system.loggedInWith process) (system.activeAt process now) :=
  h.active

theorem ContextOf.refreshed {loggedInWith : Option String} {context : Option UserSessionPrincipal}
    {state : AuthStore} {userId : String} (h : ContextOf loggedInWith context)
    (hopen : ∀ principal ∈ context, ∀ sessionId, principal.sessionId = some sessionId →
      principal.userId = userId → ∀ user, state.users.get? userId = some user →
        user.isActive = true → (∀ expiresAt ∈ user.sessionExpiresAt, now < expiresAt) →
          OpenSession state sessionId) :
    ContextOf loggedInWith (refreshCurrentSessionIfUser state now userId context) := by
  refine h.map (fun hnone => ?_) fun sessionId hplain hcontext next hnext => ?_
  · rw [hnone]
    rfl
  · exact refreshCurrentSessionIfUser_session hplain hcontext (fun principal hprincipal =>
      hopen principal hprincipal sessionId (hcontext principal hprincipal)) hnext

theorem ContextOf.refreshedOther {loggedInWith : Option String}
    {context : Option UserSessionPrincipal} {state : AuthStore} {userId : String}
    (h : ContextOf loggedInWith context) (hother : ∀ principal ∈ context, principal.userId ≠ userId) :
    ContextOf loggedInWith (refreshCurrentSessionIfNeeded state userId context) := by
  refine h.map (fun hnone => ?_) fun sessionId hplain hcontext next hnext => ?_
  · rw [hnone]
    rfl
  · exact refreshCurrentSessionIfNeeded_session hcontext hother hnext

/-- What an accepted call leaves to the system. -/
structure CallKept (system : AuthSystem π) (process : π) (now : Moment) (call : AuthCall)
    (userId : String) (next : Session AuthStore) (state : AuthStore) : Prop where
  left : next = .clean state
  stay : SessionsStay system.store state
  revoked : ∀ sessionId ∈ call.revokes system.store, ∃ row,
    state.authSessions.get? sessionId = some row ∧ row.revokedAt ≠ none
  context : ContextOf (system.loggedInWith process) (call.refreshedContext state now userId
    (call.checkedContext system.store now (system.context process)))

/-- Where the sessions are not touched, the one of the context that was checked is still open. -/
theorem contextOf_refreshed_same {state : AuthStore} {userId : String}
    (hcontext : ContextOf (system.loggedInWith process) (system.context process))
    (hsessions : state.authSessions = system.store.authSessions) :
    ContextOf (system.loggedInWith process)
      (refreshCurrentSessionIfUser state now userId (system.activeAt process now)) := by
  refine (contextOf_activeAt hcontext).refreshed ?_
  intro principal hprincipal sessionId hsession _ _ _ _ _
  exact (hcontext.open_of_active hprincipal hsession).congr (by rw [hsessions])

/-- What is permitted is permitted to the principal that is active. -/
theorem hasPermission_active {active : Option UserSessionPrincipal}
    {principal : UserSessionPrincipal} {permissionCode : String} (hactive : active = some principal)
    (h : (sessionAuthorizationEngine active).hasPermission permissionCode = true) :
    principal.hasPermission permissionCode = true := by
  rw [hactive] at h
  exact h

theorem call_spec (call : AuthCall)
    (hcontext : ContextOf (system.loggedInWith process) (system.context process))
    (hkeeps : KeepsSession services system ⟨process, now, .call call⟩) :
    (call.program services ⟨sessionAuthorizationEngine
      (call.checkedContext system.store now (system.context process)), now⟩).Spec
      (.clean system.store)
      (fun userId next => ∃ state, CallKept system process now call userId next state)
      fun _ => SameSessions system.store := by
  cases call with
  | assignRole userId roleName =>
      rw [AuthCall.program, spec_bind]
      refine (assignRole_sessions userId roleName).mono (fun _ next hsame => ?_) fun _ _ => id
      obtain ⟨state, hleft, hsessions⟩ := hsame
      exact ⟨state, hleft, sessionsStay_of_eq hsessions, (fun _ hmem => nomatch hmem),
        contextOf_refreshed_same hcontext hsessions⟩
  | revokeRole userId roleName =>
      rw [AuthCall.program, spec_bind]
      refine (revokeRole_sessions userId roleName).mono (fun _ next hsame => ?_) fun _ _ => id
      obtain ⟨state, hleft, hsessions⟩ := hsame
      exact ⟨state, hleft, sessionsStay_of_eq hsessions, (fun _ hmem => nomatch hmem),
        contextOf_refreshed_same hcontext hsessions⟩
  | assignScopeGrant arguments =>
      rw [AuthCall.program, spec_bind]
      refine (assignScopeGrant_sessions arguments).mono (fun _ next hreturned => ?_) fun _ _ => id
      obtain ⟨⟨state, hleft, hsessions⟩, haccepted⟩ := hreturned
      refine ⟨state, hleft, sessionsStay_of_eq hsessions, (fun _ hmem => nomatch hmem), ?_⟩
      exact (contextOf_activeAt hcontext).refreshedOther fun principal hprincipal hown =>
        hkeeps principal hprincipal hown haccepted
  | removeScopeGrant scopeType scopeId userId =>
      rw [AuthCall.program, spec_bind]
      refine (removeScopeGrant_sessions scopeType scopeId userId).mono
        (fun _ next hreturned => ?_) fun _ _ => id
      obtain ⟨⟨state, hleft, hsessions⟩, haccepted⟩ := hreturned
      refine ⟨state, hleft, sessionsStay_of_eq hsessions, (fun _ hmem => nomatch hmem), ?_⟩
      exact (contextOf_activeAt hcontext).refreshedOther fun principal hprincipal hown =>
        Bool.false_ne_true ((hkeeps principal hprincipal hown).symm.trans haccepted)
  | changePassword userId currentPassword newPassword salt =>
      rw [AuthCall.program, spec_bind]
      refine (changePassword_sessions userId currentPassword newPassword salt).mono
        (fun _ next hreturned => ?_) fun _ _ => id
      obtain ⟨state, before, after, hrevoked, rfl, hactive, hverified, hvalid⟩ := hreturned
      refine ⟨state, hrevoked.left, sessionsStay_revokeAll hrevoked.sessions,
        (fun _ hmem => nomatch hmem), hcontext.refreshed ?_⟩
      -- Only an inactive user changes the own password, and is not let in any more.
      intro principal hprincipal _ _ hown user huser hstill _
      obtain rfl := Option.some.inj (hrevoked.written.symm.trans huser)
      have hrefused := hkeeps principal hprincipal hown before hrevoked.stored
        (hactive.symm.trans hstill) hverified
      exact absurd (hrefused.symm.trans hvalid) Bool.false_ne_true
  | resetUserPassword userId newPassword salt =>
      rw [AuthCall.program, spec_bind]
      refine (resetUserPassword_sessions userId newPassword salt).mono
        (fun _ next hreturned => ?_) fun _ _ => id
      obtain ⟨state, before, after, hrevoked, rfl, hallowed, hvalid⟩ := hreturned
      refine ⟨state, hrevoked.left, sessionsStay_revokeAll hrevoked.sessions,
        (fun _ hmem => nomatch hmem), (contextOf_activeAt hcontext).refreshed ?_⟩
      intro principal hprincipal _ _ hown _ _ _ _
      have hrefused := hkeeps principal hprincipal hown (hasPermission_active hprincipal hallowed)
      exact absurd (hrefused.symm.trans hvalid) Bool.false_ne_true
  | revokeUserSessions userId =>
      rw [AuthCall.program, spec_bind]
      refine (revokeUserSessions_sessions userId).mono (fun _ next hreturned => ?_) fun _ _ => id
      obtain ⟨state, before, after, hrevoked, rfl, hexpires⟩ := hreturned
      refine ⟨state, hrevoked.left, sessionsStay_revokeAll hrevoked.sessions,
        fun _ hmem => revokeAll_revoked hrevoked.sessions hmem,
        (contextOf_activeAt hcontext).refreshed ?_⟩
      intro principal hprincipal _ _ _ user huser _ hstill
      obtain rfl := Option.some.inj (hrevoked.written.symm.trans huser)
      exact absurd (hstill now hexpires) (lt_irrefl now)
  | revokeSession sessionId =>
      rw [AuthCall.program, spec_bind]
      refine (revokeSession_sessions sessionId).mono (fun value next hreturned => ?_)
        fun _ _ => id
      obtain ⟨state, row, hrow, hleft, rfl, rfl, hsessions, code, hcode, hallowed⟩ := hreturned
      refine ⟨state, hleft, sessionsStay_revoke hrow hsessions, fun other hmem => ?_,
        (contextOf_activeAt hcontext).refreshed ?_⟩
      · rw [List.mem_singleton.mp hmem, hsessions]
        have hstored : system.store.authSessions.get? (row.revoked now).id = some row :=
          system.store.authSessions.get?_of_mem hrow
        exact ⟨_, Table.get?_update_self hstored, Option.some_ne_none _⟩
      · -- The session that is revoked is not the one of the context.
        intro principal hprincipal own hown _ _ _ _ _
        have hne : own ≠ row.id := by
          rintro rfl
          have hrefused := hkeeps principal hprincipal hown code hcode
          exact absurd (hrefused.symm.trans (hasPermission_active hprincipal hallowed))
            Bool.false_ne_true
        refine (hcontext.open_of_active hprincipal hown).congr ?_
        rw [hsessions]
        exact Table.get?_update_of_ne hne

theorem Sound.revoked_stay (hsound : system.Sound) {state : AuthStore}
    (hstay : SessionsStay system.store state) : ∀ sessionId ∈ system.revoked,
    ∃ row, state.authSessions.get? sessionId = some row ∧ row.revokedAt ≠ none := by
  intro sessionId hmem
  obtain ⟨row, hrow, hrevoked⟩ := hsound.revoked sessionId hmem
  obtain ⟨later, hlater, hkept⟩ := hstay sessionId row hrow
  exact ⟨later, hlater, hkept hrevoked⟩

/-- The check of a context whose session is revoked clears it. -/
theorem activeAt_of_revoked (hsound : system.Sound) {sessionId : String}
    (hlogin : system.loggedInWith process = some sessionId) (hmem : sessionId ∈ system.revoked) :
    system.activeAt process now = none := by
  cases hactive : system.activeAt process now with
  | none => rfl
  | some principal =>
      obtain ⟨own, -, hown, hsession⟩ :=
        contextOf_activeAt (hsound.contexts process) principal hactive
      obtain rfl := Option.some.inj (hlogin.symm.trans hown)
      obtain ⟨row, hrow, hrevoked⟩ := hsound.revoked sessionId hmem
      obtain ⟨stored, hstored, hopen⟩ := (hsound.contexts process).open_of_active hactive hsession
      obtain rfl := Option.some.inj (hrow.symm.trans hstored)
      exact absurd hopen hrevoked

theorem started_sound (store : AuthStore) : (started store : AuthSystem π).Sound where
  contexts _ _ hprincipal := nomatch hprincipal
  revoked _ hmem := nomatch hmem

variable [DecidableEq π]

theorem contexts_login {loggedInWith : π → Option String}
    {contexts : π → Option UserSessionPrincipal}
    (h : ∀ other, ContextOf (loggedInWith other) (contexts other)) {sessionId : Option String}
    {context : Option UserSessionPrincipal} (hnew : ContextOf sessionId context) (other : π) :
    ContextOf (Function.update loggedInWith process sessionId other)
      (Function.update contexts process context other) := by
  by_cases hsame : other = process
  · rw [hsame, Function.update_self, Function.update_self]
    exact hnew
  · rw [Function.update_of_ne hsame, Function.update_of_ne hsame]
    exact h other

theorem contexts_update {loggedInWith : π → Option String}
    {contexts : π → Option UserSessionPrincipal}
    (h : ∀ other, ContextOf (loggedInWith other) (contexts other))
    {context : Option UserSessionPrincipal} (hnew : ContextOf (loggedInWith process) context)
    (other : π) : ContextOf (loggedInWith other) (Function.update contexts process context other) := by
  have hlogin : ContextOf
      (Function.update loggedInWith process (loggedInWith process) other)
      (Function.update contexts process context other) := contexts_login h hnew other
  rwa [Function.update_eq_self] at hlogin

theorem afterCall_sound (call : AuthCall)
    (hkeeps : KeepsSession services system ⟨process, now, .call call⟩) (hsound : system.Sound) :
    (system.afterCall services process now call).Sound := by
  have hspec := call_spec call (hsound.contexts process) hkeeps
  have hchecked : ContextOf (system.loggedInWith process)
      (call.checkedContext system.store now (system.context process)) := by
    cases call with
    | changePassword userId currentPassword newPassword salt => exact hsound.contexts process
    | _ => exact (hsound.contexts process).active
  unfold afterCall
  simp only
  split
  next userId next hrun =>
    obtain ⟨state, hleft, hstay, hrevoked, hcontext⟩ := hspec.of_ok hrun
    subst hleft
    refine ⟨contexts_update hsound.contexts hcontext, fun sessionId hmem => ?_⟩
    rcases List.mem_append.mp hmem with hnew | hold
    · exact hrevoked sessionId hnew
    · exact hsound.revoked_stay hstay sessionId hold
  next e next hrun =>
    obtain ⟨state, hleft, hsessions⟩ := hspec.of_error hrun
    subst hleft
    exact ⟨contexts_update hsound.contexts hchecked,
      hsound.revoked_stay (sessionsStay_of_eq hsessions)⟩

theorem afterLogin_sound (login : DeviceLogin) (hsound : system.Sound) :
    (system.afterLogin services process now login).Sound := by
  have hspec := @DeviceLogin.program_spec ⟨sessionAuthorizationEngine none, now⟩ system.store
    services.toAuthService login
  unfold afterLogin
  split
  next entered next hrun =>
    obtain ⟨state, row, hopened⟩ := hspec.of_ok hrun
    obtain rfl := hopened.left
    have hplain : PlainId entered.activeSessionId := hopened.active ▸ login.sessionId_plain
    have hrow : state.authSessions.get? entered.activeSessionId = some row := by
      rw [hopened.sessions, hopened.active, ← hopened.id]
      exact Table.get?_insert_self hopened.fresh
    refine ⟨contexts_login hsound.contexts ?_,
      hsound.revoked_stay (sessionsStay_insert hopened.fresh hopened.sessions)⟩
    intro principal hprincipal
    cases hprincipal
    refine ⟨entered.activeSessionId, hplain, rfl, ?_⟩
    apply buildPrincipal_sessionId hplain ⟨row, hrow, hopened.unrevoked⟩
    rw [hplain.strippedText]
    rfl
  next e next hrun =>
    obtain ⟨state, hleft, hsessions⟩ := hspec.of_error hrun
    subst hleft
    exact ⟨hsound.contexts, hsound.revoked_stay (sessionsStay_of_eq hsessions)⟩

theorem step_sound (system : AuthSystem π) (event : AuthEvent π)
    (hkeeps : KeepsSession services system event) (hsound : system.Sound) :
    (system.step services event).Sound := by
  obtain ⟨process, now, action⟩ := event
  cases action with
  | login login => exact afterLogin_sound login hsound
  | call call => exact afterCall_sound call hkeeps hsound
  | check check =>
      exact ⟨contexts_update hsound.contexts (contextOf_activeAt (hsound.contexts process)),
        hsound.revoked⟩

/-! ## Runs -/

theorem loggedInWith_step (system : AuthSystem π) (event : AuthEvent π) (process : π) :
    (system.step services event).loggedInWith process = system.loggedInWith process ∨
      (event.process = process ∧ ∃ login, event.action = .login login) := by
  obtain ⟨caller, now, action⟩ := event
  cases action with
  | login login =>
      by_cases hsame : caller = process
      · exact Or.inr ⟨hsame, login, rfl⟩
      · left
        change (system.afterLogin services caller now login).loggedInWith process = _
        unfold afterLogin
        split
        · exact Function.update_of_ne (Ne.symm hsame) _ _
        · rfl
  | call call =>
      left
      change (system.afterCall services caller now call).loggedInWith process = _
      unfold afterCall
      simp only
      split <;> rfl
  | check check => exact Or.inl rfl

/-- A check in a process whose session was revoked by name is answered with no. Every context has
the session that its process was logged in with, and no other event than a login there gives it
another one or takes it away. -/
structure RevocationFinal (services : AuthServices) (system : AuthSystem π)
    (event : AuthEvent π) : Prop where
  denied : ∀ check, event.action = .check check →
    ∀ sessionId ∈ system.loggedInWith event.process, sessionId ∈ system.revoked →
      check.answer (system.activeAt event.process event.now) = false
  session : ∀ process, ∀ principal ∈ (system.step services event).context process,
    (system.step services event).loggedInWith process ≠ none ∧
      principal.sessionId = (system.step services event).loggedInWith process
  kept : ∀ process, ∀ before ∈ system.context process,
    ∀ after ∈ (system.step services event).context process,
      after.sessionId = before.sessionId ∨
        (event.process = process ∧ ∃ login, event.action = .login login)

theorem revocationFinal_of_sound (event : AuthEvent π)
    (hkeeps : KeepsSession services system event) (hsound : system.Sound) :
    RevocationFinal services system event := by
  have hnext := step_sound system event hkeeps hsound
  refine ⟨?_, ?_, ?_⟩
  · intro check _ sessionId hlogin hmem
    rw [activeAt_of_revoked hsound hlogin hmem]
    exact check.answer_none
  · intro process principal hprincipal
    obtain ⟨sessionId, -, hlogin, hsession⟩ := hnext.contexts process principal hprincipal
    rw [hlogin]
    exact ⟨Option.some_ne_none _, hsession⟩
  · intro process before hbefore after hafter
    obtain ⟨_, -, hlogin, hsession⟩ := hsound.contexts process before hbefore
    obtain ⟨_, -, hnextLogin, hnextSession⟩ := hnext.contexts process after hafter
    have hstep : (system.step services event).loggedInWith process = system.loggedInWith process ∨
        (event.process = process ∧ ∃ login, event.action = .login login) :=
      loggedInWith_step system event process
    rcases hstep with hsame | hlogged
    · left
      rw [hsession, hnextSession, ← hlogin, ← hnextLogin, hsame]
    · exact Or.inr hlogged

/-- In every run of logins, calls and checks in any processes on any tables, in which no accepted
call rebuilds the principal of its own process without a session, revocation is final. -/
theorem authRun_revocationFinal (services : AuthServices) (events : List (AuthEvent π))
    (store : AuthStore)
    (hkeeps : EachStep (step services) (KeepsSession services) (started store) events) :
    EachStep (step services) (RevocationFinal services) (started store) events :=
  hkeeps.conclude step_sound (fun _ event hevent hsound => revocationFinal_of_sound event hevent
    hsound) (started_sound store)

/-! ## An administrator with two devices -/

inductive Device
  | desktop
  | laptop
  deriving DecidableEq

/-- The administrator of the first start, who may manage users. -/
def managedOffice : AuthStore :=
  { adminOffice with
    roles := ⟨[⟨"role1", "admin"⟩], List.nodup_singleton _⟩
    permissions := ⟨[⟨"permission1", "auth.manage"⟩], List.nodup_singleton _⟩
    userRoles := ⟨[⟨"user1", "role1"⟩], List.nodup_singleton _⟩
    rolePermissions := ⟨[⟨"role1", "permission1"⟩], List.nodup_singleton _⟩ }

def plainServices : AuthServices where
  digests := plainDigests

def deviceEvent (process : Device) (minutes : ℤ) (action : AuthAction) : AuthEvent Device :=
  ⟨process, (signedOut minutes).now, action⟩

def deviceLogin (process : Device) (minutes : ℤ) (sessionId : String)
    (h : strip sessionId = sessionId ∧ sessionId ≠ "") : AuthEvent Device :=
  deviceEvent process minutes (.login ⟨.inl
    { username := "admin"
      rawPassword := "ChangeMe123!"
      sessionId := sessionId }, h⟩)

def manageCheck (process : Device) (minutes : ℤ) : AuthEvent Device :=
  deviceEvent process minutes (.check (.permission "auth.manage"))

/-- The desktop revokes the session of the laptop, which logs in again. -/
def lostLaptop : List (AuthEvent Device) :=
  [deviceLogin .desktop 0 "session1" (by decide), deviceLogin .laptop 1 "session2" (by decide),
    deviceEvent .desktop 2 (.call (.revokeSession "session2")), manageCheck .laptop 3,
    deviceLogin .laptop 4 "session3" (by decide), manageCheck .desktop 5, manageCheck .laptop 6]

theorem authRun_revocationFinal_lostLaptop :
    EachStep (step plainServices) (RevocationFinal plainServices) (started managedOffice)
      lostLaptop :=
  authRun_revocationFinal plainServices lostLaptop managedOffice (by decide +kernel)

/-- The desktop revokes its own session. -/
def ownRevocation : List (AuthEvent Device) :=
  [deviceLogin .desktop 0 "session1" (by decide),
    deviceEvent .desktop 1 (.call (.revokeSession "session1")), manageCheck .desktop 2]

/-- The laptop revokes the session of the desktop, which changes the password afterwards. -/
def revivedSession : List (AuthEvent Device) :=
  [deviceLogin .desktop 0 "session1" (by decide), deviceLogin .laptop 1 "session2" (by decide),
    deviceEvent .laptop 2 (.call (.revokeSession "session1")),
    deviceEvent .desktop 3 (.call (.changePassword "user1" "ChangeMe123!" "Changed456!" [8])),
    manageCheck .desktop 4]

theorem not_revocationFinal_ownRevocation :
    ¬ EachStep (step plainServices) (RevocationFinal plainServices) (started managedOffice)
        ownRevocation ∧
      ¬ EachStep (step plainServices) (RevocationFinal plainServices) (started managedOffice)
        revivedSession := by
  constructor
  · rintro ⟨-, -, hcheck, -⟩
    have hdenied := hcheck.denied _ rfl "session1" (by decide +kernel) (by decide +kernel)
    revert hdenied
    decide +kernel
  · rintro ⟨-, -, -, -, hcheck, -⟩
    have hdenied := hcheck.denied _ rfl "session1" (by decide +kernel) (by decide +kernel)
    revert hdenied
    decide +kernel

end AuthSystem

end ProjectManager
