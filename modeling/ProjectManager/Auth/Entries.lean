import ProjectManager.Auth.Logins

/-! # What a login does

A login finds an active user, whose row then says whether the login is let in. What it
leaves behind in either case is stated once here, for passwords and for federated
identities.
-/

namespace ProjectManager

open Foundation Program

/-! ## Primitive programs -/

namespace AuthProgram

variable {α : Type} {session : Session AuthStore} {raises : DomainError → Session AuthStore → Prop}

theorem spec_read_of_ok {f : AuthStore → Except DomainError α} {value : α}
    {returns : α → Session AuthStore → Prop} (h : f session.pending = .ok value) :
    (read f).Spec session returns raises ↔ returns value session := by
  unfold read
  rw [spec_check, h]

theorem spec_read_of_error {f : AuthStore → Except DomainError α} {e : DomainError}
    {returns : α → Session AuthStore → Prop} (h : f session.pending = .error e) :
    (read f).Spec session returns raises ↔ raises e session := by
  unfold read
  rw [spec_check, h]

/-- A call for a stored user. -/
theorem spec_requireUser {β : Type} {userId : String} {rest : UserAccount → AuthProgram β}
    {returns : β → Session AuthStore → Prop} (hmissing : ∀ e, raises e session)
    (hrest : ∀ user ∈ session.pending.users.rows, user.id = userId →
      (rest user).Spec session returns raises) :
    (read (fun store => requireUser store userId) >>= rest).Spec session returns raises := by
  rw [spec_bind]
  cases hfound : requireUser session.pending userId with
  | error e => exact (spec_read_of_error hfound).mpr (hmissing e)
  | ok user =>
      obtain ⟨hstored, hid⟩ := Table.get?_eq_some_iff.mp (require_eq_ok.mp hfound)
      exact (spec_read_of_ok hfound).mpr (hrest user hstored hid)

@[simp] theorem spec_read_value {value : α} {returns : α → Session AuthStore → Prop} :
    (read fun _ => .ok value).Spec session returns raises ↔ returns value session :=
  Iff.rfl

theorem spec_read_total {f : AuthStore → α} {returns : α → Session AuthStore → Prop} :
    (read fun store => .ok (f store)).Spec session returns raises ↔
      returns (f session.pending) session :=
  Iff.rfl

variable {returns : Unit → Session AuthStore → Prop}

@[simp] theorem spec_write_ok {f : AuthStore → AuthStore} :
    (write fun store => .ok (f store)).Spec session returns raises ↔
      returns () { session with pending := f session.pending } :=
  Iff.rfl

theorem spec_commitWith_of_ok {f : AuthStore → Except DomainError AuthStore} {next : AuthStore}
    (h : f session.pending = .ok next) :
    (commitWith f).Spec session returns raises ↔ returns () (.clean next) := by
  unfold commitWith
  rw [Program.spec_commit, h]

theorem spec_commitWith_of_error {f : AuthStore → Except DomainError AuthStore} {e : DomainError}
    (h : f session.pending = .error e) :
    (commitWith f).Spec session returns raises ↔ raises e session.rollback := by
  unfold commitWith
  rw [Program.spec_commit, h]

end AuthProgram

open AuthProgram

def AuthStore.observed (store : AuthStore) (event : AttemptEvent String) : AuthStore :=
  { store with attempts := event :: store.attempts }

@[simp] theorem spec_observe_clean {store : AuthStore} {event : AttemptEvent String}
    {returns : Unit → Session AuthStore → Prop} {raises : DomainError → Session AuthStore → Prop} :
    (observe event).Spec (.clean store) returns raises ↔
      returns () (.clean (store.observed event)) :=
  Iff.rfl

section

variable {store : AuthStore} {user : UserAccount}

theorem mem_putUser {written : UserAccount} (hstored : user ∈ store.users.rows) (hid : written.id = user.id) :
    written.saved ∈ (store.putUser written).users.rows :=
  Table.mem_update_self hstored hid

/-- A user that was just read is written without a conflict. -/
theorem spec_updateUser {committed : AuthStore} (written : UserAccount)
    {returns : UserAccount → Session AuthStore → Prop}
    {raises : DomainError → Session AuthStore → Prop} (hstored : user ∈ store.users.rows)
    (hid : written.id = user.id) (hversion : written.version = user.version) :
    (updateUser written).Spec ⟨committed, store⟩ returns raises ↔
      returns written.saved ⟨committed, store.putUser written⟩ := by
  have hfound : store.users.get? written.id = some user :=
    Table.get?_eq_some_iff.mpr ⟨hstored, hid.symm⟩
  have hwritten : (do
      let stored ← require (store.users.get? written.id) (notFoundError "User not found.")
      ensure (stored.version = written.version)
        (concurrencyError "User account was updated by another user." "STALE_WRITE")
      return store.putUser written : Except DomainError AuthStore) =
        .ok (store.putUser written) := by
    rw [hfound]
    exact bind_eq_ok.mpr ⟨user, rfl, bind_eq_ok.mpr ⟨(), ensure_eq_ok.mpr hversion.symm, rfl⟩⟩
  unfold updateUser
  rw [spec_bind]
  unfold write
  rw [spec_step, hwritten]
  exact spec_pure

end

/-! ## Entering an account -/

section

variable (service : AuthService) (caller : AuthCaller)

/-- The row and the store after an expired lock was released. -/
def UserAccount.released (user : UserAccount) : UserAccount :=
  if user.lockedUntil.isSome ∧ ¬ user.LockedAt caller.now then user.unlocked.saved else user

def AuthStore.released (store : AuthStore) (user : UserAccount) : AuthStore :=
  if user.lockedUntil.isSome ∧ ¬ user.LockedAt caller.now then
    (store.putUser user.unlocked).observed (.reset user.id)
  else store

/-- The account lets the secrets in. -/
structure Admits (user : UserAccount) (rawPassword mfaCode : Option String) : Prop where
  unlocked : ¬ user.LockedAt caller.now
  password : ∀ raw ∈ rawPassword, verifyPassword service.digests raw user.passwordHash = true
  code : user.mfaEnabled = true →
    verifyTotpCode service.digests user.mfaSecret mfaCode caller.now = .ok true

instance (user : UserAccount) (rawPassword mfaCode : Option String) :
    Decidable (Admits service caller user rawPassword mfaCode) :=
  decidable_of_iff (¬ user.LockedAt caller.now ∧
      (∀ raw ∈ rawPassword, verifyPassword service.digests raw user.passwordHash = true) ∧
      (user.mfaEnabled = true →
        verifyTotpCode service.digests user.mfaSecret mfaCode caller.now = .ok true))
    ⟨fun ⟨hunlocked, hpassword, hcode⟩ => ⟨hunlocked, hpassword, hcode⟩,
      fun ⟨hunlocked, hpassword, hcode⟩ => ⟨hunlocked, hpassword, hcode⟩⟩

/-- What an account whose expired lock is released raises when it does not let a login in, and the
store that it leaves. -/
inductive EntryRefused (store : AuthStore) (user : UserAccount)
    (rawPassword mfaCode : Option String) : DomainError → AuthStore → Prop
  | locked {moment : Moment} (hmoment : moment ∈ user.lockedUntil) (hlocked : caller.now < moment) :
      EntryRefused store user rawPassword mfaCode (accountLocked moment) store
  | wrongPassword {raw : String} {e : DomainError} (hunlocked : ¬ user.LockedAt caller.now)
      (hgiven : raw ∈ rawPassword)
      (hwrong : verifyPassword service.digests raw user.passwordHash = false)
      (hclass : e.errorClass = .validationError) :
      EntryRefused store user rawPassword mfaCode e
        ((store.observed (.failed user.id)).putUser (service.failedLogin caller user))
  | wrongCode {e : DomainError} {observed : AuthStore} (hunlocked : ¬ user.LockedAt caller.now)
      (hmfa : user.mfaEnabled = true)
      (hwrong : verifyTotpCode service.digests user.mfaSecret mfaCode caller.now = .ok false)
      (hclass : e.errorClass = .validationError)
      (hobserved : observed = store ∨ observed = store.observed (.failed user.id)) :
      EntryRefused store user rawPassword mfaCode e
        (observed.putUser (service.failedLogin caller user))
  | codeRaised {e : DomainError} (hunlocked : ¬ user.LockedAt caller.now)
      (hpassword : ∀ raw ∈ rawPassword,
        verifyPassword service.digests raw user.passwordHash = true)
      (hmfa : user.mfaEnabled = true)
      (hraised : verifyTotpCode service.digests user.mfaSecret mfaCode caller.now = .error e) :
      EntryRefused store user rawPassword mfaCode e
        (if totpCompared service.digests user.mfaSecret mfaCode caller.now then
          store.observed (.failed user.id) else store)

/-- The store after a login that was let in. -/
def AuthStore.entered (store : AuthStore) (user : UserAccount) (authMethod : String)
    (deviceLabel : Option String) (sessionId : String) : AuthStore :=
  { store.putUser (service.entered caller user authMethod deviceLabel) with
    authSessions := store.authSessions.insert
      (service.openedSession caller user authMethod deviceLabel sessionId)
    attempts := .reset user.id :: store.attempts }

end

section

variable {service : AuthService} {caller : AuthCaller} {store : AuthStore} {user : UserAccount}

theorem released_authSessions : (store.released caller user).authSessions = store.authSessions := by
  unfold AuthStore.released
  split <;> rfl

@[simp] theorem released_id : (user.released caller).id = user.id := by
  unfold UserAccount.released
  split <;> rfl

@[simp] theorem released_passwordHash :
    (user.released caller).passwordHash = user.passwordHash := by
  unfold UserAccount.released
  split <;> rfl

@[simp] theorem released_mfaEnabled : (user.released caller).mfaEnabled = user.mfaEnabled := by
  unfold UserAccount.released
  split <;> rfl

@[simp] theorem released_mfaSecret : (user.released caller).mfaSecret = user.mfaSecret := by
  unfold UserAccount.released
  split <;> rfl

theorem mem_released (hstored : user ∈ store.users.rows) :
    user.released caller ∈ (store.released caller user).users.rows := by
  unfold UserAccount.released AuthStore.released
  split
  · exact mem_putUser hstored rfl
  · exact hstored

/-- Nothing is left of a lock that is not in force. -/
theorem released_lockedUntil (h : ¬ user.LockedAt caller.now) :
    (user.released caller).lockedUntil = none := by
  unfold UserAccount.released
  split
  · rfl
  next hkept =>
    cases hlocked : user.lockedUntil with
    | none => rfl
    | some moment => exact absurd ⟨by rw [hlocked]; rfl, h⟩ hkept

theorem released_of_locked (h : user.LockedAt caller.now) : user.released caller = user :=
  if_neg fun hexpired => hexpired.2 h

section

variable {raises : DomainError → Session AuthStore → Prop}

theorem spec_releaseExpiredLock {returns : UserAccount → Session AuthStore → Prop}
    (hstored : user ∈ store.users.rows) :
    (releaseExpiredLock caller user).Spec (.clean store) returns raises ↔
      returns (user.released caller) (.clean (store.released caller user)) := by
  unfold releaseExpiredLock UserAccount.released AuthStore.released
  split
  · rw [spec_bind]
    exact spec_updateUser user.unlocked hstored rfl rfl
  · exact Iff.rfl

variable {returns : Unit → Session AuthStore → Prop}

theorem spec_registerFailedLogin (hstored : user ∈ store.users.rows) :
    (registerFailedLogin service caller user).Spec (.clean store) returns raises ↔
      returns () (.clean (store.putUser (service.failedLogin caller user))) := by
  unfold registerFailedLogin
  rw [spec_bind]
  exact spec_updateUser (service.failedLogin caller user) hstored rfl rfl

theorem refuseLocked_spec (hopen : ¬ user.LockedAt caller.now → returns () (.clean store))
    (hlocked : ∀ moment ∈ user.lockedUntil, caller.now < moment →
      raises (accountLocked moment) (.clean store)) :
    (refuseLocked caller user).Spec (.clean store) returns raises := by
  unfold refuseLocked
  cases hfilter : user.lockedUntil.filter fun moment => caller.now < moment with
  | none =>
      rw [Option.filter_eq_none_iff] at hfilter
      refine hopen ?_
      rintro ⟨moment, hmoment, hlt⟩
      exact hfilter moment hmoment (decide_eq_true hlt)
  | some moment =>
      obtain ⟨hmoment, hlt⟩ := Option.filter_eq_some_iff.mp hfilter
      exact hlocked moment hmoment (of_decide_eq_true hlt)

theorem checkPassword_spec (hstored : user ∈ store.users.rows) {rawPassword : String}
    (hright : verifyPassword service.digests rawPassword user.passwordHash = true →
      returns () (.clean store))
    (hwrong : verifyPassword service.digests rawPassword user.passwordHash = false →
      ∀ e : DomainError, e.errorClass = .validationError → raises e
        (.clean ((store.observed (.failed user.id)).putUser (service.failedLogin caller user)))) :
    (checkPassword service caller user rawPassword).Spec (.clean store) returns raises := by
  unfold checkPassword
  split
  next h => exact hright h
  next h =>
    rw [spec_bind, spec_observe_clean, spec_bind,
      spec_registerFailedLogin (show user ∈ (store.observed _).users.rows from hstored)]
    exact hwrong (Bool.eq_false_iff.mpr h) _ rfl

theorem mfaRefused_errorClass (mfaCode : Option String) :
    (mfaRefused mfaCode).errorClass = .validationError := by
  unfold mfaRefused
  split <;> rfl

theorem checkMfaCode_spec (hstored : user ∈ store.users.rows) {mfaCode : Option String}
    (hright : (user.mfaEnabled = true →
        verifyTotpCode service.digests user.mfaSecret mfaCode caller.now = .ok true) →
      returns () (.clean store))
    (hwrong : user.mfaEnabled = true →
      verifyTotpCode service.digests user.mfaSecret mfaCode caller.now = .ok false →
        ∀ e : DomainError, e.errorClass = .validationError →
          ∀ observed, observed = store ∨ observed = store.observed (.failed user.id) →
            raises e (.clean (observed.putUser (service.failedLogin caller user))))
    (hraised : user.mfaEnabled = true → ∀ e,
      verifyTotpCode service.digests user.mfaSecret mfaCode caller.now = .error e →
        raises e (.clean (if totpCompared service.digests user.mfaSecret mfaCode caller.now then
          store.observed (.failed user.id) else store))) :
    (checkMfaCode service caller user mfaCode).Spec (.clean store) returns raises := by
  unfold checkMfaCode
  split
  next hmfa =>
    cases hverify : verifyTotpCode service.digests user.mfaSecret mfaCode caller.now with
    | error e =>
        have h := hraised hmfa e hverify
        simp only
        split
        next hcompared =>
          rw [if_pos hcompared] at h
          rw [spec_bind, spec_observe_clean, spec_bind, spec_read_of_error rfl]
          exact h
        next hcompared =>
          rw [if_neg hcompared] at h
          rw [spec_bind, spec_read_of_error rfl]
          exact h
    | ok verified =>
        cases verified with
        | true => exact hright fun _ => hverify
        | false =>
            have h := hwrong hmfa hverify _ (mfaRefused_errorClass mfaCode)
            simp only
            split
            · rw [spec_bind, spec_observe_clean, spec_bind, spec_read_value, spec_bind,
                spec_registerFailedLogin (show user ∈ (store.observed _).users.rows from hstored)]
              exact h _ (Or.inr rfl)
            · rw [spec_bind, spec_read_value, spec_bind, spec_registerFailedLogin hstored]
              exact h _ (Or.inl rfl)
  next hmfa => exact hright fun h => absurd h hmfa

theorem insertSession_of_new {row : AuthSession} (h : row.id ∉ store.authSessions.ids) :
    insertSession row store =
      .ok { store with authSessions := store.authSessions.insert row } :=
  bind_eq_ok.mpr ⟨(), ensure_eq_ok.mpr h, rfl⟩

theorem insertSession_of_taken {row : AuthSession} (h : row.id ∈ store.authSessions.ids) :
    insertSession row store = .error (takenPrimaryKey "auth_sessions") :=
  bind_eq_error.mpr (Or.inl (ensure_eq_error.mpr ⟨not_not_intro h, rfl⟩))

theorem completeSuccessfulAuthentication_spec (hstored : user ∈ store.users.rows)
    {authMethod : String} {deviceLabel : Option String} {sessionId : String}
    {returns : AuthenticatedUser → Session AuthStore → Prop}
    (hnew : sessionId ∉ store.authSessions.ids →
      returns ⟨(service.entered caller user authMethod deviceLabel).saved, sessionId⟩
        (.clean (store.entered service caller user authMethod deviceLabel sessionId)))
    (htaken : sessionId ∈ store.authSessions.ids →
      raises (takenPrimaryKey "auth_sessions") (.clean store)) :
    (completeSuccessfulAuthentication service caller user authMethod deviceLabel sessionId).Spec
      (.clean store) returns raises := by
  unfold completeSuccessfulAuthentication
  rw [spec_bind, Session.clean,
    spec_updateUser (service.entered caller user authMethod deviceLabel) hstored rfl rfl, spec_bind]
  by_cases hid : sessionId ∈ store.authSessions.ids
  · rw [spec_commitWith_of_error (insertSession_of_taken (by exact hid))]
    exact htaken hid
  · rw [spec_commitWith_of_ok (insertSession_of_new (by exact hid))]
    exact hnew hid

/-- What was let in or not, from a store in which the row has no expired lock. -/
structure EntryReturned (service : AuthService) (caller : AuthCaller) (store : AuthStore)
    (user : UserAccount) (rawPassword mfaCode : Option String) (authMethod : String)
    (deviceLabel : Option String) (sessionId : String) (value : AuthenticatedUser)
    (next : Session AuthStore) : Prop where
  admits : Admits service caller user rawPassword mfaCode
  fresh : sessionId ∉ store.authSessions.ids
  row : value.user = (service.entered caller user authMethod deviceLabel).saved
  session : value.activeSessionId = sessionId
  left : next = .clean (store.entered service caller user authMethod deviceLabel sessionId)

def EntryRaised (service : AuthService) (caller : AuthCaller) (store : AuthStore)
    (user : UserAccount) (rawPassword mfaCode : Option String) (sessionId : String)
    (e : DomainError) (next : Session AuthStore) : Prop :=
  ∃ state, next = .clean state ∧
    ((Admits service caller user rawPassword mfaCode ∧ sessionId ∈ store.authSessions.ids ∧
        state = store) ∨
      EntryRefused service caller store user rawPassword mfaCode e state)

variable {rawPassword mfaCode : Option String} {authMethod : String} {deviceLabel : Option String}
  {sessionId : String}

/-- After a right password, or without one, the code decides. -/
theorem codeEntry_spec (hstored : user ∈ store.users.rows)
    (hunlocked : ¬ user.LockedAt caller.now)
    (hpassword : ∀ raw ∈ rawPassword,
      verifyPassword service.digests raw user.passwordHash = true) :
    (checkMfaCode service caller user mfaCode >>= fun _ =>
      completeSuccessfulAuthentication service caller user authMethod deviceLabel sessionId).Spec
      (.clean store)
      (EntryReturned service caller store user rawPassword mfaCode authMethod deviceLabel sessionId)
      (EntryRaised service caller store user rawPassword mfaCode sessionId) := by
  rw [spec_bind]
  apply checkMfaCode_spec hstored
  · intro hcode
    have hadmits : Admits service caller user rawPassword mfaCode := ⟨hunlocked, hpassword, hcode⟩
    apply completeSuccessfulAuthentication_spec hstored
    · intro hnew
      exact ⟨hadmits, hnew, rfl, rfl, rfl⟩
    · intro htaken
      exact ⟨store, rfl, Or.inl ⟨hadmits, htaken, rfl⟩⟩
  · intro hmfa hwrong e hclass observed hobserved
    exact ⟨_, rfl, Or.inr (.wrongCode hunlocked hmfa hwrong hclass hobserved)⟩
  · intro hmfa e hraised
    exact ⟨_, rfl, Or.inr (.codeRaised hunlocked hpassword hmfa hraised)⟩

theorem EntryRefused.not_admits {e : DomainError} {state : AuthStore}
    (h : EntryRefused service caller store user rawPassword mfaCode e state) :
    ¬ Admits service caller user rawPassword mfaCode := by
  intro hadmits
  cases h with
  | locked hmoment hlocked => exact hadmits.unlocked ⟨_, hmoment, hlocked⟩
  | wrongPassword hunlocked hgiven hwrong hclass =>
      exact Bool.false_ne_true (hwrong.symm.trans (hadmits.password _ hgiven))
  | wrongCode hunlocked hmfa hwrong hclass hobserved =>
      have hsame := hwrong.symm.trans (hadmits.code hmfa)
      cases hsame
  | codeRaised hunlocked hpassword hmfa hraised =>
      have hsame := hraised.symm.trans (hadmits.code hmfa)
      cases hsame

theorem enterAccount_spec (hstored : user ∈ store.users.rows) :
    (enterAccount service caller user rawPassword mfaCode authMethod deviceLabel sessionId).Spec
      (.clean store)
      (EntryReturned service caller (store.released caller user) (user.released caller) rawPassword
        mfaCode authMethod deviceLabel sessionId)
      (EntryRaised service caller (store.released caller user) (user.released caller) rawPassword
        mfaCode sessionId) := by
  unfold enterAccount
  rw [spec_bind, spec_releaseExpiredLock hstored, spec_bind]
  have hreleased : user.released caller ∈ (store.released caller user).users.rows :=
    mem_released hstored
  apply refuseLocked_spec
  · intro hunlocked
    cases rawPassword with
    | none => exact codeEntry_spec hreleased hunlocked fun raw hraw => (nomatch hraw)
    | some raw =>
        change (checkPassword service caller (user.released caller) raw >>= fun _ => _).Spec _ _ _
        rw [spec_bind]
        apply checkPassword_spec hreleased
        · intro hright
          refine codeEntry_spec hreleased hunlocked fun given hgiven => ?_
          obtain rfl := Option.some.inj hgiven
          exact hright
        · intro hwrong e hclass
          exact ⟨_, rfl, Or.inr (.wrongPassword hunlocked rfl hwrong hclass)⟩
  · intro moment hmoment hlocked
    exact ⟨_, rfl, Or.inr (.locked hmoment hlocked)⟩

theorem admits_released : Admits service caller (user.released caller) rawPassword mfaCode ↔
    Admits service caller user rawPassword mfaCode := by
  have hlocked : (user.released caller).LockedAt caller.now ↔ user.LockedAt caller.now := by
    constructor
    · intro hreleased
      by_contra hopen
      obtain ⟨moment, hmoment, -⟩ := hreleased
      rw [released_lockedUntil hopen] at hmoment
      cases hmoment
    · intro h
      rwa [released_of_locked h]
  constructor
  · rintro ⟨hunlocked, hpassword, hcode⟩
    exact ⟨fun h => hunlocked (hlocked.mpr h), by simpa using hpassword, by simpa using hcode⟩
  · rintro ⟨hunlocked, hpassword, hcode⟩
    exact ⟨fun h => hunlocked (hlocked.mp h), by simpa using hpassword, by simpa using hcode⟩

end

/-! ## Logins -/

/-- The user that was found is active and lets the login in. -/
def LoginReturned (service : AuthService) (caller : AuthCaller) (store : AuthStore)
    (found : Option UserAccount) (rawPassword mfaCode : Option String) (authMethod : String)
    (deviceLabel : Option String) (sessionId : String) (value : AuthenticatedUser)
    (next : Session AuthStore) : Prop :=
  ∃ user ∈ found, user.isActive = true ∧ EntryReturned service caller (store.released caller user)
    (user.released caller) rawPassword mfaCode authMethod deviceLabel sessionId value next

def LoginRaised (service : AuthService) (caller : AuthCaller) (store : AuthStore)
    (found : Option UserAccount) (rawPassword mfaCode : Option String) (sessionId : String)
    (e : DomainError) (next : Session AuthStore) : Prop :=
  ((∀ user ∈ found, user.isActive = false) ∧ e.errorClass = .validationError ∧
      next = .clean store) ∨
    ∃ user ∈ found, user.isActive = true ∧ EntryRaised service caller (store.released caller user)
      (user.released caller) rawPassword mfaCode sessionId e next

theorem loginEntry_spec {found : Option UserAccount} (hfound : ∀ user ∈ found, user ∈ store.users.rows)
    (message : String) :
    (activeUser found message >>= fun user =>
      enterAccount service caller user rawPassword mfaCode authMethod deviceLabel sessionId).Spec
      (.clean store)
      (LoginReturned service caller store found rawPassword mfaCode authMethod deviceLabel sessionId)
      (LoginRaised service caller store found rawPassword mfaCode sessionId) := by
  rw [spec_bind]
  unfold activeUser
  cases hactive : found.filter UserAccount.isActive with
  | none =>
      rw [Option.filter_eq_none_iff] at hactive
      exact Or.inl ⟨fun user hmem => Bool.eq_false_iff.mpr (hactive user hmem), rfl, rfl⟩
  | some user =>
      obtain ⟨hmem, hactive⟩ := Option.filter_eq_some_iff.mp hactive
      refine (enterAccount_spec (hfound user hmem)).mono ?_ ?_
      · intro value next hreturned
        exact ⟨user, hmem, hactive, hreturned⟩
      · intro e next hraised
        exact Or.inr ⟨user, hmem, hactive, hraised⟩

theorem authenticate_spec (arguments : PasswordLogin) :
    (authenticate service caller arguments).Spec (.clean store)
      (LoginReturned service caller store
        (getByUsername store (lower (strip arguments.username))) (some arguments.rawPassword)
        arguments.mfaCode "password" arguments.deviceLabel arguments.sessionId)
      (LoginRaised service caller store
        (getByUsername store (lower (strip arguments.username))) (some arguments.rawPassword)
        arguments.mfaCode arguments.sessionId) :=
  loginEntry_spec (fun _ hmem => List.mem_of_find?_eq_some hmem) _

/-- A federated login refuses half an identity before it looks for a user. -/
def FederatedReturned (service : AuthService) (caller : AuthCaller) (store : AuthStore)
    (arguments : FederatedLogin) (value : AuthenticatedUser) (next : Session AuthStore) : Prop :=
  validateFederatedIdentity arguments.provider arguments.subject = .ok () ∧
    LoginReturned service caller store
      (getByFederatedIdentity store arguments.provider arguments.subject) none arguments.mfaCode
      arguments.authMethod arguments.deviceLabel arguments.sessionId value next

def FederatedRaised (service : AuthService) (caller : AuthCaller) (store : AuthStore)
    (arguments : FederatedLogin) (e : DomainError) (next : Session AuthStore) : Prop :=
  (validateFederatedIdentity arguments.provider arguments.subject = .error e ∧
      next = .clean store) ∨
    LoginRaised service caller store
      (getByFederatedIdentity store arguments.provider arguments.subject) none arguments.mfaCode
      arguments.sessionId e next

theorem authenticateFederated_spec (arguments : FederatedLogin) :
    (authenticateFederated service caller arguments).Spec (.clean store)
      (FederatedReturned service caller store arguments)
      (FederatedRaised service caller store arguments) := by
  unfold authenticateFederated
  rw [spec_bind]
  cases hvalid : validateFederatedIdentity arguments.provider arguments.subject with
  | error e => exact Or.inl ⟨hvalid, rfl⟩
  | ok value =>
      rw [spec_read_value]
      refine (loginEntry_spec (fun user hmem => List.mem_of_find?_eq_some hmem) _).mono ?_ ?_
      · intro returned next hreturned
        exact ⟨hvalid, hreturned⟩
      · intro e next hraised
        exact Or.inr hraised

end

end ProjectManager
