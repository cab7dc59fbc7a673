import ProjectManager.Auth.Accounts
import ProjectManager.Auth.Entries

/-! # Locks bound the guessing of secrets

Logins count wrong secrets in the row of the user and lock it at the threshold. So no
more wrong secrets than the threshold are compared between two resets of a lock, as
long as whatever compares secrets counts them: a change of the password does not, and a
code that the comparison does not take is not counted either.
-/

namespace ProjectManager

open Foundation Program AuthProgram

/-! ## Counted attempts -/

def UserAccount.Locked (user : UserAccount) : Prop := user.lockedUntil ≠ none

/-- The rows count the wrong secrets that were compared, and nothing is compared at a locked row. -/
structure LockoutSound (limit : ℕ) (store : AuthStore) : Prop where
  within : AttemptsWithin limit store.attempts
  counted : ∀ user ∈ store.users.rows,
    CountedBy limit store.attempts user.id user.failedLoginAttempts user.Locked

section

variable {limit : ℕ} {store state : AuthStore} {user written : UserAccount}

theorem lockoutSound_of_unseen (h : store.attempts = []) : LockoutSound limit store := by
  refine ⟨h ▸ attemptsWithin_nil limit, fun user _ _ => Or.inl ?_⟩
  rw [h]
  rfl

/-- Only the rows and the log matter. -/
theorem LockoutSound.congr (h : LockoutSound limit store) (husers : state.users = store.users)
    (hattempts : state.attempts = store.attempts) : LockoutSound limit state := by
  refine ⟨hattempts ▸ h.within, fun user huser => ?_⟩
  rw [hattempts]
  exact h.counted user (husers ▸ huser)

theorem LockoutSound.putUser (h : LockoutSound limit store)
    (hcounted : CountedBy limit store.attempts written.id written.failedLoginAttempts
      written.Locked) : LockoutSound limit (store.putUser written) := by
  refine ⟨h.within, fun other hother => ?_⟩
  rcases Table.mem_update_iff.mp hother with ⟨rfl, -⟩ | ⟨hstored, -⟩
  · exact hcounted
  · exact h.counted other hstored

theorem LockoutSound.putUser_same (h : LockoutSound limit store) (hstored : user ∈ store.users.rows)
    (hid : written.id = user.id) (hcount : written.failedLoginAttempts = user.failedLoginAttempts)
    (hlock : written.lockedUntil = user.lockedUntil) : LockoutSound limit (store.putUser written) := by
  apply h.putUser
  unfold UserAccount.Locked
  rw [hid, hcount, hlock]
  exact h.counted user hstored

theorem LockoutSound.reset (h : LockoutSound limit store) (written : UserAccount) :
    LockoutSound limit ((store.putUser written).observed (.reset written.id)) := by
  refine ⟨h.within.reset written.id, fun other hother => ?_⟩
  by_cases hsame : written.id = other.id
  · rw [hsame]
    exact CountedBy.reset
  · rcases Table.mem_update_iff.mp hother with ⟨rfl, -⟩ | ⟨hstored, -⟩
    · exact absurd rfl hsame
    · exact (h.counted other hstored).other_reset hsame

section

variable {service : AuthService} {caller : AuthCaller}

theorem failedLogin_locked
    (h : service.settings.loginLockoutThreshold ≤ user.failedLoginAttempts + 1) :
    (service.failedLogin caller user).Locked := by
  unfold UserAccount.Locked AuthService.failedLogin
  rw [if_pos h]
  exact Option.some_ne_none _

theorem LockoutSound.failed (h : LockoutSound service.settings.loginLockoutThreshold store)
    (hstored : user ∈ store.users.rows) (hopen : ¬ user.Locked) :
    LockoutSound service.settings.loginLockoutThreshold
      ((store.observed (.failed user.id)).putUser (service.failedLogin caller user)) := by
  have hcounted := h.counted user hstored
  refine ⟨h.within.failed service.settings.loginLockoutThreshold_pos hcounted hopen, ?_⟩
  intro other hother
  rcases Table.mem_update_iff.mp hother with ⟨rfl, -⟩ | ⟨hother, hne⟩
  · exact hcounted.failed hopen failedLogin_locked
  · exact (h.counted other hother).other_failed (Ne.symm hne)

/-- A code that was counted without being compared. -/
theorem LockoutSound.failed_unseen
    (h : LockoutSound service.settings.loginLockoutThreshold store)
    (hstored : user ∈ store.users.rows) (hopen : ¬ user.Locked) :
    LockoutSound service.settings.loginLockoutThreshold
      (store.putUser (service.failedLogin caller user)) := by
  apply h.putUser
  intro hstill
  have hbelow : ¬ service.settings.loginLockoutThreshold ≤ user.failedLoginAttempts + 1 :=
    fun hreached => hstill (failedLogin_locked hreached)
  have hcount := h.counted user hstored hopen
  change failuresSince user.id store.attempts = 0 ∨
    failuresSince user.id store.attempts ≤ user.failedLoginAttempts + 1 ∧
      user.failedLoginAttempts + 1 < service.settings.loginLockoutThreshold
  omega

theorem LockoutSound.released (h : LockoutSound limit store) :
    LockoutSound limit (store.released caller user) := by
  unfold AuthStore.released
  split
  · exact h.reset user.unlocked
  · exact h

theorem LockoutSound.entered (h : LockoutSound limit store) {authMethod : String}
    {deviceLabel : Option String} {sessionId : String} :
    LockoutSound limit (store.entered service caller user authMethod deviceLabel sessionId) :=
  (h.reset (service.entered caller user authMethod deviceLabel)).congr rfl rfl

end

end

/-! ## Calls -/

inductive LoginCall
  | authenticate (arguments : PasswordLogin)
  | authenticateFederated (arguments : FederatedLogin)
  | changePassword (userId currentPassword newPassword : String) (salt : List UInt8)
  | unlockUserAccount (userId : String)

namespace LoginCall

variable (service : AuthService)

def program (caller : AuthCaller) : LoginCall → AuthProgram Unit
  | authenticate arguments => do
      let _ ← ProjectManager.authenticate service caller arguments
      return ()
  | authenticateFederated arguments => do
      let _ ← ProjectManager.authenticateFederated service caller arguments
      return ()
  | changePassword userId currentPassword newPassword salt => do
      let _ ← ProjectManager.changePassword service caller userId currentPassword newPassword salt
      return ()
  | unlockUserAccount userId => do
      let _ ← ProjectManager.unlockUserAccount caller userId
      return ()

def run (call : AuthCaller × LoginCall) (session : Session AuthStore) :
    Outcome DomainError AuthStore :=
  (call.2.program service call.1).outcome session

def account (store : AuthStore) : LoginCall → Option (UserAccount × Option String × Option String)
  | authenticate arguments =>
      (getByUsername store (lower (strip arguments.username))).map fun user =>
        (user, some arguments.rawPassword, arguments.mfaCode)
  | authenticateFederated arguments =>
      (getByFederatedIdentity store arguments.provider arguments.subject).map fun user =>
        (user, none, arguments.mfaCode)
  | _ => none

/-- The code gets as far as the comparison of codes. -/
def ReachesCode (caller : AuthCaller) (user : UserAccount) (rawPassword mfaCode : Option String) :
    Prop :=
  user.isActive = true ∧ ¬ user.LockedAt caller.now ∧
    (∀ raw ∈ rawPassword, verifyPassword service.digests raw user.passwordHash = true) ∧
    user.mfaEnabled = true ∧
    totpCompared service.digests user.mfaSecret mfaCode caller.now = true

instance (caller : AuthCaller) (user : UserAccount) (rawPassword mfaCode : Option String) :
    Decidable (ReachesCode service caller user rawPassword mfaCode) :=
  inferInstanceAs (Decidable (_ ∧ _ ∧ (∀ _ ∈ _, _) ∧ _ ∧ _))

/-- A change of the password names the right one, and a code that is compared is in ASCII. -/
def Counted (session : Session AuthStore) (call : AuthCaller × LoginCall) : Prop :=
  match call.2 with
  | changePassword userId currentPassword _ _ =>
      ∀ user ∈ session.pending.users.get? userId,
        verifyPassword service.digests currentPassword user.passwordHash = true
  | other => ∀ login ∈ other.account session.pending,
      ReachesCode service call.1 login.1 login.2.1 login.2.2 →
        isAscii (normalizeTotpCode login.2.2)

instance (session : Session AuthStore) (call : AuthCaller × LoginCall) :
    Decidable (Counted service session call) := by
  unfold Counted
  split <;> infer_instance

end LoginCall

/-! ## What a call leaves -/

/-- The rows go on counting, and whatever was compared and wrong was counted and refused. -/
structure Accounted (limit : ℕ) (caller : AuthCaller) (store : AuthStore)
    (raised : Option DomainError) (state : AuthStore) : Prop where
  sound : LockoutSound limit store → LockoutSound limit state
  failures : ∃ recent, state.attempts = recent ++ store.attempts ∧ ∀ userId,
    .failed userId ∈ recent → (∃ e ∈ raised, e.errorClass = .validationError) ∧
      ∃ before ∈ store.users.rows, ∃ after ∈ state.users.rows, before.id = userId ∧
        after.id = userId ∧
        after.failedLoginAttempts = (before.released caller).failedLoginAttempts + 1

section

variable {service : AuthService} {caller : AuthCaller} {store : AuthStore} {user : UserAccount}
  {raised : Option DomainError} {limit : ℕ}

/-- The events that releasing an expired lock adds. -/
theorem released_attempts : ∃ resets : List (AttemptEvent String),
    (store.released caller user).attempts = resets ++ store.attempts ∧
      ∀ userId, .failed userId ∉ resets := by
  unfold AuthStore.released
  split
  · exact ⟨[.reset user.id], rfl, fun userId h => by simp at h⟩
  · exact ⟨[], rfl, fun userId => List.not_mem_nil⟩

/-- A call in which nothing wrong was compared. -/
theorem accounted_of_quiet {state : AuthStore} (events : List (AttemptEvent String))
    (hsound : LockoutSound limit store → LockoutSound limit state)
    (hevents : state.attempts = events ++ store.attempts) (hquiet : ∀ userId, .failed userId ∉ events) :
    Accounted limit caller store raised state := by
  exact ⟨hsound, events, hevents, fun userId hfailed => absurd hfailed (hquiet userId)⟩

/-- A wrong secret that was compared, counted and refused. -/
theorem accounted_failed {e : DomainError} (hstored : user ∈ store.users.rows)
    (hopen : ¬ user.LockedAt caller.now) (hclass : e.errorClass = .validationError) :
    Accounted service.settings.loginLockoutThreshold caller store (some e)
      (((store.released caller user).observed (.failed user.id)).putUser
        (service.failedLogin caller (user.released caller))) := by
  have hreleased : user.released caller ∈ (store.released caller user).users.rows :=
    mem_released hstored
  have hunlocked : ¬ (user.released caller).Locked := not_not_intro (released_lockedUntil hopen)
  obtain ⟨resets, hresets, hquiet⟩ := @released_attempts caller store user
  refine ⟨fun hsound => ?_, .failed user.id :: resets, ?_, fun userId hfailed => ?_⟩
  · have hid : (user.released caller).id = user.id := released_id
    rw [← hid]
    exact hsound.released.failed hreleased hunlocked
  · rw [List.cons_append, ← hresets]
    rfl
  · obtain rfl : userId = user.id := by
      rcases List.mem_cons.mp hfailed with heq | hmem
      · exact AttemptEvent.failed.inj heq
      · exact absurd hmem (hquiet userId)
    refine ⟨⟨e, rfl, hclass⟩, user, hstored,
      (service.failedLogin caller (user.released caller)).saved, mem_putUser hreleased rfl, rfl, ?_,
      rfl⟩
    exact released_id

variable {rawPassword mfaCode : Option String} {authMethod sessionId : String}
  {deviceLabel : Option String}

theorem entryRaised_accounted {e : DomainError} {next : Session AuthStore}
    (hstored : user ∈ store.users.rows) (hactive : user.isActive = true)
    (hascii : LoginCall.ReachesCode service caller user rawPassword mfaCode →
      isAscii (normalizeTotpCode mfaCode))
    (h : EntryRaised service caller (store.released caller user) (user.released caller) rawPassword
      mfaCode sessionId e next) :
    ∃ state, next = .clean state ∧
      Accounted service.settings.loginLockoutThreshold caller store (some e) state := by
  obtain ⟨resets, hresets, hquiet⟩ := @released_attempts caller store user
  have hreleased : user.released caller ∈ (store.released caller user).users.rows :=
    mem_released hstored
  obtain ⟨state, rfl, ⟨-, -, rfl⟩ | hrefused⟩ := h
  · exact ⟨_, rfl, accounted_of_quiet resets LockoutSound.released hresets hquiet⟩
  · refine ⟨state, rfl, ?_⟩
    have hopened : ¬ (user.released caller).LockedAt caller.now → ¬ user.LockedAt caller.now := by
      intro hopen hlocked
      rw [released_of_locked hlocked] at hopen
      exact hopen hlocked
    cases hrefused with
    | locked hmoment hlocked => exact accounted_of_quiet resets LockoutSound.released hresets hquiet
    | wrongPassword hunlocked hgiven hwrong hclass =>
        rw [released_id]
        exact accounted_failed hstored (hopened hunlocked) hclass
    | wrongCode hunlocked hmfa hwrong hclass hobserved =>
        rcases hobserved with rfl | rfl
        · refine accounted_of_quiet resets (fun hsound => ?_) hresets hquiet
          exact hsound.released.failed_unseen hreleased
            (not_not_intro (released_lockedUntil (hopened hunlocked)))
        · rw [released_id]
          exact accounted_failed hstored (hopened hunlocked) hclass
    | codeRaised hunlocked hpassword hmfa hraised =>
        -- A code that was compared did not raise.
        split
        next hcompared =>
          rw [released_mfaSecret] at hcompared hraised
          rw [released_mfaEnabled] at hmfa
          simp only [released_passwordHash] at hpassword
          obtain ⟨verdict, hverdict⟩ := verifyTotpCode_ascii hcompared
            (hascii ⟨hactive, hopened hunlocked, hpassword, hmfa, hcompared⟩)
          rw [hverdict] at hraised
          cases hraised
        next => exact accounted_of_quiet resets LockoutSound.released hresets hquiet

theorem entryReturned_accounted {value : AuthenticatedUser} {next : Session AuthStore}
    (h : EntryReturned service caller (store.released caller user) (user.released caller) rawPassword
      mfaCode authMethod deviceLabel sessionId value next) :
    ∃ state, next = .clean state ∧
      Accounted service.settings.loginLockoutThreshold caller store none state := by
  obtain ⟨resets, hresets, hquiet⟩ := @released_attempts caller store user
  refine ⟨_, h.left, accounted_of_quiet (.reset (user.released caller).id :: resets)
    (fun hsound => hsound.released.entered) ?_ ?_⟩
  · rw [List.cons_append, ← hresets]
    rfl
  · intro userId hmem
    rcases List.mem_cons.mp hmem with heq | hmem
    · cases heq
    · exact hquiet userId hmem

theorem login_accounted {found : Option UserAccount} (hfound : ∀ user ∈ found, user ∈ store.users.rows)
    (hascii : ∀ user ∈ found, LoginCall.ReachesCode service caller user rawPassword mfaCode →
      isAscii (normalizeTotpCode mfaCode)) :
    (∀ value next, LoginReturned service caller store found rawPassword mfaCode authMethod deviceLabel
        sessionId value next →
      (∃ state, next = .clean state ∧
        Accounted service.settings.loginLockoutThreshold caller store none state) ∧
        ∀ user ∈ found, ¬ user.LockedAt caller.now) ∧
    ∀ e next, LoginRaised service caller store found rawPassword mfaCode sessionId e next →
      ∃ state, next = .clean state ∧
        Accounted service.settings.loginLockoutThreshold caller store (some e) state := by
  constructor
  · rintro value next ⟨user, hmem, -, hreturned⟩
    refine ⟨entryReturned_accounted hreturned, fun other hother => ?_⟩
    obtain rfl := Option.some.inj (hmem.symm.trans hother)
    exact (admits_released.mp hreturned.admits).unlocked
  · rintro e next (⟨-, -, rfl⟩ | ⟨user, hmem, hactive, hraised⟩)
    · exact ⟨store, rfl, accounted_of_quiet [] id rfl fun userId => List.not_mem_nil⟩
    · exact entryRaised_accounted (hfound user hmem) hactive (hascii user hmem) hraised

theorem changePassword_spec {userId currentPassword newPassword : String} {salt : List UInt8}
    (hright : ∀ user ∈ store.users.get? userId,
      verifyPassword service.digests currentPassword user.passwordHash = true) :
    (changePassword service caller userId currentPassword newPassword salt).Spec (.clean store)
      (fun _ next => ∃ state, next = .clean state ∧ Accounted limit caller store none state)
      (fun e next => ∃ state, next = .clean state ∧ Accounted limit caller store (some e) state) := by
  have hidle : ∀ raised, ∃ state, Session.clean store = .clean state ∧
      Accounted limit caller store raised state := fun raised =>
    ⟨store, rfl, accounted_of_quiet [] id rfl fun userId => List.not_mem_nil⟩
  unfold changePassword
  refine spec_requireUser (fun _ => hidle _) ?_
  rintro user hstored rfl
  rw [if_pos (hright user (store.users.get?_of_mem hstored)), spec_bind]
  cases validatePassword newPassword with
  | error e => exact hidle _
  | ok _ =>
      have hrow : user ∈ (store.revokeAllPersistedSessions user.id caller.now).users.rows :=
        hstored
      rw [spec_read_value, spec_bind, spec_write_ok, spec_bind, Session.clean_committed,
        Session.clean_pending, spec_updateUser (service.passwordChanged caller user
          (hashPassword service.digests newPassword salt) false) hrow rfl rfl]
      refine ⟨_, rfl, accounted_of_quiet [] (fun hsound => ?_) rfl fun userId => List.not_mem_nil⟩
      have hrevoked : LockoutSound limit
          (store.revokeAllPersistedSessions user.id caller.now) := hsound.congr rfl rfl
      exact hrevoked.putUser_same hstored rfl rfl rfl

theorem unlockUserAccount_spec {userId : String} :
    (unlockUserAccount caller userId).Spec (.clean store)
      (fun _ next => ∃ state, next = .clean state ∧ Accounted limit caller store none state)
      (fun e next => ∃ state, next = .clean state ∧ Accounted limit caller store (some e) state) := by
  have hidle : ∀ raised, ∃ state, Session.clean store = .clean state ∧
      Accounted limit caller store raised state := fun raised =>
    ⟨store, rfl, accounted_of_quiet [] id rfl fun userId => List.not_mem_nil⟩
  unfold unlockUserAccount
  rw [spec_bind]
  cases caller.userSession.requireAnyPermission ["auth.manage", "security.manage"]
      "unlock user account" with
  | error e => exact hidle _
  | ok _ =>
      rw [spec_read_value]
      refine spec_requireUser (fun _ => hidle _) fun user (hstored : user ∈ store.users.rows) _ => ?_
      rw [spec_bind, Session.clean, spec_updateUser user.unlocked hstored rfl rfl]
      refine ⟨_, rfl, accounted_of_quiet [.reset user.id] (fun hsound => ?_) rfl ?_⟩
      · exact hsound.reset user.unlocked
      · intro userId hmem
        cases List.mem_singleton.mp hmem

end

namespace LoginCall

variable {service : AuthService} {caller : AuthCaller} {store : AuthStore}

/-- What a counted call leaves, and that it logs nobody in whose account is locked. -/
theorem run_accounted (call : LoginCall) (hcounted : Counted service (.clean store) (caller, call)) :
    ∃ state, (run service (caller, call) (.clean store)).2 = .clean state ∧
      Accounted service.settings.loginLockoutThreshold caller store
        (run service (caller, call) (.clean store)).1 state ∧
      ∀ login ∈ call.account store, login.1.LockedAt caller.now →
        (run service (caller, call) (.clean store)).1 ≠ none := by
  have hspec : (call.program service caller).Spec (.clean store)
      (fun _ next => (∃ state, next = .clean state ∧
        Accounted service.settings.loginLockoutThreshold caller store none state) ∧
          ∀ login ∈ call.account store, ¬ login.1.LockedAt caller.now)
      (fun e next => ∃ state, next = .clean state ∧
        Accounted service.settings.loginLockoutThreshold caller store (some e) state) := by
    cases call with
    | authenticate arguments =>
        have hlogin := @login_accounted service caller store (some arguments.rawPassword)
          arguments.mfaCode "password" arguments.sessionId arguments.deviceLabel
          (getByUsername store (lower (strip arguments.username)))
          (fun user hmem => List.mem_of_find?_eq_some hmem)
          (fun user hmem => hcounted _ (Option.mem_map_of_mem _ hmem))
        rw [program, spec_bind]
        refine (authenticate_spec arguments).mono (fun value next hreturned => ?_) hlogin.2
        obtain ⟨haccounted, hopen⟩ := hlogin.1 value next hreturned
        refine ⟨haccounted, fun login hmem => ?_⟩
        obtain ⟨user, huser, rfl⟩ := Option.map_eq_some_iff.mp hmem
        exact hopen user huser
    | authenticateFederated arguments =>
        have hlogin := @login_accounted service caller store none arguments.mfaCode
          arguments.authMethod arguments.sessionId arguments.deviceLabel
          (getByFederatedIdentity store arguments.provider arguments.subject)
          (fun user hmem => List.mem_of_find?_eq_some hmem)
          (fun user hmem => hcounted _ (Option.mem_map_of_mem _ hmem))
        rw [program, spec_bind]
        refine (authenticateFederated_spec arguments).mono (fun value next hreturned => ?_) ?_
        · obtain ⟨haccounted, hopen⟩ := hlogin.1 value next hreturned.2
          refine ⟨haccounted, fun login hmem => ?_⟩
          obtain ⟨user, huser, rfl⟩ := Option.map_eq_some_iff.mp hmem
          exact hopen user huser
        · rintro e next (⟨-, rfl⟩ | hraised)
          · exact ⟨store, rfl, accounted_of_quiet [] id rfl fun userId => List.not_mem_nil⟩
          · exact hlogin.2 e next hraised
    | changePassword userId currentPassword newPassword salt =>
        rw [program, spec_bind]
        refine (changePassword_spec hcounted).mono (fun value next hreturned => ?_) fun _ _ => id
        exact ⟨hreturned, fun login hmem => nomatch hmem⟩
    | unlockUserAccount userId =>
        rw [program, spec_bind]
        refine unlockUserAccount_spec.mono (fun value next hreturned => ?_) fun _ _ => id
        exact ⟨hreturned, fun login hmem => nomatch hmem⟩
  have houtcome := hspec.outcome
  unfold run
  simp only
  generalize (call.program service caller).outcome (.clean store) = result at houtcome ⊢
  obtain ⟨_ | e, next⟩ := result
  · obtain ⟨-, ⟨state, hstate, haccounted⟩, hopen⟩ := houtcome
    exact ⟨state, hstate, haccounted, fun login hmem hlocked => absurd hlocked (hopen login hmem)⟩
  · obtain ⟨state, hstate, haccounted⟩ := houtcome
    exact ⟨state, hstate, haccounted, fun login _ _ => Option.some_ne_none e⟩

end LoginCall

/-! ## Runs -/

namespace LoginCall

variable (service : AuthService)

/-- Every wrong secret that the call compares is counted once, and ends in a validation error. -/
def CountsFailures (session : Session AuthStore) (call : AuthCaller × LoginCall) : Prop :=
  let outcome := run service call session
  ∃ recent, outcome.2.pending.attempts = recent ++ session.pending.attempts ∧ ∀ userId,
    .failed userId ∈ recent → (∃ e ∈ outcome.1, e.errorClass = .validationError) ∧
      ∃ before ∈ session.pending.users.rows, ∃ after ∈ outcome.2.pending.users.rows,
        before.id = userId ∧ after.id = userId ∧
          after.failedLoginAttempts = (before.released call.1).failedLoginAttempts + 1

/-- No login succeeds while the lock of its account ends in the future. -/
def RefusesLocked (session : Session AuthStore) (call : AuthCaller × LoginCall) : Prop :=
  ∀ login ∈ call.2.account session.pending, login.1.LockedAt call.1.now →
    (run service call session).1 ≠ none

end LoginCall

/-- In every run whose calls are counted, no more wrong secrets than the threshold are compared
between two resets of the lock of a user. -/
theorem loginRun_lockout (service : AuthService) (calls : List (AuthCaller × LoginCall))
    (start : AuthStore) (hstart : start.attempts = [])
    (hcounted : EachCall (LoginCall.run service) (LoginCall.Counted service) (.clean start) calls) :
    AttemptsWithin service.settings.loginLockoutThreshold
        (sessionAfter (LoginCall.run service) (.clean start) calls).committed.attempts ∧
      EachCall (LoginCall.run service) (fun session call =>
        LoginCall.CountsFailures service session call ∧
          LoginCall.RefusesLocked service session call) (.clean start) calls := by
  have hstep : ∀ (session : Session AuthStore) (call : AuthCaller × LoginCall),
      LoginCall.Counted service session call →
      (∃ store, session = .clean store ∧
        LockoutSound service.settings.loginLockoutThreshold store) →
      ∃ store, (LoginCall.run service call session).2 = .clean store ∧
        LockoutSound service.settings.loginLockoutThreshold store := by
    rintro session ⟨caller, call⟩ hcall ⟨store, rfl, hsound⟩
    obtain ⟨state, hstate, haccounted, -⟩ := LoginCall.run_accounted call hcall
    exact ⟨state, hstate, haccounted.sound hsound⟩
  have hsound : ∃ store, Session.clean start = .clean store ∧
      LockoutSound service.settings.loginLockoutThreshold store :=
    ⟨start, rfl, lockoutSound_of_unseen hstart⟩
  constructor
  · obtain ⟨store, hstore, hlast⟩ := sessionAfter_invariant hstep calls hcounted hsound
    rw [hstore]
    exact hlast.within
  · refine hcounted.conclude hstep ?_ hsound
    rintro session ⟨caller, call⟩ hcall ⟨store, rfl, -⟩
    obtain ⟨state, hstate, haccounted, hrefused⟩ := LoginCall.run_accounted call hcall
    refine ⟨?_, hrefused⟩
    unfold LoginCall.CountsFailures
    simp only
    rw [hstate]
    exact haccounted.failures

/-- The manager of the logins. -/
def securityManager (minutes : ℤ) : AuthCaller where
  userSession := .admin
  now := (signedOut minutes).now

def passwordGuess (rawPassword : String) (minutes : ℤ) : AuthCaller × LoginCall :=
  (signedOut minutes, .authenticate
    { username := "Admin"
      rawPassword := rawPassword
      sessionId := "session" ++ rawPassword })

/-- Two wrong guesses, the right password, its change, and guesses until the account is locked and
unlocked. -/
def guessedOffice : List (AuthCaller × LoginCall) :=
  [passwordGuess "first" 0, passwordGuess "second" 1, passwordGuess "ChangeMe123!" 2,
    (signedOut 3, .changePassword "user1" "ChangeMe123!" "Changed456!" [8]),
    passwordGuess "ChangeMe123!" 4, passwordGuess "third" 5, passwordGuess "fourth" 6,
    passwordGuess "fifth" 7, passwordGuess "sixth" 8, passwordGuess "Changed456!" 9,
    (securityManager 10, .unlockUserAccount "user1"), passwordGuess "Changed456!" 11]

theorem loginRun_lockout_guessedOffice :
    AttemptsWithin 5 (sessionAfter (LoginCall.run plainAuth) (.clean adminOffice)
        guessedOffice).committed.attempts ∧
      EachCall (LoginCall.run plainAuth) (fun session call =>
        LoginCall.CountsFailures plainAuth session call ∧
          LoginCall.RefusesLocked plainAuth session call) (.clean adminOffice) guessedOffice :=
  loginRun_lockout plainAuth guessedOffice adminOffice rfl (by decide +kernel)

/-- Six wrong passwords are compared, none is counted. -/
def uncountedGuesses : List (AuthCaller × LoginCall) :=
  List.replicate 6 (signedOut 0, .changePassword "user1" "guess" "Changed456!" [8])

/-- The administrator with one-time codes. -/
def codeOffice : AuthStore where
  users := ⟨[{ administrator with
    mfaSecret := some [1, 2, 3]
    mfaEnabled := true }], List.nodup_singleton _⟩

/-- Six digits of another script. -/
def foreignCode : AuthCaller × LoginCall :=
  (signedOut 0, .authenticate
    { username := "admin"
      rawPassword := "ChangeMe123!"
      mfaCode := some "٠٠٠٠٠٧"
      sessionId := "session1" })

theorem not_lockout_uncountedGuesses :
    ¬ AttemptsWithin plainAuth.settings.loginLockoutThreshold
        (sessionAfter (LoginCall.run plainAuth) (.clean adminOffice)
          uncountedGuesses).committed.attempts ∧
      ¬ LoginCall.CountsFailures plainAuth (.clean codeOffice) foreignCode := by
  constructor
  · intro hwithin
    have hbound := hwithin _ List.suffix_rfl "user1"
    revert hbound
    decide +kernel
  · rintro ⟨recent, hrecent, hcounted⟩
    have hlog : (LoginCall.run plainAuth foreignCode (.clean codeOffice)).2.pending.attempts =
        [.failed "user1"] := by
      decide +kernel
    have hraised : (LoginCall.run plainAuth foreignCode (.clean codeOffice)).1.map
        DomainError.errorClass = some .typeError := by
      decide +kernel
    have hfailed : .failed "user1" ∈ recent := by
      have hrecent : recent = [.failed "user1"] := (List.append_nil recent).symm.trans
        (hrecent.symm.trans hlog)
      rw [hrecent]
      exact List.mem_singleton_self _
    obtain ⟨⟨e, he, hclass⟩, -⟩ := hcounted "user1" hfailed
    rw [Option.mem_def.mp he, Option.map_some, hclass] at hraised
    cases hraised

end ProjectManager
