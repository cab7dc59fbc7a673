import ProjectManager.Auth.Entries

/-! # Who a federated login logs in

A federated identity is a provider together with a subject. A login that names both
only ever enters the account that is linked to them. A login that names neither passes
the same validation as one that removes a link, and looks for a user whose columns are
empty.
-/

namespace ProjectManager

open Foundation Program AuthProgram

/-! ## Normalised identities -/

theorem normalizeIdentityProvider_ne {value : Option String} {provider : String}
    (h : normalizeIdentityProvider value = some provider) : provider ≠ "" := by
  unfold normalizeIdentityProvider at h
  simp only at h
  split at h
  · cases h
  next hne =>
    obtain rfl := Option.some.inj h
    exact hne

theorem normalizeFederatedSubject_ne {value : Option String} {subject : String}
    (h : normalizeFederatedSubject value = some subject) : subject ≠ "" := by
  unfold normalizeFederatedSubject at h
  simp only at h
  split at h
  · cases h
  next hne =>
    obtain rfl := Option.some.inj h
    exact hne

namespace FederatedLogin

variable {arguments : FederatedLogin}

/-- Something is left of the arguments when blanks are taken away. -/
def Named (arguments : FederatedLogin) : Prop :=
  arguments.provider ≠ none ∨ arguments.subject ≠ none

instance (arguments : FederatedLogin) : Decidable arguments.Named :=
  inferInstanceAs (Decidable (_ ∨ _))

theorem exists_identity
    (hvalid : validateFederatedIdentity arguments.provider arguments.subject = .ok ())
    (hnamed : arguments.Named) :
    ∃ provider subject, arguments.provider = some provider ∧ provider ≠ "" ∧
      arguments.subject = some subject ∧ subject ≠ "" := by
  unfold validateFederatedIdentity at hvalid
  have htogether := ensure_eq_ok.mp hvalid
  cases hprovider : arguments.provider with
  | none =>
      cases hsubject : arguments.subject with
      | none => exact absurd hnamed (by simp [Named, hprovider, hsubject])
      | some subject =>
          have hne := normalizeFederatedSubject_ne hsubject
          simp [hprovider, hsubject, hne] at htogether
  | some provider =>
      have hne := normalizeIdentityProvider_ne hprovider
      cases hsubject : arguments.subject with
      | none => simp [hprovider, hsubject, hne] at htogether
      | some subject => exact ⟨provider, subject, rfl, hne, rfl, normalizeFederatedSubject_ne hsubject⟩

theorem validate_unnamed (h : ¬ arguments.Named) :
    validateFederatedIdentity arguments.provider arguments.subject = .ok () := by
  obtain ⟨hprovider, hsubject⟩ := not_or.mp h
  rw [not_not.mp hprovider, not_not.mp hsubject]
  unfold validateFederatedIdentity
  rfl

end FederatedLogin

/-! ## Logins -/

/-- The user who was logged in is linked to the normalised arguments, and was let in. -/
structure LinkedLogin (service : AuthService) (caller : AuthCaller) (arguments : FederatedLogin)
    (stored : UserAccount) : Prop where
  identity : ∃ provider subject, provider ≠ "" ∧ subject ≠ "" ∧
    arguments.provider = some provider ∧ stored.identityProvider = some provider ∧
    arguments.subject = some subject ∧ stored.federatedSubject = some subject
  active : stored.isActive = true
  unlocked : ¬ stored.LockedAt caller.now
  code : stored.mfaEnabled = true →
    verifyTotpCode service.digests stored.mfaSecret arguments.mfaCode caller.now = .ok true

section

variable {service : AuthService} {caller : AuthCaller} {store : AuthStore}
  {arguments : FederatedLogin}

theorem getByFederatedIdentity_eq_some {provider subject : Option String} {user : UserAccount}
    (h : getByFederatedIdentity store provider subject = some user) :
    user ∈ store.users.rows ∧ user.identityProvider = provider ∧ user.federatedSubject = subject := by
  have hfound := List.find?_some h
  exact ⟨List.mem_of_find?_eq_some h, of_decide_eq_true hfound⟩

/-- Where a login succeeds, the user it finds is active, unlocked and verified. -/
theorem authenticateFederated_returned {value : AuthenticatedUser} {next : Session AuthStore}
    (h : authenticateFederated service caller arguments (.clean store) = (.ok value, next)) :
    validateFederatedIdentity arguments.provider arguments.subject = .ok () ∧
      ∃ user ∈ getByFederatedIdentity store arguments.provider arguments.subject,
        user.isActive = true ∧ Admits service caller user none arguments.mfaCode ∧
          value.user.id = user.id := by
  have hspec := @authenticateFederated_spec service caller store arguments
  obtain ⟨hvalid, user, hfound, hactive, hreturned⟩ := hspec.of_ok h
  refine ⟨hvalid, user, hfound, hactive, admits_released.mp hreturned.admits, ?_⟩
  rw [hreturned.row]
  exact released_id

/-- A login whose user is active and lets it in succeeds. -/
theorem authenticateFederated_returns {user : UserAccount}
    (hvalid : validateFederatedIdentity arguments.provider arguments.subject = .ok ())
    (hfound : getByFederatedIdentity store arguments.provider arguments.subject = some user)
    (hactive : user.isActive = true) (hadmits : Admits service caller user none arguments.mfaCode)
    (hnew : arguments.sessionId ∉ store.authSessions.ids) :
    ∃ value next, authenticateFederated service caller arguments (.clean store) =
      (.ok value, next) := by
  have hspec := @authenticateFederated_spec service caller store arguments
  cases hresult : authenticateFederated service caller arguments (.clean store) with
  | mk result next =>
      cases result with
      | ok value => exact ⟨value, next, rfl⟩
      | error e =>
          exfalso
          rcases hspec.of_error hresult with
            ⟨herror, -⟩ | ⟨hnone, -⟩ | ⟨found, hmem, -, state, -, hraised⟩
          · rw [hvalid] at herror
            cases herror
          · exact Bool.false_ne_true ((hnone user hfound).symm.trans hactive)
          · obtain rfl := Option.some.inj (hfound.symm.trans hmem)
            have hadmitsReleased := admits_released.mpr hadmits
            rcases hraised with ⟨-, htaken, -⟩ | hrefused
            · rw [released_authSessions] at htaken
              exact hnew htaken
            · exact hrefused.not_admits hadmitsReleased

/-- A federated login only ever enters the account that is linked to its arguments, if and only if
the arguments name an identity, or the first user without one would not be let in. -/
theorem authenticateFederated_linked_iff (service : AuthService) (caller : AuthCaller)
    (arguments : FederatedLogin) (store : AuthStore)
    (hnew : arguments.sessionId ∉ store.authSessions.ids) :
    (∀ value next,
      authenticateFederated service caller arguments (.clean store) = (.ok value, next) →
        ∃ stored ∈ store.users.rows, stored.id = value.user.id ∧
          LinkedLogin service caller arguments stored) ↔
      arguments.Named ∨ ∀ user ∈ getByFederatedIdentity store none none,
        ¬ (user.isActive = true ∧ Admits service caller user none arguments.mfaCode) := by
  constructor
  · intro hlinked
    by_contra hneither
    obtain ⟨hunnamed, hadmitted⟩ := not_or.mp hneither
    push Not at hadmitted
    obtain ⟨user, hfound, hactive, hadmits⟩ := hadmitted
    have hvalid := FederatedLogin.validate_unnamed hunnamed
    obtain ⟨hprovider, hsubject⟩ := not_or.mp hunnamed
    have hsubjectFound : getByFederatedIdentity store arguments.provider arguments.subject =
        some user := by
      rw [not_not.mp hprovider, not_not.mp hsubject]
      exact hfound
    obtain ⟨value, next, hreturns⟩ :=
      authenticateFederated_returns hvalid hsubjectFound hactive hadmits hnew
    obtain ⟨stored, -, -, hlink⟩ := hlinked value next hreturns
    obtain ⟨provider, -, -, -, hgiven, -⟩ := hlink.identity
    rw [not_not.mp hprovider] at hgiven
    cases hgiven
  · intro hcondition value next hreturned
    obtain ⟨hvalid, user, hfound, hactive, hadmits, hid⟩ := authenticateFederated_returned hreturned
    obtain ⟨hstored, hprovider, hsubject⟩ := getByFederatedIdentity_eq_some hfound
    have hnamed : arguments.Named := by
      rcases hcondition with hnamed | hrefused
      · exact hnamed
      · by_contra hunnamed
        obtain ⟨hnoProvider, hnoSubject⟩ := not_or.mp hunnamed
        rw [not_not.mp hnoProvider, not_not.mp hnoSubject] at hfound
        exact hrefused user hfound ⟨hactive, hadmits⟩
    obtain ⟨provider, subject, hgiven, hne, hgivenSubject, hneSubject⟩ :=
      FederatedLogin.exists_identity hvalid hnamed
    exact ⟨user, hstored, hid.symm, ⟨provider, subject, hne, hneSubject, hgiven,
      hprovider.trans hgiven, hgivenSubject, hsubject.trans hgivenSubject⟩, hactive,
      hadmits.unlocked, hadmits.code⟩

end

/-- The administrator once a federated identity is linked. -/
def directoryOffice : AuthStore where
  users := ⟨[{ administrator with
    identityProvider := some "directory"
    federatedSubject := some "A-1" }], List.nodup_singleton _⟩

def linkedArguments : FederatedLogin where
  identityProvider := some " Directory "
  federatedSubject := some "A-1"
  sessionId := "session1"

theorem authenticateFederated_linked_iff_directoryOffice :
    (∀ value next, authenticateFederated plainAuth (signedOut 0) linkedArguments
        (.clean directoryOffice) = (.ok value, next) →
      ∃ stored ∈ directoryOffice.users.rows, stored.id = value.user.id ∧
        LinkedLogin plainAuth (signedOut 0) linkedArguments stored) ↔
      linkedArguments.Named ∨ ∀ user ∈ getByFederatedIdentity directoryOffice none none,
        ¬ (user.isActive = true ∧
          Admits plainAuth (signedOut 0) user none linkedArguments.mfaCode) :=
  authenticateFederated_linked_iff plainAuth (signedOut 0) linkedArguments directoryOffice
    (List.not_mem_nil)

/-- Two blanks log the administrator in, without a password. -/
def blankArguments : FederatedLogin where
  identityProvider := some " "
  federatedSubject := some ""
  sessionId := "session1"

theorem not_linked_adminOffice :
    ¬ ∀ value next, authenticateFederated plainAuth (signedOut 0) blankArguments
        (.clean adminOffice) = (.ok value, next) →
      ∃ stored ∈ adminOffice.users.rows, stored.id = value.user.id ∧
        LinkedLogin plainAuth (signedOut 0) blankArguments stored := by
  intro hlinked
  have hunnamed : ¬ blankArguments.Named := by decide
  have hfound : getByFederatedIdentity adminOffice blankArguments.provider
      blankArguments.subject = some administrator := by decide
  have hadmits : Admits plainAuth (signedOut 0) administrator none blankArguments.mfaCode := by
    decide
  obtain ⟨value, next, hreturns⟩ := authenticateFederated_returns
    (FederatedLogin.validate_unnamed hunnamed) hfound rfl hadmits List.not_mem_nil
  obtain ⟨stored, hstored, -, hlink⟩ := hlinked value next hreturns
  obtain rfl := List.mem_singleton.mp hstored
  obtain ⟨provider, -, -, -, -, hprovider, -⟩ := hlink.identity
  cases hprovider

end ProjectManager
