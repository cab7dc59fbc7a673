import ProjectManager.Auth.Revocations
import ProjectManager.Auth.ScopedAccess

/-! # Access that is taken away

The removal of a grant, and the assignment of a role with fewer permissions in place of
another, leave a user no more than there was, except that the last grant of a scope type
is what restricts the user to granted scopes: without it every scope is open.
-/

namespace ProjectManager

open Foundation Program AuthProgram

/-! ## Principals and grants -/

def usableGrants (store : AuthStore) (userId scopeType : String) : List ScopedAccessGrant :=
  store.grants.rows.filter fun grant =>
    grant.userId = userId ∧ lower (strip scopeType) = lower (strip grant.scopeType) ∧
      lower (strip scopeType) ≠ "" ∧ strip grant.scopeId ≠ "" ∧
      normalizePermissionSet grant.permissionCodes ≠ []

def PrincipalOf (store : AuthStore) (user : UserAccount) (principal : UserSessionPrincipal) : Prop :=
  ∃ sessionId activeSessionId,
    principal = (buildPrincipal store user sessionId activeSessionId).normalized

section

variable {store : AuthStore} {user : UserAccount} {principal : UserSessionPrincipal}
  {scopeType scopeId code : String}

namespace PrincipalOf

theorem merged (h : PrincipalOf store user principal) : MergedAccess principal.scopedAccess := by
  obtain ⟨_, _, rfl⟩ := h
  exact mergedAccess_normalize _

theorem mem_codesIn (h : PrincipalOf store user principal) {normalType normalId : String} :
    code ∈ codesIn principal.scopedAccess normalType normalId ↔
      ∃ grant ∈ store.grants.rows, grant.userId = user.id ∧ grant.Gives normalType normalId code := by
  obtain ⟨_, _, rfl⟩ := h
  refine mem_codesIn_grants.trans ?_
  simp only [List.mem_filter, decide_eq_true_iff, and_assoc]

theorem scopeRows (h : PrincipalOf store user principal) : principal.scopeRows scopeType =
    (principal.scopedAccess.lookup (lower (strip scopeType))).getD [] := by
  obtain ⟨_, _, rfl⟩ := h
  exact scopeRows_normalized _

theorem mem_scopeRows (h : PrincipalOf store user principal) :
    code ∈ ((principal.scopeRows scopeType).lookup scopeId).getD [] ↔
      ∃ grant ∈ store.grants.rows, grant.userId = user.id ∧
        grant.Gives (lower (strip scopeType)) scopeId code := by
  rw [h.scopeRows]
  exact h.mem_codesIn

theorem scopeRows_eq_nil_iff (h : PrincipalOf store user principal) :
    principal.scopeRows scopeType = [] ↔ usableGrants store user.id scopeType = [] := by
  rw [h.scopeRows, h.merged.rows_eq_nil_iff, usableGrants, List.filter_eq_nil_iff]
  constructor
  · intro hnone grant hgrant husable
    obtain ⟨huser, htype, hne, hid, hcodes⟩ := of_decide_eq_true husable
    obtain ⟨code, hcode⟩ := List.exists_mem_of_ne_nil _ hcodes
    exact hnone (strip grant.scopeId) code
      (h.mem_codesIn.mpr ⟨grant, hgrant, huser, htype, rfl, hne, hid, hcode⟩)
  · intro hnone scopeId code hcode
    obtain ⟨grant, hgrant, huser, htype, hid, hne, hidNe, hcode⟩ := h.mem_codesIn.mp hcode
    exact hnone grant hgrant
      (decide_eq_true ⟨huser, htype, hne, hid ▸ hidNe, List.ne_nil_of_mem hcode⟩)

theorem mem_scopeIdsFor (h : PrincipalOf store user principal) :
    scopeId ∈ principal.scopeIdsFor scopeType code ↔
      ∃ grant ∈ store.grants.rows, grant.userId = user.id ∧
        grant.Gives (lower (strip scopeType)) scopeId code := by
  rw [← h.mem_scopeRows]
  obtain ⟨_, _, rfl⟩ := h
  exact mem_scopeIdsFor_normalized _

theorem hasScopePermission_iff (h : PrincipalOf store user principal) :
    principal.hasScopePermission scopeType scopeId code = true ↔
      principal.hasPermission code = true ∧ ("admin" ∈ principal.roleNames ∨
        usableGrants store user.id scopeType = [] ∨ ∃ grant ∈ store.grants.rows,
          grant.userId = user.id ∧ grant.Gives (lower (strip scopeType)) (strip scopeId) code) := by
  rw [← h.mem_scopeRows, ← h.scopeRows_eq_nil_iff]
  unfold UserSessionPrincipal.hasScopePermission
  simp only [Bool.and_eq_true, Bool.or_eq_true, decide_eq_true_iff, List.isEmpty_iff, or_assoc]

theorem isScopeRestricted_iff (h : PrincipalOf store user principal) :
    principal.isScopeRestricted scopeType = true ↔
      "admin" ∉ principal.roleNames ∧ usableGrants store user.id scopeType ≠ [] := by
  rw [ne_eq, ← h.scopeRows_eq_nil_iff]
  unfold UserSessionPrincipal.isScopeRestricted
  simp only [Bool.and_eq_true, decide_eq_true_iff, Bool.not_eq_true', List.isEmpty_eq_false_iff,
    ne_eq]

theorem mem_filterScopeRows (h : PrincipalOf store user principal) {α : Type} {rows : List α}
    {scopeIdGetter : α → String} {row : α} :
    row ∈ filterScopeRows (some principal) rows scopeType code scopeIdGetter ↔
      principal.hasPermission code = true ∧ row ∈ rows ∧ ("admin" ∈ principal.roleNames ∨
        usableGrants store user.id scopeType = [] ∨ ∃ grant ∈ store.grants.rows,
          grant.userId = user.id ∧ grant.Gives (lower (strip scopeType)) (scopeIdGetter row) code) := by
  unfold filterScopeRows
  simp only [Option.any_some]
  split
  next hallowed =>
    rw [and_iff_right hallowed]
    split
    next hrestricted =>
      obtain ⟨hadmin, hgrants⟩ := h.isScopeRestricted_iff.mp hrestricted
      rw [List.mem_filter, decide_eq_true_iff, h.mem_scopeIdsFor]
      exact and_congr_right fun _ => ⟨fun hgiven => Or.inr (Or.inr hgiven),
        fun hopen => (hopen.resolve_left hadmin).resolve_left hgrants⟩
    next hopen =>
      refine ⟨fun hrow => ⟨hrow, ?_⟩, And.left⟩
      rw [h.isScopeRestricted_iff] at hopen
      by_cases hadmin : "admin" ∈ principal.roleNames
      · exact Or.inl hadmin
      · exact Or.inr (Or.inl (by_contra fun hgrants => hopen ⟨hadmin, hgrants⟩))
  next hdenied => exact ⟨fun hrow => (nomatch hrow), fun h => absurd h.1 hdenied⟩

end PrincipalOf

end

/-! ## Less access -/

def grantedPairs (active : Option UserSessionPrincipal) (scopeType : String) :
    Set (String × String) :=
  {pair | (sessionAuthorizationEngine active).hasScopePermission scopeType pair.1 pair.2 = true}

structure Narrows (before after : Option UserSessionPrincipal) (scopeType : String) : Prop where
  pairs : grantedPairs after scopeType ⊆ grantedPairs before scopeType
  rows : ∀ {α : Type} (rows : List α) (permissionCode : String) (scopeIdGetter : α → String),
    filterScopeRows after rows scopeType permissionCode scopeIdGetter ⊆
      filterScopeRows before rows scopeType permissionCode scopeIdGetter

theorem narrows_none (before : Option UserSessionPrincipal) (scopeType : String) :
    Narrows before none scopeType :=
  ⟨fun _ h => (nomatch h), fun _ _ _ _ h => (nomatch h)⟩

/-- Only grants were written, and none gives what no grant of the same user gave before. -/
structure NarrowedGrants (before after : AuthStore) : Prop where
  rest : after = { before with grants := after.grants }
  grants : ∀ grant ∈ after.grants.rows, ∃ held ∈ before.grants.rows, held.userId = grant.userId ∧
    ∀ normalType normalId code, grant.Gives normalType normalId code →
      held.Gives normalType normalId code

section

variable {store state : AuthStore} {user : UserAccount} {before after : UserSessionPrincipal}
  {now : Moment} {context : Option UserSessionPrincipal}

theorem NarrowedGrants.refl (store : AuthStore) : NarrowedGrants store store :=
  ⟨rfl, fun grant hgrant => ⟨grant, hgrant, rfl, fun _ _ _ => id⟩⟩

theorem PrincipalOf.same (h : NarrowedGrants store state) (hbefore : PrincipalOf store user before)
    (hafter : PrincipalOf state user after) :
    after.permissions = before.permissions ∧ after.roleNames = before.roleNames := by
  obtain ⟨_, _, rfl⟩ := hbefore
  obtain ⟨_, _, rfl⟩ := hafter
  rw [h.rest]
  exact ⟨rfl, rfl⟩

theorem PrincipalOf.narrows (h : NarrowedGrants store state) (scopeType : String)
    (hbefore : PrincipalOf store user before) (hafter : PrincipalOf state user after)
    (hleft : usableGrants state user.id scopeType = [] → usableGrants store user.id scopeType = []) :
    Narrows (some before) (some after) scopeType := by
  obtain ⟨hpermissions, hroles⟩ := PrincipalOf.same h hbefore hafter
  have hpermission : ∀ code, after.hasPermission code = before.hasPermission code := by
    intro code
    unfold UserSessionPrincipal.hasPermission
    rw [hpermissions]
  have hgrants : ∀ scopeId code, ("admin" ∈ after.roleNames ∨
      usableGrants state user.id scopeType = [] ∨ ∃ grant ∈ state.grants.rows,
        grant.userId = user.id ∧ grant.Gives (lower (strip scopeType)) scopeId code) →
      "admin" ∈ before.roleNames ∨ usableGrants store user.id scopeType = [] ∨
        ∃ grant ∈ store.grants.rows, grant.userId = user.id ∧
          grant.Gives (lower (strip scopeType)) scopeId code := by
    intro scopeId code
    rw [hroles]
    refine Or.imp_right (Or.imp hleft ?_)
    rintro ⟨grant, hgrant, huser, hgives⟩
    obtain ⟨held, hheld, hsame, hgave⟩ := h.grants grant hgrant
    exact ⟨held, hheld, hsame.trans huser, hgave _ _ _ hgives⟩
  constructor
  · intro pair hpair
    obtain ⟨hcode, hscope⟩ := hafter.hasScopePermission_iff.mp hpair
    exact hbefore.hasScopePermission_iff.mpr ⟨hpermission _ ▸ hcode, hgrants _ _ hscope⟩
  · intro α rows code scopeIdGetter row hrow
    obtain ⟨hcode, hmem, hscope⟩ := hafter.mem_filterScopeRows.mp hrow
    exact hbefore.mem_filterScopeRows.mpr ⟨hpermission _ ▸ hcode, hmem, hgrants _ _ hscope⟩

theorem activePrincipal_of (h : activePrincipal store now context = some before) :
    (∃ principal ∈ context, principal.userId = before.userId) ∧
      ∃ user, store.users.get? before.userId = some user ∧ user.id = before.userId ∧
        PrincipalOf store user before := by
  obtain ⟨principal, hprincipal, h⟩ := Option.bind_eq_some_iff.mp h
  obtain ⟨-, -, h⟩ := Option.bind_eq_some_iff.mp h
  obtain ⟨validated, hvalidated, h⟩ := Option.bind_eq_some_iff.mp h
  cases h
  obtain ⟨user, huser, hvalidated⟩ := Option.bind_eq_some_iff.mp hvalidated
  obtain ⟨-, -, hvalidated⟩ := Option.bind_eq_some_iff.mp hvalidated
  obtain ⟨_, -, hvalidated⟩ := Option.bind_eq_some_iff.mp hvalidated
  obtain ⟨-, -, hvalidated⟩ := Option.bind_eq_some_iff.mp hvalidated
  have hbuilt : ∃ sessionId, validated = buildPrincipal store user sessionId := by
    split at hvalidated
    · obtain ⟨row, _, hvalidated⟩ := Option.bind_eq_some_iff.mp hvalidated
      obtain ⟨-, -, hvalidated⟩ := Option.bind_eq_some_iff.mp hvalidated
      obtain ⟨-, -, hvalidated⟩ := Option.bind_eq_some_iff.mp hvalidated
      obtain ⟨_, -, hvalidated⟩ := Option.bind_eq_some_iff.mp hvalidated
      obtain ⟨-, -, hvalidated⟩ := Option.bind_eq_some_iff.mp hvalidated
      obtain ⟨-, -, hvalidated⟩ := Option.bind_eq_some_iff.mp hvalidated
      exact ⟨_, (Option.some.inj hvalidated).symm⟩
    · obtain ⟨_, -, hvalidated⟩ := Option.bind_eq_some_iff.mp hvalidated
      obtain ⟨-, -, hvalidated⟩ := Option.bind_eq_some_iff.mp hvalidated
      obtain ⟨-, -, hvalidated⟩ := Option.bind_eq_some_iff.mp hvalidated
      exact ⟨_, (Option.some.inj hvalidated).symm⟩
  obtain ⟨sessionId, rfl⟩ := hbuilt
  obtain ⟨hmem, hid⟩ := Table.get?_eq_some_iff.mp huser
  exact ⟨⟨principal, hprincipal, hid.symm⟩, user, store.users.get?_of_mem hmem, rfl, _, _, rfl⟩

theorem activePrincipal_isSome (h : NarrowedGrants store state) :
    (activePrincipal state now context).isSome = (activePrincipal store now context).isSome := by
  rw [h.rest]
  have hsession : ∀ user sessionId,
      (validateSession { store with grants := state.grants } now user sessionId).isSome =
        (validateSession store now user sessionId).isSome := by
    intro user sessionId
    unfold validateSession
    simp only [Option.bind_eq_bind, Option.isSome_bind, Option.pure_def, Option.isSome_some]
  have hrevision : ∀ user principal,
      (validateRevision { store with grants := state.grants } user principal).isSome =
        (validateRevision store user principal).isSome := by
    intro user principal
    unfold validateRevision
    simp only [Option.bind_eq_bind, Option.isSome_bind, Option.pure_def, Option.isSome_some]
  have hvalidated : ∀ principal,
      (validateSessionPrincipal { store with grants := state.grants } now principal).isSome =
        (validateSessionPrincipal store now principal).isSome := by
    intro principal
    unfold validateSessionPrincipal
    cases principal.sessionId.filter (· ≠ "") with
    | some sessionId => simp only [Option.bind_eq_bind, Option.isSome_bind, hsession]
    | none => simp only [Option.bind_eq_bind, Option.isSome_bind, hrevision]
  unfold activePrincipal
  simp only [Option.bind_eq_bind, Option.isSome_bind, Option.pure_def, Option.isSome_some,
    Option.any_true, hvalidated]

end

/-! ## Calls that take access away -/

def AuthCall.TakesAccess (registry : ScopedRolePolicyRegistry) (store : AuthStore) :
    AuthCall → Prop
  | removeScopeGrant .. => True
  | assignScopeGrant arguments =>
      ∃ grant, getForScopeUser store (lower (strip arguments.scopeType)) (strip arguments.scopeId)
          arguments.userId = some grant ∧
        ∀ scopeRole permissions, registry.normalizeScopeRole (lower (strip arguments.scopeType))
            arguments.scopeRole = .ok scopeRole →
          registry.resolveScopePermissions (lower (strip arguments.scopeType)) scopeRole =
            .ok permissions →
          ∀ code ∈ permissions, code ∈ normalizePermissionSet grant.permissionCodes
  | _ => False

/-- What is committed differs by narrower grants. -/
def LeavesNarrowed (store : AuthStore) (next : Session AuthStore) : Prop :=
  NarrowedGrants store next.committed

section

variable {services : AuthServices} {caller : AuthCaller} {store : AuthStore}

theorem removeScopeGrant_narrowed (scopeType scopeId userId : String) :
    (removeScopeGrant services.registry caller scopeType scopeId userId).Spec (.clean store)
      (fun _ => LeavesNarrowed store) fun _ => LeavesNarrowed store := by
  unfold removeScopeGrant
  rw [spec_bind]
  cases hchecked : checkGrantRemoval services.registry caller scopeType scopeId userId store with
  | error e =>
      rw [spec_read_of_error hchecked]
      exact NarrowedGrants.refl store
  | ok grant =>
      rw [spec_read_of_ok hchecked]
      refine ⟨rfl, fun left hleft => ⟨left, (Table.mem_filter.mp hleft).1, rfl, fun _ _ _ => id⟩⟩

theorem checkScopeGrant_replaced {registry : ScopedRolePolicyRegistry} {arguments : GrantArguments}
    {held : ScopedAccessGrant} {grant : ScopedAccessGrant × Bool}
    (hheld : getForScopeUser store (lower (strip arguments.scopeType)) (strip arguments.scopeId)
      arguments.userId = some held)
    (h : checkScopeGrant registry caller arguments store = .ok grant) :
    ∃ scopeRole permissions, registry.normalizeScopeRole (lower (strip arguments.scopeType))
        arguments.scopeRole = .ok scopeRole ∧
      registry.resolveScopePermissions (lower (strip arguments.scopeType)) scopeRole =
        .ok permissions ∧
      grant = ({ held with scopeRole := scopeRole, permissionCodes := permissions }, false) := by
  obtain ⟨_, -, h⟩ := bind_ok h
  obtain ⟨scopeType, htype, h⟩ := bind_ok h
  obtain ⟨-, -, h⟩ := bind_ok h
  obtain ⟨_, -, h⟩ := bind_ok h
  obtain ⟨scopeRole, hrole, h⟩ := bind_ok h
  obtain ⟨permissions, hpermissions, h⟩ := bind_ok h
  iterate 2 obtain ⟨_, -, h⟩ := bind_ok h
  obtain ⟨_, -, htype⟩ := bind_ok htype
  obtain rfl := Except.ok.inj htype
  rw [hheld] at h
  exact ⟨scopeRole, permissions, hrole, hpermissions, (Except.ok.inj h).symm⟩

theorem mem_resolveScopePermissions {registry : ScopedRolePolicyRegistry}
    {scopeType scopeRole : String} {permissions : List String}
    (h : registry.resolveScopePermissions scopeType scopeRole = .ok permissions) {code : String}
    (hcode : code ∈ permissions) : strip code = code := by
  obtain ⟨policy, -, h⟩ := bind_ok h
  cases h
  rw [List.mem_insertionSort, List.mem_dedup, List.mem_filter] at hcode
  obtain ⟨value, _, rfl⟩ := List.mem_map.mp hcode.1
  exact strip_strip value

theorem assignScopeGrant_narrowed {arguments : GrantArguments}
    (hfewer : AuthCall.TakesAccess services.registry store (.assignScopeGrant arguments)) :
    (assignScopeGrant services.registry caller arguments).Spec (.clean store)
      (fun _ => LeavesNarrowed store) fun _ => LeavesNarrowed store := by
  obtain ⟨held, hheld, hfewer⟩ := hfewer
  unfold assignScopeGrant
  rw [spec_bind]
  cases hchecked : checkScopeGrant services.registry caller arguments store with
  | error e =>
      rw [spec_read_of_error hchecked]
      exact NarrowedGrants.refl store
  | ok grant =>
      obtain ⟨scopeRole, permissions, hrole, hpermissions, rfl⟩ :=
        checkScopeGrant_replaced hheld hchecked
      rw [spec_read_of_ok hchecked]
      refine ⟨rfl, fun left hleft => ?_⟩
      rcases Table.mem_update_iff.mp hleft with ⟨rfl, -⟩ | ⟨hold, -⟩
      · refine ⟨held, List.mem_of_find?_eq_some hheld, rfl, fun _ _ code hgives => ?_⟩
        obtain ⟨_, value, hvalue, rfl⟩ := mem_normalizePermissionSet.mp hgives.code
        have hgiven := hfewer scopeRole permissions hrole hpermissions value hvalue
        rw [← mem_resolveScopePermissions hpermissions hvalue] at hgiven
        exact ⟨hgives.scopeType, hgives.scopeId, hgives.type_ne, hgives.id_ne, hgiven⟩
      · exact ⟨left, hold, rfl, fun _ _ _ => id⟩

theorem AuthCall.program_narrowed {call : AuthCall}
    (hcall : call.TakesAccess services.registry store) :
    (call.program services caller).Spec (.clean store)
      (fun _ => LeavesNarrowed store) fun _ => LeavesNarrowed store := by
  cases call with
  | removeScopeGrant scopeType scopeId userId =>
      rw [AuthCall.program, spec_bind]
      exact removeScopeGrant_narrowed scopeType scopeId userId
  | assignScopeGrant arguments =>
      rw [AuthCall.program, spec_bind]
      exact assignScopeGrant_narrowed hcall
  | _ => cases hcall

end

namespace AuthSystem

variable {π : Type} [DecidableEq π] {services : AuthServices} {system : AuthSystem π}
  {process other : π} {now : Moment} {call : AuthCall}

theorem afterCall_narrowed (hcall : call.TakesAccess services.registry system.store) :
    NarrowedGrants system.store (system.afterCall services process now call).store ∧
      ∀ other, (system.afterCall services process now call).context other = system.context other ∨
        ∀ principal ∈ (system.afterCall services process now call).context other,
          ∃ before, system.activeAt other now = some before ∧
            before.userId = principal.userId := by
  have hspec := @AuthCall.program_narrowed services
    ⟨sessionAuthorizationEngine (call.checkedContext system.store now (system.context process)), now⟩
    system.store call hcall
  have hchecked : call.checkedContext system.store now (system.context process) =
      system.activeAt process now := by
    cases call with
    | changePassword => cases hcall
    | _ => rfl
  have hrefreshed : ∀ store userId, ∀ principal ∈ call.refreshedContext store now userId
      (system.activeAt process now), ∃ before, system.activeAt process now = some before ∧
        before.userId = principal.userId := by
    intro store userId principal hprincipal
    have hneeded : refreshCurrentSessionIfNeeded store userId (system.activeAt process now) =
        some principal := by
      cases call with
      | removeScopeGrant => exact hprincipal
      | assignScopeGrant => exact hprincipal
      | _ => cases hcall
    obtain ⟨before, hbefore, hbuilt⟩ := Option.bind_eq_some_iff.mp hneeded
    refine ⟨before, hbefore, ?_⟩
    split at hbuilt
    next hsame =>
      obtain ⟨user, huser, hbuilt⟩ := Option.bind_eq_some_iff.mp hbuilt
      cases hbuilt
      exact hsame.trans (Table.get?_eq_some_iff.mp huser).2.symm
    next => exact congrArg _ (Option.some.inj hbuilt)
  unfold afterCall
  simp only
  split
  next userId next hrun =>
    refine ⟨hspec.of_ok hrun, fun other => ?_⟩
    by_cases hother : other = process
    · subst hother
      right
      dsimp only
      rw [Function.update_self, hchecked]
      exact hrefreshed _ _
    · exact Or.inl (Function.update_of_ne hother _ _)
  next e next hrun =>
    refine ⟨hspec.of_error hrun, fun other => ?_⟩
    by_cases hother : other = process
    · subst hother
      right
      dsimp only
      rw [Function.update_self, hchecked]
      exact fun principal hprincipal => ⟨principal, hprincipal, rfl⟩
    · exact Or.inl (Function.update_of_ne hother _ _)

theorem activeAt_before (hcall : call.TakesAccess services.registry system.store)
    {after : UserSessionPrincipal}
    (h : (system.afterCall services process now call).activeAt other now = some after) :
    ∃ before, system.activeAt other now = some before ∧ before.userId = after.userId := by
  obtain ⟨hnarrowed, hcontext⟩ := @afterCall_narrowed _ _ _ system process now _ hcall
  obtain ⟨⟨principal, hprincipal, huser⟩, -⟩ := activePrincipal_of h
  rcases hcontext other with hsame | hbuilt
  · have hactive : (system.activeAt other now).isSome := by
      rw [activeAt, ← activePrincipal_isSome hnarrowed, ← hsame]
      exact Option.isSome_of_eq_some h
    obtain ⟨before, hbefore⟩ := Option.isSome_iff_exists.mp hactive
    obtain ⟨⟨stored, hstored, hsameUser⟩, -⟩ := activePrincipal_of hbefore
    rw [hsame] at hprincipal
    obtain rfl := Option.mem_unique hstored hprincipal
    exact ⟨before, hbefore, hsameUser.symm.trans huser⟩
  · obtain ⟨before, hbefore, hsameUser⟩ := hbuilt principal hprincipal
    exact ⟨before, hbefore, hsameUser.trans huser⟩

/-- The call took the last grant of the user that restricted scopes of the type, and so it opened
them all. -/
structure OpenedScopes (system after : AuthSystem π) (other : π) (now : Moment)
    (scopeType : String) (principal : UserSessionPrincipal) : Prop where
  active : after.activeAt other now = some principal
  before : usableGrants system.store principal.userId scopeType ≠ []
  after : usableGrants after.store principal.userId scopeType = []
  unrestricted : ∀ scopeId permissionCode,
    principal.hasScopePermission scopeType scopeId permissionCode =
      principal.hasPermission permissionCode

/-- Whatever context is looked at, in any scope type: a call that takes access away widens it only
by the last grant. -/
theorem afterCall_narrows (services : AuthServices) (system : AuthSystem π) (process other : π)
    (now : Moment) (call : AuthCall) (hcall : call.TakesAccess services.registry system.store)
    (scopeType : String) :
    Narrows (system.activeAt other now)
        ((system.afterCall services process now call).activeAt other now) scopeType ∨
      ∃ principal, OpenedScopes system (system.afterCall services process now call) other now
        scopeType principal := by
  have hnarrowed := (@afterCall_narrowed _ _ _ system process now _ hcall).1
  cases hafter : (system.afterCall services process now call).activeAt other now with
  | none => exact Or.inl (narrows_none _ _)
  | some after =>
      obtain ⟨before, hbefore, huserId⟩ := activeAt_before hcall hafter
      obtain ⟨-, user, huser, hid, hof⟩ := activePrincipal_of hafter
      obtain ⟨-, stored, hstored, -, hofBefore⟩ := activePrincipal_of hbefore
      have hsame : stored = user := by
        rw [hnarrowed.rest, ← huserId] at huser
        exact Option.some.inj (hstored.symm.trans huser)
      subst hsame
      rw [hbefore]
      by_cases hleft :
          usableGrants (system.afterCall services process now call).store stored.id scopeType =
              [] → usableGrants system.store stored.id scopeType = []
      · exact Or.inl (PrincipalOf.narrows hnarrowed scopeType hofBefore hof hleft)
      · push Not at hleft
        refine Or.inr ⟨after, hafter, hid ▸ hleft.2, hid ▸ hleft.1, fun scopeId code => ?_⟩
        rw [Bool.eq_iff_iff, hof.hasScopePermission_iff]
        exact and_iff_left (Or.inr (Or.inl hleft.1))

/-! ## A planner with a grant in one project -/

def signedInUntil : Moment := (signedOut 60).now

def managingAdministrator : UserAccount :=
  { administrator with sessionExpiresAt := some signedInUntil }

def planner : UserAccount where
  id := "user2"
  id_ne := (by decide : ¬ "user2" = "")
  username := "planner"
  passwordHash := hashPassword plainDigests "ChangeMe123!" [7]
  sessionExpiresAt := some signedInUntil

/-- The administrator manages access, and the planner leads one project. -/
def plannedOffice : AuthStore where
  users := ⟨[managingAdministrator, planner], by decide⟩
  roles := ⟨[⟨"role1", "admin"⟩, ⟨"role2", "planner"⟩], by decide⟩
  permissions := ⟨[⟨"permission1", "access.manage"⟩, ⟨"permission2", "task.read"⟩], by decide⟩
  userRoles := ⟨[⟨"user1", "role1"⟩, ⟨"user2", "role2"⟩], by decide⟩
  rolePermissions := ⟨[⟨"role1", "permission1"⟩, ⟨"role2", "permission2"⟩], by decide⟩
  grants := ⟨[⟨"grant1", "project", "project1", "user2", "lead",
    resolveProjectScopePermissions "lead"⟩], List.nodup_singleton _⟩

def scopedServices : AuthServices where
  digests := plainDigests
  registry scopeType := if scopeType = "project" then some projectScopePolicy else none

def signedInOffice : AuthSystem Device where
  store := plannedOffice
  context
    | .desktop => some (buildPrincipal plannedOffice managingAdministrator none).normalized
    | .laptop => some (buildPrincipal plannedOffice planner none).normalized
  loggedInWith _ := none
  revoked := []

def viewerAssignment : AuthCall :=
  .assignScopeGrant
    { scopeType := "project"
      scopeId := "project1"
      userId := "user2"
      scopeRole := "viewer"
      grantId := "grant2" }

theorem viewerAssignment_takesAccess :
    viewerAssignment.TakesAccess scopedServices.registry plannedOffice := by
  refine ⟨_, rfl, ?_⟩
  intro scopeRole permissions hrole hpermissions
  cases hrole
  cases hpermissions
  decide +kernel

theorem afterCall_narrows_viewerAssignment :
    Narrows (signedInOffice.activeAt .laptop (signedOut 0).now)
      ((signedInOffice.afterCall scopedServices .desktop (signedOut 0).now
        viewerAssignment).activeAt .laptop (signedOut 0).now) "project" := by
  refine (afterCall_narrows scopedServices signedInOffice .desktop .laptop (signedOut 0).now
    viewerAssignment viewerAssignment_takesAccess "project").resolve_right ?_
  rintro ⟨principal, hopened⟩
  have huser : ((signedInOffice.afterCall scopedServices .desktop (signedOut 0).now
      viewerAssignment).activeAt .laptop (signedOut 0).now).map UserSessionPrincipal.userId =
        some "user2" := by
    decide +kernel
  rw [hopened.active] at huser
  have hnone := hopened.after
  rw [Option.some.inj huser] at hnone
  revert hnone
  decide +kernel

/-- Without the grant the planner reads the tasks of every project. -/
theorem not_narrows_lastGrant :
    ¬ Narrows (signedInOffice.activeAt .laptop (signedOut 0).now)
      ((signedInOffice.afterCall scopedServices .desktop (signedOut 0).now
        (.removeScopeGrant "project" "project1" "user2")).activeAt .laptop (signedOut 0).now)
      "project" := by
  intro h
  have hwidened : (sessionAuthorizationEngine (signedInOffice.activeAt .laptop
      (signedOut 0).now)).hasScopePermission "project" "project2" "task.read" = true := by
    refine @h.pairs ("project2", "task.read") ?_
    change (sessionAuthorizationEngine _).hasScopePermission _ _ _ = true
    decide +kernel
  revert hwidened
  decide +kernel

end AuthSystem

end ProjectManager
