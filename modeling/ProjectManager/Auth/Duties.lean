import ProjectManager.Auth.Entries
import ProjectManager.Auth.Roles
import ProjectManager.Foundation.Duties

/-! # Separated duties

Nobody but an administrator combines the permissions of a rule. Assignments and
registrations keep that. A revocation of the administrator role keeps it when the other
roles of the user do not conflict.
-/

namespace ProjectManager

open Foundation Program AuthProgram

/-! ## Roles and rules as sets -/

def roleGrants (roleName : String) : Set String := {code | code ∈ permissionsOfRole roleName}

def ruleConflicts (rules : List SeparationOfDutiesRule) : Set (Set String) :=
  {conflict | ∃ rule ∈ rules, conflict = {code | code ∈ rule.requiredPermissions}}

/-- Roles with these names are kept apart, or come with the role of administrators. -/
def NamesSeparated (rules : List SeparationOfDutiesRule) (roleNames : Set String) : Prop :=
  Separated roleGrants (ruleConflicts rules) "admin" roleNames

theorem combines_iff {rules : List SeparationOfDutiesRule} {granted : Set String} :
    Combines (ruleConflicts rules) granted ↔
      ∃ rule ∈ rules, ∀ code ∈ rule.requiredPermissions, code ∈ granted := by
  constructor
  · rintro ⟨_, ⟨rule, hrule, rfl⟩, hsub⟩
    exact ⟨rule, hrule, hsub⟩
  · rintro ⟨rule, hrule, hall⟩
    exact ⟨_, ⟨rule, hrule, rfl⟩, hall⟩

/-! ## The default roles -/

/-- The name of a system role is looked up as it is. -/
theorem defaultRoleNames_plain : ∀ roleName ∈ defaultRoleNames,
    roleName ≠ "" ∧ lower (strip roleName) = roleName := by
  decide +kernel

theorem permissionsOfRole_default : ∀ entry ∈ defaultRolePermissions,
    permissionsOfRole entry.1 = entry.2 := by
  decide +kernel

theorem default_codes_plain : ∀ entry ∈ defaultRolePermissions, ∀ code ∈ entry.2,
    strip code = code ∧ code ≠ "" := by
  decide +kernel

theorem permissionsOfRole_plain {roleName code : String} (h : code ∈ permissionsOfRole roleName) :
    strip code = code ∧ code ≠ "" := by
  unfold permissionsOfRole at h
  cases hlookup : defaultRolePermissions.lookup roleName with
  | none =>
      rw [hlookup] at h
      cases h
  | some codes =>
      rw [hlookup] at h
      obtain ⟨before, after, hentries, -⟩ := List.lookup_eq_some_iff.mp hlookup
      have hentry : (roleName, codes) ∈ defaultRolePermissions := by
        rw [hentries]
        exact List.mem_append_right _ List.mem_cons_self
      exact default_codes_plain _ hentry code h

theorem findConflicts_eq_nil {rules : List SeparationOfDutiesRule} {roleNames : List String} :
    findConflicts rules (roleNames.flatMap permissionsOfRole) = [] ↔
      ¬ Combines (ruleConflicts rules) (grantedBy roleGrants {name | name ∈ roleNames}) := by
  have hplain : ∀ code, code ∈ ((roleNames.flatMap permissionsOfRole).map strip).filter (· ≠ "") ↔
      code ∈ grantedBy roleGrants {name | name ∈ roleNames} := by
    intro code
    rw [mem_grantedBy, List.mem_filter, List.mem_map]
    constructor
    · rintro ⟨⟨given, hgiven, rfl⟩, -⟩
      obtain ⟨roleName, hname, hcode⟩ := List.mem_flatMap.mp hgiven
      rw [(permissionsOfRole_plain hcode).1]
      exact ⟨roleName, hname, hcode⟩
    · rintro ⟨roleName, hname, hcode⟩
      have hstrip := permissionsOfRole_plain hcode
      exact ⟨⟨code, List.mem_flatMap.mpr ⟨roleName, hname, hcode⟩, hstrip.1⟩,
        decide_eq_true hstrip.2⟩
  unfold findConflicts
  rw [combines_iff, List.map_eq_nil_iff, List.filter_eq_nil_iff, not_exists]
  refine forall_congr' fun rule => ?_
  rw [not_and, decide_eq_true_eq]
  exact imp_congr_right fun _ => not_congr (forall₂_congr fun code _ => hplain code)

/-! ## What a check has established -/

section

variable {rules : List SeparationOfDutiesRule} {store : AuthStore}

theorem requireRoleByName_spec {roleName : String} {role : Role}
    (h : requireRoleByName store roleName = .ok role) :
    role ∈ store.roles.rows ∧ role.name = lower (strip roleName) := by
  have hfound := require_eq_ok.mp h
  exact ⟨List.mem_of_find?_eq_some hfound, by simpa using List.find?_some hfound⟩

theorem mapM_requireRoleByName {roleNames : List String} {roles : List Role}
    (h : roleNames.mapM (requireRoleByName store) = .ok roles) :
    (∀ role ∈ roles, role ∈ store.roles.rows) ∧
      roles.map Role.name = roleNames.map fun roleName => lower (strip roleName) := by
  induction mapM_eq_ok.mp h with
  | nil => exact ⟨fun role => nofun, rfl⟩
  | cons hrole hroles ih =>
      obtain ⟨hmem, hname⟩ := requireRoleByName_spec hrole
      obtain ⟨hrest, hnames⟩ := ih (mapM_eq_ok.mpr hroles)
      constructor
      · intro other hother
        rcases List.mem_cons.mp hother with rfl | hother
        · exact hmem
        · exact hrest other hother
      · rw [List.map_cons, List.map_cons, hname, hnames]

/-- System roles that pass the check are kept apart. -/
theorem namesSeparated_of_enforced {roleNames : List String}
    (hdefault : ∀ roleName ∈ roleNames, lower (strip roleName) ∈ defaultRoleNames)
    (h : enforceSeparationOfDuties rules roleNames store = .ok ()) :
    NamesSeparated rules {name | ∃ roleName ∈ roleNames, lower (strip roleName) = name} := by
  have hnormalized : normalizeRoleNames roleNames =
      roleNames.map fun roleName => lower (strip roleName) := by
    unfold normalizeRoleNames
    rw [List.filter_eq_self.mpr]
    intro roleName hmem
    refine decide_eq_true fun hempty => (defaultRoleNames_plain _ (hdefault roleName hmem)).1 ?_
    rw [hempty]
    rfl
  have hset : {name | ∃ roleName ∈ roleNames, lower (strip roleName) = name} =
      {name | name ∈ normalizeRoleNames roleNames} := by
    rw [hnormalized]
    exact Set.ext fun name => List.mem_map.symm
  rw [hset]
  unfold enforceSeparationOfDuties at h
  simp only at h
  split at h
  next hadmin => exact Or.inl hadmin
  next =>
    obtain ⟨roles, hroles, hchecked⟩ := bind_ok h
    have hnames := (mapM_requireRoleByName hroles).2
    have hsame : roles.map Role.name = normalizeRoleNames roleNames := by
      rw [hnames]
      conv_rhs => rw [← List.map_id (normalizeRoleNames roleNames)]
      apply List.map_congr_left
      intro name hname
      rw [hnormalized] at hname
      obtain ⟨roleName, hmem, rfl⟩ := List.mem_map.mp hname
      exact (defaultRoleNames_plain _ (hdefault roleName hmem)).2
    refine Or.inr (findConflicts_eq_nil.mp ?_)
    rw [← hsame, List.flatMap_map]
    split at hchecked
    next hnone => exact hnone
    next => cases hchecked

end

/-! ## The invariant -/

def rolesOf (store : AuthStore) (userId : String) : Set String :=
  {name | name ∈ getUserRoleNames store userId}

/-- Roles are the system roles with no more than their permissions, bindings refer to stored rows,
and the roles of every user are kept apart. -/
structure SoundRoles (rules : List SeparationOfDutiesRule) (store : AuthStore) : Prop where
  names : ∀ role ∈ store.roles.rows, role.name ∈ defaultRoleNames
  users : ∀ binding ∈ store.userRoles.rows, binding.userId ∈ store.users.ids
  roles : ∀ binding ∈ store.userRoles.rows, binding.roleId ∈ store.roles.ids
  grants : ∀ binding ∈ store.rolePermissions.rows,
    ∃ role ∈ store.roles.rows, ∃ permission ∈ store.permissions.rows,
      role.id = binding.roleId ∧ permission.id = binding.permissionId ∧
        permission.code ∈ permissionsOfRole role.name
  separated : ∀ userId ∈ store.users.ids, NamesSeparated rules (rolesOf store userId)

/-- No user without the role of administrators is granted all permissions of a rule. -/
def DutiesSeparated (rules : List SeparationOfDutiesRule) (store : AuthStore) : Prop :=
  ∀ user ∈ store.users.rows, "admin" ∉ getUserRoleNames store user.id →
    ∀ rule ∈ rules, ¬ ∀ code ∈ rule.requiredPermissions, code ∈ getUserPermissions store user.id

instance (rules : List SeparationOfDutiesRule) (store : AuthStore) :
    Decidable (DutiesSeparated rules store) :=
  inferInstanceAs (Decidable (∀ _ ∈ _, _))

section

variable {rules : List SeparationOfDutiesRule} {store : AuthStore}

theorem mem_rolesOf {userId name : String} : name ∈ rolesOf store userId ↔
    ∃ role ∈ store.roles.rows, ⟨userId, role.id⟩ ∈ store.userRoles.rows ∧ role.name = name := by
  unfold rolesOf getUserRoleNames listRoleIds
  simp only [Set.mem_ofPred_eq, List.mem_filterMap, List.mem_map, List.mem_filter,
    decide_eq_true_eq, Option.map_eq_some_iff, Table.get?_eq_some_iff]
  constructor
  · rintro ⟨-, ⟨⟨userId, roleId⟩, ⟨hbinding, rfl⟩, rfl⟩, role, ⟨hrole, rfl⟩, hname⟩
    exact ⟨role, hrole, hbinding, hname⟩
  · rintro ⟨role, hrole, hbinding, hname⟩
    exact ⟨role.id, ⟨⟨userId, role.id⟩, ⟨hbinding, rfl⟩, rfl⟩, role, ⟨hrole, rfl⟩, hname⟩

theorem SoundRoles.getUserPermissions_subset (h : SoundRoles rules store) (userId : String) :
    {code | code ∈ getUserPermissions store userId} ⊆
      grantedBy roleGrants (rolesOf store userId) := by
  intro code hcode
  unfold getUserPermissions listRoleIds listPermissionIds at hcode
  simp only [Set.mem_ofPred_eq, List.mem_filterMap, List.mem_flatMap, List.mem_map, List.mem_filter,
    decide_eq_true_eq, Option.map_eq_some_iff, Table.get?_eq_some_iff] at hcode
  obtain ⟨-, ⟨-, ⟨⟨holder, roleId⟩, ⟨hbinding, rfl⟩, rfl⟩, link, ⟨hlink, hlinked⟩, rfl⟩,
    permission, ⟨hpermission, hpermissionId⟩, rfl⟩ := hcode
  obtain ⟨role, hrole, granted, hgranted, hroleId, hgrantedId, hcode⟩ := h.grants link hlink
  have hsame : granted = permission :=
    store.permissions.eq_of_key_eq hgranted hpermission (hgrantedId.trans hpermissionId.symm)
  rw [mem_grantedBy]
  refine ⟨role.name, mem_rolesOf.mpr ⟨role, hrole, ?_, rfl⟩, hsame ▸ hcode⟩
  rw [hroleId, hlinked]
  exact hbinding

theorem SoundRoles.dutiesSeparated (h : SoundRoles rules store) : DutiesSeparated rules store := by
  intro user huser hadmin rule hrule hall
  have hseparated := h.separated user.id (store.users.mem_ids huser)
  exact hseparated.not_combines hadmin (h.getUserPermissions_subset user.id)
    (combines_iff.mpr ⟨rule, hrule, hall⟩)

theorem soundRoles_empty : SoundRoles rules {} where
  names _ hrole := nomatch hrole
  users _ hbinding := nomatch hbinding
  roles _ hbinding := nomatch hbinding
  grants _ hbinding := nomatch hbinding
  separated _ huser := nomatch huser

end

/-! ## System roles are seeded -/

namespace SoundRoles

variable {rules : List SeparationOfDutiesRule} {store next : AuthStore}

theorem ensureDefaultPermission {ids : SeedIds} {code : String} (hsound : SoundRoles rules store)
    (h : ensureDefaultPermission ids store code = .ok next) : SoundRoles rules next := by
  unfold ProjectManager.ensureDefaultPermission at h
  split at h
  next => exact Except.ok.inj h ▸ hsound
  next =>
    obtain ⟨_, hfresh, h⟩ := bind_ok h
    cases h
    refine ⟨hsound.names, hsound.users, hsound.roles, fun binding hbinding => ?_, hsound.separated⟩
    obtain ⟨role, hrole, permission, hpermission, hgranted⟩ := hsound.grants binding hbinding
    refine ⟨role, hrole, permission, ?_, hgranted⟩
    change permission ∈ (store.permissions.insert _).rows
    rw [Table.rows_insert (ensure_eq_ok.mp hfresh)]
    exact List.mem_cons_of_mem _ hpermission

theorem ensureDefaultRole {ids : SeedIds} {roleName : String} (hsound : SoundRoles rules store)
    (hdefault : roleName ∈ defaultRoleNames)
    (h : ensureDefaultRole ids store roleName = .ok next) : SoundRoles rules next := by
  unfold ProjectManager.ensureDefaultRole at h
  split at h
  next => exact Except.ok.inj h ▸ hsound
  next =>
    obtain ⟨_, hfresh, h⟩ := bind_ok h
    cases h
    have hfresh := ensure_eq_ok.mp hfresh
    have hrows : (store.roles.insert ⟨ids.roleId roleName, roleName⟩).rows =
        ⟨ids.roleId roleName, roleName⟩ :: store.roles.rows := Table.rows_insert hfresh
    have hids : ∀ roleId ∈ store.roles.ids,
        roleId ∈ (store.roles.insert ⟨ids.roleId roleName, roleName⟩).ids := by
      intro roleId hmem
      unfold Table.ids
      rw [hrows]
      exact List.mem_cons_of_mem _ hmem
    refine ⟨?_, hsound.users, fun binding hbinding => hids _ (hsound.roles binding hbinding), ?_, ?_⟩
    · intro role hrole
      rcases Table.mem_insert hrole with rfl | hrole
      · exact hdefault
      · exact hsound.names role hrole
    · intro binding hbinding
      obtain ⟨role, hrole, hgranted⟩ := hsound.grants binding hbinding
      refine ⟨role, ?_, hgranted⟩
      change role ∈ (store.roles.insert _).rows
      rw [hrows]
      exact List.mem_cons_of_mem _ hrole
    · -- No binding refers to the new role.
      intro userId huser
      have hsame : rolesOf { store with
          roles := store.roles.insert ⟨ids.roleId roleName, roleName⟩ } userId =
            rolesOf store userId := by
        ext name
        rw [mem_rolesOf, mem_rolesOf]
        constructor
        · rintro ⟨role, hrole, hbinding, hname⟩
          rcases Table.mem_insert hrole with rfl | hrole
          · exact absurd (hsound.roles _ hbinding) hfresh
          · exact ⟨role, hrole, hbinding, hname⟩
        · rintro ⟨role, hrole, hbinding, hname⟩
          refine ⟨role, ?_, hbinding, hname⟩
          change role ∈ (store.roles.insert _).rows
          rw [hrows]
          exact List.mem_cons_of_mem _ hrole
      rw [hsame]
      exact hsound.separated userId huser

theorem ensureRolePermissions (hsound : SoundRoles rules store) :
    SoundRoles rules (ensureRolePermissions store) := by
  refine ⟨hsound.names, hsound.users, hsound.roles, fun binding hbinding => ?_, hsound.separated⟩
  rcases Table.mem_foldl_insert hbinding with hdefault | hbinding
  · obtain ⟨entry, hentry, hbinding⟩ := List.mem_flatMap.mp hdefault
    obtain ⟨code, hcode, hbinding⟩ := List.mem_filterMap.mp hbinding
    obtain ⟨role, hrole, hbinding⟩ := Option.bind_eq_some_iff.mp hbinding
    obtain ⟨permission, hpermission, hbinding⟩ := Option.bind_eq_some_iff.mp hbinding
    cases hbinding
    refine ⟨role, List.mem_of_find?_eq_some hrole, permission,
      List.mem_of_find?_eq_some hpermission, rfl, rfl, ?_⟩
    have hname : role.name = entry.1 := by simpa using List.find?_some hrole
    have hpermissionCode : permission.code = code := by simpa using List.find?_some hpermission
    rw [hname, hpermissionCode, permissionsOfRole_default entry hentry]
    exact hcode
  · exact hsound.grants binding hbinding

theorem seedDefaults {ids : SeedIds} (hsound : SoundRoles rules store)
    (h : seedDefaults ids store = .ok next) : SoundRoles rules next := by
  unfold ProjectManager.seedDefaults at h
  obtain ⟨withPermissions, hpermissions, h⟩ := bind_ok h
  obtain ⟨withRoles, hroles, h⟩ := bind_ok h
  cases h
  have hfirst : SoundRoles rules withPermissions :=
    foldlM_invariant (fun _ _ _ _ hstep hsound => hsound.ensureDefaultPermission hstep) hpermissions
      hsound
  have hsecond : SoundRoles rules withRoles :=
    foldlM_invariant (fun _ _ hmem _ hstep hsound => hsound.ensureDefaultRole hmem hstep) hroles
      hfirst
  exact hsecond.ensureRolePermissions

/-! ## Roles of users change -/

theorem withFewerRoles (hsound : SoundRoles rules store) {keep : UserRoleBinding → Bool}
    (hadmin : ∀ userId ∈ store.users.ids, "admin" ∈ rolesOf store userId →
      NamesSeparated rules
        (rolesOf { store with userRoles := store.userRoles.filter keep } userId)) :
    SoundRoles rules { store with userRoles := store.userRoles.filter keep } := by
  have hsub : ∀ userId,
      rolesOf { store with userRoles := store.userRoles.filter keep } userId ⊆
        rolesOf store userId := by
    intro userId name hname
    obtain ⟨role, hrole, hbinding, hname⟩ := mem_rolesOf.mp hname
    exact mem_rolesOf.mpr ⟨role, hrole, (Table.mem_filter.mp hbinding).1, hname⟩
  refine ⟨hsound.names, fun binding hbinding => hsound.users binding (Table.mem_filter.mp hbinding).1,
    fun binding hbinding => hsound.roles binding (Table.mem_filter.mp hbinding).1, hsound.grants, ?_⟩
  intro userId huser
  by_cases hmem : "admin" ∈ rolesOf store userId
  · exact hadmin userId huser hmem
  · exact (hsound.separated userId huser).subset (hsub userId) fun h => absurd h hmem

theorem revoked {caller : AuthCaller} {userId roleName : String} {binding : UserRoleBinding}
    (hsound : SoundRoles rules store)
    (hkeeps : caller.userSession.hasPermission "auth.manage" = true →
      lower (strip roleName) = "admin" →
        findConflicts rules (((getUserRoleNames store userId).filter
          (· ≠ "admin")).flatMap permissionsOfRole) = [])
    (h : checkRevocation caller userId roleName store = .ok binding) :
    SoundRoles rules
      { store with userRoles := store.userRoles.filter fun row => row ≠ binding } := by
  obtain ⟨_, hallowed, h⟩ := bind_ok h
  obtain ⟨user, huser, h⟩ := bind_ok h
  obtain ⟨role, hrole, h⟩ := bind_ok h
  cases h
  have huserId := (Table.get?_eq_some_iff.mp (require_eq_ok.mp huser)).2
  obtain ⟨hmem, hname⟩ := requireRoleByName_spec hrole
  refine hsound.withFewerRoles fun holder hholder hadmin => ?_
  obtain ⟨adminRole, hadminRole, hbinding, hadminName⟩ := mem_rolesOf.mp hadmin
  by_cases hstill : "admin" ∈ rolesOf
      { store with userRoles := store.userRoles.filter fun row => row ≠ ⟨user.id, role.id⟩ } holder
  · exact Or.inl hstill
  · -- The role of administrators is the one that is revoked.
    have hsame : (⟨holder, adminRole.id⟩ : UserRoleBinding) = ⟨user.id, role.id⟩ := by
      by_contra hother
      exact hstill (mem_rolesOf.mpr ⟨adminRole, hadminRole,
        Table.mem_filter.mpr ⟨hbinding, decide_eq_true hother⟩, hadminName⟩)
    have hholderId : holder = userId := (congrArg UserRoleBinding.userId hsame).trans huserId
    have hrole : adminRole = role :=
      store.roles.eq_of_key_eq hadminRole hmem (congrArg UserRoleBinding.roleId hsame)
    have hconflicts := hkeeps (ensure_eq_ok.mp hallowed)
      (hname.symm.trans ((congrArg Role.name hrole).symm.trans hadminName))
    have hseparated : NamesSeparated rules {name | name ∈ (getUserRoleNames store userId).filter
        (· ≠ "admin")} := Or.inr (findConflicts_eq_nil.mp hconflicts)
    refine hseparated.subset (fun name hleft => ?_) fun hleft => ?_
    · obtain ⟨held, hheld, hlinked, hheldName⟩ := mem_rolesOf.mp hleft
      have hbefore : name ∈ rolesOf store userId := hholderId ▸
        mem_rolesOf.mpr ⟨held, hheld, (Table.mem_filter.mp hlinked).1, hheldName⟩
      exact List.mem_filter.mpr ⟨hbefore, decide_eq_true fun heq => hstill (heq ▸ hleft)⟩
    · exact absurd rfl (of_decide_eq_true (List.mem_filter.mp hleft).2)

theorem withRoles (hsound : SoundRoles rules store) {users : Table UserAccount.id}
    {roles : List Role} {holder : String} (hroles : ∀ role ∈ roles, role ∈ store.roles.rows)
    (hstored : ∀ userId ∈ store.users.ids, userId ∈ users.ids) (hholder : holder ∈ users.ids)
    (hothers : ∀ userId ∈ users.ids, userId = holder ∨ userId ∈ store.users.ids)
    (hnames : NamesSeparated rules
      {name | name ∈ rolesOf store holder ∨ ∃ role ∈ roles, role.name = name}) :
    SoundRoles rules { store with
      users := users
      userRoles := (roles.map fun role => (⟨holder, role.id⟩ : UserRoleBinding)).foldl Table.insert
        store.userRoles } := by
  refine ⟨hsound.names, fun binding hbinding => ?_, fun binding hbinding => ?_, hsound.grants, ?_⟩
  · rcases Table.mem_foldl_insert_id.mp hbinding with hnew | hold
    · obtain ⟨role, -, rfl⟩ := List.mem_map.mp hnew
      exact hholder
    · exact hstored _ (hsound.users binding hold)
  · rcases Table.mem_foldl_insert_id.mp hbinding with hnew | hold
    · obtain ⟨role, hrole, rfl⟩ := List.mem_map.mp hnew
      exact store.roles.mem_ids (hroles role hrole)
    · exact hsound.roles binding hold
  · intro userId huser
    have hiff : ∀ name, name ∈ rolesOf { store with
        users := users
        userRoles := (roles.map fun role => (⟨holder, role.id⟩ : UserRoleBinding)).foldl
          Table.insert store.userRoles } userId ↔
        name ∈ rolesOf store userId ∨ userId = holder ∧ ∃ role ∈ roles, role.name = name := by
      intro name
      rw [mem_rolesOf, mem_rolesOf]
      constructor
      · rintro ⟨role, hrole, hbinding, hname⟩
        rcases Table.mem_foldl_insert_id.mp hbinding with hnew | hold
        · obtain ⟨other, hother, heq⟩ := List.mem_map.mp hnew
          have hid : other.id = role.id := congrArg UserRoleBinding.roleId heq
          have hsame : other = role := store.roles.eq_of_key_eq (hroles other hother) hrole hid
          exact Or.inr ⟨(congrArg UserRoleBinding.userId heq).symm, role, hsame ▸ hother, hname⟩
        · exact Or.inl ⟨role, hrole, hold, hname⟩
      · rintro (⟨role, hrole, hold, hname⟩ | ⟨rfl, role, hrole, hname⟩)
        · exact ⟨role, hrole, Table.mem_foldl_insert_id.mpr (Or.inr hold), hname⟩
        · exact ⟨role, hroles role hrole, Table.mem_foldl_insert_id.mpr
            (Or.inl (List.mem_map.mpr ⟨role, hrole, rfl⟩)), hname⟩
    by_cases hsame : userId = holder
    · subst hsame
      exact hnames.subset (fun name hname => ((hiff name).mp hname).imp_right And.right)
        fun hadmin => (hiff "admin").mpr (hadmin.imp_right fun hrole => ⟨rfl, hrole⟩)
    · have hkept : userId ∈ store.users.ids := (hothers userId huser).resolve_left hsame
      refine (hsound.separated userId hkept).subset (fun name hname => ?_) fun hadmin => ?_
      · exact ((hiff name).mp hname).resolve_right fun hnew => hsame hnew.1
      · exact (hiff "admin").mpr (Or.inl hadmin)

theorem addUser {roleNames : List String} {user : UserAccount} {checked : AuthStore}
    (hsound : SoundRoles rules store)
    (hchecked : enforceSeparationOfDuties rules roleNames checked = .ok ())
    (h : addUser user roleNames store = .ok next) : SoundRoles rules next := by
  obtain ⟨roles, hroles, h⟩ := bind_ok h
  obtain ⟨_, hfresh, h⟩ := bind_ok h
  obtain ⟨_, -, h⟩ := bind_ok h
  cases h
  have hfresh := ensure_eq_ok.mp hfresh
  obtain ⟨hstored, hnames⟩ := mapM_requireRoleByName hroles
  have hinserted : (store.users.insert user).ids = user.id :: store.users.ids := by
    unfold Table.ids
    rw [Table.rows_insert hfresh, List.map_cons]
  have hdefault : ∀ roleName ∈ roleNames, lower (strip roleName) ∈ defaultRoleNames := by
    intro roleName hmem
    have hname : lower (strip roleName) ∈ roles.map Role.name := by
      rw [hnames]
      exact List.mem_map_of_mem hmem
    obtain ⟨role, hrole, hname⟩ := List.mem_map.mp hname
    exact hname ▸ hsound.names role (hstored role hrole)
  have hgiven := namesSeparated_of_enforced hdefault hchecked
  refine hsound.withRoles hstored (fun userId hmem => ?_) ?_ (fun userId hmem => ?_) ?_
  · exact hinserted ▸ List.mem_cons_of_mem _ hmem
  · exact hinserted ▸ List.mem_cons_self
  · rw [hinserted] at hmem
    exact List.mem_cons.mp hmem
  · -- A user who was not stored has no roles yet.
    have hset : {name | name ∈ rolesOf store user.id ∨ ∃ role ∈ roles, role.name = name} =
        {name | ∃ roleName ∈ roleNames, lower (strip roleName) = name} := by
      ext name
      have hlist : (∃ role ∈ roles, role.name = name) ↔
          ∃ roleName ∈ roleNames, lower (strip roleName) = name := by
        rw [← List.mem_map, hnames, List.mem_map]
      constructor
      · rintro (hold | hnew)
        · obtain ⟨role, -, hbinding, -⟩ := mem_rolesOf.mp hold
          exact absurd (hsound.users _ hbinding) hfresh
        · exact hlist.mp hnew
      · exact fun hnew => Or.inr (hlist.mpr hnew)
    rw [hset]
    exact hgiven

theorem assigned {caller : AuthCaller} {userId roleName : String} {binding : UserRoleBinding}
    (hsound : SoundRoles rules store)
    (h : checkAssignment caller rules userId roleName store = .ok binding) :
    SoundRoles rules { store with userRoles := store.userRoles.insert binding } := by
  obtain ⟨_, -, h⟩ := bind_ok h
  obtain ⟨user, huser, h⟩ := bind_ok h
  obtain ⟨_, hchecked, h⟩ := bind_ok h
  obtain ⟨role, hrole, h⟩ := bind_ok h
  cases h
  have hstored := (Table.get?_eq_some_iff.mp (require_eq_ok.mp huser)).1
  obtain ⟨hmem, hname⟩ := requireRoleByName_spec hrole
  have hkept : ∀ name ∈ getUserRoleNames store user.id,
      name ∈ defaultRoleNames ∧ lower (strip name) = name := by
    intro name hname
    obtain ⟨held, hheld, -, rfl⟩ := mem_rolesOf.mp hname
    have hdefault := hsound.names held hheld
    exact ⟨hdefault, (defaultRoleNames_plain _ hdefault).2⟩
  have hgiven : NamesSeparated rules {name | ∃ given ∈ getUserRoleNames store user.id ++ [roleName],
      lower (strip given) = name} := by
    refine namesSeparated_of_enforced (fun given hgiven => ?_) hchecked
    rcases List.mem_append.mp hgiven with hold | hnew
    · rw [(hkept given hold).2]
      exact (hkept given hold).1
    · rw [List.mem_singleton.mp hnew, ← hname]
      exact hsound.names role hmem
  refine @withRoles rules store hsound store.users [role] user.id
    (fun other hother => List.mem_singleton.mp hother ▸ hmem) (fun _ => id)
    (store.users.mem_ids hstored) (fun _ => Or.inr) ?_
  have hset : {name | name ∈ rolesOf store user.id ∨ ∃ held ∈ [role], held.name = name} =
      {name | ∃ given ∈ getUserRoleNames store user.id ++ [roleName],
        lower (strip given) = name} := by
    ext name
    constructor
    · rintro (hold | ⟨held, hheld, rfl⟩)
      · exact ⟨name, List.mem_append_left _ hold, (hkept name hold).2⟩
      · rw [List.mem_singleton.mp hheld]
        exact ⟨roleName, List.mem_append_right _ (List.mem_singleton_self _), hname.symm⟩
    · rintro ⟨given, hgiven, rfl⟩
      rcases List.mem_append.mp hgiven with hold | hnew
      · rw [(hkept given hold).2]
        exact Or.inl hold
      · rw [List.mem_singleton.mp hnew]
        exact Or.inr ⟨role, List.mem_singleton_self _, hname⟩
  rw [hset]
  exact hgiven

/-- Somebody with the role of administrators is exempt. -/
theorem withAdminRole {user : UserAccount} (hsound : SoundRoles rules store)
    (hstored : user ∈ store.users.rows) : SoundRoles rules (store.withAdminRole user) := by
  unfold AuthStore.withAdminRole
  cases hrole : getByName store "admin" with
  | none => exact hsound
  | some role =>
      have hmem := List.mem_of_find?_eq_some hrole
      have hname : role.name = "admin" := by simpa using List.find?_some hrole
      exact @withRoles rules store hsound store.users [role] user.id
        (fun other hother => List.mem_singleton.mp hother ▸ hmem) (fun _ => id)
        (store.users.mem_ids hstored) (fun _ => Or.inr)
        (Or.inl (Or.inr ⟨role, List.mem_singleton_self _, hname⟩))

end SoundRoles

/-! ## Programs -/

section

variable {service : AuthService} {caller : AuthCaller} {rules : List SeparationOfDutiesRule}

/-- A registration was checked before the row of the user is made. -/
theorem registeredUser_enforced {arguments : Registration} {store : AuthStore} {user : UserAccount}
    (h : registeredUser service caller rules arguments store = .ok user) :
    enforceSeparationOfDuties rules arguments.resolvedRoleNames store = .ok () := by
  unfold registeredUser at h
  iterate 7 obtain ⟨_, -, h⟩ := bind_ok h
  obtain ⟨_, hchecked, -⟩ := bind_ok h
  exact hchecked

theorem registerUser_keeps (arguments : Registration) (commits bypassPermission : Bool) :
    (registerUser service caller rules arguments commits bypassPermission).Keeps
      (SoundRoles rules) := by
  unfold registerUser
  refine keeps_read.bind fun _ => keeps_read_bind fun user checked _ hchecked => ?_
  refine (Keeps.rollingBack ?_).bind fun _ => keeps_pure
  refine (keeps_write fun store next hsound hnext => ?_).bind fun _ => ?_
  · have henforced := registeredUser_enforced hchecked
    exact hsound.addUser henforced hnext
  · split
    · exact keeps_commit
    · exact keeps_pure

theorem bootstrapDefaults_keeps (start : BootstrapStart) :
    (bootstrapDefaults service caller rules start).Keeps (SoundRoles rules) := by
  have hseeded : (write (seedDefaults start.ids)).Keeps (SoundRoles rules) :=
    keeps_write fun _ _ hsound hnext => hsound.seedDefaults hnext
  unfold bootstrapDefaults
  refine hseeded.rollingBack.bind fun _ session hsession => ?_
  rw [spec_bind, spec_read_total]
  cases hfound : getByUsername session.pending start.username with
  | none =>
      refine Keeps.bind keeps_read (fun rawPassword => ?_) session hsession
      exact (registerUser_keeps _ false true).bind fun _ => keeps_commit.bind fun _ => keeps_pure
  | some admin =>
      have hstored := List.mem_of_find?_eq_some hfound
      exact Session.both_clean.mpr (hsession.2.withAdminRole hstored)

theorem assignRole_keeps (userId roleName : String) :
    (assignRole caller rules userId roleName).Keeps (SoundRoles rules) := by
  intro session hsession
  unfold assignRole
  rw [spec_bind]
  cases hchecked : checkAssignment caller rules userId roleName session.pending with
  | error e =>
      rw [spec_read_of_error hchecked]
      exact hsession
  | ok binding =>
      rw [spec_read_of_ok hchecked, spec_bind, spec_read_total]
      split
      · exact hsession
      · exact Session.both_clean.mpr (hsession.2.assigned hchecked)

end

/-! ## Calls -/

inductive RoleCall
  | bootstrapDefaults (start : BootstrapStart)
  | registerUser (arguments : Registration) (commits bypassPermission : Bool)
  | assignRole (userId roleName : String)
  | revokeRole (userId roleName : String)

namespace RoleCall

def program (service : AuthService) (caller : AuthCaller) (rules : List SeparationOfDutiesRule) :
    RoleCall → AuthProgram Unit
  | .bootstrapDefaults start => do
      let _ ← ProjectManager.bootstrapDefaults service caller rules start
  | .registerUser arguments commits bypassPermission => do
      let _ ← ProjectManager.registerUser service caller rules arguments commits bypassPermission
  | .assignRole userId roleName => ProjectManager.assignRole caller rules userId roleName
  | .revokeRole userId roleName => ProjectManager.revokeRole caller userId roleName

def run (service : AuthService) (rules : List SeparationOfDutiesRule)
    (call : AuthCaller × RoleCall) (session : Session AuthStore) : Outcome DomainError AuthStore :=
  (call.2.program service call.1 rules).outcome session

/-- A manager who takes the role of administrators from a user leaves the user with roles that do
not conflict. -/
def KeepsDuties (rules : List SeparationOfDutiesRule) (session : Session AuthStore)
    (call : AuthCaller × RoleCall) : Prop :=
  match call.2 with
  | .revokeRole userId roleName =>
      call.1.userSession.hasPermission "auth.manage" = true → lower (strip roleName) = "admin" →
        findConflicts rules (((getUserRoleNames session.pending userId).filter
          (· ≠ "admin")).flatMap permissionsOfRole) = []
  | _ => True

instance (rules : List SeparationOfDutiesRule) (session : Session AuthStore)
    (call : AuthCaller × RoleCall) : Decidable (KeepsDuties rules session call) := by
  unfold KeepsDuties
  split <;> infer_instance

end RoleCall

theorem revokeRole_keeps {caller : AuthCaller} {rules : List SeparationOfDutiesRule}
    {session : Session AuthStore} {userId roleName : String}
    (hkeeps : RoleCall.KeepsDuties rules session (caller, .revokeRole userId roleName))
    (hsession : session.Both (SoundRoles rules)) :
    (revokeRole caller userId roleName).Spec session
      (fun _ next => next.Both (SoundRoles rules)) fun _ next => next.Both (SoundRoles rules) := by
  unfold revokeRole
  rw [spec_bind]
  cases hchecked : checkRevocation caller userId roleName session.pending with
  | error e =>
      rw [spec_read_of_error hchecked]
      exact hsession
  | ok binding =>
      rw [spec_read_of_ok hchecked]
      exact Session.both_clean.mpr (hsession.2.revoked hkeeps hchecked)

theorem RoleCall.run_keeps {service : AuthService} {rules : List SeparationOfDutiesRule}
    (session : Session AuthStore) (call : AuthCaller × RoleCall)
    (hkeeps : KeepsDuties rules session call) (hsession : session.Both (SoundRoles rules)) :
    (run service rules call session).2.Both (SoundRoles rules) := by
  obtain ⟨caller, call⟩ := call
  cases call with
  | bootstrapDefaults start =>
      exact ((bootstrapDefaults_keeps start).bind fun _ => keeps_pure).outcome hsession
  | registerUser arguments commits bypassPermission =>
      exact ((registerUser_keeps arguments commits bypassPermission).bind
        fun _ => keeps_pure).outcome hsession
  | assignRole userId roleName => exact (assignRole_keeps userId roleName).outcome hsession
  | revokeRole userId roleName => exact (revokeRole_keeps hkeeps hsession).outcome_snd

/-- In every run that starts with sound roles, and that leaves nobody whose role of administrators
is taken with roles that conflict, the duties are separated after every call. -/
theorem roleRun_dutiesSeparated (service : AuthService) (rules : List SeparationOfDutiesRule)
    (calls : List (AuthCaller × RoleCall)) (start : AuthStore) (hstart : SoundRoles rules start)
    (hkeeps : EachCall (RoleCall.run service rules) (RoleCall.KeepsDuties rules) (.clean start)
      calls) :
    (sessionAfter (RoleCall.run service rules) (.clean start) calls).Both
      (DutiesSeparated rules) := by
  have hsound := sessionAfter_invariant RoleCall.run_keeps calls hkeeps
    (Session.both_clean.mpr hstart)
  exact ⟨hsound.1.dutiesSeparated, hsound.2.dutiesSeparated⟩

/-! ## An office that forgets a conflict -/

def seedIds : SeedIds where
  permissionId code := code
  roleId roleName := roleName

def firstStart : AuthCaller × RoleCall :=
  (signedOut 0, .bootstrapDefaults
    { adminPassword := some "ChangeMe123!"
      ids := seedIds
      userId := "user1"
      userId_ne := administrator.id_ne
      salt := [7] })

def registeredDeputy (roleNames : List String) : AuthCaller × RoleCall :=
  (⟨.admin, (signedOut 1).now⟩, .registerUser
    { username := "deputy"
      rawPassword := "ChangeMe123!"
      roleNames := roleNames
      userId := "user2"
      userId_ne := by decide
      salt := [8] } true false)

def managed (call : RoleCall) : AuthCaller × RoleCall := (⟨.admin, (signedOut 2).now⟩, call)

/-- A planner is made an administrator for a while. -/
def deputyOffice : List (AuthCaller × RoleCall) :=
  [firstStart, registeredDeputy ["Planner"], managed (.assignRole "user2" "approver"),
    managed (.assignRole "user2" "admin"), managed (.revokeRole "user2" "admin")]

theorem roleRun_dutiesSeparated_deputyOffice :
    (sessionAfter (RoleCall.run plainAuth defaultSeparationOfDutiesRules) (.clean {})
      deputyOffice).Both (DutiesSeparated defaultSeparationOfDutiesRules) :=
  roleRun_dutiesSeparated plainAuth defaultSeparationOfDutiesRules deputyOffice {} soundRoles_empty
    (by decide +kernel)

/-- While administrator, the planner is made an approver too. -/
def forgottenOffice : List (AuthCaller × RoleCall) :=
  [firstStart, registeredDeputy ["planner"], managed (.assignRole "user2" "admin"),
    managed (.assignRole "user2" "approver"), managed (.revokeRole "user2" "admin")]

theorem not_dutiesSeparated_forgottenOffice :
    ¬ DutiesSeparated defaultSeparationOfDutiesRules
      (sessionAfter (RoleCall.run plainAuth defaultSeparationOfDutiesRules) (.clean {})
        forgottenOffice).committed := by
  decide +kernel

end ProjectManager
