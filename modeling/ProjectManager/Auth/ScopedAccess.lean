import ProjectManager.Auth.Contexts
import Mathlib.Data.List.Dedup

/-! # The scoped access of a principal

The grants of a user are merged by scope into the access of the principal, which the
context merges once more. What remains is what the grants give: a code in a scope comes
from some grant there, and a type without rows is one without a grant that can be used.
-/

namespace ProjectManager

open Foundation

theorem mem_normalizePermissionSet {values : List String} {code : String} :
    code ∈ normalizePermissionSet values ↔ code ≠ "" ∧ ∃ value ∈ values, strip value = code := by
  unfold normalizePermissionSet
  rw [List.mem_dedup, List.mem_filter, List.mem_map, decide_eq_true_iff, and_comm]

theorem strip_of_mem_normalizePermissionSet {values : List String} {code : String}
    (h : code ∈ normalizePermissionSet values) : strip code = code := by
  obtain ⟨_, value, _, rfl⟩ := mem_normalizePermissionSet.mp h
  exact strip_strip value

/-! ## Entries by key -/

section

variable {β : Type} {entries : List (String × β)} {key other : String} {value : β}

theorem lookup_cons_ne (h : other ≠ key) : ((key, value) :: entries).lookup other =
    entries.lookup other := by
  rw [List.lookup_cons, beq_false_of_ne h]

theorem lookup_replaced_self (h : key ∈ entries.map Prod.fst) :
    (entries.map fun entry => if entry.1 = key then (key, value) else entry).lookup key =
      some value := by
  induction entries with
  | nil => cases h
  | cons entry rest ih =>
      rw [List.map_cons]
      split
      · exact List.lookup_cons_self
      next hne =>
        rw [lookup_cons_ne (Ne.symm hne)]
        exact ih ((List.mem_cons.mp h).resolve_left (Ne.symm hne))

theorem lookup_replaced_of_ne (h : other ≠ key) :
    (entries.map fun entry => if entry.1 = key then (key, value) else entry).lookup other =
      entries.lookup other := by
  induction entries with
  | nil => rfl
  | cons entry rest ih =>
      rw [List.map_cons]
      split
      next heq =>
        rw [lookup_cons_ne h, lookup_cons_ne (heq ▸ h)]
        exact ih
      · rw [List.lookup_cons, List.lookup_cons, ih]

theorem lookup_setEntry : (setEntry entries key value).lookup other =
    if other = key then some value else entries.lookup other := by
  unfold setEntry
  split
  next hmem =>
    split
    next hsame =>
      rw [hsame]
      exact lookup_replaced_self hmem
    next hother => exact lookup_replaced_of_ne hother
  next hmem =>
    rw [List.lookup_append]
    split
    next hsame =>
      have hnone : entries.lookup other = none := by
        rw [List.lookup_eq_none_iff]
        intro entry hentry
        exact bne_iff_ne.mpr fun heq => hmem (List.mem_map.mpr ⟨entry, hentry, heq ▸ hsame⟩)
      rw [hnone, hsame]
      exact List.lookup_cons_self
    next hother =>
      rw [lookup_cons_ne hother]
      exact Option.or_none

theorem nodup_setEntry (h : (entries.map Prod.fst).Nodup) :
    ((setEntry entries key value).map Prod.fst).Nodup := by
  unfold setEntry
  split
  · have hkeys : (entries.map fun entry => if entry.1 = key then (key, value) else entry).map
        Prod.fst = entries.map Prod.fst := by
      rw [List.map_map]
      apply List.map_congr_left
      intro entry _
      by_cases heq : entry.1 = key
      · simp [heq]
      · simp [heq]
    rwa [hkeys]
  next hmem =>
    rw [List.map_append, List.nodup_append]
    refine ⟨h, List.nodup_singleton key, ?_⟩
    intro name hname given hgiven
    obtain rfl := List.mem_singleton.mp hgiven
    rintro rfl
    exact hmem hname

theorem mem_setEntry {entry : String × β} (h : entry ∈ setEntry entries key value) :
    entry ∈ entries ∨ entry = (key, value) := by
  unfold setEntry at h
  split at h
  · obtain ⟨stored, hstored, rfl⟩ := List.mem_map.mp h
    split
    · exact Or.inr rfl
    · exact Or.inl hstored
  · rcases List.mem_append.mp h with hold | hnew
    · exact Or.inl hold
    · exact Or.inr (List.mem_singleton.mp hnew)

theorem lookup_of_mem (hkeys : (entries.map Prod.fst).Nodup) (h : (key, value) ∈ entries) :
    entries.lookup key = some value := by
  induction entries with
  | nil => cases h
  | cons entry rest ih =>
      rw [List.map_cons, List.nodup_cons] at hkeys
      rcases List.mem_cons.mp h with rfl | hrest
      · simp
      · have hne : key ≠ entry.1 := by
          rintro rfl
          exact hkeys.1 (List.mem_map.mpr ⟨_, hrest, rfl⟩)
        rw [← ih hkeys.2 hrest, List.lookup_cons, beq_false_of_ne hne]

theorem mem_of_lookup (h : entries.lookup key = some value) : (key, value) ∈ entries := by
  obtain ⟨before, after, rfl, -⟩ := List.lookup_eq_some_iff.mp h
  exact List.mem_append_right before List.mem_cons_self

end

/-! ## Merged access -/

def codesIn (access : ScopedAccess) (scopeType scopeId : String) : List String :=
  (((access.lookup scopeType).getD []).lookup scopeId).getD []

/-- The code that permissions in a scope come to, under the type and the id that are looked up. -/
structure Gives (scopeType scopeId : String) (permissions : List String)
    (normalType normalId code : String) : Prop where
  scopeType : normalType = lower (strip scopeType)
  scopeId : normalId = strip scopeId
  type_ne : normalType ≠ ""
  id_ne : normalId ≠ ""
  code : code ∈ normalizePermissionSet permissions

section

variable {access : ScopedAccess} {scopeType scopeId normalType normalId code : String}
  {permissions : List String}

theorem mem_codesIn_mergeScope :
    code ∈ codesIn (mergeScope access scopeType scopeId permissions) normalType normalId ↔
      code ∈ codesIn access normalType normalId ∨
        Gives scopeType scopeId permissions normalType normalId code := by
  unfold mergeScope
  simp only
  split
  next hskipped =>
    refine ⟨Or.inl, fun h => h.resolve_right ?_⟩
    rintro ⟨rfl, rfl, htype, hid, hcode⟩
    rcases hskipped with hskipped | hskipped | hskipped
    · exact htype hskipped
    · exact hid hskipped
    · rw [hskipped] at hcode
      cases hcode
  next hkept =>
    push Not at hkept
    unfold codesIn
    rw [lookup_setEntry]
    split
    next htype =>
      subst htype
      rw [Option.getD_some, lookup_setEntry]
      split
      next hid =>
        subst hid
        rw [Option.getD_some, List.mem_union_iff]
        exact or_congr_right ⟨fun hcode => ⟨rfl, rfl, hkept.1, hkept.2.1, hcode⟩, Gives.code⟩
      next hid => exact ⟨Or.inl, fun h => h.resolve_right fun hgives => hid hgives.scopeId⟩
    next htype => exact ⟨Or.inl, fun h => h.resolve_right fun hgives => htype hgives.scopeType⟩

theorem mem_codesIn_foldl {κ : Type} {step : ScopedAccess → κ → ScopedAccess} {gives : κ → Prop}
    (hstep : ∀ access item, code ∈ codesIn (step access item) normalType normalId ↔
      code ∈ codesIn access normalType normalId ∨ gives item) (items : List κ) :
    ∀ access, code ∈ codesIn (items.foldl step access) normalType normalId ↔
      code ∈ codesIn access normalType normalId ∨ ∃ item ∈ items, gives item := by
  induction items with
  | nil => simp
  | cons item rest ih =>
      intro access
      rw [List.foldl_cons, ih, hstep, or_assoc]
      exact or_congr_right (List.exists_mem_cons_iff gives item rest).symm

theorem mem_codesIn_foldl_mergeScope {κ : Type} (typeOf idOf : κ → String)
    (codesOf : κ → List String) (items : List κ) (access : ScopedAccess) :
    code ∈ codesIn (items.foldl (fun access item =>
        mergeScope access (typeOf item) (idOf item) (codesOf item)) access) normalType normalId ↔
      code ∈ codesIn access normalType normalId ∨
        ∃ item ∈ items, Gives (typeOf item) (idOf item) (codesOf item) normalType normalId code := by
  have hstep : ∀ access item, code ∈ codesIn (mergeScope access (typeOf item) (idOf item)
      (codesOf item)) normalType normalId ↔ code ∈ codesIn access normalType normalId ∨
        Gives (typeOf item) (idOf item) (codesOf item) normalType normalId code :=
    fun _ _ => mem_codesIn_mergeScope
  exact mem_codesIn_foldl hstep items access

/-- What the merging keeps: one entry for each key, and a code below every type. -/
structure MergedAccess (access : ScopedAccess) : Prop where
  types : (access.map Prod.fst).Nodup
  scopes : ∀ scope ∈ access, (scope.2.map Prod.fst).Nodup
  inhabited : ∀ scope ∈ access, ∃ scopeId code, code ∈ (scope.2.lookup scopeId).getD []

theorem mergedAccess_nil : MergedAccess [] :=
  ⟨List.nodup_nil, fun _ h => (nomatch h), fun _ h => (nomatch h)⟩

namespace MergedAccess

theorem rows (h : MergedAccess access) :
    (((access.lookup scopeType).getD []).map Prod.fst).Nodup := by
  cases hrows : access.lookup scopeType with
  | none => exact List.nodup_nil
  | some rows => exact h.scopes _ (mem_of_lookup hrows)

theorem mergeScope (h : MergedAccess access) :
    MergedAccess (mergeScope access scopeType scopeId permissions) := by
  unfold ProjectManager.mergeScope
  simp only
  split
  · exact h
  next hkept =>
    push Not at hkept
    refine ⟨nodup_setEntry h.types, fun scope hscope => ?_, fun scope hscope => ?_⟩
    · rcases mem_setEntry hscope with hold | rfl
      · exact h.scopes scope hold
      · exact nodup_setEntry h.rows
    · rcases mem_setEntry hscope with hold | rfl
      · exact h.inhabited scope hold
      · obtain ⟨code, hcode⟩ := List.exists_mem_of_ne_nil _ hkept.2.2
        refine ⟨strip scopeId, code, ?_⟩
        rw [lookup_setEntry, if_pos rfl]
        exact List.mem_union_iff.mpr (Or.inr hcode)

theorem foldl {κ : Type} {step : ScopedAccess → κ → ScopedAccess}
    (hstep : ∀ access item, MergedAccess access → MergedAccess (step access item))
    (items : List κ) (h : MergedAccess access) : MergedAccess (items.foldl step access) := by
  induction items generalizing access with
  | nil => exact h
  | cons item rest ih => exact ih (hstep access item h)

theorem codesIn_of_mem (h : MergedAccess access) {scope : String × List (String × List String)}
    {row : String × List String} (hscope : scope ∈ access) (hrow : row ∈ scope.2) :
    codesIn access scope.1 row.1 = row.2 := by
  unfold codesIn
  rw [lookup_of_mem h.types hscope, Option.getD_some, lookup_of_mem (h.scopes scope hscope) hrow,
    Option.getD_some]

theorem rows_eq_nil_iff (h : MergedAccess access) :
    (access.lookup scopeType).getD [] = [] ↔
      ∀ scopeId code, code ∉ codesIn access scopeType scopeId := by
  constructor
  · intro hnil scopeId code hcode
    rw [codesIn, hnil] at hcode
    cases hcode
  · intro hnone
    cases hrows : access.lookup scopeType with
    | none => rfl
    | some rows =>
        obtain ⟨scopeId, code, hcode⟩ := h.inhabited _ (mem_of_lookup hrows)
        refine absurd ?_ (hnone scopeId code)
        rw [codesIn, hrows]
        exact hcode

end MergedAccess

theorem exists_row_of_mem_codesIn (h : code ∈ codesIn access scopeType scopeId) :
    ∃ scope ∈ access, ∃ row ∈ scope.2, scope.1 = scopeType ∧ row.1 = scopeId ∧ code ∈ row.2 := by
  unfold codesIn at h
  cases hrows : access.lookup scopeType with
  | none =>
      rw [hrows] at h
      cases h
  | some rows =>
      rw [hrows, Option.getD_some] at h
      cases hcodes : rows.lookup scopeId with
      | none =>
          rw [hcodes] at h
          cases h
      | some codes =>
          rw [hcodes, Option.getD_some] at h
          exact ⟨_, mem_of_lookup hrows, _, mem_of_lookup hcodes, rfl, rfl, h⟩

/-! ## Merged once more -/

theorem mergedAccess_normalize (access : ScopedAccess) :
    MergedAccess (normalizeScopedAccess access) := by
  unfold normalizeScopedAccess
  refine MergedAccess.foldl (fun _ _ => MergedAccess.mergeScope) _ ?_
  refine MergedAccess.foldl (fun _ _ h => ?_) _ mergedAccess_nil
  exact MergedAccess.foldl (fun _ _ => MergedAccess.mergeScope) _ h

theorem mem_codesIn_normalize :
    code ∈ codesIn (normalizeScopedAccess access) normalType normalId ↔
      ∃ scope ∈ access, ∃ row ∈ scope.2, Gives scope.1 row.1 row.2 normalType normalId code := by
  unfold normalizeScopedAccess
  simp only
  rw [mem_codesIn_foldl_mergeScope (fun _ => "project") Prod.fst Prod.snd, mem_codesIn_foldl
    fun access scope =>
      mem_codesIn_foldl_mergeScope (fun _ => scope.1) Prod.fst Prod.snd scope.2 access]
  constructor
  · rintro ((hempty | hmerged) | hproject)
    · cases hempty
    · exact hmerged
    · -- The second merge finds the projects where the first one did.
      obtain ⟨row, hrow, hgives⟩ := hproject
      cases hrows : access.lookup "project" with
      | none =>
          rw [hrows] at hrow
          cases hrow
      | some rows =>
          rw [hrows] at hrow
          exact ⟨_, mem_of_lookup hrows, row, hrow, hgives⟩
  · exact fun h => Or.inl (Or.inr h)

end

def ScopedAccessGrant.Gives (grant : ScopedAccessGrant) : String → String → String → Prop :=
  ProjectManager.Gives grant.scopeType grant.scopeId grant.permissionCodes

theorem mem_codesIn_grants {grants : List ScopedAccessGrant} {normalType normalId code : String} :
    code ∈ codesIn (normalizeScopedAccess (grants.foldl (fun access grant =>
        mergeScope access grant.scopeType grant.scopeId grant.permissionCodes) []))
        normalType normalId ↔
      ∃ grant ∈ grants, grant.Gives normalType normalId code := by
  have hgrants : ∀ scopeType scopeId given, given ∈ codesIn (grants.foldl (fun access grant =>
      mergeScope access grant.scopeType grant.scopeId grant.permissionCodes) [])
      scopeType scopeId ↔ ∃ grant ∈ grants, grant.Gives scopeType scopeId given := by
    intro scopeType scopeId given
    rw [mem_codesIn_foldl_mergeScope ScopedAccessGrant.scopeType ScopedAccessGrant.scopeId
      ScopedAccessGrant.permissionCodes]
    exact or_iff_right fun hempty => nomatch hempty
  have hmerged : MergedAccess (grants.foldl (fun access grant =>
      mergeScope access grant.scopeType grant.scopeId grant.permissionCodes) []) :=
    MergedAccess.foldl (fun _ _ => MergedAccess.mergeScope) grants mergedAccess_nil
  rw [mem_codesIn_normalize]
  constructor
  · rintro ⟨scope, hscope, row, hrow, htype, hid, hne, hidNe, hcode⟩
    obtain ⟨_, value, hvalue, rfl⟩ := mem_normalizePermissionSet.mp hcode
    rw [← hmerged.codesIn_of_mem hscope hrow] at hvalue
    obtain ⟨grant, hgrant, hgives⟩ := (hgrants _ _ _).mp hvalue
    refine ⟨grant, hgrant, ?_, ?_, hne, hidNe, ?_⟩
    · rw [htype, hgives.scopeType, strip_lower_strip, lower_lower]
    · rw [hid, hgives.scopeId, strip_strip]
    · rw [strip_of_mem_normalizePermissionSet hgives.code]
      exact hgives.code
  · rintro ⟨grant, hgrant, hgives⟩
    obtain ⟨scope, hscope, row, hrow, htype, hid, hcode⟩ :=
      exists_row_of_mem_codesIn ((hgrants _ _ _).mpr ⟨grant, hgrant, hgives⟩)
    have hplain := strip_of_mem_normalizePermissionSet hgives.code
    refine ⟨scope, hscope, row, hrow, ?_, ?_, hgives.type_ne, hgives.id_ne, ?_⟩
    · rw [htype, hgives.scopeType, strip_lower_strip, lower_lower]
    · rw [hid, hgives.scopeId, strip_strip]
    · exact mem_normalizePermissionSet.mpr
        ⟨(mem_normalizePermissionSet.mp hgives.code).1, code, hcode, hplain⟩

/-! ## Rows of a principal -/

section

variable (principal : UserSessionPrincipal) {scopeType scopeId code : String}

theorem hasScopePermission_of_open (hallowed : principal.hasPermission code = true)
    (hopen : principal.isScopeRestricted scopeType ≠ true) :
    principal.hasScopePermission scopeType scopeId code = true := by
  unfold UserSessionPrincipal.isScopeRestricted at hopen
  unfold UserSessionPrincipal.hasScopePermission
  by_cases hadmin : "admin" ∈ principal.roleNames
  · simp [hallowed, hadmin]
  · have hrows : (principal.scopeRows scopeType).isEmpty = true := by
      simpa [hadmin] using hopen
    simp [hallowed, hrows]

theorem hasScopePermission_of_restricted (hallowed : principal.hasPermission code = true)
    (hrestricted : principal.isScopeRestricted scopeType = true) :
    principal.hasScopePermission scopeType scopeId code = true ↔
      code ∈ ((principal.scopeRows scopeType).lookup (strip scopeId)).getD [] := by
  unfold UserSessionPrincipal.isScopeRestricted at hrestricted
  obtain ⟨hadmin, hrows⟩ := Bool.and_eq_true_iff.mp hrestricted
  have hnonempty : (principal.scopeRows scopeType).isEmpty = false := by simpa using hrows
  unfold UserSessionPrincipal.hasScopePermission
  simp only [hallowed, of_decide_eq_true hadmin, hnonempty, Bool.true_and, decide_false,
    Bool.false_or, decide_eq_true_iff]

theorem scopeRows_normalized : principal.normalized.scopeRows scopeType =
    (principal.normalized.scopedAccess.lookup (lower (strip scopeType))).getD [] := by
  unfold UserSessionPrincipal.scopeRows
  simp only
  split
  next hempty =>
    have hnone : (principal.normalized.scopedAccess.lookup "").getD [] = [] := by
      refine (mergedAccess_normalize principal.scopedAccess).rows_eq_nil_iff.mpr ?_
      intro scopeId code hcode
      obtain ⟨_, _, _, _, hgives⟩ := mem_codesIn_normalize.mp hcode
      exact hgives.type_ne rfl
    rw [hempty, hnone]
  next => rfl

theorem mem_scopeIdsFor_normalized : scopeId ∈ principal.normalized.scopeIdsFor scopeType code ↔
    code ∈ ((principal.normalized.scopeRows scopeType).lookup scopeId).getD [] := by
  rw [UserSessionPrincipal.scopeIdsFor, List.mem_map]
  have hkeys : ((principal.normalized.scopeRows scopeType).map Prod.fst).Nodup := by
    rw [scopeRows_normalized]
    exact (mergedAccess_normalize principal.scopedAccess).rows
  constructor
  · rintro ⟨scope, hscope, rfl⟩
    obtain ⟨hscope, hcode⟩ := List.mem_filter.mp hscope
    rw [lookup_of_mem hkeys hscope]
    exact of_decide_eq_true hcode
  · intro hcode
    cases hcodes : (principal.normalized.scopeRows scopeType).lookup scopeId with
    | none =>
        rw [hcodes] at hcode
        cases hcode
    | some codes =>
        rw [hcodes, Option.getD_some] at hcode
        exact ⟨(scopeId, codes), List.mem_filter.mpr ⟨mem_of_lookup hcodes, decide_eq_true hcode⟩,
          rfl⟩

/-- Scope ids are kept stripped, and none is blank. -/
theorem plain_of_mem_scopeIdsFor
    (h : scopeId ∈ principal.normalized.scopeIdsFor scopeType code) :
    strip scopeId = scopeId ∧ scopeId ≠ "" := by
  rw [mem_scopeIdsFor_normalized, scopeRows_normalized] at h
  obtain ⟨_, _, row, _, hgives⟩ := mem_codesIn_normalize.mp h
  exact ⟨hgives.scopeId ▸ strip_strip row.1, hgives.id_ne⟩

end

end ProjectManager
