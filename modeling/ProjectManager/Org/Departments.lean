import ProjectManager.Foundation.Hierarchies
import ProjectManager.Domain.Checks

/-! # Departments

A department may have a parent in its organization. An update refuses the department
itself as its parent, and looks no further up.
-/

namespace ProjectManager.Org

open Foundation

structure Department where
  id : String
  organizationId : String
  departmentCode : String
  name : String
  description : String := ""
  siteId : Option String := none
  defaultLocationId : Option String := none
  parentDepartmentId : Option String := none
  departmentType : String := ""
  costCenterCode : String := ""
  managerEmployeeId : Option String := none
  isActive : Bool := true
  notes : String := ""
  version : ℕ := 1
  deriving DecidableEq

abbrev DepartmentStore := Table Department.id

/-- What a location tells about itself to others. -/
structure LocationReference where
  organizationId : String
  siteId : String

/-- What the service of departments looks up elsewhere, as far as the repositories are there. -/
structure DepartmentServices where
  userSession : AuthorizationEngine
  activeOrganization : Option String
  siteOrganization : Option (String → Option String)
  employeeExists : Option (String → Bool)
  locationReference : Option (String → Option LocationReference)

namespace DepartmentServices

variable (services : DepartmentServices)

def organization : Except DomainError String :=
  require services.activeOrganization
    (notFoundError "Active organization not found." "ORGANIZATION_NOT_FOUND")

section

variable (organization : String)

def validateSiteId (siteId : Option String) : Except DomainError (Option String) :=
  match normalizeReference siteId, services.siteOrganization with
  | some normalized, some organizationOf => do
      ensure (organizationOf normalized = some organization)
        (validationError "Department site must belong to the active organization."
          "DEPARTMENT_SITE_INVALID")
      return some normalized
  | normalized, _ => .ok normalized

def validateManagerEmployeeId (managerEmployeeId : Option String) :
    Except DomainError (Option String) :=
  match normalizeReference managerEmployeeId, services.employeeExists with
  | some normalized, some isEmployee => do
      ensure (isEmployee normalized = true)
        (validationError "Department manager employee does not exist."
          "DEPARTMENT_MANAGER_INVALID")
      return some normalized
  | normalized, _ => .ok normalized

def validateDefaultLocationId (siteId defaultLocationId : Option String) :
    Except DomainError (Option String) :=
  match normalizeReference defaultLocationId with
  | none => .ok none
  | some normalized => do
      let locationReference ← require services.locationReference
        (validationError "Maintenance location references are not available in the current runtime."
          "DEPARTMENT_LOCATION_REFERENCE_UNAVAILABLE")
      let location ← require
        ((locationReference normalized).filter fun row => row.organizationId = organization)
        (validationError "Department default location must belong to the active organization."
          "DEPARTMENT_LOCATION_INVALID")
      ensure (∀ site ∈ siteId, location.siteId = site)
        (validationError "Department default location must belong to the selected site."
          "DEPARTMENT_LOCATION_SITE_INVALID")
      return some normalized

end

end DepartmentServices

section

variable (store : DepartmentStore) (organization : String)

def departmentByCode (departmentCode : String) : Option Department :=
  store.rows.find? fun row =>
    row.organizationId = organization ∧ row.departmentCode = departmentCode

def departmentCodeExists : DomainError :=
  validationError "Department code already exists in the active organization."
    "DEPARTMENT_CODE_EXISTS"

/-- A new department has no id to be compared with. -/
def validateParentDepartmentId (currentDepartmentId parentDepartmentId : Option String) :
    Except DomainError (Option String) :=
  match normalizeReference parentDepartmentId with
  | none => .ok none
  | some normalized => do
      ensure (currentDepartmentId ≠ some normalized)
        (validationError "Department cannot be its own parent." "DEPARTMENT_PARENT_INVALID")
      let _ ← require
        ((store.get? normalized).filter fun row => row.organizationId = organization)
        (validationError "Parent department must belong to the active organization."
          "DEPARTMENT_PARENT_INVALID")
      return some normalized

end

/-- A display name that is given counts instead of the name. -/
def resolveName (name displayName : Option String) : Except DomainError String :=
  normalizeName ((displayName.or name).getD "") "Department name"

structure CreateDepartmentArguments where
  departmentId : String
  departmentCode : String
  name : Option String := none
  displayName : Option String := none
  description : String := ""
  siteId : Option String := none
  defaultLocationId : Option String := none
  parentDepartmentId : Option String := none
  departmentType : String := ""
  costCenterCode : String := ""
  managerEmployeeId : Option String := none
  isActive : Bool := true
  notes : String := ""

structure UpdateDepartmentArguments where
  departmentId : String
  departmentCode : Option String := none
  name : Option String := none
  displayName : Option String := none
  description : Option String := none
  siteId : Option String := none
  defaultLocationId : Option String := none
  parentDepartmentId : Option String := none
  departmentType : Option String := none
  costCenterCode : Option String := none
  managerEmployeeId : Option String := none
  isActive : Option Bool := none
  notes : Option String := none
  expectedVersion : Option ℕ := none

section

variable (services : DepartmentServices) (store : DepartmentStore)

def newDepartment (arguments : CreateDepartmentArguments) : Except DomainError Department := do
  services.userSession.requirePermission "settings.manage" "create department"
  let organization ← services.organization
  let departmentCode ← normalizeCode arguments.departmentCode "Department code"
  let name ← resolveName arguments.name arguments.displayName
  ensure (departmentByCode store organization departmentCode = none) departmentCodeExists
  let siteId ← services.validateSiteId organization arguments.siteId
  let defaultLocationId ← services.validateDefaultLocationId organization siteId
    arguments.defaultLocationId
  let parentDepartmentId ← validateParentDepartmentId store organization none
    arguments.parentDepartmentId
  let managerEmployeeId ← services.validateManagerEmployeeId arguments.managerEmployeeId
  return {
    id := arguments.departmentId
    organizationId := organization
    departmentCode := departmentCode
    name := name
    description := strip arguments.description
    siteId := siteId
    defaultLocationId := defaultLocationId
    parentDepartmentId := parentDepartmentId
    departmentType := strip arguments.departmentType
    costCenterCode := upper (strip arguments.costCenterCode)
    managerEmployeeId := managerEmployeeId
    isActive := arguments.isActive
    notes := strip arguments.notes }

def createDepartment (arguments : CreateDepartmentArguments) :
    Except DomainError DepartmentStore := do
  let department ← newDepartment services store arguments
  ensure (department.id ∉ store.ids) departmentCodeExists
  return store.insert department

def changedDepartment (organization : String) (stored : Department)
    (arguments : UpdateDepartmentArguments) : Except DomainError Department := do
  let departmentCode ← givenOr arguments.departmentCode stored.departmentCode fun given => do
    let normalized ← normalizeCode given "Department code"
    ensure (∀ existing ∈ departmentByCode store organization normalized, existing.id = stored.id)
      departmentCodeExists
    return normalized
  let name ← givenOr (arguments.displayName.or arguments.name) stored.name fun _ =>
    resolveName arguments.name arguments.displayName
  let siteId ← givenOr arguments.siteId stored.siteId fun given =>
    services.validateSiteId organization (some given)
  let defaultLocationId ← services.validateDefaultLocationId organization siteId
    (arguments.defaultLocationId.or stored.defaultLocationId)
  let parentDepartmentId ← givenOr arguments.parentDepartmentId stored.parentDepartmentId
    fun given => validateParentDepartmentId store organization (some stored.id) (some given)
  let managerEmployeeId ← givenOr arguments.managerEmployeeId stored.managerEmployeeId
    fun given => services.validateManagerEmployeeId (some given)
  return {
    stored with
    departmentCode := departmentCode
    name := name
    description := arguments.description.elim stored.description strip
    siteId := siteId
    defaultLocationId := defaultLocationId
    parentDepartmentId := parentDepartmentId
    departmentType := arguments.departmentType.elim stored.departmentType strip
    costCenterCode := arguments.costCenterCode.elim stored.costCenterCode fun given =>
      upper (strip given)
    managerEmployeeId := managerEmployeeId
    isActive := arguments.isActive.getD stored.isActive
    notes := arguments.notes.elim stored.notes strip
    version := stored.version + 1 }

def storedDepartment (organization departmentId : String) : Except DomainError Department :=
  require ((store.get? departmentId).filter fun row => row.organizationId = organization)
    (notFoundError "Department not found in the active organization." "DEPARTMENT_NOT_FOUND")

def updateDepartment (arguments : UpdateDepartmentArguments) :
    Except DomainError DepartmentStore := do
  services.userSession.requirePermission "settings.manage" "update department"
  let organization ← services.organization
  let stored ← storedDepartment store organization arguments.departmentId
  ensure (∀ version ∈ arguments.expectedVersion, stored.version = version) (staleWrite "Department")
  let department ← changedDepartment services store organization stored arguments
  return store.update department

end

/-! ## What the calls do -/

section

variable {services : DepartmentServices} {store next : DepartmentStore} {organization : String}

theorem validateParentDepartmentId_eq_ok {current given parent : Option String}
    (h : validateParentDepartmentId store organization current given = .ok parent) :
    parent = normalizeReference given ∧ ∀ above ∈ parent, above ∈ store.ids := by
  unfold validateParentDepartmentId at h
  split at h
  next hnone =>
    cases h
    exact ⟨hnone.symm, fun _ habove => nomatch habove⟩
  next normalized hsome =>
    obtain ⟨_, _, h⟩ := bind_ok h
    obtain ⟨stored, hstored, h⟩ := bind_ok h
    cases h
    obtain ⟨hfound, _⟩ := Option.filter_eq_some_iff.mp (require_eq_ok.mp hstored)
    obtain ⟨hmem, hid⟩ := Table.get?_eq_some_iff.mp hfound
    refine ⟨hsome.symm, fun above habove => ?_⟩
    cases habove
    exact hid ▸ store.mem_ids hmem

theorem createDepartment_hierarchy {arguments : CreateDepartmentArguments}
    (h : store.Hierarchy Department.parentDepartmentId)
    (hcall : createDepartment services store arguments = .ok next) :
    next.Hierarchy Department.parentDepartmentId := by
  obtain ⟨department, hdepartment, hcall⟩ := bind_ok hcall
  obtain ⟨_, hfresh, hcall⟩ := bind_ok hcall
  cases hcall
  refine h.insert (ensure_eq_ok.mp hfresh) ?_
  unfold newDepartment at hdepartment
  iterate 7 obtain ⟨_, _, hdepartment⟩ := bind_ok hdepartment
  obtain ⟨_, hparent, hdepartment⟩ := bind_ok hdepartment
  obtain ⟨_, _, hdepartment⟩ := bind_ok hdepartment
  cases hdepartment
  exact (validateParentDepartmentId_eq_ok hparent).2

def UpdateDepartmentArguments.parent (arguments : UpdateDepartmentArguments) :
    Option (Option String) :=
  arguments.parentDepartmentId.map fun given => normalizeReference (some given)

theorem changedDepartment_parent {stored department : Department}
    {arguments : UpdateDepartmentArguments}
    (h : changedDepartment services store organization stored arguments = .ok department) :
    department.id = stored.id ∧
      department.parentDepartmentId = arguments.parent.getD stored.parentDepartmentId ∧
      ∀ above, arguments.parent = some (some above) → above ∈ store.ids := by
  unfold changedDepartment at h
  iterate 4 obtain ⟨_, _, h⟩ := bind_ok h
  obtain ⟨parent, hparent, h⟩ := bind_ok h
  obtain ⟨_, _, h⟩ := bind_ok h
  cases h
  refine ⟨rfl, ?_⟩
  unfold UpdateDepartmentArguments.parent
  cases hgiven : arguments.parentDepartmentId with
  | none =>
      rw [hgiven, givenOr_none] at hparent
      exact ⟨(Except.ok.inj hparent).symm, fun _ heq => nomatch heq⟩
  | some given =>
      rw [hgiven, givenOr_some] at hparent
      obtain ⟨hnormalized, hstored⟩ := validateParentDepartmentId_eq_ok hparent
      rw [Option.map_some, Option.getD_some]
      exact ⟨hnormalized, fun above heq =>
        hstored above (hnormalized.trans (Option.some.inj heq))⟩

theorem updateDepartment_hierarchy {arguments : UpdateDepartmentArguments}
    (h : store.Hierarchy Department.parentDepartmentId)
    (hcall : updateDepartment services store arguments = .ok next) :
    next.Hierarchy Department.parentDepartmentId ↔
      store.NotBelow Department.parentDepartmentId arguments.departmentId arguments.parent := by
  obtain ⟨_, _, hcall⟩ := bind_ok hcall
  obtain ⟨organization, _, hcall⟩ := bind_ok hcall
  obtain ⟨stored, hstored, hcall⟩ := bind_ok hcall
  obtain ⟨_, _, hcall⟩ := bind_ok hcall
  obtain ⟨department, hchanged, hcall⟩ := bind_ok hcall
  cases hcall
  obtain ⟨hid, hparent, hgiven⟩ := changedDepartment_parent hchanged
  obtain ⟨hfound, _⟩ := Option.filter_eq_some_iff.mp (require_eq_ok.mp hstored)
  have hkey : department.id = arguments.departmentId :=
    hid.trans (Table.get?_eq_some_iff.mp hfound).2
  rw [← hkey] at hfound ⊢
  exact h.update_given_iff hfound hparent hgiven

end

end ProjectManager.Org
