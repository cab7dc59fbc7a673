import ProjectManager.Foundation.Hierarchies
import ProjectManager.Maintenance.Support

/-! # Locations

A location lies on a site and may have a parent location on the same site. An update
compares the sites when it gives a parent, and not when it moves the location.
-/

namespace ProjectManager.Maintenance

open Foundation

inductive LifecycleStatus
  | draft
  | active
  | inactive
  | retired
  deriving DecidableEq, Repr

inductive Criticality
  | low
  | medium
  | high
  | critical
  deriving DecidableEq, Repr

def LifecycleStatus.value : LifecycleStatus → String
  | .draft => "DRAFT"
  | .active => "ACTIVE"
  | .inactive => "INACTIVE"
  | .retired => "RETIRED"

def Criticality.value : Criticality → String
  | .low => "LOW"
  | .medium => "MEDIUM"
  | .high => "HIGH"
  | .critical => "CRITICAL"

def coerceCriticality : Option (Choice Criticality) → Except DomainError Criticality :=
  coerce [.low, .medium, .high, .critical] Criticality.value "MEDIUM"
    (validationError "Criticality is invalid." "MAINTENANCE_CRITICALITY_INVALID")

/-- A blank status follows from whether the record is active. -/
def coerceLifecycleStatus (isActive : Bool) :
    Option (Choice LifecycleStatus) → Except DomainError LifecycleStatus
  | some (.member chosen) => .ok chosen
  | some (.text raw) =>
      if strip raw = "" then .ok (if isActive then .active else .inactive)
      else
        coerce [.draft, .active, .inactive, .retired] LifecycleStatus.value ""
          (validationError "Maintenance lifecycle status is invalid." "MAINTENANCE_STATUS_INVALID")
          (some (.text raw))
  | none => .ok (if isActive then .active else .inactive)

structure MaintenanceLocation where
  id : String
  organizationId : String
  siteId : String
  locationCode : String
  name : String
  description : String := ""
  parentLocationId : Option String := none
  locationType : String := ""
  criticality : Criticality := .medium
  status : LifecycleStatus := .active
  isActive : Bool := true
  notes : String := ""
  version : ℕ := 1
  deriving DecidableEq

abbrev LocationStore := Table MaintenanceLocation.id

section

variable (store : LocationStore) (organization : String)

def locationByCode (locationCode : String) : Option MaintenanceLocation :=
  store.rows.find? fun row => row.organizationId = organization ∧ row.locationCode = locationCode

def locationCodeExists : DomainError :=
  validationError "Location code already exists in the active organization."
    "MAINTENANCE_LOCATION_CODE_EXISTS"

def siteInOrganization (sites : Table Site.id) (siteId : String) : Except DomainError String := do
  let site ← require ((sites.get? siteId).filter fun row => row.organizationId = organization)
    (notFoundError "Site not found in the active organization." "SITE_NOT_FOUND")
  return site.id

/-- `_resolve_parent`, as far as the id of the parent. -/
def resolveParent (siteId : String) (selfId parentLocationId : Option String) :
    Except DomainError (Option String) :=
  match givenReference parentLocationId with
  | none => .ok none
  | some given => do
      ensure (selfId ≠ some given)
        (businessRuleError "A location cannot be its own parent."
          "MAINTENANCE_LOCATION_PARENT_INVALID")
      let parent ← require ((store.get? given).filter fun row => row.organizationId = organization)
        (notFoundError "Parent maintenance location not found in the active organization."
          "MAINTENANCE_LOCATION_PARENT_NOT_FOUND")
      ensure (parent.siteId = siteId)
        (validationError "Parent maintenance location must belong to the same site."
          "MAINTENANCE_LOCATION_SITE_MISMATCH")
      return some parent.id

end

structure CreateLocationArguments where
  locationId : String
  siteId : String
  locationCode : String
  name : String
  description : String := ""
  parentLocationId : Option String := none
  locationType : String := ""
  criticality : Option (Choice Criticality) := none
  status : Option (Choice LifecycleStatus) := none
  isActive : Bool := true
  notes : String := ""

structure UpdateLocationArguments where
  locationId : String
  siteId : Option String := none
  locationCode : Option String := none
  name : Option String := none
  description : Option String := none
  parentLocationId : Option String := none
  locationType : Option String := none
  criticality : Option (Choice Criticality) := none
  status : Option (Choice LifecycleStatus) := none
  isActive : Option Bool := none
  notes : Option String := none
  expectedVersion : Option ℕ := none

section

variable (services : MaintenanceServices) (sites : Table Site.id) (store : LocationStore)

def newLocation (arguments : CreateLocationArguments) :
    Except DomainError MaintenanceLocation := do
  services.requireManage "create maintenance location"
  let organization ← services.organization
  let siteId ← siteInOrganization organization sites arguments.siteId
  let locationCode ← normalizeMaintenanceCode arguments.locationCode "Location code"
  ensure (locationByCode store organization locationCode = none) locationCodeExists
  let parentLocationId ← resolveParent store organization siteId none arguments.parentLocationId
  let name ← normalizeMaintenanceName arguments.name "Location name"
  let criticality ← coerceCriticality arguments.criticality
  let status ← coerceLifecycleStatus arguments.isActive arguments.status
  return {
    id := arguments.locationId
    organizationId := organization
    siteId := siteId
    locationCode := locationCode
    name := name
    description := strip arguments.description
    parentLocationId := parentLocationId
    locationType := strip arguments.locationType
    criticality := criticality
    status := status
    isActive := arguments.isActive
    notes := strip arguments.notes }

def createLocation (arguments : CreateLocationArguments) : Except DomainError LocationStore := do
  let location ← newLocation services sites store arguments
  services.save locationCodeExists store.ids location.id
  return store.insert location

def readableLocation (locationId : String) : Except DomainError MaintenanceLocation := do
  services.requireRead "view maintenance location"
  let organization ← services.organization
  let location ← require ((store.get? locationId).filter fun row => row.organizationId = organization)
    (notFoundError "Maintenance location not found in the active organization."
      "MAINTENANCE_LOCATION_NOT_FOUND")
  services.userSession.requireScopePermission "maintenance" location.id "maintenance.read"
    "view maintenance location"
  return location

/-- The status is looked at again when it is given and when the activity is. -/
def changedStatus (stored : MaintenanceLocation) (arguments : UpdateLocationArguments) :
    Except DomainError LifecycleStatus :=
  if arguments.status = none ∧ arguments.isActive = none then .ok stored.status
  else coerceLifecycleStatus (arguments.isActive.getD stored.isActive) arguments.status

def changedLocation (organization : String) (stored : MaintenanceLocation)
    (arguments : UpdateLocationArguments) : Except DomainError MaintenanceLocation := do
  let siteId ← givenOr arguments.siteId stored.siteId (siteInOrganization organization sites)
  let locationCode ← givenOr arguments.locationCode stored.locationCode fun given => do
    let normalized ← normalizeMaintenanceCode given "Location code"
    ensure (∀ existing ∈ locationByCode store organization normalized, existing.id = stored.id)
      locationCodeExists
    return normalized
  let name ← givenOr arguments.name stored.name fun given =>
    normalizeMaintenanceName given "Location name"
  let criticality ← givenOr arguments.criticality stored.criticality fun given =>
    coerceCriticality (some given)
  let status ← changedStatus stored arguments
  let parentLocationId ← givenOr arguments.parentLocationId stored.parentLocationId fun given =>
    resolveParent store organization siteId (some stored.id) (some given)
  return {
    stored with
    siteId := siteId
    locationCode := locationCode
    name := name
    description := arguments.description.elim stored.description strip
    parentLocationId := parentLocationId
    locationType := arguments.locationType.elim stored.locationType strip
    criticality := criticality
    status := status
    isActive := arguments.isActive.getD stored.isActive
    notes := arguments.notes.elim stored.notes strip
    version := stored.version + 1 }

def updateLocation (arguments : UpdateLocationArguments) : Except DomainError LocationStore := do
  services.requireManage "update maintenance location"
  let organization ← services.organization
  let stored ← readableLocation services store arguments.locationId
  ensure (∀ version ∈ arguments.expectedVersion, stored.version = version)
    (staleWrite "Maintenance location")
  let location ← changedLocation sites store organization stored arguments
  return store.update location

end

/-! ## What the calls do -/

def OnParentSites (store : LocationStore) : Prop :=
  ∀ row ∈ store.rows, ∀ above ∈ row.parentLocationId,
    ∃ parent, store.get? above = some parent ∧ parent.siteId = row.siteId

section

variable {services : MaintenanceServices} {sites : Table Site.id} {store next : LocationStore}
  {organization : String}

theorem siteInOrganization_eq_ok {given siteId : String}
    (h : siteInOrganization organization sites given = .ok siteId) : siteId = given := by
  obtain ⟨site, hsite, h⟩ := bind_ok h
  cases h
  obtain ⟨hfound, _⟩ := Option.filter_eq_some_iff.mp (require_eq_ok.mp hsite)
  exact (Table.get?_eq_some_iff.mp hfound).2

theorem resolveParent_eq_ok {siteId : String} {selfId given parent : Option String}
    (h : resolveParent store organization siteId selfId given = .ok parent) :
    parent = givenReference given ∧ ∀ above ∈ parent, selfId ≠ some above ∧
      ∃ row, store.get? above = some row ∧ row.siteId = siteId := by
  unfold resolveParent at h
  split at h
  next hnone =>
    cases h
    exact ⟨hnone.symm, fun _ habove => nomatch habove⟩
  next above hsome =>
    obtain ⟨_, hself, h⟩ := bind_ok h
    obtain ⟨row, hrow, h⟩ := bind_ok h
    obtain ⟨_, hsite, h⟩ := bind_ok h
    cases h
    obtain ⟨hfound, _⟩ := Option.filter_eq_some_iff.mp (require_eq_ok.mp hrow)
    obtain ⟨_, rfl⟩ := Table.get?_eq_some_iff.mp hfound
    refine ⟨hsome.symm, fun other hother => ?_⟩
    cases hother
    exact ⟨ensure_eq_ok.mp hself, row, hfound, ensure_eq_ok.mp hsite⟩

theorem newLocation_parent {arguments : CreateLocationArguments} {location : MaintenanceLocation}
    (h : newLocation services sites store arguments = .ok location) :
    ∀ above ∈ location.parentLocationId,
      ∃ row, store.get? above = some row ∧ row.siteId = location.siteId := by
  unfold newLocation at h
  iterate 5 obtain ⟨_, _, h⟩ := bind_ok h
  obtain ⟨_, hparent, h⟩ := bind_ok h
  iterate 3 obtain ⟨_, _, h⟩ := bind_ok h
  cases h
  exact fun above habove => ((resolveParent_eq_ok hparent).2 above habove).2

theorem createLocation_hierarchy {arguments : CreateLocationArguments}
    (h : store.Hierarchy MaintenanceLocation.parentLocationId) (hsites : OnParentSites store)
    (hcall : createLocation services sites store arguments = .ok next) :
    next.Hierarchy MaintenanceLocation.parentLocationId ∧ OnParentSites next := by
  obtain ⟨location, hlocation, hcall⟩ := bind_ok hcall
  obtain ⟨_, hsaved, hcall⟩ := bind_ok hcall
  cases hcall
  obtain ⟨_, hfresh, _⟩ := bind_ok hsaved
  have hfresh : location.id ∉ store.ids := ensure_eq_ok.mp hfresh
  have hparent := newLocation_parent hlocation
  constructor
  · refine h.insert hfresh fun above habove => ?_
    obtain ⟨row, hrow, _⟩ := hparent above habove
    obtain ⟨hmem, rfl⟩ := Table.get?_eq_some_iff.mp hrow
    exact store.mem_ids hmem
  · intro row hrow above habove
    have hold : ∃ parent, store.get? above = some parent ∧ parent.siteId = row.siteId := by
      rcases Table.mem_insert hrow with rfl | hrow
      · exact hparent above habove
      · exact hsites row hrow above habove
    obtain ⟨parent, hfound, hsite⟩ := hold
    refine ⟨parent, ?_, hsite⟩
    -- The parent is stored already, so it is not the new row.
    have hne : above ≠ location.id := by
      rintro rfl
      obtain ⟨hmem, hid⟩ := Table.get?_eq_some_iff.mp hfound
      exact hfresh (hid ▸ store.mem_ids hmem)
    rw [Table.get?_insert_of_ne hne]
    exact hfound

def UpdateLocationArguments.parent (arguments : UpdateLocationArguments) :
    Option (Option String) :=
  arguments.parentLocationId.map fun given => givenReference (some given)

/-- An update that moves a location to another site leaves nothing behind: no location below it, and
no parent that is not given anew. -/
def MovesAlone (store : LocationStore) (arguments : UpdateLocationArguments) : Prop :=
  ∀ stored, store.get? arguments.locationId = some stored →
    ∀ siteId ∈ arguments.siteId, siteId ≠ stored.siteId →
      (∀ row ∈ store.rows, row.parentLocationId ≠ some stored.id) ∧
        (arguments.parent = none → stored.parentLocationId = none)

/-- What an accepted update makes of the stored row. -/
structure MovedLocation (store : LocationStore) (arguments : UpdateLocationArguments)
    (stored location : MaintenanceLocation) : Prop where
  id_eq : location.id = stored.id
  site : location.siteId = arguments.siteId.getD stored.siteId
  parent : location.parentLocationId = arguments.parent.getD stored.parentLocationId
  given : ∀ above, arguments.parent = some (some above) → above ≠ stored.id ∧
    ∃ row, store.get? above = some row ∧ row.siteId = location.siteId

theorem changedLocation_moved {stored location : MaintenanceLocation}
    {arguments : UpdateLocationArguments}
    (h : changedLocation sites store organization stored arguments = .ok location) :
    MovedLocation store arguments stored location := by
  unfold changedLocation at h
  obtain ⟨siteId, hsite, h⟩ := bind_ok h
  iterate 4 obtain ⟨_, _, h⟩ := bind_ok h
  obtain ⟨parent, hparent, h⟩ := bind_ok h
  cases h
  have hplace : siteId = arguments.siteId.getD stored.siteId := by
    cases hgiven : arguments.siteId with
    | none =>
        rw [hgiven] at hsite
        exact (Except.ok.inj hsite).symm
    | some given =>
        rw [hgiven] at hsite
        exact siteInOrganization_eq_ok hsite
  cases hgiven : arguments.parentLocationId with
  | none =>
      rw [hgiven] at hparent
      have hnone : arguments.parent = none := congrArg (Option.map _) hgiven
      refine ⟨rfl, hplace, ?_, fun above heq => ?_⟩
      · rw [hnone]
        exact (Except.ok.inj hparent).symm
      · rw [hnone] at heq
        cases heq
  | some given =>
      rw [hgiven] at hparent
      obtain ⟨hreference, hresolved⟩ := resolveParent_eq_ok hparent
      have hsome : arguments.parent = some parent := by
        rw [hreference]
        exact congrArg (Option.map _) hgiven
      refine ⟨rfl, hplace, ?_, fun above heq => ?_⟩
      · rw [hsome]
        rfl
      · obtain ⟨hself, hrow⟩ := hresolved above (Option.some.inj (hsome.symm.trans heq))
        exact ⟨fun hid => hself (congrArg some hid.symm), hrow⟩

theorem updateLocation_eq_ok {arguments : UpdateLocationArguments}
    (h : updateLocation services sites store arguments = .ok next) :
    ∃ stored location, store.get? arguments.locationId = some stored ∧
      MovedLocation store arguments stored location ∧ next = store.update location := by
  obtain ⟨_, _, h⟩ := bind_ok h
  obtain ⟨organization, _, h⟩ := bind_ok h
  obtain ⟨stored, hstored, h⟩ := bind_ok h
  obtain ⟨_, _, h⟩ := bind_ok h
  obtain ⟨location, hchanged, h⟩ := bind_ok h
  obtain rfl := Except.ok.inj h
  obtain ⟨_, _, hstored⟩ := bind_ok hstored
  obtain ⟨_, _, hstored⟩ := bind_ok hstored
  obtain ⟨found, hfound, hstored⟩ := bind_ok hstored
  obtain ⟨_, _, hstored⟩ := bind_ok hstored
  obtain rfl := Except.ok.inj hstored
  exact ⟨found, location, (Option.filter_eq_some_iff.mp (require_eq_ok.mp hfound)).1,
    changedLocation_moved hchanged, rfl⟩

theorem updateLocation_hierarchy {arguments : UpdateLocationArguments}
    (h : store.Hierarchy MaintenanceLocation.parentLocationId)
    (hcall : updateLocation services sites store arguments = .ok next) :
    next.Hierarchy MaintenanceLocation.parentLocationId ↔
      store.NotBelow MaintenanceLocation.parentLocationId arguments.locationId
        arguments.parent := by
  obtain ⟨stored, location, hstored, hmoved, rfl⟩ := updateLocation_eq_ok hcall
  have hkey : location.id = arguments.locationId :=
    hmoved.id_eq.trans (Table.get?_eq_some_iff.mp hstored).2
  rw [← hkey] at hstored ⊢
  refine h.update_given_iff hstored hmoved.parent fun above habove => ?_
  obtain ⟨_, row, hrow, _⟩ := hmoved.given above habove
  obtain ⟨hmem, rfl⟩ := Table.get?_eq_some_iff.mp hrow
  exact store.mem_ids hmem

/-- Both ends of a link stay on one site exactly when a location that moves has none. -/
theorem updateLocation_onParentSites {arguments : UpdateLocationArguments}
    (h : store.Hierarchy MaintenanceLocation.parentLocationId) (hsites : OnParentSites store)
    (hcall : updateLocation services sites store arguments = .ok next) :
    OnParentSites next ↔ MovesAlone store arguments := by
  obtain ⟨stored, location, hstored, hmoved, rfl⟩ := updateLocation_eq_ok hcall
  obtain ⟨hmem, hkey⟩ := Table.get?_eq_some_iff.mp hstored
  have hself : (store.update location).get? stored.id = some location := by
    rw [← hmoved.id_eq]
    exact Table.get?_update_self (hmoved.id_eq ▸ hkey ▸ hstored)
  have hother : ∀ id, id ≠ stored.id → (store.update location).get? id = store.get? id :=
    fun id hid => Table.get?_update_of_ne (hmoved.id_eq ▸ hid)
  constructor
  · intro hnext found hfound siteId hgiven hsite
    obtain rfl := Option.some.inj (hstored.symm.trans hfound)
    have hplace : location.siteId = siteId := by rw [hmoved.site, hgiven]; rfl
    constructor
    · intro row hrow hbelow
      have hne : row.id ≠ stored.id := by
        intro heq
        obtain rfl := store.eq_of_key_eq hrow hmem heq
        exact h.parent_ne hmem hbelow
      obtain ⟨above, habove, hold⟩ := hsites row hrow _ hbelow
      obtain rfl := Option.some.inj (habove.symm.trans (hkey ▸ hstored))
      have hkept : row ∈ (store.update location).rows :=
        Table.mem_update_iff.mpr (Or.inr ⟨hrow, hmoved.id_eq ▸ hne⟩)
      obtain ⟨moved, hfoundMoved, hnew⟩ := hnext row hkept _ hbelow
      obtain rfl := Option.some.inj (hfoundMoved.symm.trans hself)
      exact hsite (hplace.symm.trans (hnew.trans hold.symm))
    · intro hnone
      by_contra hparent
      obtain ⟨above, habove⟩ := Option.ne_none_iff_exists'.mp hparent
      have hlocation : location.parentLocationId = some above := by
        rw [hmoved.parent, hnone]
        exact habove
      obtain ⟨parent, hfoundParent, hold⟩ := hsites stored hmem above habove
      have hne : above ≠ stored.id := fun heq => h.parent_ne hmem (heq ▸ habove)
      obtain ⟨other, hfoundOther, hnew⟩ :=
        hnext location (Table.get?_eq_some_iff.mp hself).1 above hlocation
      rw [hother above hne, hfoundParent] at hfoundOther
      cases hfoundOther
      exact hsite (hplace.symm.trans (hnew.symm.trans hold))
  · intro halone row hrow above habove
    have hstay : stored.siteId ≠ location.siteId →
        (∀ row ∈ store.rows, row.parentLocationId ≠ some stored.id) ∧
          (arguments.parent = none → stored.parentLocationId = none) := by
      intro hne
      cases hgiven : arguments.siteId with
      | none =>
          rw [hmoved.site, hgiven] at hne
          exact absurd rfl hne
      | some siteId =>
          rw [hmoved.site, hgiven] at hne
          exact halone stored hstored siteId hgiven hne.symm
    rcases Table.mem_update_iff.mp hrow with ⟨rfl, -⟩ | ⟨hrow, hne⟩
    · cases hgiven : arguments.parent with
      | some given =>
          rw [hmoved.parent, hgiven] at habove
          have hgiven : arguments.parent = some (some above) := hgiven.trans (congrArg some habove)
          obtain ⟨hne, parent, hfound, hsite⟩ := hmoved.given above hgiven
          exact ⟨parent, (hother above hne).trans hfound, hsite⟩
      | none =>
          rw [hmoved.parent, hgiven] at habove
          have habove : stored.parentLocationId = some above := habove
          obtain ⟨parent, hfound, hsite⟩ := hsites stored hmem above habove
          have hne : above ≠ stored.id := fun heq => h.parent_ne hmem (heq ▸ habove)
          refine ⟨parent, (hother above hne).trans hfound, hsite.trans ?_⟩
          by_contra hplace
          rw [(hstay hplace).2 hgiven] at habove
          cases habove
    · obtain ⟨parent, hfound, hsite⟩ := hsites row hrow above habove
      by_cases heq : above = stored.id
      · subst heq
        refine ⟨location, hself, ?_⟩
        obtain rfl := Option.some.inj (hfound.symm.trans (hkey ▸ hstored))
        by_contra hplace
        exact (hstay fun hsame => hplace (hsame.symm.trans hsite)).1 row hrow habove
      · exact ⟨parent, (hother above heq).trans hfound, hsite⟩

end

end ProjectManager.Maintenance
