import ProjectManager.Auth.ScopedAccess
import ProjectManager.Maintenance.WorkOrders

/-! # Reading requests and orders

Lists, searches, lookups by id and lookups by code each resolve the scope of a record and
ask for it in their own way. They agree on every record as long as the lookups by code,
which do not ask at all, only find records of granted scopes.
-/

namespace ProjectManager.Maintenance

open Foundation

/-! ## The session -/

/-- A context keeps its principal normalized. -/
def contextPrincipal (principal : Option UserSessionPrincipal) : Option UserSessionPrincipal :=
  principal.map UserSessionPrincipal.normalized

def ScopedSession.of (active : Option UserSessionPrincipal) : ScopedSession where
  toAuthorizationEngine := sessionAuthorizationEngine active
  isScopeRestricted scopeType := active.any fun principal => principal.isScopeRestricted scopeType
  scopeIdsFor scopeType permissionCode :=
    (active.map fun principal => principal.scopeIdsFor scopeType permissionCode).getD []

/-- The services while the given principal is in the context. -/
def MaintenanceServices.actingFor (services : MaintenanceServices)
    (principal : Option UserSessionPrincipal) : MaintenanceServices :=
  { services with userSession := ScopedSession.of (contextPrincipal principal) }

/-! ## Lists and searches -/

structure RecordPlaces where
  siteId : Option String := none
  assetId : Option String := none
  componentId : Option String := none
  systemId : Option String := none
  locationId : Option String := none

/-- `get` is asked when the argument is not `None`. -/
def checkGiven {α : Type} (get : String → Except DomainError α) (given : Option String) :
    Except DomainError Unit :=
  match given with
  | none => .ok ()
  | some id => do
      let _ ← get id
      return ()

def RecordPlaces.check (places : RecordPlaces) (store : MaintenanceStore) (organization : String) :
    Except DomainError Unit := do
  checkGiven (getSite store organization) places.siteId
  checkGiven (getAsset store organization) places.assetId
  checkGiven (getComponent store organization) places.componentId
  checkGiven (getSystem store organization) places.systemId
  checkGiven (getLocation store organization) places.locationId

/-- A column is compared when the argument is given. -/
def Selects (given : Option String) (column : Option String) : Prop :=
  ∀ value ∈ given, column = some value

instance (given column : Option String) : Decidable (Selects given column) :=
  inferInstanceAs (Decidable (∀ value ∈ given, column = some value))

def RecordPlaces.Selects (places : RecordPlaces) (siteId : String) (context : WorkContext) : Prop :=
  Maintenance.Selects places.siteId (some siteId) ∧
    Maintenance.Selects places.assetId context.assetId ∧
    Maintenance.Selects places.componentId context.componentId ∧
    Maintenance.Selects places.systemId context.systemId ∧
    Maintenance.Selects places.locationId context.locationId

instance (places : RecordPlaces) (siteId : String) (context : WorkContext) :
    Decidable (places.Selects siteId context) :=
  inferInstanceAs (Decidable (_ ∧ _ ∧ _ ∧ _ ∧ _))

/-- `text in " ".join(filter(None, columns)).lower()` -/
def containsText (text : String) (columns : List String) : Bool :=
  decide (text.toList <:+:
    (lower (String.intercalate " " (columns.filter (· ≠ "")))).toList)

def searchRows {α : Type} (searchText : String) (columns : α → List String) (rows : List α) :
    List α :=
  let normalizedSearch := lower (strip searchText)
  if normalizedSearch = "" then rows
  else rows.filter fun row => containsText normalizedSearch (columns row)

section

variable (services : MaintenanceServices) (store : MaintenanceStore)

section

variable {α : Type}

/-- The rows of the organization that the arguments select, as far as the session may see them. -/
def listRecords (operationLabel : String) (places : RecordPlaces) (rows : List α)
    (organizationOf : α → String) (keeps : α → Prop) [DecidablePred keeps] (context : α → WorkContext) :
    Except DomainError (List α) := do
  services.requireRead operationLabel
  let organization ← services.organization
  places.check store organization
  return services.filterScopeRows
    (rows.filter fun row => organizationOf row = organization ∧ keeps row)
    fun row => scopeAnchorFor store (context row)

/-- A lookup by code does not ask for the scope of the row. -/
def findRecord (operationLabel codeLabel : String) (getByCode : String → String → Option α)
    (code : String) : Except DomainError (Option α) := do
  services.requireRead operationLabel
  let organization ← services.organization
  let normalized ← normalizeMaintenanceCode code codeLabel
  return getByCode organization normalized

/-- A lookup by id does. -/
def getRecord (operationLabel : String) (requireRecord : String → String → Except DomainError α)
    (context : α → WorkContext) (id : String) : Except DomainError α := do
  services.requireRead operationLabel
  let organization ← services.organization
  let row ← requireRecord organization id
  services.requireScopeRead (scopeAnchorFor store (context row)) operationLabel
  return row

end

/-! ## Requests -/

structure WorkRequestFilter extends RecordPlaces where
  status : Option String := none
  priority : Option String := none
  requestedByUserId : Option String := none
  triagedByUserId : Option String := none

def WorkRequestFilter.Keeps (filter : WorkRequestFilter) (row : WorkRequest) : Prop :=
  filter.toRecordPlaces.Selects row.siteId row.context ∧
    Selects filter.status (some row.status.value) ∧
    Selects filter.priority (some row.priority.value) ∧
    Selects filter.requestedByUserId row.requestedByUserId ∧
    Selects filter.triagedByUserId row.triagedByUserId

instance (filter : WorkRequestFilter) (row : WorkRequest) : Decidable (filter.Keeps row) :=
  inferInstanceAs (Decidable (_ ∧ _ ∧ _ ∧ _ ∧ _))

def listWorkRequests (filter : WorkRequestFilter) : Except DomainError (List WorkRequest) :=
  listRecords services store "list maintenance work requests" filter.toRecordPlaces
    store.requests.rows WorkRequest.organizationId filter.Keeps WorkRequest.context

structure WorkRequestSearch where
  searchText : String := ""
  siteId : Option String := none
  status : Option String := none
  priority : Option String := none

def searchWorkRequests (search : WorkRequestSearch) : Except DomainError (List WorkRequest) := do
  let rows ← listWorkRequests services store
    { siteId := search.siteId
      status := search.status
      priority := search.priority }
  return searchRows search.searchText (fun row => [row.workRequestCode, row.title, row.description,
    row.requestType, row.status.value, row.priority.value, row.failureSymptomCode,
    row.safetyRiskLevel, row.productionImpactLevel, row.requestedByNameSnapshot]) rows

def findWorkRequestByCode : String → Except DomainError (Option WorkRequest) :=
  findRecord services "resolve maintenance work request" "Work request code"
    (findWorkRequest store)

/-! ## Orders -/

structure WorkOrderFilter extends RecordPlaces where
  status : Option String := none
  priority : Option String := none
  assignedEmployeeId : Option String := none
  assignedTeamId : Option String := none
  plannerUserId : Option String := none
  supervisorUserId : Option String := none
  workOrderType : Option String := none
  isPreventive : Option Bool := none
  isEmergency : Option Bool := none

def WorkOrderFilter.Keeps (filter : WorkOrderFilter) (row : WorkOrder) : Prop :=
  filter.toRecordPlaces.Selects row.siteId row.context ∧
    Selects filter.status (some row.status.value) ∧
    Selects filter.priority (some row.priority.value) ∧
    Selects filter.assignedEmployeeId row.assignedEmployeeId ∧
    Selects filter.assignedTeamId row.assignedTeamId ∧
    Selects filter.plannerUserId row.plannerUserId ∧
    Selects filter.supervisorUserId row.supervisorUserId ∧
    Selects filter.workOrderType (some row.workOrderType.value) ∧
    (∀ given ∈ filter.isPreventive, row.isPreventive = given) ∧
    ∀ given ∈ filter.isEmergency, row.isEmergency = given

instance (filter : WorkOrderFilter) (row : WorkOrder) : Decidable (filter.Keeps row) :=
  inferInstanceAs (Decidable (_ ∧ _ ∧ _ ∧ _ ∧ _ ∧ _ ∧ _ ∧ _ ∧ _ ∧ _))

def listWorkOrders (filter : WorkOrderFilter) : Except DomainError (List WorkOrder) :=
  listRecords services store "list maintenance work orders" filter.toRecordPlaces
    store.orders.rows WorkOrder.organizationId filter.Keeps WorkOrder.context

structure WorkOrderSearch where
  searchText : String := ""
  siteId : Option String := none
  status : Option String := none
  priority : Option String := none
  workOrderType : Option String := none
  assignedEmployeeId : Option String := none
  assignedTeamId : Option String := none

def searchWorkOrders (search : WorkOrderSearch) : Except DomainError (List WorkOrder) := do
  let rows ← listWorkOrders services store
    { siteId := search.siteId
      status := search.status
      priority := search.priority
      workOrderType := search.workOrderType
      assignedEmployeeId := search.assignedEmployeeId
      assignedTeamId := search.assignedTeamId }
  return searchRows search.searchText (fun row => [row.workOrderCode, row.title, row.description,
    row.workOrderType.value, row.status.value, row.priority.value, row.failureCode,
    row.rootCauseCode]) rows

def findWorkOrderByCode : String → Except DomainError (Option WorkOrder) :=
  findRecord services "resolve maintenance work order" "Work order code" (findWorkOrder store)

end

/-! ## Scopes of the session -/

/-- What a lookup by id asks of the scope of a record. -/
def MaintenanceServices.MayReadScope (services : MaintenanceServices) (scopeId : String) : Prop :=
  if scopeId = "" then ¬ services.userSession.isScopeRestricted "maintenance" = true
  else services.userSession.hasScopePermission "maintenance" scopeId "maintenance.read" = true

instance (services : MaintenanceServices) (scopeId : String) :
    Decidable (services.MayReadScope scopeId) :=
  inferInstanceAs (Decidable (if scopeId = "" then _ ≠ true else _ = true))

/-- What a list asks of it. -/
def MaintenanceServices.ListsScope (services : MaintenanceServices) (scopeId : String) : Prop :=
  services.userSession.isScopeRestricted "maintenance" = true →
    scopeId ∈ services.userSession.scopeIdsFor "maintenance" "maintenance.read"

section

variable {services : MaintenanceServices} {scopeId label : String}

theorem requireScopeRead_eq_ok :
    services.requireScopeRead scopeId label = .ok () ↔ services.MayReadScope scopeId := by
  unfold MaintenanceServices.requireScopeRead MaintenanceServices.MayReadScope
  split
  · exact ensure_eq_ok
  · exact ensure_eq_ok

theorem mem_filterScopeRows {α : Type} {rows : List α} {anchor : α → String} {row : α} :
    row ∈ services.filterScopeRows rows anchor ↔
      services.userSession.hasPermission "maintenance.read" = true ∧ row ∈ rows ∧
        services.ListsScope (anchor row) := by
  unfold MaintenanceServices.filterScopeRows MaintenanceServices.ListsScope
  split
  next hallowed =>
    rw [and_iff_right hallowed]
    split
    next hrestricted =>
      rw [List.mem_filter, decide_eq_true_iff]
      exact and_congr_right fun _ => ⟨fun h _ => h, fun h => h hrestricted⟩
    next hopen => exact (and_iff_left fun hrestricted => absurd hrestricted hopen).symm
  next hdenied => exact ⟨fun h => (nomatch h), fun h => absurd h.1 hdenied⟩

variable {principal : Option UserSessionPrincipal}

theorem mayReadScope_of_open
    (hallowed : (services.actingFor principal).userSession.hasPermission "maintenance.read" = true)
    (hopen : ¬ (services.actingFor principal).userSession.isScopeRestricted "maintenance" = true) :
    (services.actingFor principal).MayReadScope scopeId := by
  unfold MaintenanceServices.MayReadScope
  split
  · exact hopen
  · cases principal with
    | none => cases hallowed
    | some principal =>
        exact hasScopePermission_of_open principal.normalized hallowed hopen

theorem mayReadScope_of_restricted
    (hallowed : (services.actingFor principal).userSession.hasPermission "maintenance.read" = true)
    (hrestricted : (services.actingFor principal).userSession.isScopeRestricted "maintenance" = true) :
    (services.actingFor principal).MayReadScope scopeId ↔ strip scopeId ∈
      (services.actingFor principal).userSession.scopeIdsFor "maintenance" "maintenance.read" := by
  cases principal with
  | none => cases hallowed
  | some principal =>
      have hids : ∀ given, given ∈ (services.actingFor (some principal)).userSession.scopeIdsFor
          "maintenance" "maintenance.read" ↔
            given ∈ principal.normalized.scopeIdsFor "maintenance" "maintenance.read" :=
        fun _ => Iff.rfl
      rw [hids]
      unfold MaintenanceServices.MayReadScope
      split
      next hblank =>
        refine ⟨fun hopen => absurd hrestricted hopen, fun hmem => ?_⟩
        have hstrip : strip scopeId = "" := by
          rw [hblank]
          rfl
        exact absurd hstrip (plain_of_mem_scopeIdsFor principal hmem).2
      next =>
        rw [mem_scopeIdsFor_normalized]
        exact hasScopePermission_of_restricted principal.normalized hallowed hrestricted

theorem strip_of_granted (h : scopeId ∈
    (services.actingFor principal).userSession.scopeIdsFor "maintenance" "maintenance.read") :
    strip scopeId = scopeId := by
  cases principal with
  | none => cases h
  | some principal =>
      have hmem : scopeId ∈
          principal.normalized.scopeIdsFor "maintenance" "maintenance.read" := h
      exact (plain_of_mem_scopeIdsFor principal hmem).1

end

/-! ## Paths that agree -/

/-- The ways to read the records of a service: lists and searches, with the list that nothing
filters among them, by id, and by code. -/
structure ReadPaths (α φ : Type) where
  list : φ → Except DomainError (List α)
  unfiltered : φ
  get : String → Except DomainError α
  find : String → Except DomainError (Option α)

namespace ReadPaths

variable {α φ : Type} (paths : ReadPaths α φ)

def Lists (listing : φ) (row : α) : Prop := ∃ rows, paths.list listing = .ok rows ∧ row ∈ rows

def Obtains (row : α) : Prop :=
  (∃ id, paths.get id = .ok row) ∨ ∃ code, paths.find code = .ok (some row)

/-- What can be obtained is what is listed, and nothing is read outside the scopes. -/
structure Agree (services : MaintenanceServices) (anchor : α → String) : Prop where
  same : ∀ row, paths.Obtains row ↔ paths.Lists paths.unfiltered row
  inScope : ∀ row, (paths.Obtains row ∨ ∃ listing, paths.Lists listing row) →
    services.MayReadScope (anchor row)

/-- What each path asks of a record. -/
structure Answers (services : MaintenanceServices) (anchor : α → String)
    (readable byCode : α → Prop) : Prop where
  permitted : ∀ row, readable row → services.userSession.hasPermission "maintenance.read" = true
  unfiltered : ∀ row, paths.Lists paths.unfiltered row ↔
    readable row ∧ services.ListsScope (anchor row)
  listed : ∀ listing row, paths.Lists listing row → paths.Lists paths.unfiltered row
  got : ∀ row, (∃ id, paths.get id = .ok row) ↔ readable row ∧ services.MayReadScope (anchor row)
  found : ∀ row, (∃ code, paths.find code = .ok (some row)) ↔ readable row ∧ byCode row

/-- The paths agree exactly when every record that its code finds, and every record whose scope is
granted but for blanks, lies in a scope that is listed. -/
theorem Answers.agree_iff {paths : ReadPaths α φ} {services : MaintenanceServices}
    {principal : Option UserSessionPrincipal} {anchor : α → String} {readable byCode : α → Prop}
    (h : paths.Answers (services.actingFor principal) anchor readable byCode) :
    paths.Agree (services.actingFor principal) anchor ↔ ∀ row, readable row →
      (byCode row ∨ strip (anchor row) ∈
        (services.actingFor principal).userSession.scopeIdsFor "maintenance" "maintenance.read") →
      (services.actingFor principal).ListsScope (anchor row) := by
  have hmay : ∀ row, readable row → (services.actingFor principal).ListsScope (anchor row) →
      (services.actingFor principal).MayReadScope (anchor row) := by
    intro row hrow hlists
    have hallowed := h.permitted row hrow
    by_cases hrestricted :
        (services.actingFor principal).userSession.isScopeRestricted "maintenance" = true
    · rw [mayReadScope_of_restricted hallowed hrestricted]
      rw [strip_of_granted (hlists hrestricted)]
      exact hlists hrestricted
    · exact mayReadScope_of_open hallowed hrestricted
  constructor
  · intro hagree row hrow hfound hrestricted
    have hobtained : paths.Obtains row := by
      rcases hfound with hcode | hscope
      · exact Or.inr ((h.found row).mpr ⟨hrow, hcode⟩)
      · refine Or.inl ((h.got row).mpr ⟨hrow, ?_⟩)
        exact (mayReadScope_of_restricted (h.permitted row hrow) hrestricted).mpr hscope
    exact ((h.unfiltered row).mp ((hagree.same row).mp hobtained)).2 hrestricted
  · intro hgranted
    have hsame : ∀ row, paths.Obtains row ↔ paths.Lists paths.unfiltered row := by
      intro row
      rw [h.unfiltered]
      constructor
      · rintro (hgot | hfound)
        · obtain ⟨hrow, hscope⟩ := (h.got row).mp hgot
          refine ⟨hrow, fun hrestricted => ?_⟩
          rw [mayReadScope_of_restricted (h.permitted row hrow) hrestricted] at hscope
          exact hgranted row hrow (Or.inr hscope) hrestricted
        · obtain ⟨hrow, hcode⟩ := (h.found row).mp hfound
          exact ⟨hrow, hgranted row hrow (Or.inl hcode)⟩
      · rintro ⟨hrow, hlists⟩
        exact Or.inl ((h.got row).mpr ⟨hrow, hmay row hrow hlists⟩)
    refine ⟨hsame, fun row hread => ?_⟩
    have hlisted : paths.Lists paths.unfiltered row := by
      rcases hread with hobtained | ⟨listing, hlisted⟩
      · exact (hsame row).mp hobtained
      · exact h.listed listing row hlisted
    obtain ⟨hrow, hlists⟩ := (h.unfiltered row).mp hlisted
    exact hmay row hrow hlists

end ReadPaths

/-! ## The paths of a service -/

section

variable {services : MaintenanceServices} {store : MaintenanceStore} {α : Type} {rows : List α}
  {organizationOf codeOf : α → String} {context : α → WorkContext} {row : α} {label : String}

/-- The session may read maintenance, and the record is one of the active organization. -/
structure Readable (services : MaintenanceServices) (rows : List α) (organizationOf : α → String)
    (row : α) : Prop where
  permitted : services.userSession.hasPermission "maintenance.read" = true
  organization : services.activeOrganization = some (organizationOf row)
  stored : row ∈ rows

/-- The code of the record is written as codes are looked up, and the first with it. -/
structure FoundByCode (getByCode : String → String → Option α) (organizationOf codeOf : α → String)
    (row : α) : Prop where
  first : getByCode (organizationOf row) (codeOf row) = some row
  nonempty : codeOf row ≠ ""
  written : upper (strip (codeOf row)) = codeOf row

theorem requireRead_eq_ok : services.requireRead label = .ok () ↔
    services.userSession.hasPermission "maintenance.read" = true := ensure_eq_ok

theorem organization_eq_ok {organization : String} :
    services.organization = .ok organization ↔ services.activeOrganization = some organization :=
  require_eq_ok

theorem mem_listRecords {places : RecordPlaces} {keeps : α → Prop} [DecidablePred keeps] :
    (∃ listed, listRecords services store label places rows organizationOf keeps context =
        .ok listed ∧ row ∈ listed) ↔
      (Readable services rows organizationOf row ∧
        services.ListsScope (scopeAnchorFor store (context row))) ∧ keeps row ∧
        places.check store (organizationOf row) = .ok () := by
  constructor
  · rintro ⟨listed, h, hmem⟩
    obtain ⟨_, _, h⟩ := bind_ok h
    obtain ⟨organization, horganization, h⟩ := bind_ok h
    obtain ⟨_, hplaces, h⟩ := bind_ok h
    obtain rfl := Except.ok.inj h
    obtain ⟨hallowed, hrow, hscope⟩ := mem_filterScopeRows.mp hmem
    obtain ⟨hstored, hselected⟩ := List.mem_filter.mp hrow
    obtain ⟨rfl, hkeeps⟩ := of_decide_eq_true hselected
    exact ⟨⟨⟨hallowed, organization_eq_ok.mp horganization, hstored⟩, hscope⟩, hkeeps, hplaces⟩
  · rintro ⟨⟨hread, hscope⟩, hkeeps, hplaces⟩
    refine ⟨_, bind_eq_ok.mpr ⟨(), requireRead_eq_ok.mpr hread.permitted, bind_eq_ok.mpr
      ⟨_, organization_eq_ok.mpr hread.organization, bind_eq_ok.mpr ⟨(), hplaces, rfl⟩⟩⟩, ?_⟩
    exact mem_filterScopeRows.mpr ⟨hread.permitted,
      List.mem_filter.mpr ⟨hread.stored, decide_eq_true ⟨rfl, hkeeps⟩⟩, hscope⟩

theorem getRecord_eq_ok {requireRecord : String → String → Except DomainError α} {idOf : α → String}
    (hrequire : ∀ organization id row, requireRecord organization id = .ok row ↔
      row ∈ rows ∧ organizationOf row = organization ∧ idOf row = id) :
    (∃ id, getRecord services store label requireRecord context id = .ok row) ↔
      Readable services rows organizationOf row ∧
        services.MayReadScope (scopeAnchorFor store (context row)) := by
  constructor
  · rintro ⟨id, h⟩
    obtain ⟨_, hallowed, h⟩ := bind_ok h
    obtain ⟨organization, horganization, h⟩ := bind_ok h
    obtain ⟨found, hfound, h⟩ := bind_ok h
    obtain ⟨_, hscope, h⟩ := bind_ok h
    obtain rfl := Except.ok.inj h
    obtain ⟨hrow, rfl, -⟩ := (hrequire _ _ _).mp hfound
    exact ⟨⟨requireRead_eq_ok.mp hallowed, organization_eq_ok.mp horganization, hrow⟩,
      requireScopeRead_eq_ok.mp hscope⟩
  · rintro ⟨hread, hscope⟩
    refine ⟨idOf row, ?_⟩
    exact bind_eq_ok.mpr ⟨(), requireRead_eq_ok.mpr hread.permitted, bind_eq_ok.mpr
      ⟨_, organization_eq_ok.mpr hread.organization, bind_eq_ok.mpr
        ⟨row, (hrequire _ _ _).mpr ⟨hread.stored, rfl, rfl⟩, bind_eq_ok.mpr
          ⟨(), requireScopeRead_eq_ok.mpr hscope, rfl⟩⟩⟩⟩

theorem findRecord_eq_ok {codeLabel : String} {getByCode : String → String → Option α}
    (hget : ∀ organization code row, getByCode organization code = some row →
      row ∈ rows ∧ organizationOf row = organization ∧ codeOf row = code) :
    (∃ code, findRecord services label codeLabel getByCode code = .ok (some row)) ↔
      Readable services rows organizationOf row ∧
        FoundByCode getByCode organizationOf codeOf row := by
  constructor
  · rintro ⟨code, h⟩
    obtain ⟨_, hallowed, h⟩ := bind_ok h
    obtain ⟨organization, horganization, h⟩ := bind_ok h
    obtain ⟨normalized, hnormalized, h⟩ := bind_ok h
    have hfound := Except.ok.inj h
    obtain ⟨hrow, rfl, rfl⟩ := hget _ _ _ hfound
    obtain ⟨hne, hcode⟩ := normalizeMaintenanceCode_eq_ok.mp hnormalized
    rw [← hcode] at hne
    refine ⟨⟨requireRead_eq_ok.mp hallowed, organization_eq_ok.mp horganization, hrow⟩, hfound, hne,
      ?_⟩
    rw [hcode, strip_upper_strip, upper_upper]
  · rintro ⟨hread, hfound⟩
    have hne : upper (strip (codeOf row)) ≠ "" := by
      rw [hfound.written]
      exact hfound.nonempty
    refine ⟨codeOf row, ?_⟩
    exact bind_eq_ok.mpr ⟨(), requireRead_eq_ok.mpr hread.permitted, bind_eq_ok.mpr
      ⟨_, organization_eq_ok.mpr hread.organization, bind_eq_ok.mpr
        ⟨_, normalizeMaintenanceCode_eq_ok.mpr ⟨hne, hfound.written.symm⟩,
          congrArg _ hfound.first⟩⟩⟩

/-- Every record that its code finds lies in a scope that is listed. An anchor with blanks around it
may not be that of a granted scope. -/
def GrantsFound (services : MaintenanceServices) (rows : List α) (organizationOf codeOf : α → String)
    (getByCode : String → String → Option α) (anchor : α → String) : Prop :=
  ∀ row, Readable services rows organizationOf row →
    (FoundByCode getByCode organizationOf codeOf row ∨ strip (anchor row) ∈
      services.userSession.scopeIdsFor "maintenance" "maintenance.read") →
    services.ListsScope (anchor row)

theorem require_get?_eq_ok {κ : α → String} {table : Table κ} {error : DomainError}
    {organization id : String} :
    require ((table.get? id).filter fun row => organizationOf row = organization) error = .ok row ↔
      row ∈ table.rows ∧ organizationOf row = organization ∧ κ row = id := by
  rw [require_eq_ok, Option.filter_eq_some_iff, Table.get?_eq_some_iff, decide_eq_true_iff, and_assoc,
    and_comm (a := κ row = id)]

theorem find?_code_eq_some {organization code : String} {row : α}
    (h : (rows.find? fun row => organizationOf row = organization ∧ codeOf row = code) = some row) :
    row ∈ rows ∧ organizationOf row = organization ∧ codeOf row = code := by
  have hselected := List.find?_some h
  exact ⟨List.mem_of_find?_eq_some h, of_decide_eq_true hselected⟩

end

/-! ## Requests and orders -/

section

variable (services : MaintenanceServices) (store : MaintenanceStore)

def WorkRequest.anchor (row : WorkRequest) : String := scopeAnchorFor store row.context

def WorkOrder.anchor (row : WorkOrder) : String := scopeAnchorFor store row.context

def workRequestPaths : ReadPaths WorkRequest (WorkRequestFilter ⊕ WorkRequestSearch) where
  list := Sum.elim (listWorkRequests services store) (searchWorkRequests services store)
  unfiltered := .inl {}
  get := getWorkRequest services store
  find := findWorkRequestByCode services store

def workOrderPaths : ReadPaths WorkOrder (WorkOrderFilter ⊕ WorkOrderSearch) where
  list := Sum.elim (listWorkOrders services store) (searchWorkOrders services store)
  unfiltered := .inl {}
  get := getWorkOrder services store
  find := findWorkOrderByCode services store

variable {services store}

theorem mem_searchRows {α : Type} {searchText : String} {columns : α → List String} {rows : List α}
    {row : α} (h : row ∈ searchRows searchText columns rows) : row ∈ rows := by
  unfold searchRows at h
  simp only at h
  split at h
  · exact h
  · exact (List.mem_filter.mp h).1

/-- What a search finds, the list that it goes through has. -/
theorem mem_of_searched {α : Type} {searchText : String} {columns : α → List String}
    {listed : Except DomainError (List α)} {row : α}
    (h : ∃ rows, (do let found ← listed; return searchRows searchText columns found) = .ok rows ∧
      row ∈ rows) : ∃ rows, listed = .ok rows ∧ row ∈ rows := by
  obtain ⟨rows, hrows, hmem⟩ := h
  obtain ⟨found, hfound, hrows⟩ := bind_ok hrows
  obtain rfl := Except.ok.inj hrows
  exact ⟨found, hfound, mem_searchRows hmem⟩

theorem workRequestPaths_answers :
    (workRequestPaths services store).Answers services (WorkRequest.anchor store)
      (Readable services store.requests.rows WorkRequest.organizationId)
      (FoundByCode (findWorkRequest store) WorkRequest.organizationId WorkRequest.workRequestCode) := by
  have hunfiltered : ∀ row, (workRequestPaths services store).Lists (.inl {}) row ↔
      Readable services store.requests.rows WorkRequest.organizationId row ∧
        services.ListsScope (row.anchor store) := by
    intro row
    refine mem_listRecords.trans (and_iff_left ⟨?_, rfl⟩)
    simp [WorkRequestFilter.Keeps, RecordPlaces.Selects, Selects]
  have hfiltered : ∀ filter row, (workRequestPaths services store).Lists (.inl filter) row →
      (workRequestPaths services store).Lists (.inl {}) row :=
    fun filter row h => (hunfiltered row).mpr (mem_listRecords.mp h).1
  refine ⟨fun row hrow => hrow.permitted, hunfiltered, ?_, ?_, ?_⟩
  · rintro (filter | search) row h
    · exact hfiltered filter row h
    · exact hfiltered _ row (mem_of_searched h)
  · exact fun row => getRecord_eq_ok fun _ _ _ => require_get?_eq_ok
  · exact fun row => findRecord_eq_ok fun _ _ _ => find?_code_eq_some

theorem workOrderPaths_answers :
    (workOrderPaths services store).Answers services (WorkOrder.anchor store)
      (Readable services store.orders.rows WorkOrder.organizationId)
      (FoundByCode (findWorkOrder store) WorkOrder.organizationId WorkOrder.workOrderCode) := by
  have hunfiltered : ∀ row, (workOrderPaths services store).Lists (.inl {}) row ↔
      Readable services store.orders.rows WorkOrder.organizationId row ∧
        services.ListsScope (row.anchor store) := by
    intro row
    refine mem_listRecords.trans (and_iff_left ⟨?_, rfl⟩)
    simp [WorkOrderFilter.Keeps, RecordPlaces.Selects, Selects]
  have hfiltered : ∀ filter row, (workOrderPaths services store).Lists (.inl filter) row →
      (workOrderPaths services store).Lists (.inl {}) row :=
    fun filter row h => (hunfiltered row).mpr (mem_listRecords.mp h).1
  refine ⟨fun row hrow => hrow.permitted, hunfiltered, ?_, ?_, ?_⟩
  · rintro (filter | search) row h
    · exact hfiltered filter row h
    · exact hfiltered _ row (mem_of_searched h)
  · exact fun row => getRecord_eq_ok fun _ _ _ => require_get?_eq_ok
  · exact fun row => findRecord_eq_ok fun _ _ _ => find?_code_eq_some

end

/-- For every principal and every store: the reads of requests and of orders agree exactly when no
code finds a record outside the scopes. -/
theorem readsAgree_iff (services : MaintenanceServices) (store : MaintenanceStore)
    (principal : Option UserSessionPrincipal) :
    ((workRequestPaths (services.actingFor principal) store).Agree (services.actingFor principal)
        (WorkRequest.anchor store) ∧
      (workOrderPaths (services.actingFor principal) store).Agree (services.actingFor principal)
        (WorkOrder.anchor store)) ↔
      GrantsFound (services.actingFor principal) store.requests.rows WorkRequest.organizationId
        WorkRequest.workRequestCode (findWorkRequest store) (WorkRequest.anchor store) ∧
      GrantsFound (services.actingFor principal) store.orders.rows WorkOrder.organizationId
        WorkOrder.workOrderCode (findWorkOrder store) (WorkOrder.anchor store) :=
  and_congr workRequestPaths_answers.agree_iff workOrderPaths_answers.agree_iff

/-! ## A technician with one asset -/

/-- Who may read the maintenance of the first pump. -/
def technician : UserSessionPrincipal where
  userId := "user1"
  userId_ne := (by decide : ¬ "user1" = "")
  username := "technician"
  permissions := ["maintenance.read"]
  scopedAccess := [("maintenance", [("asset1", ["maintenance.read"])])]

def readServices : MaintenanceServices where
  userSession := ScopedSession.of none
  activeOrganization := some "org1"
  now := 0

/-- Work for the second pump. -/
def pumpStore : MaintenanceStore where
  requests := ⟨[
    { id := "request1"
      organizationId := "org1"
      siteId := "site1"
      workRequestCode := "WR-1"
      sourceType := .manual
      requestType := "REPAIR"
      assetId := some "asset2" }], List.nodup_singleton _⟩
  orders := ⟨[
    { id := "order1"
      organizationId := "org1"
      siteId := "site1"
      workOrderCode := "WO-1"
      workOrderType := .corrective
      sourceType := "MANUAL"
      assetId := some "asset2" }], List.nodup_singleton _⟩

/-- The code of the request and that of the order find what the technician may not see. -/
theorem not_readsAgree_technician :
    (¬ (workRequestPaths (readServices.actingFor (some technician)) pumpStore).Agree
        (readServices.actingFor (some technician)) (WorkRequest.anchor pumpStore)) ∧
      ¬ (workOrderPaths (readServices.actingFor (some technician)) pumpStore).Agree
        (readServices.actingFor (some technician)) (WorkOrder.anchor pumpStore) := by
  constructor
  · intro hagree
    have hscope := hagree.inScope _ (Or.inl (Or.inr ⟨"wr-1", rfl⟩))
    revert hscope
    decide +kernel
  · intro hagree
    have hscope := hagree.inScope _ (Or.inl (Or.inr ⟨"wo-1", rfl⟩))
    revert hscope
    decide +kernel

end ProjectManager.Maintenance
