import ProjectManager.Foundation.SavingPrograms
import ProjectManager.Maintenance.Domain

/-! # Texts, enumerations and references

What the maintenance services check in the same way: codes and names, members of
enumerations, permissions, and the places that a record refers to.
-/

namespace ProjectManager.Maintenance

open Foundation

/-! ## Texts -/

def labelCode (label : String) : String :=
  String.ofList ((upper label).toList.map fun c => if c = ' ' then '_' else c)

def normalizeMaintenanceName (value label : String) : Except DomainError String := do
  let normalized := strip value
  ensure (normalized ≠ "")
    (validationError (label ++ " is required.") (labelCode label ++ "_REQUIRED"))
  return normalized

def normalizeMaintenanceCode (value label : String) : Except DomainError String := do
  let normalized := upper (strip value)
  ensure (normalized ≠ "")
    (validationError (label ++ " is required.") (labelCode label ++ "_REQUIRED"))
  return normalized

theorem normalizeMaintenanceCode_eq_ok {value label code : String} :
    normalizeMaintenanceCode value label = .ok code ↔
      upper (strip value) ≠ "" ∧ code = upper (strip value) := by
  unfold normalizeMaintenanceCode
  rw [bind_eq_ok]
  constructor
  · rintro ⟨_, hne, hcode⟩
    exact ⟨ensure_eq_ok.mp hne, (Except.ok.inj hcode).symm⟩
  · rintro ⟨hne, rfl⟩
    exact ⟨(), ensure_eq_ok.mpr hne, rfl⟩

/-- A reference that is blank is none. -/
def normalizeReference (value : Option String) : Option String :=
  (some (strip (value.getD ""))).filter (· ≠ "")

/-- `value or None`, for a reference. -/
def givenReference (value : Option String) : Option String := value.filter (· ≠ "")

def coerceOptionalNonNegativeInt (value : Option ℤ) (label : String) :
    Except DomainError (Option ℤ) := do
  ensure (∀ given ∈ value, 0 ≤ given)
    (validationError (label ++ " cannot be negative.") (labelCode label ++ "_NEGATIVE"))
  return value

/-- `value if value is not None else stored`, for a checked value. -/
def givenOr {α β : Type} (given : Option α) (stored : β) (check : α → Except DomainError β) :
    Except DomainError β :=
  match given with
  | none => .ok stored
  | some value => check value

/-! ## Members of enumerations -/

def coercePriority : Option (Choice Priority) → Except DomainError Priority :=
  coerce [.low, .medium, .high, .emergency] Priority.value "MEDIUM"
    (validationError "Maintenance priority is invalid." "MAINTENANCE_PRIORITY_INVALID")

def coerceWorkRequestSourceType :
    Option (Choice WorkRequestSourceType) → Except DomainError WorkRequestSourceType :=
  coerce [.manual, .preventivePlan, .sensorTrigger, .inspection, .integration]
    WorkRequestSourceType.value "MANUAL"
    (validationError "Maintenance work request source type is invalid."
      "MAINTENANCE_WORK_REQUEST_SOURCE_TYPE_INVALID")

def coerceWorkRequestStatus :
    Option (Choice WorkRequestStatus) → Except DomainError WorkRequestStatus :=
  coerce [.new, .triaged, .approved, .rejected, .converted, .deferred] WorkRequestStatus.value "NEW"
    (validationError "Maintenance work request status is invalid."
      "MAINTENANCE_WORK_REQUEST_STATUS_INVALID")

def coerceWorkOrderType : Option (Choice WorkOrderType) → Except DomainError WorkOrderType :=
  coerce [.corrective, .preventive, .inspection, .calibration, .emergency, .conditionBased]
    WorkOrderType.value "CORRECTIVE"
    (validationError "Maintenance work order type is invalid."
      "MAINTENANCE_WORK_ORDER_TYPE_INVALID")

def coerceWorkOrderStatus :
    Option (Choice WorkOrderStatus) → Except DomainError WorkOrderStatus :=
  coerce [.draft, .planned, .waitingParts, .waitingApproval, .waitingShutdown, .scheduled, .released,
      .inProgress, .paused, .completed, .verified, .closed, .cancelled]
    WorkOrderStatus.value "DRAFT"
    (validationError "Maintenance work order status is invalid."
      "MAINTENANCE_WORK_ORDER_STATUS_INVALID")

def coerceTaskCompletionRule :
    Option (Choice TaskCompletionRule) → Except DomainError TaskCompletionRule :=
  coerce [.noStepsRequired, .allStepsRequired] TaskCompletionRule.value "NO_STEPS_REQUIRED"
    (validationError "Maintenance task completion rule is invalid."
      "MAINTENANCE_TASK_COMPLETION_RULE_INVALID")

/-! ## Services -/

/-- The user session with its scope grants. -/
structure ScopedSession extends AuthorizationEngine where
  isScopeRestricted : String → Bool
  scopeIdsFor : String → String → List String

/-- What the services of the module share. The database may refuse to save a new row, whatever
its content. -/
structure MaintenanceServices where
  userSession : ScopedSession
  userId : Option String := none
  activeOrganization : Option String
  now : Moment
  refuses : String → Option DomainError := fun _ => none

namespace MaintenanceServices

variable (services : MaintenanceServices)

def requireRead (operationLabel : String) : Except DomainError Unit :=
  services.userSession.requirePermission "maintenance.read" operationLabel

def requireManage (operationLabel : String) : Except DomainError Unit :=
  services.userSession.requirePermission "maintenance.manage" operationLabel

def organization : Except DomainError String :=
  require services.activeOrganization
    (notFoundError "Active organization not found." "ORGANIZATION_NOT_FOUND")

/-- A record without an anchor is for sessions that no scope restricts. -/
def requireScopeRead (scopeId operationLabel : String) : Except DomainError Unit :=
  if scopeId = "" then
    ensure (¬ services.userSession.isScopeRestricted "maintenance" = true) (permissionDenied
      ("Permission denied for " ++ operationLabel ++
        ". The record is not anchored to a maintenance scope grant."))
  else
    services.userSession.requireScopePermission "maintenance" scopeId "maintenance.read"
      operationLabel

def filterScopeRows {α : Type} (rows : List α) (scopeId : α → String) : List α :=
  if services.userSession.hasPermission "maintenance.read" = true then
    if services.userSession.isScopeRestricted "maintenance" = true then
      rows.filter fun row =>
        scopeId row ∈ services.userSession.scopeIdsFor "maintenance" "maintenance.read"
    else rows
  else []

/-- Save a new row. The database may refuse it for a taken key or for reasons of its own; what it
refuses for the integrity of the data is raised as the given error. -/
def save (onIntegrity : DomainError) (ids : List String) (id : String) :
    Except DomainError Unit := do
  ensure (id ∉ ids) onIntegrity
  match services.refuses id with
  | some e => .error (if e.errorClass = .integrityError then onIntegrity else e)
  | none => .ok ()

end MaintenanceServices

/-! ## References -/

section

variable (store : MaintenanceStore) (organization : String)

def getSite (siteId : String) : Except DomainError Site :=
  require ((store.sites.get? siteId).filter fun row => row.organizationId = organization)
    (notFoundError "Site not found in the active organization." "SITE_NOT_FOUND")

def getAsset (assetId : String) : Except DomainError SiteRecord :=
  require ((store.assets.get? assetId).filter fun row => row.organizationId = organization)
    (notFoundError "Maintenance asset not found in the active organization."
      "MAINTENANCE_ASSET_NOT_FOUND")

def getComponent (componentId : String) : Except DomainError AssetComponent :=
  require ((store.components.get? componentId).filter fun row => row.organizationId = organization)
    (notFoundError "Maintenance asset component not found in the active organization."
      "MAINTENANCE_COMPONENT_NOT_FOUND")

def getSystem (systemId : String) : Except DomainError SiteRecord :=
  require ((store.systems.get? systemId).filter fun row => row.organizationId = organization)
    (notFoundError "Maintenance system not found in the active organization."
      "MAINTENANCE_SYSTEM_NOT_FOUND")

def getLocation (locationId : String) : Except DomainError SiteRecord :=
  require ((store.locations.get? locationId).filter fun row => row.organizationId = organization)
    (notFoundError "Maintenance location not found in the active organization."
      "MAINTENANCE_LOCATION_NOT_FOUND")

/-- Where work takes place. -/
structure WorkContext where
  assetId : Option String := none
  componentId : Option String := none
  systemId : Option String := none
  locationId : Option String := none
  deriving DecidableEq

/-- Look a reference up when it is given. -/
def lookup {α : Type} (get : String → Except DomainError α) (reference : Option String) :
    Except DomainError (Option α) :=
  match givenReference reference with
  | some id => some <$> get id
  | none => .ok none

/-- The record that an error about a reference names. -/
structure Subject where
  label : String
  code : String

def Subject.siteMismatch (subject : Subject) (part : String) : DomainError :=
  validationError ("Maintenance " ++ subject.label ++ " " ++ part ++
    " must belong to the selected site.") (subject.code ++ "_SITE_MISMATCH")

def resolveAsset (subject : Subject) (siteId : String) (given : Option String)
    (asset : Option SiteRecord) (component : Option AssetComponent) :
    Except DomainError (Option String) :=
  match component with
  | none => .ok given
  | some row => do
      let componentAsset ← getAsset store organization row.assetId
      ensure (componentAsset.siteId = siteId) (subject.siteMismatch "component")
      ensure (∀ other ∈ asset, row.assetId = other.id)
        (validationError ("Maintenance " ++ subject.label ++
          " component must belong to the selected asset.")
          (subject.code ++ "_COMPONENT_ASSET_MISMATCH"))
      return if asset.isSome then given else some componentAsset.id

/-- The references of a record must lie on its site. -/
def resolveContextReferences (subject : Subject) (siteId : String) (context : WorkContext) :
    Except DomainError WorkContext := do
  let asset ← lookup (getAsset store organization) context.assetId
  let component ← lookup (getComponent store organization) context.componentId
  let system ← lookup (getSystem store organization) context.systemId
  let location ← lookup (getLocation store organization) context.locationId
  ensure (∀ row ∈ asset, row.siteId = siteId) (subject.siteMismatch "asset")
  let assetId ← resolveAsset store organization subject siteId context.assetId asset component
  ensure (∀ row ∈ system, row.siteId = siteId) (subject.siteMismatch "system")
  ensure (∀ row ∈ location, row.siteId = siteId) (subject.siteMismatch "location")
  return { context with assetId := assetId }

def scopeAnchorFor (context : WorkContext) : String :=
  match givenReference context.assetId with
  | some assetId => assetId
  | none =>
      let component := (givenReference context.componentId).bind store.components.get?
      match component.filter fun row => row.assetId ≠ "" with
      | some row => row.assetId
      | none => orElse (context.systemId.getD "") (context.locationId.getD "")

end

end ProjectManager.Maintenance
