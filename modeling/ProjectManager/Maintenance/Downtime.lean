import ProjectManager.Foundation.Parts
import ProjectManager.Maintenance.OrderHistory

/-! # Downtime events

An event takes a work order, an asset or a system out of service for a time. A call
that creates or updates an event writes the minutes of all events of an order to the
order, also to the one that the event is moved away from.
-/

namespace ProjectManager.Maintenance

open Foundation

structure DowntimeEvent where
  id : String
  organizationId : String
  assetId : Option String := none
  systemId : Option String := none
  workOrderId : Option String := none
  startedAt : Moment
  endedAt : Option Moment := none
  durationMinutes : Option ℤ := none
  downtimeType : String := ""
  reasonCode : String := ""
  impactNotes : String := ""
  version : ℕ := 1
  deriving DecidableEq

/-- The store of the module with its downtime events, and the systems that the assets stand in. -/
structure DowntimeStore extends MaintenanceStore where
  systemOfAsset : String → Option String := fun _ => none
  downtimeEvents : Table DowntimeEvent.id := .empty

/-! ## Times -/

/-- A time that is given as one, or as a text that need not be one. -/
inductive GivenMoment
  | blank
  | unreadable
  | moment (value : Moment)
  deriving DecidableEq

def coerceOptionalDatetime (value : GivenMoment) (label : String) :
    Except DomainError (Option Moment) :=
  match value with
  | .blank => .ok none
  | .unreadable => .error (validationError (label ++ " is invalid. Use ISO datetime format.")
      (labelCode label ++ "_INVALID"))
  | .moment value => .ok (some value)

/-- Times that are given have a zone; the database gives them back without one. -/
structure Timestamp where
  moment : Moment
  hasZone : Bool
  deriving DecidableEq

def offsetMismatch : DomainError where
  errorClass := .typeError
  message := "can't compare offset-naive and offset-aware datetimes"

/-- The minutes that were begun. -/
def calculateDowntimeMinutes (startedAt : Timestamp) (endedAt : Option Timestamp) :
    Except DomainError (Option ℤ) :=
  match endedAt with
  | none => .ok none
  | some endedAt => do
      ensure (endedAt.hasZone = startedAt.hasZone) offsetMismatch
      ensure (¬ endedAt.moment < startedAt.moment)
        (validationError "Downtime end cannot be earlier than downtime start."
          "MAINTENANCE_DOWNTIME_RANGE_INVALID")
      return some ((max 0 (endedAt.moment - startedAt.moment) + 59000000) / 60000000)

/-! ## Contexts -/

structure DowntimeContext where
  workOrder : Option WorkOrder
  assetId : Option String
  systemId : Option String

/-- Without an anchor the call is for sessions that no scope restricts. -/
def MaintenanceServices.requireScopeManage (services : MaintenanceServices)
    (scopeId operationLabel : String) : Except DomainError Unit :=
  if scopeId = "" then
    ensure (¬ services.userSession.isScopeRestricted "maintenance" = true) (permissionDenied
      ("Permission denied for " ++ operationLabel ++
        ". The record is not anchored to a maintenance scope grant."))
  else
    services.userSession.requireScopePermission "maintenance" scopeId "maintenance.manage"
      operationLabel

/-- Look a reference up unless it is blank. -/
def lookupNamed {α : Type} (get : String → Except DomainError α) (reference : Option String) :
    Except DomainError (Option α) :=
  match reference.filter fun id => strip id ≠ "" with
  | some id => some <$> get id
  | none => .ok none

section

variable (services : MaintenanceServices) (store : DowntimeStore) (organization : String)

def anchorOr (given : Option SiteRecord) (get : String → Except DomainError SiteRecord)
    (reference : Option String) : Except DomainError (Option SiteRecord) :=
  match given with
  | some row => .ok (some row)
  | none => lookup get reference

/-- The asset and the system of an event on an order, which the order brings with it. -/
def anchorsOfOrder (order : WorkOrder) (asset system : Option SiteRecord) :
    Except DomainError (Option SiteRecord × Option SiteRecord) := do
  let asset ← anchorOr asset (getAsset store.toMaintenanceStore organization) order.assetId
  let system ← anchorOr system (getSystem store.toMaintenanceStore organization) order.systemId
  ensure (∀ row ∈ asset, ∀ id ∈ givenReference order.assetId, id = row.id)
    (validationError "Downtime event asset must match the selected work order asset."
      "MAINTENANCE_DOWNTIME_WORK_ORDER_ASSET_MISMATCH")
  ensure (∀ row ∈ system, ∀ id ∈ givenReference order.systemId, id = row.id)
    (validationError "Downtime event system must match the selected work order system."
      "MAINTENANCE_DOWNTIME_WORK_ORDER_SYSTEM_MISMATCH")
  return (asset, system)

def anchorsOf (workOrder : Option WorkOrder) (asset system : Option SiteRecord) :
    Except DomainError (Option SiteRecord × Option SiteRecord) :=
  match workOrder with
  | some order => anchorsOfOrder store organization order asset system
  | none => .ok (asset, system)

def downtimeScopeId (workOrder : Option WorkOrder) (asset system : Option SiteRecord) : String :=
  match asset, system, workOrder with
  | some row, _, _ => row.id
  | none, some row, _ => row.id
  | none, none, some order => scopeAnchorFor store.toMaintenanceStore order.context
  | none, none, none => ""

def resolveDowntimeContext (workOrderId assetId systemId : Option String)
    (operationLabel : String) : Except DomainError DowntimeContext := do
  let base := store.toMaintenanceStore
  let workOrder ← lookupNamed (requireWorkOrder base organization) workOrderId
  let named ← lookupNamed (getAsset base organization) assetId
  let stands ← lookupNamed (getSystem base organization) systemId
  let (asset, system) ← anchorsOf store organization workOrder named stands
  ensure (asset.isSome = true ∨ system.isSome = true ∨ workOrder.isSome = true)
    (validationError "Downtime event must be linked to a work order, asset, or system."
      "MAINTENANCE_DOWNTIME_CONTEXT_REQUIRED")
  ensure (∀ row ∈ asset, ∀ other ∈ system,
      ∀ id ∈ givenReference (store.systemOfAsset row.id), id = other.id)
    (validationError "Downtime event asset is already anchored to a different maintenance system."
      "MAINTENANCE_DOWNTIME_SYSTEM_MISMATCH")
  services.requireScopeManage (downtimeScopeId store workOrder asset system) operationLabel
  return ⟨workOrder, asset.map SiteRecord.id, system.map SiteRecord.id⟩

end

/-! ## The minutes of an order -/

section

variable (store : DowntimeStore)

def eventsOfOrder (order : WorkOrder) : List DowntimeEvent :=
  store.downtimeEvents.rows.filter fun event =>
    event.organizationId = order.organizationId ∧ event.workOrderId = some order.id

/-- Zero minutes are none. -/
def downtimeOfOrder (order : WorkOrder) : Option ℤ :=
  (some ((eventsOfOrder store order).map fun event => event.durationMinutes.getD 0).sum).filter
    (· ≠ 0)

def syncWorkOrderDowntimeMinutes (order : WorkOrder) : DowntimeStore :=
  { store with
    orders := store.orders.update { order with
      downtimeMinutes := downtimeOfOrder store order
      version := order.version + 1 } }

def syncWorkOrders (affected : List WorkOrder) : DowntimeStore :=
  affected.foldl syncWorkOrderDowntimeMinutes store

end

/-! ## Creation -/

structure CreateDowntimeArguments where
  startedAt : Option GivenMoment
  downtimeType : String
  workOrderId : Option String := none
  assetId : Option String := none
  systemId : Option String := none
  endedAt : Option GivenMoment := none
  reasonCode : String := ""
  impactNotes : String := ""
  eventId : String

def downtimeStartRequired : DomainError :=
  validationError "Downtime start is required." "MAINTENANCE_DOWNTIME_START_REQUIRED"

/-- A time that is given with the call. -/
def givenTimestamp (value : GivenMoment) (label : String) :
    Except DomainError (Option Timestamp) := do
  let moment ← coerceOptionalDatetime value label
  return moment.map fun moment => ⟨moment, true⟩

def requiredStart (value : GivenMoment) : Except DomainError Timestamp := do
  let startedAt ← givenTimestamp value "Downtime start"
  require startedAt downtimeStartRequired

section

variable (services : MaintenanceServices) (store : DowntimeStore)

/-- A new event, and the order that it takes out of service. -/
def prepareDowntimeEvent (arguments : CreateDowntimeArguments) :
    Except DomainError (DowntimeEvent × List WorkOrder) := do
  services.requireManage "create maintenance downtime event"
  let organization ← services.organization
  let context ← resolveDowntimeContext services store organization arguments.workOrderId
    arguments.assetId arguments.systemId "create maintenance downtime event"
  let startedAt ← requiredStart (arguments.startedAt.getD .blank)
  let endedAt ← givenTimestamp (arguments.endedAt.getD .blank) "Downtime end"
  let durationMinutes ← calculateDowntimeMinutes startedAt endedAt
  let downtimeType ← normalizeMaintenanceName arguments.downtimeType "Downtime type"
  return ({
    id := arguments.eventId
    organizationId := organization
    assetId := context.assetId
    systemId := context.systemId
    workOrderId := context.workOrder.map WorkOrder.id
    startedAt := startedAt.moment
    endedAt := endedAt.map Timestamp.moment
    durationMinutes := durationMinutes
    downtimeType := upper downtimeType
    reasonCode := upper (strip arguments.reasonCode)
    impactNotes := strip arguments.impactNotes }, context.workOrder.toList)

/-- What the database refuses is raised as it is. -/
def insertDowntimeEvent (row : DowntimeEvent) (affected : List WorkOrder) :
    Except DomainError DowntimeStore := do
  ensure (row.id ∉ store.downtimeEvents.ids) (takenPrimaryKey "maintenance_downtime_events")
  whenGiven (services.refuses row.id) .error
  return syncWorkOrders { store with downtimeEvents := store.downtimeEvents.insert row } affected

/-! ## Updates -/

structure UpdateDowntimeArguments where
  downtimeEventId : String
  workOrderId : Option String := none
  assetId : Option String := none
  systemId : Option String := none
  startedAt : Option GivenMoment := none
  endedAt : Option GivenMoment := none
  downtimeType : Option String := none
  reasonCode : Option String := none
  impactNotes : Option String := none
  expectedVersion : Option ℕ := none

def scopeAnchorForEvent (row : DowntimeEvent) : String :=
  match givenReference row.assetId, givenReference row.systemId, givenReference row.workOrderId with
  | some id, _, _ => id
  | none, some id, _ => id
  | none, none, reference =>
      match reference.bind store.orders.get? with
      | some order => scopeAnchorFor store.toMaintenanceStore order.context
      | none => ""

def getDowntimeEvent (downtimeEventId : String) : Except DomainError DowntimeEvent := do
  services.requireRead "view maintenance downtime event"
  let organization ← services.organization
  let row ← require
    ((store.downtimeEvents.get? downtimeEventId).filter fun row =>
      row.organizationId = organization)
    (notFoundError "Maintenance downtime event not found in the active organization."
      "MAINTENANCE_DOWNTIME_EVENT_NOT_FOUND")
  services.requireScopeRead (scopeAnchorForEvent store row) "view maintenance downtime event"
  return row

def changedStart (row : DowntimeEvent) (given : Option GivenMoment) :
    Except DomainError Timestamp :=
  givenOr given ⟨row.startedAt, false⟩ requiredStart

def changedEnd (row : DowntimeEvent) (given : Option GivenMoment) :
    Except DomainError (Option Timestamp) :=
  givenOr given (row.endedAt.map fun moment => ⟨moment, false⟩) fun value =>
    givenTimestamp value "Downtime end"

/-- The order of the event and the one that it is moved to, each once. -/
def affectedWorkOrders (previous current : Option WorkOrder) : List WorkOrder :=
  previous.toList ++
    (current.filter fun order => ∀ existing ∈ previous, existing.id ≠ order.id).toList

def prepareUpdatedDowntimeEvent (arguments : UpdateDowntimeArguments) :
    Except DomainError (DowntimeEvent × List WorkOrder) := do
  services.requireManage "update maintenance downtime event"
  let organization ← services.organization
  let row ← getDowntimeEvent services store arguments.downtimeEventId
  ensure (∀ version ∈ arguments.expectedVersion, row.version = version)
    (staleWrite "Maintenance downtime event")
  let previous ← lookup (requireWorkOrder store.toMaintenanceStore organization) row.workOrderId
  let context ← resolveDowntimeContext services store organization
    (arguments.workOrderId <|> row.workOrderId) (arguments.assetId <|> row.assetId)
    (arguments.systemId <|> row.systemId) "update maintenance downtime event"
  let startedAt ← changedStart row arguments.startedAt
  let endedAt ← changedEnd row arguments.endedAt
  let durationMinutes ← calculateDowntimeMinutes startedAt endedAt
  let downtimeType ← givenOr arguments.downtimeType row.downtimeType fun given =>
    upper <$> normalizeMaintenanceName given "Downtime type"
  return ({ row with
    workOrderId := context.workOrder.map WorkOrder.id
    assetId := context.assetId
    systemId := context.systemId
    startedAt := startedAt.moment
    endedAt := endedAt.map Timestamp.moment
    durationMinutes := durationMinutes
    downtimeType := downtimeType
    reasonCode := (arguments.reasonCode.map fun given => upper (strip given)).getD row.reasonCode
    impactNotes := (arguments.impactNotes.map strip).getD row.impactNotes
    version := row.version + 1 }, affectedWorkOrders previous context.workOrder)

def saveDowntimeEvent (row : DowntimeEvent) (affected : List WorkOrder) : DowntimeStore :=
  syncWorkOrders { store with downtimeEvents := store.downtimeEvents.update row } affected

end

/-! ## Calls -/

section

variable (services : MaintenanceServices)

def createDowntimeEvent (arguments : CreateDowntimeArguments) :
    Program DomainError DowntimeStore (DowntimeEvent × List WorkOrder) :=
  Program.transact (fun store => prepareDowntimeEvent services store arguments)
    fun plan store => insertDowntimeEvent services store plan.1 plan.2

def updateDowntimeEvent (arguments : UpdateDowntimeArguments) :
    Program DomainError DowntimeStore (DowntimeEvent × List WorkOrder) :=
  Program.transact (fun store => prepareUpdatedDowntimeEvent services store arguments)
    fun plan store => .ok (saveDowntimeEvent store plan.1 plan.2)

end

inductive DowntimeCall
  | work (call : WorkCall)
  | createEvent (services : MaintenanceServices) (arguments : CreateDowntimeArguments)
  | updateEvent (services : MaintenanceServices) (arguments : UpdateDowntimeArguments)

/-- The rows that the calls on work see. -/
def workPart : Part DowntimeStore MaintenanceStore where
  get store := store.toMaintenanceStore
  set store next := { store with toMaintenanceStore := next }
  get_set _ _ := rfl
  set_set _ _ _ := rfl

def DowntimeCall.run : DowntimeCall → Session DowntimeStore → Outcome DomainError DowntimeStore
  | .work call => workPart.run call.run
  | .createEvent services arguments => (createDowntimeEvent services arguments).outcome
  | .updateEvent services arguments => (updateDowntimeEvent services arguments).outcome

end ProjectManager.Maintenance
