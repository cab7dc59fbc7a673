import Mathlib.Data.Rat.Defs
import ProjectManager.Calendar.Moments
import ProjectManager.Domain.Checks
import ProjectManager.Foundation.UniqueColumns

/-! # Rows of the maintenance module

Preventive plans put instances on a schedule, and instances become work requests
or work orders. Readings and counters are rational numbers. Of the timestamps
those are kept that a decision reads.
-/

namespace ProjectManager.Maintenance

open Foundation

/-! ## Enumerations -/

inductive Priority
  | low
  | medium
  | high
  | emergency
  deriving DecidableEq, Repr

inductive TriggerMode
  | calendar
  | sensor
  | hybrid
  deriving DecidableEq, Repr

inductive WorkRequestSourceType
  | manual
  | preventivePlan
  | sensorTrigger
  | inspection
  | integration
  deriving DecidableEq, Repr

inductive WorkRequestStatus
  | new
  | triaged
  | approved
  | rejected
  | converted
  | deferred
  deriving DecidableEq, Repr

inductive WorkOrderType
  | corrective
  | preventive
  | inspection
  | calibration
  | emergency
  | conditionBased
  deriving DecidableEq, Repr

inductive WorkOrderStatus
  | draft
  | planned
  | waitingParts
  | waitingApproval
  | waitingShutdown
  | scheduled
  | released
  | inProgress
  | paused
  | completed
  | verified
  | closed
  | cancelled
  deriving DecidableEq, Repr

inductive TaskCompletionRule
  | noStepsRequired
  | allStepsRequired
  deriving DecidableEq, Repr

inductive WorkOrderTaskStatus
  | notStarted
  | inProgress
  | completed
  | blocked
  | skipped
  deriving DecidableEq, Repr

inductive WorkOrderTaskStepStatus
  | notStarted
  | inProgress
  | done
  | skipped
  | failed
  deriving DecidableEq, Repr

inductive SensorQualityState
  | valid
  | stale
  | estimated
  | error
  deriving DecidableEq, Repr

inductive PlanStatus
  | draft
  | active
  | paused
  | retired
  deriving DecidableEq, Repr

inductive PlanType
  | preventive
  | inspection
  | lubrication
  | calibration
  | conditionBased
  deriving DecidableEq, Repr

inductive CalendarFrequencyUnit
  | daily
  | weekly
  | monthly
  | quarterly
  | yearly
  | customDays
  deriving DecidableEq, Repr

inductive SensorDirection
  | greaterOrEqual
  | lessOrEqual
  | equal
  deriving DecidableEq, Repr

inductive PlanTaskTriggerScope
  | inheritPlan
  | taskOverride
  deriving DecidableEq, Repr

inductive SchedulePolicy
  | fixed
  | floating
  deriving DecidableEq, Repr

inductive GenerationLeadUnit
  | days
  | weeks
  | months
  deriving DecidableEq, Repr

inductive PreventiveInstanceStatus
  | planned
  | generated
  | completed
  | cancelled
  deriving DecidableEq, Repr

inductive FailureCodeType
  | symptom
  | cause
  | remedy
  deriving DecidableEq, Repr

def Priority.value : Priority → String
  | .low => "LOW"
  | .medium => "MEDIUM"
  | .high => "HIGH"
  | .emergency => "EMERGENCY"

def WorkRequestSourceType.value : WorkRequestSourceType → String
  | .manual => "MANUAL"
  | .preventivePlan => "PREVENTIVE_PLAN"
  | .sensorTrigger => "SENSOR_TRIGGER"
  | .inspection => "INSPECTION"
  | .integration => "INTEGRATION"

def WorkRequestStatus.value : WorkRequestStatus → String
  | .new => "NEW"
  | .triaged => "TRIAGED"
  | .approved => "APPROVED"
  | .rejected => "REJECTED"
  | .converted => "CONVERTED"
  | .deferred => "DEFERRED"

def WorkOrderType.value : WorkOrderType → String
  | .corrective => "CORRECTIVE"
  | .preventive => "PREVENTIVE"
  | .inspection => "INSPECTION"
  | .calibration => "CALIBRATION"
  | .emergency => "EMERGENCY"
  | .conditionBased => "CONDITION_BASED"

def WorkOrderStatus.value : WorkOrderStatus → String
  | .draft => "DRAFT"
  | .planned => "PLANNED"
  | .waitingParts => "WAITING_PARTS"
  | .waitingApproval => "WAITING_APPROVAL"
  | .waitingShutdown => "WAITING_SHUTDOWN"
  | .scheduled => "SCHEDULED"
  | .released => "RELEASED"
  | .inProgress => "IN_PROGRESS"
  | .paused => "PAUSED"
  | .completed => "COMPLETED"
  | .verified => "VERIFIED"
  | .closed => "CLOSED"
  | .cancelled => "CANCELLED"

def PlanType.value : PlanType → String
  | .preventive => "PREVENTIVE"
  | .inspection => "INSPECTION"
  | .lubrication => "LUBRICATION"
  | .calibration => "CALIBRATION"
  | .conditionBased => "CONDITION_BASED"

def FailureCodeType.value : FailureCodeType → String
  | .symptom => "SYMPTOM"
  | .cause => "CAUSE"
  | .remedy => "REMEDY"

def TaskCompletionRule.value : TaskCompletionRule → String
  | .noStepsRequired => "NO_STEPS_REQUIRED"
  | .allStepsRequired => "ALL_STEPS_REQUIRED"

def WorkOrderTaskStatus.value : WorkOrderTaskStatus → String
  | .notStarted => "NOT_STARTED"
  | .inProgress => "IN_PROGRESS"
  | .completed => "COMPLETED"
  | .blocked => "BLOCKED"
  | .skipped => "SKIPPED"

def WorkOrderTaskStepStatus.value : WorkOrderTaskStepStatus → String
  | .notStarted => "NOT_STARTED"
  | .inProgress => "IN_PROGRESS"
  | .done => "DONE"
  | .skipped => "SKIPPED"
  | .failed => "FAILED"

/-! ## Master data -/

structure Site where
  id : String
  organizationId : String
  deriving DecidableEq

/-- An asset, a system or a location. -/
structure SiteRecord where
  id : String
  organizationId : String
  siteId : String
  deriving DecidableEq

structure AssetComponent where
  id : String
  organizationId : String
  assetId : String
  deriving DecidableEq

structure User where
  id : String
  username : String
  displayName : Option String := none
  deriving DecidableEq

structure FailureCode where
  id : String
  organizationId : String
  failureCode : String
  codeType : FailureCodeType := .symptom
  deriving DecidableEq

structure Sensor where
  id : String
  organizationId : String
  currentValue : Option ℚ := none
  lastReadAt : Option Moment := none
  lastQualityState : SensorQualityState := .valid
  deriving DecidableEq

structure TaskTemplate where
  id : String
  organizationId : String
  taskTemplateCode : String
  name : String
  description : String := ""
  estimatedMinutes : Option ℤ := none
  requiredSkill : String := ""
  deriving DecidableEq

structure TaskStepTemplate where
  id : String
  organizationId : String
  taskTemplateId : String
  stepNumber : ℤ
  instruction : String
  expectedResult : String := ""
  hintLevel : String := ""
  hintText : String := ""
  requiresConfirmation : Bool := false
  requiresMeasurement : Bool := false
  requiresPhoto : Bool := false
  measurementUnit : String := ""
  sortOrder : ℤ := 0
  isActive : Bool := true
  deriving DecidableEq

/-! ## Preventive plans -/

structure PreventivePlan where
  id : String
  organizationId : String
  siteId : String
  planCode : String
  name : String
  assetId : Option String := none
  componentId : Option String := none
  systemId : Option String := none
  status : PlanStatus := .draft
  planType : PlanType := .preventive
  priority : Priority := .medium
  triggerMode : TriggerMode := .calendar
  schedulePolicy : SchedulePolicy := .fixed
  calendarFrequencyUnit : Option CalendarFrequencyUnit := none
  calendarFrequencyValue : Option ℕ := none
  generationHorizonCount : ℕ := 13
  generationLeadValue : ℕ := 0
  generationLeadUnit : GenerationLeadUnit := .days
  sensorId : Option String := none
  sensorThreshold : Option ℚ := none
  sensorDirection : Option SensorDirection := none
  lastGeneratedAt : Option Moment := none
  lastCompletedAt : Option Moment := none
  nextDueAt : Option Moment := none
  nextDueCounter : Option ℚ := none
  requiresShutdown : Bool := false
  approvalRequired : Bool := false
  autoGenerateWorkOrder : Bool := false
  isActive : Bool := true
  deriving DecidableEq

structure PreventivePlanTask where
  id : String
  organizationId : String
  planId : String
  taskTemplateId : String
  triggerScope : PlanTaskTriggerScope := .inheritPlan
  triggerModeOverride : Option TriggerMode := none
  calendarFrequencyUnitOverride : Option CalendarFrequencyUnit := none
  calendarFrequencyValueOverride : Option ℕ := none
  sensorIdOverride : Option String := none
  sensorThresholdOverride : Option ℚ := none
  sensorDirectionOverride : Option SensorDirection := none
  sequenceNo : ℤ := 1
  isMandatory : Bool := true
  defaultAssignedEmployeeId : Option String := none
  defaultAssignedTeamId : Option String := none
  estimatedMinutesOverride : Option ℤ := none
  lastGeneratedAt : Option Moment := none
  nextDueAt : Option Moment := none
  nextDueCounter : Option ℚ := none
  deriving DecidableEq

structure PreventivePlanInstance where
  id : String
  organizationId : String
  planId : String
  dueAt : Moment
  status : PreventiveInstanceStatus := .planned
  generatedAt : Option Moment := none
  generatedWorkRequestId : Option String := none
  generatedWorkOrderId : Option String := none
  completedAt : Option Moment := none
  notes : String := ""
  deriving DecidableEq

/-- The columns in which no two instances agree. -/
def PreventivePlanInstance.slot (row : PreventivePlanInstance) : String × String × Moment :=
  (row.organizationId, row.planId, row.dueAt)

/-! ## Work -/

structure WorkRequest where
  id : String
  organizationId : String
  siteId : String
  workRequestCode : String
  sourceType : WorkRequestSourceType
  requestType : String
  sourceId : Option String := none
  sourcePlanTaskIds : List String := []
  assetId : Option String := none
  componentId : Option String := none
  systemId : Option String := none
  locationId : Option String := none
  title : String := ""
  description : String := ""
  priority : Priority := .medium
  status : WorkRequestStatus := .new
  requestedByUserId : Option String := none
  requestedByNameSnapshot : String := ""
  triagedAt : Option Moment := none
  triagedByUserId : Option String := none
  failureSymptomCode : String := ""
  safetyRiskLevel : String := ""
  productionImpactLevel : String := ""
  notes : String := ""
  version : ℕ := 1
  deriving DecidableEq

structure WorkOrder where
  id : String
  organizationId : String
  siteId : String
  workOrderCode : String
  workOrderType : WorkOrderType
  sourceType : String
  sourceId : Option String := none
  assetId : Option String := none
  componentId : Option String := none
  systemId : Option String := none
  locationId : Option String := none
  title : String := ""
  description : String := ""
  priority : Priority := .medium
  status : WorkOrderStatus := .draft
  requestedByUserId : Option String := none
  plannerUserId : Option String := none
  supervisorUserId : Option String := none
  assignedTeamId : Option String := none
  assignedEmployeeId : Option String := none
  plannedStart : Option Moment := none
  plannedEnd : Option Moment := none
  actualStart : Option Moment := none
  actualEnd : Option Moment := none
  requiresShutdown : Bool := false
  permitRequired : Bool := false
  approvalRequired : Bool := false
  failureCode : String := ""
  rootCauseCode : String := ""
  downtimeMinutes : Option ℤ := none
  partsCost : Option ℚ := none
  laborCost : Option ℚ := none
  vendorPartyId : Option String := none
  isPreventive : Bool := false
  isEmergency : Bool := false
  closedAt : Option Moment := none
  closedByUserId : Option String := none
  notes : String := ""
  version : ℕ := 1
  deriving DecidableEq

structure WorkOrderTask where
  id : String
  organizationId : String
  workOrderId : String
  taskTemplateId : Option String := none
  taskName : String
  description : String := ""
  assignedEmployeeId : Option String := none
  assignedTeamId : Option String := none
  estimatedMinutes : Option ℤ := none
  actualMinutes : Option ℤ := none
  requiredSkill : String := ""
  status : WorkOrderTaskStatus := .notStarted
  startedAt : Option Moment := none
  completedAt : Option Moment := none
  sequenceNo : ℤ := 1
  isMandatory : Bool := true
  completionRule : TaskCompletionRule := .noStepsRequired
  notes : String := ""
  version : ℕ := 1
  deriving DecidableEq

structure WorkOrderTaskStep where
  id : String
  organizationId : String
  workOrderTaskId : String
  sourceStepTemplateId : Option String := none
  stepNumber : ℤ := 1
  instruction : String
  expectedResult : String := ""
  hintLevel : String := ""
  hintText : String := ""
  status : WorkOrderTaskStepStatus := .notStarted
  requiresConfirmation : Bool := false
  requiresMeasurement : Bool := false
  requiresPhoto : Bool := false
  measurementValue : String := ""
  measurementUnit : String := ""
  completedByUserId : Option String := none
  completedAt : Option Moment := none
  confirmedByUserId : Option String := none
  confirmedAt : Option Moment := none
  notes : String := ""
  version : ℕ := 1
  deriving DecidableEq

structure MaintenanceStore where
  sites : Table Site.id := .empty
  assets : Table SiteRecord.id := .empty
  components : Table AssetComponent.id := .empty
  systems : Table SiteRecord.id := .empty
  locations : Table SiteRecord.id := .empty
  users : Table User.id := .empty
  failureCodes : Table FailureCode.id := .empty
  sensors : Table Sensor.id := .empty
  taskTemplates : Table TaskTemplate.id := .empty
  stepTemplates : Table TaskStepTemplate.id := .empty
  plans : Table PreventivePlan.id := .empty
  planTasks : Table PreventivePlanTask.id := .empty
  instances : UniqueTable PreventivePlanInstance.id PreventivePlanInstance.slot := .empty
  requests : Table WorkRequest.id := .empty
  orders : Table WorkOrder.id := .empty
  orderTasks : Table WorkOrderTask.id := .empty
  taskSteps : Table WorkOrderTaskStep.id := .empty

end ProjectManager.Maintenance
