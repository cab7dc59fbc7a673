import ProjectManager.Maintenance.WorkOrders

/-! # Generation of due work

Every visible active plan has its turn: its planned instances are synchronised, and
when it is due, a work order or a work request is generated. The state of the plan and
of its selected tasks is saved after that, by calls of their own.
-/

namespace ProjectManager.Maintenance

open Foundation

structure GenerationArguments where
  asOf : Moment
  siteId : Option String := none
  planId : Option String := none

/-- The ids generated in the turn of a plan: of the order or request, of its tasks and steps, and
of the instances planned before and after the generation. -/
structure TurnIds where
  workId : String
  token : String
  package : PackageIds
  plannedId : Moment → String
  replannedId : Moment → String

structure GenerationResult where
  planId : String
  planCode : String
  generationTarget : GenerationTarget
  generatedWorkRequestId : Option String := none
  generatedWorkOrderId : Option String := none
  generatedTaskIds : List String := []
  generatedStepIds : List String := []
  skippedReason : String := ""

/-! ## What is generated -/

def mapPlanToWorkOrderType : PlanType → String
  | .preventive => "PREVENTIVE"
  | .inspection => "INSPECTION"
  | .calibration => "CALIBRATION"
  | .lubrication => "PREVENTIVE"
  | .conditionBased => "CONDITION_BASED"

def buildGeneratedCode (baseCode suffix token : String) : String :=
  baseCode ++ "-" ++ suffix ++ "-" ++ token

section

variable (plan : PreventivePlan) (candidate : DueCandidate) (asOf : Moment)

def buildGenerationDescription : String :=
  "Generated from preventive plan " ++ plan.planCode ++ " on " ++ asOf.isoformat ++
    ". Trigger reason: " ++ candidate.dueReason

def PreventivePlan.context : WorkContext where
  assetId := plan.assetId
  componentId := plan.componentId
  systemId := plan.systemId

def generatedOrderArguments (ids : TurnIds) : CreateWorkOrderArguments where
  siteId := plan.siteId
  workOrderCode := buildGeneratedCode plan.planCode "WO" ids.token
  workOrderType := some (.text (mapPlanToWorkOrderType plan.planType))
  sourceType := "PREVENTIVE_PLAN"
  sourceId := some plan.id
  context := plan.context
  title := plan.name
  description := buildGenerationDescription plan candidate asOf
  priority := some (.member plan.priority)
  requiresShutdown := plan.requiresShutdown
  approvalRequired := plan.approvalRequired
  isPreventive := true
  notes := "Generated from preventive plan " ++ plan.planCode ++ "."
  orderId := ids.workId
  package := ids.package

def generatedRequestArguments (planTasks : List PreventivePlanTask) (ids : TurnIds) :
    CreateWorkRequestArguments where
  siteId := plan.siteId
  workRequestCode := buildGeneratedCode plan.planCode "WR" ids.token
  sourceType := some (.text "PREVENTIVE_PLAN")
  sourceId := some plan.id
  sourcePlanTaskIds := planTasks.map PreventivePlanTask.id
  requestType := plan.planType.value
  context := plan.context
  title := plan.name
  description := buildGenerationDescription plan candidate asOf
  priority := some (.member plan.priority)
  notes := "Generated from preventive plan " ++ plan.planCode ++ "."
  requestId := ids.workId

end

/-! ## The state of the plan -/

def generatedInstance (asOf : Moment) (generatedWorkRequestId generatedWorkOrderId : Option String)
    (row : PreventivePlanInstance) : PreventivePlanInstance :=
  { row with
    status := .generated
    generatedAt := some asOf
    generatedWorkRequestId := generatedWorkRequestId
    generatedWorkOrderId := generatedWorkOrderId }

section

variable (store : MaintenanceStore)

def linkGenerated (instanceId : String) (asOf : Moment)
    (generatedWorkRequestId generatedWorkOrderId : Option String) : MaintenanceStore :=
  { store with
    instances := store.instances.modify instanceId
      (generatedInstance asOf generatedWorkRequestId generatedWorkOrderId)
      (fun _ => rfl) fun _ => rfl }

/-- A plan is due next with the first instance that remains planned. Without a due instance it is
scheduled anew from the generation. -/
def nextDueAfter (plan : PreventivePlan) (asOf : Moment)
    (dueInstance : Option PreventivePlanInstance) : Option Moment :=
  match dueInstance with
  | some row =>
      (((listPlanned store plan).filter fun other => other.id ≠ row.id).head?).map
        PreventivePlanInstance.dueAt
  | none => nextCalendarDueValue asOf plan.calendarFrequencyUnit plan.calendarFrequencyValue

/-- A counter that never passes its reading is an interrupted call. -/
def generatedPlan (plan : PreventivePlan) (asOf : Moment)
    (dueInstance : Option PreventivePlanInstance) : Except DomainError PreventivePlan := do
  let nextDueCounter ← require
    (nextSensorDueCounter (linkedSensor store plan.sensorId) plan.sensorThreshold
      plan.sensorDirection plan.nextDueCounter) interrupted
  return { plan with
    lastGeneratedAt := some asOf
    nextDueAt := nextDueAfter store plan asOf dueInstance
    nextDueCounter := nextDueCounter }

def saveGeneration (plan : PreventivePlan) (asOf : Moment)
    (dueInstance : Option PreventivePlanInstance)
    (generatedWorkRequestId generatedWorkOrderId : Option String) : MaintenanceStore :=
  let linked := match dueInstance with
    | some row => linkGenerated store row.id asOf generatedWorkRequestId generatedWorkOrderId
    | none => store
  { linked with plans := linked.plans.update plan }

def generatedPlanTask (planTask : PreventivePlanTask) (asOf : Moment) :
    Except DomainError PreventivePlanTask := do
  let nextDueCounter ← require
    (nextSensorDueCounter (linkedSensor store planTask.sensorIdOverride)
      planTask.sensorThresholdOverride planTask.sensorDirectionOverride planTask.nextDueCounter)
    interrupted
  return { planTask with
    lastGeneratedAt := some asOf
    nextDueAt := nextCalendarDueValue asOf planTask.calendarFrequencyUnitOverride
      planTask.calendarFrequencyValueOverride
    nextDueCounter := nextDueCounter }

def saveGeneratedTask (planTask : PreventivePlanTask) (asOf : Moment) :
    Except DomainError MaintenanceStore := do
  let updated ← generatedPlanTask store planTask asOf
  return { store with planTasks := store.planTasks.update updated }

end

def applyPlanGenerationState (plan : PreventivePlan) (asOf : Moment)
    (dueInstance : Option PreventivePlanInstance)
    (generatedWorkRequestId generatedWorkOrderId : Option String)
    (replannedId : Moment → String) : MaintenanceProgram Unit := do
  let updated ← Program.check fun store => generatedPlan store plan asOf dueInstance
  Program.save fun store =>
    .ok (saveGeneration store updated asOf dueInstance generatedWorkRequestId generatedWorkOrderId)
  if dueInstance.isSome = true then do
    let _ ← syncCalendarPlanInstances updated asOf replannedId
    return ()
  else return ()

def applyPlanTaskGenerationState (planTask : PreventivePlanTask) (asOf : Moment) :
    MaintenanceProgram Unit :=
  Program.save fun store => saveGeneratedTask store planTask asOf

/-! ## The turn of a plan -/

def selectedPlanTasks (store : MaintenanceStore) (organization planId : String)
    (candidate : DueCandidate) : List PreventivePlanTask :=
  (listPlanTasks store organization planId).filter fun row =>
    row.id ∈ candidate.selectedPlanTaskIds

def scopeAnchorForPlan (plan : PreventivePlan) : String :=
  orElse (plan.assetId.getD "") (orElse (plan.componentId.getD "") (plan.systemId.getD ""))

section

variable (services : MaintenanceServices)

def requireScopeManage (scopeId operationLabel : String) : Except DomainError Unit :=
  services.userSession.requireScopePermission "maintenance" scopeId "maintenance.manage"
    operationLabel

def generateWork (plan : PreventivePlan) (candidate : DueCandidate) (asOf : Moment)
    (planTasks : List PreventivePlanTask) (ids : TurnIds) : MaintenanceProgram GenerationResult :=
  if plan.autoGenerateWorkOrder then do
    let order ← createWorkOrder services (generatedOrderArguments plan candidate asOf ids)
    let package ← populateWorkOrder services plan planTasks order.id ids.package
    return {
      planId := plan.id
      planCode := plan.planCode
      generationTarget := .workOrder
      generatedWorkOrderId := some order.id
      generatedTaskIds := package.generatedTaskIds
      generatedStepIds := package.generatedStepIds }
  else do
    let request ← createWorkRequest services
      (generatedRequestArguments plan candidate asOf planTasks ids)
    return {
      planId := plan.id
      planCode := plan.planCode
      generationTarget := .workRequest
      generatedWorkRequestId := some request.id }

def generateCandidate (organization : String) (plan : PreventivePlan) (candidate : DueCandidate)
    (asOf : Moment) (ids : TurnIds) : MaintenanceProgram GenerationResult := do
  let dueInstance ← Program.read fun store => selectDueInstance store plan asOf
  let planTasks ← Program.read fun store =>
    selectedPlanTasks store organization plan.id candidate
  let result ← generateWork services plan candidate asOf planTasks ids
  applyPlanGenerationState plan asOf dueInstance result.generatedWorkRequestId
    result.generatedWorkOrderId ids.replannedId
  planTasks.forM fun planTask => applyPlanTaskGenerationState planTask asOf
  return result

def planTurn (organization : String) (asOf : Moment) (listed : PreventivePlan) (ids : TurnIds) :
    MaintenanceProgram GenerationResult := do
  let plan ← syncCalendarPlanInstances listed asOf ids.plannedId
  let candidate ← Program.read fun store => buildCandidate store plan asOf
  if candidate.dueState = .due then do
    Program.check fun _ =>
      requireScopeManage services (scopeAnchorForPlan plan) "generate maintenance preventive work"
    generateCandidate services organization plan candidate asOf ids
  else
    return {
      planId := plan.id
      planCode := plan.planCode
      generationTarget := candidate.generationTarget
      skippedReason := candidate.dueReason }

/-! ## Calls -/

/-- The active plans that the session sees, by name and plan code. -/
def listVisibleActivePlans (store : MaintenanceStore) (organization : String)
    (siteId planId : Option String) : List PreventivePlan :=
  let rows := (store.plans.rows.filter fun row =>
    row.organizationId = organization ∧ row.isActive = true ∧ row.status = .active ∧
      ∀ given ∈ siteId, row.siteId = given).insertionSort fun first second =>
        first.name < second.name ∨ first.name = second.name ∧ first.planCode ≤ second.planCode
  services.filterScopeRows (rows.filter fun row => ∀ given ∈ planId, row.id = given)
    scopeAnchorForPlan

def plansOfCall (store : MaintenanceStore) (arguments : GenerationArguments)
    (operationLabel : String) : Except DomainError (String × List PreventivePlan) := do
  services.requireManage operationLabel
  let organization ← services.organization
  match arguments.siteId with
  | some siteId =>
      let _ ← getSite store organization siteId
      return (organization, listVisibleActivePlans services store organization (some siteId)
        arguments.planId)
  | none =>
      return (organization, listVisibleActivePlans services store organization none
        arguments.planId)

def generateDueWork (arguments : GenerationArguments) (ids : String → TurnIds) :
    MaintenanceProgram (List GenerationResult) := do
  let (organization, plans) ← Program.check fun store =>
    plansOfCall services store arguments "generate maintenance preventive work"
  plans.foldlM (fun results plan => do
    let result ← planTurn services organization arguments.asOf plan (ids plan.id)
    return results ++ [result]) []

end

end ProjectManager.Maintenance
