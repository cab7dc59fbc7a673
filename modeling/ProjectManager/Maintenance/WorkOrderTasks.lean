import ProjectManager.Maintenance.WorkPackages

/-! # Changing tasks and steps

The tasks of a work order and the steps of a task go through their statuses. A task
that requires all its steps is completed once they are done.
-/

namespace ProjectManager.Maintenance

open Foundation

/-! ## Statuses -/

def coerceWorkOrderTaskStatus :
    Option (Choice WorkOrderTaskStatus) → Except DomainError WorkOrderTaskStatus :=
  coerce [.notStarted, .inProgress, .completed, .blocked, .skipped] WorkOrderTaskStatus.value
    "NOT_STARTED" (validationError "Maintenance work order task status is invalid."
      "MAINTENANCE_WORK_ORDER_TASK_STATUS_INVALID")

def coerceWorkOrderTaskStepStatus :
    Option (Choice WorkOrderTaskStepStatus) → Except DomainError WorkOrderTaskStepStatus :=
  coerce [.notStarted, .inProgress, .done, .skipped, .failed] WorkOrderTaskStepStatus.value
    "NOT_STARTED" (validationError "Maintenance work order task step status is invalid."
      "MAINTENANCE_WORK_ORDER_TASK_STEP_STATUS_INVALID")

def taskStatusTransitions : WorkOrderTaskStatus → List WorkOrderTaskStatus
  | .notStarted => [.inProgress, .completed, .blocked, .skipped]
  | .inProgress => [.completed, .blocked, .skipped]
  | .blocked => [.inProgress, .skipped]
  | .completed => []
  | .skipped => []

def stepStatusTransitions : WorkOrderTaskStepStatus → List WorkOrderTaskStepStatus
  | .notStarted => [.inProgress, .done, .skipped, .failed]
  | .inProgress => [.done, .skipped, .failed]
  | .failed => [.inProgress, .skipped]
  | .done => []
  | .skipped => []

def validateTaskStatusTransition (current new : WorkOrderTaskStatus) : Except DomainError Unit :=
  ensure (new ∈ taskStatusTransitions current)
    (validationError ("Cannot change work order task status from " ++ current.value ++ " to " ++
      new.value ++ ".") "MAINTENANCE_WORK_ORDER_TASK_STATUS_INVALID_TRANSITION")

def validateStepStatusTransition (current new : WorkOrderTaskStepStatus) :
    Except DomainError Unit :=
  ensure (new ∈ stepStatusTransitions current)
    (validationError ("Cannot change work order task step status from " ++ current.value ++
      " to " ++ new.value ++ ".") "MAINTENANCE_WORK_ORDER_TASK_STEP_STATUS_INVALID_TRANSITION")

def stepSatisfies (step : WorkOrderTaskStep) : Bool :=
  step.status = .done ∧ ¬ (step.requiresConfirmation = true ∧ step.confirmedAt = none) ∧
    ¬ (step.requiresMeasurement = true ∧ strip step.measurementValue = "")

def taskStepsSatisfyCompletionRule (task : WorkOrderTask) (steps : List WorkOrderTaskStep) :
    Bool :=
  task.completionRule ≠ .allStepsRequired ∨ (steps ≠ [] ∧ steps.all stepSatisfies = true)

/-! ## Reading -/

/-- The scope of the order that a task belongs to. -/
def orderAnchor (store : MaintenanceStore) (workOrderId : String) : String :=
  match store.orders.get? workOrderId with
  | none => ""
  | some order => orElse (order.assetId.getD "")
      (orElse (order.systemId.getD "") (order.locationId.getD ""))

def stepAnchor (store : MaintenanceStore) (step : WorkOrderTaskStep) : String :=
  match store.orderTasks.get? step.workOrderTaskId with
  | none => ""
  | some task => orderAnchor store task.workOrderId

section

variable (services : MaintenanceServices) (store : MaintenanceStore)

def getTask (workOrderTaskId : String) : Except DomainError WorkOrderTask := do
  services.requireRead "view maintenance work order task"
  let organization ← services.organization
  let task ← requireTask store organization workOrderTaskId
  services.requireScopeRead (orderAnchor store task.workOrderId) "view maintenance work order task"
  return task

def getStep (workOrderTaskStepId : String) : Except DomainError WorkOrderTaskStep := do
  services.requireRead "view maintenance work order task step"
  let organization ← services.organization
  let step ← require ((store.taskSteps.get? workOrderTaskStepId).filter fun row =>
      row.organizationId = organization)
    (notFoundError "Maintenance work order task step not found in the active organization."
      "MAINTENANCE_WORK_ORDER_TASK_STEP_NOT_FOUND")
  services.requireScopeRead (stepAnchor store step) "view maintenance work order task step"
  return step

end

/-! ## Tasks -/

/-- A number that is given may be blank. -/
structure UpdateTaskArguments where
  workOrderTaskId : String
  taskName : Option String := none
  taskTemplateId : Option String := none
  description : Option String := none
  assignedEmployeeId : Option String := none
  assignedTeamId : Option String := none
  estimatedMinutes : Option (Option ℤ) := none
  actualMinutes : Option (Option ℤ) := none
  requiredSkill : Option String := none
  status : Option (Choice WorkOrderTaskStatus) := none
  sequenceNo : Option (Option ℤ) := none
  isMandatory : Option Bool := none
  completionRule : Option (Choice TaskCompletionRule) := none
  notes : Option String := none
  expectedVersion : Option ℕ := none

section

variable (services : MaintenanceServices) (store : MaintenanceStore)

def changedSequenceNo (task : WorkOrderTask) : Option (Option ℤ) → Except DomainError ℤ
  | none => .ok task.sequenceNo
  | some given => do
      let organization ← services.organization
      let sequenceNo ← resolveNumber given
        ((tasksOfOrder store organization task.workOrderId).map WorkOrderTask.sequenceNo)
        (validationError "Sequence number must be greater than zero."
          "MAINTENANCE_WORK_ORDER_TASK_SEQUENCE_INVALID")
      ensure (∀ row ∈ tasksOfOrder store task.organizationId task.workOrderId,
          row.sequenceNo = sequenceNo → row.id = task.id)
        (validationError "Sequence number already exists on the selected work order."
          "MAINTENANCE_WORK_ORDER_TASK_SEQUENCE_EXISTS")
      return sequenceNo

/-- The fields that do not depend on the status. -/
def changedTask (task : WorkOrderTask) (arguments : UpdateTaskArguments) :
    Except DomainError WorkOrderTask := do
  let taskName ← givenOr arguments.taskName task.taskName fun given =>
    normalizeMaintenanceName given "Task name"
  let estimatedMinutes ← givenOr arguments.estimatedMinutes task.estimatedMinutes fun given =>
    coerceOptionalNonNegativeInt given "Estimated minutes"
  let actualMinutes ← givenOr arguments.actualMinutes task.actualMinutes fun given =>
    coerceOptionalNonNegativeInt given "Actual minutes"
  let completionRule ← givenOr arguments.completionRule task.completionRule fun given =>
    coerceTaskCompletionRule (some given)
  let sequenceNo ← changedSequenceNo services store task arguments.sequenceNo
  return {
    task with
    taskName := taskName
    taskTemplateId := arguments.taskTemplateId.elim task.taskTemplateId fun given =>
      normalizeReference (some given)
    description := arguments.description.elim task.description strip
    assignedEmployeeId := arguments.assignedEmployeeId.or task.assignedEmployeeId
    assignedTeamId := arguments.assignedTeamId.elim task.assignedTeamId fun given =>
      normalizeReference (some given)
    estimatedMinutes := estimatedMinutes
    actualMinutes := actualMinutes
    requiredSkill := arguments.requiredSkill.elim task.requiredSkill strip
    sequenceNo := sequenceNo
    isMandatory := arguments.isMandatory.getD task.isMandatory
    completionRule := completionRule
    notes := arguments.notes.elim task.notes strip }

def validateTaskCompletion (task : WorkOrderTask) : Except DomainError Unit :=
  ensure (task.completionRule = .noStepsRequired ∨ taskStepsSatisfyCompletionRule task
      (stepsOfTask store task.organizationId task.id) = true)
    (validationError "All required steps must be completed before the task can be completed."
      "MAINTENANCE_WORK_ORDER_TASK_STEPS_INCOMPLETE")

def changeTaskStatus (task : WorkOrderTask) :
    Option (Choice WorkOrderTaskStatus) → Except DomainError WorkOrderTask
  | none => .ok task
  | some given => do
      let newStatus ← coerceWorkOrderTaskStatus (some given)
      validateTaskStatusTransition task.status newStatus
      if newStatus = .completed then validateTaskCompletion store task
      return {
        task with
        status := newStatus
        startedAt := if newStatus = .inProgress then task.startedAt.or (some services.now)
          else task.startedAt
        completedAt := if newStatus ∈ [WorkOrderTaskStatus.completed, .skipped] then
            task.completedAt.or (some services.now)
          else task.completedAt }

def prepareUpdatedTask (arguments : UpdateTaskArguments) : Except DomainError WorkOrderTask := do
  services.requireManage "update maintenance work order task"
  let task ← getTask services store arguments.workOrderTaskId
  let organization ← services.organization
  let order ← requireWorkOrder store organization task.workOrderId
  ensureWorkOrderIsMutable "Tasks" order
  ensure (∀ version ∈ arguments.expectedVersion, task.version = version)
    (staleWrite "Maintenance work order task")
  let changed ← changedTask services store task arguments
  let changed ← changeTaskStatus services store changed arguments.status
  return { changed with version := task.version + 1 }

end

def updateTask (services : MaintenanceServices) (arguments : UpdateTaskArguments) :
    MaintenanceProgram WorkOrderTask :=
  Program.transact (fun store => prepareUpdatedTask services store arguments)
    fun row store => .ok { store with orderTasks := store.orderTasks.update row }

/-! ## Steps -/

structure UpdateStepArguments where
  workOrderTaskStepId : String
  instruction : Option String := none
  sourceStepTemplateId : Option String := none
  stepNumber : Option (Option ℤ) := none
  expectedResult : Option String := none
  hintLevel : Option String := none
  hintText : Option String := none
  status : Option (Choice WorkOrderTaskStepStatus) := none
  requiresConfirmation : Option Bool := none
  requiresMeasurement : Option Bool := none
  requiresPhoto : Option Bool := none
  measurementValue : Option String := none
  measurementUnit : Option String := none
  confirmCompletion : Option Bool := none
  notes : Option String := none
  expectedVersion : Option ℕ := none

section

variable (services : MaintenanceServices) (store : MaintenanceStore)

def changedStepNumber (task : WorkOrderTask) (step : WorkOrderTaskStep) :
    Option (Option ℤ) → Except DomainError ℤ
  | none => .ok step.stepNumber
  | some given => do
      let organization ← services.organization
      let stepNumber ← resolveNumber given
        ((stepsOfTask store organization task.id).map WorkOrderTaskStep.stepNumber)
        (validationError "Step number must be greater than zero."
          "MAINTENANCE_WORK_ORDER_TASK_STEP_NUMBER_INVALID")
      ensure (∀ row ∈ stepsOfTask store task.organizationId task.id,
          row.stepNumber = stepNumber → row.id = step.id)
        (validationError "Step number already exists on the selected work order task."
          "MAINTENANCE_WORK_ORDER_TASK_STEP_NUMBER_EXISTS")
      return stepNumber

/-- The fields that do not depend on the status. -/
def changedStep (task : WorkOrderTask) (step : WorkOrderTaskStep)
    (arguments : UpdateStepArguments) : Except DomainError WorkOrderTaskStep := do
  let instruction ← givenOr arguments.instruction step.instruction fun given =>
    normalizeMaintenanceName given "Instruction"
  let stepNumber ← changedStepNumber services store task step arguments.stepNumber
  return {
    step with
    instruction := instruction
    sourceStepTemplateId := arguments.sourceStepTemplateId.elim step.sourceStepTemplateId
      fun given => normalizeReference (some given)
    expectedResult := arguments.expectedResult.elim step.expectedResult strip
    hintLevel := arguments.hintLevel.elim step.hintLevel fun given => upper (strip given)
    hintText := arguments.hintText.elim step.hintText strip
    requiresConfirmation := arguments.requiresConfirmation.getD step.requiresConfirmation
    requiresMeasurement := arguments.requiresMeasurement.getD step.requiresMeasurement
    requiresPhoto := arguments.requiresPhoto.getD step.requiresPhoto
    measurementValue := arguments.measurementValue.elim step.measurementValue strip
    measurementUnit := arguments.measurementUnit.elim step.measurementUnit strip
    notes := arguments.notes.elim step.notes strip
    stepNumber := stepNumber }

/-- A step that fails loses its confirmation. -/
def changeStepStatus (step : WorkOrderTaskStep) :
    Option (Choice WorkOrderTaskStepStatus) → Except DomainError WorkOrderTaskStep
  | none => .ok step
  | some given => do
      let newStatus ← coerceWorkOrderTaskStepStatus (some given)
      validateStepStatusTransition step.status newStatus
      ensure (¬ (step.requiresMeasurement = true ∧ newStatus = .done ∧
          strip step.measurementValue = ""))
        (validationError "Measurement value is required before completing this step."
          "MAINTENANCE_WORK_ORDER_TASK_STEP_MEASUREMENT_REQUIRED")
      let ended := newStatus ∈ [WorkOrderTaskStepStatus.done, .skipped]
      return {
        step with
        status := newStatus
        completedAt := if ended then step.completedAt.or (some services.now) else step.completedAt
        completedByUserId := if ended then (givenReference services.userId).or step.completedByUserId
          else step.completedByUserId
        confirmedAt := if newStatus = .failed then none else step.confirmedAt
        confirmedByUserId := if newStatus = .failed then none else step.confirmedByUserId }

/-- A step in progress starts its task. The row is written before the rest is checked. -/
def startedTask (task : WorkOrderTask) (changed : WorkOrderTaskStep)
    (status : Option (Choice WorkOrderTaskStepStatus)) : Option WorkOrderTask :=
  if status ≠ none ∧ changed.status = .inProgress ∧ task.status = .notStarted then
    some { task with
      status := .inProgress
      startedAt := task.startedAt.or (some services.now)
      version := task.version + 1 }
  else none

/-- The step with its new status, and the task if it is started. -/
def prepareUpdatedStep (arguments : UpdateStepArguments) :
    Except DomainError (WorkOrderTaskStep × Option WorkOrderTask) := do
  services.requireManage "update maintenance work order task step"
  let step ← getStep services store arguments.workOrderTaskStepId
  let organization ← services.organization
  let task ← requireTask store organization step.workOrderTaskId
  let order ← requireWorkOrder store organization task.workOrderId
  ensureWorkOrderIsMutable "Task steps" order
  ensure (∀ version ∈ arguments.expectedVersion, step.version = version)
    (staleWrite "Maintenance work order task step")
  let changed ← changedStep services store task step arguments
  let changed ← changeStepStatus services changed arguments.status
  return ({ changed with version := step.version + 1 },
    startedTask services task changed arguments.status)

def confirmStep (step : WorkOrderTaskStep) : Option Bool → Except DomainError WorkOrderTaskStep
  | none => .ok step
  | some true => do
      ensure (step.requiresConfirmation = true)
        (validationError "This step does not require confirmation."
          "MAINTENANCE_WORK_ORDER_TASK_STEP_CONFIRMATION_NOT_REQUIRED")
      ensure (step.status = .done)
        (validationError "Only completed steps can be confirmed."
          "MAINTENANCE_WORK_ORDER_TASK_STEP_CONFIRMATION_INVALID")
      return { step with confirmedAt := some services.now, confirmedByUserId := services.userId }
  | some false => .ok { step with confirmedAt := none, confirmedByUserId := none }

end

def writeStartedTask (started : Option WorkOrderTask) (store : MaintenanceStore) :
    Except DomainError MaintenanceStore :=
  match started with
  | none => .ok store
  | some task => .ok { store with orderTasks := store.orderTasks.update task }

def updateStep (services : MaintenanceServices) (arguments : UpdateStepArguments) :
    MaintenanceProgram WorkOrderTaskStep := do
  let prepared ← Program.check fun store => prepareUpdatedStep services store arguments
  Program.step (writeStartedTask prepared.2)
  let step ← Program.check fun _ => confirmStep services prepared.1 arguments.confirmCompletion
  Program.rollingBack (Program.save fun store =>
    .ok { store with taskSteps := store.taskSteps.update step })
  return step

end ProjectManager.Maintenance
