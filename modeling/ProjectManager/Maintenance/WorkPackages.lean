import ProjectManager.Maintenance.WorkRequests

/-! # Tasks and steps of a work order

A work order is filled from the templates of plan tasks. Every task and every
step is saved by a call of its own.
-/

namespace ProjectManager.Maintenance

open Foundation

structure CreateTaskArguments where
  workOrderId : String
  taskName : String
  taskTemplateId : Option String := none
  description : String := ""
  assignedEmployeeId : Option String := none
  assignedTeamId : Option String := none
  estimatedMinutes : Option ℤ := none
  actualMinutes : Option ℤ := none
  requiredSkill : String := ""
  sequenceNo : Option ℤ := none
  isMandatory : Bool := true
  completionRule : Option (Choice TaskCompletionRule) := none
  notes : String := ""
  taskId : String

structure CreateStepArguments where
  workOrderTaskId : String
  instruction : String
  sourceStepTemplateId : Option String := none
  stepNumber : Option ℤ := none
  expectedResult : String := ""
  hintLevel : String := ""
  hintText : String := ""
  requiresConfirmation : Bool := false
  requiresMeasurement : Bool := false
  requiresPhoto : Bool := false
  measurementUnit : String := ""
  notes : String := ""
  stepId : String

/-- The ids generated for the tasks and steps of a work order: by plan task, and by plan task and
step template. -/
structure PackageIds where
  taskId : String → String
  stepId : String → String → String

section

variable (services : MaintenanceServices) (store : MaintenanceStore)

def requireWorkOrder (organization workOrderId : String) : Except DomainError WorkOrder :=
  require ((store.orders.get? workOrderId).filter fun row => row.organizationId = organization)
    (notFoundError "Maintenance work order not found in the active organization."
      "MAINTENANCE_WORK_ORDER_NOT_FOUND")

def ensureWorkOrderIsMutable (subject : String) (order : WorkOrder) : Except DomainError Unit :=
  ensure (order.status ∉ [WorkOrderStatus.cancelled, .closed])
    (businessRuleError (subject ++ " cannot be changed once the work order is cancelled or closed.")
      "MAINTENANCE_WORK_ORDER_NOT_MUTABLE")

/-- A number that is given, or the one after the highest. -/
def resolveNumber (given : Option ℤ) (existing : List ℤ) (error : DomainError) :
    Except DomainError ℤ :=
  match given with
  | some number => do
      ensure (0 < number) error
      return number
  | none => .ok (existing.foldl max 0 + 1)

def tasksOfOrder (organization workOrderId : String) : List WorkOrderTask :=
  store.orderTasks.rows.filter fun row =>
    row.organizationId = organization ∧ row.workOrderId = workOrderId

def stepsOfTask (organization workOrderTaskId : String) : List WorkOrderTaskStep :=
  store.taskSteps.rows.filter fun row =>
    row.organizationId = organization ∧ row.workOrderTaskId = workOrderTaskId

def prepareTask (arguments : CreateTaskArguments) : Except DomainError WorkOrderTask := do
  services.requireManage "create maintenance work order task"
  let organization ← services.organization
  let order ← requireWorkOrder store organization arguments.workOrderId
  ensureWorkOrderIsMutable "Tasks" order
  let numbers := (tasksOfOrder store organization order.id).map WorkOrderTask.sequenceNo
  let sequenceNo ← resolveNumber arguments.sequenceNo numbers
    (validationError "Sequence number must be greater than zero."
      "MAINTENANCE_WORK_ORDER_TASK_SEQUENCE_INVALID")
  ensure (sequenceNo ∉ numbers)
    (validationError "Sequence number already exists on the selected work order."
      "MAINTENANCE_WORK_ORDER_TASK_SEQUENCE_EXISTS")
  let taskName ← normalizeMaintenanceName arguments.taskName "Task name"
  let estimatedMinutes ← coerceOptionalNonNegativeInt arguments.estimatedMinutes
    "Estimated minutes"
  let actualMinutes ← coerceOptionalNonNegativeInt arguments.actualMinutes "Actual minutes"
  let completionRule ← coerceTaskCompletionRule arguments.completionRule
  return {
    id := arguments.taskId
    organizationId := organization
    workOrderId := order.id
    taskTemplateId := normalizeReference arguments.taskTemplateId
    taskName := taskName
    description := strip arguments.description
    assignedEmployeeId := arguments.assignedEmployeeId
    assignedTeamId := normalizeReference arguments.assignedTeamId
    estimatedMinutes := estimatedMinutes
    actualMinutes := actualMinutes
    requiredSkill := strip arguments.requiredSkill
    sequenceNo := sequenceNo
    isMandatory := arguments.isMandatory
    completionRule := completionRule
    notes := strip arguments.notes }

def insertTask (row : WorkOrderTask) : Except DomainError MaintenanceStore := do
  services.save (validationError "Maintenance work order task could not be saved."
    "MAINTENANCE_WORK_ORDER_TASK_SAVE_FAILED") store.orderTasks.ids row.id
  return { store with orderTasks := store.orderTasks.insert row }

def requireTask (organization workOrderTaskId : String) : Except DomainError WorkOrderTask :=
  require ((store.orderTasks.get? workOrderTaskId).filter fun row =>
      row.organizationId = organization)
    (notFoundError "Maintenance work order task not found in the active organization."
      "MAINTENANCE_WORK_ORDER_TASK_NOT_FOUND")

def prepareStep (arguments : CreateStepArguments) : Except DomainError WorkOrderTaskStep := do
  services.requireManage "create maintenance work order task step"
  let organization ← services.organization
  let task ← requireTask store organization arguments.workOrderTaskId
  let order ← requireWorkOrder store organization task.workOrderId
  ensureWorkOrderIsMutable "Task steps" order
  let numbers := (stepsOfTask store organization task.id).map WorkOrderTaskStep.stepNumber
  let stepNumber ← resolveNumber arguments.stepNumber numbers
    (validationError "Step number must be greater than zero."
      "MAINTENANCE_WORK_ORDER_TASK_STEP_NUMBER_INVALID")
  ensure (stepNumber ∉ numbers)
    (validationError "Step number already exists on the selected work order task."
      "MAINTENANCE_WORK_ORDER_TASK_STEP_NUMBER_EXISTS")
  let instruction ← normalizeMaintenanceName arguments.instruction "Instruction"
  return {
    id := arguments.stepId
    organizationId := organization
    workOrderTaskId := task.id
    sourceStepTemplateId := normalizeReference arguments.sourceStepTemplateId
    stepNumber := stepNumber
    instruction := instruction
    expectedResult := strip arguments.expectedResult
    hintLevel := upper (strip arguments.hintLevel)
    hintText := strip arguments.hintText
    requiresConfirmation := arguments.requiresConfirmation
    requiresMeasurement := arguments.requiresMeasurement
    requiresPhoto := arguments.requiresPhoto
    measurementUnit := strip arguments.measurementUnit
    notes := strip arguments.notes }

def insertStep (row : WorkOrderTaskStep) : Except DomainError MaintenanceStore := do
  services.save (validationError "Maintenance work order task step could not be saved."
    "MAINTENANCE_WORK_ORDER_TASK_STEP_SAVE_FAILED") store.taskSteps.ids row.id
  return { store with taskSteps := store.taskSteps.insert row }

/-! ## Work packages -/

def getTaskTemplate (organizationId taskTemplateId : String) : Except DomainError TaskTemplate :=
  require ((store.taskTemplates.get? taskTemplateId).filter fun row =>
      row.organizationId = organizationId)
    (validationError "Preventive plan references a task template outside the active organization."
      "MAINTENANCE_PREVENTIVE_TASK_TEMPLATE_NOT_FOUND")

/-- The active step templates, by sort order and then by step number. -/
def activeStepTemplates (organizationId taskTemplateId : String) : List TaskStepTemplate :=
  (store.stepTemplates.rows.reverse.filter fun row =>
    row.organizationId = organizationId ∧ row.taskTemplateId = taskTemplateId ∧
      row.isActive).insertionSort fun first second =>
        first.sortOrder < second.sortOrder ∨
          first.sortOrder = second.sortOrder ∧ first.stepNumber ≤ second.stepNumber

end

/-- `value or fallback`, for minutes. -/
def orMinutes (value fallback : Option ℤ) : Option ℤ := value.filter (· ≠ 0) <|> fallback

def packageTaskArguments (plan : PreventivePlan) (planTask : PreventivePlanTask)
    (template : TaskTemplate) (stepTemplates : List TaskStepTemplate) (workOrderId : String)
    (ids : PackageIds) : CreateTaskArguments where
  workOrderId := workOrderId
  taskTemplateId := some template.id
  taskName := template.name
  description := template.description
  assignedEmployeeId := planTask.defaultAssignedEmployeeId
  assignedTeamId := planTask.defaultAssignedTeamId
  estimatedMinutes := orMinutes planTask.estimatedMinutesOverride template.estimatedMinutes
  requiredSkill := template.requiredSkill
  sequenceNo := some planTask.sequenceNo
  isMandatory := planTask.isMandatory
  completionRule := some (.text
    (if stepTemplates.isEmpty then "NO_STEPS_REQUIRED" else "ALL_STEPS_REQUIRED"))
  notes := "Generated from preventive plan " ++ plan.planCode ++ "."
  taskId := ids.taskId planTask.id

def packageStepArguments (template : TaskTemplate) (stepTemplate : TaskStepTemplate)
    (workOrderTaskId stepId : String) : CreateStepArguments where
  workOrderTaskId := workOrderTaskId
  sourceStepTemplateId := some stepTemplate.id
  stepNumber := some stepTemplate.stepNumber
  instruction := stepTemplate.instruction
  expectedResult := stepTemplate.expectedResult
  hintLevel := stepTemplate.hintLevel
  hintText := stepTemplate.hintText
  requiresConfirmation := stepTemplate.requiresConfirmation
  requiresMeasurement := stepTemplate.requiresMeasurement
  requiresPhoto := stepTemplate.requiresPhoto
  measurementUnit := stepTemplate.measurementUnit
  notes := "Generated from task template " ++ template.taskTemplateCode ++ "."
  stepId := stepId

section

variable (services : MaintenanceServices)

def createTask (arguments : CreateTaskArguments) : MaintenanceProgram WorkOrderTask :=
  Program.transact (fun store => prepareTask services store arguments)
    fun row store => insertTask services store row

def createStep (arguments : CreateStepArguments) : MaintenanceProgram WorkOrderTaskStep :=
  Program.transact (fun store => prepareStep services store arguments)
    fun row store => insertStep services store row

structure GeneratedWorkPackage where
  generatedTaskIds : List String := []
  generatedStepIds : List String := []

def populateStep (template : TaskTemplate) (workOrderTaskId : String) (stepId : String → String)
    (package : GeneratedWorkPackage) (stepTemplate : TaskStepTemplate) :
    MaintenanceProgram GeneratedWorkPackage := do
  let step ← createStep services
    (packageStepArguments template stepTemplate workOrderTaskId (stepId stepTemplate.id))
  return { package with generatedStepIds := package.generatedStepIds ++ [step.id] }

def populateTask (plan : PreventivePlan) (workOrderId : String) (ids : PackageIds)
    (package : GeneratedWorkPackage) (planTask : PreventivePlanTask) :
    MaintenanceProgram GeneratedWorkPackage := do
  let template ← Program.check fun store =>
    getTaskTemplate store plan.organizationId planTask.taskTemplateId
  let stepTemplates ← Program.read fun store =>
    activeStepTemplates store plan.organizationId template.id
  let task ← createTask services
    (packageTaskArguments plan planTask template stepTemplates workOrderId ids)
  stepTemplates.foldlM (populateStep services template task.id (ids.stepId planTask.id))
    { package with generatedTaskIds := package.generatedTaskIds ++ [task.id] }

def populateWorkOrder (plan : PreventivePlan) (planTasks : List PreventivePlanTask)
    (workOrderId : String) (ids : PackageIds) : MaintenanceProgram GeneratedWorkPackage :=
  (planTasks.insertionSort fun first second => first.sequenceNo ≤ second.sequenceNo).foldlM
    (populateTask services plan workOrderId ids) {}

end

end ProjectManager.Maintenance
