import ProjectManager.Finance.Cashflow
import ProjectManager.Reporting.CostReports

/-! # The finance ledger

The costs of a project, entry by entry: those of its cost items in each stage, and
the labor that is planned for its resources or was logged on its assignments. An
entry is marked when the cost policy counts it.
-/

namespace ProjectManager

open Foundation

/-- Who asks for finance snapshots. -/
structure FinanceService where
  userSession : AuthorizationEngine
  reporting : ReportingService

def FinanceStage.value : FinanceStage → String
  | .planned => "planned"
  | .committed => "committed"
  | .actual => "actual"

def FinanceStage.all : List FinanceStage := [.planned, .committed, .actual]

def resolveRate (prRate resourceRate : Option ℚ) : ℚ := prRate.getD (resourceRate.getD 0)

def isEffectivelyEqual (lhs rhs : ℚ) : Bool := |lhs - rhs| ≤ max (1 / 100) (|lhs| / 10 ^ 6)

section

variable (asOf : Date)

def readStageAmount (item : CostItem) : FinanceStage → ℚ
  | .planned => item.plannedAmount
  | .committed => item.committedAmount
  | .actual =>
      if item.incurredDate.all (fun incurred => incurred ≤ asOf) then item.actualAmount else 0

def Task.anchorDate (task : Task) : Option Date :=
  task.actualEnd.or (task.endDate.or (task.actualStart.or task.startDate))

def resolveItemAnchorDate (item : CostItem) (task : Option Task) (project : Project) : Date :=
  (item.incurredDate.or ((task.bind Task.anchorDate).or
    (project.startDate.or project.endDate))).getD asOf

def resolveAssignmentAnchorDate (task : Option Task) (project : Project) : Date :=
  ((task.bind Task.anchorDate).or project.startDate).getD asOf

/-! ## Rows -/

variable (store : ProjectStore) (project : Project)

def Project.ledgerCurrency : Option String := some (normalizeCurrency project.currency none)

def taskOfProject (taskId : Option String) : Option Task :=
  (givenText taskId).bind (store.tasksOf project.id).get?

def costItemLedgerRow (manualIncluded : FinanceStage → Bool) (item : CostItem)
    (stage : FinanceStage) : Option FinanceLedgerRow :=
  let task := taskOfProject store project item.taskId
  let isLaborAdjustment : Bool := item.costType = .labor
  let amount := readStageAmount asOf item stage
  if amount ≤ 0 then none
  else some {
    projectId := project.id
    sourceKey := if isLaborAdjustment then "LABOR_ADJUSTMENT" else "DIRECT_COST"
    sourceLabel := if isLaborAdjustment then "Labor Adjustment" else "Direct Cost"
    costType := item.costType.value
    stage := stage
    amount := amount
    currency := some (normalizeCurrency item.currencyCode project.ledgerCurrency)
    occurredOn := some (resolveItemAnchorDate asOf item task project)
    referenceType := "cost_item"
    referenceId := item.id
    referenceLabel := orElse item.description "Cost item"
    taskId := item.taskId
    taskName := task.map Task.name
    resourceId := none
    resourceName := none
    includedInPolicy := if isLaborAdjustment then manualIncluded stage else true }

def buildCostItemLedgerRows (manualIncluded : FinanceStage → Bool) : List FinanceLedgerRow :=
  (store.costsOf project.id).flatMap fun item =>
    FinanceStage.all.filterMap (costItemLedgerRow asOf store project manualIncluded item)

def computedLaborPlanRow (row : ProjectResource) : Option FinanceLedgerRow :=
  let resource := if row.resourceId = "" then none else store.resources.get? row.resourceId
  let rate := resolveRate row.hourlyRate (resource.map Resource.hourlyRate)
  if row.isActive = false ∨ row.plannedHours ≤ 0 ∨ rate ≤ 0 then none
  else some {
    projectId := project.id
    sourceKey := "COMPUTED_LABOR"
    sourceLabel := "Computed Labor"
    costType := CostType.labor.value
    stage := .planned
    amount := row.plannedHours * rate
    currency := some (normalizeCurrency
      ((givenText row.currencyCode).or (resource.bind Resource.currencyCode))
      project.ledgerCurrency)
    occurredOn := some (project.startDate.getD asOf)
    referenceType := "project_resource"
    referenceId := row.id
    referenceLabel := orElse ((resource.map Resource.name).getD row.resourceId) "Project resource"
    taskId := none
    taskName := none
    resourceId := givenText (some row.resourceId)
    resourceName := resource.map Resource.name
    includedInPolicy := true }

def buildComputedLaborPlanRows : List FinanceLedgerRow :=
  (store.projectResourcesOf project.id).filterMap (computedLaborPlanRow asOf store project)

/-- The row of an assignment, when its logged hours cost anything. -/
def computedLaborActualRow (resourceRow : LaborResourceRow) (assignment : LaborAssignmentRow) :
    Option FinanceLedgerRow :=
  let task := (store.tasksOf project.id).get? assignment.taskId
  if assignment.cost ≤ 0 then none
  else some {
    projectId := project.id
    sourceKey := "COMPUTED_LABOR"
    sourceLabel := "Computed Labor"
    costType := CostType.labor.value
    stage := .actual
    amount := assignment.cost
    currency := (givenText assignment.currencyCode).or resourceRow.currencyCode
    occurredOn := some (resolveAssignmentAnchorDate asOf task project)
    referenceType := "assignment"
    referenceId := assignment.assignmentId
    referenceLabel := orElse assignment.taskName "Assignment"
    taskId := givenText (some assignment.taskId)
    taskName := task.map Task.name
    resourceId := givenText (some resourceRow.resourceId)
    resourceName := givenText (some resourceRow.resourceName)
    includedInPolicy := true }

def buildComputedLaborActualRows (resourceRows : List LaborResourceRow) :
    List FinanceLedgerRow :=
  resourceRows.flatMap fun resourceRow =>
    resourceRow.assignments.filterMap (computedLaborActualRow asOf store project resourceRow)

end

/-! ## Labor entered by hand -/

/-- The labor of the cost items, of whatever currency. -/
def manualLaborRawTotals (items : List CostItem) (asOf : Date) : StageAmounts :=
  let labor := items.filter fun item => item.costType = .labor
  { planned := (labor.map CostItem.plannedAmount).sum
    committed := (labor.map CostItem.committedAmount).sum
    actual := ((labor.filter fun item => item.incurredDate.all fun incurred =>
      incurred ≤ asOf).map CostItem.actualAmount).sum }

def CostSourceRow.amounts (row : CostSourceRow) : StageAmounts :=
  ⟨row.planned, row.committed, row.actual⟩

/-- Labor is marked when the breakdown by source has all of it. -/
def resolveManualLaborInclusion (sourceRows : List CostSourceRow) (manualRaw : StageAmounts)
    (stage : FinanceStage) : Bool :=
  (sourceRows.find? fun row => row.sourceKey = "LABOR_ADJUSTMENT").any fun row =>
    manualRaw.of stage ≤ 0 || isEffectivelyEqual (manualRaw.of stage) (row.amounts.of stage)

/-! ## Snapshots -/

structure FinanceSnapshot extends StageAmounts where
  projectId : String
  projectCurrency : Option String
  budget : ℚ
  exposure : ℚ
  available : Option ℚ
  ledger : List FinanceLedgerRow
  cashflow : List FinancePeriodRow
  bySource : List FinanceAnalyticsRow
  byCostType : List FinanceAnalyticsRow
  byResource : List FinanceAnalyticsRow
  byTask : List FinanceAnalyticsRow
  notes : List String

def CostSourceRow.analytics (row : CostSourceRow) : FinanceAnalyticsRow where
  dimension := "source"
  key := row.sourceKey
  label := row.sourceLabel
  toStageAmounts := row.amounts
  forecast := max row.planned row.committed
  exposure := max row.committed row.actual

def buildSourceAnalytics (sourceRows : List CostSourceRow) : List FinanceAnalyticsRow :=
  (sourceRows.map CostSourceRow.analytics).insertionSort FinanceAnalyticsRow.Before

/-- The date comes first, then the source, the stage and the label. -/
def ledgerKey (row : FinanceLedgerRow) : Date ×ₗ String ×ₗ String ×ₗ String :=
  toLex (row.occurredOn.getD 1,
    toLex (row.sourceKey, toLex (row.stage.value, lower row.referenceLabel)))

def cashflowNote : String :=
  "Cashflow periods use each entry anchor date " ++
    "(cost incurred date, task date, or project start as fallback)."

def getFinanceSnapshot (service : FinanceService) (store : ProjectStore) (projectId : String)
    (asOf : Option Date) (period : String) : Except DomainError FinanceSnapshot := do
  service.userSession.requirePermission "report.view" "view finance snapshot"
  service.userSession.requireProjectPermission projectId "report.view" "view finance snapshot"
  let day := asOf.getD service.reporting.today
  let project ← require (store.projects.get? projectId)
    (notFoundError "Project not found." "PROJECT_NOT_FOUND")
  let sources ← getProjectCostSourceBreakdown service.reporting store projectId (some day)
  let totals ← getProjectCostControlTotals service.reporting store projectId (some day)
  let raw := manualLaborRawTotals (store.costsOf projectId) day
  let laborDetails ← getProjectLaborDetails store projectId service.reporting
  let rows := buildCostItemLedgerRows day store project
      (resolveManualLaborInclusion sources.rows raw) ++
    buildComputedLaborPlanRows day store project ++
    buildComputedLaborActualRows day store project laborDetails
  let ledger := rows.insertionSort fun first second => ledgerKey first ≤ ledgerKey second
  return {
    projectId := projectId
    projectCurrency := (givenText totals.projectCurrency).or project.ledgerCurrency
    budget := totals.budget
    planned := totals.planned
    committed := totals.committed
    actual := totals.actual
    exposure := totals.exposure
    available := totals.available
    ledger := ledger
    cashflow := buildPeriodCashflow ledger period day
    bySource := buildSourceAnalytics sources.rows
    byCostType := buildDimensionAnalytics ledger .costType
    byResource := buildDimensionAnalytics ledger .resource
    byTask := buildDimensionAnalytics ledger .task
    notes := sources.notes ++ [cashflowNote] }

end ProjectManager
