import ProjectManager.Domain.Checks
import ProjectManager.Domain.Projects
import ProjectManager.Foundation.Buckets

/-! # The cost policy

What the logged hours of a project cost, by resource and assignment, and the planned,
committed and actual costs of a project by cost type and currency. Labor that is planned
or logged replaces the labor cost items entered by hand, so that no hour is counted twice.
-/

namespace ProjectManager

open Foundation

/-- Who asks for reports, and when. -/
structure ReportingService where
  userSession : AuthorizationEngine
  calendar : WorkCalendarEngine
  today : Date

def ReportingService.requireView (service : ReportingService) (operationLabel projectId : String) :
    Except DomainError Unit := do
  service.userSession.requirePermission "report.view" operationLabel
  service.userSession.requireProjectPermission projectId "report.view" operationLabel

theorem requireView_eq_ok {reporting : ReportingService} {operationLabel projectId : String} :
    reporting.requireView operationLabel projectId = .ok () ↔
      reporting.userSession.hasPermission "report.view" = true ∧
        reporting.userSession.hasScopePermission "project" projectId "report.view" = true := by
  unfold ReportingService.requireView
  rw [bind_eq_ok]
  constructor
  · rintro ⟨_, hview, hscope⟩
    exact ⟨ensure_eq_ok.mp hview, ensure_eq_ok.mp hscope⟩
  · rintro ⟨hview, hscope⟩
    exact ⟨(), ensure_eq_ok.mpr hview, ensure_eq_ok.mpr hscope⟩

/-- An optional text; the empty one counts as missing. -/
def givenText (text : Option String) : Option String := text.filter fun text => text ≠ ""

structure LaborAssignmentRow where
  assignmentId : String
  taskId : String
  taskName : String
  hours : ℚ
  hourlyRate : ℚ
  currencyCode : Option String
  cost : ℚ
  deriving DecidableEq

structure LaborResourceRow where
  resourceId : String
  resourceName : String
  totalHours : ℚ
  hourlyRate : ℚ
  currencyCode : Option String
  totalCost : ℚ
  assignments : List LaborAssignmentRow
  deriving DecidableEq

namespace ProjectStore

variable (store : ProjectStore) (projectId : String)

def projectResourcesOf : List ProjectResource :=
  store.projectResources.rows.filter fun row => row.projectId = projectId

/-- `list_by_project` of the cost repository. -/
def costsOf : List CostItem := store.costs.rows.filter fun item => item.projectId = projectId

/-- `list_by_tasks` for the tasks of a project. -/
def assignmentsOf : List TaskAssignment :=
  store.assignments.rows.filter fun row => row.taskId ∈ (store.tasksOf projectId).ids

/-- The planning row of an assignment: its own, or else that of its resource in the project. -/
def projectResourceFor (assignment : TaskAssignment) : Option ProjectResource :=
  ((givenText assignment.projectResourceId).bind store.projectResources.get?).or
    (if assignment.resourceId = "" then none
      else (store.projectResourcesOf projectId).find? fun row =>
        row.resourceId = assignment.resourceId)

end ProjectStore

section

variable (store : ProjectStore) (projectId : String)

def resolveProjectRateCurrency (assignment : TaskAssignment) : ℚ × Option String :=
  let row := store.projectResourceFor projectId assignment
  let resource := if assignment.resourceId = "" then none
    else store.resources.get? assignment.resourceId
  let rate := (row.bind ProjectResource.hourlyRate).getD ((resource.map Resource.hourlyRate).getD 0)
  let currency := (givenText (row.bind ProjectResource.currencyCode)).map upper
  let resourceCurrency := resource.map fun resource => upper (resource.currencyCode.getD "")
  (rate, givenText (currency.or resourceCurrency))

def laborAssignmentRow (assignment : TaskAssignment) : LaborAssignmentRow :=
  let (hourlyRate, currency) := resolveProjectRateCurrency store projectId assignment
  { assignmentId := assignment.id
    taskId := assignment.taskId
    taskName := (((store.tasksOf projectId).get? assignment.taskId).map Task.name).getD "<unknown>"
    hours := assignment.hoursLogged
    hourlyRate := hourlyRate
    currencyCode := currency
    cost := assignment.hoursLogged * hourlyRate }

/-- The row of a resource shows the rate and the currency of its last assignment. -/
def laborResourceRow (resourceId : String) (assignments : List TaskAssignment) :
    LaborResourceRow :=
  let rows := assignments.map (laborAssignmentRow store projectId)
  { resourceId := resourceId
    resourceName := ((store.resources.get? resourceId).map Resource.name).getD "<unknown>"
    totalHours := (rows.map LaborAssignmentRow.hours).sum
    hourlyRate := (rows.getLast?.map LaborAssignmentRow.hourlyRate).getD 0
    currencyCode := rows.getLast?.bind LaborAssignmentRow.currencyCode
    totalCost := (rows.map LaborAssignmentRow.cost).sum
    assignments := rows }

/-- The rows of the resources, in the order in which their assignments come. -/
def laborResourceRows : List LaborResourceRow :=
  let assignments := store.assignmentsOf projectId
  let resourceIds := (assignments.map TaskAssignment.resourceId).reverse.dedup.reverse
  resourceIds.map fun resourceId => laborResourceRow store projectId resourceId
    (assignments.filter fun assignment => assignment.resourceId = resourceId)

variable (service : ReportingService)

/-- The most expensive resource comes first. -/
def getProjectLaborDetails : Except DomainError (List LaborResourceRow) := do
  service.requireView "view labor details" projectId
  let _project ← require (store.projects.get? projectId)
    (notFoundError "Project not found." "PROJECT_NOT_FOUND")
  return (laborResourceRows store projectId).mergeSort fun first second =>
    second.totalCost ≤ first.totalCost

end

end ProjectManager

namespace ProjectManager

open Foundation

abbrev CostBuckets := Buckets (CostType × String) ℚ

structure CostPolicySnapshot where
  projectId : String
  projectCurrency : Option String
  budget : ℚ
  plannedMap : CostBuckets
  committedMap : CostBuckets
  actualMap : CostBuckets
  plannedLaborTotal : ℚ
  actualLaborTotal : ℚ
  includeManualLaborPlanned : Bool
  includeManualLaborCommitted : Bool
  includeManualLaborActual : Bool

def normalizeCurrency (value fallback : Option String) : String :=
  orElse (upper (strip (value.getD ""))) (orElse (upper (strip (fallback.getD ""))) "-")

def addBucket (target : CostBuckets) (costType : CostType) (currency : String) (amount : ℚ) :
    CostBuckets :=
  if amount ≤ 0 then target else target.add (costType, currency) amount

def currencyInScope (currency : String) (projectCurrency : Option String) : Bool :=
  (givenText projectCurrency).all fun code => upper currency = upper code

def sumBucketMap (values : CostBuckets) (projectCurrency : Option String) : ℚ :=
  values.total fun key => currencyInScope key.2 projectCurrency = true

section

variable (store : ProjectStore) (projectId : String) (projectCurrency : Option String)

/-- The planned cost of a resource in a project, with its currency. -/
def plannedLabor (row : ProjectResource) : Option (String × ℚ) :=
  let resource := store.resources.get? row.resourceId
  let rate := row.hourlyRate.getD ((resource.map Resource.hourlyRate).getD 0)
  if row.isActive = true ∧ 0 < row.plannedHours ∧ 0 < rate then
    some (normalizeCurrency ((givenText row.currencyCode).or
      (resource.bind Resource.currencyCode)) projectCurrency, row.plannedHours * rate)
  else none

def resolvePlannedLaborMap : Buckets String ℚ :=
  Buckets.addAll .empty
    ((store.projectResourcesOf projectId).filterMap (plannedLabor store projectCurrency))

/-- The actual cost of a resource, with its currency. -/
def actualLabor (row : LaborResourceRow) : Option (String × ℚ) :=
  if 0 < row.totalCost then some (normalizeCurrency row.currencyCode projectCurrency, row.totalCost)
  else none

def resolveActualLaborMap (service : ReportingService) :
    Except DomainError (Buckets String ℚ) := do
  let rows ← getProjectLaborDetails store projectId service
  return Buckets.addAll .empty (rows.filterMap (actualLabor projectCurrency))

/-- The cost items that are kept, by their type and currency. -/
def collectItems (items : List CostItem) (amount : CostItem → ℚ) (keep : CostItem → Bool) :
    CostBuckets :=
  items.foldl (fun target item =>
    if 0 < amount item ∧ keep item = true then
      addBucket target item.costType (normalizeCurrency item.currencyCode projectCurrency)
        (amount item)
    else target) .empty

def addLabor (target : CostBuckets) (labor : Buckets String ℚ) : CostBuckets :=
  labor.rows.foldl (fun current row => addBucket current .labor row.1 row.2) target

variable (service : ReportingService)

def buildCostPolicySnapshot (asOf : Option Date) : Except DomainError CostPolicySnapshot := do
  let day := asOf.getD service.today
  let project ← require (store.projects.get? projectId)
    (notFoundError "Project not found." "PROJECT_NOT_FOUND")
  let currency := givenText (project.currency.map fun text => upper (strip text))
  let plannedLaborByCurrency := resolvePlannedLaborMap store projectId currency
  let actualLaborByCurrency ← resolveActualLaborMap store projectId currency service
  let plannedLaborTotal := plannedLaborByCurrency.sum Prod.snd
  let actualLaborTotal := actualLaborByCurrency.sum Prod.snd
  -- Labor rows entered by hand count only while there is no labor of the kind.
  let manualPlanned : Bool := plannedLaborTotal ≤ 0
  let manualActual : Bool := actualLaborTotal ≤ 0
  let manualCommitted := manualPlanned && manualActual
  let items := store.costsOf projectId
  return {
    projectId := projectId
    projectCurrency := currency
    budget := project.plannedBudget.getD 0
    plannedMap := addLabor (collectItems currency items CostItem.plannedAmount fun item =>
      item.costType ≠ .labor || manualPlanned) plannedLaborByCurrency
    committedMap := collectItems currency items CostItem.committedAmount fun item =>
      item.costType ≠ .labor || manualCommitted
    actualMap := addLabor (collectItems currency items CostItem.actualAmount fun item =>
      (item.costType ≠ .labor || manualActual) && item.incurredDate.all fun incurred =>
        incurred ≤ day) actualLaborByCurrency
    plannedLaborTotal := plannedLaborTotal
    actualLaborTotal := actualLaborTotal
    includeManualLaborPlanned := manualPlanned
    includeManualLaborCommitted := manualCommitted
    includeManualLaborActual := manualActual }

end

end ProjectManager
