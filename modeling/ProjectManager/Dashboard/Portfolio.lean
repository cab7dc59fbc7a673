import Mathlib.Data.Prod.Lex
import ProjectManager.Auth.Domain
import ProjectManager.Reporting.ProjectKpis
import ProjectManager.Reporting.ResourceLoad

/-! # The portfolio dashboard

The key figures of all projects that the user may read, added up. The load rows
of the projects are merged by resource.
-/

namespace ProjectManager

open Foundation

structure DashboardService where
  userSession : Option UserSessionPrincipal
  calendar : WorkCalendarEngine
  today : Date

def DashboardService.reporting (service : DashboardService) : ReportingService where
  userSession := sessionAuthorizationEngine service.userSession
  calendar := service.calendar
  today := service.today

structure PortfolioProjectRow where
  projectId : String
  projectName : String
  projectStatus : ProjectStatus
  progressPercent : ℚ
  lateTasks : ℕ
  criticalTasks : ℕ
  costVariance : ℚ
  riskScore : ℚ
  deriving DecidableEq

structure PortfolioStatusRollupRow where
  statusLabel : ProjectStatus
  projectCount : ℕ
  deriving DecidableEq

structure DashboardPortfolio where
  projectsTotal : ℕ
  activeProjects : ℕ
  completedProjects : ℕ
  onHoldProjects : ℕ
  atRiskProjects : ℕ
  statusRollup : List PortfolioStatusRollupRow
  projectRankings : List PortfolioProjectRow
  deriving DecidableEq

/-! ## Alerts -/

inductive PortfolioAlert
  | noProjects
  | atRisk (projects : ℕ)
  | onHold (projects : ℕ)
  | exceedCapacity (resources : ℕ)
  | exceedsPlan (costVariance : ℚ)
  | highestRisk (top : PortfolioProjectRow)
  deriving DecidableEq

def PortfolioAlert.text : PortfolioAlert → String
  | .noProjects => "Portfolio has no projects yet."
  | .atRisk projects => toString projects ++ " project(s) are at risk across the portfolio."
  | .onHold projects => toString projects ++ " project(s) are currently on hold."
  | .exceedCapacity resources =>
      toString resources ++ " resource(s) exceed capacity across the portfolio."
  | .exceedsPlan costVariance =>
      "Portfolio actual cost exceeds plan by " ++ formatCents costVariance ++ "."
  | .highestRisk top =>
      "Highest-risk project is \"" ++ top.projectName ++ "\" (" ++ toString top.lateTasks ++
        " late task(s), " ++ toString top.criticalTasks ++ " critical task(s))."

def overloaded (resourceLoad : List ResourceLoadRow) : List ResourceLoadRow :=
  resourceLoad.filter fun row => 100 < row.utilizationPercent

def buildPortfolioAlerts (portfolio : DashboardPortfolio) (resourceLoad : List ResourceLoadRow)
    (costVariance : ℚ) : List PortfolioAlert :=
  if portfolio.projectsTotal = 0 then [.noProjects]
  else
    (if 0 < portfolio.atRiskProjects then [.atRisk portfolio.atRiskProjects] else []) ++
    (if 0 < portfolio.onHoldProjects then [.onHold portfolio.onHoldProjects] else []) ++
    (if overloaded resourceLoad = [] then []
      else [.exceedCapacity (overloaded resourceLoad).length]) ++
    (if 0 < costVariance then [.exceedsPlan costVariance] else []) ++
    ((portfolio.projectRankings.head?.filter fun top => 0 < top.riskScore).map
      PortfolioAlert.highestRisk).toList

/-! ## The figures of a project -/

section

variable (status : ProjectStatus) (kpi : ProjectKPI)

def portfolioRiskScore : ℚ :=
  (if status = .onHold then 25 else 0) + kpi.lateTasks * 12 + kpi.criticalTasks * 4 +
    if 0 < kpi.totalPlannedCost ∧ 0 < kpi.costVariance then
      kpi.costVariance / kpi.totalPlannedCost * 20
    else if 0 < kpi.costVariance then 8
    else 0

def portfolioIsAtRisk : Bool :=
  status = .onHold ∨ 0 < kpi.lateTasks ∨ 0 < kpi.criticalTasks ∨ 0 < kpi.costVariance

end

def portfolioProjectRow (project : Project) (kpi : ProjectKPI) : PortfolioProjectRow where
  projectId := project.id
  projectName := project.name
  projectStatus := project.status
  progressPercent := if 0 < kpi.tasksTotal then kpi.tasksCompleted / kpi.tasksTotal * 100 else 0
  lateTasks := kpi.lateTasks
  criticalTasks := kpi.criticalTasks
  costVariance := kpi.costVariance
  riskScore := portfolioRiskScore project.status kpi

/-- The sort key of the ranking, the highest risk first. -/
def PortfolioProjectRow.rank (row : PortfolioProjectRow) : ℚ ×ₗ ℕ ×ₗ ℕ ×ₗ ℚ :=
  toLex (row.riskScore, toLex (row.lateTasks, toLex (row.criticalTasks, row.costVariance)))

/-! ## Merged loads -/

/-- The rows of a resource add up over the projects. -/
def mergedLoads : Grouping ResourceLoadRow.resourceId ResourceLoadRow.resourceId where
  join existing row :=
    match existing with
    | none => { row with capacityPercent := orHundred row.capacityPercent }
    | some existing =>
        let totalAllocation := existing.totalAllocationPercent + row.totalAllocationPercent
        let capacity := max (orHundred existing.capacityPercent) (orHundred row.capacityPercent)
        { existing with
          totalAllocationPercent := totalAllocation
          tasksCount := existing.tasksCount + row.tasksCount
          capacityPercent := capacity
          utilizationPercent := totalAllocation / orHundred capacity * 100 }
  key_join existing row h := by
    cases existing with
    | none => rfl
    | some existing => exact h existing rfl

/-- What the loop reads of a project. -/
structure PortfolioEntry where
  project : Project
  kpi : ProjectKPI
  loads : List ResourceLoadRow

structure DashboardData where
  kpi : ProjectKPI
  alerts : List PortfolioAlert
  resourceLoad : List ResourceLoadRow
  portfolio : DashboardPortfolio

section

variable (service : DashboardService) (store : ProjectStore)

def listProjects : Except DomainError (List Project) := do
  (sessionAuthorizationEngine service.userSession).requirePermission "project.read"
    "list projects"
  return filterScopeRows service.userSession store.projects.rows "project" "project.read"
    Project.id

def portfolioEntry (project : Project) : Except DomainError PortfolioEntry := do
  let kpi ← getProjectKpis service.reporting store project.id
  let loads ← getResourceLoadSummary store service.reporting project.id
  return { project := project, kpi := kpi, loads := loads }

/-- `_build_portfolio_kpi` for the figures of the projects; without projects all are zero. -/
def buildPortfolioKpi (kpis : List ProjectKPI) : ProjectKPI :=
  let startDate := (kpis.filterMap ProjectKPI.startDate).min?
  let endDate := (kpis.filterMap ProjectKPI.endDate).max?
  { projectId := "__portfolio__"
    name := "Portfolio Overview"
    startDate := startDate
    endDate := endDate
    durationWorkingDays := service.calendar.durationBetween startDate endDate
    tasksTotal := (kpis.map ProjectKPI.tasksTotal).sum
    tasksCompleted := (kpis.map ProjectKPI.tasksCompleted).sum
    tasksInProgress := (kpis.map ProjectKPI.tasksInProgress).sum
    taskBlocked := (kpis.map ProjectKPI.taskBlocked).sum
    tasksNotStarted := (kpis.map ProjectKPI.tasksNotStarted).sum
    criticalTasks := (kpis.map ProjectKPI.criticalTasks).sum
    lateTasks := (kpis.map ProjectKPI.lateTasks).sum
    totalPlannedCost := (kpis.map ProjectKPI.totalPlannedCost).sum
    totalActualCost := (kpis.map ProjectKPI.totalActualCost).sum
    costVariance := (kpis.map ProjectKPI.costVariance).sum
    totalCommittedCost := (kpis.map ProjectKPI.totalCommittedCost).sum
    committmentVariance := (kpis.map ProjectKPI.committmentVariance).sum }

def countProjects (entries : List PortfolioEntry) (status : ProjectStatus) : ℕ :=
  entries.countP fun entry => entry.project.status = status

def buildPortfolio (entries : List PortfolioEntry) : DashboardPortfolio where
  projectsTotal := entries.length
  activeProjects := countProjects entries .active
  completedProjects := countProjects entries .completed
  onHoldProjects := countProjects entries .onHold
  atRiskProjects := entries.countP fun entry => portfolioIsAtRisk entry.project.status entry.kpi
  statusRollup := [.active, .onHold, .planned, .completed].map fun status =>
    { statusLabel := status, projectCount := countProjects entries status }
  projectRankings := (entries.map fun entry =>
    portfolioProjectRow entry.project entry.kpi).insertionSort fun first second =>
      second.rank ≤ first.rank

/-- The dictionary of merged rows, the highest utilization first. -/
def mergedResourceLoad (rows : List ResourceLoadRow) : List ResourceLoadRow :=
  (mergedLoads.collect .empty rows).rows.reverse.insertionSort fun first second =>
    second.utilizationPercent ≤ first.utilizationPercent

def getPortfolioData : Except DomainError DashboardData := do
  (sessionAuthorizationEngine service.userSession).requirePermission "report.view"
    "view portfolio dashboard"
  let listed ← listProjects service store
  let projects := filterScopeRows service.userSession listed "project" "project.read" Project.id
  if projects = [] then
    return {
      kpi := buildPortfolioKpi service []
      alerts := [.noProjects]
      resourceLoad := []
      portfolio :=
        { projectsTotal := 0
          activeProjects := 0
          completedProjects := 0
          onHoldProjects := 0
          atRiskProjects := 0
          statusRollup := []
          projectRankings := [] } }
  else
    let entries ← projects.mapM (portfolioEntry service store)
    let kpi := buildPortfolioKpi service (entries.map PortfolioEntry.kpi)
    let portfolio := buildPortfolio entries
    let resourceLoad := mergedResourceLoad (entries.flatMap PortfolioEntry.loads)
    return {
      kpi := kpi
      alerts := buildPortfolioAlerts portfolio resourceLoad kpi.costVariance
      resourceLoad := resourceLoad
      portfolio := portfolio }

end

end ProjectManager
