import ProjectManager.Reporting.CostPolicy
import ProjectManager.Scheduling.Engine

/-! # Key figures of a project -/

namespace ProjectManager

open Foundation

structure ProjectKPI where
  projectId : String
  name : String
  startDate : Option Date
  endDate : Option Date
  durationWorkingDays : Option ℕ
  tasksTotal : ℕ
  tasksCompleted : ℕ
  tasksInProgress : ℕ
  taskBlocked : ℕ
  tasksNotStarted : ℤ
  criticalTasks : ℕ
  lateTasks : ℕ
  totalPlannedCost : ℚ
  totalActualCost : ℚ
  costVariance : ℚ
  totalCommittedCost : ℚ
  committmentVariance : ℚ
  deriving DecidableEq

def TasksById.countStatus (tasks : TasksById) (status : TaskStatus) : ℕ :=
  tasks.tasks.countP fun task => task.status = status

/-- The working days from the first date to the last, when both are known. -/
def WorkCalendarEngine.durationBetween (calendar : WorkCalendarEngine)
    (startDate endDate : Option Date) : Option ℕ :=
  startDate.bind fun start => endDate.map fun finish => calendar.workingDaysBetween start finish

/-- The figures of a project on a schedule of its own. -/
def getProjectKpis (service : ReportingService) (store : ProjectStore) (projectId : String) :
    Except DomainError ProjectKPI := do
  service.requireView "view project kpis" projectId
  let project ← require (store.projects.get? projectId)
    (notFoundError "Project not found." "PROJECT_NOT_FOUND")
  let tasks := store.tasksOf projectId
  let tasksCompleted := tasks.countStatus .done
  let tasksInProgress := tasks.countStatus .inProgress
  let taskBlocked := tasks.countStatus .blocked
  let cpmResult ← recalculateProjectSchedule service.calendar tasks
    (store.dependenciesOf projectId)
  let costSnapshot ← buildCostPolicySnapshot store projectId service none
  let totalPlanned := sumBucketMap costSnapshot.plannedMap costSnapshot.projectCurrency
  let totalCommitted := sumBucketMap costSnapshot.committedMap costSnapshot.projectCurrency
  let totalActual := sumBucketMap costSnapshot.actualMap costSnapshot.projectCurrency
  return {
    projectId := project.id
    name := project.name
    startDate := project.startDate
    endDate := project.endDate
    durationWorkingDays := service.calendar.durationBetween project.startDate project.endDate
    tasksTotal := tasks.tasks.length
    tasksCompleted := tasksCompleted
    tasksInProgress := tasksInProgress
    taskBlocked := taskBlocked
    tasksNotStarted := tasks.tasks.length - tasksCompleted - tasksInProgress - taskBlocked
    criticalTasks := cpmResult.countP fun info => info.isCritical
    lateTasks := cpmResult.countP fun info => info.lateByDays.any fun days => 0 < days
    totalPlannedCost := totalPlanned
    totalActualCost := totalActual
    costVariance := totalActual - totalPlanned
    totalCommittedCost := totalCommitted
    committmentVariance := totalCommitted - totalPlanned }

end ProjectManager
