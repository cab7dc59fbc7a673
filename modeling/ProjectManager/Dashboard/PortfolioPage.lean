import ProjectManager.Dashboard.Burndown
import ProjectManager.Dashboard.PortfolioLoad
import ProjectManager.Projects.Resources
import ProjectManager.Tasks.PlanningRuns

/-! # The portfolio page

The page schedules every project that it shows. A project whose tasks have no
date to start from cannot be scheduled, and takes the page from all the others.
-/

namespace ProjectManager

open Foundation

/-! ## Upcoming tasks -/

structure UpcomingTask where
  taskId : String
  name : String
  startDate : Option Date
  endDate : Option Date
  percentComplete : ℚ
  mainResource : Option String
  isLate : Bool
  isCritical : Bool
  deriving DecidableEq

/-- `row.start_date or date.max`. -/
def UpcomingTask.sortDate (row : UpcomingTask) : WithTop Date :=
  row.startDate.elim ⊤ WithTop.some

/-- The task starts within the horizon of two weeks, and is neither done nor blocked. -/
def Task.isUpcoming (task : Task) (today : Date) : Bool :=
  task.status ≠ .done ∧ task.status ≠ .blocked ∧
    ∃ start ∈ task.startDate, today ≤ start ∧ start ≤ today + 14

def upcomingTask (today : Date) (resources : List Resource) (task : Task)
    (assignments : List TaskAssignment) : UpcomingTask where
  taskId := task.id
  name := task.name
  startDate := task.startDate
  endDate := task.endDate
  percentComplete := task.percentComplete
  mainResource := (assignments.argmax TaskAssignment.allocationPercent).bind fun assignment =>
    (resources.find? fun resource => resource.id = assignment.resourceId).map Resource.name
  isLate := task.percentComplete < 100 ∧ ∃ finish ∈ task.endDate, finish < today
  isCritical := false

section

variable (service : DashboardService) (store : ProjectStore)

def listAssignmentsForTask (taskId : String) : Except DomainError (List TaskAssignment) := do
  let engine := sessionAuthorizationEngine service.userSession
  engine.requirePermission "task.read" "list task assignments"
  let task ← require (store.tasks.get? taskId) (notFoundError "Task not found." "TASK_NOT_FOUND")
  engine.requireProjectPermission task.projectId "task.read" "list task assignments"
  return store.assignments.rows.filter fun assignment => assignment.taskId = taskId

def buildUpcomingTasks (projectId : String) : Except DomainError (List UpcomingTask) := do
  let engine := sessionAuthorizationEngine service.userSession
  let tasks ← listDashboardTasks service store projectId
  let resources ← listResources { userSession := engine, employeeRepo := none } store
  let upcoming ← (tasks.filter fun task => task.isUpcoming service.today).mapM fun task => do
    let assignments ← listAssignmentsForTask service store task.id
    return upcomingTask service.today resources task assignments
  return upcoming.insertionSort fun first second => first.sortDate ≤ second.sortDate

/-! ## The page -/

structure PortfolioPage where
  data : DashboardData
  upcomingTasks : List UpcomingTask

/-- One iteration of the loop over the projects. -/
def portfolioPageEntry (project : Project) :
    Except DomainError (PortfolioEntry × List UpcomingTask) := do
  let kpi ← getProjectKpis service.reporting store project.id
  let upcoming ← buildUpcomingTasks service store project.id
  let loads ← getResourceLoadSummary store service.reporting project.id
  return ({ project := project, kpi := kpi, loads := loads }, upcoming.map fun row =>
    { row with name := project.name ++ " | " ++ row.name })

/-- What the loop has collected, put together. -/
def portfolioData (entries : List PortfolioEntry) : DashboardData :=
  let kpi := buildPortfolioKpi service (entries.map PortfolioEntry.kpi)
  let portfolio := buildPortfolio entries
  let resourceLoad := mergedResourceLoad (entries.flatMap PortfolioEntry.loads)
  { kpi := kpi
    alerts := buildPortfolioAlerts portfolio resourceLoad kpi.costVariance
    resourceLoad := resourceLoad
    portfolio := portfolio }

/-- The page of a user without projects. -/
def emptyPortfolioData : DashboardData where
  kpi := buildPortfolioKpi service []
  alerts := [.noProjects]
  resourceLoad := []
  portfolio :=
    { projectsTotal := 0
      activeProjects := 0
      completedProjects := 0
      onHoldProjects := 0
      atRiskProjects := 0
      statusRollup := []
      projectRankings := [] }

/-- `get_portfolio_data` with the upcoming tasks, of which the first twenty are shown. -/
def getPortfolioPage : Except DomainError PortfolioPage := do
  (sessionAuthorizationEngine service.userSession).requirePermission "report.view"
    "view portfolio dashboard"
  let listed ← listProjects service store
  let projects := filterScopeRows service.userSession listed "project" "project.read" Project.id
  if projects = [] then
    return { data := emptyPortfolioData service, upcomingTasks := [] }
  else
    let entries ← projects.mapM (portfolioPageEntry service store)
    let upcoming := (entries.flatMap Prod.snd).insertionSort fun first second =>
      toLex (first.sortDate, first.name) ≤ toLex (second.sortDate, second.name)
    return {
      data := portfolioData service (entries.map Prod.fst)
      upcomingTasks := upcoming.take 20 }

end

/-! ## What a page says -/

section

variable (calendar : WorkCalendarEngine) (store : ProjectStore) (projects : List Project)

/-- The schedule that the figures of a project are counted on. -/
def projectSchedule (projectId : String) : List CPMTaskInfo :=
  (storedSchedule calendar projectId store).toOption.getD []

/-- Each total is the sum of the counts of the projects. -/
structure TotalsAddUp (kpi : ProjectKPI) : Prop where
  tasksTotal : kpi.tasksTotal =
    (projects.map fun project => (store.tasksOf project.id).tasks.length).sum
  tasksCompleted : kpi.tasksCompleted =
    (projects.map fun project => (store.tasksOf project.id).countStatus .done).sum
  tasksInProgress : kpi.tasksInProgress =
    (projects.map fun project => (store.tasksOf project.id).countStatus .inProgress).sum
  taskBlocked : kpi.taskBlocked =
    (projects.map fun project => (store.tasksOf project.id).countStatus .blocked).sum
  tasksNotStarted : kpi.tasksNotStarted =
    (projects.map fun project => ((store.tasksOf project.id).countStatus .todo : ℤ)).sum
  criticalTasks : kpi.criticalTasks = (projects.map fun project =>
    (projectSchedule calendar store project.id).countP fun info => info.isCritical).sum
  lateTasks : kpi.lateTasks = (projects.map fun project =>
    (projectSchedule calendar store project.id).countP fun info =>
      info.lateByDays.any fun days => 0 < days).sum

end

/-- Every project is counted, and so is every task. -/
structure PageAnswers (service : DashboardService) (store : ProjectStore) (page : PortfolioPage) :
    Prop where
  projectsTotal : page.data.portfolio.projectsTotal = (accessibleProjects service store).length
  totals : TotalsAddUp service.calendar store (accessibleProjects service store) page.data.kpi

/-- What the reports and the upcoming tasks ask of the reader of a project. -/
structure ReadsProject (engine : AuthorizationEngine) (projectId : String) : Prop where
  reports : engine.hasScopePermission "project" projectId "report.view" = true
  tasks : engine.hasPermission "task.read" = true
  projectTasks : engine.hasScopePermission "project" projectId "task.read" = true
  resources : engine.hasPermission "resource.read" = true

/-! ## The figures of one project -/

theorem countStatus_todo (tasks : TasksById) :
    (tasks.countStatus .todo : ℤ) = tasks.tasks.length - tasks.countStatus .done -
      tasks.countStatus .inProgress - tasks.countStatus .blocked := by
  unfold TasksById.countStatus
  induction tasks.tasks with
  | nil => rfl
  | cons task rest ih =>
      cases hstatus : task.status <;> simp [hstatus] <;> omega

section

variable {service : DashboardService} {store : ProjectStore}

/-- The figures of one project are its own counts. -/
theorem getProjectKpis_totals {project : Project} {kpi : ProjectKPI}
    (h : getProjectKpis service.reporting store project.id = .ok kpi) :
    TotalsAddUp service.calendar store [project] kpi := by
  iterate 2 obtain ⟨_, -, h⟩ := bind_ok h
  obtain ⟨infos, hinfos, h⟩ := bind_ok h
  obtain ⟨_, -, h⟩ := bind_ok h
  obtain rfl := Except.ok.inj h
  have hschedule : projectSchedule service.calendar store project.id = infos := by
    have hstored : storedSchedule service.calendar project.id store = .ok infos := hinfos
    rw [projectSchedule, hstored]
    rfl
  constructor <;> simp only [List.map_cons, List.map_nil, List.sum_singleton, hschedule]
  exact (countStatus_todo _).symm

theorem exists_projectKpis_iff {reporting : ReportingService} {project : Project}
    (hview : ∀ label, reporting.requireView label project.id = .ok ())
    (hproject : store.projects.get? project.id = some project) :
    (∃ kpi, getProjectKpis reporting store project.id = .ok kpi) ↔
      Schedulable store project.id := by
  rw [← exists_storedSchedule_iff reporting.calendar]
  constructor
  · rintro ⟨kpi, h⟩
    iterate 2 obtain ⟨_, -, h⟩ := bind_ok h
    obtain ⟨infos, hinfos, -⟩ := bind_ok h
    exact ⟨infos, hinfos⟩
  · rintro ⟨infos, hinfos⟩
    have hfound : require (store.projects.get? project.id)
        (notFoundError "Project not found." "PROJECT_NOT_FOUND") = .ok project :=
      require_eq_ok.mpr hproject
    have hlabor : ∃ rows, getProjectLaborDetails store project.id reporting = .ok rows :=
      ⟨_, bind_eq_ok.mpr ⟨(), hview _, bind_eq_ok.mpr ⟨project, hfound, rfl⟩⟩⟩
    obtain ⟨rows, hrows⟩ := hlabor
    have hactual : ∃ labor, resolveActualLaborMap store project.id
        (givenText (project.currency.map fun text => upper (strip text))) reporting = .ok labor :=
      ⟨_, bind_eq_ok.mpr ⟨rows, hrows, rfl⟩⟩
    obtain ⟨labor, hlabor⟩ := hactual
    have hcosts : ∃ snapshot, buildCostPolicySnapshot store project.id reporting none =
        .ok snapshot :=
      ⟨_, bind_eq_ok.mpr ⟨project, hfound, bind_eq_ok.mpr ⟨labor, hlabor, rfl⟩⟩⟩
    obtain ⟨snapshot, hsnapshot⟩ := hcosts
    exact ⟨_, bind_eq_ok.mpr ⟨(), hview _, bind_eq_ok.mpr ⟨project, hfound,
      bind_eq_ok.mpr ⟨infos, hinfos, bind_eq_ok.mpr ⟨snapshot, hsnapshot, rfl⟩⟩⟩⟩⟩

/-! ## The other readings of a project -/

theorem exists_assignmentsForTask {task : Task} (hstored : store.tasks.get? task.id = some task)
    (hreads : ReadsProject (sessionAuthorizationEngine service.userSession) task.projectId) :
    ∃ assignments, listAssignmentsForTask service store task.id = .ok assignments :=
  ⟨_, bind_eq_ok.mpr ⟨(), ensure_eq_ok.mpr hreads.tasks, bind_eq_ok.mpr ⟨task,
    require_eq_ok.mpr hstored, bind_eq_ok.mpr ⟨(), ensure_eq_ok.mpr hreads.projectTasks, rfl⟩⟩⟩⟩

theorem exists_upcomingTasks {projectId : String}
    (hreads : ReadsProject (sessionAuthorizationEngine service.userSession) projectId) :
    ∃ upcoming, buildUpcomingTasks service store projectId = .ok upcoming := by
  have htasks : listDashboardTasks service store projectId =
      .ok (store.tasksOf projectId).tasks :=
    bind_eq_ok.mpr ⟨(), ensure_eq_ok.mpr hreads.tasks, bind_eq_ok.mpr ⟨(),
      ensure_eq_ok.mpr hreads.projectTasks, rfl⟩⟩
  have hresources : listResources
      { userSession := sessionAuthorizationEngine service.userSession, employeeRepo := none }
      store = .ok store.resources.rows :=
    bind_eq_ok.mpr ⟨(), ensure_eq_ok.mpr hreads.resources, rfl⟩
  have hrows : ∃ rows, ((store.tasksOf projectId).tasks.filter fun task =>
      task.isUpcoming service.today).mapM (fun task => do
        let assignments ← listAssignmentsForTask service store task.id
        return upcomingTask service.today store.resources.rows task assignments) = .ok rows := by
    apply exists_mapM_iff.mpr
    intro task htask
    obtain ⟨hstored, rfl⟩ := mem_tasksOf.mp (List.mem_filter.mp htask).1
    obtain ⟨assignments, hassignments⟩ := exists_assignmentsForTask
      (Table.get?_eq_some_iff.mpr ⟨hstored, rfl⟩) hreads
    exact ⟨_, bind_eq_ok.mpr ⟨assignments, hassignments, rfl⟩⟩
  obtain ⟨rows, hrows⟩ := hrows
  exact ⟨_, bind_eq_ok.mpr ⟨_, htasks, bind_eq_ok.mpr ⟨_, hresources,
    bind_eq_ok.mpr ⟨rows, hrows, rfl⟩⟩⟩⟩

/-- The loop gets through a project when the project can be scheduled. -/
theorem exists_pageEntry_iff {project : Project}
    (hview : (sessionAuthorizationEngine service.userSession).hasPermission "report.view" = true)
    (hreads : ReadsProject (sessionAuthorizationEngine service.userSession) project.id)
    (hproject : store.projects.get? project.id = some project) :
    (∃ entry, portfolioPageEntry service store project = .ok entry) ↔
      Schedulable store project.id := by
  have hlabel : ∀ label, service.reporting.requireView label project.id = .ok () :=
    fun label => requireView_eq_ok.mpr ⟨hview, hreads.reports⟩
  rw [← exists_projectKpis_iff hlabel hproject]
  constructor
  · rintro ⟨entry, h⟩
    obtain ⟨kpi, hkpi, -⟩ := bind_ok h
    exact ⟨kpi, hkpi⟩
  · rintro ⟨kpi, hkpi⟩
    obtain ⟨upcoming, hupcoming⟩ := exists_upcomingTasks hreads
    have hloads : ∃ loads, getResourceLoadSummary store service.reporting project.id =
        .ok loads :=
      ⟨_, bind_eq_ok.mpr ⟨(), hlabel _, rfl⟩⟩
    obtain ⟨loads, hloads⟩ := hloads
    exact ⟨_, bind_eq_ok.mpr ⟨kpi, hkpi, bind_eq_ok.mpr ⟨upcoming, hupcoming,
      bind_eq_ok.mpr ⟨loads, hloads, rfl⟩⟩⟩⟩

/-! ## The totals -/

theorem sum_map_eq {α β M : Type*} [AddMonoid M] {R : α → β → Prop} {as : List α} {bs : List β}
    (h : List.Forall₂ R as bs) {f : β → M} {g : α → M} (hR : ∀ a b, R a b → f b = g a) :
    (bs.map f).sum = (as.map g).sum := by
  induction h with
  | nil => rfl
  | cons hhead _ ih =>
      rw [List.map_cons, List.map_cons, List.sum_cons, List.sum_cons, ih, hR _ _ hhead]

theorem buildPortfolioKpi_totals {calendar : WorkCalendarEngine} {projects : List Project}
    {kpis : List ProjectKPI}
    (h : List.Forall₂ (fun project kpi => TotalsAddUp calendar store [project] kpi)
      projects kpis) :
    TotalsAddUp calendar store projects (buildPortfolioKpi service kpis) where
  tasksTotal := sum_map_eq h fun _ _ hcount => hcount.tasksTotal.trans List.sum_singleton
  tasksCompleted := sum_map_eq h fun _ _ hcount => hcount.tasksCompleted.trans List.sum_singleton
  tasksInProgress := sum_map_eq h fun _ _ hcount => hcount.tasksInProgress.trans List.sum_singleton
  taskBlocked := sum_map_eq h fun _ _ hcount => hcount.taskBlocked.trans List.sum_singleton
  tasksNotStarted := sum_map_eq h fun _ _ hcount => hcount.tasksNotStarted.trans List.sum_singleton
  criticalTasks := sum_map_eq h fun _ _ hcount => hcount.criticalTasks.trans List.sum_singleton
  lateTasks := sum_map_eq h fun _ _ hcount => hcount.lateTasks.trans List.sum_singleton

theorem pageEntries_totals {projects : List Project}
    {entries : List (PortfolioEntry × List UpcomingTask)}
    (h : projects.mapM (portfolioPageEntry service store) = .ok entries) :
    entries.length = projects.length ∧ TotalsAddUp service.calendar store projects
      (buildPortfolioKpi service ((entries.map Prod.fst).map PortfolioEntry.kpi)) := by
  have hforall := mapM_eq_ok.mp h
  refine ⟨hforall.length_eq.symm, buildPortfolioKpi_totals ?_⟩
  rw [List.map_map, List.forall₂_map_right_iff]
  refine hforall.imp fun project entry hentry => ?_
  obtain ⟨kpi, hkpi, hentry⟩ := bind_ok hentry
  obtain ⟨upcoming, -, hentry⟩ := bind_ok hentry
  obtain ⟨loads, -, hentry⟩ := bind_ok hentry
  obtain rfl := Except.ok.inj hentry
  exact getProjectKpis_totals hkpi

/-! ## When the page answers -/

theorem listProjects_eq_ok {listed : List Project} :
    listProjects service store = .ok listed ↔
      (sessionAuthorizationEngine service.userSession).hasPermission "project.read" = true ∧
        accessibleProjects service store = listed := by
  unfold listProjects
  rw [bind_eq_ok]
  constructor
  · rintro ⟨_, hread, hlisted⟩
    exact ⟨ensure_eq_ok.mp hread, Except.ok.inj hlisted⟩
  · rintro ⟨hread, rfl⟩
    exact ⟨(), ensure_eq_ok.mpr hread, rfl⟩

theorem getPortfolioPage_eq
    (hview : (sessionAuthorizationEngine service.userSession).hasPermission "report.view" = true)
    (hread : (sessionAuthorizationEngine service.userSession).hasPermission "project.read" =
      true) :
    getPortfolioPage service store =
      if accessibleProjects service store = [] then
        .ok { data := emptyPortfolioData service, upcomingTasks := [] }
      else
        ((accessibleProjects service store).mapM (portfolioPageEntry service store)).map
          fun entries =>
            { data := portfolioData service (entries.map Prod.fst)
              upcomingTasks := ((entries.flatMap Prod.snd).insertionSort fun first second =>
                toLex (first.sortDate, first.name) ≤ toLex (second.sortDate, second.name)).take
                  20 } := by
  have hlisted : listProjects service store = .ok (accessibleProjects service store) :=
    listProjects_eq_ok.mpr ⟨hread, rfl⟩
  unfold getPortfolioPage AuthorizationEngine.requirePermission
  rw [(ensure_eq_ok (u := ())).mpr hview, hlisted]
  change (if filterScopeRows service.userSession (accessibleProjects service store) _ _ _ = []
    then _ else _) = _
  rw [accessibleProjects, filterScopeRows_twice, ← accessibleProjects]
  split
  · rfl
  · cases (accessibleProjects service store).mapM (portfolioPageEntry service store) <;> rfl

/-- Nothing is counted where no project is kept. -/
theorem emptyPortfolioData_totals (calendar : WorkCalendarEngine) :
    TotalsAddUp calendar store [] (emptyPortfolioData service).kpi :=
  buildPortfolioKpi_totals .nil

theorem getPortfolioPage_answers
    (hview : (sessionAuthorizationEngine service.userSession).hasPermission "report.view" = true)
    (hreads : ∀ project ∈ accessibleProjects service store,
      ReadsProject (sessionAuthorizationEngine service.userSession) project.id) :
    (∃ page, getPortfolioPage service store = .ok page ∧ PageAnswers service store page) ↔
      (sessionAuthorizationEngine service.userSession).hasPermission "project.read" = true ∧
        ∀ project ∈ accessibleProjects service store, Schedulable store project.id := by
  have hentries : (∃ entries, (accessibleProjects service store).mapM
      (portfolioPageEntry service store) = .ok entries) ↔
        ∀ project ∈ accessibleProjects service store, Schedulable store project.id := by
    rw [exists_mapM_iff]
    refine forall₂_congr fun project hproject => ?_
    apply exists_pageEntry_iff hview (hreads project hproject)
    exact Table.get?_eq_some_iff.mpr
      ⟨(filterScopeRows_sublist _ _ _ _ _).subset hproject, rfl⟩
  rw [← hentries]
  constructor
  · rintro ⟨page, h, -⟩
    have hread : (sessionAuthorizationEngine service.userSession).hasPermission "project.read" =
        true := by
      obtain ⟨_, -, h⟩ := bind_ok h
      obtain ⟨listed, hlisted, -⟩ := bind_ok h
      exact (listProjects_eq_ok.mp hlisted).1
    refine ⟨hread, ?_⟩
    rw [getPortfolioPage_eq hview hread] at h
    split at h
    next hnone =>
      rw [hnone]
      exact ⟨[], rfl⟩
    next =>
      cases hrun : (accessibleProjects service store).mapM (portfolioPageEntry service store) with
      | error e =>
          rw [hrun] at h
          cases h
      | ok entries => exact ⟨entries, rfl⟩
  · rintro ⟨hread, entries, hrun⟩
    obtain ⟨hlength, htotals⟩ := pageEntries_totals hrun
    rw [getPortfolioPage_eq hview hread]
    split
    next hnone =>
      refine ⟨_, rfl, ?_, ?_⟩
      · rw [hnone]
        rfl
      · rw [hnone]
        exact emptyPortfolioData_totals service.calendar
    next =>
      refine ⟨_, congrArg (Except.map _) hrun, ?_, htotals⟩
      exact (List.length_map Prod.fst).trans hlength

/-- On a calendar with a working weekday, a reader of the reports gets the page, with every project
and every task counted, exactly when the projects may be listed and each that is kept can be
scheduled. -/
theorem getPortfolioPage_answers_iff (calendar : WorkingCalendarRepository)
    (hproper : calendar.Proper) (store : ProjectStore) (other : DashboardService)
    (hview : (sessionAuthorizationEngine other.userSession).hasPermission "report.view" = true)
    (hreads : ∀ project ∈ accessibleProjects other store,
      ReadsProject (sessionAuthorizationEngine other.userSession) project.id) :
    let service := { other with calendar := ⟨calendar, hproper⟩ }
    (∃ page, getPortfolioPage service store = .ok page ∧ PageAnswers service store page) ↔
      (sessionAuthorizationEngine service.userSession).hasPermission "project.read" = true ∧
        ∀ project ∈ accessibleProjects service store, Schedulable store project.id :=
  getPortfolioPage_answers hview hreads

end

/-! ## A project without dates -/

def reader : UserSessionPrincipal where
  userId := "R1"
  userId_ne := by decide
  username := "reader"
  permissions := ["project.read", "task.read", "resource.read", "report.view"]

def readerService : DashboardService where
  userSession := some reader
  calendar := weekdayCalendar
  today := 8

/-- The task "Design" is created in the office, with or without a start date. -/
def officeAfterDesign (startDate : Option Date) : ProjectStore :=
  (sessionAfter runPlanningCall (.clean officeSite) [(planner, .createTask "design"
    { projectId := "office", name := "Design", startDate := startDate
      durationDays := some 3 })]).committed.projects

theorem readsProject_reader (projectId : String) :
    ReadsProject (sessionAuthorizationEngine readerService.userSession) projectId := by
  constructor <;> rfl

/-- With a date the page is shown. -/
theorem getPortfolioPage_answers_datedOffice :
    ∃ page, getPortfolioPage readerService (officeAfterDesign (some 8)) = .ok page ∧
      PageAnswers readerService (officeAfterDesign (some 8)) page := by
  have hlinks : (officeAfterDesign (some 8)).dependencies.rows = [] := by decide +kernel
  have hdated : ∃ task ∈ ((officeAfterDesign (some 8)).tasksOf "office").tasks, task.HasDate := by
    decide +kernel
  have hoffice : ∀ project ∈ accessibleProjects readerService (officeAfterDesign (some 8)),
      project.id = "office" := by
    decide +kernel
  refine (getPortfolioPage_answers_iff _ weekdayCalendar.proper _ readerService (by rfl)
    fun project _ => readsProject_reader project.id).mpr ⟨rfl, ?_⟩
  intro project hproject
  rw [hoffice project hproject]
  refine .inr ⟨?_, hdated⟩
  unfold ProjectStore.dependenciesOf
  rw [hlinks]
  rintro ⟨node, hcycle⟩
  obtain ⟨next, hedge, -⟩ := Relation.TransGen.head'_iff.mp hcycle
  exact absurd hedge List.not_mem_nil

/-- Without a date the task is accepted, and the whole page fails. -/
theorem not_pageAnswers_undatedOffice :
    (officeAfterDesign none).tasks.ids = ["design"] ∧
      (accessibleProjects readerService (officeAfterDesign none)).map Project.id = ["office"] ∧
      (∀ projectId, ReadsProject (sessionAuthorizationEngine readerService.userSession)
        projectId) ∧
      getPortfolioPage readerService (officeAfterDesign none) = .error noFinishDates := by
  refine ⟨by decide +kernel, by decide +kernel, readsProject_reader, ?_⟩
  have hfails : (getPortfolioPage readerService (officeAfterDesign none)).map (fun _ => ()) =
      .error noFinishDates := by
    decide +kernel
  cases hpage : getPortfolioPage readerService (officeAfterDesign none) with
  | error e =>
      rw [hpage] at hfails
      exact congrArg Except.error (Except.error.inj hfails)
  | ok page =>
      rw [hpage] at hfails
      cases hfails

end ProjectManager
