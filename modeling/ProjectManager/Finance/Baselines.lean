import ProjectManager.Projects.Lifecycle
import ProjectManager.Reporting.CostReports
import ProjectManager.Tasks.Rescheduling

/-! # Baselines

A baseline keeps the computed dates of the tasks of a project and what each of them is
planned to cost: its own cost items, and its shares of the items without a task and of
the labor that is planned for the project.
-/

namespace ProjectManager

open Foundation ServiceProgram

/-! ## What is counted -/

def Project.baselineCurrency (project : Project) : String :=
  strip (upper (project.currency.getD ""))

section

variable (store : ProjectStore) (projectId currency : String)

/-- The planned labor of a resource, nothing where it is in another currency. -/
def baselineLaborCost (row : ProjectResource) : ℚ :=
  match store.resources.get? row.resourceId with
  | none => 0
  | some resource =>
      let code := strip (upper (((givenText row.currencyCode).or resource.currencyCode).getD ""))
      if row.isActive = true ∧ row.resourceId ≠ "" ∧ 0 < row.plannedHours ∧
          (currency ≠ "" → orElse code currency = currency) then
        row.plannedHours * row.hourlyRate.getD resource.hourlyRate
      else 0

def baselineLabor : ℚ :=
  ((store.projectResourcesOf projectId).map (baselineLaborCost store currency)).sum

/-- Labor entered by hand counts only where no labor is planned. -/
def baselineCounts (item : CostItem) : Bool :=
  (item.costType ≠ .labor ∨ baselineLabor store projectId currency ≤ 0) ∧ 0 < item.plannedAmount

def baselineItems : List CostItem :=
  (store.costsOf projectId).filter (baselineCounts store projectId currency)

def CostItem.taskAmount (item : CostItem) : Option (String × ℚ) :=
  (givenText item.taskId).map fun taskId => (taskId, item.plannedAmount)

def plannedByTask : Buckets String ℚ :=
  .addAll .empty ((baselineItems store projectId currency).filterMap CostItem.taskAmount)

/-- What is planned without a task, or the budget of a project that plans no item. -/
def plannedUnassigned (budget : ℚ) : ℚ :=
  let unassigned := (((baselineItems store projectId currency).filter fun item =>
    (givenText item.taskId).isNone).map CostItem.plannedAmount).sum
  if (plannedByTask store projectId currency).sum Prod.snd + unassigned ≤ 0 ∧ 0 < budget then budget
  else unassigned

end

/-! ## The rows -/

/-- The computed dates of a task, or its own when it was not scheduled. -/
def baselineDates (infos : List CPMTaskInfo) (task : Task) : Option Date × Option Date :=
  match infos.find? fun info => info.task.id = task.id with
  | some info => (info.earliestStart, info.earliestFinish)
  | none => (task.startDate, task.endDate)

def baselineDuration (calendar : WorkCalendarEngine) (infos : List CPMTaskInfo) (task : Task) : ℕ :=
  let dates := baselineDates infos task
  (calendar.durationBetween dates.1 dates.2).getD task.duration.toNat

/-- The share of a task in an amount that belongs to no task. -/
def allocated (amount : ℚ) (durations : List ℕ) (duration : ℕ) : ℚ :=
  if 0 < amount then share amount durations duration else 0

structure CreateBaselineArguments where
  projectId : String
  name : String := "Baseline"
  bypassApproval : Bool := false

/-- The ids that are generated in a call, and its day. -/
structure BaselineIds where
  baseline : String
  row : String → String
  request : String
  today : Date

section

variable (calendar : WorkCalendarEngine) (store : ProjectStore) (project : Project)
  (infos : List CPMTaskInfo) (ids : BaselineIds)

def newBaselineTask (task : Task) : BaselineTask :=
  let currency := project.baselineCurrency
  let durations := (store.tasksOf project.id).tasks.map (baselineDuration calendar infos)
  let duration := baselineDuration calendar infos task
  let dates := baselineDates infos task
  { id := ids.row task.id
    baselineId := ids.baseline
    taskId := task.id
    taskName := (givenText (some task.name)).map strip
    baselineStart := dates.1
    baselineFinish := dates.2
    baselineDurationDays := duration
    baselinePlannedCost := max 0 ((plannedByTask store project.id currency).amount task.id +
      allocated (plannedUnassigned store project.id currency (project.plannedBudget.getD 0))
        durations duration +
      allocated (baselineLabor store project.id currency) durations duration) }

def insertBaseline (name : String) : Except DomainError (ProjectBaseline × ProjectStore) := do
  ensure ((store.tasksOf project.id).tasks ≠ [])
    (validationError "Cannot baseline: project has no tasks.")
  let baseline : ProjectBaseline :=
    { id := ids.baseline, projectId := project.id, name := orElse (strip name) "Baseline"
      createdAt := ids.today }
  ensure (baseline.id ∉ store.baselines.ids) (takenPrimaryKey "project_baselines")
  let rows ← (store.tasksOf project.id).tasks.foldlM (fun (rows : Table BaselineTask.id) task => do
    let row := newBaselineTask calendar store project infos ids task
    ensure (row.id ∉ rows.ids) (takenPrimaryKey "baseline_tasks")
    return rows.insert row) store.baselineTasks
  return (baseline,
    { store with baselines := store.baselines.insert baseline, baselineTasks := rows })

end

section

variable (services : ProjectManagementServices) (arguments : CreateBaselineArguments)

/-- The project for which the current user may create, or request, a baseline. -/
def prepareBaseline (store : ProjectStore) : Except DomainError Project := do
  let governed := services.governed "baseline.create" arguments.bypassApproval
  let permission := if governed then "approval.request" else "baseline.manage"
  let operationLabel := if governed then "request baseline creation" else "create baseline"
  services.userSession.requirePermission permission operationLabel
  services.userSession.requireProjectPermission arguments.projectId permission operationLabel
  require (store.projects.get? arguments.projectId) projectNotFound

/-- The schedule is computed and stored before the baseline is written. -/
def createBaseline (ids : BaselineIds) : ServiceProgram ProjectBaseline := do
  let project ← readProjects (prepareBaseline services arguments)
  if services.governed "baseline.create" arguments.bypassApproval then
    requestGovernedChange services "baseline.create" "project_baseline" arguments.projectId
      (some arguments.projectId) .empty "baseline creation" ids.request
  else do
    let infos ← recalculateSchedule services.workCalendarEngine arguments.projectId true
    committed fun store => insertBaseline services.workCalendarEngine store project infos ids
      arguments.name

end

section

variable {calendar : WorkCalendarEngine} {store next : ProjectStore} {project : Project}
  {infos : List CPMTaskInfo} {ids : BaselineIds} {name : String} {baseline : ProjectBaseline}

theorem rows_of_foldlM_insert {α κ : Type} [DecidableEq κ] {key : α → κ} {ε : Type} {error : ε}
    {β : Type} {make : β → α} {items : List β} {table last : Table key}
    (h : items.foldlM (fun (rows : Table key) item => do
      ensure (key (make item) ∉ rows.ids) error
      return rows.insert (make item)) table = .ok last) :
    last.rows = (items.map make).reverse ++ table.rows := by
  induction items generalizing table with
  | nil =>
      cases h
      rfl
  | cons item rest ih =>
      rw [List.foldlM_cons] at h
      obtain ⟨middle, hmiddle, h⟩ := bind_ok h
      obtain ⟨_, hnew, hmiddle⟩ := bind_ok hmiddle
      cases hmiddle
      rw [ih h, Table.rows_insert (ensure_eq_ok.mp hnew)]
      simp

/-- The baseline has one row for each task, and nothing else of the store changes. -/
theorem insertBaseline_ok (h : insertBaseline calendar store project infos ids name =
      .ok (baseline, next))
    (hrows : ∀ row ∈ store.baselineTasks.rows, row.baselineId ∈ store.baselines.ids) :
    (store.tasksOf project.id).tasks ≠ [] ∧ baseline.projectId = project.id ∧
      next.baselineTasksOf baseline.id =
        ((store.tasksOf project.id).tasks.map
          (newBaselineTask calendar store project infos ids)).reverse ∧
      next = { store with baselines := next.baselines, baselineTasks := next.baselineTasks } := by
  obtain ⟨_, htasks, h⟩ := bind_ok h
  obtain ⟨_, hfresh, h⟩ := bind_ok h
  obtain ⟨rows, hinserted, h⟩ := bind_ok h
  obtain ⟨rfl, rfl⟩ := Prod.mk.inj (Except.ok.inj h)
  refine ⟨ensure_eq_ok.mp htasks, rfl, ?_, rfl⟩
  have hnew : ∀ row ∈ store.baselineTasks.rows, row.baselineId ≠ ids.baseline := by
    intro row hrow hid
    exact ensure_eq_ok.mp hfresh (hid ▸ hrows row hrow)
  unfold ProjectStore.baselineTasksOf
  rw [rows_of_foldlM_insert hinserted, List.filter_append, List.filter_eq_self.mpr,
    List.filter_eq_nil_iff.mpr, List.append_nil]
  · simpa using hnew
  · simp [newBaselineTask]

end

/-! ## What it comes to -/

section

variable (store : ProjectStore) (projectId currency : String)

/-- What is planned for the tasks of the project by their own items. -/
def plannedOfTasks : ℚ :=
  (((baselineItems store projectId currency).filter fun item =>
    (givenText item.taskId).any fun taskId => taskId ∈ (store.tasksOf projectId).ids).map
      CostItem.plannedAmount).sum

theorem plannedAmount_pos {item : CostItem} (h : item ∈ baselineItems store projectId currency) :
    0 < item.plannedAmount := by
  have hcounts := (List.mem_filter.mp h).2
  exact (of_decide_eq_true hcounts).2

theorem amount_plannedByTask_nonneg (taskId : String) :
    0 ≤ (plannedByTask store projectId currency).amount taskId := by
  unfold plannedByTask
  rw [Buckets.amount_addAll]
  refine add_nonneg le_rfl (List.sum_nonneg (List.forall_mem_map.mpr fun cost hcost => ?_))
  obtain ⟨item, hitem, hamount⟩ := List.mem_filterMap.mp hcost
  obtain ⟨taskId, -, rfl⟩ := Option.map_eq_some_iff.mp hamount
  have hpos := plannedAmount_pos store projectId currency hitem
  split_ifs
  · exact hpos.le
  · exact le_rfl

theorem plannedUnassigned_nonneg (budget : ℚ) :
    0 ≤ plannedUnassigned store projectId currency budget := by
  unfold plannedUnassigned
  dsimp only
  split_ifs with hbudget
  · exact hbudget.2.le
  · refine List.sum_nonneg (List.forall_mem_map.mpr fun item hitem => ?_)
    exact (plannedAmount_pos store projectId currency (List.mem_of_mem_filter hitem)).le

theorem sum_amount_plannedByTask :
    ((store.tasksOf projectId).ids.map (plannedByTask store projectId currency).amount).sum =
      plannedOfTasks store projectId currency := by
  have hids : (store.tasksOf projectId).ids.Nodup := (store.tasksOf projectId).nodup
  unfold plannedByTask plannedOfTasks
  rw [Buckets.sum_map_amount _ hids, Buckets.total_addAll,
    sum_map_filterMap, sum_map_filter]
  change 0 + _ = _
  rw [zero_add]
  congr 1
  apply List.map_congr_left
  intro item _
  unfold CostItem.taskAmount
  cases givenText item.taskId <;> simp

theorem sum_allocated {amount : ℚ} {durations : List ℕ} (h : durations ≠ []) :
    (durations.map (allocated amount durations)).sum = max 0 amount := by
  unfold allocated
  split_ifs with hpos
  · rw [max_eq_right hpos.le]
    exact sum_share h
  · rw [max_eq_left (not_lt.mp hpos), List.map_const', List.sum_replicate, nsmul_zero]

theorem allocated_nonneg (amount : ℚ) (durations : List ℕ) (duration : ℕ) :
    0 ≤ allocated amount durations duration := by
  unfold allocated
  split_ifs with hpos
  · exact share_nonneg hpos.le duration
  · exact le_rfl

theorem baselinePlannedCost_eq (calendar : WorkCalendarEngine) (project : Project)
    (infos : List CPMTaskInfo) (ids : BaselineIds) (task : Task) :
    (newBaselineTask calendar store project infos ids task).baselinePlannedCost =
      (plannedByTask store project.id project.baselineCurrency).amount task.id +
        allocated (plannedUnassigned store project.id project.baselineCurrency
            (project.plannedBudget.getD 0))
          ((store.tasksOf project.id).tasks.map (baselineDuration calendar infos))
          (baselineDuration calendar infos task) +
        allocated (baselineLabor store project.id project.baselineCurrency)
          ((store.tasksOf project.id).tasks.map (baselineDuration calendar infos))
          (baselineDuration calendar infos task) :=
  max_eq_right (add_nonneg (add_nonneg (amount_plannedByTask_nonneg _ _ _ _)
    (allocated_nonneg _ _ _)) (allocated_nonneg _ _ _))

/-- Whatever the durations are, all that is counted is shared out. -/
theorem baselineCost_newBaselineTask (calendar : WorkCalendarEngine) (project : Project)
    (infos : List CPMTaskInfo) (ids : BaselineIds)
    (htasks : (store.tasksOf project.id).tasks ≠ []) :
    baselineCost ((store.tasksOf project.id).tasks.map
        (newBaselineTask calendar store project infos ids)) =
      plannedOfTasks store project.id project.baselineCurrency +
        plannedUnassigned store project.id project.baselineCurrency
          (project.plannedBudget.getD 0) +
        max 0 (baselineLabor store project.id project.baselineCurrency) := by
  have hdurations : (store.tasksOf project.id).tasks.map (baselineDuration calendar infos) ≠ [] :=
    mt List.map_eq_nil_iff.mp htasks
  have hunassigned := @sum_allocated (plannedUnassigned store project.id
    project.baselineCurrency (project.plannedBudget.getD 0)) _ hdurations
  have hlabor := @sum_allocated (baselineLabor store project.id project.baselineCurrency) _
    hdurations
  rw [max_eq_right (plannedUnassigned_nonneg _ _ _ _)] at hunassigned
  rw [← sum_amount_plannedByTask, ← hunassigned, ← hlabor, baselineCost, List.map_map, Table.ids,
    List.map_map, List.map_map, List.map_map, ← List.sum_map_add, ← List.sum_map_add]
  congr 1
  apply List.map_congr_left
  intro task _
  exact baselinePlannedCost_eq store calendar project infos ids task

end

/-- What the rows of a new baseline show of the store that it was made in. -/
structure BaselineShows (calendar : WorkCalendarEngine) (store : ProjectStore) (project : Project)
    (rows : List BaselineTask) : Prop where
  tasks : (rows.map BaselineTask.taskId).Perm (store.tasksOf project.id).ids
  dates : ∃ schedule, storedSchedule calendar project.id store = .ok schedule ∧
    ∀ row ∈ rows, ∃ times, timesOf schedule row.taskId = some times ∧
      row.baselineStart = times.earliestStart ∧ row.baselineFinish = times.earliestFinish
  cost : baselineCost rows = plannedOfTasks store project.id project.baselineCurrency +
    plannedUnassigned store project.id project.baselineCurrency (project.plannedBudget.getD 0) +
    max 0 (baselineLabor store project.id project.baselineCurrency)

section

variable {services : ProjectManagementServices} {arguments : CreateBaselineArguments}
  {ids : BaselineIds} {store : PlatformStore}

theorem prepareBaseline_ok {projects : ProjectStore} {project : Project}
    (h : prepareBaseline services arguments projects = .ok project) :
    projects.projects.get? arguments.projectId = some project := by
  iterate 2 obtain ⟨_, -, h⟩ := bind_ok h
  exact require_eq_ok.mp h

/-- The rows that a baseline counts are those that were stored. -/
structure KeepsCosts (projectId : String) (store next : ProjectStore) : Prop where
  costs : next.costs = store.costs
  resources : next.resources = store.resources
  projectResources : next.projectResources = store.projectResources
  tasks : (next.tasksOf projectId).ids = (store.tasksOf projectId).ids

def KeepsBaselines (store next : ProjectStore) : Prop :=
  next.baselines = store.baselines ∧ next.baselineTasks = store.baselineTasks

/-- The steps of a call that returned a baseline. -/
theorem createBaseline_steps (hsettled : store.addedBalances = []) :
    (createBaseline services arguments ids).Spec (.clean store)
      (fun baseline next => ∃ project infos,
        store.projects.projects.get? arguments.projectId = some project ∧
        storedSchedule services.workCalendarEngine arguments.projectId store.projects = .ok infos ∧
        insertBaseline services.workCalendarEngine (saveSchedule infos store.projects) project infos
          ids arguments.name = .ok (baseline, next.committed.projects))
      fun _ next => KeepsBaselines store.projects next.committed.projects := by
  unfold createBaseline
  rw [Program.spec_bind, spec_readProjects]
  cases hproject : prepareBaseline services arguments store.projects with
  | error e =>
      simp only [Session.clean_pending, hproject]
      exact ⟨rfl, rfl⟩
  | ok project =>
      simp only [Session.clean_pending, hproject]
      split_ifs with hgoverned
      · obtain ⟨e, next, hrun, last, rfl, -, hlast⟩ := @requestGovernedChange_run services store
          ProjectBaseline hsettled "baseline.create" "project_baseline" arguments.projectId
          (some arguments.projectId) .empty "baseline creation" ids.request
        unfold Program.Spec
        rw [hrun]
        exact ⟨congrArg ProjectStore.baselines hlast, congrArg ProjectStore.baselineTasks hlast⟩
      · rw [Program.spec_bind]
        unfold Program.Spec
        rw [recalculateSchedule_run _ _ hsettled]
        cases hinfos : storedSchedule services.workCalendarEngine arguments.projectId
            store.projects with
        | error e => exact ⟨rfl, rfl⟩
        | ok infos =>
            apply (committed_spec _ _).mono
            · rintro baseline next ⟨projects, hinserted, rfl, hcommitted⟩
              refine ⟨project, infos, prepareBaseline_ok hproject, rfl, ?_⟩
              rw [hcommitted]
              exact hinserted
            · rintro e next (⟨-, rfl⟩ | ⟨-, rfl⟩) <;> exact ⟨rfl, rfl⟩

theorem tasksOf_scheduled {calendar : WorkCalendarEngine} {projects : ProjectStore}
    {projectId : String} {infos : List CPMTaskInfo}
    (hinfos : storedSchedule calendar projectId projects = .ok infos) :
    ((saveSchedule infos projects).tasksOf projectId).ids = (projects.tasksOf projectId).ids ∧
      ∀ id ∈ (projects.tasksOf projectId).ids, (timesOf infos id).isSome = true := by
  by_cases hempty : (projects.tasksOf projectId).tasks = []
  · unfold storedSchedule recalculateProjectSchedule at hinfos
    rw [if_pos (List.isEmpty_iff.mpr hempty)] at hinfos
    cases hinfos
    refine ⟨by rw [saveSchedule_nil], fun id hid => ?_⟩
    have hnone : (projects.tasksOf projectId).ids = [] := List.map_eq_nil_iff.mpr hempty
    rw [hnone] at hid
    cases hid
  · obtain ⟨graph, finish, late, -, -, -, rfl⟩ := exists_forwardPass_of_schedule hinfos hempty
    refine ⟨ids_tasksOf_saveSchedule, fun id hid => ?_⟩
    obtain ⟨_, -, -, hget⟩ := (projects.tasksOf projectId).exists_of_mem_ids hid
    rw [timesOf_buildScheduleResult, hget]
    rfl

theorem exists_timesOf {infos : List CPMTaskInfo} {task : Task}
    (h : (timesOf infos task.id).isSome = true) :
    ∃ times, timesOf infos task.id = some times ∧
      baselineDates infos task = (times.earliestStart, times.earliestFinish) := by
  unfold timesOf at h ⊢
  unfold baselineDates
  cases hinfo : infos.find? fun info => info.task.id = task.id with
  | none => simp [hinfo] at h
  | some info => exact ⟨info.times, rfl, rfl⟩

theorem createBaseline_shows (hsettled : store.addedBalances = [])
    (hrows : ∀ row ∈ store.projects.baselineTasks.rows,
      row.baselineId ∈ store.projects.baselines.ids) :
    (createBaseline services arguments ids).Spec (.clean store)
      (fun baseline next => ∃ project,
        store.projects.projects.get? arguments.projectId = some project ∧
        next.committed.projects.projects.get? arguments.projectId = some project ∧
        KeepsCosts arguments.projectId store.projects next.committed.projects ∧
        BaselineShows services.workCalendarEngine next.committed.projects project
          (next.committed.projects.baselineTasksOf baseline.id))
      fun _ next => KeepsBaselines store.projects next.committed.projects := by
  apply (createBaseline_steps hsettled).mono ?_ fun _ _ => id
  rintro baseline next ⟨project, infos, hproject, hinfos, hinserted⟩
  have hid : project.id = arguments.projectId := (Table.get?_eq_some_iff.mp hproject).2
  rw [← hid] at hproject hinfos ⊢
  generalize next.committed.projects = last at hinserted ⊢
  obtain ⟨htasks, -, hshown, hlast⟩ := insertBaseline_ok hinserted hrows
  have hsame : last.tasksOf project.id =
      (saveSchedule infos store.projects).tasksOf project.id := by
    rw [hlast]
    rfl
  obtain ⟨hids, hscheduled⟩ := tasksOf_scheduled hinfos
  refine ⟨project, hproject, ?_, ⟨?_, ?_, ?_, ?_⟩, ?_, ?_, ?_⟩
  · rw [hlast]
    exact hproject
  · rw [hlast]
    rfl
  · rw [hlast]
    rfl
  · rw [hlast]
    rfl
  · rw [hsame, hids]
  · rw [hshown, hsame, List.map_reverse, List.map_map]
    exact List.reverse_perm _
  · obtain ⟨again, hagain, htimes, -⟩ := exists_sameSchedule hinfos
    refine ⟨again, ?_, ?_⟩
    · rw [hlast]
      exact hagain
    · intro row hrow
      rw [hshown, List.mem_reverse] at hrow
      obtain ⟨task, htask, rfl⟩ := List.mem_map.mp hrow
      have hid := hids ▸ ((saveSchedule infos store.projects).tasksOf project.id).mem_ids htask
      obtain ⟨times, hsome, hdates⟩ := exists_timesOf (hscheduled _ hid)
      refine ⟨times, (htimes task.id).trans hsome, ?_⟩
      exact Prod.mk.inj hdates
  · rw [hshown, baselineCost, List.map_reverse, List.sum_reverse, ← baselineCost,
      baselineCost_newBaselineTask _ _ _ _ _ htasks, hlast]
    rfl

/-- A new baseline shows every task of the project once, with the dates that a schedule computes
afterwards, and comes to all that is counted. A call that raises stores none. -/
theorem createBaseline_conserves (hsettled : store.addedBalances = [])
    (hrows : ∀ row ∈ store.projects.baselineTasks.rows,
      row.baselineId ∈ store.projects.baselines.ids) :
    (createBaseline services arguments ids).Spec (.clean store)
      (fun baseline next => ∃ project,
        next.committed.projects.projects.get? arguments.projectId = some project ∧
        KeepsCosts arguments.projectId store.projects next.committed.projects ∧
        BaselineShows services.workCalendarEngine next.committed.projects project
          (next.committed.projects.baselineTasksOf baseline.id))
      fun _ next => KeepsBaselines store.projects next.committed.projects :=
  (createBaseline_shows hsettled hrows).mono (fun _ _ ⟨project, _, h⟩ => ⟨project, h⟩) fun _ _ => id

end

/-! ## A hall with two tasks -/

def weldedHall : PlatformStore :=
  linkedOffice.withProjects { hallProjects with
    tasks := .insert (.insert .empty
      { id := "frame", projectId := "hall", name := "Frame", startDate := some 8
        durationDays := some 3 })
      { id := "roof", projectId := "hall", name := " Roof ", startDate := some 11
        durationDays := some 2 } }

def hallBaselineIds : BaselineIds where
  baseline := "hall-baseline"
  row taskId := "hall-baseline-" ++ taskId
  request := "hall-request"
  today := 10

theorem createBaseline_conserves_hall :
    (createBaseline planner { projectId := "hall" } hallBaselineIds).Spec (.clean weldedHall)
      (fun baseline next => ∃ project,
        next.committed.projects.projects.get? "hall" = some project ∧
        KeepsCosts "hall" weldedHall.projects next.committed.projects ∧
        BaselineShows weekdayCalendar next.committed.projects project
          (next.committed.projects.baselineTasksOf baseline.id))
      fun _ next => KeepsBaselines weldedHall.projects next.committed.projects :=
  createBaseline_conserves (by decide +kernel) (by decide +kernel)

end ProjectManager
