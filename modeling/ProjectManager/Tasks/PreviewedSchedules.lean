import ProjectManager.Tasks.Rescheduling

/-! # The preview of a link

The simulation computes what the scheduling engine computes, and the rows of
the impact are those of the tasks whose dates change. Adding the link then
leaves a project with the previewed dates.
-/

namespace ProjectManager

open Foundation ServiceProgram

/-! ## The two computations of dates -/

namespace DependencyPreview

variable (calendar : WorkCalendarEngine)

theorem computeDatesMilestone_eq (task : Task) (incoming : List TaskDependency)
    (dates : DateTable) : computeDatesMilestone calendar task incoming dates =
      ProjectManager.computeDatesMilestone calendar task incoming dates := by
  rfl

theorem computeDatesWithDuration_eq {duration : ℤ} (hduration : 0 < duration) (task : Task)
    (incoming : List TaskDependency) (dates : DateTable) :
    computeDatesWithDuration calendar task incoming dates duration =
      ProjectManager.computeDatesWithDuration calendar task incoming dates duration := by
  unfold computeDatesWithDuration ProjectManager.computeDatesWithDuration
  dsimp only
  rw [List.filterMap_congr (g := startCandidate calendar duration dates)]
  -- Only the dates of a task without candidates are written differently.
  · cases task.startDate <;> rfl
  · intro dep _
    unfold startCandidate linkDate
    cases dep.dependencyType <;> simp [hduration, Function.comp_def]

theorem applyActualConstraints_eq (task : Task) (dates : TaskDates) (duration : ℤ) :
    applyActualConstraints calendar task dates duration =
      ProjectManager.applyActualConstraints calendar task dates duration := by
  unfold applyActualConstraints ProjectManager.applyActualConstraints
  cases task.actualEnd with
  | some finish => cases task.actualStart <;> rfl
  | none =>
      cases task.actualStart with
      | none => rfl
      | some actualStart => cases hstart : dates.start <;> simp

/-- The copy computes the dates of the scheduling engine. -/
theorem computeTaskDates_eq :
    computeTaskDates calendar = ProjectManager.computeTaskDates calendar := by
  funext task incoming dates
  unfold computeTaskDates ProjectManager.computeTaskDates
  dsimp only
  rw [applyActualConstraints_eq, computeDatesMilestone_eq]
  split
  · rfl
  next hduration => rw [computeDatesWithDuration_eq calendar (by omega)]

theorem simulateSchedule_eq {tasks : TasksById} (htasks : tasks.tasks ≠ [])
    (deps : List TaskDependency) :
    simulateSchedule calendar tasks deps = recalculateProjectSchedule calendar tasks deps := by
  have hnonempty : ¬ tasks.tasks.isEmpty = true := by
    rw [List.isEmpty_iff]
    exact htasks
  unfold simulateSchedule recalculateProjectSchedule
  rw [if_neg hnonempty, computeTaskDates_eq]
  rfl

end DependencyPreview

/-! ## The rows of the impact -/

def scheduledDates (schedule : List CPMTaskInfo) (taskId : String) : Option TaskDates :=
  (scheduleEntry schedule taskId).map fun info => ⟨info.earliestStart, info.earliestFinish⟩

section

variable {calendar : WorkCalendarEngine} {project : TasksById}
  {early late afterEarly afterLate : DateTable}

theorem scheduleEntry_buildScheduleResult (taskId : String) :
    scheduleEntry (buildScheduleResult calendar project early late) taskId =
      (project.get? taskId).map (scheduleInfo calendar early late) := by
  unfold scheduleEntry buildScheduleResult
  rw [List.find?_map]
  rfl

theorem scheduledDates_buildScheduleResult (taskId : String) :
    scheduledDates (buildScheduleResult calendar project early late) taskId =
      if taskId ∈ project.ids then some (early taskId) else none := by
  unfold scheduledDates
  rw [scheduleEntry_buildScheduleResult]
  split
  next hid =>
    obtain ⟨task, -, rfl, hget⟩ := project.exists_of_mem_ids hid
    rw [hget]
    rfl
  next hid =>
    rw [Table.get?_eq_none.mpr hid]
    rfl

/-- A row names its task and carries the dates of both schedules. -/
structure DependencyImpactRow.Shows (row : DependencyImpactRow) (taskId : String)
    (before after : TaskDates) : Prop where
  taskId : row.taskId = taskId
  before : before = ⟨row.beforeStart, row.beforeFinish⟩
  after : after = ⟨row.afterStart, row.afterFinish⟩

section

variable {trace : Trace String} {predecessorId : String} {task : Task}

theorem impactRow_scheduleInfo {result : Option DependencyImpactRow}
    (h : impactRow (buildScheduleResult calendar project afterEarly afterLate) trace predecessorId
      (scheduleInfo calendar early late task) = result) (htask : task ∈ project.tasks) :
    (result = none ∧ early task.id = afterEarly task.id) ∨
      ∃ row, result = some row ∧ early task.id ≠ afterEarly task.id ∧
        row.Shows task.id (early task.id) (afterEarly task.id) := by
  have hentry : scheduleEntry (buildScheduleResult calendar project afterEarly afterLate)
      (scheduleInfo calendar early late task).task.id =
      some (scheduleInfo calendar afterEarly afterLate task) := by
    rw [scheduleEntry_buildScheduleResult]
    exact congrArg (Option.map _) (project.get?_of_mem htask)
  unfold impactRow at h
  rw [hentry] at h
  dsimp only at h
  by_cases hsame : early task.id = afterEarly task.id
  · have hstart : (scheduleInfo calendar early late task).earliestStart =
        (scheduleInfo calendar afterEarly afterLate task).earliestStart :=
      congrArg TaskDates.start hsame
    have hfinish : (scheduleInfo calendar early late task).earliestFinish =
        (scheduleInfo calendar afterEarly afterLate task).earliestFinish :=
      congrArg TaskDates.finish hsame
    have hshift : ∀ date : Option Date, (shiftDays date date).getD 0 = 0 := by
      intro date
      cases date <;> simp [shiftDays]
    refine Or.inl ⟨h.symm.trans ?_, hsame⟩
    rw [hstart, hfinish]
    simp [hshift]
  · have hdiffer : (scheduleInfo calendar early late task).earliestStart ≠
          (scheduleInfo calendar afterEarly afterLate task).earliestStart ∨
        (scheduleInfo calendar early late task).earliestFinish ≠
          (scheduleInfo calendar afterEarly afterLate task).earliestFinish := by
      by_contra hequal
      push Not at hequal
      exact hsame (congrArg₂ TaskDates.mk hequal.1 hequal.2)
    rw [if_pos (hdiffer.elim Or.inl fun h => Or.inr (Or.inl h))] at h
    exact Or.inr ⟨_, h.symm, hsame, rfl, rfl, rfl⟩

/-- A task gets a row when its dates change. -/
theorem impactRow_isSome_iff (htask : task ∈ project.tasks) :
    (impactRow (buildScheduleResult calendar project afterEarly afterLate) trace predecessorId
      (scheduleInfo calendar early late task)).isSome ↔ early task.id ≠ afterEarly task.id := by
  generalize himpact : impactRow _ _ _ _ = result
  rcases impactRow_scheduleInfo himpact htask with ⟨rfl, hsame⟩ | ⟨row, rfl, hchanged, -⟩
  · simp [hsame]
  · simp [hchanged]

theorem shows_of_impactRow {row : DependencyImpactRow}
    (h : impactRow (buildScheduleResult calendar project afterEarly afterLate) trace predecessorId
      (scheduleInfo calendar early late task) = some row) (htask : task ∈ project.tasks) :
    row.Shows task.id (early task.id) (afterEarly task.id) := by
  rcases impactRow_scheduleInfo h htask with ⟨hnone, -⟩ | ⟨shown, hshown, -, hshows⟩
  · cases hnone
  · obtain rfl := Option.some.inj hshown
    exact hshows

end

theorem sublist_filterMap_ids {tasks : List Task} {f : Task → Option DependencyImpactRow}
    (h : ∀ task ∈ tasks, ∀ row, f task = some row → row.taskId = task.id) :
    ((tasks.filterMap f).map DependencyImpactRow.taskId).Sublist (tasks.map Task.id) := by
  induction tasks with
  | nil => exact List.Sublist.refl _
  | cons task rest ih =>
      have hrest := ih fun other hother => h other (List.mem_cons_of_mem _ hother)
      rw [List.filterMap_cons]
      cases hrow : f task with
      | none => exact hrest.cons _
      | some row =>
          change (row.taskId :: _).Sublist _
          rw [h task List.mem_cons_self row hrow]
          exact hrest.cons_cons _

variable {deps : List TaskDependency} {predecessorId successorId : String}

theorem mem_buildImpactRows {row : DependencyImpactRow} :
    row ∈ buildImpactRows (buildScheduleResult calendar project early late)
        (buildScheduleResult calendar project afterEarly afterLate) deps predecessorId
        successorId ↔
      ∃ task ∈ project.tasks,
        impactRow (buildScheduleResult calendar project afterEarly afterLate)
          (tracePaths (links deps) successorId) predecessorId
          (scheduleInfo calendar early late task) = some row := by
  unfold buildImpactRows
  dsimp only
  rw [List.mem_mergeSort, List.mem_filterMap]
  unfold buildScheduleResult
  simp

/-- The rows are those of the tasks whose dates change, once for each. -/
theorem buildImpactRows_spec (rows : List DependencyImpactRow)
    (hrows : rows = buildImpactRows (buildScheduleResult calendar project early late)
      (buildScheduleResult calendar project afterEarly afterLate) deps predecessorId
      successorId) :
    (rows.map DependencyImpactRow.taskId).Nodup ∧
      (∀ row ∈ rows,
        scheduledDates (buildScheduleResult calendar project early late) row.taskId =
            some ⟨row.beforeStart, row.beforeFinish⟩ ∧
          scheduledDates (buildScheduleResult calendar project afterEarly afterLate) row.taskId =
            some ⟨row.afterStart, row.afterFinish⟩) ∧
      ∀ taskId, taskId ∈ rows.map DependencyImpactRow.taskId ↔
        scheduledDates (buildScheduleResult calendar project early late) taskId ≠
          scheduledDates (buildScheduleResult calendar project afterEarly afterLate) taskId := by
  have hshows : ∀ row ∈ rows, ∃ task ∈ project.tasks,
      row.Shows task.id (early task.id) (afterEarly task.id) := by
    intro row hrow
    obtain ⟨task, htask, himpact⟩ := mem_buildImpactRows.mp (hrows ▸ hrow)
    exact ⟨task, htask, shows_of_impactRow himpact htask⟩
  refine ⟨?_, ?_, ?_⟩
  · subst hrows
    have hperm := (List.mergeSort_perm ((buildScheduleResult calendar project early late).filterMap
      (impactRow (buildScheduleResult calendar project afterEarly afterLate)
        (tracePaths (links deps) successorId) predecessorId)) DependencyImpactRow.le).map
      DependencyImpactRow.taskId
    refine hperm.nodup_iff.mpr (List.Nodup.sublist ?_ project.nodup)
    unfold buildScheduleResult
    rw [List.filterMap_map]
    apply sublist_filterMap_ids
    intro task htask row hrow
    exact (shows_of_impactRow hrow htask).taskId
  · intro row hrow
    obtain ⟨task, htask, hshown⟩ := hshows row hrow
    rw [scheduledDates_buildScheduleResult, scheduledDates_buildScheduleResult, hshown.taskId,
      if_pos (project.mem_ids htask), if_pos (project.mem_ids htask)]
    exact ⟨congrArg some hshown.before, congrArg some hshown.after⟩
  · intro taskId
    rw [scheduledDates_buildScheduleResult, scheduledDates_buildScheduleResult]
    by_cases hid : taskId ∈ project.ids
    case neg =>
      rw [if_neg hid, if_neg hid]
      refine iff_of_false ?_ fun hne => hne rfl
      intro hmem
      obtain ⟨row, hrow, rfl⟩ := List.mem_map.mp hmem
      obtain ⟨task, htask, hshown⟩ := hshows row hrow
      exact hid (hshown.taskId ▸ project.mem_ids htask)
    rw [if_pos hid, if_pos hid, ne_eq, Option.some.injEq]
    obtain ⟨task, htask, rfl, -⟩ := project.exists_of_mem_ids hid
    constructor
    · intro hmem
      obtain ⟨row, hrow, hrowId⟩ := List.mem_map.mp hmem
      obtain ⟨shown, hshown, himpact⟩ := mem_buildImpactRows.mp (hrows ▸ hrow)
      rw [← hrowId, (shows_of_impactRow himpact hshown).taskId]
      exact (impactRow_isSome_iff hshown).mp (Option.isSome_of_eq_some himpact)
    · intro hchanged
      have hsome : (impactRow (buildScheduleResult calendar project afterEarly afterLate)
          (tracePaths (links deps) successorId) predecessorId
          (scheduleInfo calendar early late task)).isSome :=
        (impactRow_isSome_iff htask).mpr hchanged
      obtain ⟨row, himpact⟩ := Option.isSome_iff_exists.mp hsome
      have hrow : row ∈ rows := hrows ▸ mem_buildImpactRows.mpr ⟨task, htask, himpact⟩
      exact List.mem_map.mpr ⟨row, hrow, (shows_of_impactRow himpact htask).taskId⟩

end

theorem impactDiagnostic_impactRows (dep : TaskDependency) (rows : List DependencyImpactRow) :
    (impactDiagnostic dep rows).impactRows = rows := by
  unfold impactDiagnostic
  split
  next hmax => exact (List.map_eq_nil_iff.mp (List.max?_eq_none_iff.mp hmax)).symm
  next => rfl

/-! ## Adding the previewed link -/

section

variable {calendar : WorkCalendarEngine} {store changed : ProjectStore} {pred : Task}

theorem sameLinks_insertDependency {dep : TaskDependency} {id : String} {project : TasksById}
    (hids : project.ids = (store.tasksOf pred.projectId).ids)
    (hdeps : changed.dependenciesOf pred.projectId =
      { dep with id := id } :: store.dependenciesOf pred.projectId) :
    SameLinks (store.tasksOf pred.projectId) project
      (store.dependenciesOf pred.projectId ++ [dep])
      (changed.dependenciesOf pred.projectId) := by
  intro link
  unfold knownDependencies
  rw [hdeps, hids, List.filter_cons, List.filter_append, List.map_append, List.mem_append]
  have hbare : ({ dep with id := id } : TaskDependency).bare = dep.bare := rfl
  by_cases hknown : dep.predecessorTaskId ∈ (store.tasksOf pred.projectId).ids ∧
      dep.successorTaskId ∈ (store.tasksOf pred.projectId).ids
  · simp [hknown, hbare, or_comm]
  · simp [hknown]

theorem storedSchedule_after_insert {synced : ProjectStore} {dep : TaskDependency} {id : String}
    {early late : DateTable} (hlinkable : Linkable { dep with id := id } store pred)
    (hinsert : insertDependency { dep with id := id } store = .ok changed)
    (hsynced : syncedProjects calendar (some pred.projectId) changed = .ok synced)
    (hprojected : recalculateProjectSchedule calendar (store.tasksOf pred.projectId)
      (store.dependenciesOf pred.projectId ++ [dep]) =
        .ok (buildScheduleResult calendar (store.tasksOf pred.projectId) early late)) :
    ∃ after, storedSchedule calendar pred.projectId synced = .ok after ∧
      ∀ taskId, scheduledDates after taskId =
        scheduledDates (buildScheduleResult calendar (store.tasksOf pred.projectId) early late)
          taskId := by
  obtain ⟨htasks, hdeps⟩ := insertDependency_dependenciesOf hlinkable hinsert
  have htasksOf : changed.tasksOf pred.projectId = store.tasksOf pred.projectId := by
    unfold ProjectStore.tasksOf
    rw [htasks]
  have hnonempty : (store.tasksOf pred.projectId).tasks ≠ [] :=
    List.ne_nil_of_mem (mem_tasksOf.mpr ⟨(Table.get?_eq_some_iff.mp hlinkable.predecessor).1, rfl⟩)
  -- With the link the tasks get the projected dates, before any task is stored again.
  obtain ⟨changedEarly, changedLate, hchanged, hagree⟩ := recalculateProjectSchedule_agree
    hprojected hnonempty (fun _ => Iff.rfl) (sameLinks_insertDependency rfl hdeps)
    fun task htask => ⟨task, htask, .refl task _⟩
  have hdates : ∀ taskId, scheduledDates (buildScheduleResult calendar
      (store.tasksOf pred.projectId) changedEarly changedLate) taskId = scheduledDates
        (buildScheduleResult calendar (store.tasksOf pred.projectId) early late) taskId := by
    intro taskId
    rw [scheduledDates_buildScheduleResult, scheduledDates_buildScheduleResult]
    split
    next hid => rw [(hagree taskId hid).1]
    next => rfl
  rw [← htasksOf] at hchanged hdates hnonempty ⊢
  unfold syncedProjects at hsynced
  split at hsynced
  next =>
    cases hsynced
    exact ⟨_, hchanged, hdates⟩
  next projectId hfilter =>
    obtain ⟨hsome, -⟩ := Option.filter_eq_some_iff.mp hfilter
    cases hsome
    obtain ⟨infos, hinfos, hsynced⟩ := bind_ok hsynced
    cases hsynced
    obtain rfl := Except.ok.inj (hinfos.symm.trans hchanged)
    obtain ⟨savedEarly, savedLate, hafter, hsame⟩ :=
      storedSchedule_saveSchedule hnonempty hchanged
    refine ⟨_, hafter, ?_⟩
    intro taskId
    rw [← hdates taskId, scheduledDates_buildScheduleResult, scheduledDates_buildScheduleResult,
      ids_tasksOf_saveSchedule]
    split
    next hid => rw [(hsame taskId hid).1]
    next => rfl

end

theorem simulated_of_valid {calendar : WorkCalendarEngine} {store : ProjectStore}
    {dep : TaskDependency} {diagnostic : DependencyDiagnostic}
    (h : getDependencyDiagnostics dep calendar true store = .ok diagnostic)
    (hvalid : diagnostic.isValid = true) :
    ∃ pred current projected, checkDependency dep store = .ok pred ∧
      DependencyPreview.simulateSchedule calendar (store.tasksOf pred.projectId)
        (store.dependenciesOf pred.projectId) = .ok current ∧
      DependencyPreview.simulateSchedule calendar (store.tasksOf pred.projectId)
        (store.dependenciesOf pred.projectId ++ [dep]) = .ok projected ∧
      diagnostic.impactRows = buildImpactRows current projected
        (store.dependenciesOf pred.projectId ++ [dep]) dep.predecessorTaskId
          dep.successorTaskId := by
  obtain ⟨pred, hcheck⟩ := checkDependency_of_valid h hvalid
  unfold getDependencyDiagnostics at h
  rw [hcheck] at h
  obtain ⟨current, hcurrent, h⟩ := bind_ok h
  obtain ⟨projected, hprojected, h⟩ := bind_ok h
  cases h
  exact ⟨pred, current, projected, hcheck, hcurrent, hprojected, impactDiagnostic_impactRows _ _⟩

theorem Linkable.withId {dep : TaskDependency} {store : ProjectStore} {pred : Task}
    (h : Linkable dep store pred) (id : String) : Linkable { dep with id := id } store pred :=
  ⟨h.distinct, h.predecessor, h.successor, h.fresh⟩

theorem synced_of_added {services : ProjectManagementServices} {store : PlatformStore}
    {dep : TaskDependency} {pred : Task} {requestId : String} {bypassApproval : Bool}
    {next : Session PlatformStore}
    (hrun : (DependencyChange.add dep requestId bypassApproval).run services (.clean store) =
      (none, next)) (hsettled : store.addedBalances = [])
    (hlinkable : Linkable dep store.projects pred) :
    ∃ changed synced, insertDependency dep store.projects = .ok changed ∧
      syncedProjects services.workCalendarEngine (some pred.projectId) changed = .ok synced ∧
      LeavesProjects synced next := by
  by_cases hcommits : ∃ changed projectId, CommitsLinks services store
      (.add dep requestId bypassApproval) changed projectId
  · obtain ⟨changed, projectId, hcommits⟩ := hcommits
    have hsyncedRun := DependencyChange.run_of_commits hsettled hcommits
    unfold DependencyChange.run Program.outcome at hrun
    unfold SyncedRun at hsyncedRun
    cases hcommits with
    | @add _ _ _ found _ hprepared hdirect hinsert =>
        have hfound := (checkDependency_ok (prepareAddedDependency_ok hprepared)).1.predecessor
        obtain rfl := Option.some.inj (hfound.symm.trans hlinkable.predecessor)
        split at hsyncedRun
        next synced hsynced =>
          obtain ⟨last, hlast, hleaves⟩ := hsyncedRun
          rw [hlast] at hrun
          obtain rfl : last = next := congrArg Prod.snd hrun
          exact ⟨changed, synced, hinsert, hsynced, hleaves⟩
        next =>
          obtain ⟨last, hlast, -⟩ := hsyncedRun
          rw [hlast] at hrun
          cases hrun
  · have hnot : ∀ changed projectId, ¬ CommitsLinks services store
        (.add dep requestId bypassApproval) changed projectId :=
      fun changed projectId h => hcommits ⟨changed, projectId, h⟩
    obtain ⟨e, last, hlast, -⟩ := DependencyChange.run_of_not_commits _ hsettled hnot
    unfold DependencyChange.run Program.outcome at hrun
    rw [hlast] at hrun
    cases hrun

/-- The simulated schedules are those of the engine before and after the link is added, and the
rows of the impact are those of the tasks whose dates differ. -/
theorem preview_refines_schedule (services : ProjectManagementServices) (store : PlatformStore)
    (dep : TaskDependency) {diagnostic : DependencyDiagnostic}
    (hsettled : store.addedBalances = [])
    (hdiagnostic : getDependencyDiagnostics dep services.workCalendarEngine true store.projects =
      .ok diagnostic)
    (hvalid : diagnostic.isValid = true) :
    ∃ pred current projected,
      store.projects.tasks.get? dep.predecessorTaskId = some pred ∧
      DependencyPreview.simulateSchedule services.workCalendarEngine
          (store.projects.tasksOf pred.projectId)
          (store.projects.dependenciesOf pred.projectId) = .ok current ∧
      DependencyPreview.simulateSchedule services.workCalendarEngine
          (store.projects.tasksOf pred.projectId)
          (store.projects.dependenciesOf pred.projectId ++ [dep]) = .ok projected ∧
      (recalculateStoredSchedule services.workCalendarEngine pred.projectId (.clean store)).1 =
        .ok current ∧
      (∀ id requestId bypassApproval next,
        (DependencyChange.add { dep with id := id } requestId bypassApproval).run services
          (.clean store) = (none, next) →
        ∃ after, (recalculateStoredSchedule services.workCalendarEngine pred.projectId next).1 =
            .ok after ∧
          ∀ taskId, scheduledDates after taskId = scheduledDates projected taskId) ∧
      (diagnostic.impactRows.map DependencyImpactRow.taskId).Nodup ∧
      (∀ row ∈ diagnostic.impactRows,
        scheduledDates current row.taskId = some ⟨row.beforeStart, row.beforeFinish⟩ ∧
          scheduledDates projected row.taskId = some ⟨row.afterStart, row.afterFinish⟩) ∧
      (∀ taskId, taskId ∈ diagnostic.impactRows.map DependencyImpactRow.taskId ↔
        scheduledDates current taskId ≠ scheduledDates projected taskId) ∧
      ∀ session : Session PlatformStore, session.pending = store →
        readProjects (getDependencyDiagnostics dep services.workCalendarEngine true) session =
          (.ok diagnostic, session) := by
  obtain ⟨pred, current, projected, hcheck, hcurrent, hprojected, hrows⟩ :=
    simulated_of_valid hdiagnostic hvalid
  obtain ⟨hlinkable, -⟩ := checkDependency_ok hcheck
  have hnonempty : (store.projects.tasksOf pred.projectId).tasks ≠ [] :=
    List.ne_nil_of_mem (mem_tasksOf.mpr ⟨(Table.get?_eq_some_iff.mp hlinkable.predecessor).1, rfl⟩)
  have hbefore := hcurrent
  have hafter := hprojected
  rw [DependencyPreview.simulateSchedule_eq _ hnonempty] at hbefore hafter
  obtain ⟨graph, _, late, -, -, -, rfl⟩ := exists_forwardPass_of_schedule hbefore hnonempty
  obtain ⟨afterGraph, _, afterLate, -, -, -, rfl⟩ :=
    exists_forwardPass_of_schedule hafter hnonempty
  obtain ⟨hnodup, hshown, hlisted⟩ := buildImpactRows_spec diagnostic.impactRows hrows
  refine ⟨pred, _, _, hlinkable.predecessor, hcurrent, hprojected, ?_, ?_, hnodup, hshown,
    hlisted, ?_⟩
  · rw [recalculateStoredSchedule_run _ hsettled, show storedSchedule _ _ _ = _ from hbefore]
  · intro id requestId bypassApproval next hrun
    obtain ⟨changed, synced, hinsert, hsynced, hleaves⟩ :=
      synced_of_added hrun hsettled (hlinkable.withId id)
    obtain ⟨last, rfl, hlastSettled, rfl⟩ := hleaves
    obtain ⟨after, hstored, hdates⟩ :=
      storedSchedule_after_insert (hlinkable.withId id) hinsert hsynced hafter
    refine ⟨after, ?_, hdates⟩
    rw [recalculateStoredSchedule_run _ hlastSettled, hstored]
  · rintro session rfl
    exact readProjects_run hdiagnostic

/-- The office with its two tasks and no link between them. -/
def unlinkedOffice : PlatformStore :=
  (sessionAfter runPlanningCall (.clean officeSite) (officePlan.take 2)).committed

def designBeforeReview : TaskDependency :=
  { id := "proposed", predecessorTaskId := "design", successorTaskId := "review" }

/-- The review would move behind the design. -/
def reviewImpact : DependencyImpactRow where
  taskId := "review"
  taskName := "Review"
  beforeStart := some 8
  beforeFinish := some 8
  afterStart := some 11
  afterFinish := some 11
  startShiftDays := some 3
  finishShiftDays := some 3
  tracePath := "Review"

/-- The link can be added. -/
example : ((DependencyChange.add designBeforeReview "" false).run planner
    (.clean unlinkedOffice)).1 = none := by
  decide +kernel

theorem preview_refines_schedule_office :
    let diagnostic := impactDiagnostic designBeforeReview [reviewImpact]
    ∃ pred current projected,
      unlinkedOffice.projects.tasks.get? "design" = some pred ∧
      DependencyPreview.simulateSchedule weekdayCalendar
          (unlinkedOffice.projects.tasksOf pred.projectId)
          (unlinkedOffice.projects.dependenciesOf pred.projectId) = .ok current ∧
      DependencyPreview.simulateSchedule weekdayCalendar
          (unlinkedOffice.projects.tasksOf pred.projectId)
          (unlinkedOffice.projects.dependenciesOf pred.projectId ++ [designBeforeReview]) =
        .ok projected ∧
      (recalculateStoredSchedule weekdayCalendar pred.projectId (.clean unlinkedOffice)).1 =
        .ok current ∧
      (∀ id requestId bypassApproval next,
        (DependencyChange.add { designBeforeReview with id := id } requestId bypassApproval).run
          planner (.clean unlinkedOffice) = (none, next) →
        ∃ after, (recalculateStoredSchedule weekdayCalendar pred.projectId next).1 = .ok after ∧
          ∀ taskId, scheduledDates after taskId = scheduledDates projected taskId) ∧
      (diagnostic.impactRows.map DependencyImpactRow.taskId).Nodup ∧
      (∀ row ∈ diagnostic.impactRows,
        scheduledDates current row.taskId = some ⟨row.beforeStart, row.beforeFinish⟩ ∧
          scheduledDates projected row.taskId = some ⟨row.afterStart, row.afterFinish⟩) ∧
      (∀ taskId, taskId ∈ diagnostic.impactRows.map DependencyImpactRow.taskId ↔
        scheduledDates current taskId ≠ scheduledDates projected taskId) ∧
      ∀ session : Session PlatformStore, session.pending = unlinkedOffice →
        readProjects (getDependencyDiagnostics designBeforeReview weekdayCalendar true) session =
          (.ok diagnostic, session) :=
  preview_refines_schedule planner unlinkedOffice designBeforeReview rfl (by decide +kernel) rfl

end ProjectManager
