import ProjectManager.Scheduling.OrderIndependence
import ProjectManager.Tasks.PlanningRuns

/-! # Scheduling a project again

A schedule that is stored writes the computed dates where the next computation
reads the start dates of the tasks. The same dates come out, and the tasks keep
theirs.
-/

namespace ProjectManager

open Foundation ServiceProgram

/-- `recalculate_project_schedule`, which stores the tasks where it is asked to. -/
def recalculateSchedule (calendar : WorkCalendarEngine) (projectId : String) (persist : Bool) :
    ServiceProgram (List CPMTaskInfo) := do
  let infos ← readProjects (storedSchedule calendar projectId)
  if infos.isEmpty ∨ persist = false then return infos
  Program.rollingBack do
    writeProjects fun store => .ok (saveSchedule infos store)
    commit
  return infos

theorem recalculateSchedule_true (calendar : WorkCalendarEngine) (projectId : String) :
    recalculateSchedule calendar projectId true = recalculateStoredSchedule calendar projectId := by
  unfold recalculateSchedule recalculateStoredSchedule
  simp

theorem mem_savedTasks {infos : List CPMTaskInfo} {tasks : TasksById} {row : Task}
    (h : row ∈ (infos.foldl (fun tasks info => tasks.save info.task) tasks).rows) :
    (row ∈ tasks.rows ∧ ∀ info ∈ infos, info.task.id ≠ row.id) ∨
      ∃ info ∈ infos, ∃ version, row = { info.task with version := version } := by
  induction infos generalizing tasks with
  | nil => exact Or.inl ⟨h, fun _ hinfo => nomatch hinfo⟩
  | cons info rest ih =>
      rcases ih h with ⟨hrow, hrest⟩ | ⟨saved, hsaved, hversion⟩
      · rcases Table.mem_update_iff.mp hrow with ⟨hwritten, -⟩ | ⟨hold, hother⟩
        · exact Or.inr ⟨info, List.mem_cons_self, _, hwritten⟩
        · refine Or.inl ⟨hold, ?_⟩
          intro other hmem
          rcases List.mem_cons.mp hmem with rfl | hmem
          · exact fun heq => hother heq.symm
          · exact hrest other hmem
      · exact Or.inr ⟨saved, List.mem_cons_of_mem _ hsaved, hversion⟩

/-! ## The stored schedule -/

section

variable {calendar : WorkCalendarEngine} {store : ProjectStore} {projectId : String}
  {early late : DateTable}

theorem identity_of_scheduled : ∀ info ∈ buildScheduleResult calendar (store.tasksOf projectId)
      early late, info.task.identity ∈ store.tasks.rows.map Task.identity := by
  intro info hinfo
  obtain ⟨task, htask, rfl⟩ := List.mem_map.mp hinfo
  exact List.mem_map.mpr ⟨task, (mem_tasksOf.mp htask).1, rfl⟩

/-- The row of a task after the schedule was stored. -/
def IsSaved (calendar : WorkCalendarEngine) (early late : DateTable) (task saved : Task) : Prop :=
  ∃ version, saved = { (scheduleInfo calendar early late task).task with version := version }

theorem IsSaved.rescheduled {task saved : Task} (h : IsSaved calendar early late task saved) :
    Rescheduled task saved (early task.id).start := by
  obtain ⟨version, rfl⟩ := h
  refine ⟨rfl, rfl, rfl, rfl, ?_⟩
  cases hactual : task.actualStart with
  | none => exact Or.inr ⟨rfl, by simp [scheduleInfo, hactual]⟩
  | some _ => exact Or.inl (by simp [scheduleInfo, hactual])

theorem isSaved_of_mem {saved : Task}
    (h : saved ∈ ((saveSchedule (buildScheduleResult calendar (store.tasksOf projectId) early late)
      store).tasksOf projectId).tasks) :
    ∃ task ∈ (store.tasksOf projectId).tasks, IsSaved calendar early late task saved := by
  obtain ⟨hmem, hproject⟩ := mem_tasksOf.mp h
  rcases mem_savedTasks hmem with ⟨hstored, hnone⟩ | ⟨info, hinfo, version, rfl⟩
  · have htask : saved ∈ (store.tasksOf projectId).tasks := mem_tasksOf.mpr ⟨hstored, hproject⟩
    exact absurd rfl (hnone _ (List.mem_map_of_mem htask))
  · obtain ⟨task, htask, rfl⟩ := List.mem_map.mp hinfo
    exact ⟨task, htask, version, rfl⟩

theorem ids_tasksOf_saveSchedule :
    ((saveSchedule (buildScheduleResult calendar (store.tasksOf projectId) early late)
      store).tasksOf projectId).ids = (store.tasksOf projectId).ids := by
  rw [ids_tasksOf, ids_tasksOf, saveSchedule_identity identity_of_scheduled]

theorem exists_isSaved {task : Task} (htask : task ∈ (store.tasksOf projectId).tasks) :
    ∃ saved ∈ ((saveSchedule (buildScheduleResult calendar (store.tasksOf projectId) early late)
        store).tasksOf projectId).tasks,
      IsSaved calendar early late task saved := by
  have hid : task.id ∈ ((saveSchedule
      (buildScheduleResult calendar (store.tasksOf projectId) early late) store).tasksOf
        projectId).ids := by
    rw [ids_tasksOf_saveSchedule]
    exact (store.tasksOf projectId).mem_ids htask
  obtain ⟨saved, hsaved, hsavedId, -⟩ := Table.exists_of_mem_ids _ hid
  obtain ⟨source, hsource, hversion⟩ := isSaved_of_mem hsaved
  obtain rfl := (store.tasksOf projectId).eq_of_key_eq hsource htask
    (hversion.rescheduled.id.symm.trans hsavedId)
  exact ⟨saved, hsaved, hversion⟩

/-- A schedule that is stored can be computed again, with the same dates. -/
theorem storedSchedule_saveSchedule (htasks : (store.tasksOf projectId).tasks ≠ [])
    (h : storedSchedule calendar projectId store =
      .ok (buildScheduleResult calendar (store.tasksOf projectId) early late)) :
    let saved := saveSchedule (buildScheduleResult calendar (store.tasksOf projectId) early late)
      store
    ∃ savedEarly savedLate, storedSchedule calendar projectId saved =
        .ok (buildScheduleResult calendar (saved.tasksOf projectId) savedEarly savedLate) ∧
      ∀ id ∈ (store.tasksOf projectId).ids, savedEarly id = early id ∧ savedLate id = late id := by
  intro saved
  have hids : (saved.tasksOf projectId).ids = (store.tasksOf projectId).ids :=
    ids_tasksOf_saveSchedule
  have hdeps : saved.dependenciesOf projectId = store.dependenciesOf projectId := by
    unfold ProjectStore.dependenciesOf
    rw [hids]
    rfl
  have hlinks : SameLinks (store.tasksOf projectId) (saved.tasksOf projectId)
      (store.dependenciesOf projectId) (saved.dependenciesOf projectId) := by
    intro link
    rw [hdeps, knownDependencies, knownDependencies, hids]
  apply recalculateProjectSchedule_agree h htasks (fun id => by rw [hids]) hlinks
  intro task htask
  obtain ⟨row, hrow, hsaved⟩ := exists_isSaved htask
  exact ⟨row, hrow, hsaved.rescheduled⟩

end

/-! ## Recalculating twice -/

def Task.storedDates (task : Task) : String × Option Date × Option Date :=
  (task.id, task.startDate, task.endDate)

section

variable {calendar : WorkCalendarEngine} {store : ProjectStore} {projectId : String}
  {early late : DateTable}

theorem IsSaved.storedDates {task saved : Task} {savedEarly savedLate : DateTable}
    (h : IsSaved calendar early late task saved)
    (hagree : savedEarly task.id = early task.id) :
    (scheduleInfo calendar savedEarly savedLate saved).task.storedDates = saved.storedDates := by
  obtain ⟨version, rfl⟩ := h
  unfold Task.storedDates scheduleInfo
  dsimp only
  rw [hagree]
  cases task.actualStart <;> cases task.actualEnd <;> rfl

/-- The second update leaves the stored dates alone. -/
theorem storedDates_saveSchedule {savedEarly savedLate : DateTable}
    (hagree : ∀ id ∈ (store.tasksOf projectId).ids, savedEarly id = early id) :
    let saved := saveSchedule (buildScheduleResult calendar (store.tasksOf projectId) early late)
      store
    (saveSchedule (buildScheduleResult calendar (saved.tasksOf projectId) savedEarly savedLate)
      saved).tasks.rows.map Task.storedDates = saved.tasks.rows.map Task.storedDates := by
  intro saved
  apply saveSchedule_map (fun _ _ heq => congrArg Prod.fst heq) fun _ _ => rfl
  intro info hinfo
  obtain ⟨row, hrow, rfl⟩ := List.mem_map.mp hinfo
  obtain ⟨task, htask, hsaved⟩ := isSaved_of_mem hrow
  have hearly := hagree _ ((store.tasksOf projectId).mem_ids htask)
  exact List.mem_map.mpr ⟨row, (mem_tasksOf.mp hrow).1, (hsaved.storedDates hearly).symm⟩

theorem exists_sameSchedule {infos : List CPMTaskInfo}
    (h : storedSchedule calendar projectId store = .ok infos) :
    ∃ again, storedSchedule calendar projectId (saveSchedule infos store) = .ok again ∧
      (∀ taskId, timesOf again taskId = timesOf infos taskId) ∧
      (saveSchedule again (saveSchedule infos store)).tasks.rows.map Task.storedDates =
        (saveSchedule infos store).tasks.rows.map Task.storedDates := by
  by_cases hempty : (store.tasksOf projectId).tasks = []
  · have hinfos : infos = [] := by
      unfold storedSchedule recalculateProjectSchedule at h
      rw [if_pos (List.isEmpty_iff.mpr hempty)] at h
      exact (Except.ok.inj h).symm
    subst hinfos
    exact ⟨[], h, fun _ => rfl, rfl⟩
  · obtain ⟨graph, finish, late, -, -, -, rfl⟩ := exists_forwardPass_of_schedule h hempty
    obtain ⟨savedEarly, savedLate, hagain, hagree⟩ := storedSchedule_saveSchedule hempty h
    refine ⟨_, hagain, timesOf_congr (fun id => by rw [ids_tasksOf_saveSchedule]) hagree, ?_⟩
    exact storedDates_saveSchedule fun id hid => (hagree id hid).1

end

section

variable (calendar : WorkCalendarEngine) (projectId : String) {store : PlatformStore}
  (hsettled : store.addedBalances = [])

include hsettled

theorem recalculateSchedule_run (persist : Bool) :
    recalculateSchedule calendar projectId persist (.clean store) =
      match storedSchedule calendar projectId store.projects with
      | .ok infos => (.ok infos, .clean (if persist = true then
          store.withProjects (saveSchedule infos store.projects) else store))
      | .error e => (.error e, .clean store) := by
  cases persist with
  | true =>
      rw [recalculateSchedule_true, recalculateStoredSchedule_run calendar hsettled]
      rfl
  | false =>
      unfold recalculateSchedule
      cases hinfos : storedSchedule calendar projectId store.projects with
      | error e => exact Program.bind_of_error (readProjects_run hinfos)
      | ok infos =>
          rw [Program.bind_of_ok (readProjects_run hinfos), if_pos (Or.inr rfl)]
          rfl

end

/-- A second recalculation returns the same times and keeps the stored dates, and without the
update of the tasks the same map is returned. -/
theorem recalculateSchedule_idempotent (calendar : WorkCalendarEngine) (projectId : String)
    (store : PlatformStore) {infos : List CPMTaskInfo} {next : Session PlatformStore}
    (hsettled : store.addedBalances = [])
    (h : recalculateSchedule calendar projectId true (.clean store) = (.ok infos, next)) :
    recalculateSchedule calendar projectId false (.clean store) = (.ok infos, .clean store) ∧
      ∃ again last, recalculateSchedule calendar projectId true next = (.ok again, last) ∧
        (∀ taskId, timesOf again taskId = timesOf infos taskId) ∧
        last.committed.projects.tasks.rows.map Task.storedDates =
          next.committed.projects.tasks.rows.map Task.storedDates := by
  have hrun := recalculateSchedule_run calendar projectId hsettled
  cases hschedule : storedSchedule calendar projectId store.projects with
  | error e =>
      rw [hrun, hschedule] at h
      cases h
  | ok schedule =>
      simp only [hschedule] at hrun
      rw [hrun, if_pos rfl] at h
      obtain ⟨hinfos, rfl⟩ := Prod.mk.inj h
      obtain rfl := Except.ok.inj hinfos
      refine ⟨hrun false, ?_⟩
      obtain ⟨again, hagain, htimes, hdates⟩ := exists_sameSchedule hschedule
      have hsaved : (store.withProjects (saveSchedule schedule store.projects)).addedBalances = [] :=
        hsettled
      have hnext := recalculateSchedule_run calendar projectId hsaved true
      simp only [PlatformStore.withProjects_projects, hagain] at hnext
      exact ⟨again, _, hnext, htimes, hdates⟩

/-- The office with its two tasks and the link between them. -/
def linkedOffice : PlatformStore :=
  (sessionAfter runPlanningCall (.clean officeSite) officePlan).committed

theorem recalculateSchedule_idempotent_office :
    let first := recalculateSchedule weekdayCalendar "office" true (.clean linkedOffice)
    ∃ infos, first.1 = .ok infos ∧ infos.length = 2 ∧
      recalculateSchedule weekdayCalendar "office" false (.clean linkedOffice) =
        (.ok infos, .clean linkedOffice) ∧
      ∃ again last, recalculateSchedule weekdayCalendar "office" true first.2 = (.ok again, last) ∧
        (∀ taskId, timesOf again taskId = timesOf infos taskId) ∧
        last.committed.projects.tasks.rows.map Task.storedDates =
          first.2.committed.projects.tasks.rows.map Task.storedDates := by
  intro first
  have hlength : first.1.toOption.map List.length = some 2 := by decide +kernel
  have hsettled : linkedOffice.addedBalances = [] := by decide +kernel
  obtain ⟨infos, hinfos, hlength⟩ := Option.map_eq_some_iff.mp hlength
  have hok : first.1 = .ok infos := toOption_eq_some.mp hinfos
  have hfirst : first = (.ok infos, first.2) := by
    rw [← hok]
  exact ⟨infos, hok, hlength,
    recalculateSchedule_idempotent weekdayCalendar "office" linkedOffice hsettled hfirst⟩

end ProjectManager
