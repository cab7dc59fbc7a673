import ProjectManager.Scheduling.ForwardPass
import ProjectManager.Tasks.Dependencies

/-! # Schedules of the stored project

The links of a project are between its own tasks, so a project can be
scheduled when its links have no cycle and some task has a date to start from.
-/

namespace ProjectManager

open Foundation Relation

/-! ## The rows of one project -/

section

variable {store : ProjectStore} {projectId : String}

theorem mem_links {deps : List TaskDependency} {first second : String} :
    (first, second) ∈ links deps ↔
      ∃ dep ∈ deps, dep.predecessorTaskId = first ∧ dep.successorTaskId = second := by
  simp [links]

theorem mem_tasksOf {task : Task} :
    task ∈ (store.tasksOf projectId).rows ↔ task ∈ store.tasks.rows ∧ task.projectId = projectId := by
  simp [ProjectStore.tasksOf, Table.mem_filter]

theorem get?_tasksOf (taskId : String) :
    (store.tasksOf projectId).get? taskId =
      (store.tasks.get? taskId).filter fun task => task.projectId = projectId := by
  ext task
  rw [Table.get?_eq_some_iff, mem_tasksOf, Option.filter_eq_some_iff, Table.get?_eq_some_iff,
    decide_eq_true_iff, and_right_comm]

theorem mem_ids_tasksOf {id : String} : id ∈ (store.tasksOf projectId).ids ↔
    ∃ task, store.tasks.get? id = some task ∧ task.projectId = projectId := by
  constructor
  · intro h
    obtain ⟨task, htask, hid, -⟩ := (store.tasksOf projectId).exists_of_mem_ids h
    obtain ⟨hmem, hproject⟩ := mem_tasksOf.mp htask
    exact ⟨task, Table.get?_eq_some_iff.mpr ⟨hmem, hid⟩, hproject⟩
  · rintro ⟨task, htask, hproject⟩
    obtain ⟨hmem, rfl⟩ := Table.get?_eq_some_iff.mp htask
    exact (store.tasksOf projectId).mem_ids (mem_tasksOf.mpr ⟨hmem, hproject⟩)

theorem mem_dependenciesOf {dep : TaskDependency} :
    dep ∈ store.dependenciesOf projectId ↔ dep ∈ store.dependencies.rows ∧
      dep.predecessorTaskId ∈ (store.tasksOf projectId).ids ∧
        dep.successorTaskId ∈ (store.tasksOf projectId).ids := by
  simp [ProjectStore.dependenciesOf]

theorem knownDependencies_dependenciesOf :
    knownDependencies (store.tasksOf projectId) (store.dependenciesOf projectId) =
      store.dependenciesOf projectId := by
  apply List.filter_eq_self.mpr
  intro dep hdep
  simpa using (mem_dependenciesOf.mp hdep).2

theorem acyclicDependencies_iff :
    AcyclicDependencies (store.tasksOf projectId) (store.dependenciesOf projectId) ↔
      ¬ HasCycle (links (store.dependenciesOf projectId)) := by
  have hrelation : Precedes (store.tasksOf projectId) (store.dependenciesOf projectId) =
      EdgeOf (links (store.dependenciesOf projectId)) := by
    funext first second
    unfold Precedes EdgeOf
    rw [knownDependencies_dependenciesOf, mem_links]
  unfold AcyclicDependencies HasCycle
  rw [hrelation, not_exists]

end

/-! ## When a project can be scheduled -/

/-- A date that the schedule of a task can start from. -/
def Task.HasDate (task : Task) : Prop :=
  task.startDate.isSome ∨ task.actualStart.isSome ∨ task.actualEnd.isSome

instance (task : Task) : Decidable task.HasDate := inferInstanceAs (Decidable (_ ∨ _ ∨ _))

section

variable {project : TasksById} {deps : List TaskDependency} {graph : DependencyGraph}

variable (calendar : WorkCalendarEngine)

theorem computeTaskDates_finish {task : Task} (h : task.HasDate) (incoming : List TaskDependency)
    (dates : DateTable) : ((computeTaskDates calendar task incoming dates).finish).isSome := by
  cases hend : task.actualEnd with
  | some finish =>
      cases hstart : task.actualStart <;>
        simp [computeTaskDates, applyActualConstraints, hend, hstart]
  | none =>
      rw [computeTaskDates_eq calendar hend]
      change (Option.map _ _).isSome
      rw [Option.isSome_map]
      cases hown : (latestInducedStart calendar task incoming dates).or task.startDate with
      | some start =>
          obtain ⟨delayed, hdelayed, -⟩ :=
            le_delayToActualStart task.actualStart (show some start = some start from rfl)
          rw [hdelayed]
          rfl
      | none =>
          obtain ⟨-, hstart⟩ := Option.or_eq_none_iff.mp hown
          obtain ⟨actual, hactual⟩ : ∃ actual, task.actualStart = some actual := by
            rw [← Option.isSome_iff_exists]
            simpa [Task.HasDate, hstart, hend] using h
          rw [hactual]
          rfl

/-- Without a date of its own and without dated predecessors a task stays undated. -/
theorem computeTaskDates_undated {task : Task} (h : ¬ task.HasDate)
    (incoming : List TaskDependency) :
    computeTaskDates calendar task incoming (fun _ => .undated) = .undated := by
  unfold Task.HasDate at h
  simp only [not_or, Bool.not_eq_true, Option.isSome_eq_false_iff, Option.isNone_iff_eq_none] at h
  obtain ⟨hstart, hactual, hend⟩ := h
  have hlink : ∀ dep, linkDate calendar (fun _ => .undated) dep = none := by
    intro dep
    unfold linkDate
    cases dep.dependencyType <;> rfl
  have hinduced : ∀ dep, inducedStart calendar task (fun _ => .undated) dep = none := by
    intro dep
    unfold inducedStart startCandidate
    rw [hlink]
    cases dep.dependencyType <;> simp
  have hlatest : latestInducedStart calendar task incoming (fun _ => .undated) = none := by
    unfold latestInducedStart
    rw [List.filterMap_eq_nil_iff.mpr fun dep _ => hinduced dep]
    rfl
  rw [computeTaskDates_eq calendar hend, hlatest, hstart, hactual]
  rfl

theorem exists_finish_iff (hsorted : graph.Sorted project deps) :
    (∃ result, runForwardPass project graph (computeTaskDates calendar) = .ok result) ↔
      ∃ task ∈ project.tasks, task.HasDate := by
  constructor
  · rintro ⟨⟨dates, finish⟩, hrun⟩
    obtain ⟨rfl, ⟨task, htask, hfinish⟩, -⟩ := runForwardPass_ok hrun
    by_contra hnone
    push Not at hnone
    have hundated : forwardDates project graph (computeTaskDates calendar) =
        fun _ => .undated := by
      apply evaluate_eq_self
      intro id
      unfold forwardRule
      cases hget : project.get? id with
      | none => rfl
      | some task =>
          exact computeTaskDates_undated calendar (hnone task (project.get?_eq_some hget).1) _
    rw [hundated] at hfinish
    cases hfinish
  · rintro ⟨task, htask, hdate⟩
    have heq := forwardDates_eq hsorted (computeTaskDates_predecessorsOnly calendar) htask
    have hfinish := computeTaskDates_finish calendar hdate (graph.depsBySuccessor task.id)
      (forwardDates project graph (computeTaskDates calendar))
    rw [← heq] at hfinish
    obtain ⟨finish, hfinish⟩ := Option.isSome_iff_exists.mp hfinish
    have hmem : finish ∈ finishDates project
        (forwardDates project graph (computeTaskDates calendar)) :=
      List.mem_filterMap.mpr ⟨task, htask, hfinish⟩
    obtain ⟨latest, hlatest⟩ := Option.isSome_iff_exists.mp (List.isSome_max?_of_mem hmem)
    refine ⟨(forwardDates project graph (computeTaskDates calendar), latest), ?_⟩
    unfold runForwardPass
    simp only [forwardDates] at hlatest ⊢
    rw [hlatest]

theorem exists_schedule_iff :
    (∃ infos, recalculateProjectSchedule calendar project deps = .ok infos) ↔
      project.tasks = [] ∨
        (AcyclicDependencies project deps ∧ ∃ task ∈ project.tasks, task.HasDate) := by
  unfold recalculateProjectSchedule
  by_cases hempty : project.tasks = []
  · simp [hempty]
  · have hnonempty : project.tasks.isEmpty = false := by
      rw [Bool.eq_false_iff, ne_eq, List.isEmpty_iff]
      exact hempty
    rw [if_neg (by simp [hnonempty]), or_iff_right hempty]
    constructor
    · rintro ⟨infos, h⟩
      obtain ⟨graph, hgraph, h⟩ := bind_ok h
      obtain ⟨result, hrun, -⟩ := bind_ok h
      have hsorted := buildProjectDependencyGraph_sorted hgraph
      exact ⟨hsorted.acyclic, (exists_finish_iff calendar hsorted).mp ⟨result, hrun⟩⟩
    · rintro ⟨hacyclic, hdate⟩
      obtain ⟨graph, hgraph⟩ := exists_graph_iff.mpr hacyclic
      have hsorted := buildProjectDependencyGraph_sorted hgraph
      obtain ⟨result, hrun⟩ := (exists_finish_iff calendar hsorted).mpr hdate
      exact ⟨_, bind_eq_ok.mpr ⟨graph, hgraph, bind_eq_ok.mpr ⟨result, hrun, rfl⟩⟩⟩

end

/-- The stored project has no tasks, or links without a cycle and a date to start from. -/
def Schedulable (store : ProjectStore) (projectId : String) : Prop :=
  (store.tasksOf projectId).tasks = [] ∨
    (¬ HasCycle (links (store.dependenciesOf projectId)) ∧
      ∃ task ∈ (store.tasksOf projectId).tasks, task.HasDate)

theorem exists_storedSchedule_iff (calendar : WorkCalendarEngine) {store : ProjectStore}
    {projectId : String} :
    (∃ infos, storedSchedule calendar projectId store = .ok infos) ↔ Schedulable store projectId := by
  unfold storedSchedule Schedulable
  rw [exists_schedule_iff, acyclicDependencies_iff]

/-- Without a cycle the schedule is never refused for one. -/
theorem storedSchedule_ne_cycle (calendar : WorkCalendarEngine) {store : ProjectStore}
    {projectId : String} (h : ¬ HasCycle (links (store.dependenciesOf projectId))) :
    storedSchedule calendar projectId store ≠ .error scheduleCycle := by
  intro hcycle
  unfold storedSchedule recalculateProjectSchedule at hcycle
  split at hcycle
  · cases hcycle
  · obtain ⟨graph, hgraph⟩ := exists_graph_iff.mpr (acyclicDependencies_iff.mpr h)
    rw [hgraph] at hcycle
    rcases bind_eq_error.mp hcycle with hcycle | ⟨_, hok, hcycle⟩
    · cases hcycle
    · obtain rfl := Except.ok.inj hok
      rcases bind_eq_error.mp hcycle with hcycle | ⟨_, -, hcycle⟩
      · unfold runForwardPass at hcycle
        dsimp only at hcycle
        split at hcycle
        · exact absurd (Except.error.inj hcycle) (by decide)
        · cases hcycle
      · cases hcycle

/-! ## The update of the tasks -/

/-- What no schedule changes of a task. -/
def Task.identity (task : Task) : String × String := (task.id, task.projectId)

theorem ids_tasksOf (store : ProjectStore) (projectId : String) :
    (store.tasksOf projectId).ids =
      ((store.tasks.rows.map Task.identity).filter fun entry => entry.2 = projectId).map
        Prod.fst := by
  rw [List.filter_map, List.map_map]
  rfl

/-- Tasks that are stored as they are in some respect stay so. -/
theorem saveSchedule_map {β : Type} {g : Task → β} (hid : ∀ task other, g task = g other →
      task.id = other.id)
    (hversion : ∀ (task : Task) version, g { task with version := version } = g task)
    {infos : List CPMTaskInfo} {store : ProjectStore}
    (h : ∀ info ∈ infos, g info.task ∈ store.tasks.rows.map g) :
    (saveSchedule infos store).tasks.rows.map g = store.tasks.rows.map g := by
  have hfold : ∀ (infos : List CPMTaskInfo) (tasks : TasksById),
      (∀ info ∈ infos, g info.task ∈ tasks.rows.map g) →
      (infos.foldl (fun tasks info => tasks.save info.task) tasks).rows.map g =
        tasks.rows.map g := by
    intro infos
    induction infos with
    | nil => exact fun _ _ => rfl
    | cons info rest ih =>
        intro tasks hinfos
        obtain ⟨hinfo, hrest⟩ := List.forall_mem_cons.mp hinfos
        obtain ⟨stored, hstored, heq⟩ := List.mem_map.mp hinfo
        have hget : tasks.get? info.task.id = some stored :=
          Table.get?_eq_some_iff.mpr ⟨hstored, hid _ _ heq⟩
        have hsave : (tasks.save info.task).rows.map g = tasks.rows.map g :=
          Table.map_rows_update hget ((hversion _ _).trans heq.symm)
        rw [List.foldl_cons, ih _ (hsave.symm ▸ hrest), hsave]
  exact hfold infos store.tasks h

theorem saveSchedule_identity {infos : List CPMTaskInfo} {store : ProjectStore}
    (h : ∀ info ∈ infos, info.task.identity ∈ store.tasks.rows.map Task.identity) :
    (saveSchedule infos store).tasks.rows.map Task.identity =
      store.tasks.rows.map Task.identity :=
  saveSchedule_map (fun _ _ heq => congrArg Prod.fst heq) (fun _ _ => rfl) h

theorem storedSchedule_identity {calendar : WorkCalendarEngine} {store : ProjectStore}
    {projectId : String} {infos : List CPMTaskInfo}
    (h : storedSchedule calendar projectId store = .ok infos) :
    ∀ info ∈ infos, info.task.identity ∈ store.tasks.rows.map Task.identity := by
  intro info hinfo
  unfold storedSchedule recalculateProjectSchedule at h
  split at h
  · obtain rfl := Except.ok.inj h
    cases hinfo
  · obtain ⟨graph, -, h⟩ := bind_ok h
    obtain ⟨result, -, h⟩ := bind_ok h
    cases h
    obtain ⟨task, htask, rfl⟩ := List.mem_map.mp hinfo
    exact List.mem_map.mpr ⟨task, (mem_tasksOf.mp htask).1, rfl⟩

end ProjectManager
