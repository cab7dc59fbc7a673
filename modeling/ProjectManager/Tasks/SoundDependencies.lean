import ProjectManager.Tasks.DependencyCalls
import ProjectManager.Tasks.StoredSchedules

/-! # The stored dependency graph

In every run the links join two tasks of one project, no link is stored twice
and no links form a cycle. The check of a proposed link finds a cycle exactly
when the link would close one.
-/

namespace ProjectManager

open Foundation Relation

/-! ## The check of a proposed link -/

/-- The two tasks of a link are in one project, where the link is not stored yet. -/
structure Linkable (dep : TaskDependency) (store : ProjectStore) (pred : Task) : Prop where
  distinct : dep.predecessorTaskId ≠ dep.successorTaskId
  predecessor : store.tasks.get? dep.predecessorTaskId = some pred
  successor : ∃ succ, store.tasks.get? dep.successorTaskId = some succ ∧
    pred.projectId = succ.projectId
  fresh : (dep.predecessorTaskId, dep.successorTaskId) ∉
    links (store.dependenciesOf pred.projectId)

/-- The successor leads back to the predecessor in the project of a task. -/
def LeadsBack (dep : TaskDependency) (store : ProjectStore) (pred : Task) : Prop :=
  ReflTransGen (EdgeOf (links (store.dependenciesOf pred.projectId))) dep.successorTaskId
    dep.predecessorTaskId

section

variable {dep : TaskDependency} {store : ProjectStore} {pred : Task}

theorem findCyclePathIds_isSome_iff {deps : List TaskDependency} {first second : String} :
    (findCyclePathIds deps first second).isSome ↔
      ReflTransGen (EdgeOf (links deps)) second first := by
  unfold findCyclePathIds
  rw [Option.isSome_map, findPath_isSome_iff]

theorem checkDependency_ok (h : checkDependency dep store = .ok pred) :
    Linkable dep store pred ∧ ¬ LeadsBack dep store pred := by
  obtain ⟨_, hdistinct, h⟩ := bind_ok h
  obtain ⟨found, hfound, h⟩ := bind_ok h
  obtain ⟨succ, hsucc, h⟩ := bind_ok h
  obtain ⟨_, hproject, h⟩ := bind_ok h
  obtain ⟨_, hfresh, h⟩ := bind_ok h
  obtain ⟨_, hcycle, h⟩ := bind_ok h
  obtain rfl := Except.ok.inj h
  refine ⟨⟨ensure_eq_ok.mp hdistinct, require_eq_ok.mp hfound,
    ⟨succ, require_eq_ok.mp hsucc, ensure_eq_ok.mp hproject⟩, ensure_eq_ok.mp hfresh⟩, ?_⟩
  unfold LeadsBack
  rw [← findCyclePathIds_isSome_iff, Bool.not_eq_true, Option.isSome_eq_false_iff,
    Option.isNone_iff_eq_none]
  cases hpath : findCyclePathIds (store.dependenciesOf found.projectId) dep.predecessorTaskId
      dep.successorTaskId with
  | none => rfl
  | some path =>
      rw [hpath] at hcycle
      cases hcycle

/-- A link that fails its check is invalid, and a cycle is reported only where there is one. -/
theorem checkDependency_error {fault : DependencyDiagnostic}
    (h : checkDependency dep store = .error fault) :
    fault.isValid = false ∧ (fault.code = "DEPENDENCY_CYCLE" →
      ∃ pred, Linkable dep store pred ∧ LeadsBack dep store pred) := by
  have hother : ∀ code summary detail suggestions, code ≠ "DEPENDENCY_CYCLE" →
      invalidDiagnostic dep code summary detail suggestions = fault →
      fault.isValid = false ∧ (fault.code = "DEPENDENCY_CYCLE" →
        ∃ pred, Linkable dep store pred ∧ LeadsBack dep store pred) := by
    rintro code summary detail suggestions hcode rfl
    exact ⟨rfl, fun hcycle => absurd hcycle hcode⟩
  rcases bind_eq_error.mp h with h | ⟨_, hdistinct, h⟩
  · exact hother _ _ _ _ (by decide) (ensure_eq_error.mp h).2
  rcases bind_eq_error.mp h with h | ⟨pred, hpred, h⟩
  · exact hother _ _ _ _ (by decide) (require_eq_error.mp h).2
  rcases bind_eq_error.mp h with h | ⟨succ, hsucc, h⟩
  · exact hother _ _ _ _ (by decide) (require_eq_error.mp h).2
  rcases bind_eq_error.mp h with h | ⟨_, hproject, h⟩
  · exact hother _ _ _ _ (by decide) (ensure_eq_error.mp h).2
  rcases bind_eq_error.mp h with h | ⟨_, hfresh, h⟩
  · exact hother _ _ _ _ (by decide) (ensure_eq_error.mp h).2
  rcases bind_eq_error.mp h with h | ⟨_, -, h⟩
  · cases hpath : findCyclePathIds (store.dependenciesOf pred.projectId) dep.predecessorTaskId
        dep.successorTaskId with
    | none =>
        rw [hpath] at h
        cases h
    | some path =>
        rw [hpath] at h
        obtain rfl := Except.error.inj h
        refine ⟨rfl, fun _ => ⟨pred, ⟨ensure_eq_ok.mp hdistinct, require_eq_ok.mp hpred,
          ⟨succ, require_eq_ok.mp hsucc, ensure_eq_ok.mp hproject⟩, ensure_eq_ok.mp hfresh⟩, ?_⟩⟩
        apply findCyclePathIds_isSome_iff.mp
        rw [hpath]
        rfl
  · cases h

/-- The check reports a cycle when the link passes all other checks and its successor leads back
to its predecessor. -/
theorem checkDependency_cycle_iff :
    (∃ fault, checkDependency dep store = .error fault ∧ fault.code = "DEPENDENCY_CYCLE") ↔
      ∃ pred, Linkable dep store pred ∧ LeadsBack dep store pred := by
  constructor
  · rintro ⟨fault, h, hcode⟩
    exact (checkDependency_error h).2 hcode
  · rintro ⟨pred, hlinkable, hback⟩
    obtain ⟨succ, hsucc, hproject⟩ := hlinkable.successor
    obtain ⟨path, hpath⟩ := Option.isSome_iff_exists.mp (findCyclePathIds_isSome_iff.mpr hback)
    refine ⟨cycleDiagnostic dep store pred.projectId path, ?_, rfl⟩
    refine bind_eq_error.mpr (Or.inr ⟨(), ensure_eq_ok.mpr hlinkable.distinct, ?_⟩)
    refine bind_eq_error.mpr (Or.inr ⟨pred, require_eq_ok.mpr hlinkable.predecessor, ?_⟩)
    refine bind_eq_error.mpr (Or.inr ⟨succ, require_eq_ok.mpr hsucc, ?_⟩)
    refine bind_eq_error.mpr (Or.inr ⟨(), ensure_eq_ok.mpr hproject, ?_⟩)
    refine bind_eq_error.mpr (Or.inr ⟨(), ensure_eq_ok.mpr hlinkable.fresh, ?_⟩)
    refine bind_eq_error.mpr (Or.inl ?_)
    rw [hpath]
    rfl

/-- A link is found valid when it passes its check. -/
theorem checkDependency_of_valid {calendar : WorkCalendarEngine} {includeImpact : Bool}
    {diagnostic : DependencyDiagnostic}
    (h : getDependencyDiagnostics dep calendar includeImpact store = .ok diagnostic)
    (hvalid : diagnostic.isValid = true) : ∃ pred, checkDependency dep store = .ok pred := by
  unfold getDependencyDiagnostics at h
  cases hcheck : checkDependency dep store with
  | ok pred => exact ⟨pred, rfl⟩
  | error fault =>
      rw [hcheck] at h
      cases h
      rw [(checkDependency_error hcheck).1] at hvalid
      cases hvalid

theorem insertDependency_dependenciesOf {changed : ProjectStore} (hlinkable : Linkable dep store pred)
    (hinsert : insertDependency dep store = .ok changed) :
    changed.tasks = store.tasks ∧
      changed.dependenciesOf pred.projectId = dep :: store.dependenciesOf pred.projectId := by
  obtain ⟨succ, hsucc, hproject⟩ := hlinkable.successor
  obtain ⟨_, hfresh, hinsert⟩ := bind_ok hinsert
  cases hinsert
  have hpred : dep.predecessorTaskId ∈ (store.tasksOf pred.projectId).ids :=
    mem_ids_tasksOf.mpr ⟨pred, hlinkable.predecessor, rfl⟩
  have hsucc' : dep.successorTaskId ∈ (store.tasksOf pred.projectId).ids :=
    mem_ids_tasksOf.mpr ⟨succ, hsucc, hproject.symm⟩
  refine ⟨rfl, ?_⟩
  unfold ProjectStore.dependenciesOf
  change List.filter _ (store.dependencies.insert dep).rows = _
  rw [Table.rows_insert (ensure_eq_ok.mp hfresh)]
  exact List.filter_cons_of_pos (decide_eq_true ⟨hpred, hsucc'⟩)

theorem diagnostics_selfLink {calendar : WorkCalendarEngine} {includeImpact : Bool}
    (h : dep.predecessorTaskId = dep.successorTaskId) :
    ∃ diagnostic, getDependencyDiagnostics dep calendar includeImpact store = .ok diagnostic ∧
      diagnostic.code = "DEPENDENCY_SELF" := by
  have hcheck : checkDependency dep store = .error (invalidDiagnostic dep "DEPENDENCY_SELF"
      "A task cannot depend on itself."
      "Select two different tasks for predecessor and successor."
      ["Pick a different predecessor or successor task.",
        "Use task hierarchy/subtasks instead of self-links for decomposition."]) :=
    bind_eq_error.mpr (Or.inl (ensure_eq_error.mpr ⟨not_not.mpr h, rfl⟩))
  unfold getDependencyDiagnostics
  rw [hcheck]
  exact ⟨_, rfl, rfl⟩

/-- The diagnostics report a cycle where the check does. -/
theorem diagnostics_cycle_iff {calendar : WorkCalendarEngine} {includeImpact : Bool} :
    (∃ diagnostic, getDependencyDiagnostics dep calendar includeImpact store = .ok diagnostic ∧
        diagnostic.code = "DEPENDENCY_CYCLE") ↔
      ∃ pred, Linkable dep store pred ∧ LeadsBack dep store pred := by
  rw [← checkDependency_cycle_iff]
  unfold getDependencyDiagnostics
  cases hcheck : checkDependency dep store with
  | error fault =>
      constructor
      · rintro ⟨diagnostic, hdiagnostic, hcode⟩
        cases hdiagnostic
        exact ⟨fault, rfl, hcode⟩
      · rintro ⟨other, hother, hcode⟩
        obtain rfl := Except.error.inj hother
        exact ⟨fault, rfl, hcode⟩
  | ok pred =>
      constructor
      · rintro ⟨diagnostic, hdiagnostic, hcode⟩
        have hvalid : diagnostic.code = "DEPENDENCY_VALID" := by
          dsimp only at hdiagnostic
          split at hdiagnostic
          · obtain rfl := Except.ok.inj hdiagnostic
            rfl
          · obtain ⟨current, -, hdiagnostic⟩ := bind_ok hdiagnostic
            obtain ⟨projected, -, hdiagnostic⟩ := bind_ok hdiagnostic
            cases hdiagnostic
            unfold impactDiagnostic
            split <;> rfl
        rw [hvalid] at hcode
        exact absurd hcode (by decide)
      · rintro ⟨other, hother, -⟩
        cases hother

end

/-! ## The stored links -/

def ProjectStore.projectOf (store : ProjectStore) (taskId : String) : Option String :=
  (store.tasks.get? taskId).map Task.projectId

/-- What every run keeps of the stored links. -/
structure DependenciesSound (store : ProjectStore) : Prop where
  sameProject : ∀ dep ∈ store.dependencies.rows, ∃ projectId,
    store.projectOf dep.predecessorTaskId = some projectId ∧
      store.projectOf dep.successorTaskId = some projectId
  noDuplicates : (links store.dependencies.rows).Nodup
  noCycle : ¬ HasCycle (links store.dependencies.rows)

section

variable {store next : ProjectStore}

theorem DependenciesSound.noSelfLink (h : DependenciesSound store) :
    ∀ dep ∈ store.dependencies.rows, dep.predecessorTaskId ≠ dep.successorTaskId := by
  intro dep hdep heq
  have hedge : EdgeOf (links store.dependencies.rows) dep.predecessorTaskId
      dep.successorTaskId := mem_links.mpr ⟨dep, hdep, rfl, rfl⟩
  rw [heq] at hedge
  exact h.noCycle ⟨dep.successorTaskId, .single hedge⟩

theorem links_dependenciesOf_subset (projectId : String) :
    links (store.dependenciesOf projectId) ⊆ links store.dependencies.rows :=
  List.map_subset _ fun _ hdep => (mem_dependenciesOf.mp hdep).1

theorem projectOf_eq_some {taskId projectId : String} :
    store.projectOf taskId = some projectId ↔ taskId ∈ (store.tasksOf projectId).ids := by
  rw [mem_ids_tasksOf, ProjectStore.projectOf, Option.map_eq_some_iff]

theorem projectOf_of_identity
    (h : next.tasks.rows.map Task.identity = store.tasks.rows.map Task.identity) :
    next.projectOf = store.projectOf := by
  have hread : ∀ tasks : TasksById, ∀ taskId, (tasks.get? taskId).map Task.projectId =
      ((tasks.rows.map Task.identity).find? fun entry => entry.1 = taskId).map Prod.snd := by
    intro tasks taskId
    rw [List.find?_map, Option.map_map]
    rfl
  funext taskId
  unfold ProjectStore.projectOf
  rw [hread next.tasks, hread store.tasks, h]

theorem DependenciesSound.path_in_project (h : DependenciesSound store) {projectId first : String}
    (hfirst : first ∈ (store.tasksOf projectId).ids) {last : String}
    (hpath : ReflTransGen (EdgeOf (links store.dependencies.rows)) first last) :
    ReflTransGen (EdgeOf (links (store.dependenciesOf projectId))) first last ∧
      last ∈ (store.tasksOf projectId).ids := by
  induction hpath with
  | refl => exact ⟨.refl, hfirst⟩
  | tail _ hedge ih =>
      obtain ⟨dep, hdep, rfl, rfl⟩ := mem_links.mp hedge
      obtain ⟨other, hpred, hsucc⟩ := h.sameProject dep hdep
      have hother : other = projectId := by
        rw [projectOf_eq_some.mpr ih.2] at hpred
        exact (Option.some.inj hpred).symm
      subst hother
      have hlast := projectOf_eq_some.mp hsucc
      have hdep' : dep ∈ store.dependenciesOf other := mem_dependenciesOf.mpr ⟨hdep, ih.2, hlast⟩
      exact ⟨ih.1.tail (mem_links.mpr ⟨dep, hdep', rfl, rfl⟩), hlast⟩

/-- Between two different tasks a link closes a cycle exactly when the check reports one. -/
theorem DependenciesSound.closes_cycle_iff (h : DependenciesSound store) {dep : TaskDependency}
    (hdistinct : dep.predecessorTaskId ≠ dep.successorTaskId) :
    HasCycle (links (dep :: store.dependencies.rows)) ↔
      ∃ pred, Linkable dep store pred ∧ LeadsBack dep store pred := by
  have hcons : HasCycle (links (dep :: store.dependencies.rows)) ↔
      ReflTransGen (EdgeOf (links store.dependencies.rows)) dep.successorTaskId
        dep.predecessorTaskId := hasCycle_cons_iff h.noCycle
  rw [hcons]
  constructor
  · intro hpath
    -- The first link of the way back shows the project of the successor.
    obtain ⟨projectId, hproject⟩ : ∃ projectId,
        dep.successorTaskId ∈ (store.tasksOf projectId).ids := by
      rcases hpath.cases_head with heq | ⟨middle, hedge, -⟩
      · exact absurd heq.symm hdistinct
      · obtain ⟨first, hfirst, hpred, -⟩ := mem_links.mp hedge
        obtain ⟨projectId, hproject, -⟩ := h.sameProject first hfirst
        exact ⟨projectId, hpred ▸ projectOf_eq_some.mp hproject⟩
    obtain ⟨hback, hmem⟩ := h.path_in_project hproject hpath
    obtain ⟨pred, hpred, rfl⟩ := mem_ids_tasksOf.mp hmem
    obtain ⟨succ, hsucc, heq⟩ := mem_ids_tasksOf.mp hproject
    refine ⟨pred, ⟨hdistinct, hpred, ⟨succ, hsucc, heq.symm⟩, ?_⟩, hback⟩
    intro hstored
    exact h.noCycle ⟨_, .head' (links_dependenciesOf_subset _ hstored) hpath⟩
  · rintro ⟨pred, -, hback⟩
    exact ReflTransGen.mono (EdgeOf.mono (links_dependenciesOf_subset _)) _ _ hback

/-! ### What keeps the links sound -/

theorem DependenciesSound.of_sublist (h : DependenciesSound store)
    (hlinks : next.dependencies.rows.Sublist store.dependencies.rows)
    (htasks : ∀ dep ∈ next.dependencies.rows,
      next.projectOf dep.predecessorTaskId = store.projectOf dep.predecessorTaskId ∧
        next.projectOf dep.successorTaskId = store.projectOf dep.successorTaskId) :
    DependenciesSound next where
  sameProject := by
    intro dep hdep
    rw [(htasks dep hdep).1, (htasks dep hdep).2]
    exact h.sameProject dep (hlinks.subset hdep)
  noDuplicates := h.noDuplicates.sublist (hlinks.map _)
  noCycle hcycle := h.noCycle (hcycle.mono (hlinks.map _).subset)

theorem DependenciesSound.saveSchedule (h : DependenciesSound store)
    {calendar : WorkCalendarEngine} {projectId : String} {infos : List CPMTaskInfo}
    (hinfos : storedSchedule calendar projectId store = .ok infos) :
    DependenciesSound (saveSchedule infos store) := by
  have hproject := projectOf_of_identity (saveSchedule_identity (storedSchedule_identity hinfos))
  exact h.of_sublist (List.Sublist.refl _) fun _ _ => ⟨congrFun hproject _, congrFun hproject _⟩

theorem DependenciesSound.syncedProjects (h : DependenciesSound store)
    {calendar : WorkCalendarEngine} {projectId : Option String}
    (hsynced : syncedProjects calendar projectId store = .ok next) : DependenciesSound next := by
  unfold ProjectManager.syncedProjects at hsynced
  split at hsynced
  · obtain rfl := Except.ok.inj hsynced
    exact h
  · obtain ⟨infos, hinfos, hsynced⟩ := bind_ok hsynced
    cases hsynced
    exact h.saveSchedule hinfos

/-- A link that passes its check is added to sound links. -/
theorem DependenciesSound.insertDependency (h : DependenciesSound store) {dep : TaskDependency}
    {pred : Task} (hcheck : checkDependency dep store = .ok pred)
    (hinsert : insertDependency dep store = .ok next) : DependenciesSound next := by
  obtain ⟨hlinkable, hnot⟩ := checkDependency_ok hcheck
  obtain ⟨succ, hsucc, hproject⟩ := hlinkable.successor
  obtain ⟨_, hfresh, hinsert⟩ := bind_ok hinsert
  cases hinsert
  have hrows : (store.dependencies.insert dep).rows = dep :: store.dependencies.rows :=
    Table.rows_insert (ensure_eq_ok.mp hfresh)
  have hpred : dep.predecessorTaskId ∈ (store.tasksOf pred.projectId).ids :=
    mem_ids_tasksOf.mpr ⟨pred, hlinkable.predecessor, rfl⟩
  have hsucc' : dep.successorTaskId ∈ (store.tasksOf pred.projectId).ids :=
    mem_ids_tasksOf.mpr ⟨succ, hsucc, hproject.symm⟩
  constructor
  · intro other hother
    rcases List.mem_cons.mp (hrows ▸ hother) with rfl | hother
    · exact ⟨pred.projectId, projectOf_eq_some.mpr hpred, projectOf_eq_some.mpr hsucc'⟩
    · exact h.sameProject other hother
  · rw [hrows]
    refine List.nodup_cons.mpr ⟨?_, h.noDuplicates⟩
    intro hstored
    obtain ⟨other, hother, hfirst, hlast⟩ := mem_links.mp hstored
    apply hlinkable.fresh
    refine mem_links.mpr ⟨other, mem_dependenciesOf.mpr ⟨hother, ?_, ?_⟩, hfirst, hlast⟩
    · exact hfirst ▸ hpred
    · exact hlast ▸ hsucc'
  · rw [hrows]
    intro hcycle
    obtain ⟨other, hother, hback⟩ := (h.closes_cycle_iff hlinkable.distinct).mp hcycle
    obtain rfl := Option.some.inj (hother.predecessor.symm.trans hlinkable.predecessor)
    exact hnot hback

theorem DependenciesSound.deleteDependency (h : DependenciesSound store) (depId : String) :
    DependenciesSound (deleteDependency depId store) :=
  h.of_sublist List.filter_sublist fun _ _ => ⟨rfl, rfl⟩

theorem DependenciesSound.insertTask (h : DependenciesSound store) {task : Task}
    (hfresh : task.id ∉ store.tasks.ids) :
    DependenciesSound { store with tasks := store.tasks.insert task } := by
  refine ⟨?_, h.noDuplicates, h.noCycle⟩
  intro dep hdep
  obtain ⟨projectId, hpred, hsucc⟩ := h.sameProject dep hdep
  have hkept : ∀ taskId, store.projectOf taskId = some projectId →
      ProjectStore.projectOf { store with tasks := store.tasks.insert task } taskId =
        some projectId := by
    intro taskId htask
    have hne : taskId ≠ task.id := by
      rintro rfl
      unfold ProjectStore.projectOf at htask
      rw [Table.get?_eq_none.mpr hfresh] at htask
      cases htask
    unfold ProjectStore.projectOf
    rw [Table.get?_insert_of_ne hne]
    exact htask
  exact ⟨projectId, hkept _ hpred, hkept _ hsucc⟩

theorem DependenciesSound.deleteRowsOfTask (h : DependenciesSound store) (task : Task) :
    DependenciesSound (deleteRowsOfTask task store) := by
  have hkept : ∀ taskId, taskId ≠ task.id →
      (ProjectManager.deleteRowsOfTask task store).projectOf taskId = store.projectOf taskId := by
    intro taskId hne
    unfold ProjectStore.projectOf
    congr 1
    ext row
    rw [Table.get?_eq_some_iff, Table.get?_eq_some_iff]
    change row ∈ (store.tasks.filter _).rows ∧ _ ↔ _
    rw [Table.mem_filter]
    constructor
    · rintro ⟨⟨hrow, -⟩, rfl⟩
      exact ⟨hrow, rfl⟩
    · rintro ⟨hrow, rfl⟩
      exact ⟨⟨hrow, by simpa using hne⟩, rfl⟩
  refine h.of_sublist List.filter_sublist ?_
  intro dep hdep
  have hends := (List.mem_filter.mp hdep).2
  simp only [decide_eq_true_eq] at hends
  exact ⟨hkept _ hends.1, hkept _ hends.2⟩

end

end ProjectManager
