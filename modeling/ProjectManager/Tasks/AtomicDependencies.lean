import ProjectManager.Tasks.PlanningRuns

/-! # Changes of dependencies that raise

The links are committed before the schedule is brought up to date. A change
that raises is therefore without effect exactly when it does not get that far,
or when the project can be scheduled with the links that it leaves.
-/

namespace ProjectManager

open Foundation Relation

def ProjectStore.linksAndDates (store : ProjectStore) :
    List TaskDependency × List (String × Option Date × Option Date) :=
  (store.dependencies.rows,
    store.tasks.rows.map fun task => (task.id, task.startDate, task.endDate))

/-- Some task of the project has a date to start from. -/
def ProjectStore.Dated (store : ProjectStore) (projectId : String) : Prop :=
  ∃ task ∈ (store.tasksOf projectId).tasks, task.HasDate

namespace DependencyChange

variable (services : ProjectManagementServices) (store : PlatformStore)

/-- If the change raises, the stored links and dates are those before the call. -/
def Atomic (change : DependencyChange) : Prop :=
  (change.run services (.clean store)).1.isSome →
    (change.run services (.clean store)).2.committed.projects.linksAndDates =
      store.projects.linksAndDates

/-- A change that is made at once, in a project whose links stay without a cycle and which has a
date to start from. -/
def DirectlySchedulable : DependencyChange → Prop
  | .add dep _ bypassApproval => ∀ pred,
      prepareAddedDependency services dep bypassApproval store.projects = .ok pred →
      services.governed "dependency.add" bypassApproval = false →
      dep.id ∉ store.projects.dependencies.ids → pred.projectId ≠ "" →
      ¬ HasCycle (links (store.projects.dependenciesOf pred.projectId)) ∧
        store.projects.Dated pred.projectId
  | .remove depId _ bypassApproval => ∀ dep,
      prepareRemovedDependency services depId bypassApproval store.projects = .ok dep →
      services.governed "dependency.remove" bypassApproval = false →
      ∀ projectId, dependencyProject store.projects dep = some projectId → projectId ≠ "" →
        ¬ HasCycle (links ((store.projects.dependenciesOf projectId).filter fun row =>
          row.id ≠ depId)) ∧ store.projects.Dated projectId
  | .approve _ _ _ => True

def KeepsSchedulable : DependencyChange → Prop
  | .approve requestId _ generatedId => ∀ request change,
      requestToDecide services.toInventoryService "approve approval request" requestId store =
        .ok request →
      request.dependencyChange generatedId = some change →
      change.DirectlySchedulable services store
  | .add dep requestId bypassApproval =>
      (add dep requestId bypassApproval).DirectlySchedulable services store
  | .remove depId requestId bypassApproval =>
      (remove depId requestId bypassApproval).DirectlySchedulable services store

end DependencyChange

section

variable {services : ProjectManagementServices} {store : PlatformStore}

/-! ## When the schedule is brought up to date -/

theorem exists_syncedProjects_iff (calendar : WorkCalendarEngine) {changed : ProjectStore}
    {projectId : Option String} :
    (∃ projects, syncedProjects calendar projectId changed = .ok projects) ↔
      ∀ id, projectId = some id → id ≠ "" → Schedulable changed id := by
  unfold syncedProjects
  cases hfilter : projectId.filter (· ≠ "") with
  | none =>
      refine ⟨fun _ => ?_, fun _ => ⟨changed, rfl⟩⟩
      rintro id rfl hid
      simp [hid] at hfilter
  | some id =>
      obtain ⟨rfl, hid⟩ := Option.filter_eq_some_iff.mp hfilter
      have hid' : id ≠ "" := by simpa using hid
      dsimp only
      constructor
      · rintro ⟨projects, h⟩ other hother -
        cases hother
        obtain ⟨infos, hinfos, -⟩ := bind_ok h
        exact (exists_storedSchedule_iff calendar).mp ⟨infos, hinfos⟩
      · intro h
        obtain ⟨infos, hinfos⟩ := (exists_storedSchedule_iff calendar).mpr (h id rfl hid')
        exact ⟨_, bind_eq_ok.mpr ⟨infos, hinfos, rfl⟩⟩

theorem CommitsLinks.dependencies_ne {change : DependencyChange} {changed : ProjectStore}
    {projectId : Option String} (h : CommitsLinks services store change changed projectId) :
    changed.dependencies.rows ≠ store.projects.dependencies.rows := by
  induction h with
  | @add dep _ _ _ _ hprepared hdirect hchanged =>
      obtain ⟨_, hfresh, hchanged⟩ := bind_ok hchanged
      cases hchanged
      change (store.projects.dependencies.insert dep).rows ≠ _
      rw [Table.rows_insert (ensure_eq_ok.mp hfresh)]
      exact List.cons_ne_self _ _
  | @remove depId _ _ dep hprepared hdirect =>
      obtain ⟨_, -, hprepared⟩ := bind_ok hprepared
      obtain ⟨found, hfound, -⟩ := bind_ok hprepared
      obtain ⟨hmem, hid⟩ := Table.get?_eq_some_iff.mp (require_eq_ok.mp hfound)
      intro heq
      have hkept := List.filter_eq_self.mp heq found hmem
      simp [hid] at hkept
  | approve hrequest hchange hcommits ih => exact ih

/-- The schedule can be brought up to date behind every commit of the change. -/
def SyncsCommits (services : ProjectManagementServices) (store : PlatformStore)
    (change : DependencyChange) : Prop :=
  ∀ changed projectId, CommitsLinks services store change changed projectId →
    ∃ projects, syncedProjects services.workCalendarEngine projectId changed = .ok projects

theorem atomic_iff_syncsCommits (change : DependencyChange) (hsettled : store.addedBalances = []) :
    change.Atomic services store ↔ SyncsCommits services store change := by
  constructor
  · intro hatomic changed projectId hcommits
    have hrun := change.run_of_commits hsettled hcommits
    unfold SyncedRun at hrun
    split at hrun
    next projects hsynced => exact ⟨projects, hsynced⟩
    next e hsynced =>
      obtain ⟨next, hrun, last, rfl, -, rfl⟩ := hrun
      have houtcome : change.run services (.clean store) = (some e, .clean last) := by
        unfold DependencyChange.run Program.outcome
        rw [hrun]
      unfold DependencyChange.Atomic at hatomic
      rw [houtcome] at hatomic
      exact absurd (congrArg Prod.fst (hatomic rfl)) hcommits.dependencies_ne
  · intro hsynced hraised
    by_cases hcommits : ∃ changed projectId, CommitsLinks services store change changed projectId
    · obtain ⟨changed, projectId, hcommits⟩ := hcommits
      obtain ⟨projects, hprojects⟩ := hsynced changed projectId hcommits
      have hrun := change.run_of_commits hsettled hcommits
      unfold SyncedRun at hrun
      rw [hprojects] at hrun
      obtain ⟨next, hrun, -⟩ := hrun
      unfold DependencyChange.run Program.outcome at hraised
      rw [hrun] at hraised
      cases hraised
    · have hnot : ∀ changed projectId,
          ¬ CommitsLinks services store change changed projectId :=
        fun changed projectId h => hcommits ⟨changed, projectId, h⟩
      obtain ⟨e, next, hrun, last, rfl, -, hprojects⟩ := change.run_of_not_commits hsettled hnot
      unfold DependencyChange.run Program.outcome
      rw [hrun]
      change last.projects.linksAndDates = _
      rw [hprojects]

/-! ## What a change leaves to be scheduled -/

theorem schedulable_iff_of_tasks {projects : ProjectStore} {projectId : String}
    (h : (projects.tasksOf projectId).tasks ≠ []) :
    Schedulable projects projectId ↔
      ¬ HasCycle (links (projects.dependenciesOf projectId)) ∧ projects.Dated projectId :=
  or_iff_right h

theorem schedulable_insertDependency {projects changed : ProjectStore} {dep : TaskDependency}
    {pred : Task} (hcheck : checkDependency dep projects = .ok pred)
    (hinsert : insertDependency dep projects = .ok changed) :
    Schedulable changed pred.projectId ↔
      ¬ HasCycle (links (projects.dependenciesOf pred.projectId)) ∧
        projects.Dated pred.projectId := by
  obtain ⟨hlinkable, hnot⟩ := checkDependency_ok hcheck
  obtain ⟨hsame, hdeps⟩ := insertDependency_dependenciesOf hlinkable hinsert
  have htasksOf : changed.tasksOf pred.projectId = projects.tasksOf pred.projectId := by
    unfold ProjectStore.tasksOf
    rw [hsame]
  have htasks : (changed.tasksOf pred.projectId).tasks ≠ [] :=
    List.ne_nil_of_mem (mem_tasksOf.mpr
      ⟨hsame ▸ (Table.get?_eq_some_iff.mp hlinkable.predecessor).1, rfl⟩)
  have hdated : changed.Dated pred.projectId ↔ projects.Dated pred.projectId := by
    unfold ProjectStore.Dated
    rw [htasksOf]
  rw [schedulable_iff_of_tasks htasks, hdeps, hdated]
  refine and_congr_left' (not_congr ⟨?_, ?_⟩)
  · intro hcycle
    by_contra hacyclic
    exact hnot ((hasCycle_cons_iff hacyclic).mp hcycle)
  · exact fun hcycle => hcycle.mono (List.subset_cons_self _ _)

theorem schedulable_deleteDependency {projects : ProjectStore} {depId projectId : String}
    (htasks : (projects.tasksOf projectId).tasks ≠ []) :
    Schedulable (deleteDependency depId projects) projectId ↔
      ¬ HasCycle (links ((projects.dependenciesOf projectId).filter fun row => row.id ≠ depId)) ∧
        projects.Dated projectId := by
  have hdeps : (deleteDependency depId projects).dependenciesOf projectId =
      (projects.dependenciesOf projectId).filter fun row => row.id ≠ depId :=
    List.filter_comm _ _ _
  have htasks' : ((deleteDependency depId projects).tasksOf projectId).tasks ≠ [] := htasks
  rw [schedulable_iff_of_tasks htasks', hdeps]
  rfl

theorem tasksOf_ne_nil_of_dependencyProject {projects : ProjectStore} {dep : TaskDependency}
    {projectId : String} (h : dependencyProject projects dep = some projectId) :
    (projects.tasksOf projectId).tasks ≠ [] := by
  obtain ⟨task, htask, rfl⟩ := Option.map_eq_some_iff.mp h
  have hmem : ∀ taskId, projects.tasks.get? taskId = some task →
      task ∈ (projects.tasksOf task.projectId).tasks :=
    fun taskId hget => mem_tasksOf.mpr ⟨(Table.get?_eq_some_iff.mp hget).1, rfl⟩
  rcases Option.or_eq_some_iff.mp htask with hpred | ⟨-, hsucc⟩
  · exact List.ne_nil_of_mem (hmem _ hpred)
  · exact List.ne_nil_of_mem (hmem _ hsucc)

theorem syncsCommits_add {dep : TaskDependency} {requestId : String} {bypassApproval : Bool} :
    SyncsCommits services store (.add dep requestId bypassApproval) ↔
      (DependencyChange.add dep requestId bypassApproval).DirectlySchedulable services store := by
  constructor
  · intro h pred hprepared hdirect hfresh hid
    have hinsert : insertDependency dep store.projects = .ok _ :=
      bind_eq_ok.mpr ⟨(), ensure_eq_ok.mpr hfresh, rfl⟩
    have hschedulable := (exists_syncedProjects_iff services.workCalendarEngine).mp
      (h _ _ (.add hprepared hdirect hinsert)) _ rfl hid
    exact (schedulable_insertDependency (prepareAddedDependency_ok hprepared) hinsert).mp
      hschedulable
  · intro h changed projectId hcommits
    cases hcommits with
    | add hprepared hdirect hinsert =>
        rw [exists_syncedProjects_iff]
        rintro id heq hid
        cases heq
        obtain ⟨_, hfresh, -⟩ := bind_ok hinsert
        exact (schedulable_insertDependency (prepareAddedDependency_ok hprepared) hinsert).mpr
          (h _ hprepared hdirect (ensure_eq_ok.mp hfresh) hid)

theorem syncsCommits_remove {depId requestId : String} {bypassApproval : Bool} :
    SyncsCommits services store (.remove depId requestId bypassApproval) ↔
      (DependencyChange.remove depId requestId bypassApproval).DirectlySchedulable services
        store := by
  constructor
  · intro h dep hprepared hdirect projectId hproject hid
    have hschedulable := (exists_syncedProjects_iff services.workCalendarEngine).mp
      (h _ _ (.remove hprepared hdirect)) _ hproject hid
    exact (schedulable_deleteDependency (tasksOf_ne_nil_of_dependencyProject hproject)).mp
      hschedulable
  · intro h changed projectId hcommits
    cases hcommits with
    | remove hprepared hdirect =>
        rw [exists_syncedProjects_iff]
        rintro id hproject hid
        exact (schedulable_deleteDependency (tasksOf_ne_nil_of_dependencyProject hproject)).mpr
          (h _ hprepared hdirect id hproject hid)

theorem syncsCommits_approve {requestId generatedId : String} {note : Option String} :
    SyncsCommits services store (.approve requestId note generatedId) ↔
      ∀ request change,
        requestToDecide services.toInventoryService "approve approval request" requestId store =
          .ok request →
        request.dependencyChange generatedId = some change →
        SyncsCommits services store change := by
  constructor
  · intro h request change hrequest hchange changed projectId hcommits
    exact h changed projectId (.approve hrequest hchange hcommits)
  · intro h changed projectId hcommits
    cases hcommits with
    | approve hrequest hchange hcommits => exact h _ _ hrequest hchange _ _ hcommits

end

/-- On a calendar with a working weekday, a change that raises is without effect exactly when it
commits no links or leaves a project that can be scheduled. -/
theorem dependencyChange_atomic_iff (calendar : WorkingCalendarRepository)
    (hproper : calendar.Proper) (others : ProjectManagementServices) (store : PlatformStore)
    (change : DependencyChange) (hsettled : store.addedBalances = []) :
    let services := { others with workCalendarEngine := ⟨calendar, hproper⟩ }
    change.Atomic services store ↔ change.KeepsSchedulable services store := by
  intro services
  rw [atomic_iff_syncsCommits change hsettled]
  cases change with
  | add dep requestId bypassApproval => exact syncsCommits_add
  | remove depId requestId bypassApproval => exact syncsCommits_remove
  | approve requestId note generatedId =>
      rw [syncsCommits_approve]
      refine forall₄_congr fun request change hrequest hchange => ?_
      cases change with
      | add dep requestId bypassApproval => exact syncsCommits_add
      | remove depId requestId bypassApproval => exact syncsCommits_remove
      | approve requestId note otherId => exact absurd hchange request.dependencyChange_ne

/-- Two tasks that have no dates yet. -/
def undatedOffice : PlatformStore :=
  { officeSite with
    projects :=
      { officeSite.projects with
        tasks := ⟨[{ id := "design", projectId := "office", name := "Design" },
          { id := "review", projectId := "office", name := "Review" }], by decide⟩ } }

def reviewLink : DependencyChange :=
  .add { id := "first", predecessorTaskId := "design", successorTaskId := "review" } "" false

theorem dependencyChange_atomic_iff_office :
    reviewLink.Atomic planner undatedOffice ↔ reviewLink.KeepsSchedulable planner undatedOffice :=
  dependencyChange_atomic_iff _ planner.workCalendarEngine.proper planner undatedOffice reviewLink
    rfl

/-- Without a date the schedule raises, and the link that was committed before stays. -/
theorem not_atomic_undatedOffice : ¬ reviewLink.Atomic planner undatedOffice := by
  intro hatomic
  have hkept := hatomic (by decide +kernel)
  revert hkept
  decide +kernel

end ProjectManager
