import ProjectManager.Tasks.Progress
import ProjectManager.Tasks.SoundDependencies

/-! # Runs of planning calls

Tasks are created and deleted, and links are added and removed, at once or on
approval. From the empty project every run keeps the links sound, so that the
schedule is never refused for a cycle.
-/

namespace ProjectManager

open Foundation ServiceProgram

inductive PlanningCall
  | changeLinks (change : DependencyChange)
  | createTask (id : String) (arguments : CreateTaskArguments)
  | deleteTask (taskId : String)

def PlanningCall.program (services : ProjectManagementServices) :
    PlanningCall → ServiceProgram Unit
  | .changeLinks change => change.program services
  | .createTask id arguments => do
      let _ ← createStoredTask services id arguments
      return ()
  | .deleteTask taskId => deleteStoredTask services taskId

/-- One call, made by the current user of the services. -/
def runPlanningCall (call : ProjectManagementServices × PlanningCall)
    (session : Session PlatformStore) : Outcome DomainError PlatformStore :=
  (call.2.program call.1).outcome session

/-- No call is waiting to be committed, and the links are sound. -/
def PlanningSettled (session : Session PlatformStore) : Prop :=
  ∃ projects, LeavesProjects projects session ∧ DependenciesSound projects

section

variable {services : ProjectManagementServices} {store : PlatformStore}

theorem prepareAddedDependency_ok {dep : TaskDependency} {bypassApproval : Bool}
    {projects : ProjectStore} {pred : Task}
    (h : prepareAddedDependency services dep bypassApproval projects = .ok pred) :
    checkDependency dep projects = .ok pred := by
  obtain ⟨found, hfound, h⟩ := bind_ok h
  obtain ⟨succ, -, h⟩ := bind_ok h
  iterate 2 obtain ⟨_, -, h⟩ := bind_ok h
  obtain ⟨diagnostic, hdiagnostic, h⟩ := bind_ok h
  obtain ⟨_, hvalid, h⟩ := bind_ok h
  obtain rfl := Except.ok.inj h
  obtain ⟨other, hcheck⟩ := checkDependency_of_valid hdiagnostic (ensure_eq_ok.mp hvalid)
  have hother := (checkDependency_ok hcheck).1.predecessor
  rw [hcheck, Option.some.inj (hother.symm.trans (require_eq_ok.mp hfound))]

theorem CommitsLinks.sound {change : DependencyChange} {changed : ProjectStore}
    {projectId : Option String} (h : CommitsLinks services store change changed projectId)
    (hsound : DependenciesSound store.projects) : DependenciesSound changed := by
  induction h with
  | add hprepared hdirect hchanged =>
      exact hsound.insertDependency (prepareAddedDependency_ok hprepared) hchanged
  | remove hprepared hdirect => exact hsound.deleteDependency _
  | approve hrequest hchange hcommits ih => exact ih

/-! ## One call -/

theorem outcome_of_run {program : ServiceProgram Unit} {session next : Session PlatformStore}
    {result : Except DomainError Unit} (h : program session = (result, next)) :
    (program.outcome session).2 = next := by
  unfold Program.outcome
  rw [h]
  cases result <;> rfl

theorem changeLinks_settled (hsettled : store.addedBalances = [])
    (hsound : DependenciesSound store.projects) (change : DependencyChange) :
    PlanningSettled (runPlanningCall (services, .changeLinks change) (.clean store)).2 := by
  change PlanningSettled ((change.program services).outcome (.clean store)).2
  by_cases hcommits : ∃ changed projectId, CommitsLinks services store change changed projectId
  · obtain ⟨changed, projectId, hcommits⟩ := hcommits
    have hchanged := hcommits.sound hsound
    have hrun := change.run_of_commits hsettled hcommits
    unfold SyncedRun at hrun
    split at hrun
    next projects hsynced =>
      obtain ⟨next, hrun, hleaves⟩ := hrun
      rw [outcome_of_run hrun]
      exact ⟨projects, hleaves, hchanged.syncedProjects hsynced⟩
    next =>
      obtain ⟨next, hrun, hleaves⟩ := hrun
      rw [outcome_of_run hrun]
      exact ⟨changed, hleaves, hchanged⟩
  · have hnot : ∀ changed projectId,
        ¬ CommitsLinks services store change changed projectId :=
      fun changed projectId h => hcommits ⟨changed, projectId, h⟩
    obtain ⟨e, next, hrun, hleaves⟩ := change.run_of_not_commits hsettled hnot
    rw [outcome_of_run hrun]
    exact ⟨store.projects, hleaves, hsound⟩

theorem createStoredTask_settled (hsettled : store.addedBalances = [])
    (hsound : DependenciesSound store.projects) (id : String) (arguments : CreateTaskArguments) :
    PlanningSettled (runPlanningCall (services, .createTask id arguments) (.clean store)).2 := by
  change PlanningSettled ((PlanningCall.program services (.createTask id arguments)).outcome
    (.clean store)).2
  cases hcreated : createTask (services.taskService store.projects) store.projects.tasks id
      arguments with
  | error e =>
      have hread : createStoredTask services id arguments (.clean store) =
          (.error e, .clean store) := Program.bind_of_error (readProjects_run hcreated)
      have hcall : PlanningCall.program services (.createTask id arguments) (.clean store) =
          (.error e, .clean store) := Program.bind_of_error hread
      rw [outcome_of_run hcall]
      exact ⟨_, leavesProjects_clean hsettled, hsound⟩
  | ok created =>
      obtain ⟨task, tasks⟩ := created
      obtain ⟨rfl, hfresh, -⟩ := createTask_ok hcreated
      let projects : ProjectStore :=
        { store.projects with tasks := store.projects.tasks.insert task }
      let next : Session PlatformStore := .clean (store.withProjects projects)
      have hwrite := writeAndCommit_run (f := fun current =>
        .ok { current with tasks := store.projects.tasks.insert task }) hsettled rfl store
      have hcreate : createStoredTask services id arguments (.clean store) = (.ok task, next) := by
        unfold createStoredTask
        rw [Program.bind_of_ok (readProjects_run hcreated)]
        exact Program.bind_of_ok (Program.rollingBack_of_ok hwrite)
      have hcall : PlanningCall.program services (.createTask id arguments) (.clean store) =
          (.ok (), next) := Program.bind_of_ok hcreate
      rw [outcome_of_run hcall]
      exact ⟨projects, leavesProjects_withProjects hsettled _, hsound.insertTask hfresh⟩

theorem deleteStoredTask_settled (hsettled : store.addedBalances = [])
    (hsound : DependenciesSound store.projects) (taskId : String) :
    PlanningSettled (runPlanningCall (services, .deleteTask taskId) (.clean store)).2 := by
  change PlanningSettled ((deleteStoredTask services taskId).outcome (.clean store)).2
  cases hprepared : prepareDeletedTask services taskId store.projects with
  | error e =>
      have hdelete : deleteStoredTask services taskId (.clean store) =
          (.error e, .clean store) := Program.bind_of_error (readProjects_run hprepared)
      rw [outcome_of_run hdelete]
      exact ⟨_, leavesProjects_clean hsettled, hsound⟩
  | ok task =>
      let next : Session PlatformStore :=
        .clean (store.withProjects (deleteRowsOfTask task store.projects))
      have hwrite := writeAndCommit_run (f := fun projects =>
        .ok (deleteRowsOfTask task projects)) hsettled rfl store
      have hdelete : deleteStoredTask services taskId (.clean store) = (.ok (), next) := by
        unfold deleteStoredTask
        rw [Program.bind_of_ok (readProjects_run hprepared)]
        exact Program.rollingBack_of_ok hwrite
      rw [outcome_of_run hdelete]
      exact ⟨_, leavesProjects_withProjects hsettled _, hsound.deleteRowsOfTask task⟩

end

theorem runPlanningCall_settled (session : Session PlatformStore)
    (call : ProjectManagementServices × PlanningCall) (h : PlanningSettled session) :
    PlanningSettled (runPlanningCall call session).2 := by
  obtain ⟨projects, ⟨store, rfl, hsettled, rfl⟩, hsound⟩ := h
  obtain ⟨services, call⟩ := call
  cases call with
  | changeLinks change => exact changeLinks_settled hsettled hsound change
  | createTask id arguments => exact createStoredTask_settled hsettled hsound id arguments
  | deleteTask taskId => exact deleteStoredTask_settled hsettled hsound taskId

/-! ## Runs from the empty project -/

structure NothingPlanned (store : ProjectStore) : Prop where
  tasks : store.tasks.rows = []
  dependencies : store.dependencies.rows = []

theorem NothingPlanned.sound {store : ProjectStore} (h : NothingPlanned store) :
    DependenciesSound store := by
  constructor
  · rw [h.dependencies]
    exact fun _ hdep => absurd hdep List.not_mem_nil
  · rw [h.dependencies]
    exact List.nodup_nil
  · rw [h.dependencies]
    rintro ⟨node, hcycle⟩
    obtain ⟨next, hedge, -⟩ := Relation.TransGen.head'_iff.mp hcycle
    exact absurd hedge List.not_mem_nil

/-- In every state that a run reaches from the empty project, the stored links join different
tasks of one project, none is stored twice and none close a cycle. The schedule is never refused
for a cycle, and a proposed link between two tasks is reported as a cycle exactly when it would
close one; a link from a task to itself is reported as such. -/
theorem planningRun_dependenciesSound (calls : List (ProjectManagementServices × PlanningCall))
    (store : PlatformStore) (hsettled : store.addedBalances = [])
    (hnothing : NothingPlanned store.projects) :
    let last := (sessionAfter runPlanningCall (.clean store) calls).committed
    let stored := last.projects.dependencies.rows
    (∀ dep ∈ stored, dep.predecessorTaskId ≠ dep.successorTaskId) ∧
      (links stored).Nodup ∧
      (∀ dep ∈ stored, ∃ projectId,
        last.projects.projectOf dep.predecessorTaskId = some projectId ∧
          last.projects.projectOf dep.successorTaskId = some projectId) ∧
      ¬ HasCycle (links stored) ∧
      (∀ calendar projectId,
        (recalculateStoredSchedule calendar projectId (.clean last)).1 ≠ .error scheduleCycle) ∧
      ∀ dep calendar includeImpact,
        (dep.predecessorTaskId = dep.successorTaskId →
          ∃ diagnostic, getDependencyDiagnostics dep calendar includeImpact last.projects =
            .ok diagnostic ∧ diagnostic.code = "DEPENDENCY_SELF") ∧
        (dep.predecessorTaskId ≠ dep.successorTaskId →
          ((∃ diagnostic, getDependencyDiagnostics dep calendar includeImpact last.projects =
              .ok diagnostic ∧ diagnostic.code = "DEPENDENCY_CYCLE") ↔
            HasCycle (links (dep :: stored)))) := by
  have hstep : ∀ session call, True → PlanningSettled session →
      PlanningSettled (runPlanningCall call session).2 :=
    fun session call _ => runPlanningCall_settled session call
  obtain ⟨projects, ⟨last, hlast, hlastSettled, rfl⟩, hsound⟩ := sessionAfter_invariant hstep
    calls (eachCall_of_forall (fun _ _ => trivial) calls _)
    ⟨_, leavesProjects_clean hsettled, hnothing.sound⟩
  rw [hlast]
  refine ⟨hsound.noSelfLink, hsound.noDuplicates, hsound.sameProject, hsound.noCycle, ?_, ?_⟩
  · intro calendar projectId
    have hacyclic : ¬ HasCycle (links (last.projects.dependenciesOf projectId)) :=
      fun hcycle => hsound.noCycle (hcycle.mono (links_dependenciesOf_subset projectId))
    have hcycle := storedSchedule_ne_cycle calendar hacyclic
    rw [Session.clean_committed, recalculateStoredSchedule_run calendar hlastSettled]
    split
    · simp
    next herror =>
      intro heq
      exact hcycle (herror.trans heq)
  · intro dep calendar includeImpact
    constructor
    · intro hself
      exact diagnostics_selfLink hself
    · intro hdistinct
      rw [diagnostics_cycle_iff]
      exact (hsound.closes_cycle_iff hdistinct).symm

/-! ## A small plan -/

/-- A platform with one project and nothing planned in it. -/
def officeSite : PlatformStore where
  sites := .empty
  parties := .empty
  approvals := .empty
  inventory := .empty
  projects := { projects := ⟨[{ id := "office", name := "Office" }], by decide⟩ }

/-- A manager who may do everything, in a week without holidays. -/
def planner : ProjectManagementServices where
  userSession := .admin
  principal := none
  activeOrganization := some "org"
  today := 8
  workCalendarEngine := weekdayCalendar
  isAdminSession := true
  isGovernanceRequired := fun _ => true

def officeTask (id name : String) (days : ℤ) : ProjectManagementServices × PlanningCall :=
  (planner, .createTask id
    { projectId := "office", name := name, startDate := some 8, durationDays := some days })

def officeLink (id predecessorId successorId : String) :
    ProjectManagementServices × PlanningCall :=
  (planner, .changeLinks (.add
    { id := id, predecessorTaskId := predecessorId, successorTaskId := successorId } "" false))

/-- Design before review, and review before design, which is refused. -/
def officePlan : List (ProjectManagementServices × PlanningCall) :=
  [officeTask "design" "Design" 3, officeTask "review" "Review" 1,
    officeLink "first" "design" "review", officeLink "second" "review" "design"]

/-- The second link is refused, and the first is stored. -/
example :
    let last := (sessionAfter runPlanningCall (.clean officeSite) officePlan).committed
    last.projects.dependencies.ids = ["first"] := by
  decide +kernel

theorem planningRun_dependenciesSound_office :
    let last := (sessionAfter runPlanningCall (.clean officeSite) officePlan).committed
    let stored := last.projects.dependencies.rows
    (∀ dep ∈ stored, dep.predecessorTaskId ≠ dep.successorTaskId) ∧
      (links stored).Nodup ∧
      (∀ dep ∈ stored, ∃ projectId,
        last.projects.projectOf dep.predecessorTaskId = some projectId ∧
          last.projects.projectOf dep.successorTaskId = some projectId) ∧
      ¬ HasCycle (links stored) ∧
      (∀ calendar projectId,
        (recalculateStoredSchedule calendar projectId (.clean last)).1 ≠ .error scheduleCycle) ∧
      ∀ dep calendar includeImpact,
        (dep.predecessorTaskId = dep.successorTaskId →
          ∃ diagnostic, getDependencyDiagnostics dep calendar includeImpact last.projects =
            .ok diagnostic ∧ diagnostic.code = "DEPENDENCY_SELF") ∧
        (dep.predecessorTaskId ≠ dep.successorTaskId →
          ((∃ diagnostic, getDependencyDiagnostics dep calendar includeImpact last.projects =
              .ok diagnostic ∧ diagnostic.code = "DEPENDENCY_CYCLE") ↔
            HasCycle (links (dep :: stored)))) :=
  planningRun_dependenciesSound officePlan officeSite rfl ⟨rfl, rfl⟩

/-- A link from a task to itself closes a cycle, and is not reported as one. -/
theorem not_reportsCycle_selfLink :
    let last := (sessionAfter runPlanningCall (.clean officeSite) officePlan).committed
    let selfLink : TaskDependency :=
      { id := "third", predecessorTaskId := "design", successorTaskId := "design" }
    (last.projects.tasks.get? "design").isSome ∧
      ¬ ((∃ diagnostic, getDependencyDiagnostics selfLink weekdayCalendar true last.projects =
            .ok diagnostic ∧ diagnostic.code = "DEPENDENCY_CYCLE") ↔
          HasCycle (links (selfLink :: last.projects.dependencies.rows))) := by
  refine ⟨by decide +kernel, ?_⟩
  intro hreported
  obtain ⟨diagnostic, hdiagnostic, hcode⟩ :=
    hreported.mpr ⟨"design", .single List.mem_cons_self⟩
  obtain rfl := Except.ok.inj hdiagnostic
  exact absurd hcode (by decide)

end ProjectManager
