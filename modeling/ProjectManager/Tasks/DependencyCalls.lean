import ProjectManager.Tasks.Dependencies

/-! # What a change of dependencies leaves behind

On a session without open changes a change first commits the links and then
brings the schedule up to date. Each operation is described by the store that
it leaves, with the error that it raises.
-/

namespace ProjectManager

open Foundation ServiceProgram

/-- The store whose schedule was brought up to date. -/
def syncedProjects (calendar : WorkCalendarEngine) (projectId : Option String)
    (store : ProjectStore) : Except DomainError ProjectStore :=
  match projectId.filter (· ≠ "") with
  | none => .ok store
  | some projectId => do
      let infos ← storedSchedule calendar projectId store
      return saveSchedule infos store

namespace PlatformStore

def withProjects (store : PlatformStore) (projects : ProjectStore) : PlatformStore :=
  { store with projects := projects }

@[simp] theorem withProjects_projects (store : PlatformStore) (projects : ProjectStore) :
    (store.withProjects projects).projects = projects := rfl

end PlatformStore

section

variable {α : Type} {store : PlatformStore} (calendar : WorkCalendarEngine)

theorem commit_run (hsettled : store.addedBalances = []) (committed : PlatformStore) :
    ServiceProgram.commit ⟨committed, store⟩ = (.ok (), .clean store) := by
  unfold ServiceProgram.commit Program.commit
  rw [PlatformStore.flush_settled hsettled]

theorem readProjects_run {f : ProjectStore → Except DomainError α}
    {session : Session PlatformStore} {result : Except DomainError α}
    (h : f session.pending.projects = result) : readProjects f session = (result, session) :=
  congrArg (·, session) h

theorem writeProjects_of_ok {f : ProjectStore → Except DomainError ProjectStore}
    {projects : ProjectStore} (h : f store.projects = .ok projects) (committed : PlatformStore) :
    writeProjects f ⟨committed, store⟩ = (.ok (), ⟨committed, store.withProjects projects⟩) := by
  apply Program.step_of_ok
  change (f store.projects >>= _) = _
  rw [h]
  rfl

theorem writeProjects_of_error {f : ProjectStore → Except DomainError ProjectStore}
    {e : DomainError} (h : f store.projects = .error e) (committed : PlatformStore) :
    writeProjects f ⟨committed, store⟩ = (.error e, ⟨committed, store⟩) := by
  apply Program.step_of_error
  change (f store.projects >>= _) = _
  rw [h]
  rfl

theorem writeAndCommit_run {f : ProjectStore → Except DomainError ProjectStore}
    {projects : ProjectStore} (hsettled : store.addedBalances = [])
    (h : f store.projects = .ok projects) (committed : PlatformStore) :
    (do writeProjects f; ServiceProgram.commit) ⟨committed, store⟩ =
      (.ok (), .clean (store.withProjects projects)) := by
  rw [Program.bind_of_ok (writeProjects_of_ok h committed)]
  exact commit_run (show (store.withProjects projects).addedBalances = [] from hsettled) committed

theorem saveSchedule_nil (projects : ProjectStore) : saveSchedule [] projects = projects := rfl

theorem recalculateStoredSchedule_run (hsettled : store.addedBalances = []) (projectId : String) :
    recalculateStoredSchedule calendar projectId (.clean store) =
      match storedSchedule calendar projectId store.projects with
      | .ok infos => (.ok infos, .clean (store.withProjects (saveSchedule infos store.projects)))
      | .error e => (.error e, .clean store) := by
  unfold recalculateStoredSchedule
  cases hinfos : storedSchedule calendar projectId store.projects with
  | error e => exact Program.bind_of_error (readProjects_run hinfos)
  | ok infos =>
      rw [Program.bind_of_ok (readProjects_run hinfos)]
      cases infos with
      | nil => rfl
      | cons info rest =>
          rw [if_neg (by simp)]
          have hwrite := writeAndCommit_run (f := fun projects =>
            .ok (saveSchedule (info :: rest) projects)) hsettled rfl store
          exact Program.bind_of_ok (Program.rollingBack_of_ok hwrite)

theorem syncProjectSchedule_run (hsettled : store.addedBalances = [])
    (projectId : Option String) :
    syncProjectSchedule calendar projectId (.clean store) =
      match syncedProjects calendar projectId store.projects with
      | .ok projects => (.ok (), .clean (store.withProjects projects))
      | .error e => (.error e, .clean store) := by
  cases projectId with
  | none => rfl
  | some projectId =>
      have hrun := recalculateStoredSchedule_run calendar hsettled projectId
      unfold syncProjectSchedule syncedProjects
      by_cases hempty : projectId = ""
      · subst hempty
        rfl
      · have hfilter : (some projectId).filter (· ≠ "") = some projectId := by simp [hempty]
        dsimp only
        rw [if_neg hempty, hfilter]
        dsimp only
        cases hinfos : storedSchedule calendar projectId store.projects with
        | error e =>
            rw [hinfos] at hrun
            exact Program.bind_of_error hrun
        | ok infos =>
            rw [hinfos] at hrun
            exact Program.bind_of_ok hrun

/-- A change of the links that is committed before the schedule is brought up to date. -/
theorem changeAndSync_run {f : ProjectStore → Except DomainError ProjectStore}
    (hsettled : store.addedBalances = []) (projectId : Option String) :
    (Program.rollingBack do
      writeProjects f
      ServiceProgram.commit
      syncProjectSchedule calendar projectId) (.clean store) =
      match f store.projects with
      | .error e => (.error e, .clean store)
      | .ok changed =>
          match syncedProjects calendar projectId changed with
          | .ok projects => (.ok (), .clean (store.withProjects projects))
          | .error e => (.error e, .clean (store.withProjects changed)) := by
  cases hchanged : f store.projects with
  | error e =>
      exact Program.rollingBack_of_error
        (Program.bind_of_error (writeProjects_of_error hchanged store))
  | ok changed =>
      have hsettled' : (store.withProjects changed).addedBalances = [] := hsettled
      have hrun := syncProjectSchedule_run calendar hsettled' projectId
      rw [PlatformStore.withProjects_projects] at hrun
      have hprogram : (do
          writeProjects f
          ServiceProgram.commit
          syncProjectSchedule calendar projectId) (.clean store) =
          syncProjectSchedule calendar projectId (.clean (store.withProjects changed)) := by
        rw [Session.clean, Program.bind_of_ok (writeProjects_of_ok hchanged store),
          Program.bind_of_ok (commit_run hsettled' store)]
      dsimp only
      cases hsynced : syncedProjects calendar projectId changed with
      | error e =>
          rw [hsynced] at hrun
          exact Program.rollingBack_of_error (hprogram.trans hrun)
      | ok projects =>
          rw [hsynced] at hrun
          exact Program.rollingBack_of_ok (hprogram.trans hrun)

end

/-! ## The changes -/

/-- A change of the links: made at once or requested, or approved after it was requested. -/
inductive DependencyChange
  | add (dep : TaskDependency) (requestId : String) (bypassApproval : Bool)
  | remove (depId requestId : String) (bypassApproval : Bool)
  | approve (requestId : String) (note : Option String) (generatedId : String)

namespace DependencyChange

variable (services : ProjectManagementServices)

def program : DependencyChange → ServiceProgram Unit
  | .add dep requestId bypassApproval => do
      let _ ← addDependency services dep requestId bypassApproval
      return ()
  | .remove depId requestId bypassApproval =>
      removeDependency services depId requestId bypassApproval
  | .approve requestId note generatedId => do
      let _ ← approveAndApply services.toInventoryService (dependencyHandlers services generatedId)
        requestId note
      return ()

def run (change : DependencyChange) (session : Session PlatformStore) :
    Outcome DomainError PlatformStore :=
  (change.program services).outcome session

end DependencyChange

def ApprovalRequest.dependencyChange (request : ApprovalRequest) (generatedId : String) :
    Option DependencyChange :=
  match request.requestType, request.payload with
  | "dependency.add", .addDependency predecessorId successorId dependencyType lagDays =>
      some (.add
        { id := generatedId
          predecessorTaskId := predecessorId
          successorTaskId := successorId
          dependencyType := dependencyType
          lagDays := lagDays } "" true)
  | "dependency.remove", .removeDependency dependencyId => some (.remove dependencyId "" true)
  | _, _ => none

theorem ApprovalRequest.dependencyChange_ne (request : ApprovalRequest) {generatedId : String}
    {requestId : String} {note : Option String} {otherId : String} :
    request.dependencyChange generatedId ≠ some (.approve requestId note otherId) := by
  unfold ApprovalRequest.dependencyChange
  split <;> simp

/-- The change passes its checks and commits other links, with a project to bring up to date. -/
inductive CommitsLinks (services : ProjectManagementServices) (store : PlatformStore) :
    DependencyChange → ProjectStore → Option String → Prop
  | add {dep : TaskDependency} {requestId : String} {bypassApproval : Bool} {pred : Task}
      {changed : ProjectStore}
      (hprepared : prepareAddedDependency services dep bypassApproval store.projects = .ok pred)
      (hdirect : services.governed "dependency.add" bypassApproval = false)
      (hchanged : insertDependency dep store.projects = .ok changed) :
      CommitsLinks services store (.add dep requestId bypassApproval) changed
        (some pred.projectId)
  | remove {depId requestId : String} {bypassApproval : Bool} {dep : TaskDependency}
      (hprepared : prepareRemovedDependency services depId bypassApproval store.projects = .ok dep)
      (hdirect : services.governed "dependency.remove" bypassApproval = false) :
      CommitsLinks services store (.remove depId requestId bypassApproval)
        (deleteDependency depId store.projects) (dependencyProject store.projects dep)
  | approve {requestId generatedId : String} {note : Option String} {request : ApprovalRequest}
      {change : DependencyChange} {changed : ProjectStore} {projectId : Option String}
      (hrequest : requestToDecide services.toInventoryService "approve approval request" requestId
        store = .ok request)
      (hchange : request.dependencyChange generatedId = some change)
      (hcommits : CommitsLinks services store change changed projectId) :
      CommitsLinks services store (.approve requestId note generatedId) changed projectId

/-- The session after a change: without open changes, with the projects as given. -/
def LeavesProjects (projects : ProjectStore) (session : Session PlatformStore) : Prop :=
  ∃ store, session = .clean store ∧ store.addedBalances = [] ∧ store.projects = projects

section

variable {services : ProjectManagementServices} {store : PlatformStore}

theorem leavesProjects_clean (hsettled : store.addedBalances = []) :
    LeavesProjects store.projects (.clean store) :=
  ⟨store, rfl, hsettled, rfl⟩

theorem leavesProjects_withProjects (hsettled : store.addedBalances = [])
    (projects : ProjectStore) : LeavesProjects projects (.clean (store.withProjects projects)) :=
  ⟨_, rfl, hsettled, rfl⟩

variable (services) in
theorem requestGovernedChange_run {α : Type} (hsettled : store.addedBalances = [])
    (requestType entityType entityId : String) (projectId : Option String)
    (payload : ApprovalPayload) (subject requestId : String) :
    ∃ e next, (requestGovernedChange services requestType entityType entityId projectId payload
        subject requestId : ServiceProgram α) (.clean store) = (.error e, next) ∧
      LeavesProjects store.projects next := by
  unfold requestGovernedChange
  cases hrequest : requestChange services.toInventoryService requestType entityType entityId
      projectId requestId store payload with
  | error e =>
      have hread : (ServiceProgram.read fun current =>
          requestChange services.toInventoryService requestType entityType entityId projectId
            requestId current payload) (.clean store) = (.error e, .clean store) :=
        congrArg (·, Session.clean store) hrequest
      exact ⟨e, _, Program.bind_of_error hread, leavesProjects_clean hsettled⟩
  | ok request =>
      have hread : (ServiceProgram.read fun current =>
          requestChange services.toInventoryService requestType entityType entityId projectId
            requestId current payload) (.clean store) = (.ok request, .clean store) :=
        congrArg (·, Session.clean store) hrequest
      let next : PlatformStore := { store with approvals := store.approvals.insert request }
      refine ⟨approvalRequired subject request.id, .clean next, ?_, ⟨next, rfl, hsettled, rfl⟩⟩
      have hinsert : (Program.step fun current : PlatformStore =>
          Except.ok { current with approvals := current.approvals.insert request } :
          ServiceProgram Unit) (.clean store) = (.ok (), ⟨store, next⟩) := rfl
      rw [Program.bind_of_ok hread, Program.bind_of_ok hinsert]
      exact Program.bind_of_ok (commit_run (show next.addedBalances = [] from hsettled) store)

/-- The program raises and keeps the projects. -/
def RefusedRun (store : PlatformStore) (result : Except DomainError Unit × Session PlatformStore) :
    Prop :=
  ∃ e next, result = (.error e, next) ∧ LeavesProjects store.projects next

/-- The program returns with a schedule brought up to date, or raises and leaves the changed
links in place. -/
def SyncedRun (services : ProjectManagementServices) (changed : ProjectStore)
    (projectId : Option String) (result : Except DomainError Unit × Session PlatformStore) : Prop :=
  match syncedProjects services.workCalendarEngine projectId changed with
  | .ok projects => ∃ next, result = (.ok (), next) ∧ LeavesProjects projects next
  | .error e => ∃ next, result = (.error e, next) ∧ LeavesProjects changed next

theorem changeAndSync_synced {f : ProjectStore → Except DomainError ProjectStore}
    {changed : ProjectStore} (hsettled : store.addedBalances = [])
    (hchanged : f store.projects = .ok changed) (projectId : Option String) :
    SyncedRun services changed projectId ((Program.rollingBack do
      writeProjects f
      ServiceProgram.commit
      syncProjectSchedule services.workCalendarEngine projectId) (.clean store)) := by
  have hrun := changeAndSync_run (f := f) services.workCalendarEngine hsettled projectId
  rw [hchanged] at hrun
  dsimp only at hrun
  rw [hrun]
  unfold SyncedRun
  split
  · exact ⟨_, rfl, leavesProjects_withProjects hsettled _⟩
  · exact ⟨_, rfl, leavesProjects_withProjects hsettled _⟩

theorem changeAndSync_refused {f : ProjectStore → Except DomainError ProjectStore}
    {e : DomainError} (hsettled : store.addedBalances = [])
    (hchanged : f store.projects = .error e) (projectId : Option String) :
    RefusedRun store ((Program.rollingBack do
      writeProjects f
      ServiceProgram.commit
      syncProjectSchedule services.workCalendarEngine projectId) (.clean store)) := by
  have hrun := changeAndSync_run (f := f) services.workCalendarEngine hsettled projectId
  rw [hchanged] at hrun
  exact ⟨e, _, hrun, leavesProjects_clean hsettled⟩

namespace DependencyChange

theorem program_add {dep : TaskDependency} {requestId : String} {bypassApproval : Bool}
    {pred : Task} (hdirect : services.governed "dependency.add" bypassApproval = false)
    (hprepared : prepareAddedDependency services dep bypassApproval store.projects = .ok pred) :
    program services (.add dep requestId bypassApproval) (.clean store) =
      (Program.rollingBack do
        writeProjects (insertDependency dep)
        ServiceProgram.commit
        syncProjectSchedule services.workCalendarEngine (some pred.projectId)) (.clean store) := by
  rcases hresult : (Program.rollingBack do
    writeProjects (insertDependency dep)
    ServiceProgram.commit
    syncProjectSchedule services.workCalendarEngine (some pred.projectId)) (.clean store)
    with ⟨result, next⟩
  have hadd : addDependency services dep requestId bypassApproval (.clean store) =
      (result.map fun _ => dep, next) := by
    unfold addDependency
    rw [Program.bind_of_ok (readProjects_run hprepared), if_neg (by simp [hdirect])]
    exact Program.bind_pure_run (fun _ => dep) hresult
  refine (Program.bind_pure_run (fun _ => ()) hadd).trans ?_
  cases result <;> rfl

theorem program_remove {depId requestId : String} {bypassApproval : Bool} {dep : TaskDependency}
    (hdirect : services.governed "dependency.remove" bypassApproval = false)
    (hprepared :
      prepareRemovedDependency services depId bypassApproval store.projects = .ok dep) :
    program services (.remove depId requestId bypassApproval) (.clean store) =
      (Program.rollingBack do
        writeProjects fun projects => .ok (deleteDependency depId projects)
        ServiceProgram.commit
        syncProjectSchedule services.workCalendarEngine (dependencyProject store.projects dep))
        (.clean store) := by
  change removeDependency services depId requestId bypassApproval (.clean store) = _
  have hproject : readProjects (fun projects => .ok (dependencyProject projects dep))
      (.clean store) = (.ok (dependencyProject store.projects dep), .clean store) := rfl
  unfold removeDependency
  rw [Program.bind_of_ok (readProjects_run hprepared), Program.bind_of_ok hproject,
    if_neg (by simp [hdirect])]

theorem program_approve {requestId generatedId : String} {note : Option String}
    {request : ApprovalRequest} {handler : ApplyHandler} {result : Except DomainError Unit}
    {next : Session PlatformStore} {projects : ProjectStore}
    (hrequest : requestToDecide services.toInventoryService "approve approval request" requestId
      store = .ok request)
    (hhandler : dependencyHandlers services generatedId request.requestType = some handler)
    (hrun : handler request (.clean store) = (result, next))
    (hleaves : LeavesProjects projects next) :
    ∃ last, program services (.approve requestId note generatedId) (.clean store) = (result, last) ∧
      LeavesProjects projects last := by
  have hread : ServiceProgram.read (requestToDecide services.toInventoryService
      "approve approval request" requestId) (.clean store) = (.ok request, .clean store) :=
    congrArg (·, Session.clean store) hrequest
  have hregistered : ServiceProgram.read (fun _ => registeredHandler
      (dependencyHandlers services generatedId) request.requestType) (.clean store) =
      (.ok handler, .clean store) := by
    refine congrArg (·, Session.clean store) ?_
    exact require_eq_ok.mpr hhandler
  have happrove : ∃ last, approveAndApply services.toInventoryService
      (dependencyHandlers services generatedId) requestId note (.clean store) =
      (result.map fun _ => decidedRequest services.toInventoryService request .approved note,
        last) ∧ LeavesProjects projects last := by
    unfold approveAndApply
    rw [Program.bind_of_ok hread, Program.bind_of_ok hregistered]
    cases result with
    | error e => exact ⟨next, Program.bind_of_error hrun, hleaves⟩
    | ok u =>
        obtain ⟨left, rfl, hsettled, hprojects⟩ := hleaves
        let approved := decidedRequest services.toInventoryService request .approved note
        let last : PlatformStore := { left with approvals := left.approvals.upsert approved }
        have hupdate : updateRequest approved (.clean left) = (.ok (), ⟨left, last⟩) := rfl
        refine ⟨.clean last, ?_, ⟨last, rfl, hsettled, hprojects⟩⟩
        rw [Program.bind_of_ok hrun]
        change (updateRequest approved >>= _) (.clean left) = _
        rw [Program.bind_of_ok hupdate]
        exact Program.bind_of_ok (commit_run (show last.addedBalances = [] from hsettled) left)
  obtain ⟨last, happrove, hlast⟩ := happrove
  refine ⟨last, (Program.bind_pure_run (fun _ => ()) happrove).trans ?_, hlast⟩
  cases result <;> rfl

variable (services) in
theorem exists_handler {request : ApprovalRequest} {generatedId : String}
    {change : DependencyChange} (h : request.dependencyChange generatedId = some change) :
    ∃ handler, dependencyHandlers services generatedId request.requestType = some handler ∧
      handler request = program services change := by
  unfold ApprovalRequest.dependencyChange at h
  split at h
  next htype hpayload =>
    cases h
    refine ⟨applyAddedDependency services generatedId, by rw [htype]; rfl, ?_⟩
    unfold applyAddedDependency
    rw [hpayload]
    rfl
  next htype hpayload =>
    cases h
    refine ⟨applyRemovedDependency services, by rw [htype]; rfl, ?_⟩
    unfold applyRemovedDependency
    rw [hpayload]
    rfl
  next => cases h

/-- A change that commits links leaves them with their schedule, or raises behind them. -/
theorem run_of_commits {change : DependencyChange} {changed : ProjectStore}
    {projectId : Option String} (hsettled : store.addedBalances = [])
    (h : CommitsLinks services store change changed projectId) :
    SyncedRun services changed projectId (change.program services (.clean store)) := by
  induction h with
  | add hprepared hdirect hchanged =>
      rw [program_add hdirect hprepared]
      exact changeAndSync_synced hsettled hchanged _
  | @remove depId _ _ dep hprepared hdirect =>
      rw [program_remove hdirect hprepared]
      exact changeAndSync_synced (f := fun projects => .ok (deleteDependency depId projects))
        hsettled rfl _
  | approve hrequest hchange hcommits ih =>
      obtain ⟨handler, hhandler, hprogram⟩ := exists_handler services hchange
      unfold SyncedRun at ih ⊢
      split at ih
      · obtain ⟨next, hrun, hleaves⟩ := ih
        exact program_approve hrequest hhandler (by rw [hprogram, hrun]) hleaves
      · obtain ⟨next, hrun, hleaves⟩ := ih
        exact program_approve hrequest hhandler (by rw [hprogram, hrun]) hleaves

/-- Without a change to make, a handler raises and keeps the projects. -/
theorem handler_refuses {request : ApprovalRequest} {generatedId : String}
    {handler : ApplyHandler} (hsettled : store.addedBalances = [])
    (h : request.dependencyChange generatedId = none)
    (hhandler : dependencyHandlers services generatedId request.requestType = some handler) :
    RefusedRun store (handler request (.clean store)) := by
  have hraise : ∀ e, RefusedRun store ((raise e : ServiceProgram Unit) (.clean store)) :=
    fun e => ⟨e, _, rfl, leavesProjects_clean hsettled⟩
  unfold dependencyHandlers at hhandler
  unfold ApprovalRequest.dependencyChange at h
  split at hhandler
  next htype =>
    cases hhandler
    unfold applyAddedDependency
    rw [htype] at h
    cases hpayload : request.payload with
    | empty => exact hraise _
    | addDependency =>
        rw [hpayload] at h
        cases h
    | removeDependency => exact hraise _
  next htype =>
    cases hhandler
    unfold applyRemovedDependency
    rw [htype] at h
    cases hpayload : request.payload with
    | empty => exact hraise _
    | addDependency => exact hraise _
    | removeDependency =>
        rw [hpayload] at h
        cases h
  next => cases hhandler

theorem program_add_refused {dep : TaskDependency} {requestId : String} {bypassApproval : Bool}
    (hsettled : store.addedBalances = []) (h : ∀ changed projectId,
      ¬ CommitsLinks services store (.add dep requestId bypassApproval) changed projectId) :
    RefusedRun store (program services (.add dep requestId bypassApproval) (.clean store)) := by
  cases hprepared : prepareAddedDependency services dep bypassApproval store.projects with
  | error e =>
      refine ⟨e, _, ?_, leavesProjects_clean hsettled⟩
      exact Program.bind_of_error (Program.bind_of_error (readProjects_run hprepared))
  | ok pred =>
      cases hdirect : services.governed "dependency.add" bypassApproval with
      | true =>
          obtain ⟨e, next, hrequest, hleaves⟩ := requestGovernedChange_run (α := TaskDependency)
            services hsettled "dependency.add" "task_dependency" dep.successorTaskId
            (some pred.projectId) (.addDependency dep.predecessorTaskId dep.successorTaskId
              dep.dependencyType dep.lagDays) "dependency change" requestId
          refine ⟨e, next, Program.bind_of_error ?_, hleaves⟩
          unfold addDependency
          rw [Program.bind_of_ok (readProjects_run hprepared), if_pos hdirect]
          exact hrequest
      | false =>
          rw [program_add hdirect hprepared]
          cases hchanged : insertDependency dep store.projects with
          | error e => exact changeAndSync_refused hsettled hchanged _
          | ok changed => exact absurd (.add hprepared hdirect hchanged) (h changed _)

theorem program_remove_refused {depId requestId : String} {bypassApproval : Bool}
    (hsettled : store.addedBalances = []) (h : ∀ changed projectId,
      ¬ CommitsLinks services store (.remove depId requestId bypassApproval) changed projectId) :
    RefusedRun store (program services (.remove depId requestId bypassApproval) (.clean store)) := by
  change RefusedRun store (removeDependency services depId requestId bypassApproval (.clean store))
  cases hprepared : prepareRemovedDependency services depId bypassApproval store.projects with
  | error e =>
      refine ⟨e, _, ?_, leavesProjects_clean hsettled⟩
      exact Program.bind_of_error (readProjects_run hprepared)
  | ok dep =>
      cases hdirect : services.governed "dependency.remove" bypassApproval with
      | true =>
          have hproject : readProjects (fun projects => .ok (dependencyProject projects dep))
              (.clean store) = (.ok (dependencyProject store.projects dep), .clean store) := rfl
          unfold removeDependency
          rw [Program.bind_of_ok (readProjects_run hprepared), Program.bind_of_ok hproject,
            if_pos hdirect]
          exact requestGovernedChange_run services hsettled _ _ _ _ _ _ _
      | false => exact absurd (.remove hprepared hdirect) (h _ _)

theorem program_approve_refused {requestId generatedId : String} {note : Option String}
    (hsettled : store.addedBalances = []) (h : ∀ changed projectId,
      ¬ CommitsLinks services store (.approve requestId note generatedId) changed projectId) :
    RefusedRun store
      (program services (.approve requestId note generatedId) (.clean store)) := by
  -- A handler that makes a change is refused as the change is, since it would commit no links.
  have hrefuses : ∀ request handler, requestToDecide services.toInventoryService
      "approve approval request" requestId store = .ok request →
      dependencyHandlers services generatedId request.requestType = some handler →
      RefusedRun store (handler request (.clean store)) := by
    intro request handler hrequest hhandler
    cases hchange : request.dependencyChange generatedId with
    | none => exact handler_refuses hsettled hchange hhandler
    | some change =>
        have hnot : ∀ changed projectId,
            ¬ CommitsLinks services store change changed projectId :=
          fun changed projectId hcommits =>
            h changed projectId (.approve hrequest hchange hcommits)
        obtain ⟨other, hother, hprogram⟩ := exists_handler services hchange
        obtain rfl := Option.some.inj (hother.symm.trans hhandler)
        rw [hprogram]
        cases change with
        | add dep requestId bypassApproval => exact program_add_refused hsettled hnot
        | remove depId requestId bypassApproval => exact program_remove_refused hsettled hnot
        | approve requestId note generatedId => exact absurd hchange request.dependencyChange_ne
  cases hrequest : requestToDecide services.toInventoryService "approve approval request" requestId
      store with
  | error e =>
      have hread : ServiceProgram.read (requestToDecide services.toInventoryService
          "approve approval request" requestId) (.clean store) = (.error e, .clean store) :=
        congrArg (·, Session.clean store) hrequest
      refine ⟨e, _, ?_, leavesProjects_clean hsettled⟩
      exact Program.bind_of_error (Program.bind_of_error hread)
  | ok request =>
      have hread : ServiceProgram.read (requestToDecide services.toInventoryService
          "approve approval request" requestId) (.clean store) = (.ok request, .clean store) :=
        congrArg (·, Session.clean store) hrequest
      cases hhandler : dependencyHandlers services generatedId request.requestType with
      | none =>
          obtain ⟨e, hmissing⟩ : ∃ e, registeredHandler (dependencyHandlers services generatedId)
              request.requestType = .error e := by
            unfold registeredHandler
            rw [hhandler]
            exact ⟨_, rfl⟩
          have hregistered : ServiceProgram.read (fun _ => registeredHandler
              (dependencyHandlers services generatedId) request.requestType) (.clean store) =
              (.error e, .clean store) := congrArg (·, Session.clean store) hmissing
          refine ⟨e, .clean store, Program.bind_of_error ?_, leavesProjects_clean hsettled⟩
          unfold approveAndApply
          rw [Program.bind_of_ok hread]
          exact Program.bind_of_error hregistered
      | some handler =>
          obtain ⟨e, next, hrun, hleaves⟩ := hrefuses request handler hrequest hhandler
          obtain ⟨last, hprogram, hlast⟩ := program_approve hrequest hhandler hrun hleaves
          exact ⟨e, last, hprogram, hlast⟩

theorem run_of_not_commits (change : DependencyChange) (hsettled : store.addedBalances = [])
    (h : ∀ changed projectId, ¬ CommitsLinks services store change changed projectId) :
    RefusedRun store (change.program services (.clean store)) := by
  cases change with
  | add dep requestId bypassApproval => exact program_add_refused hsettled h
  | remove depId requestId bypassApproval => exact program_remove_refused hsettled h
  | approve requestId note generatedId => exact program_approve_refused hsettled h

end DependencyChange

end

end ProjectManager
