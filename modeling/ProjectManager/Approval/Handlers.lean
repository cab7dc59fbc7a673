import ProjectManager.Approval.Decisions
import ProjectManager.Procurement.Calls
import ProjectManager.Tasks.Rescheduling

/-! # The registered handlers

The handlers of the inventory and of the dependencies write requisitions, orders,
balances and schedules, and leave the requests alone.
-/

namespace ProjectManager

open Foundation ServiceProgram

section

variable {P : Table ApprovalRequest.id → Prop}

/-! ## Steps that leave the requests alone -/

theorem leaves_commit : ServiceProgram.commit.Keeps fun store => P store.approvals := by
  apply keeps_commit
  intro store next h hflush
  rw [flush_approvals hflush]
  exact h

theorem leaves_write {f : InventoryStore → Except DomainError InventoryStore} :
    (write f).Keeps fun store => P store.approvals :=
  keeps_write fun _ _ h _ => h

theorem leaves_writeProjects {f : ProjectStore → Except DomainError ProjectStore} :
    (writeProjects f).Keeps fun store => P store.approvals := by
  apply Program.keeps_step
  intro store next h hstep
  obtain ⟨projects, -, hstep⟩ := bind_ok hstep
  obtain rfl := Except.ok.inj hstep
  exact h

/-! ## Requisitions and orders -/

theorem decideRequisition_leaves (nextStatus : PurchaseRequisitionStatus)
    (lineStatus : PurchaseRequisitionLineStatus) :
    ApplyHandler.LeavesApprovals (decideRequisition nextStatus lineStatus) := by
  intro request P
  unfold decideRequisition
  refine keeps_read.bind fun requisition => ?_
  refine leaves_write.bind fun _ => ?_
  refine leaves_write.bind fun _ => ?_
  exact leaves_commit

theorem approveLine_leaves (service : InventoryService) (order : PurchaseOrder)
    (balanceId : String) (line : PurchaseOrderLine) :
    (approveLine service order balanceId line).Keeps fun store => P store.approvals := by
  have hstore : ∀ item, (storeOnOrder order item line balanceId).Keeps
      fun store => P store.approvals := by
    intro item
    apply Program.keeps_step
    intro store next h hstep
    obtain ⟨written, -, hstep⟩ := bind_ok hstep
    split at hstep <;> obtain rfl := Except.ok.inj hstep <;> exact h
  unfold approveLine
  refine leaves_write.bind fun _ => ?_
  refine keeps_read.bind fun item => ?_
  refine (hstore item).bind fun _ => ?_
  cases line.sourceLineId with
  | none => exact Program.keeps_pure
  | some requisitionLineId =>
      refine keeps_read.bind fun sourced => ?_
      exact leaves_write.bind fun _ => Program.keeps_pure

theorem applySubmittedPurchaseOrderApproval_leaves (service : InventoryService)
    (balanceId : String → String) :
    ApplyHandler.LeavesApprovals (applySubmittedPurchaseOrderApproval service balanceId) := by
  intro request P
  unfold applySubmittedPurchaseOrderApproval
  refine keeps_read.bind fun order => ?_
  refine leaves_write.bind fun _ => ?_
  refine keeps_read.bind fun lines => ?_
  refine Program.Keeps.bind ?_ fun touched => ?_
  · unfold approveLines
    exact Program.keeps_foldlM _ _ fun touched line _ =>
      (approveLine_leaves service order (balanceId line.id) line).bind fun _ => Program.keeps_pure
  · refine Program.Keeps.bind ?_ fun _ => leaves_commit
    exact Program.keeps_forM _ fun _ _ => leaves_write

theorem applySubmittedPurchaseOrderRejection_leaves :
    ApplyHandler.LeavesApprovals applySubmittedPurchaseOrderRejection := by
  intro request P
  unfold applySubmittedPurchaseOrderRejection
  refine keeps_read.bind fun order => ?_
  refine leaves_write.bind fun _ => ?_
  refine leaves_write.bind fun _ => ?_
  exact leaves_commit

/-! ## Dependencies -/

theorem recalculateStoredSchedule_leaves (calendar : WorkCalendarEngine) (projectId : String) :
    (recalculateStoredSchedule calendar projectId).Keeps fun store => P store.approvals := by
  unfold recalculateStoredSchedule
  refine keeps_read.bind fun infos => ?_
  cases infos.isEmpty with
  | true => exact Program.keeps_pure
  | false =>
      refine Program.Keeps.bind (Program.Keeps.rollingBack ?_) fun _ => Program.keeps_pure
      exact leaves_writeProjects.bind fun _ => leaves_commit

theorem syncProjectSchedule_leaves (calendar : WorkCalendarEngine) (projectId : Option String) :
    (syncProjectSchedule calendar projectId).Keeps fun store => P store.approvals := by
  cases projectId with
  | none => exact Program.keeps_pure
  | some projectId =>
      unfold syncProjectSchedule
      dsimp only
      by_cases hempty : projectId = ""
      · rw [if_pos hempty]
        exact Program.keeps_pure
      · rw [if_neg hempty]
        exact (recalculateStoredSchedule_leaves calendar projectId).bind fun _ =>
          Program.keeps_pure

theorem changeAndSync_leaves {f : ProjectStore → Except DomainError ProjectStore}
    (calendar : WorkCalendarEngine) (projectId : Option String) :
    (Program.rollingBack do
      writeProjects f
      ServiceProgram.commit
      syncProjectSchedule calendar projectId).Keeps fun store => P store.approvals :=
  Program.Keeps.rollingBack (leaves_writeProjects.bind fun _ => leaves_commit.bind fun _ =>
    syncProjectSchedule_leaves calendar projectId)

variable (services : ProjectManagementServices)

/-- Where the approval is bypassed, no change is requested. -/
theorem not_governed (operation : String) : services.governed operation true = false := rfl

theorem applyAddedDependency_leaves (generatedId : String) :
    ApplyHandler.LeavesApprovals (applyAddedDependency services generatedId) := by
  intro request P
  unfold applyAddedDependency
  split
  · refine Program.Keeps.bind ?_ fun _ => Program.keeps_pure
    unfold addDependency
    rw [not_governed]
    refine keeps_read.bind fun pred => ?_
    exact (changeAndSync_leaves _ _).bind fun _ => Program.keeps_pure
  · exact keeps_read

theorem applyRemovedDependency_leaves :
    ApplyHandler.LeavesApprovals (applyRemovedDependency services) := by
  intro request P
  unfold applyRemovedDependency
  split
  · unfold removeDependency
    rw [not_governed]
    refine keeps_read.bind fun dep => ?_
    refine keeps_read.bind fun projectId => ?_
    exact changeAndSync_leaves _ _
  · exact keeps_read

end

def registeredApplyHandlers (services : ProjectManagementServices) (balanceId : String → String)
    (generatedId requestType : String) : Option ApplyHandler :=
  (dependencyHandlers services generatedId requestType).or
    (procurementApplyHandlers services.toInventoryService balanceId requestType)

/-- The registered handlers of requisitions, orders and dependencies, without those of baselines
and costs. -/
def registeredHandlers (services : ProjectManagementServices) (balanceId : String → String)
    (generatedId : String) : RegisteredHandlers where
  apply := registeredApplyHandlers services balanceId generatedId
  reject := procurementRejectHandlers
  apply_leaves := by
    intro requestType handler h
    rcases Option.or_eq_some_iff.mp h with h | ⟨-, h⟩
    · unfold dependencyHandlers at h
      split at h
      · exact Option.some.inj h ▸ applyAddedDependency_leaves services generatedId
      · exact Option.some.inj h ▸ applyRemovedDependency_leaves services
      · cases h
    · obtain rfl | ⟨-, rfl⟩ := procurementApplyHandlers_cases h
      · exact decideRequisition_leaves .approved .open
      · exact applySubmittedPurchaseOrderApproval_leaves _ balanceId
  reject_leaves := by
    intro requestType handler h
    obtain rfl | rfl := procurementRejectHandlers_cases h
    · exact decideRequisition_leaves .rejected .rejected
    · exact applySubmittedPurchaseOrderRejection_leaves

/-! ## Requests that are decided -/

def requester : ApprovalUser where
  active := some {
    userId := "planner1"
    userId_ne := by decide
    username := "planner"
    permissions := ["approval.request", "approval.decide"] }
  now := 0

def approver : ApprovalUser where
  active := some {
    userId := "approver1"
    userId_ne := by decide
    username := "approver"
    permissions := ["approval.decide", "task.manage"] }
  now := 1

def officeHandlers : RegisteredHandlers :=
  registeredHandlers
    { approver.service with
      workCalendarEngine := weekdayCalendar
      isAdminSession := false
      isGovernanceRequired := fun _ => true } id "third"

def baselineRequest (requestId : String) : ApprovalCall :=
  .requestChange requester "baseline.create" "project_baseline" "office" (some "office") .empty
    requestId true

/-- The planner may decide requests, but not this one, which is the planner's own. -/
def requestedChanges : List ApprovalCall :=
  [baselineRequest "request1",
    .requestChange requester "dependency.remove" "task_dependency" "first" (some "office")
      (.removeDependency "first") "request2" true,
    .approveAndApply requester officeHandlers "request2" none,
    .approveAndApply approver officeHandlers "request2" none]

/-- The baseline is rejected and requested again. -/
def rejectedBaseline : List ApprovalCall :=
  [.reject approver officeHandlers "request1" (some "too early"), baselineRequest "request3"]

theorem approvalRun_sound_linkedOffice :
    let asked := sessionAfter ApprovalCall.run (.clean linkedOffice) (requestedChanges.take 3)
    let middle := sessionAfter ApprovalCall.run (.clean linkedOffice) requestedChanges
    let last := sessionAfter ApprovalCall.run (.clean linkedOffice)
      (requestedChanges ++ rejectedBaseline)
    (asked.committed.approvals.rows.map ApprovalRequest.status = [.pending, .pending] ∧
      asked.committed.projects.dependencies.ids = ["first"]) ∧
      (middle.committed.approvals.rows.map ApprovalRequest.status = [.approved, .pending] ∧
        middle.committed.projects.dependencies.ids = []) ∧
      last.committed.approvals.rows.map ApprovalRequest.status = [.pending, .approved, .rejected] ∧
      ApprovalsSound last.committed.approvals ∧
      KeepsDecided middle.pending.approvals last.committed.approvals := by
  have hnone : linkedOffice.approvals.rows = [] := by decide +kernel
  have hstart : ApprovalsSound linkedOffice.approvals := by
    constructor <;> simp [hnone]
  have hsound := approvalRun_sound requestedChanges rejectedBaseline linkedOffice hstart
  exact ⟨by decide +kernel, by decide +kernel, by decide +kernel, hsound.2.1, hsound.2.2.2⟩

end ProjectManager
