import ProjectManager.Approval.Service
import ProjectManager.Auth.Domain

/-! # Runs of the approval service

Users request changes, and others approve or reject them. A request waits alone for
its entity, is decided once, and never by the user who made it. What the handlers do
besides, and whether they raise, does not matter as long as they leave the requests
alone.
-/

namespace ProjectManager

open Foundation

/-- The handler writes no request, however it ends. -/
def ApplyHandler.LeavesApprovals (handler : ApplyHandler) : Prop :=
  ∀ (request : ApprovalRequest) (P : Table ApprovalRequest.id → Prop),
    (handler request).Keeps fun store => P store.approvals

structure RegisteredHandlers where
  apply : String → Option ApplyHandler
  reject : String → Option ApplyHandler
  apply_leaves : ∀ {requestType handler}, apply requestType = some handler →
    handler.LeavesApprovals
  reject_leaves : ∀ {requestType handler}, reject requestType = some handler →
    handler.LeavesApprovals

/-! ## Calls -/

/-- What the approval service sees of the session of the caller. -/
structure ApprovalUser where
  active : Option UserSessionPrincipal
  now : Moment

def ApprovalUser.service (user : ApprovalUser) : InventoryService where
  userSession := sessionAuthorizationEngine user.active
  principal := user.active.map fun principal => (principal.userId, principal.username)
  activeOrganization := none
  today := user.now.date
  now := user.now

inductive ApprovalCall
  | requestChange (user : ApprovalUser) (requestType entityType entityId : String)
      (projectId : Option String) (payload : ApprovalPayload) (requestId : String) (commit : Bool)
  | approveAndApply (user : ApprovalUser) (handlers : RegisteredHandlers) (requestId : String)
      (note : Option String)
  | reject (user : ApprovalUser) (handlers : RegisteredHandlers) (requestId : String)
      (note : Option String)

namespace ApprovalCall

def program : ApprovalCall → ServiceProgram ApprovalRequest
  | requestChange user requestType entityType entityId projectId payload requestId commit =>
      requestAndAdd user.service requestType entityType entityId projectId requestId payload commit
  | approveAndApply user handlers requestId note =>
      ProjectManager.approveAndApply user.service handlers.apply requestId note
  | reject user handlers requestId note =>
      ProjectManager.reject user.service handlers.reject requestId note

def run (call : ApprovalCall) (session : Session PlatformStore) :
    Outcome DomainError PlatformStore :=
  call.program.outcome session

end ApprovalCall

/-! ## Requests that are sound -/

def ApprovalRequest.Decided (request : ApprovalRequest) : Prop := request.status ≠ .pending

/-- A decision names who made it and when, and it is not the requester's own. -/
structure ApprovalRequest.FairlyDecided (request : ApprovalRequest) : Prop where
  decider : ∃ userId username,
    request.decidedByUserId = some userId ∧ request.decidedByUsername = some username
  decidedAt : ∃ moment, request.decidedAt = some moment
  separate : request.requestedByUserId ≠ request.decidedByUserId

structure ApprovalsSound (approvals : Table ApprovalRequest.id) : Prop where
  pendingOnce : ∀ first ∈ approvals.rows, ∀ second ∈ approvals.rows,
    first.status = .pending → second.status = .pending → first.entityType = second.entityType →
      first.entityId = second.entityId → first = second
  decided : ∀ request ∈ approvals.rows, request.Decided → request.FairlyDecided

theorem approvalsSound_empty : ApprovalsSound .empty :=
  ⟨fun _ h => (nomatch h), fun _ h => (nomatch h)⟩

def KeepsDecided (before after : Table ApprovalRequest.id) : Prop :=
  ∀ request ∈ before.rows, request.Decided → request ∈ after.rows

section

variable {approvals : Table ApprovalRequest.id} {request : ApprovalRequest} {user : ApprovalUser}

theorem keepsDecided_insert : KeepsDecided approvals (approvals.insert request) := by
  intro other hother _
  unfold Table.insert
  split
  · exact hother
  · exact List.mem_cons_of_mem _ hother

theorem ApprovalsSound.insert (h : ApprovalsSound approvals) (hpending : request.status = .pending)
    (hnone : ∀ other ∈ approvals.rows, other.status = .pending →
      other.entityType = request.entityType → other.entityId ≠ request.entityId) :
    ApprovalsSound (approvals.insert request) := by
  refine ⟨?_, ?_⟩
  · intro first hfirst second hsecond hpendingFirst hpendingSecond htype hentity
    rcases Table.mem_insert hfirst with rfl | hstored
    · rcases Table.mem_insert hsecond with rfl | hsecond
      · rfl
      · exact absurd hentity.symm (hnone second hsecond hpendingSecond htype.symm)
    · rcases Table.mem_insert hsecond with rfl | hsecond
      · exact absurd hentity (hnone first hstored hpendingFirst htype)
      · exact h.pendingOnce first hstored second hsecond hpendingFirst hpendingSecond htype hentity
  · intro other hother hdecided
    rcases Table.mem_insert hother with rfl | hother
    · exact absurd hpending hdecided
    · exact h.decided other hother hdecided

theorem keepsDecided_upsert {before : Table ApprovalRequest.id} {decided : ApprovalRequest}
    (hrequest : request ∈ before.rows) (hpending : request.status = .pending)
    (hid : decided.id = request.id) (h : KeepsDecided before approvals) :
    KeepsDecided before (approvals.upsert decided) := by
  intro other hother hdecided
  refine Table.mem_upsert_iff.mpr (Or.inr ⟨h other hother hdecided, fun hsame => ?_⟩)
  obtain rfl : other = request := before.eq_of_key_eq hother hrequest (hsame.trans hid)
  exact hdecided hpending

theorem ApprovalsSound.upsert (h : ApprovalsSound approvals) (hdecided : request.Decided)
    (hfair : request.FairlyDecided) : ApprovalsSound (approvals.upsert request) := by
  have hstored : ∀ other ∈ (approvals.upsert request).rows, other.status = .pending →
      other ∈ approvals.rows := by
    intro other hother hpending
    rcases Table.mem_upsert_iff.mp hother with rfl | ⟨hother, -⟩
    · exact absurd hpending hdecided
    · exact hother
  refine ⟨?_, ?_⟩
  · intro first hfirst second hsecond hpendingFirst hpendingSecond
    exact h.pendingOnce first (hstored first hfirst hpendingFirst) second
      (hstored second hsecond hpendingSecond) hpendingFirst hpendingSecond
  · intro other hother hdecidedOther
    rcases Table.mem_upsert_iff.mp hother with rfl | ⟨hother, -⟩
    · exact hfair
    · exact h.decided other hother hdecidedOther

end

/-! ## What the service checks -/

section

variable {user : ApprovalUser} {store : PlatformStore} {request : ApprovalRequest}
  {requestId : String}

theorem requestChange_eq_ok {requestType entityType entityId : String} {projectId : Option String}
    {payload : ApprovalPayload} {service : InventoryService}
    (h : requestChange service requestType entityType entityId projectId requestId store payload =
      .ok request) :
    request.status = .pending ∧ ∀ other ∈ store.approvals.rows, other.status = .pending →
      other.entityType = request.entityType → other.entityId ≠ request.entityId := by
  obtain ⟨_, -, h⟩ := bind_ok h
  obtain ⟨_, hexisting, h⟩ := bind_ok h
  obtain ⟨_, -, h⟩ := bind_ok h
  cases h
  refine ⟨rfl, ?_⟩
  intro other hother hpending htype hentity
  cases hfound : store.approvals.rows.find? fun row =>
      decide (row.status = .pending ∧ row.entityType = entityType ∧ row.entityId = entityId) with
  | none =>
      have hnot := List.find?_eq_none.mp hfound other hother
      exact hnot (decide_eq_true ⟨hpending, htype, hentity⟩)
  | some existing =>
      rw [hfound] at hexisting
      cases hexisting

theorem requestToDecide_eq_ok {operationLabel : String}
    (h : requestToDecide user.service operationLabel requestId store = .ok request) :
    ∃ principal, user.active = some principal ∧ request ∈ store.approvals.rows ∧
      request.status = .pending ∧ request.requestedByUserId ≠ some principal.userId := by
  obtain ⟨_, hpermission, h⟩ := bind_ok h
  obtain ⟨stored, hpending, h⟩ := bind_ok h
  obtain ⟨_, hself, h⟩ := bind_ok h
  cases h
  obtain ⟨found, hfound, hpending⟩ := bind_ok hpending
  obtain ⟨_, hstatus, hpending⟩ := bind_ok hpending
  cases hpending
  obtain ⟨principal, hactive⟩ := exists_active (ensure_eq_ok.mp hpermission)
  refine ⟨principal, hactive, (Table.get?_eq_some_iff.mp (require_eq_ok.mp hfound)).1,
    ensure_eq_ok.mp hstatus, ?_⟩
  intro hrequester
  have hprincipal : (principal.userId, principal.username) ∈ user.service.principal := by
    unfold ApprovalUser.service
    rw [hactive]
    rfl
  exact ensure_eq_ok.mp hself _ hprincipal principal.userId hrequester principal.userId_ne rfl

theorem decidedRequest_fair {principal : UserSessionPrincipal} {note : Option String}
    (hactive : user.active = some principal) (status : ApprovalStatus)
    (hself : request.requestedByUserId ≠ some principal.userId) :
    (decidedRequest user.service request status note).FairlyDecided := by
  have huser : user.service.principal = some (principal.userId, principal.username) := by
    unfold ApprovalUser.service
    rw [hactive]
    rfl
  have hdecider : user.service.userId = some principal.userId := by
    rw [InventoryService.userId, huser]
    rfl
  refine ⟨⟨principal.userId, principal.username, hdecider, ?_⟩, ⟨user.now, rfl⟩, ?_⟩
  · change user.service.principal.map Prod.snd = _
    rw [huser]
    rfl
  · change request.requestedByUserId ≠ user.service.userId
    rw [hdecider]
    exact hself

end

/-! ## Sessions -/

/-- The requests of the session are sound, and what was decided is committed. -/
structure SoundSession (session : Session PlatformStore) : Prop where
  sound : session.Both fun store => ApprovalsSound store.approvals
  committed : KeepsDecided session.pending.approvals session.committed.approvals
  pending : KeepsDecided session.committed.approvals session.pending.approvals

theorem soundSession_clean {store : PlatformStore} (h : ApprovalsSound store.approvals) :
    SoundSession (.clean store) :=
  ⟨Session.both_clean.mpr h, fun _ hrequest _ => hrequest, fun _ hrequest _ => hrequest⟩

/-- A step of the service leaves the session sound and every decision in place. -/
structure DecisionStep (before after : Session PlatformStore) : Prop where
  sound : SoundSession after
  kept : KeepsDecided before.pending.approvals after.pending.approvals
  keptCommitted : KeepsDecided before.pending.approvals after.committed.approvals

section

variable {before after : Session PlatformStore}

theorem DecisionStep.refl (h : SoundSession before) : DecisionStep before before :=
  ⟨h, fun _ hrequest _ => hrequest, h.committed⟩

theorem DecisionStep.clean {store : PlatformStore} (hsound : ApprovalsSound store.approvals)
    (hkept : KeepsDecided before.pending.approvals store.approvals) :
    DecisionStep before (.clean store) :=
  ⟨soundSession_clean hsound, hkept, hkept⟩

/-- Requests of the session before, as what it saw or as what was committed. -/
def ApprovalsFrom (before : Session PlatformStore) (store : PlatformStore) : Prop :=
  store.approvals = before.pending.approvals ∨ store.approvals = before.committed.approvals

theorem ApprovalsFrom.sound {store : PlatformStore} (hfrom : ApprovalsFrom before store)
    (h : SoundSession before) : ApprovalsSound store.approvals := by
  rcases hfrom with hsame | hsame
  · exact hsame ▸ h.sound.2
  · exact hsame ▸ h.sound.1

theorem ApprovalsFrom.keeps {store : PlatformStore} (hfrom : ApprovalsFrom before store)
    (h : SoundSession before) : KeepsDecided before.pending.approvals store.approvals := by
  rcases hfrom with hsame | hsame
  · rw [hsame]
    exact fun _ hrequest _ => hrequest
  · rw [hsame]
    exact h.committed

theorem ApprovalsFrom.keepsCommitted {store : PlatformStore} (hfrom : ApprovalsFrom before store)
    (h : SoundSession before) : KeepsDecided store.approvals before.pending.approvals := by
  rcases hfrom with hsame | hsame
  · rw [hsame]
    exact fun _ hrequest _ => hrequest
  · rw [hsame]
    exact h.pending

/-- Both requests tables are those of before, in one order or the other. -/
theorem decisionStep_of_from (h : SoundSession before) (hafter : after.Both (ApprovalsFrom before)) :
    DecisionStep before after := by
  have hcommitted := hafter.1.keepsCommitted h
  have hpending := hafter.2.keepsCommitted h
  refine ⟨⟨⟨hafter.1.sound h, hafter.2.sound h⟩, ?_, ?_⟩, hafter.2.keeps h, hafter.1.keeps h⟩
  · exact fun request hrequest hdecided =>
      hafter.1.keeps h request (hpending request hrequest hdecided) hdecided
  · exact fun request hrequest hdecided =>
      hafter.2.keeps h request (hcommitted request hrequest hdecided) hdecided

theorem flush_approvals {store next : PlatformStore} (h : store.flush = .ok next) :
    next.approvals = store.approvals := by
  obtain ⟨inventory, -, h⟩ := bind_ok h
  cases h
  rfl

/-- A commit after a decision, or its rollback when the flush is refused. -/
theorem commit_decision (h : SoundSession before) {middle : Session PlatformStore}
    (hmiddle : ApprovalsFrom before middle.committed)
    (hsound : ApprovalsSound middle.pending.approvals)
    (hkept : KeepsDecided before.pending.approvals middle.pending.approvals) :
    ServiceProgram.commit.Spec middle (fun _ next => DecisionStep before next)
      fun _ next => DecisionStep before next := by
  rw [ServiceProgram.spec_commit]
  cases hflush : middle.pending.flush with
  | error e => exact .clean (hmiddle.sound h) (hmiddle.keeps h)
  | ok next =>
      have happrovals := flush_approvals hflush
      exact .clean (happrovals ▸ hsound) (happrovals ▸ hkept)

/-- The flush of a request that was added. -/
theorem flush_decision (h : SoundSession before) {middle : Session PlatformStore}
    (hcommitted : middle.committed = before.committed)
    (hsound : ApprovalsSound middle.pending.approvals)
    (hkept : KeepsDecided before.pending.approvals middle.pending.approvals)
    (hnew : KeepsDecided middle.pending.approvals before.pending.approvals) :
    ServiceProgram.flush.Spec middle (fun _ next => DecisionStep before next)
      fun _ next => DecisionStep before next := by
  unfold ServiceProgram.flush
  rw [Program.spec_rollingBack, Program.spec_step]
  cases hflush : middle.pending.flush with
  | error e =>
      simp only [Session.rollback, hcommitted]
      exact .clean h.sound.1 h.committed
  | ok next =>
      have happrovals := flush_approvals hflush
      simp only
      refine ⟨⟨⟨hcommitted ▸ h.sound.1, ?_⟩, ?_, ?_⟩, happrovals ▸ hkept,
        hcommitted ▸ h.committed⟩
      · change ApprovalsSound next.approvals
        exact happrovals ▸ hsound
      · rw [happrovals, hcommitted]
        exact fun request hrequest hdecided =>
          h.committed request (hnew request hrequest hdecided) hdecided
      · rw [happrovals, hcommitted]
        exact fun request hrequest hdecided =>
          hkept request (h.pending request hrequest hdecided) hdecided

end

/-! ## Steps -/

section

variable {session : Session PlatformStore} {user : ApprovalUser} {requestId : String}

/-- A call that raises before it writes. -/
theorem readDecision {α β : Type} {f : PlatformStore → Except DomainError α}
    {rest : α → ServiceProgram β} (h : SoundSession session)
    (hrest : ∀ value, f session.pending = .ok value →
      (rest value).Spec session (fun _ next => DecisionStep session next)
        fun _ next => DecisionStep session next) :
    (ServiceProgram.read f >>= rest).Spec session (fun _ next => DecisionStep session next)
      fun _ next => DecisionStep session next := by
  rw [Program.spec_bind, ServiceProgram.spec_read]
  cases hvalue : f session.pending with
  | error e => exact .refl h
  | ok value => exact hrest value hvalue

theorem requestAndAdd_step (requestType entityType entityId : String) (projectId : Option String)
    (payload : ApprovalPayload) (commit : Bool) (h : SoundSession session) :
    (requestAndAdd user.service requestType entityType entityId projectId requestId payload
      commit).Spec session (fun _ next => DecisionStep session next)
      fun _ next => DecisionStep session next := by
  unfold requestAndAdd
  apply readDecision h
  intro request hrequest
  obtain ⟨hpending, hnone⟩ := requestChange_eq_ok hrequest
  have hsound := h.sound.2.insert hpending hnone
  rw [Program.spec_bind, Program.spec_step]
  let added : Session PlatformStore := { session with pending :=
    { session.pending with approvals := session.pending.approvals.insert request } }
  cases commit with
  | true =>
      change (ServiceProgram.commit >>= fun _ => pure request).Spec added _ _
      rw [Program.spec_bind]
      exact @commit_decision session h added (Or.inr rfl) hsound keepsDecided_insert
  | false =>
      change (ServiceProgram.flush >>= fun _ => pure request).Spec added _ _
      rw [Program.spec_bind]
      refine @flush_decision session h added rfl hsound keepsDecided_insert ?_
      intro other hother hdecided
      rcases Table.mem_insert hother with rfl | hother
      · exact absurd hpending hdecided
      · exact hother

theorem decide_step {α : Type} (handler : ServiceProgram Unit) {request : ApprovalRequest}
    {decided : ApprovalRequest} {value : α} (h : SoundSession session)
    (hhandler : ∀ P : Table ApprovalRequest.id → Prop, handler.Keeps fun store => P store.approvals)
    (hrequest : request ∈ session.pending.approvals.rows) (hpending : request.status = .pending)
    (hid : decided.id = request.id) (hdecided : decided.Decided) (hfair : decided.FairlyDecided) :
    (do
      handler
      updateRequest decided
      ServiceProgram.commit
      return value : ServiceProgram α).Spec session (fun _ next => DecisionStep session next)
      fun _ next => DecisionStep session next := by
  have hfrom : session.Both (ApprovalsFrom session) := ⟨Or.inr rfl, Or.inl rfl⟩
  rw [Program.spec_bind]
  refine (hhandler (fun approvals => approvals = session.pending.approvals ∨
    approvals = session.committed.approvals) session hfrom).mono ?_ ?_
  · intro _ middle hmiddle
    have hmiddle : middle.Both (ApprovalsFrom session) := hmiddle
    have hsound := (hmiddle.2.sound h).upsert hdecided hfair
    have hkept := keepsDecided_upsert hrequest hpending hid (hmiddle.2.keeps h)
    rw [Program.spec_bind, updateRequest, Program.spec_step]
    simp only
    rw [Program.spec_bind]
    let marked : Session PlatformStore := { middle with pending :=
      { middle.pending with approvals := middle.pending.approvals.upsert decided } }
    exact @commit_decision session h marked hmiddle.1 hsound hkept
  · intro _ next hnext
    exact decisionStep_of_from h hnext

theorem approveAndApply_step (handlers : RegisteredHandlers) (note : Option String)
    (h : SoundSession session) :
    (approveAndApply user.service handlers.apply requestId note).Spec session
      (fun _ next => DecisionStep session next) fun _ next => DecisionStep session next := by
  unfold approveAndApply
  apply readDecision h
  intro request hrequest
  obtain ⟨principal, hactive, hstored, hpending, hself⟩ := requestToDecide_eq_ok hrequest
  apply readDecision h
  intro handler hhandler
  exact decide_step _ h (handlers.apply_leaves (require_eq_ok.mp hhandler) request) hstored
    hpending rfl (fun hsame => (nomatch hsame)) (decidedRequest_fair hactive .approved hself)

theorem reject_step (handlers : RegisteredHandlers) (note : Option String)
    (h : SoundSession session) :
    (reject user.service handlers.reject requestId note).Spec session
      (fun _ next => DecisionStep session next) fun _ next => DecisionStep session next := by
  unfold reject
  apply readDecision h
  intro request hrequest
  obtain ⟨principal, hactive, hstored, hpending, hself⟩ := requestToDecide_eq_ok hrequest
  have hfair : (decidedRequest user.service request .rejected note).FairlyDecided :=
    decidedRequest_fair hactive .rejected hself
  have hdecided : (decidedRequest user.service request .rejected note).Decided :=
    fun hsame => (nomatch hsame)
  cases hregistered : handlers.reject request.requestType with
  | none =>
      exact decide_step (pure ()) h (fun _ => Program.keeps_pure) hstored hpending rfl hdecided hfair
  | some handler =>
      exact decide_step _ h (handlers.reject_leaves hregistered _) hstored hpending rfl hdecided
        hfair

theorem ApprovalCall.run_step (call : ApprovalCall) (h : SoundSession session) :
    DecisionStep session (call.run session).2 := by
  have hspec : call.program.Spec session (fun _ next => DecisionStep session next)
      fun _ next => DecisionStep session next := by
    cases call with
    | requestChange user requestType entityType entityId projectId payload requestId commit =>
        exact requestAndAdd_step requestType entityType entityId projectId payload commit h
    | approveAndApply user handlers requestId note => exact approveAndApply_step handlers note h
    | reject user handlers requestId note => exact reject_step handlers note h
  have houtcome := hspec.outcome
  unfold ApprovalCall.run
  generalize call.program.outcome session = result at houtcome
  obtain ⟨_ | e, next⟩ := result
  · obtain ⟨-, hstep⟩ := houtcome
    exact hstep
  · exact houtcome

end

theorem approvalRun_step (calls : List ApprovalCall) {session : Session PlatformStore}
    (h : SoundSession session) :
    DecisionStep session (sessionAfter ApprovalCall.run session calls) := by
  induction calls generalizing session with
  | nil => exact .refl h
  | cons call rest ih =>
      have hfirst := call.run_step h
      have hrest := ih hfirst.sound
      refine ⟨hrest.sound, ?_, ?_⟩
      · exact fun request hrequest hdecided =>
          hrest.kept request (hfirst.kept request hrequest hdecided) hdecided
      · exact fun request hrequest hdecided =>
          hrest.keptCommitted request (hfirst.kept request hrequest hdecided) hdecided

/-- Along every run requests wait alone, are decided once and for all by another user than the one
who made them, and name that user and the time. -/
theorem approvalRun_sound (before after : List ApprovalCall) (start : PlatformStore)
    (h : ApprovalsSound start.approvals) :
    let middle := sessionAfter ApprovalCall.run (.clean start) before
    let last := sessionAfter ApprovalCall.run (.clean start) (before ++ after)
    ApprovalsSound last.pending.approvals ∧ ApprovalsSound last.committed.approvals ∧
      KeepsDecided middle.pending.approvals last.pending.approvals ∧
      KeepsDecided middle.pending.approvals last.committed.approvals := by
  intro middle last
  have hmiddle : SoundSession middle := (approvalRun_step before (soundSession_clean h)).sound
  have hlast : last = sessionAfter ApprovalCall.run middle after := List.foldl_append
  have hstep : DecisionStep middle last := hlast ▸ approvalRun_step after hmiddle
  exact ⟨hstep.sound.sound.2, hstep.sound.sound.1, hstep.kept, hstep.keptCommitted⟩

end ProjectManager
