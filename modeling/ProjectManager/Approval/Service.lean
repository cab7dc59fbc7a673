import ProjectManager.Approval.Domain

/-! # The approval service

Requests for governed changes are made once for an entity at a time. An
approval runs the handler that is registered for the type of the request and
then marks the request; nothing is rolled back when the handler raises.
-/

namespace ProjectManager

open Foundation

/-- What applies or rejects a governed change. -/
abbrev ApplyHandler := ApprovalRequest → ServiceProgram Unit

section

variable (service : InventoryService)

/-- The request that `request_change` adds, unless one for the entity is still pending. -/
def requestChange (requestType entityType entityId : String) (projectId : Option String)
    (requestId : String) (store : PlatformStore) (payload : ApprovalPayload := .empty) :
    Except DomainError ApprovalRequest := do
  service.userSession.requirePermission "approval.request" "request governed change"
  whenGiven (store.approvals.rows.find? fun row =>
      row.status = .pending ∧ row.entityType = entityType ∧ row.entityId = entityId) fun existing =>
    .error (businessRuleError
      ("A pending approval already exists for this " ++
        entityType.map (fun c => if c = '_' then ' ' else c) ++ ". Request " ++ existing.id ++
        " is still pending.") "APPROVAL_DUPLICATE_ENTITY")
  ensure (requestId ∉ store.approvals.ids) (takenPrimaryKey "approval_requests")
  return {
    id := requestId
    requestType := lower (strip requestType)
    entityType := entityType
    entityId := entityId
    projectId := projectId
    requestedByUserId := service.userId
    requestedByUsername := service.principal.map Prod.snd
    payload := payload }

/-- `request_change` by itself, with its own commit or inside the transaction of its caller. -/
def requestAndAdd (requestType entityType entityId : String) (projectId : Option String)
    (requestId : String) (payload : ApprovalPayload) (commit : Bool) :
    ServiceProgram ApprovalRequest := do
  let request ← ServiceProgram.read fun store =>
    requestChange service requestType entityType entityId projectId requestId store payload
  Program.step fun store => .ok { store with approvals := store.approvals.insert request }
  if commit then ServiceProgram.commit else ServiceProgram.flush
  return request

def requirePending (requestId : String) (store : PlatformStore) :
    Except DomainError ApprovalRequest := do
  let request ← require (store.approvals.get? requestId)
    (notFoundError "Approval request not found." "APPROVAL_NOT_FOUND")
  ensure (request.status = .pending)
    (businessRuleError "Approval request is already decided." "APPROVAL_ALREADY_DECIDED")
  return request

def ensureNotSelfDecision (request : ApprovalRequest) : Except DomainError Unit :=
  ensure (∀ principal ∈ service.principal, ∀ userId ∈ request.requestedByUserId,
      userId ≠ "" → principal.1 ≠ userId)
    (businessRuleError "You cannot approve or reject your own governance request."
      "APPROVAL_SELF_DECISION_FORBIDDEN")

/-- The pending request that the current user may decide. -/
def requestToDecide (operationLabel requestId : String) (store : PlatformStore) :
    Except DomainError ApprovalRequest := do
  service.userSession.requirePermission "approval.decide" operationLabel
  let request ← requirePending requestId store
  ensureNotSelfDecision service request
  return request

/-- A request after its decision. -/
def decidedRequest (request : ApprovalRequest) (status : ApprovalStatus) (note : Option String) :
    ApprovalRequest :=
  { request with
    status := status
    decidedByUserId := service.userId
    decidedByUsername := service.principal.map Prod.snd
    decidedAt := some service.now
    decisionNote := some (strip (note.getD "")) |>.filter (· ≠ "") }

def updateRequest (request : ApprovalRequest) : ServiceProgram Unit :=
  Program.step fun store => .ok { store with approvals := store.approvals.upsert request }

def registeredHandler (handlers : String → Option ApplyHandler) (requestType : String) :
    Except DomainError ApplyHandler :=
  require (handlers requestType)
    (businessRuleError ("No apply handler registered for '" ++ requestType ++ "'.")
      "APPROVAL_HANDLER_MISSING")

def approveAndApply (applyHandlers : String → Option ApplyHandler) (requestId : String)
    (note : Option String) : ServiceProgram ApprovalRequest := do
  let request ← ServiceProgram.read (requestToDecide service "approve approval request" requestId)
  let handler ← ServiceProgram.read fun _ => registeredHandler applyHandlers request.requestType
  handler request
  let approved := decidedRequest service request .approved note
  updateRequest approved
  ServiceProgram.commit
  return approved

def reject (rejectHandlers : String → Option ApplyHandler) (requestId : String)
    (note : Option String) : ServiceProgram ApprovalRequest := do
  let request ← ServiceProgram.read (requestToDecide service "reject approval request" requestId)
  let rejected := decidedRequest service request .rejected note
  match rejectHandlers request.requestType with
  | some handler => handler rejected
  | none => pure ()
  updateRequest rejected
  ServiceProgram.commit
  return rejected

end

end ProjectManager
