import ProjectManager.Foundation.Evolution
import ProjectManager.Foundation.KeptStates
import ProjectManager.Maintenance.ConvertedRequests

/-! # The history of orders

Orders are made as drafts, by hand or by the generation, and an update by hand moves
one order. No other call on the work of the module writes an order.
-/

namespace ProjectManager.Maintenance

open Foundation

/-- An order as it is made. -/
structure Drafted (order : WorkOrder) : Prop where
  status : order.status = .draft
  actualStart : order.actualStart = none
  actualEnd : order.actualEnd = none
  closedAt : order.closedAt = none
  downtimeMinutes : order.downtimeMinutes = none

/-- An update gives the order a status that its own status leads to, with the times that come
with it. -/
structure OrderUpdated (services : MaintenanceServices) (arguments : UpdateWorkOrderArguments)
    (row updated : WorkOrder) : Prop where
  named : row.id = arguments.workOrderId
  id : updated.id = row.id
  organizationId : updated.organizationId = row.organizationId
  downtimeMinutes : updated.downtimeMinutes = (arguments.downtimeMinutes <|> row.downtimeMinutes)
  version : updated.version = row.version + 1
  stamped : ∃ changed, changeOrderStatus services row arguments.status = .ok changed ∧
    updated.status = changed.status ∧ updated.actualStart = changed.actualStart ∧
      updated.actualEnd = changed.actualEnd ∧ updated.closedAt = changed.closedAt

/-- What a call makes of an order that is there. -/
def WorkCall.Moves : WorkCall → WorkOrder → WorkOrder → Prop
  | .updateOrder services arguments => fun row updated =>
      updated = row ∨ OrderUpdated services arguments row updated
  | _ => Eq

theorem WorkCall.moves_self (call : WorkCall) (row : WorkOrder) : call.Moves row row := by
  cases call with
  | updateOrder => exact Or.inl rfl
  | createRequest | updateRequest | createOrder | generate => rfl

theorem WorkCall.moves_of_eq (call : WorkCall) {row updated : WorkOrder} (h : row = updated) :
    call.Moves row updated :=
  h ▸ call.moves_self row

/-! ## Calls that make orders -/

/-- Orders may be made, and none is moved. -/
def OrdersMade (start store : MaintenanceStore) : Prop :=
  start.orders.Evolves Drafted Eq store.orders

variable {start : MaintenanceStore}

theorem OrdersMade.refl (start : MaintenanceStore) : OrdersMade start start :=
  Table.Evolves.refl (fun _ => rfl) start.orders

/-- What writes no orders. -/
theorem OrdersMade.of_eq {store next : MaintenanceStore} (h : OrdersMade start store)
    (horders : next.orders = store.orders) : OrdersMade start next := by
  unfold OrdersMade
  rwa [horders]

theorem OrdersMade.insert {store next : MaintenanceStore} {order : WorkOrder}
    (h : OrdersMade start store) (horder : Drafted order)
    (horders : next.orders = store.orders.insert order) : OrdersMade start next := by
  unfold OrdersMade
  rw [horders]
  exact Table.Evolves.append h horder

variable (services : MaintenanceServices)

section

variable {services} {store next : MaintenanceStore} {order : WorkOrder}
  {request : Option WorkRequest}

theorem prepareWorkOrder_drafted {given : CreateWorkOrderArguments}
    (h : prepareWorkOrder services store given = .ok (order, request)) : Drafted order := by
  -- None of the checks decides the status or the times of a draft.
  iterate 10 obtain ⟨_, -, h⟩ := bind_ok h
  obtain ⟨rfl, -⟩ := Prod.mk.inj (Except.ok.inj h)
  exact ⟨rfl, rfl, rfl, rfl, rfl⟩

theorem OrderMade.orders_eq (h : OrderMade store order request next) :
    next.orders = store.orders.insert order :=
  Table.ext (h.orders.trans (Table.rows_insert h.new).symm)

end

theorem createTask_keeps (arguments : CreateTaskArguments) :
    (createTask services arguments).Keeps (OrdersMade start) := by
  apply Program.keeps_transact
  intro store row next h _ hsaved
  obtain ⟨_, -, hnext⟩ := bind_ok hsaved
  cases hnext
  exact h.of_eq rfl

theorem createStep_keeps (arguments : CreateStepArguments) :
    (createStep services arguments).Keeps (OrdersMade start) := by
  apply Program.keeps_transact
  intro store row next h _ hsaved
  obtain ⟨_, -, hnext⟩ := bind_ok hsaved
  cases hnext
  exact h.of_eq rfl

theorem populateWorkOrder_keeps (plan : PreventivePlan) (planTasks : List PreventivePlanTask)
    (workOrderId : String) (ids : PackageIds) :
    (populateWorkOrder services plan planTasks workOrderId ids).Keeps (OrdersMade start) := by
  refine Program.keeps_foldlM _ _ fun package planTask _ => ?_
  refine Program.keeps_check.bind fun template => ?_
  refine Program.keeps_check.bind fun stepTemplates => ?_
  refine (createTask_keeps services _).bind fun task => ?_
  refine Program.keeps_foldlM _ _ fun package stepTemplate _ => ?_
  exact (createStep_keeps services _).bind fun _ => Program.keeps_pure

theorem createWorkOrder_keeps (arguments : CreateWorkOrderArguments) :
    (createWorkOrder services arguments).Keeps (OrdersMade start) := by
  refine Program.Keeps.bind (Program.keeps_transact ?_) ?_
  · rintro store ⟨order, request⟩ next h hprepared hinserted
    have hmade := insertWorkOrder_orderMade (prepareWorkOrder_isSource hprepared) hinserted
    exact h.insert (prepareWorkOrder_drafted hprepared) hmade.orders_eq
  · rintro ⟨order, request⟩
    refine Program.Keeps.bind ?_ fun _ => Program.keeps_pure
    refine Program.keeps_check.bind fun plan => ?_
    split
    · refine Program.keeps_check.bind fun planTasks => ?_
      refine (populateWorkOrder_keeps services _ planTasks order.id _).bind fun _ => ?_
      apply Program.keeps_save
      intro store next h hlinked
      cases hlinked
      apply h.of_eq
      unfold syncPreventiveRequestInstanceLink
      split <;> rfl
    · exact Program.keeps_pure

/-! ## The generation -/

theorem syncCalendarPlanInstances_keeps (plan : PreventivePlan) (asOf : Moment)
    (newId : Moment → String) :
    (syncCalendarPlanInstances plan asOf newId).Keeps (OrdersMade start) := by
  unfold syncCalendarPlanInstances
  split
  · refine (Program.keeps_save ?_).bind fun _ => Program.keeps_pure
    intro store next h hsynced
    obtain ⟨added, hadded, hnext⟩ := bind_ok hsynced
    obtain ⟨_, -, hadded⟩ := bind_ok hadded
    cases hadded
    cases hnext
    exact h.of_eq rfl
  · exact Program.keeps_pure

theorem createWorkRequest_keeps (arguments : CreateWorkRequestArguments) :
    (createWorkRequest services arguments).Keeps (OrdersMade start) := by
  apply Program.keeps_transact
  intro store row next h _ hsaved
  obtain ⟨_, -, hnext⟩ := bind_ok hsaved
  cases hnext
  exact h.of_eq rfl

theorem generateWork_keeps (plan : PreventivePlan) (candidate : DueCandidate) (asOf : Moment)
    (planTasks : List PreventivePlanTask) (ids : TurnIds) :
    (generateWork services plan candidate asOf planTasks ids).Keeps (OrdersMade start) := by
  unfold generateWork
  split
  · refine (createWorkOrder_keeps services _).bind fun order => ?_
    exact (populateWorkOrder_keeps services plan planTasks order.id ids.package).bind
      fun _ => Program.keeps_pure
  · exact (createWorkRequest_keeps services _).bind fun _ => Program.keeps_pure

theorem applyPlanGenerationState_keeps (plan : PreventivePlan) (asOf : Moment)
    (dueInstance : Option PreventivePlanInstance)
    (generatedWorkRequestId generatedWorkOrderId : Option String)
    (replannedId : Moment → String) :
    (applyPlanGenerationState plan asOf dueInstance generatedWorkRequestId generatedWorkOrderId
      replannedId).Keeps (OrdersMade start) := by
  refine Program.keeps_check.bind fun updated => ?_
  refine Program.Keeps.bind (Program.keeps_save ?_) fun _ => ?_
  · intro store next h hsaved
    cases hsaved
    cases dueInstance <;> exact h.of_eq rfl
  · split
    · exact (syncCalendarPlanInstances_keeps updated asOf _).bind fun _ => Program.keeps_pure
    · exact Program.keeps_pure

theorem planTurn_keeps (organization : String) (asOf : Moment) (listed : PreventivePlan)
    (ids : TurnIds) :
    (planTurn services organization asOf listed ids).Keeps (OrdersMade start) := by
  refine (syncCalendarPlanInstances_keeps listed asOf _).bind fun plan => ?_
  refine Program.keeps_check.bind fun candidate => ?_
  split
  · refine Program.keeps_check.bind fun _ => ?_
    refine Program.keeps_check.bind fun dueInstance => ?_
    refine Program.keeps_check.bind fun planTasks => ?_
    refine (generateWork_keeps services plan candidate asOf planTasks ids).bind fun result => ?_
    refine (applyPlanGenerationState_keeps plan asOf dueInstance _ _ _).bind fun _ => ?_
    refine Program.Keeps.bind ?_ fun _ => Program.keeps_pure
    refine Program.keeps_forM planTasks fun planTask _ => Program.keeps_save ?_
    intro store next h hsaved
    obtain ⟨_, -, hnext⟩ := bind_ok hsaved
    cases hnext
    exact h.of_eq rfl
  · exact Program.keeps_pure

theorem generateDueWork_keeps (arguments : GenerationArguments) (ids : String → TurnIds) :
    (generateDueWork services arguments ids).Keeps (OrdersMade start) := by
  refine Program.keeps_check.bind fun found => ?_
  refine Program.keeps_foldlM _ _ fun results plan _ => ?_
  exact (planTurn_keeps services found.1 _ plan _).bind fun _ => Program.keeps_pure

/-! ## Updates -/

section

variable {services} {store : MaintenanceStore}

theorem requireWorkOrder_mem {organization workOrderId : String} {row : WorkOrder}
    (h : requireWorkOrder store organization workOrderId = .ok row) :
    row ∈ store.orders.rows ∧ row.id = workOrderId ∧ row.organizationId = organization := by
  obtain ⟨hfound, horganization⟩ := Option.filter_eq_some_iff.mp (require_eq_ok.mp h)
  obtain ⟨hmem, hid⟩ := store.orders.get?_eq_some hfound
  exact ⟨hmem, hid, of_decide_eq_true horganization⟩

theorem changeOrderStatus_kept {row changed : WorkOrder}
    {status : Option (Choice WorkOrderStatus)}
    (h : changeOrderStatus services row status = .ok changed) :
    changed.id = row.id ∧ changed.organizationId = row.organizationId := by
  cases status with
  | none =>
      cases h
      exact ⟨rfl, rfl⟩
  | some given =>
      obtain ⟨newStatus, -, h⟩ := bind_ok h
      obtain ⟨_, -, h⟩ := bind_ok h
      cases h
      -- The four branches differ in the times that they stamp.
      unfold stampStatus
      split_ifs <;> exact ⟨rfl, rfl⟩

theorem prepareUpdatedWorkOrder_updated {arguments : UpdateWorkOrderArguments}
    {row updated : WorkOrder}
    (h : prepareUpdatedWorkOrder services store arguments = .ok (row, updated)) :
    row ∈ store.orders.rows ∧ OrderUpdated services arguments row updated := by
  obtain ⟨_, -, h⟩ := bind_ok h
  obtain ⟨found, hfound, h⟩ := bind_ok h
  obtain ⟨_, -, h⟩ := bind_ok h
  obtain ⟨changed, hchanged, h⟩ := bind_ok h
  -- The other fields are resolved on their own and leave the status alone.
  iterate 9 obtain ⟨_, -, h⟩ := bind_ok h
  obtain ⟨rfl, rfl⟩ := Prod.mk.inj (Except.ok.inj h)
  iterate 2 obtain ⟨_, -, hfound⟩ := bind_ok hfound
  obtain ⟨row, hrow, hfound⟩ := bind_ok hfound
  obtain ⟨_, -, hfound⟩ := bind_ok hfound
  cases hfound
  obtain ⟨hmem, hid, -⟩ := requireWorkOrder_mem hrow
  obtain ⟨hsame, horganization⟩ := changeOrderStatus_kept hchanged
  exact ⟨hmem, hid, hsame, horganization, rfl, rfl, changed, hchanged, rfl, rfl, rfl, rfl⟩

theorem saveUpdatedWorkOrder_orders (row updated : WorkOrder) :
    (saveUpdatedWorkOrder services store row updated).orders = store.orders.update updated := by
  unfold saveUpdatedWorkOrder
  dsimp only
  split
  · rw [(applyPreventiveCompletion_frame services _ _ updated).1.2]
  · rfl

end

theorem WorkCall.orders_evolve (call : WorkCall) (store : MaintenanceStore) :
    ∃ last, (call.run (.clean store)).2 = .clean last ∧
      store.orders.Evolves Drafted call.Moves last.orders := by
  obtain ⟨last, hlast, -⟩ := call.step store
  refine ⟨last, hlast, ?_⟩
  have hmade : ∀ {α : Type} {program : MaintenanceProgram α}, program.Keeps (OrdersMade store) →
      (program.outcome (.clean store)).2 = .clean last →
        store.orders.Evolves Drafted call.Moves last.orders := by
    intro α program hkeeps hrun
    have hboth := hkeeps.outcome (Session.both_clean.mpr (OrdersMade.refl store))
    rw [hrun, Session.both_clean] at hboth
    exact hboth.mono (fun _ => id) fun _ _ => call.moves_of_eq
  cases call with
  | createRequest services arguments => exact hmade (createWorkRequest_keeps services arguments) hlast
  | updateRequest services arguments =>
      refine hmade (Program.keeps_transact ?_) hlast
      intro store row next h _ hsaved
      cases hsaved
      exact h.of_eq rfl
  | createOrder services arguments => exact hmade (createWorkOrder_keeps services arguments) hlast
  | generate call =>
      exact hmade (generateDueWork_keeps call.services call.arguments call.ids) hlast
  | updateOrder services arguments =>
      have hkept : store.orders.Evolves Drafted (WorkCall.updateOrder services arguments).Moves
          store.orders := .refl (WorkCall.moves_self _) store.orders
      have hsettles : (updateWorkOrder services arguments).Settles store
          (fun _ next => store.orders.Evolves Drafted
            (WorkCall.updateOrder services arguments).Moves next.orders)
          fun _ next => store.orders.Evolves Drafted
            (WorkCall.updateOrder services arguments).Moves next.orders := by
        refine Program.settles_transact.mpr ⟨?_, fun _ _ => hkept⟩
        rintro ⟨row, updated⟩ hprepared
        refine ⟨?_, fun _ _ => hkept⟩
        intro next hsaved
        cases hsaved
        obtain ⟨hrow, hupdated⟩ := prepareUpdatedWorkOrder_updated hprepared
        rw [saveUpdatedWorkOrder_orders]
        exact .update (WorkCall.moves_self _) hrow hupdated.id.symm (Or.inr hupdated)
      obtain ⟨other, hother, horders⟩ := hsettles.outcome
      obtain rfl : last = other := congrArg Session.pending (hlast.symm.trans hother)
      exact horders

end ProjectManager.Maintenance
