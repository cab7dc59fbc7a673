import ProjectManager.Maintenance.GeneratedWork

/-! # Turns of plans

The parts of a turn one after another: the synchronisation, the work that is made, the
state of the plan that is saved with its next synchronisation, and the states of the
tasks. Each says what it leaves behind, also where it raises.
-/

namespace ProjectManager.Maintenance

open Foundation

variable {services : MaintenanceServices} {store next : MaintenanceStore} {organization : String}
  {plan : PreventivePlan} {ids : TurnIds} {candidate : DueCandidate} {asOf : Moment}
  {newId : Moment → String} {given : CalendarFrequencyUnit × ℕ}

/-! ## The synchronisation -/

/-- The plan and the store that a synchronisation leads to. A plan without planned instances is
left alone. -/
inductive SyncedTo (plan : PreventivePlan) (asOf : Moment) (newId : Moment → String)
    (store : MaintenanceStore) : PreventivePlan → MaintenanceStore → Prop
  | unscheduled (h : plan.instanceFrequency = none) : SyncedTo plan asOf newId store plan store
  | scheduled {given : CalendarFrequencyUnit × ℕ} {next : MaintenanceStore}
      (h : plan.instanceFrequency = some given)
      (hrun : syncInstances plan asOf newId store = .ok next) :
      SyncedTo plan asOf newId store (syncedPlan plan asOf) next

theorem syncCalendarPlanInstances_settles :
    (syncCalendarPlanInstances plan asOf newId).Settles store
      (SyncedTo plan asOf newId store)
      fun _ next => next = store ∧ plan.usesCalendarInstances ∧
        ∃ e, syncInstances plan asOf newId store = .error e := by
  unfold syncCalendarPlanInstances
  by_cases huses : plan.usesCalendarInstances
  · rw [if_pos huses]
    obtain ⟨given, hgiven⟩ := Option.isSome_iff_exists.mp huses
    apply Program.Settles.bind
    rw [Program.settles_save]
    refine ⟨?_, fun e he => ⟨rfl, huses, e, he⟩⟩
    intro next hnext
    exact Program.settles_pure.mpr (.scheduled hgiven hnext)
  · rw [if_neg huses]
    refine Program.settles_pure.mpr (.unscheduled ?_)
    exact Option.not_isSome_iff_eq_none.mp huses

namespace SyncedTo

variable {synced : PreventivePlan} (h : SyncedTo plan asOf newId store synced next)

include h

/-- Only the next due date of the plan and the instances change. -/
theorem frame : (∃ nextDueAt, synced = { plan with nextDueAt := nextDueAt }) ∧
    next = { store with instances := next.instances, plans := next.plans } := by
  cases h with
  | unscheduled => exact ⟨⟨plan.nextDueAt, rfl⟩, rfl⟩
  | scheduled _ hrun =>
      refine ⟨⟨_, rfl⟩, ?_⟩
      rw [(synced_of_ok hrun).frame]

/-- A plan that is in step is left alone. -/
theorem eq_of_inStep (hstored : plan ∈ store.plans.rows)
    (hstep : plan.usesCalendarInstances → InStep store plan asOf) :
    synced = plan ∧ next = store := by
  cases h with
  | unscheduled => exact ⟨rfl, rfl⟩
  | scheduled hgiven hrun =>
      have hfrequency := (PreventivePlan.instanceFrequency_eq_some hgiven).2
      have hinStep := hstep (PreventivePlan.usesCalendarInstances_of hgiven)
      refine ⟨syncedPlan_of_scheduled hfrequency hinStep.1, ?_⟩
      rw [syncInstances_of_inStep hfrequency hstored hinStep] at hrun
      exact (Except.ok.inj hrun).symm

theorem evaluatePlan_due : (evaluatePlan next synced asOf).due = planDue store plan asOf := by
  cases h with
  | unscheduled hnone =>
      rw [evaluatePlan_of_no_instances hnone, planDue_of_no_instances hnone]
  | scheduled hgiven hrun => exact (synced_of_ok hrun).evaluatePlan_due hgiven

theorem listPlanTasks_eq : listPlanTasks next synced.organizationId synced.id =
    listPlanTasks store plan.organizationId plan.id := by
  obtain ⟨⟨_, rfl⟩, hnext⟩ := h.frame
  rw [hnext]
  rfl

/-- The tasks that are due can be told before the synchronisation. -/
theorem candidateTasks_eq : candidateTasks next synced asOf = dueTasks store plan asOf := by
  have hselected : isSelected next = isSelected store := by
    rw [h.frame.2]
    rfl
  unfold candidateTasks dueTasks
  rw [h.evaluatePlan_due, h.listPlanTasks_eq, hselected]

theorem buildCandidate_due_iff :
    (buildCandidate next synced asOf).dueState = .due ↔ GeneratesWork store plan asOf := by
  rw [buildCandidate_due, h.candidateTasks_eq, h.listPlanTasks_eq, h.evaluatePlan_due]
  rfl

end SyncedTo

/-! ## The work -/

def orderLink (plan : PreventivePlan) (ids : TurnIds) : Option String :=
  if plan.autoGenerateWorkOrder then some ids.workId else none

def requestLink (plan : PreventivePlan) (ids : TurnIds) : Option String :=
  if plan.autoGenerateWorkOrder then none else some ids.workId

/-- The work that is made: the linked order or the new linked request, and tasks and steps. -/
structure WorkMade (plan : PreventivePlan) (ids : TurnIds) (store next : MaintenanceStore) :
    Prop where
  frame : next = { store with
    orders := next.orders
    requests := next.requests
    orderTasks := next.orderTasks
    taskSteps := next.taskSteps }
  orders : ∃ made, next.orders.rows = made ++ store.orders.rows ∧
    made.map WorkOrder.id = (orderLink plan ids).toList ∧
      ∀ row ∈ made, row.sourceType = "PREVENTIVE_PLAN"
  requests : ∃ made, next.requests.rows = made ++ store.requests.rows ∧
    made.map WorkRequest.id = (requestLink plan ids).toList ∧ ∀ row ∈ made, row.status = .new

/-- The order or the request is accepted. -/
def WorkAccepted (services : MaintenanceServices) (store : MaintenanceStore)
    (organization : String) (plan : PreventivePlan) (ids : TurnIds) : Prop :=
  if plan.autoGenerateWorkOrder then OrderAccepted services store organization plan ids
  else RequestAccepted services store organization plan ids

instance (services : MaintenanceServices) (store : MaintenanceStore) (organization : String)
    (plan : PreventivePlan) (ids : TurnIds) :
    Decidable (WorkAccepted services store organization plan ids) :=
  inferInstanceAs (Decidable (if plan.autoGenerateWorkOrder then
    OrderAccepted services store organization plan ids
  else RequestAccepted services store organization plan ids))

/-- Only tasks and steps of orders differ. -/
def PackageFrame (store next : MaintenanceStore) : Prop :=
  next = { store with
    orderTasks := next.orderTasks
    taskSteps := next.taskSteps }

theorem PackageFrame.trans {middle : MaintenanceStore} (hfirst : PackageFrame store middle)
    (hsecond : PackageFrame middle next) : PackageFrame store next := by
  unfold PackageFrame at *
  rw [hsecond, hfirst]

theorem createTask_frame {arguments : CreateTaskArguments} :
    (createTask services arguments).Settles store (fun _ => PackageFrame store)
      fun _ => PackageFrame store := by
  unfold createTask
  rw [Program.settles_transact]
  refine ⟨fun row _ => ⟨?_, fun _ _ => rfl⟩, fun _ _ => rfl⟩
  intro next hsaved
  obtain ⟨_, -, hnext⟩ := bind_ok hsaved
  cases hnext
  rfl

theorem createStep_frame {arguments : CreateStepArguments} :
    (createStep services arguments).Settles store (fun _ => PackageFrame store)
      fun _ => PackageFrame store := by
  unfold createStep
  rw [Program.settles_transact]
  refine ⟨fun row _ => ⟨?_, fun _ _ => rfl⟩, fun _ _ => rfl⟩
  intro next hsaved
  obtain ⟨_, -, hnext⟩ := bind_ok hsaved
  cases hnext
  rfl

/-- Whatever it raises, a package only adds tasks and steps. -/
theorem populateWorkOrder_frame {planTasks : List PreventivePlanTask} {workOrderId : String}
    {packageIds : PackageIds} :
    (populateWorkOrder services plan planTasks workOrderId packageIds).Settles store
      (fun _ => PackageFrame store) fun _ => PackageFrame store := by
  refine Program.settles_foldlM (fun _ _ => PackageFrame store) _ ?_ rfl
  intro _ planTask _ package current _ hcurrent
  apply Program.Settles.bind
  rw [Program.settles_check]
  refine ⟨fun template _ => ?_, fun _ _ => hcurrent⟩
  apply Program.Settles.bind
  rw [Program.settles_read]
  apply Program.Settles.bind
  refine createTask_frame.mono ?_ fun _ next hnext => hcurrent.trans hnext
  intro task afterTask hafterTask
  refine Program.settles_foldlM (fun _ _ => PackageFrame store) _ ?_ (hcurrent.trans hafterTask)
  intro _ stepTemplate _ package middle _ hmiddle
  apply Program.Settles.bind
  refine createStep_frame.mono ?_ fun _ next hnext => hmiddle.trans hnext
  intro step afterStep hafterStep
  exact Program.settles_pure.mpr (hmiddle.trans hafterStep)

theorem generateWork_settles {planTasks : List PreventivePlanTask}
    (hmanages : Manages services organization) (hplan : plan.organizationId = organization) :
    (generateWork services plan candidate asOf planTasks ids).Settles store
      (fun result next => WorkAccepted services store organization plan ids ∧
        WorkMade plan ids store next ∧ result.generatedWorkOrderId = orderLink plan ids ∧
          result.generatedWorkRequestId = requestLink plan ids)
      fun _ next =>
        (¬ WorkAccepted services store organization plan ids ∧ next = store) ∨
          WorkAccepted services store organization plan ids ∧ WorkMade plan ids store next ∧
            ¬ (plan.autoGenerateWorkOrder = true →
              PackageFits services store organization ids.package planTasks ids.workId) := by
  unfold generateWork WorkAccepted orderLink requestLink
  by_cases hauto : plan.autoGenerateWorkOrder = true
  · simp only [if_pos hauto]
    apply Program.Settles.bind
    refine (createWorkOrder_settles candidate asOf hmanages).mono ?_
      fun _ next hrefused => Or.inl hrefused
    rintro order ordered ⟨haccepted, ⟨hid, horganization, hstatus, hsource⟩, rfl⟩
    have hnew : order.id ∉ store.orders.ids := hid ▸ haccepted.2.2.1
    have hmade : ∀ next, PackageFrame { store with orders := store.orders.insert order } next →
        WorkMade plan ids store next := by
      intro next hnext
      refine ⟨?_, ⟨[order], ?_, ?_, ?_⟩, ⟨[], ?_, ?_, fun _ hrow => (nomatch hrow)⟩⟩
      · rw [hnext]
      · rw [hnext]
        exact Table.rows_insert hnew
      · rw [orderLink, if_pos hauto, List.map_singleton, hid]
        rfl
      · exact List.forall_mem_singleton.mpr hsource
      · rw [hnext]
        rfl
      · rw [requestLink, if_pos hauto]
        rfl
    apply Program.Settles.bind
    by_cases hfits : PackageFits services store organization ids.package planTasks ids.workId
    · have horder : Mutable { store with orders := store.orders.insert order } organization
          order := by
        refine ⟨require_eq_ok.mpr ?_, by rw [hstatus]; decide⟩
        rw [Table.get?_insert_self hnew]
        exact Option.filter_eq_some_iff.mpr ⟨rfl, decide_eq_true horganization⟩
      refine (populateWorkOrder_settles hmanages hplan horder (hid ▸ hfits)).mono ?_
        fun _ _ hfalse => hfalse.elim
      intro package next hnext
      exact Program.settles_pure.mpr ⟨haccepted, hmade next hnext, congrArg some hid, rfl⟩
    · refine populateWorkOrder_frame.mono ?_ fun _ next hnext =>
        Or.inr ⟨haccepted, hmade next hnext, fun hall => hfits (hall hauto)⟩
      intro package next hnext
      exact Program.settles_pure.mpr ⟨haccepted, hmade next hnext, congrArg some hid, rfl⟩
  · simp only [if_neg hauto]
    apply Program.Settles.bind
    refine (createWorkRequest_settles candidate asOf planTasks hmanages).mono ?_
      fun _ next hrefused => Or.inl hrefused
    rintro request next ⟨haccepted, ⟨hid, hstatus⟩, rfl⟩
    refine Program.settles_pure.mpr ⟨haccepted, ⟨rfl, ⟨[], rfl, ?_, fun _ hrow => (nomatch hrow)⟩,
      ⟨[request], ?_, ?_, ?_⟩⟩, rfl, congrArg some hid⟩
    · rw [orderLink, if_neg hauto]
      rfl
    · exact Table.rows_insert (hid ▸ haccepted.2.2.1)
    · rw [requestLink, if_neg hauto, List.map_singleton, hid]
      rfl
    · exact List.forall_mem_singleton.mpr hstatus

/-! ## Counters -/

/-- The due counter passes the reading of its sensor: at once, or by positive steps. -/
def CounterEnds (store : MaintenanceStore) (sensorId : Option String) (threshold : Option ℚ)
    (direction : Option SensorDirection) (nextDueCounter : Option ℚ) : Prop :=
  ∀ reading ∈ (linkedSensor store sensorId).bind Sensor.currentValue, ∀ step ∈ threshold,
    direction = some .greaterOrEqual → reading < nextDueCounter.getD step ∨ 0 < step

def PreventivePlan.CounterEnds (plan : PreventivePlan) (store : MaintenanceStore) : Prop :=
  Maintenance.CounterEnds store plan.sensorId plan.sensorThreshold plan.sensorDirection
    plan.nextDueCounter

def PreventivePlanTask.CounterEnds (planTask : PreventivePlanTask) (store : MaintenanceStore) :
    Prop :=
  Maintenance.CounterEnds store planTask.sensorIdOverride planTask.sensorThresholdOverride
    planTask.sensorDirectionOverride planTask.nextDueCounter

instance (store : MaintenanceStore) (sensorId : Option String) (threshold : Option ℚ)
    (direction : Option SensorDirection) (nextDueCounter : Option ℚ) :
    Decidable (CounterEnds store sensorId threshold direction nextDueCounter) :=
  inferInstanceAs (Decidable (∀ _ ∈ _, ∀ _ ∈ _, _ → _))

instance (plan : PreventivePlan) (store : MaintenanceStore) : Decidable (plan.CounterEnds store) :=
  inferInstanceAs (Decidable (CounterEnds store _ _ _ _))

instance (planTask : PreventivePlanTask) (store : MaintenanceStore) :
    Decidable (planTask.CounterEnds store) :=
  inferInstanceAs (Decidable (CounterEnds store _ _ _ _))

theorem nextSensorDueCounter_isSome {sensorId : Option String} {threshold : Option ℚ}
    {direction : Option SensorDirection} {nextDueCounter : Option ℚ} :
    (nextSensorDueCounter (linkedSensor store sensorId) threshold direction
      nextDueCounter).isSome = true ↔
        CounterEnds store sensorId threshold direction nextDueCounter := by
  unfold nextSensorDueCounter CounterEnds
  generalize (linkedSensor store sensorId).bind Sensor.currentValue = reading
  cases reading with
  | none => simp
  | some reading =>
      cases threshold with
      | none => simp
      | some step =>
          cases direction with
          | none => simp
          | some direction => cases direction <;> simp [passReading_isSome_iff]

theorem exists_generatedPlan {dueInstance : Option PreventivePlanInstance} :
    (∃ updated, generatedPlan store plan asOf dueInstance = .ok updated) ↔
      plan.CounterEnds store := by
  unfold PreventivePlan.CounterEnds
  rw [← nextSensorDueCounter_isSome, Option.isSome_iff_exists]
  constructor
  · rintro ⟨updated, hupdated⟩
    obtain ⟨counter, hcounter, -⟩ := bind_ok hupdated
    exact ⟨counter, require_eq_ok.mp hcounter⟩
  · rintro ⟨counter, hcounter⟩
    exact ⟨_, bind_eq_ok.mpr ⟨counter, require_eq_ok.mpr hcounter, rfl⟩⟩

theorem exists_saveGeneratedTask {planTask : PreventivePlanTask} :
    (∃ next, saveGeneratedTask store planTask asOf = .ok next) ↔ planTask.CounterEnds store := by
  unfold PreventivePlanTask.CounterEnds
  rw [← nextSensorDueCounter_isSome, Option.isSome_iff_exists]
  constructor
  · rintro ⟨next, hnext⟩
    obtain ⟨updated, hupdated, -⟩ := bind_ok hnext
    obtain ⟨counter, hcounter, -⟩ := bind_ok hupdated
    exact ⟨counter, require_eq_ok.mp hcounter⟩
  · rintro ⟨counter, hcounter⟩
    exact ⟨_, bind_eq_ok.mpr ⟨_, bind_eq_ok.mpr ⟨counter, require_eq_ok.mpr hcounter, rfl⟩, rfl⟩⟩

theorem applyPlanGenerationState_settles {dueInstance : Option PreventivePlanInstance}
    {requestId orderId : Option String} {replannedId : Moment → String} :
    (applyPlanGenerationState plan asOf dueInstance requestId orderId replannedId).Settles store
      (fun _ next => ∃ updated, generatedPlan store plan asOf dueInstance = .ok updated ∧
        (dueInstance = none →
          next = saveGeneration store updated asOf dueInstance requestId orderId) ∧
        (dueInstance.isSome = true → ∃ replanned, SyncedTo updated asOf replannedId
          (saveGeneration store updated asOf dueInstance requestId orderId) replanned next))
      fun _ next => (¬ plan.CounterEnds store ∧ next = store) ∨
        ∃ updated, generatedPlan store plan asOf dueInstance = .ok updated ∧
          next = saveGeneration store updated asOf dueInstance requestId orderId ∧
            dueInstance.isSome = true ∧ updated.usesCalendarInstances ∧
              ∃ e, syncInstances updated asOf replannedId next = .error e := by
  apply Program.Settles.bind
  rw [Program.settles_check]
  constructor
  · intro updated hupdated
    apply Program.Settles.bind
    refine Program.settles_save_of_ok rfl ?_
    by_cases hdue : dueInstance.isSome = true
    · rw [if_pos hdue]
      apply Program.Settles.bind
      refine syncCalendarPlanInstances_settles.mono ?_ ?_
      · intro replanned next hnext
        refine Program.settles_pure.mpr ⟨updated, hupdated, ?_, fun _ => ⟨replanned, hnext⟩⟩
        rintro rfl
        cases hdue
      · rintro e next ⟨rfl, huses, he⟩
        exact Or.inr ⟨updated, hupdated, rfl, hdue, huses, he⟩
    · rw [if_neg hdue]
      exact Program.settles_pure.mpr ⟨updated, hupdated, fun _ => rfl, fun h => absurd h hdue⟩
  · intro e he
    refine Or.inl ⟨fun hends => ?_, rfl⟩
    obtain ⟨updated, hupdated⟩ := exists_generatedPlan.mpr hends
    rw [hupdated] at he
    cases he

theorem applyPlanTaskGenerationState_settles {planTasks : List PreventivePlanTask} :
    (planTasks.forM fun planTask => applyPlanTaskGenerationState planTask asOf).Settles store
      (fun _ next => next = { store with planTasks := next.planTasks })
      fun _ next => next = { store with planTasks := next.planTasks } ∧
        ∃ planTask ∈ planTasks, ¬ planTask.CounterEnds store := by
  refine Program.settles_forM
    (fun _ (next : MaintenanceStore) => next = { store with planTasks := next.planTasks }) _ ?_ rfl
  intro before planTask after current hsplit hcurrent
  unfold applyPlanTaskGenerationState
  rw [Program.settles_save]
  constructor
  · intro next hnext
    obtain ⟨updated, -, hnext⟩ := bind_ok hnext
    cases hnext
    rw [hcurrent]
  · intro e he
    refine ⟨hcurrent, planTask, hsplit ▸ List.mem_append_right _ List.mem_cons_self, ?_⟩
    intro hends
    have hcurrentEnds : planTask.CounterEnds current := by
      rw [hcurrent]
      exact hends
    obtain ⟨next, hnext⟩ := exists_saveGeneratedTask.mpr hcurrentEnds
    rw [hnext] at he
    cases he

end ProjectManager.Maintenance
