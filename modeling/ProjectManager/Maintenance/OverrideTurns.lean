import ProjectManager.Maintenance.AtomicGeneration
import ProjectManager.Maintenance.DueViews
import ProjectManager.Maintenance.SensorCounters

/-! # Work for overrides alone

When tasks with triggers of their own are due and their plan is not, the plan is saved
as after a generation of its own: its due date is counted from the generation, and its
counter is advanced.
-/

namespace ProjectManager.Maintenance

open Foundation

variable {services : MaintenanceServices} {store middle next : MaintenanceStore}
  {organization : String} {plan updated : PreventivePlan} {ids : TurnIds} {asOf : Moment}
  {candidate : DueCandidate}

/-! ## Generated records -/

/-- Orders, requests, tasks and steps are added, and nothing else changes. -/
structure WorkAdded (store next : MaintenanceStore) : Prop where
  frame : next = { store with
    orders := next.orders
    requests := next.requests
    orderTasks := next.orderTasks
    taskSteps := next.taskSteps }
  orders : store.orders.rows <:+ next.orders.rows
  requests : store.requests.rows <:+ next.requests.rows
  tasks : store.orderTasks.rows <:+ next.orderTasks.rows
  steps : store.taskSteps.rows <:+ next.taskSteps.rows

theorem WorkAdded.refl (store : MaintenanceStore) : WorkAdded store store :=
  ⟨rfl, List.suffix_rfl, List.suffix_rfl, List.suffix_rfl, List.suffix_rfl⟩

theorem WorkAdded.trans (hfirst : WorkAdded store middle) (hsecond : WorkAdded middle next) :
    WorkAdded store next where
  frame := by
    rw [hsecond.frame, hfirst.frame]
  orders := hfirst.orders.trans hsecond.orders
  requests := hfirst.requests.trans hsecond.requests
  tasks := hfirst.tasks.trans hsecond.tasks
  steps := hfirst.steps.trans hsecond.steps

theorem createTask_adds {arguments : CreateTaskArguments} :
    (createTask services arguments).Settles store (fun _ => WorkAdded store)
      fun _ => WorkAdded store := by
  unfold createTask
  rw [Program.settles_transact]
  refine ⟨fun row _ => ⟨?_, fun _ _ => .refl store⟩, fun _ _ => .refl store⟩
  intro next hsaved
  obtain ⟨_, -, hnext⟩ := bind_ok hsaved
  cases hnext
  exact { WorkAdded.refl store with frame := rfl, tasks := Table.suffix_insert row }

theorem createStep_adds {arguments : CreateStepArguments} :
    (createStep services arguments).Settles store (fun _ => WorkAdded store)
      fun _ => WorkAdded store := by
  unfold createStep
  rw [Program.settles_transact]
  refine ⟨fun row _ => ⟨?_, fun _ _ => .refl store⟩, fun _ _ => .refl store⟩
  intro next hsaved
  obtain ⟨_, -, hnext⟩ := bind_ok hsaved
  cases hnext
  exact { WorkAdded.refl store with frame := rfl, steps := Table.suffix_insert row }

theorem populateWorkOrder_adds {planTasks : List PreventivePlanTask} {workOrderId : String}
    {packageIds : PackageIds} :
    (populateWorkOrder services plan planTasks workOrderId packageIds).Settles store
      (fun _ => WorkAdded store) fun _ => WorkAdded store := by
  refine Program.settles_foldlM (fun _ _ => WorkAdded store) _ ?_ (.refl store)
  intro _ planTask _ package current _ hcurrent
  apply Program.Settles.bind
  rw [Program.settles_check]
  refine ⟨fun template _ => ?_, fun _ _ => hcurrent⟩
  apply Program.Settles.bind
  rw [Program.settles_read]
  apply Program.Settles.bind
  refine createTask_adds.mono ?_ fun _ next hnext => hcurrent.trans hnext
  intro task afterTask hafterTask
  refine Program.settles_foldlM (fun _ _ => WorkAdded store) _ ?_ (hcurrent.trans hafterTask)
  intro _ stepTemplate _ package middle _ hmiddle
  apply Program.Settles.bind
  refine createStep_adds.mono ?_ fun _ next hnext => hmiddle.trans hnext
  intro step afterStep hafterStep
  exact Program.settles_pure.mpr (hmiddle.trans hafterStep)

theorem generateWork_adds {planTasks : List PreventivePlanTask}
    (hmanages : Manages services organization) :
    (generateWork services plan candidate asOf planTasks ids).Settles store
      (fun _ => WorkAdded store) fun _ => WorkAdded store := by
  unfold generateWork
  by_cases hauto : plan.autoGenerateWorkOrder = true
  · simp only [if_pos hauto]
    apply Program.Settles.bind
    refine (createWorkOrder_settles candidate asOf hmanages).mono ?_ ?_
    · rintro order _ ⟨-, -, rfl⟩
      have hordered : WorkAdded store { store with orders := store.orders.insert order } :=
        { WorkAdded.refl store with frame := rfl, orders := Table.suffix_insert order }
      apply Program.Settles.bind
      refine populateWorkOrder_adds.mono ?_ fun _ next hnext => hordered.trans hnext
      intro package next hnext
      exact Program.settles_pure.mpr (hordered.trans hnext)
    · rintro _ _ ⟨-, rfl⟩
      exact .refl _
  · simp only [if_neg hauto]
    apply Program.Settles.bind
    refine (createWorkRequest_settles candidate asOf planTasks hmanages).mono ?_ ?_
    · rintro request _ ⟨-, -, rfl⟩
      apply Program.settles_pure.mpr
      exact { WorkAdded.refl store with frame := rfl, requests := Table.suffix_insert request }
    · rintro _ _ ⟨-, rfl⟩
      exact .refl _

/-! ## The states of the tasks -/

/-- The tasks get new dates and counters, and nothing else changes. -/
structure TasksCounted (planTasks : List PreventivePlanTask) (store next : MaintenanceStore) :
    Prop where
  frame : next = { store with planTasks := next.planTasks }
  others : ∀ row : PreventivePlanTask, row.id ∉ planTasks.map PreventivePlanTask.id →
    (row ∈ next.planTasks.rows ↔ row ∈ store.planTasks.rows)
  counted : ∀ row ∈ next.planTasks.rows, row ∈ store.planTasks.rows ∨
    ∃ planTask ∈ planTasks, row = { planTask with
      lastGeneratedAt := row.lastGeneratedAt
      nextDueAt := row.nextDueAt
      nextDueCounter := row.nextDueCounter }

theorem TasksCounted.refl (planTasks : List PreventivePlanTask) (store : MaintenanceStore) :
    TasksCounted planTasks store store :=
  ⟨rfl, fun _ _ => Iff.rfl, fun _ hrow => Or.inl hrow⟩

theorem TasksCounted.save {planTasks : List PreventivePlanTask} {planTask : PreventivePlanTask}
    (h : TasksCounted planTasks store middle) (hmem : planTask ∈ planTasks)
    (hsaved : saveGeneratedTask middle planTask asOf = .ok next) :
    TasksCounted planTasks store next := by
  obtain ⟨updated, hupdated, hnext⟩ := bind_ok hsaved
  obtain ⟨counter, -, hupdated⟩ := bind_ok hupdated
  cases hupdated
  cases hnext
  constructor
  · rw [h.frame]
  · intro row hrow
    rw [← h.others row hrow]
    have hne : row.id ≠ planTask.id := fun hid =>
      hrow (hid ▸ List.mem_map_of_mem hmem)
    rw [Table.mem_update_iff]
    constructor
    · rintro (⟨rfl, -⟩ | ⟨hold, -⟩)
      · exact absurd rfl hne
      · exact hold
    · exact fun hold => Or.inr ⟨hold, hne⟩
  · intro row hrow
    rcases Table.mem_update_iff.mp hrow with ⟨rfl, -⟩ | ⟨hold, -⟩
    · exact Or.inr ⟨planTask, hmem, rfl⟩
    · exact h.counted row hold

theorem applyPlanTaskGenerationState_counts {planTasks : List PreventivePlanTask} :
    (planTasks.forM fun planTask => applyPlanTaskGenerationState planTask asOf).Settles store
      (fun _ => TasksCounted planTasks store) fun _ => TasksCounted planTasks store := by
  refine Program.settles_forM (fun _ => TasksCounted planTasks store) _ ?_ (.refl planTasks store)
  intro before planTask after current hsplit hcurrent
  unfold applyPlanTaskGenerationState
  rw [Program.settles_save]
  refine ⟨fun next hnext => ?_, fun _ _ => hcurrent⟩
  exact hcurrent.save (hsplit ▸ List.mem_append_right _ List.mem_cons_self) hnext

/-! ## The plan -/

/-- Tasks are due by triggers of their own. The plan is not due, and no instance of it is. -/
structure OverridesDue (store : MaintenanceStore) (plan : PreventivePlan) (asOf : Moment) :
    Prop where
  stored : plan ∈ store.plans.rows
  tasksDue : (buildCandidate store plan asOf).dueState = .due
  planNotDue : (evaluatePlan store plan asOf).due = false
  unselected : selectDueInstance store plan asOf = none

/-- A usable reading is below the counter. Without one there is no counter. -/
def CounterStays (store : MaintenanceStore) (plan : PreventivePlan) : Prop :=
  let reading := (linkedSensor store plan.sensorId).bind Sensor.currentValue
  (∀ value ∈ reading, ∀ step ∈ plan.sensorThreshold,
      plan.sensorDirection = some .greaterOrEqual →
        ∃ counter ∈ plan.nextDueCounter, value < counter) ∧
    (reading = none ∨ plan.sensorThreshold = none ∨ plan.sensorDirection = none →
      plan.nextDueCounter = none)

instance (store : MaintenanceStore) (plan : PreventivePlan) : Decidable (CounterStays store plan) :=
  inferInstanceAs (Decidable ((∀ _ ∈ _, ∀ _ ∈ _, _ → ∃ _ ∈ _, _) ∧ (_ → _)))

/-- The due date of the plan is one period after the generation, and its counter stays. -/
structure KeepsSchedule (store : MaintenanceStore) (plan : PreventivePlan) (asOf : Moment) :
    Prop where
  dueDate : plan.nextDueAt = plan.frequency.map fun given => dueAfter given asOf
  counter : CounterStays store plan

/-- The planned instances, the due date and the counter of the plan are as before. -/
structure Undisturbed (plan : PreventivePlan) (store next : MaintenanceStore) : Prop where
  planned : listPlanned next plan = listPlanned store plan
  schedule : ∃ row ∈ next.plans.rows, row.id = plan.id ∧ row.nextDueAt = plan.nextDueAt ∧
    row.nextDueCounter = plan.nextDueCounter

/-- Records are generated, the plan is saved with its generation, and of the given tasks the dates
and the counters change. -/
structure OnlyOverrides (plan : PreventivePlan) (planTasks : List PreventivePlanTask)
    (store next : MaintenanceStore) : Prop where
  frame : next = { store with
    orders := next.orders
    requests := next.requests
    orderTasks := next.orderTasks
    taskSteps := next.taskSteps
    plans := next.plans
    planTasks := next.planTasks }
  orders : store.orders.rows <:+ next.orders.rows
  requests : store.requests.rows <:+ next.requests.rows
  orderTasks : store.orderTasks.rows <:+ next.orderTasks.rows
  taskSteps : store.taskSteps.rows <:+ next.taskSteps.rows
  otherPlans : ∀ row : PreventivePlan, row.id ≠ plan.id →
    (row ∈ next.plans.rows ↔ row ∈ store.plans.rows)
  plan : ∃ row ∈ next.plans.rows, row = { plan with
    lastGeneratedAt := row.lastGeneratedAt
    nextDueAt := row.nextDueAt
    nextDueCounter := row.nextDueCounter }
  otherTasks : ∀ row : PreventivePlanTask, row.id ∉ planTasks.map PreventivePlanTask.id →
    (row ∈ next.planTasks.rows ↔ row ∈ store.planTasks.rows)
  tasks : ∀ row ∈ next.planTasks.rows, row ∈ store.planTasks.rows ∨
    ∃ planTask ∈ planTasks, row = { planTask with
      lastGeneratedAt := row.lastGeneratedAt
      nextDueAt := row.nextDueAt
      nextDueCounter := row.nextDueCounter }

theorem listPlanned_congr (h : next.instances = store.instances) :
    listPlanned next plan = listPlanned store plan := by
  unfold listPlanned listInstances
  rw [h]

theorem counterStays_iff :
    nextSensorDueCounter (linkedSensor store plan.sensorId) plan.sensorThreshold
        plan.sensorDirection plan.nextDueCounter = some plan.nextDueCounter ↔
      CounterStays store plan := by
  unfold CounterStays nextSensorDueCounter
  generalize (linkedSensor store plan.sensorId).bind Sensor.currentValue = reading
  cases reading with
  | none => simp [eq_comm]
  | some value =>
      cases plan.sensorThreshold with
      | none => simp [eq_comm]
      | some step =>
          cases plan.sensorDirection with
          | none => simp [eq_comm]
          | some direction =>
              cases direction with
              | lessOrEqual | equal => simp
              | greaterOrEqual =>
                  cases plan.nextDueCounter with
                  | none => simp
                  | some counter =>
                      have hpassed : passReading value step counter = some counter ↔
                          value < counter :=
                        ⟨fun h => (passLoop_eq_some h).1.1, passReading_of_lt⟩
                      simpa using hpassed

namespace OnlyOverrides

variable {planTasks : List PreventivePlanTask}

theorem of_unsaved (hstored : plan ∈ store.plans.rows) (hadded : WorkAdded store next) :
    OnlyOverrides plan planTasks store next ∧ Undisturbed plan store next := by
  have hplans : next.plans = store.plans := by rw [hadded.frame]
  have hinstances : next.instances = store.instances := by rw [hadded.frame]
  have htasks : next.planTasks = store.planTasks := by rw [hadded.frame]
  constructor
  · constructor
    · rw [hadded.frame]
    · exact hadded.orders
    · exact hadded.requests
    · exact hadded.tasks
    · exact hadded.steps
    · exact fun row _ => hplans ▸ Iff.rfl
    · exact ⟨plan, hplans ▸ hstored, rfl⟩
    · exact fun row _ => htasks ▸ Iff.rfl
    · exact fun row hrow => Or.inl (htasks ▸ hrow)
  · exact ⟨listPlanned_congr hinstances, plan, hplans ▸ hstored, rfl, rfl, rfl⟩

theorem of_saved {worked : MaintenanceStore} (hstored : plan ∈ store.plans.rows)
    (hadded : WorkAdded store worked) (hupdated : generatedPlan worked plan asOf none = .ok updated)
    (hcounted : TasksCounted planTasks { worked with plans := worked.plans.update updated } next) :
    OnlyOverrides plan planTasks store next ∧
      (Undisturbed plan store next ↔ KeepsSchedule store plan asOf) := by
  have hplans : next.plans = store.plans.update updated := by
    rw [hcounted.frame, hadded.frame]
  have hinstances : next.instances = store.instances := by
    rw [hcounted.frame, hadded.frame]
  obtain ⟨counter, hcounter, hrow⟩ := bind_ok hupdated
  have hcounter : nextSensorDueCounter (linkedSensor store plan.sensorId) plan.sensorThreshold
      plan.sensorDirection plan.nextDueCounter = some counter := by
    rw [← require_eq_ok.mp hcounter, hadded.frame]
    rfl
  replace hrow := (Except.ok.inj hrow).symm
  have hid : updated.id = plan.id := by rw [hrow]
  have hdue : updated.nextDueAt = plan.frequency.map fun given => dueAfter given asOf := by
    rw [hrow]
    rfl
  have hcount : updated.nextDueCounter = counter := by rw [hrow]
  have hmem : updated ∈ next.plans.rows := hplans ▸ Table.mem_update_self hstored hid
  constructor
  · constructor
    · rw [hcounted.frame, hadded.frame]
    · rw [hcounted.frame]
      exact hadded.orders
    · rw [hcounted.frame]
      exact hadded.requests
    · rw [hcounted.frame]
      exact hadded.tasks
    · rw [hcounted.frame]
      exact hadded.steps
    · intro row hne
      rw [hplans]
      exact mem_update_other (hid ▸ hne)
    · refine ⟨updated, hmem, ?_⟩
      rw [hrow]
    · intro row hne
      rw [hcounted.others row hne, hadded.frame]
    · intro row hrow
      rw [hadded.frame] at hcounted
      exact hcounted.counted row hrow
  · constructor
    · rintro ⟨-, row, hrowMem, hrowId, hrowDue, hrowCount⟩
      rw [hplans] at hrowMem
      rcases Table.mem_update_iff.mp hrowMem with ⟨rfl, -⟩ | ⟨-, hne⟩
      · refine ⟨hrowDue.symm.trans hdue, counterStays_iff.mp (hcounter.trans ?_)⟩
        exact congrArg some (hcount.symm.trans hrowCount)
      · exact absurd (hrowId.trans hid.symm) hne
    · rintro ⟨hkeptDue, hkeptCount⟩
      refine ⟨listPlanned_congr hinstances, updated, hmem, hid, hdue.trans hkeptDue.symm, ?_⟩
      rw [hcount]
      exact Option.some.inj (hcounter.symm.trans (counterStays_iff.mpr hkeptCount))

end OnlyOverrides

/-- A generation for overrides leaves all but their own rows and the plan alone. The schedule of
the plan is as before exactly when it happens to be what the generation sets. -/
theorem generateCandidate_undisturbed (hmanages : Manages services plan.organizationId)
    (h : OverridesDue store plan asOf) :
    (generateCandidate services plan.organizationId plan (buildCandidate store plan asOf) asOf
        ids).Settles store
      (fun _ next => OnlyOverrides plan (candidateTasks store plan asOf) store next ∧
        (Undisturbed plan store next ↔ KeepsSchedule store plan asOf))
      fun _ next => OnlyOverrides plan (candidateTasks store plan asOf) store next ∧
        (KeepsSchedule store plan asOf → Undisturbed plan store next) := by
  have htasks := selectedPlanTasks_eq h.tasksDue
  apply Program.Settles.bind
  rw [Program.settles_read, h.unselected]
  apply Program.Settles.bind
  rw [Program.settles_read, htasks]
  apply Program.Settles.bind
  refine (generateWork_adds hmanages).mono ?_ ?_
  · intro result worked hadded
    apply Program.Settles.bind
    refine applyPlanGenerationState_settles.mono ?_ ?_
    · rintro _ saved ⟨updated, hupdated, hunscheduled, -⟩
      have hsaved : saved = { worked with plans := worked.plans.update updated } := hunscheduled rfl
      subst hsaved
      apply Program.Settles.bind
      refine applyPlanTaskGenerationState_counts.mono ?_ ?_
      · intro _ next hcounted
        exact Program.settles_pure.mpr (OnlyOverrides.of_saved h.stored hadded hupdated hcounted)
      · intro _ next hcounted
        exact (OnlyOverrides.of_saved h.stored hadded hupdated hcounted).imp_right Iff.mpr
    · rintro e next (⟨-, rfl⟩ | ⟨_, -, -, hsome, -⟩)
      · exact (OnlyOverrides.of_unsaved h.stored hadded).imp_right fun hkept _ => hkept
      · cases hsome
  · intro e next hadded
    exact (OnlyOverrides.of_unsaved h.stored hadded).imp_right fun hkept _ => hkept

/-! ## A pump that is inspected every week and greased every day -/

def weeklyPump (dueAt : Moment) : PreventivePlan :=
  { pumpPlan 1 with
    calendarFrequencyUnit := some .weekly
    nextDueAt := some dueAt }

def weeklyYard (dueAt : Moment) : MaintenanceStore :=
  { pumpYard 1 with
    plans := ⟨[weeklyPump dueAt], List.nodup_singleton _⟩
    planTasks := ⟨[{ id := "greasing", organizationId := "org", planId := "pump"
                     taskTemplateId := "grease", triggerScope := .taskOverride
                     triggerModeOverride := some .calendar
                     calendarFrequencyUnitOverride := some .daily
                     calendarFrequencyValueOverride := some 1 }], by decide⟩
    instances :=
      { rows := [{ id := "first", organizationId := "org", planId := "pump", dueAt := dueAt }]
        nodup := List.nodup_singleton _
        column_nodup := List.nodup_singleton _ } }

/-- An inspection that is due on the eighth day. -/
def keptPump : PreventivePlan := weeklyPump (8 * Moment.day)

def keptYard : MaintenanceStore := weeklyYard (8 * Moment.day)

theorem keptYard_overridesDue : OverridesDue keptYard keptPump Moment.day where
  stored := List.mem_cons_self
  tasksDue := by decide +kernel
  planNotDue := by decide +kernel
  unselected := by decide +kernel

def weeklyGeneration (plan : PreventivePlan) (store : MaintenanceStore) :
    MaintenanceProgram GenerationResult :=
  generateCandidate maintenanceAdmin plan.organizationId plan
    (buildCandidate store plan Moment.day) Moment.day (pumpIds "1")

/-- The greasing on the first day leaves it there. -/
theorem generateCandidate_undisturbed_keptYard :
    KeepsSchedule keptYard keptPump Moment.day ∧
      (weeklyGeneration keptPump keptYard).Settles keptYard
        (fun _ next =>
          OnlyOverrides keptPump (candidateTasks keptYard keptPump Moment.day) keptYard next ∧
            (Undisturbed keptPump keptYard next ↔ KeepsSchedule keptYard keptPump Moment.day))
        fun _ next =>
          OnlyOverrides keptPump (candidateTasks keptYard keptPump Moment.day) keptYard next ∧
            (KeepsSchedule keptYard keptPump Moment.day → Undisturbed keptPump keptYard next) :=
  ⟨⟨by decide +kernel, by decide +kernel⟩,
    @generateCandidate_undisturbed maintenanceAdmin keptYard keptPump (pumpIds "1") Moment.day
      ⟨rfl, rfl⟩ keptYard_overridesDue⟩

/-- It puts off an inspection that is due on the fifth day to the eighth. -/
theorem not_undisturbed_weeklyYard :
    let pump := weeklyPump (5 * Moment.day)
    let yard := weeklyYard (5 * Moment.day)
    let outcome := (weeklyGeneration pump yard).outcome (.clean yard)
    outcome.1 = none ∧
      outcome.2.committed.plans.rows.map PreventivePlan.nextDueAt = [some (8 * Moment.day)] ∧
      ¬ Undisturbed pump yard outcome.2.committed := by
  intro pump yard outcome
  refine ⟨by decide +kernel, by decide +kernel, ?_⟩
  rintro ⟨-, row, hrow, -, hdue, -⟩
  have hmoved : ∀ row ∈ outcome.2.committed.plans.rows, row.nextDueAt ≠ pump.nextDueAt := by
    decide +kernel
  exact hmoved row hrow hdue

end ProjectManager.Maintenance
