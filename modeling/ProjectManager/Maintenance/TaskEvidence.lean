import ProjectManager.Maintenance.WorkOrderTasks

/-! # Evidence of completed work

The steps of a task are looked at when it is completed, and the measurement of a step
when it is done. Later changes of either keep the evidence only where they do not touch
what the completion rested on.
-/

namespace ProjectManager.Maintenance

open Foundation

/-- Completed tasks that require all their steps have them done, confirmed and measured, and so is
every step that requires a measurement. -/
structure Evidence (store : MaintenanceStore) : Prop where
  tasks : ∀ task ∈ store.orderTasks.rows, task.status = .completed →
    taskStepsSatisfyCompletionRule task (stepsOfTask store task.organizationId task.id) = true
  steps : ∀ step ∈ store.taskSteps.rows, step.status = .done → step.requiresMeasurement = true →
    strip step.measurementValue ≠ ""

/-- The task counts as evidence that its steps are done. -/
def WorkOrderTask.Closed (task : WorkOrderTask) : Prop :=
  task.status = .completed ∧ task.completionRule = .allStepsRequired

instance (task : WorkOrderTask) : Decidable task.Closed := inferInstanceAs (Decidable (_ ∧ _))

theorem satisfies_iff {task : WorkOrderTask} {steps : List WorkOrderTaskStep} :
    taskStepsSatisfyCompletionRule task steps = true ↔
      (task.completionRule = .allStepsRequired → steps ≠ [] ∧
        ∀ step ∈ steps, stepSatisfies step = true) := by
  unfold taskStepsSatisfyCompletionRule
  rw [decide_eq_true_iff, List.all_eq_true]
  tauto

theorem Evidence.closed_iff {store : MaintenanceStore} :
    Evidence store ↔
      (∀ task ∈ store.orderTasks.rows, task.Closed →
        stepsOfTask store task.organizationId task.id ≠ [] ∧
          ∀ step ∈ stepsOfTask store task.organizationId task.id, stepSatisfies step = true) ∧
      ∀ step ∈ store.taskSteps.rows, step.status = .done → step.requiresMeasurement = true →
        strip step.measurementValue ≠ "" := by
  constructor
  · rintro ⟨htasks, hsteps⟩
    exact ⟨fun task hmem hclosed => satisfies_iff.mp (htasks task hmem hclosed.1) hclosed.2, hsteps⟩
  · rintro ⟨htasks, hsteps⟩
    exact ⟨fun task hmem hcompleted => satisfies_iff.mpr fun hrule =>
      htasks task hmem ⟨hcompleted, hrule⟩, hsteps⟩

theorem stepSatisfies_iff {step : WorkOrderTaskStep} : stepSatisfies step = true ↔
    step.status = .done ∧ (step.requiresConfirmation = true → step.confirmedAt ≠ none) ∧
      (step.requiresMeasurement = true → strip step.measurementValue ≠ "") := by
  unfold stepSatisfies
  rw [decide_eq_true_iff, not_and, not_and]

theorem mem_stepsOfTask {store : MaintenanceStore} {organization workOrderTaskId : String}
    {step : WorkOrderTaskStep} : step ∈ stepsOfTask store organization workOrderTaskId ↔
      step ∈ store.taskSteps.rows ∧ step.organizationId = organization ∧
        step.workOrderTaskId = workOrderTaskId := by
  unfold stepsOfTask
  rw [List.mem_filter, decide_eq_true_iff]

/-! ## Writes of tasks -/

section

variable {store : MaintenanceStore} {row : WorkOrderTask}

theorem Evidence.write_task (h : Evidence store) {tasks : Table WorkOrderTask.id}
    (hrows : ∀ task ∈ tasks.rows, task = row ∨ task ∈ store.orderTasks.rows)
    (hrow : row.status = .completed → taskStepsSatisfyCompletionRule row
      (stepsOfTask store row.organizationId row.id) = true) :
    Evidence { store with orderTasks := tasks } where
  tasks := by
    intro task htask hcompleted
    rcases hrows task htask with rfl | htask
    · exact hrow hcompleted
    · exact h.tasks task htask hcompleted
  steps := h.steps

theorem Evidence.insert_task (h : Evidence store) (hnew : row.status = .notStarted) :
    Evidence { store with orderTasks := store.orderTasks.insert row } := by
  refine h.write_task (fun _ => Table.mem_insert) fun hcompleted => ?_
  rw [hnew] at hcompleted
  cases hcompleted

theorem Evidence.update_task (h : Evidence store)
    (hrow : row.status = .completed → taskStepsSatisfyCompletionRule row
      (stepsOfTask store row.organizationId row.id) = true) :
    Evidence { store with orderTasks := store.orderTasks.update row } := by
  refine h.write_task (fun task htask => ?_) hrow
  rcases Table.mem_update_iff.mp htask with ⟨heq, -⟩ | ⟨htask, -⟩
  · exact Or.inl heq
  · exact Or.inr htask

end

section

variable {store : MaintenanceStore} {row stored : WorkOrderTaskStep}

theorem Evidence.insert_step (h : Evidence store) (hfresh : row.id ∉ store.taskSteps.ids)
    (hnew : row.status = .notStarted)
    (hopen : ∀ task ∈ store.orderTasks.rows, task.id = row.workOrderTaskId → ¬ task.Closed) :
    Evidence { store with taskSteps := store.taskSteps.insert row } := by
  obtain ⟨htasks, hsteps⟩ := Evidence.closed_iff.mp h
  refine Evidence.closed_iff.mpr ⟨fun task htask hclosed => ?_, fun step hstep hdone => ?_⟩
  · have hother : ¬ (row.organizationId = task.organizationId ∧ row.workOrderTaskId = task.id) :=
      fun hof => hopen task htask hof.2.symm hclosed
    have hsame : stepsOfTask { store with taskSteps := store.taskSteps.insert row }
        task.organizationId task.id = stepsOfTask store task.organizationId task.id := by
      unfold stepsOfTask
      rw [Table.rows_insert hfresh, List.filter_cons_of_neg (by simpa using hother)]
    rw [hsame]
    exact htasks task htask hclosed
  · rcases Table.mem_insert hstep with rfl | hstep
    · rw [hnew] at hdone
      cases hdone
    · exact hsteps step hstep hdone

theorem Evidence.update_step (h : Evidence store) (hstored : store.taskSteps.get? row.id = some stored)
    (horganization : row.organizationId = stored.organizationId)
    (htask : row.workOrderTaskId = stored.workOrderTaskId)
    (hclosed : ∀ task ∈ store.orderTasks.rows, task.id = stored.workOrderTaskId → task.Closed →
      stepSatisfies stored = true → stepSatisfies row = true)
    (hmeasured : row.status = .done → row.requiresMeasurement = true →
      strip row.measurementValue ≠ "") :
    Evidence { store with taskSteps := store.taskSteps.update row } := by
  obtain ⟨hmem, hkey⟩ := Table.get?_eq_some_iff.mp hstored
  obtain ⟨htasks, hsteps⟩ := Evidence.closed_iff.mp h
  refine Evidence.closed_iff.mpr ⟨fun task hrow htaskClosed => ?_, fun step hstep => ?_⟩
  · obtain ⟨hsome, hall⟩ := htasks task hrow htaskClosed
    -- The steps of the task are those that it had, one of them perhaps changed.
    have hof : ∀ step ∈ stepsOfTask { store with taskSteps := store.taskSteps.update row }
        task.organizationId task.id, stepSatisfies step = true := by
      intro step hstep
      obtain ⟨hupdated, hplace⟩ := mem_stepsOfTask.mp hstep
      rcases Table.mem_update_iff.mp hupdated with ⟨rfl, -⟩ | ⟨hold, -⟩
      · have hplaced := mem_stepsOfTask.mpr
          ⟨hmem, horganization ▸ hplace.1, htask ▸ hplace.2⟩
        exact hclosed task hrow (hplace.2.symm.trans htask) htaskClosed (hall stored hplaced)
      · exact hall step (mem_stepsOfTask.mpr ⟨hold, hplace⟩)
    refine ⟨?_, hof⟩
    obtain ⟨step, hstep⟩ := List.exists_mem_of_ne_nil _ hsome
    obtain ⟨hold, hplace⟩ := mem_stepsOfTask.mp hstep
    by_cases hid : step.id = row.id
    · obtain rfl := store.taskSteps.eq_of_key_eq hold hmem (hid.trans hkey.symm)
      exact List.ne_nil_of_mem (mem_stepsOfTask.mpr
        ⟨Table.mem_update_self hmem hkey.symm, horganization ▸ hplace.1, htask ▸ hplace.2⟩)
    · exact List.ne_nil_of_mem (mem_stepsOfTask.mpr
        ⟨Table.mem_update_iff.mpr (Or.inr ⟨hold, hid⟩), hplace⟩)
  · rcases Table.mem_update_iff.mp hstep with ⟨rfl, -⟩ | ⟨hold, -⟩
    · exact hmeasured
    · exact hsteps step hold

end

/-! ## What the calls write -/

section

variable {services : MaintenanceServices} {store next : MaintenanceStore}

theorem prepareTask_status {arguments : CreateTaskArguments} {row : WorkOrderTask}
    (h : prepareTask services store arguments = .ok row) : row.status = .notStarted := by
  unfold prepareTask at h
  iterate 10 obtain ⟨_, _, h⟩ := bind_ok h
  cases h
  rfl

theorem requireTask_eq_ok {organization workOrderTaskId : String} {task : WorkOrderTask}
    (h : requireTask store organization workOrderTaskId = .ok task) :
    store.orderTasks.get? workOrderTaskId = some task ∧ task.organizationId = organization := by
  obtain ⟨hfound, horganization⟩ := Option.filter_eq_some_iff.mp (require_eq_ok.mp h)
  exact ⟨hfound, of_decide_eq_true horganization⟩

theorem prepareStep_eq_ok {arguments : CreateStepArguments} {row : WorkOrderTaskStep}
    (h : prepareStep services store arguments = .ok row) :
    row.status = .notStarted ∧ row.workOrderTaskId = arguments.workOrderTaskId := by
  unfold prepareStep at h
  obtain ⟨_, _, h⟩ := bind_ok h
  obtain ⟨_, _, h⟩ := bind_ok h
  obtain ⟨task, htask, h⟩ := bind_ok h
  iterate 5 obtain ⟨_, _, h⟩ := bind_ok h
  cases h
  exact ⟨rfl, (Table.get?_eq_some_iff.mp (requireTask_eq_ok htask).1).2⟩

theorem getTask_eq_ok {workOrderTaskId : String} {task : WorkOrderTask}
    (h : getTask services store workOrderTaskId = .ok task) :
    store.orderTasks.get? workOrderTaskId = some task := by
  obtain ⟨_, _, h⟩ := bind_ok h
  obtain ⟨_, _, h⟩ := bind_ok h
  obtain ⟨found, hfound, h⟩ := bind_ok h
  obtain ⟨_, _, h⟩ := bind_ok h
  cases h
  exact (requireTask_eq_ok hfound).1

theorem getStep_eq_ok {workOrderTaskStepId : String} {step : WorkOrderTaskStep}
    (h : getStep services store workOrderTaskStepId = .ok step) :
    store.taskSteps.get? workOrderTaskStepId = some step := by
  obtain ⟨_, _, h⟩ := bind_ok h
  obtain ⟨_, _, h⟩ := bind_ok h
  obtain ⟨found, hfound, h⟩ := bind_ok h
  obtain ⟨_, _, h⟩ := bind_ok h
  cases h
  exact (Option.filter_eq_some_iff.mp (require_eq_ok.mp hfound)).1

theorem changedTask_eq_ok {task changed : WorkOrderTask} {arguments : UpdateTaskArguments}
    (h : changedTask services store task arguments = .ok changed) :
    changed.id = task.id ∧ changed.organizationId = task.organizationId ∧
      changed.status = task.status ∧
      givenOr arguments.completionRule task.completionRule
        (fun given => coerceTaskCompletionRule (some given)) = .ok changed.completionRule := by
  unfold changedTask at h
  iterate 3 obtain ⟨_, _, h⟩ := bind_ok h
  obtain ⟨rule, hrule, h⟩ := bind_ok h
  obtain ⟨_, _, h⟩ := bind_ok h
  cases h
  exact ⟨rfl, rfl, rfl, hrule⟩

/-- A status that is given is checked; without one the task keeps its status. -/
theorem changeTaskStatus_eq_ok {task changed : WorkOrderTask}
    {status : Option (Choice WorkOrderTaskStatus)}
    (h : changeTaskStatus services store task status = .ok changed) :
    changed.id = task.id ∧ changed.organizationId = task.organizationId ∧
      changed.completionRule = task.completionRule ∧
      (changed.status = .completed → task.status = .completed ∨
        taskStepsSatisfyCompletionRule task (stepsOfTask store task.organizationId task.id) =
          true) := by
  cases status with
  | none =>
      cases h
      exact ⟨rfl, rfl, rfl, Or.inl⟩
  | some given =>
      obtain ⟨newStatus, _, h⟩ := bind_ok h
      obtain ⟨_, _, h⟩ := bind_ok h
      by_cases hcompleted : newStatus = .completed
      · rw [if_pos hcompleted] at h
        obtain ⟨_, hvalid, h⟩ := bind_ok h
        cases h
        refine ⟨rfl, rfl, rfl, fun _ => Or.inr ?_⟩
        rcases ensure_eq_ok.mp hvalid with hnone | hsatisfied
        · exact satisfies_iff.mpr fun hall => absurd (hnone.symm.trans hall) (by decide)
        · exact hsatisfied
      · rw [if_neg hcompleted] at h
        cases h
        exact ⟨rfl, rfl, rfl, fun heq => absurd heq hcompleted⟩

/-- The condition on an update of a completed task: a rule that is given finds its steps done. -/
def RuleStays (store : MaintenanceStore) (arguments : UpdateTaskArguments) : Prop :=
  ∀ task, store.orderTasks.get? arguments.workOrderTaskId = some task → task.status = .completed →
    ∀ given, arguments.completionRule = some given →
      coerceTaskCompletionRule (some given) = .ok .allStepsRequired →
        taskStepsSatisfyCompletionRule { task with completionRule := .allStepsRequired }
          (stepsOfTask store task.organizationId task.id) = true

theorem prepareUpdatedTask_evidence {arguments : UpdateTaskArguments} {row : WorkOrderTask}
    (hstore : Evidence store) (hfits : RuleStays store arguments)
    (h : prepareUpdatedTask services store arguments = .ok row) (hcompleted : row.status = .completed) :
    taskStepsSatisfyCompletionRule row (stepsOfTask store row.organizationId row.id) = true := by
  obtain ⟨_, _, h⟩ := bind_ok h
  obtain ⟨task, htask, h⟩ := bind_ok h
  iterate 4 obtain ⟨_, _, h⟩ := bind_ok h
  obtain ⟨changed, hchanged, h⟩ := bind_ok h
  obtain ⟨last, hlast, h⟩ := bind_ok h
  cases h
  have hfound := getTask_eq_ok htask
  obtain ⟨hid, horganization, hstatus, hrule⟩ := changedTask_eq_ok hchanged
  obtain ⟨hlastId, hlastOrganization, hlastRule, hvalid⟩ := changeTaskStatus_eq_ok hlast
  change taskStepsSatisfyCompletionRule _ (stepsOfTask store last.organizationId last.id) = true
  rw [satisfies_iff, hlastOrganization, hlastId]
  intro hall
  have hchangedRule : changed.completionRule = .allStepsRequired := hlastRule.symm.trans hall
  rcases hvalid hcompleted with hbefore | hsatisfied
  · -- The task was completed before, and perhaps its rule is new.
    rw [hid, horganization]
    have hwas : task.status = .completed := hstatus.symm.trans hbefore
    cases hgiven : arguments.completionRule with
    | none =>
        rw [hgiven, hchangedRule] at hrule
        have hmem := (Table.get?_eq_some_iff.mp hfound).1
        exact satisfies_iff.mp (hstore.tasks task hmem hwas) (Except.ok.inj hrule)
    | some given =>
        rw [hgiven, hchangedRule] at hrule
        exact satisfies_iff.mp (hfits task hfound hwas given hgiven hrule) rfl
  · exact satisfies_iff.mp hsatisfied hchangedRule

/-- What an update leaves of the fields of the stored step that count. -/
structure StepFields (arguments : UpdateStepArguments) (step row : WorkOrderTaskStep) : Prop where
  id_eq : row.id = step.id
  organization : row.organizationId = step.organizationId
  task : row.workOrderTaskId = step.workOrderTaskId
  confirmation : row.requiresConfirmation =
    arguments.requiresConfirmation.getD step.requiresConfirmation
  measurement : row.requiresMeasurement = arguments.requiresMeasurement.getD step.requiresMeasurement
  value : row.measurementValue = arguments.measurementValue.elim step.measurementValue strip

/-- A step that is done stays done, and one that becomes done is measured. -/
structure StepChange (arguments : UpdateStepArguments) (step row : WorkOrderTaskStep) : Prop
    extends StepFields arguments step row where
  kept : step.status = .done → row.status = .done ∧ row.confirmedAt = step.confirmedAt
  measured : step.status ≠ .done → row.status = .done → row.requiresMeasurement = true →
    strip row.measurementValue ≠ ""

theorem changedStep_eq_ok {task : WorkOrderTask} {step changed : WorkOrderTaskStep}
    {arguments : UpdateStepArguments}
    (h : changedStep services store task step arguments = .ok changed) :
    StepFields arguments step changed ∧ changed.status = step.status ∧
      changed.confirmedAt = step.confirmedAt := by
  obtain ⟨_, _, h⟩ := bind_ok h
  obtain ⟨_, _, h⟩ := bind_ok h
  cases h
  exact ⟨⟨rfl, rfl, rfl, rfl, rfl, rfl⟩, rfl, rfl⟩

theorem changeStepStatus_eq_ok {step changed : WorkOrderTaskStep}
    {status : Option (Choice WorkOrderTaskStepStatus)}
    (h : changeStepStatus services step status = .ok changed) :
    changed.id = step.id ∧ changed.organizationId = step.organizationId ∧
      changed.workOrderTaskId = step.workOrderTaskId ∧
      changed.requiresConfirmation = step.requiresConfirmation ∧
      changed.requiresMeasurement = step.requiresMeasurement ∧
      changed.measurementValue = step.measurementValue ∧
      (step.status = .done → changed = step) ∧
      (step.status ≠ .done → changed.status = .done → step.requiresMeasurement = true →
        strip step.measurementValue ≠ "") := by
  cases status with
  | none =>
      cases h
      exact ⟨rfl, rfl, rfl, rfl, rfl, rfl, fun _ => rfl, fun hopen hdone => absurd hdone hopen⟩
  | some given =>
      obtain ⟨newStatus, _, h⟩ := bind_ok h
      obtain ⟨_, hallowed, h⟩ := bind_ok h
      obtain ⟨_, hmeasured, h⟩ := bind_ok h
      cases h
      refine ⟨rfl, rfl, rfl, rfl, rfl, rfl, fun hdone => ?_, fun _ hdone hrequires hblank => ?_⟩
      · -- No status follows on that of a step that is done.
        have hnext : newStatus ∈ stepStatusTransitions step.status := ensure_eq_ok.mp hallowed
        rw [hdone] at hnext
        cases hnext
      · exact ensure_eq_ok.mp hmeasured ⟨hrequires, hdone, hblank⟩

theorem prepareUpdatedStep_eq_ok {arguments : UpdateStepArguments} {row : WorkOrderTaskStep}
    {started : Option WorkOrderTask}
    (h : prepareUpdatedStep services store arguments = .ok (row, started)) :
    ∃ step, store.taskSteps.get? arguments.workOrderTaskStepId = some step ∧
      StepChange arguments step row ∧ ∀ task ∈ started, task.status = .inProgress := by
  obtain ⟨_, _, h⟩ := bind_ok h
  obtain ⟨step, hstep, h⟩ := bind_ok h
  obtain ⟨_, _, h⟩ := bind_ok h
  obtain ⟨task, _, h⟩ := bind_ok h
  iterate 3 obtain ⟨_, _, h⟩ := bind_ok h
  obtain ⟨changed, hchanged, h⟩ := bind_ok h
  obtain ⟨last, hlast, h⟩ := bind_ok h
  obtain ⟨rfl, rfl⟩ := Prod.mk.inj (Except.ok.inj h)
  obtain ⟨hfields, hstatus, hconfirmed⟩ := changedStep_eq_ok hchanged
  obtain ⟨hid, horganization, htask, hconfirmation, hmeasurement, hvalue, hdone, hmeasured⟩ :=
    changeStepStatus_eq_ok hlast
  refine ⟨step, getStep_eq_ok hstep, ?_, fun other hother => ?_⟩
  · refine ⟨⟨hid.trans hfields.id_eq, horganization.trans hfields.organization,
      htask.trans hfields.task, hconfirmation.trans hfields.confirmation,
      hmeasurement.trans hfields.measurement, hvalue.trans hfields.value⟩, fun hwas => ?_,
      fun hopen hnow => ?_⟩
    · change last.status = .done ∧ last.confirmedAt = step.confirmedAt
      rw [hdone (hstatus.trans hwas)]
      exact ⟨hstatus.trans hwas, hconfirmed⟩
    · change last.requiresMeasurement = true → strip last.measurementValue ≠ ""
      rw [hmeasurement, hvalue]
      exact hmeasured (hstatus ▸ hopen) hnow
  · unfold startedTask at hother
    split at hother
    · obtain rfl := Option.some.inj hother
      rfl
    · cases hother

theorem confirmStep_eq_ok {step last : WorkOrderTaskStep} {confirm : Option Bool}
    (h : confirmStep services step confirm = .ok last) :
    last.confirmedAt.isSome = confirm.getD step.confirmedAt.isSome ∧
      ∃ confirmedAt confirmedByUserId,
        last = { step with confirmedAt := confirmedAt, confirmedByUserId := confirmedByUserId } := by
  cases confirm with
  | none =>
      cases h
      exact ⟨rfl, _, _, rfl⟩
  | some confirmed =>
      cases confirmed with
      | true =>
          obtain ⟨_, _, h⟩ := bind_ok h
          obtain ⟨_, _, h⟩ := bind_ok h
          cases h
          exact ⟨rfl, _, _, rfl⟩
      | false =>
          cases h
          exact ⟨rfl, _, _, rfl⟩

/-- The condition on a change of a step that is done: it is still measured, and if its task is
closed, still confirmed, wherever it is required. -/
def StepStays (store : MaintenanceStore) (arguments : UpdateStepArguments) : Prop :=
  ∀ step, store.taskSteps.get? arguments.workOrderTaskStepId = some step → step.status = .done →
    (arguments.requiresMeasurement.getD step.requiresMeasurement = true →
      strip (arguments.measurementValue.getD step.measurementValue) ≠ "") ∧
    ∀ task, store.orderTasks.get? step.workOrderTaskId = some task → task.Closed →
      arguments.requiresConfirmation.getD step.requiresConfirmation = true →
        arguments.confirmCompletion.getD step.confirmedAt.isSome = true

theorem StepChange.evidence {arguments : UpdateStepArguments} {step row last : WorkOrderTaskStep}
    (hchange : StepChange arguments step row) (hstore : Evidence store)
    (hstep : store.taskSteps.get? arguments.workOrderTaskStepId = some step)
    (hfits : StepStays store arguments)
    (hlast : confirmStep services row arguments.confirmCompletion = .ok last) :
    Evidence { store with taskSteps := store.taskSteps.update last } := by
  obtain ⟨hsome, confirmedAt, confirmedByUserId, rfl⟩ := confirmStep_eq_ok hlast
  obtain ⟨hmem, hkey⟩ := Table.get?_eq_some_iff.mp hstep
  have hvalue : strip row.measurementValue =
      strip (arguments.measurementValue.getD step.measurementValue) := by
    rw [hchange.value]
    cases arguments.measurementValue with
    | none => rfl
    | some given => exact strip_strip given
  have hmeasured : row.status = .done → row.requiresMeasurement = true →
      strip row.measurementValue ≠ "" := by
    intro hdone hrequires
    by_cases hwas : step.status = .done
    · rw [hvalue]
      exact (hfits step hstep hwas).1 (hchange.measurement ▸ hrequires)
    · exact hchange.measured hwas hdone hrequires
  have hstored : store.taskSteps.get? row.id = some step := by
    rw [hchange.id_eq]
    exact store.taskSteps.get?_of_mem hmem
  refine hstore.update_step hstored hchange.organization hchange.task ?_ hmeasured
  · intro task htask hid hclosed hsatisfied
    obtain ⟨hwas, -, -⟩ := stepSatisfies_iff.mp hsatisfied
    obtain ⟨hdone, hconfirmed⟩ := hchange.kept hwas
    refine stepSatisfies_iff.mpr ⟨hdone, fun hrequires => ?_, hmeasured hdone⟩
    have hfound := hid ▸ store.orderTasks.get?_of_mem htask
    have hstays := (hfits step hstep hwas).2 task hfound hclosed (hchange.confirmation ▸ hrequires)
    rw [← hconfirmed, ← hsome] at hstays
    exact Option.isSome_iff_ne_none.mp hstays

end

theorem writeStartedTask_evidence {store : MaintenanceStore} {started : Option WorkOrderTask}
    (h : Evidence store) (hstarted : ∀ task ∈ started, task.status = .inProgress) :
    ∃ written, writeStartedTask started store = .ok written ∧ Evidence written ∧
      written.taskSteps = store.taskSteps ∧
      ∀ arguments, StepStays store arguments → StepStays written arguments := by
  cases started with
  | none => exact ⟨store, rfl, h, rfl, fun _ => id⟩
  | some task =>
      have hopen : task.status ≠ .completed := by
        rw [hstarted task rfl]
        decide
      refine ⟨_, rfl, h.update_task fun hcompleted => absurd hcompleted hopen, rfl, ?_⟩
      intro arguments hfits step hstep hdone
      obtain ⟨hmeasured, hconfirmed⟩ := hfits step hstep hdone
      refine ⟨hmeasured, fun other hother hclosed => hconfirmed other ?_ hclosed⟩
      obtain ⟨hmem, hid⟩ := Table.get?_eq_some_iff.mp hother
      rcases Table.mem_update_iff.mp hmem with ⟨rfl, -⟩ | ⟨hold, -⟩
      · exact absurd hclosed.1 hopen
      · exact hid ▸ store.orderTasks.get?_of_mem hold

/-! ## Runs -/

inductive TaskCall
  | createTask (services : MaintenanceServices) (arguments : CreateTaskArguments)
  | updateTask (services : MaintenanceServices) (arguments : UpdateTaskArguments)
  | createStep (services : MaintenanceServices) (arguments : CreateStepArguments)
  | updateStep (services : MaintenanceServices) (arguments : UpdateStepArguments)

def runTaskCall : TaskCall → Session MaintenanceStore → Outcome DomainError MaintenanceStore
  | .createTask services arguments => (createTask services arguments).outcome
  | .updateTask services arguments => (updateTask services arguments).outcome
  | .createStep services arguments => (createStep services arguments).outcome
  | .updateStep services arguments => (updateStep services arguments).outcome

/-- The condition on a call: no step is added to a closed task, and what is changed still fits what
is completed. -/
def CallStays (store : MaintenanceStore) : TaskCall → Prop
  | .createTask _ _ => True
  | .updateTask _ arguments => RuleStays store arguments
  | .createStep _ arguments =>
      ∀ task, store.orderTasks.get? arguments.workOrderTaskId = some task → ¬ task.Closed
  | .updateStep _ arguments => StepStays store arguments

/-- The evidence is there in what is committed and in what the open transaction sees. -/
structure SessionEvidence (session : Session MaintenanceStore) : Prop where
  committed : Evidence session.committed
  pending : Evidence session.pending

theorem SessionEvidence.clean {store : MaintenanceStore} (h : Evidence store) :
    SessionEvidence (.clean store) := ⟨h, h⟩

section

variable {services : MaintenanceServices} {session : Session MaintenanceStore}

/-- A call that writes one row and commits keeps the evidence if the row does. -/
theorem transact_evidence {α : Type} {checks : MaintenanceStore → Except DomainError α}
    {write : α → MaintenanceStore → Except DomainError MaintenanceStore} {fits : Prop}
    (h : SessionEvidence session)
    (hwrite : ∀ row next, checks session.pending = .ok row → write row session.pending = .ok next →
      fits → Evidence next) :
    (Program.transact checks write).Spec session (fun _ next => fits → SessionEvidence next)
      fun _ => SessionEvidence := by
  refine Program.spec_transact.mpr ⟨fun row hrow => ⟨fun next hnext hfits => ?_, fun _ _ => ?_⟩,
    fun _ _ => h⟩
  · exact .clean (hwrite row next hrow hnext hfits)
  · exact .clean h.committed

/-- The task that is started stays in the open transaction when the confirmation is refused. -/
theorem updateStep_evidence (h : SessionEvidence session) (arguments : UpdateStepArguments) :
    (updateStep services arguments).Spec session
      (fun _ next => StepStays session.pending arguments → SessionEvidence next)
      fun _ => SessionEvidence := by
  unfold updateStep
  rw [Program.spec_bind, Program.spec_check]
  cases hprepared : prepareUpdatedStep services session.pending arguments with
  | error e => exact h
  | ok prepared =>
      obtain ⟨row, started⟩ := prepared
      obtain ⟨step, hstep, hchange, hstarted⟩ := prepareUpdatedStep_eq_ok hprepared
      obtain ⟨written, hwritten, hevidence, hsteps, hstays⟩ :=
        writeStartedTask_evidence h.pending hstarted
      rw [← hsteps] at hstep
      dsimp only
      rw [Program.spec_bind, Program.spec_step, hwritten]
      dsimp only
      rw [Program.spec_bind, Program.spec_check]
      cases hconfirmed : confirmStep services row arguments.confirmCompletion with
      | error e => exact ⟨h.committed, hevidence⟩
      | ok last =>
          intro hfits
          exact .clean (hchange.evidence hevidence hstep (hstays arguments hfits) hconfirmed)

theorem runTaskCall_evidence (h : SessionEvidence session) (call : TaskCall)
    (hfits : (runTaskCall call session).1 = none → CallStays session.pending call) :
    SessionEvidence (runTaskCall call session).2 := by
  have hconclude : ∀ {α : Type} {program : MaintenanceProgram α},
      program.outcome session = runTaskCall call session →
      program.Spec session (fun _ next => CallStays session.pending call → SessionEvidence next)
        (fun _ => SessionEvidence) → SessionEvidence (runTaskCall call session).2 := by
    intro α program hprogram hspec
    have houtcome := hspec.outcome
    rw [hprogram] at houtcome
    generalize runTaskCall call session = result at hfits houtcome
    obtain ⟨_ | e, next⟩ := result
    · obtain ⟨_, hnext⟩ := houtcome
      exact hnext (hfits rfl)
    · exact houtcome
  cases call with
  | createTask services arguments =>
      refine hconclude rfl (transact_evidence h fun row next hrow hnext _ => ?_)
      obtain ⟨_, _, hnext⟩ := bind_ok hnext
      cases hnext
      exact h.pending.insert_task (prepareTask_status hrow)
  | updateTask services arguments =>
      refine hconclude rfl (transact_evidence h fun row next hrow hnext hrule => ?_)
      cases hnext
      exact h.pending.update_task (prepareUpdatedTask_evidence h.pending hrule hrow)
  | createStep services arguments =>
      refine hconclude rfl (transact_evidence h fun row next hrow hnext hopen => ?_)
      obtain ⟨_, hsaved, hnext⟩ := bind_ok hnext
      cases hnext
      obtain ⟨_, hfresh, _⟩ := bind_ok hsaved
      obtain ⟨hnew, htask⟩ := prepareStep_eq_ok hrow
      refine h.pending.insert_step (ensure_eq_ok.mp hfresh) hnew fun task hmem hid => ?_
      exact hopen task (htask ▸ hid ▸ session.pending.orderTasks.get?_of_mem hmem)
  | updateStep services arguments => exact hconclude rfl (updateStep_evidence h arguments)

end

theorem taskRun_evidence {start : MaintenanceStore} (hstart : Evidence start)
    {calls : List TaskCall}
    (hcalls : EachCall runTaskCall
      (fun session call => (runTaskCall call session).1 = none → CallStays session.pending call)
      (.clean start) calls) :
    Evidence (sessionAfter runTaskCall (.clean start) calls).committed ∧
      Evidence (sessionAfter runTaskCall (.clean start) calls).pending := by
  have hlast := sessionAfter_invariant
    (fun session call hfits hsession => runTaskCall_evidence hsession call hfits) calls hcalls
    (.clean hstart)
  exact ⟨hlast.committed, hlast.pending⟩

/-! ## A task and its step -/

def crewLead : MaintenanceServices where
  userSession :=
    { AuthorizationEngine.admin with
      isScopeRestricted := fun _ => false
      scopeIdsFor := fun _ _ => [] }
  activeOrganization := some "org"
  now := 0

def sealOrder : MaintenanceStore where
  orders :=
    { rows := [{ id := "order", organizationId := "org", siteId := "site", workOrderCode := "WO-1",
                 workOrderType := .corrective, sourceType := "MANUAL" }]
      nodup := by decide }

theorem evidence_sealOrder : Evidence sealOrder := ⟨fun _ h => (nomatch h), fun _ h => (nomatch h)⟩

/-- The seal is replaced: one step, measured and done, and the task completed. -/
def replaceSeal : List TaskCall :=
  [.createTask crewLead
      { workOrderId := "order", taskName := "Replace the seal", taskId := "seal"
        completionRule := some (.member .allStepsRequired) },
    .createStep crewLead
      { workOrderTaskId := "seal", instruction := "Drain", stepId := "drain"
        requiresMeasurement := true },
    .updateStep crewLead
      { workOrderTaskStepId := "drain", status := some (.text "done")
        measurementValue := some "3 bar" },
    .updateTask crewLead { workOrderTaskId := "seal", status := some (.text "completed") }]

def addRefill : TaskCall :=
  .createStep crewLead { workOrderTaskId := "seal", instruction := "Refill", stepId := "refill" }

def blankMeasurement : TaskCall :=
  .updateStep crewLead { workOrderTaskStepId := "drain", measurementValue := some " " }

theorem taskRun_evidence_replacedSeal :
    ((sessionAfter runTaskCall (.clean sealOrder) replaceSeal).committed.orderTasks.rows.map
      WorkOrderTask.status) = [.completed] ∧
      Evidence (sessionAfter runTaskCall (.clean sealOrder) replaceSeal).committed := by
  refine ⟨by decide +kernel, (taskRun_evidence evidence_sealOrder ?_).1⟩
  refine ⟨fun _ => trivial, fun _ task htask hclosed => ?_, fun _ step hstep hdone => ?_,
    fun _ task _ _ given hgiven => (nomatch hgiven), trivial⟩
  · obtain rfl := Option.some.inj htask
    exact absurd hclosed (by decide)
  · obtain rfl := Option.some.inj hstep
    exact absurd hdone (by decide)

/-- A step is added to the completed task; the measurement of the step that is done is blanked. -/
theorem not_evidence_addedStep :
    ¬ Evidence (sessionAfter runTaskCall (.clean sealOrder) (replaceSeal ++ [addRefill])).committed ∧
      ¬ Evidence
        (sessionAfter runTaskCall (.clean sealOrder) (replaceSeal ++ [blankMeasurement])).committed := by
  constructor
  · intro h
    exact absurd (h.tasks _ List.mem_cons_self (by decide +kernel)) (by decide +kernel)
  · intro h
    exact h.steps _ List.mem_cons_self (by decide +kernel) (by decide +kernel) (by decide +kernel)

end ProjectManager.Maintenance
