import ProjectManager.Maintenance.TaskEvidence

/-! # Step updates, all or nothing

An update of a step may start its task, and then still refuse the confirmation of the
step. The handler that rolls back covers only the last write, so that the started task
stays in the open transaction.
-/

namespace ProjectManager.Maintenance

open Foundation

/-- What the two writes of an update raise. A row that has changed since it was read fails its
version check, and the database may refuse the step. -/
structure StepRefusals where
  task : Option DomainError := none
  step : Option DomainError := none

/-- A write that raises the given refusal. -/
def refusing (refusal : Option DomainError)
    (write : MaintenanceStore → Except DomainError MaintenanceStore) (store : MaintenanceStore) :
    Except DomainError MaintenanceStore :=
  match refusal with
  | some e => .error e
  | none => write store

def stepSaveFailed : DomainError :=
  validationError "Maintenance work order task step could not be updated."
    "MAINTENANCE_WORK_ORDER_TASK_STEP_SAVE_FAILED"

/-- What the handler around the last write raises. -/
def reraised (e : DomainError) : DomainError :=
  if e.errorClass = .integrityError then stepSaveFailed else e

/-- `update_step` with the refusals of its writes. -/
def updateStepRefusing (refusals : StepRefusals) (services : MaintenanceServices)
    (arguments : UpdateStepArguments) : MaintenanceProgram WorkOrderTaskStep := do
  let prepared ← Program.check fun store => prepareUpdatedStep services store arguments
  Program.step (refusing (prepared.2.bind fun _ => refusals.task) (writeStartedTask prepared.2))
  let step ← Program.check fun _ => confirmStep services prepared.1 arguments.confirmCompletion
  Program.rollingBack (Program.save (refusing (refusals.step.map reraised) fun store =>
    .ok { store with taskSteps := store.taskSteps.update step }))
  return step

theorem updateStepRefusing_none (services : MaintenanceServices) (arguments : UpdateStepArguments) :
    updateStepRefusing {} services arguments = updateStep services arguments := by
  unfold updateStepRefusing updateStep
  congr 1
  funext prepared
  congr 1
  cases prepared.2 <;> rfl

/-- An update that raises leaves the step and its task as they were, also in the open
transaction. -/
def UpdatesStepAtomically (refusals : StepRefusals) (services : MaintenanceServices)
    (arguments : UpdateStepArguments) (store : MaintenanceStore) : Prop :=
  let outcome := (updateStepRefusing refusals services arguments).outcome (.clean store)
  outcome.1 = none ∨ outcome.2 = .clean store

/-- The update starts a task, whose row is written, and confirms the step. -/
def ConfirmsStart (refusals : StepRefusals) (services : MaintenanceServices)
    (arguments : UpdateStepArguments) (store : MaintenanceStore) : Prop :=
  (arguments.confirmCompletion = some true ∧ refusals.task = none) ∧
    ∃ prepared ∈ (prepareUpdatedStep services store arguments).toOption, prepared.2.isSome = true

instance (refusals : StepRefusals) (services : MaintenanceServices)
    (arguments : UpdateStepArguments) (store : MaintenanceStore) :
    Decidable (ConfirmsStart refusals services arguments store) :=
  inferInstanceAs (Decidable ((_ ∧ _) ∧ ∃ _ ∈ _, _))

section

variable {refusals : StepRefusals} {services : MaintenanceServices} {store : MaintenanceStore}
  {arguments : UpdateStepArguments} {row : WorkOrderTaskStep} {task : WorkOrderTask}

theorem prepareUpdatedStep_started
    (h : prepareUpdatedStep services store arguments = .ok (row, some task)) :
    row.status = .inProgress ∧ task.status = .inProgress ∧
      ∃ stored, store.orderTasks.get? task.id = some stored ∧ stored.status = .notStarted := by
  obtain ⟨_, -, h⟩ := bind_ok h
  obtain ⟨step, -, h⟩ := bind_ok h
  obtain ⟨_, -, h⟩ := bind_ok h
  obtain ⟨stored, hstored, h⟩ := bind_ok h
  iterate 3 obtain ⟨_, -, h⟩ := bind_ok h
  obtain ⟨changed, -, h⟩ := bind_ok h
  obtain ⟨last, -, h⟩ := bind_ok h
  obtain ⟨rfl, hstarted⟩ := Prod.mk.inj (Except.ok.inj h)
  unfold startedTask at hstarted
  split at hstarted
  next hstarts =>
    obtain rfl := Option.some.inj hstarted
    have hfound := (requireTask_eq_ok hstored).1
    have hkey := (Table.get?_eq_some_iff.mp hfound).2
    exact ⟨hstarts.2.1, rfl, stored, hkey ▸ hfound, hstarts.2.2⟩
  next => cases hstarted

theorem update_started_ne {stored : WorkOrderTask}
    (hstored : store.orderTasks.get? task.id = some stored) (hwas : stored.status = .notStarted)
    (hnow : task.status = .inProgress) :
    ({ committed := store
       pending := { store with orderTasks := store.orderTasks.update task } } :
      Session MaintenanceStore) ≠ .clean store := by
  intro h
  have hrows : store.orderTasks.update task = store.orderTasks :=
    congrArg (fun session => session.pending.orderTasks) h
  have hfound := Table.get?_update_self hstored
  rw [hrows, hstored] at hfound
  obtain rfl := Option.some.inj hfound
  rw [hwas] at hnow
  cases hnow

theorem rollingBack_save_spec {f : MaintenanceStore → Except DomainError MaintenanceStore}
    (session : Session MaintenanceStore) :
    (Program.rollingBack (Program.save f)).Spec session (fun _ _ => True)
      fun _ next => next = .clean session.committed := by
  rw [Program.spec_rollingBack]
  change (Program.step f >>= fun _ => Program.commit Except.ok).Spec _ _ _
  rw [Program.spec_bind, Program.spec_step]
  cases f session.pending with
  | error e => rfl
  | ok next =>
      dsimp only
      rw [Program.spec_commit]
      trivial

theorem updateStepRefusing_atomic (h : ¬ ConfirmsStart refusals services arguments store) :
    (updateStepRefusing refusals services arguments).Spec (.clean store) (fun _ _ => True)
      fun _ next => next = .clean store := by
  unfold updateStepRefusing
  rw [Program.spec_bind, Program.spec_check, Session.clean_pending]
  cases hprepared : prepareUpdatedStep services store arguments with
  | error e => rfl
  | ok prepared =>
      obtain ⟨row, started⟩ := prepared
      dsimp only
      rw [Program.spec_bind, Program.spec_step]
      cases started with
      | none =>
          change (Program.check _ >>= _).Spec _ _ _
          rw [Program.spec_bind, Program.spec_check]
          cases confirmStep services row arguments.confirmCompletion with
          | error e => rfl
          | ok step =>
              dsimp only
              rw [Program.spec_bind]
              exact (rollingBack_save_spec _).mono (fun _ _ _ => trivial) fun _ _ => id
      | some task =>
          cases htask : refusals.task with
          | some e => rfl
          | none =>
              change (Program.check _ >>= _).Spec _ _ _
              rw [Program.spec_bind, Program.spec_check]
              have hconfirm : arguments.confirmCompletion ≠ some true := fun hconfirm =>
                h ⟨⟨hconfirm, htask⟩, _, toOption_eq_some.mpr hprepared, rfl⟩
              obtain ⟨step, hstep⟩ :
                  ∃ step, confirmStep services row arguments.confirmCompletion = .ok step := by
                cases hgiven : arguments.confirmCompletion with
                | none => exact ⟨_, rfl⟩
                | some confirmed =>
                    cases confirmed with
                    | false => exact ⟨_, rfl⟩
                    | true => exact absurd hgiven hconfirm
              rw [hstep]
              dsimp only
              rw [Program.spec_bind]
              exact (rollingBack_save_spec _).mono (fun _ _ _ => trivial) fun _ _ => id

/-- A step in progress is not confirmed, and its started task stays in the open transaction. -/
theorem updateStepRefusing_leaves (h : ConfirmsStart refusals services arguments store) :
    (updateStepRefusing refusals services arguments).Spec (.clean store) (fun _ _ => False)
      fun _ next => next ≠ .clean store := by
  obtain ⟨⟨hconfirm, htask⟩, ⟨row, started⟩, hprepared, hstarted⟩ := h
  replace hprepared := toOption_eq_some.mp hprepared
  obtain ⟨task, rfl⟩ := Option.isSome_iff_exists.mp hstarted
  obtain ⟨hprogress, hnow, stored, hstored, hwas⟩ := prepareUpdatedStep_started hprepared
  have hrefused : ∃ e, confirmStep services row (some true) = .error e := by
    cases hconfirmed : confirmStep services row (some true) with
    | error e => exact ⟨e, rfl⟩
    | ok step =>
        obtain ⟨_, -, hdone⟩ := bind_ok hconfirmed
        obtain ⟨_, hdone, -⟩ := bind_ok hdone
        rw [ensure_eq_ok, hprogress] at hdone
        cases hdone
  obtain ⟨e, he⟩ := hrefused
  unfold updateStepRefusing
  rw [Program.spec_bind, Program.spec_check, Session.clean_pending, hprepared]
  dsimp only
  rw [Program.spec_bind, Program.spec_step, Option.bind_some, htask]
  change (Program.check _ >>= _).Spec _ _ _
  rw [Program.spec_bind, Program.spec_check, hconfirm, he]
  exact update_started_ne hstored hwas hnow

end

/-- An update is all or nothing exactly when it does not confirm a step while it starts the
task. -/
theorem updateStep_atomic_iff (refusals : StepRefusals) (services : MaintenanceServices)
    (arguments : UpdateStepArguments) (store : MaintenanceStore) :
    UpdatesStepAtomically refusals services arguments store ↔
      ¬ ConfirmsStart refusals services arguments store := by
  unfold UpdatesStepAtomically
  constructor
  · intro hatomic hstarts
    have houtcome := (updateStepRefusing_leaves hstarts).outcome
    generalize (updateStepRefusing refusals services arguments).outcome (.clean store) = result
      at hatomic houtcome
    obtain ⟨_ | e, next⟩ := result
    · obtain ⟨-, hfalse⟩ := houtcome
      exact hfalse
    · exact hatomic.elim (fun hnone => nomatch hnone) houtcome
  · intro hnot
    have houtcome := (updateStepRefusing_atomic hnot).outcome
    generalize (updateStepRefusing refusals services arguments).outcome (.clean store) = result
      at houtcome
    obtain ⟨_ | e, next⟩ := result
    · exact Or.inl rfl
    · exact Or.inr houtcome

/-- A task with a step that was not begun. -/
def sealTask : MaintenanceStore :=
  { sealOrder with
    orderTasks := ⟨[{ id := "seal", organizationId := "org", workOrderId := "order"
                      taskName := "Replace the seal" }], by decide⟩
    taskSteps := ⟨[{ id := "drain", organizationId := "org", workOrderTaskId := "seal"
                     instruction := "Drain", requiresConfirmation := true }], by decide⟩ }

/-- The step is begun and confirmed at once. The call is refused, and a later commit of another
call saves the task as started. -/
theorem not_atomic_sealTask :
    let started := updateStep crewLead
      { workOrderTaskStepId := "drain", status := some (.text "in_progress")
        confirmCompletion := some true }
    let first := started.outcome (.clean sealTask)
    let noted := updateStep crewLead { workOrderTaskStepId := "drain", notes := some "Leaks" }
    let second := noted.outcome first.2
    (first.1.map DomainError.code = some "MAINTENANCE_WORK_ORDER_TASK_STEP_CONFIRMATION_INVALID" ∧
        first.2.committed.orderTasks.rows.map WorkOrderTask.status = [.notStarted]) ∧
      second.1 = none ∧
        second.2.committed.orderTasks.rows.map WorkOrderTask.status = [.inProgress] := by
  decide +kernel

end ProjectManager.Maintenance
