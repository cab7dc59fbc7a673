import ProjectManager.Tasks.Lifecycle

/-! # The progress of a task

Status, percentage and actual dates are written by four operations under
different rules. They agree along every run whose calls do not set one of them
against the others.
-/

namespace ProjectManager

open Foundation

def StatusFits (status : TaskStatus) (percent : ℚ) : Prop :=
  (status = .done ↔ percent = 100) ∧ (status = .todo → percent = 0)

instance (status : TaskStatus) (percent : ℚ) : Decidable (StatusFits status percent) :=
  inferInstanceAs (Decidable (_ ∧ _))

structure Task.ProgressConsistent (task : Task) : Prop where
  status : StatusFits task.status task.percentComplete
  actual : before task.actualEnd task.actualStart = false

instance (task : Task) : Decidable task.ProgressConsistent :=
  decidable_of_iff (StatusFits task.status task.percentComplete ∧
    before task.actualEnd task.actualStart = false)
    ⟨fun h => ⟨h.1, h.2⟩, fun h => ⟨h.status, h.actual⟩⟩

def TasksById.ProgressConsistent (table : TasksById) : Prop :=
  ∀ task ∈ table.tasks, task.ProgressConsistent

instance (table : TasksById) : Decidable table.ProgressConsistent :=
  inferInstanceAs (Decidable (∀ task ∈ table.tasks, task.ProgressConsistent))

theorem before_eq_false {first second : Option Date} :
    before first second = false ↔ ∀ a b, first = some a → second = some b → b ≤ a := by
  cases first <;> cases second <;> simp [before]

/-! ## The calls of a run -/

inductive TaskCall
  | create (id : String) (arguments : CreateTaskArguments)
  | setStatus (taskId : String) (status : TaskStatus)
  | update (taskId : String) (arguments : UpdateTaskArguments)
  | updateProgress (taskId : String) (arguments : UpdateProgressArguments)

def TaskCall.apply (service : TaskService) (table : TasksById) :
    TaskCall → Except DomainError TasksById
  | .create id arguments => return (← createTask service table id arguments).2
  | .setStatus taskId status => ProjectManager.setStatus service table taskId status
  | .update taskId arguments => return (← updateTask service table taskId arguments).2
  | .updateProgress taskId arguments =>
      return (← ProjectManager.updateProgress service table taskId arguments).2

/-- The percentage that is stored after `update_progress`. -/
def UpdateProgressArguments.percent (arguments : UpdateProgressArguments) (task : Task) : ℚ :=
  arguments.percentComplete.getD task.percentComplete

/-- The call does not set a status against the percentage that goes with it, nor an
actual start behind the stored actual end. -/
def TaskCall.Agrees (table : TasksById) : TaskCall → Prop
  | .create _ arguments => arguments.status ≠ .done
  | .setStatus taskId status =>
      status = .blocked → ∀ task, table.get? taskId = some task → task.status ≠ .done
  | .update taskId arguments =>
      ∀ status, arguments.status = some status →
        ∀ task, table.get? taskId = some task → StatusFits status task.percentComplete
  | .updateProgress taskId arguments =>
      ∀ task, table.get? taskId = some task →
        (∀ status, arguments.status = some status →
          StatusFits status (arguments.percent task)) ∧
        (arguments.actualEnd = none → before task.actualEnd arguments.actualStart = false)

/-! ## What each operation writes -/

section

variable {service : TaskService} {table next : TasksById} {taskId : String} {task result : Task}

theorem loadTask_ok {label : String} (h : loadTask service table taskId label = .ok task) :
    table.get? taskId = some task := by
  obtain ⟨-, -, h⟩ := bind_ok h
  obtain ⟨found, hfound, h⟩ := bind_ok h
  obtain ⟨-, -, h⟩ := bind_ok h
  cases h
  exact require_eq_ok.mp hfound

theorem createTask_ok {id : String} {arguments : CreateTaskArguments}
    (h : createTask service table id arguments = .ok (result, next)) :
    next = table.insert result ∧ result.id ∉ table.ids ∧ result.status = arguments.status ∧
      result.percentComplete = 0 ∧ result.actualStart = none := by
  iterate 5 obtain ⟨-, -, h⟩ := bind_ok h
  obtain ⟨_, hfresh, h⟩ := bind_ok h
  obtain ⟨rfl, rfl⟩ := Prod.mk.inj (Except.ok.inj h)
  exact ⟨rfl, ensure_eq_ok.mp hfresh, rfl, rfl, rfl⟩

theorem setStatus_ok {status : TaskStatus}
    (h : setStatus service table taskId status = .ok next) :
    ∃ task, table.get? taskId = some task ∧ next = table.save
      { task with
        status := status
        percentComplete := percentFor task.status status task.percentComplete } := by
  obtain ⟨task, htask, h⟩ := bind_ok h
  exact ⟨task, loadTask_ok htask, (Except.ok.inj h).symm⟩

theorem updateTask_ok {arguments : UpdateTaskArguments}
    (h : updateTask service table taskId arguments = .ok (result, next)) :
    ∃ task changed, table.get? taskId = some task ∧ next = table.save changed ∧
      changed.id = task.id ∧ changed.status = arguments.status.getD task.status ∧
      changed.percentComplete = task.percentComplete ∧
      changed.actualStart = task.actualStart ∧ changed.actualEnd = task.actualEnd := by
  obtain ⟨task, htask, h⟩ := bind_ok h
  iterate 5 obtain ⟨-, -, h⟩ := bind_ok h
  obtain ⟨rfl, rfl⟩ := Prod.mk.inj (Except.ok.inj h)
  exact ⟨task, _, loadTask_ok htask, rfl, rfl, rfl, rfl, rfl, rfl⟩

theorem updateProgress_ok {arguments : UpdateProgressArguments}
    (h : updateProgress service table taskId arguments = .ok (result, next)) :
    ∃ task changed, table.get? taskId = some task ∧ next = table.save changed ∧
      changed.id = task.id ∧
      (∀ percent, arguments.percentComplete = some percent → 0 ≤ percent ∧ percent ≤ 100) ∧
      changed.status = arguments.status.getD (match arguments.percentComplete with
        | some percent => statusFor percent task.status
        | none => task.status) ∧
      changed.percentComplete = arguments.percent task ∧
      changed.actualStart = arguments.actualStart.or task.actualStart ∧
      changed.actualEnd = arguments.actualEnd.or task.actualEnd ∧
      before arguments.actualEnd changed.actualStart = false := by
  obtain ⟨task, htask, h⟩ := bind_ok h
  obtain ⟨-, -, h⟩ := bind_ok h
  obtain ⟨_, hpercent, h⟩ := bind_ok h
  obtain ⟨_, hactual, h⟩ := bind_ok h
  obtain ⟨-, -, h⟩ := bind_ok h
  obtain ⟨rfl, rfl⟩ := Prod.mk.inj (Except.ok.inj h)
  exact ⟨task, _, loadTask_ok htask, rfl, rfl, ensure_eq_ok.mp hpercent, rfl, rfl, rfl, rfl,
    ensure_eq_ok.mp hactual⟩

end

section

variable {table : TasksById} {task : Task}

theorem TasksById.progressConsistent_insert (h : table.ProgressConsistent)
    (htask : task.ProgressConsistent) : TasksById.ProgressConsistent (table.insert task) := by
  intro row hrow
  rcases Table.mem_insert hrow with rfl | hrow
  · exact htask
  · exact h row hrow

theorem TasksById.progressConsistent_save (h : table.ProgressConsistent)
    (htask : task.ProgressConsistent) : (table.save task).ProgressConsistent := by
  intro row hrow
  rcases Table.mem_update_iff.mp hrow with ⟨rfl, -⟩ | ⟨hrow, -⟩
  · exact ⟨htask.status, htask.actual⟩
  · exact h row hrow

end

/-! ## Agreement of status and percentage -/

theorem statusFits_initial {status : TaskStatus} : StatusFits status 0 ↔ status ≠ .done := by
  cases status <;> simp [StatusFits]

theorem statusFits_statusFor {percent : ℚ} (h : 0 ≤ percent ∧ percent ≤ 100)
    (status : TaskStatus) : StatusFits (statusFor percent status) percent := by
  unfold statusFor StatusFits
  rcases eq_or_lt_of_le h.1 with rfl | hpos
  · cases status <;> simp
  · rcases eq_or_lt_of_le h.2 with rfl | hlt
    · cases status <;> simp
    · have hne : percent ≠ 0 := hpos.ne'
      cases status <;> simp [hne, hpos, hlt, hlt.ne]

theorem statusFits_percentFor {prior status : TaskStatus} {percent : ℚ}
    (h : StatusFits prior percent) :
    StatusFits status (percentFor prior status percent) ↔
      (status = .blocked → prior ≠ .done) := by
  unfold StatusFits percentFor at *
  cases status with
  | todo => simp
  | done => simp
  | inProgress =>
      simp only [reduceCtorEq, false_iff, false_implies, and_true, iff_true]
      split
      next hbetween => exact hbetween.2.ne
      · split <;> norm_num
  | blocked => simp [h.1]

/-! ## Steps and runs -/

section

variable {service : TaskService} {table next : TasksById}

theorem TaskCall.apply_progressConsistent {call : TaskCall}
    (hcall : call.apply service table = .ok next) (hagrees : call.Agrees table)
    (h : table.ProgressConsistent) : next.ProgressConsistent := by
  cases call with
  | create id arguments =>
      obtain ⟨⟨task, added⟩, hcreate, hnext⟩ := bind_ok hcall
      cases hnext
      obtain ⟨rfl, -, hstatus, hpercent, hstart⟩ := createTask_ok hcreate
      refine TasksById.progressConsistent_insert h ⟨?_, ?_⟩
      · rw [hstatus, hpercent]
        exact statusFits_initial.mpr hagrees
      · rw [hstart, before_eq_false]
        exact fun _ _ _ hnone => (nomatch hnone)
  | setStatus taskId status =>
      obtain ⟨task, htask, rfl⟩ := setStatus_ok hcall
      have hrow := h task (table.get?_eq_some htask).1
      refine TasksById.progressConsistent_save h ⟨?_, hrow.actual⟩
      exact (statusFits_percentFor hrow.status).mpr fun hblocked => hagrees hblocked task htask
  | update taskId arguments =>
      obtain ⟨⟨result, updated⟩, hupdate, hnext⟩ := bind_ok hcall
      cases hnext
      obtain ⟨task, changed, htask, rfl, -, hstatus, hpercent, hstart, hend⟩ :=
        updateTask_ok hupdate
      have hrow := h task (table.get?_eq_some htask).1
      refine TasksById.progressConsistent_save h ⟨?_, by rw [hstart, hend]; exact hrow.actual⟩
      rw [hstatus, hpercent]
      cases hgiven : arguments.status with
      | none => exact hrow.status
      | some status => exact hagrees status hgiven task htask
  | updateProgress taskId arguments =>
      obtain ⟨⟨result, updated⟩, hupdate, hnext⟩ := bind_ok hcall
      cases hnext
      obtain ⟨task, changed, htask, rfl, -, hrange, hstatus, hpercent, hstart, hend, horder⟩ :=
        updateProgress_ok hupdate
      have hrow := h task (table.get?_eq_some htask).1
      obtain ⟨hstatusAgrees, hactualAgrees⟩ := hagrees task htask
      refine TasksById.progressConsistent_save h ⟨?_, ?_⟩
      · rw [hstatus, hpercent]
        cases hgiven : arguments.status with
        | some status => exact hstatusAgrees status hgiven
        | none =>
            unfold UpdateProgressArguments.percent
            cases hgivenPercent : arguments.percentComplete with
            | none => exact hrow.status
            | some percent => exact statusFits_statusFor (hrange percent hgivenPercent) _
      · rw [hend]
        cases hgivenEnd : arguments.actualEnd with
        | some finish => simpa [hgivenEnd] using horder
        | none =>
            -- Only the stored end can be missed: the given start is compared with no end.
            rw [hstart]
            cases hgivenStart : arguments.actualStart with
            | none => exact hrow.actual
            | some start => simpa [hgivenStart] using hactualAgrees hgivenEnd

/-- Status, percentage and actual dates agree after every run whose accepted calls
agree with the stored tasks. -/
theorem taskRun_progressConsistent (service : TaskService) (calls : List TaskCall)
    (table : TasksById) (h : table.ProgressConsistent)
    (hcalls : AllCalls (TaskCall.apply service)
      (fun table call => (call.apply service table).isOk = true → call.Agrees table)
      table calls) :
    (stateAfterAll (TaskCall.apply service) table calls).ProgressConsistent := by
  refine stateAfterAll_invariant ?_ calls hcalls h
  intro state call next hcall hagrees hstate
  exact call.apply_progressConsistent hcall (hagrees (by rw [hcall]; rfl)) hstate

/-- No project dates and no holidays, for a user who may do everything. -/
def openTaskService : TaskService where
  userSession := .admin
  projectRepo := none
  workCalendarEngine := weekdayCalendar

def noTasks : TasksById := Table.empty

def createDesign : TaskCall := .create "design" { projectId := "p", name := "Design" }

theorem taskRun_progressConsistent_design :
    (stateAfterAll (TaskCall.apply openTaskService) noTasks
      [createDesign, .updateProgress "design" { percentComplete := some 40, actualEnd := some 9 },
        .setStatus "design" .done]).ProgressConsistent := by
  refine taskRun_progressConsistent openTaskService _ noTasks (by decide) ⟨?_, ?_, ?_, trivial⟩
  · intro _
    change TaskStatus.todo ≠ .done
    decide
  · intro _ task _
    exact ⟨fun _ h => (nomatch h), fun h => (nomatch h)⟩
  · intro _ h
    cases h

/-- Three runs that leave a task in disagreement: blocked at 100 percent, done at 0
percent, and an actual start after the actual end. -/
theorem not_progressConsistent_design :
    List.Forall (fun calls => ¬ (stateAfterAll (TaskCall.apply openTaskService) noTasks
        calls).ProgressConsistent) [
      [createDesign, .setStatus "design" .done, .setStatus "design" .blocked],
      [createDesign, .update "design" { status := some .done }],
      [createDesign, .updateProgress "design" { actualEnd := some 8 },
        .updateProgress "design" { actualStart := some 9 }]] := by
  decide +kernel

end

end ProjectManager
