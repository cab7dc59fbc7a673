import Mathlib.Algebra.BigOperators.Ring.Finset
import Mathlib.Algebra.Order.BigOperators.Group.List
import ProjectManager.Calendar.Arithmetic
import ProjectManager.Reporting.CostPolicy

/-! # Earned value

What a project should have spent by a day according to its baseline, and what
its progress is worth. A baseline without costs shares the planned budget out by
durations, and one without durations follows the dates of the project.
-/

namespace ProjectManager

open Foundation

structure EarnedValueMetrics where
  asOf : Date
  baselineId : String
  bac : ℚ
  pv : ℚ
  ev : ℚ
  ac : ℚ
  cpi : Option ℚ
  spi : Option ℚ
  eac : Option ℚ
  etc : Option ℚ
  vac : Option ℚ
  tcpiToBac : Option ℚ
  tcpiToEac : Option ℚ
  notes : Option String

namespace ProjectStore

variable (store : ProjectStore)

def latestBaselineOf (projectId : String) : Option ProjectBaseline :=
  ((store.baselines.rows.filter fun baseline => baseline.projectId = projectId).mergeSort
    fun first second => second.createdAt ≤ first.createdAt).head?

/-- The baseline asked for, or else the latest of the project. -/
def baselineFor (projectId : String) (baselineId : Option String) : Option ProjectBaseline :=
  match givenText baselineId with
  | some id => store.baselines.get? id
  | none => store.latestBaselineOf projectId

/-- `list_tasks` of the baseline repository. -/
def baselineTasksOf (baselineId : String) : List BaselineTask :=
  store.baselineTasks.rows.filter fun row => row.baselineId = baselineId

end ProjectStore

def clamp01 (x : ℚ) : ℚ := max 0 (min 1 x)

section

variable (calendar : WorkCalendarEngine)

/-- The part of a task that should be done by a day. -/
def plannedFraction (start finish asOf : Date) : ℚ :=
  if asOf ≤ start then 0
  else if finish ≤ asOf then 1
  else
    let totalDays := calendar.workingDaysBetween start finish
    if totalDays = 0 then 0
    else clamp01 (calendar.workingDaysBetween start asOf / totalDays)

namespace BaselineTask

/-- A task without dates is never due. -/
def plannedFraction (row : BaselineTask) (asOf : Date) : ℚ :=
  match row.baselineStart, row.baselineFinish with
  | some start, some finish => ProjectManager.plannedFraction calendar start finish asOf
  | _, _ => 0

/-- The stored duration, or else the working days between the dates. -/
def workingDays (row : BaselineTask) : ℕ :=
  if row.baselineDurationDays = 0 then
    match row.baselineStart, row.baselineFinish with
    | some start, some finish => calendar.workingDaysBetween start finish
    | _, _ => 0
  else row.baselineDurationDays

end BaselineTask

/-- The dictionary of durations: the last row of a task counts. -/
def durationOf (rows : List BaselineTask) (taskId : String) : ℕ :=
  ((rows.reverse.find? fun row => row.taskId = taskId).map
    (BaselineTask.workingDays calendar)).getD 0

def totalDuration (rows : List BaselineTask) : ℕ :=
  ((rows.map BaselineTask.taskId).dedup.map (durationOf calendar rows)).sum

end

def baselineCost (rows : List BaselineTask) : ℚ := (rows.map BaselineTask.baselinePlannedCost).sum

def costLoaded (rows : List BaselineTask) : Bool :=
  0 < ((rows.map BaselineTask.baselinePlannedCost).filter fun cost => 0 < cost).sum

section

variable (calendar : WorkCalendarEngine) (project : Option Project) (rows : List BaselineTask)

def plannedBudget : ℚ := (project.bind Project.plannedBudget).getD 0

/-- Without costs in the baseline, the budget of the project takes their place. -/
def usesPlannedBudget : Bool := baselineCost rows ≤ 0 ∧ plannedBudget project ≠ 0

def budgetAtCompletion : ℚ :=
  if usesPlannedBudget project rows = true then plannedBudget project else baselineCost rows

/-- The share of a task in a budget without costs. -/
def taskBudget (bac : ℚ) (row : BaselineTask) : ℚ :=
  bac * (durationOf calendar rows row.taskId / totalDuration calendar rows)

/-- The planned value when only the project says when its budget is due. -/
def projectPlannedValue (bac : ℚ) (asOf : Date) : ℚ :=
  match project.bind Project.startDate, project.bind Project.endDate with
  | some start, some finish =>
      let totalDays := calendar.workingDaysBetween start finish
      if 0 < bac ∧ 0 < totalDays then
        bac * clamp01 (calendar.workingDaysBetween start asOf / totalDays)
      else 0
  | _, _ => 0

def plannedValue (bac : ℚ) (asOf : Date) : ℚ :=
  if costLoaded rows = true then
    (rows.map fun row =>
      if row.baselinePlannedCost ≤ 0 then 0
      else row.baselinePlannedCost * row.plannedFraction calendar asOf).sum
  else if 0 < bac ∧ 0 < totalDuration calendar rows then
    (rows.map fun row =>
      if durationOf calendar rows row.taskId = 0 then 0
      else taskBudget calendar rows bac row * row.plannedFraction calendar asOf).sum
  else projectPlannedValue calendar project bac asOf

/-- The part of a task that is done; a task that is gone has no progress. -/
def progressOf (tasks : TasksById) (row : BaselineTask) : ℚ :=
  ((tasks.get? row.taskId).map fun task => clamp01 (task.percentComplete / 100)).getD 0

def earnedValue (tasks : TasksById) (bac : ℚ) : ℚ :=
  if costLoaded rows = true then
    (rows.map fun row => row.baselinePlannedCost * progressOf tasks row).sum
  else if 0 < bac ∧ 0 < totalDuration calendar rows then
    (rows.map fun row =>
      if durationOf calendar rows row.taskId = 0 then 0
      else taskBudget calendar rows bac row * progressOf tasks row).sum
  else 0

/-- What the report says about how the values came about. -/
def earnedValueNotes (bac ev ac : ℚ) : List String :=
  let byDuration := costLoaded rows = false ∧ 0 < bac ∧ 0 < totalDuration calendar rows
  let byProject := costLoaded rows = false ∧ ¬ (0 < bac ∧ 0 < totalDuration calendar rows)
  let projectDays :=
    ((project.bind Project.startDate).bind fun start =>
      (project.bind Project.endDate).map fun finish =>
        calendar.workingDaysBetween start finish).getD 0
  [(decide (usesPlannedBudget project rows = true),
      "BAC set from project planned budget (project.planned_budget)."),
    (decide (bac ≤ 0), "BAC is 0 (baseline has no planned cost). " ++
      "Enter planned costs and recreate baseline for EVM."),
    (decide byDuration,
      "PV computed using duration-weighted BAC (baseline costs not loaded per task)."),
    (decide (byProject ∧ 0 < bac ∧ 0 < projectDays), "PV computed using project-level " ++
      "schedule and BAC (fallback to project planned budget)."),
    (decide (byProject ∧ ¬ (0 < bac ∧ 0 < projectDays)),
      "PV is 0 (no baseline cost-loading and no usable durations/dates)."),
    (decide byDuration,
      "EV computed using duration-weighted BAC (baseline costs not loaded per task)."),
    (decide (ev ≤ 0), "EV is 0 (tasks may have 0% progress or baseline budget is missing)."),
    (decide (ac ≤ 0),
      "AC is 0 (no actual costs recorded up to the as-of date, including logged labor)."),
    (decide (bac - ac ≤ 0), "TCPI(BAC) N/A AC >= BAC (already over baseline budget)"),
    (decide (0 < bac ∧ 0 < ac ∧ 5 * bac < ac), "Warning: AC is much larger than BAC. " ++
      "Check currency/units or baseline planned costs.")].filterMap fun note =>
    if note.1 then some note.2 else none

end

/-- A quotient, where the divisor is positive. -/
def indexOf (dividend divisor : ℚ) : Option ℚ :=
  if 0 < divisor then some (dividend / divisor) else none

def getEarnedValue (service : ReportingService) (store : ProjectStore) (projectId : String)
    (asOf : Option Date) (baselineId : Option String) : Except DomainError EarnedValueMetrics := do
  service.requireView "view earned value report" projectId
  let day := asOf.getD service.today
  let baseline ← require (store.baselineFor projectId baselineId)
    (businessRuleError "No baseline found. Create a baseline first." "NO_BASELINE")
  let rows := store.baselineTasksOf baseline.id
  ensure (rows ≠ [])
    (businessRuleError "Baseline has no tasks. Recreate baseline." "BASELINE_EMPTY")
  let project := store.projects.get? projectId
  let bac := budgetAtCompletion project rows
  let pv := plannedValue service.calendar project rows bac day
  let ev := earnedValue service.calendar rows (store.tasksOf projectId) bac
  let snapshot ← buildCostPolicySnapshot store projectId service day
  let ac := sumBucketMap snapshot.actualMap snapshot.projectCurrency
  let cpi := indexOf ev ac
  let eac := cpi.bind (indexOf bac)
  let notes := earnedValueNotes service.calendar project rows bac ev ac
  return {
    asOf := day
    baselineId := baseline.id
    bac := bac
    pv := pv
    ev := ev
    ac := ac
    cpi := cpi
    spi := indexOf ev pv
    eac := eac
    etc := eac.map fun estimate => estimate - ac
    vac := eac.map fun estimate => bac - estimate
    tcpiToBac := indexOf (bac - ev) (bac - ac)
    tcpiToEac := eac.bind fun estimate => indexOf (bac - ev) (estimate - ac)
    notes := if notes = [] then none else some (String.intercalate " " notes) }

/-! ## Fractions -/

theorem clamp01_nonneg (x : ℚ) : 0 ≤ clamp01 x := le_max_left _ _

theorem clamp01_le_one (x : ℚ) : clamp01 x ≤ 1 := max_le zero_le_one (min_le_left _ _)

theorem clamp01_mono {x y : ℚ} (h : x ≤ y) : clamp01 x ≤ clamp01 y :=
  max_le_max_left 0 (min_le_min_left 1 h)

section

variable (calendar : WorkCalendarEngine)

/-- More of a period is over on a later day. -/
theorem elapsedShare_mono (start : Date) (totalDays : ℕ) {asOf later : Date} (h : asOf ≤ later) :
    clamp01 (calendar.workingDaysBetween start asOf / totalDays) ≤
      clamp01 (calendar.workingDaysBetween start later / totalDays) := by
  apply clamp01_mono
  gcongr
  exact calendar.workingDaysBetween_mono start h

theorem plannedFraction_nonneg (start finish asOf : Date) :
    0 ≤ plannedFraction calendar start finish asOf := by
  unfold plannedFraction
  split_ifs with hstart hfinish
  · exact le_rfl
  · exact zero_le_one
  · dsimp only
    split_ifs
    · exact le_rfl
    · exact clamp01_nonneg _

theorem plannedFraction_le_one (start finish asOf : Date) :
    plannedFraction calendar start finish asOf ≤ 1 := by
  unfold plannedFraction
  split_ifs with hstart hfinish
  · exact zero_le_one
  · exact le_rfl
  · dsimp only
    split_ifs
    · exact zero_le_one
    · exact clamp01_le_one _

theorem plannedFraction_of_finished {start finish asOf : Date} (hstart : start < asOf)
    (hfinish : finish ≤ asOf) : plannedFraction calendar start finish asOf = 1 := by
  rw [plannedFraction, if_neg (not_le.mpr hstart), if_pos hfinish]

theorem plannedFraction_mono (start finish : Date) {asOf later : Date} (h : asOf ≤ later) :
    plannedFraction calendar start finish asOf ≤ plannedFraction calendar start finish later := by
  by_cases hstart : asOf ≤ start
  · rw [plannedFraction, if_pos hstart]
    exact plannedFraction_nonneg calendar start finish later
  · have hlater := (not_le.mp hstart).trans_le h
    by_cases hfinish : finish ≤ later
    · rw [plannedFraction_of_finished calendar hlater hfinish]
      exact plannedFraction_le_one calendar start finish asOf
    · -- Neither day is at an end of the task, so the elapsed days are compared.
      have hnow : ¬ finish ≤ asOf := fun hfinished => hfinish (hfinished.trans h)
      rw [plannedFraction, plannedFraction, if_neg hstart, if_neg hnow, if_neg (not_le.mpr hlater),
        if_neg hfinish]
      dsimp only
      split_ifs
      · exact le_rfl
      · exact elapsedShare_mono calendar start _ h

namespace BaselineTask

variable (row : BaselineTask)

def dated : Bool := row.baselineStart.isSome && row.baselineFinish.isSome

/-- The task is over on the day, and it has begun before. -/
def FinishedBy (asOf : Date) : Prop :=
  ∀ start finish, row.baselineStart = some start → row.baselineFinish = some finish →
    start < asOf ∧ finish ≤ asOf

theorem plannedFraction_nonneg (asOf : Date) : 0 ≤ row.plannedFraction calendar asOf := by
  unfold plannedFraction
  split
  · exact ProjectManager.plannedFraction_nonneg calendar _ _ asOf
  · exact le_rfl

theorem plannedFraction_le_one (asOf : Date) : row.plannedFraction calendar asOf ≤ 1 := by
  unfold plannedFraction
  split
  · exact ProjectManager.plannedFraction_le_one calendar _ _ asOf
  · exact zero_le_one

theorem plannedFraction_mono {asOf later : Date} (h : asOf ≤ later) :
    row.plannedFraction calendar asOf ≤ row.plannedFraction calendar later := by
  unfold plannedFraction
  split
  · exact ProjectManager.plannedFraction_mono calendar _ _ h
  · exact le_rfl

theorem plannedFraction_of_finishedBy {asOf : Date} (h : row.FinishedBy asOf) :
    row.plannedFraction calendar asOf = if row.dated = true then 1 else 0 := by
  unfold plannedFraction dated
  cases hstart : row.baselineStart with
  | none => rfl
  | some start =>
      cases hfinish : row.baselineFinish with
      | none => rfl
      | some finish =>
          obtain ⟨hbegun, hover⟩ := h start finish hstart hfinish
          exact plannedFraction_of_finished calendar hbegun hover

end BaselineTask

end

/-! ## Sums of shares -/

section

variable {α : Type} {l : List α} {weight part other : α → ℚ}

theorem sum_parts_nonneg (hweight : ∀ a ∈ l, 0 ≤ weight a) (hpart : ∀ a ∈ l, 0 ≤ part a) :
    0 ≤ (l.map fun a => weight a * part a).sum := by
  apply List.sum_nonneg
  intro value hvalue
  obtain ⟨a, ha, rfl⟩ := List.mem_map.mp hvalue
  exact mul_nonneg (hweight a ha) (hpart a ha)

theorem sum_parts_mono (hweight : ∀ a ∈ l, 0 ≤ weight a) (h : ∀ a ∈ l, part a ≤ other a) :
    (l.map fun a => weight a * part a).sum ≤ (l.map fun a => weight a * other a).sum :=
  List.sum_le_sum fun a ha => mul_le_mul_of_nonneg_left (h a ha) (hweight a ha)

theorem sum_parts_le (hweight : ∀ a ∈ l, 0 ≤ weight a) (h : ∀ a ∈ l, part a ≤ 1) :
    (l.map fun a => weight a * part a).sum ≤ (l.map weight).sum := by
  have hmono := sum_parts_mono hweight h
  simpa only [mul_one] using hmono

/-- Parts that are all or nothing add up to the weights that are kept. -/
theorem sum_parts_ite (keep : α → Bool)
    (h : ∀ a ∈ l, part a = if keep a = true then 1 else 0) :
    (l.map fun a => weight a * part a).sum = ((l.filter keep).map weight).sum := by
  induction l with
  | nil => rfl
  | cons a rest ih =>
      rw [List.map_cons, List.sum_cons, h a List.mem_cons_self,
        ih fun b hb => h b (List.mem_cons_of_mem a hb)]
      cases hkeep : keep a with
      | false =>
          rw [List.filter_cons_of_neg (by rw [hkeep]; exact Bool.false_ne_true),
            if_neg Bool.false_ne_true, mul_zero, zero_add]
      | true => rw [List.filter_cons_of_pos hkeep, if_pos rfl, mul_one, List.map_cons, List.sum_cons]

end

/-! ## What the values are shares of -/

section

variable (calendar : WorkCalendarEngine) {project : Option Project} {rows : List BaselineTask}

def NonnegativeCosts (rows : List BaselineTask) : Prop := ∀ row ∈ rows, 0 ≤ row.baselinePlannedCost

instance (rows : List BaselineTask) : Decidable (NonnegativeCosts rows) :=
  inferInstanceAs (Decidable (∀ row ∈ rows, 0 ≤ row.baselinePlannedCost))

theorem baselineCost_eq_positive (hcosts : NonnegativeCosts rows) :
    baselineCost rows =
      ((rows.map BaselineTask.baselinePlannedCost).filter fun cost => 0 < cost).sum := by
  unfold baselineCost
  induction rows with
  | nil => rfl
  | cons row rest ih =>
      have hrest := ih fun other hother => hcosts other (List.mem_cons_of_mem row hother)
      have hrow := hcosts row List.mem_cons_self
      rw [List.map_cons, List.sum_cons, hrest]
      rcases hrow.eq_or_lt with hzero | hpos
      · rw [List.filter_cons_of_neg (by simp [← hzero]), ← hzero, zero_add]
      · rw [List.filter_cons_of_pos (by simpa using hpos), List.sum_cons]

theorem budgetAtCompletion_of_costLoaded (hcosts : NonnegativeCosts rows)
    (hloaded : costLoaded rows = true) : budgetAtCompletion project rows = baselineCost rows := by
  have hpos : 0 < baselineCost rows := by
    rw [baselineCost_eq_positive hcosts]
    exact of_decide_eq_true hloaded
  have huses : usesPlannedBudget project rows = false := by
    simp [usesPlannedBudget, not_le.mpr hpos]
  rw [budgetAtCompletion, huses, if_neg Bool.false_ne_true]

theorem budgetAtCompletion_nonneg (hcosts : NonnegativeCosts rows)
    (hbudget : 0 ≤ plannedBudget project) : 0 ≤ budgetAtCompletion project rows := by
  unfold budgetAtCompletion
  split
  · exact hbudget
  · apply List.sum_nonneg
    intro cost hcost
    obtain ⟨row, hrow, rfl⟩ := List.mem_map.mp hcost
    exact hcosts row hrow

theorem sum_taskBudget (hrows : (rows.map BaselineTask.taskId).Nodup)
    (htotal : 0 < totalDuration calendar rows) (bac : ℚ) :
    (rows.map (taskBudget calendar rows bac)).sum = bac := by
  have hdurations : ((rows.map fun row => durationOf calendar rows row.taskId).sum : ℕ) =
      totalDuration calendar rows := by
    rw [totalDuration, hrows.dedup, List.map_map]
    rfl
  have hne : (totalDuration calendar rows : ℚ) ≠ 0 := Nat.cast_ne_zero.mpr htotal.ne'
  have hcast : (rows.map fun row => (durationOf calendar rows row.taskId : ℚ)).sum =
      totalDuration calendar rows := by
    rw [← hdurations, Nat.cast_list_sum, List.map_map]
    rfl
  calc (rows.map (taskBudget calendar rows bac)).sum
      = (rows.map fun row => bac / totalDuration calendar rows *
          (durationOf calendar rows row.taskId : ℚ)).sum := by
        congr 1
        apply List.map_congr_left
        intro row _
        rw [taskBudget, mul_div_assoc', mul_div_right_comm]
    _ = bac / totalDuration calendar rows * totalDuration calendar rows := by
        rw [List.sum_map_mul_left, hcast]
    _ = bac := div_mul_cancel₀ bac hne

theorem taskBudget_nonneg {bac : ℚ} (hbac : 0 ≤ bac) (row : BaselineTask) :
    0 ≤ taskBudget calendar rows bac row :=
  mul_nonneg hbac (div_nonneg (Nat.cast_nonneg _) (Nat.cast_nonneg _))

theorem plannedValue_of_costLoaded (hcosts : NonnegativeCosts rows)
    (hloaded : costLoaded rows = true) (bac : ℚ) (asOf : Date) :
    plannedValue calendar project rows bac asOf =
      (rows.map fun row => row.baselinePlannedCost * row.plannedFraction calendar asOf).sum := by
  rw [plannedValue, if_pos hloaded]
  congr 1
  apply List.map_congr_left
  intro row hrow
  split
  next hcost => rw [le_antisymm hcost (hcosts row hrow), zero_mul]
  next => rfl

theorem shared_sum_eq (bac : ℚ) (part : BaselineTask → ℚ) :
    (rows.map fun row =>
      if durationOf calendar rows row.taskId = 0 then 0
      else taskBudget calendar rows bac row * part row).sum =
      (rows.map fun row => taskBudget calendar rows bac row * part row).sum := by
  congr 1
  apply List.map_congr_left
  intro row _
  split
  next hduration => rw [taskBudget, hduration, Nat.cast_zero, zero_div, mul_zero, zero_mul]
  next => rfl

theorem plannedValue_of_shared (hloaded : costLoaded rows = false) {bac : ℚ}
    (hshared : 0 < bac ∧ 0 < totalDuration calendar rows) (asOf : Date) :
    plannedValue calendar project rows bac asOf =
      (rows.map fun row =>
        taskBudget calendar rows bac row * row.plannedFraction calendar asOf).sum := by
  rw [plannedValue, hloaded, if_neg Bool.false_ne_true, if_pos hshared, shared_sum_eq]

theorem plannedValue_of_project (hloaded : costLoaded rows = false) {bac : ℚ}
    (hshared : ¬ (0 < bac ∧ 0 < totalDuration calendar rows)) (asOf : Date) :
    plannedValue calendar project rows bac asOf =
      projectPlannedValue calendar project bac asOf := by
  rw [plannedValue, hloaded, if_neg Bool.false_ne_true, if_neg hshared]

theorem projectPlannedValue_bounds {bac : ℚ} (hbac : 0 ≤ bac) (asOf : Date) :
    0 ≤ projectPlannedValue calendar project bac asOf ∧
      projectPlannedValue calendar project bac asOf ≤ bac := by
  unfold projectPlannedValue
  split
  · dsimp only
    split_ifs
    · exact ⟨mul_nonneg hbac (clamp01_nonneg _), mul_le_of_le_one_right hbac (clamp01_le_one _)⟩
    · exact ⟨le_rfl, hbac⟩
  · exact ⟨le_rfl, hbac⟩

theorem projectPlannedValue_mono {bac : ℚ} (hbac : 0 ≤ bac) {asOf later : Date}
    (h : asOf ≤ later) :
    projectPlannedValue calendar project bac asOf ≤
      projectPlannedValue calendar project bac later := by
  unfold projectPlannedValue
  split
  next start finish _ _ =>
    dsimp only
    split_ifs
    · exact mul_le_mul_of_nonneg_left (elapsedShare_mono calendar start _ h) hbac
    · exact le_rfl
  next => exact le_rfl

theorem plannedValue_bounds (hcosts : NonnegativeCosts rows)
    (hrows : (rows.map BaselineTask.taskId).Nodup) (hbudget : 0 ≤ plannedBudget project)
    (asOf : Date) :
    0 ≤ plannedValue calendar project rows (budgetAtCompletion project rows) asOf ∧
      plannedValue calendar project rows (budgetAtCompletion project rows) asOf ≤
        budgetAtCompletion project rows := by
  have hbac := budgetAtCompletion_nonneg hcosts hbudget
  cases hloaded : costLoaded rows with
  | true =>
      rw [plannedValue_of_costLoaded calendar hcosts hloaded]
      refine ⟨sum_parts_nonneg hcosts fun row _ => row.plannedFraction_nonneg calendar asOf, ?_⟩
      rw [budgetAtCompletion_of_costLoaded hcosts hloaded]
      exact sum_parts_le hcosts fun row _ => row.plannedFraction_le_one calendar asOf
  | false =>
      by_cases hshared : 0 < budgetAtCompletion project rows ∧ 0 < totalDuration calendar rows
      · have hshares : ∀ row ∈ rows,
            0 ≤ taskBudget calendar rows (budgetAtCompletion project rows) row :=
          fun row _ => taskBudget_nonneg calendar hbac row
        have hsum := sum_taskBudget calendar hrows hshared.2 (budgetAtCompletion project rows)
        rw [plannedValue_of_shared calendar hloaded hshared]
        refine ⟨sum_parts_nonneg hshares fun row _ => row.plannedFraction_nonneg calendar asOf, ?_⟩
        exact (sum_parts_le hshares fun row _ =>
          row.plannedFraction_le_one calendar asOf).trans_eq hsum
      · rw [plannedValue_of_project calendar hloaded hshared]
        exact projectPlannedValue_bounds calendar hbac asOf

theorem plannedValue_mono (hcosts : NonnegativeCosts rows) (hbudget : 0 ≤ plannedBudget project)
    {asOf later : Date} (h : asOf ≤ later) :
    plannedValue calendar project rows (budgetAtCompletion project rows) asOf ≤
      plannedValue calendar project rows (budgetAtCompletion project rows) later := by
  have hbac := budgetAtCompletion_nonneg hcosts hbudget
  cases hloaded : costLoaded rows with
  | true =>
      rw [plannedValue_of_costLoaded calendar hcosts hloaded,
        plannedValue_of_costLoaded calendar hcosts hloaded]
      exact sum_parts_mono hcosts fun row _ => row.plannedFraction_mono calendar h
  | false =>
      by_cases hshared : 0 < budgetAtCompletion project rows ∧ 0 < totalDuration calendar rows
      · rw [plannedValue_of_shared calendar hloaded hshared,
          plannedValue_of_shared calendar hloaded hshared]
        exact sum_parts_mono (fun row _ => taskBudget_nonneg calendar hbac row)
          fun row _ => row.plannedFraction_mono calendar h
      · rw [plannedValue_of_project calendar hloaded hshared,
          plannedValue_of_project calendar hloaded hshared]
        exact projectPlannedValue_mono calendar hbac h

theorem progressOf_nonneg (tasks : TasksById) (row : BaselineTask) : 0 ≤ progressOf tasks row := by
  unfold progressOf
  cases tasks.get? row.taskId with
  | none => exact le_rfl
  | some task => exact clamp01_nonneg _

theorem progressOf_le_one (tasks : TasksById) (row : BaselineTask) : progressOf tasks row ≤ 1 := by
  unfold progressOf
  cases tasks.get? row.taskId with
  | none => exact zero_le_one
  | some task => exact clamp01_le_one _

theorem earnedValue_bounds (hcosts : NonnegativeCosts rows)
    (hrows : (rows.map BaselineTask.taskId).Nodup) (hbudget : 0 ≤ plannedBudget project)
    (tasks : TasksById) :
    0 ≤ earnedValue calendar rows tasks (budgetAtCompletion project rows) ∧
      earnedValue calendar rows tasks (budgetAtCompletion project rows) ≤
        budgetAtCompletion project rows := by
  have hbac := budgetAtCompletion_nonneg hcosts hbudget
  unfold earnedValue
  split
  next hloaded =>
    refine ⟨sum_parts_nonneg hcosts fun row _ => progressOf_nonneg tasks row, ?_⟩
    rw [budgetAtCompletion_of_costLoaded hcosts hloaded]
    exact sum_parts_le hcosts fun row _ => progressOf_le_one tasks row
  next =>
    split
    next hshared =>
      have hshares : ∀ row ∈ rows,
          0 ≤ taskBudget calendar rows (budgetAtCompletion project rows) row :=
        fun row _ => taskBudget_nonneg calendar hbac row
      have hsum := sum_taskBudget calendar hrows hshared.2 (budgetAtCompletion project rows)
      rw [shared_sum_eq]
      refine ⟨sum_parts_nonneg hshares fun row _ => progressOf_nonneg tasks row, ?_⟩
      exact (sum_parts_le hshares fun row _ => progressOf_le_one tasks row).trans_eq hsum
    next => exact ⟨le_rfl, hbac⟩

end

def datedCost (rows : List BaselineTask) : ℚ := baselineCost (rows.filter BaselineTask.dated)

/-- The share of the tasks with dates in a budget without costs. -/
def datedBudget (calendar : WorkCalendarEngine) (rows : List BaselineTask) (bac : ℚ) : ℚ :=
  ((rows.filter BaselineTask.dated).map (taskBudget calendar rows bac)).sum

section

variable {service : ReportingService} {store : ProjectStore} {projectId : String}
  {baselineId : Option String} {baseline : ProjectBaseline}

/-- The three values of an accepted report. -/
theorem getEarnedValue_ok (hbaseline : store.baselineFor projectId baselineId = some baseline)
    {asOf : Date} {metrics : EarnedValueMetrics}
    (h : getEarnedValue service store projectId (some asOf) baselineId = .ok metrics) :
    let rows := store.baselineTasksOf baseline.id
    let project := store.projects.get? projectId
    metrics.bac = budgetAtCompletion project rows ∧
      metrics.pv = plannedValue service.calendar project rows metrics.bac asOf ∧
      metrics.ev = earnedValue service.calendar rows (store.tasksOf projectId) metrics.bac := by
  obtain ⟨_, -, h⟩ := bind_ok h
  obtain ⟨found, hfound, h⟩ := bind_ok h
  obtain ⟨_, -, h⟩ := bind_ok h
  obtain ⟨snapshot, -, h⟩ := bind_ok h
  cases h
  obtain rfl : baseline = found :=
    Option.some.inj (hbaseline.symm.trans (require_eq_ok.mp hfound))
  exact ⟨rfl, rfl, rfl⟩

/-- Planned and earned value lie between nothing and the budget at completion, the planned value
never goes back, and when every task with dates is over it is what these tasks cost: their costs, or
without costs in the baseline their share of the budget by durations. -/
theorem getEarnedValue_withinBudget
    (hbaseline : store.baselineFor projectId baselineId = some baseline)
    (hcosts : NonnegativeCosts (store.baselineTasksOf baseline.id))
    (hrows : ((store.baselineTasksOf baseline.id).map BaselineTask.taskId).Nodup)
    (hbudget : 0 ≤ plannedBudget (store.projects.get? projectId)) {asOf : Date}
    {metrics : EarnedValueMetrics}
    (h : getEarnedValue service store projectId (some asOf) baselineId = .ok metrics) :
    (0 ≤ metrics.pv ∧ metrics.pv ≤ metrics.bac) ∧ (0 ≤ metrics.ev ∧ metrics.ev ≤ metrics.bac) ∧
      (∀ later laterMetrics, asOf ≤ later →
        getEarnedValue service store projectId (some later) baselineId = .ok laterMetrics →
          metrics.pv ≤ laterMetrics.pv) ∧
      ((∀ row ∈ store.baselineTasksOf baseline.id, row.FinishedBy asOf) →
        (costLoaded (store.baselineTasksOf baseline.id) = true →
          metrics.pv = datedCost (store.baselineTasksOf baseline.id)) ∧
        (costLoaded (store.baselineTasksOf baseline.id) = false → 0 < metrics.bac →
          0 < totalDuration service.calendar (store.baselineTasksOf baseline.id) →
            metrics.pv =
              datedBudget service.calendar (store.baselineTasksOf baseline.id) metrics.bac)) := by
  obtain ⟨hbac, hpv, hev⟩ := getEarnedValue_ok hbaseline h
  rw [hev, hpv]
  refine ⟨?_, ?_, ?_, ?_⟩
  · rw [hbac]
    exact plannedValue_bounds service.calendar hcosts hrows hbudget asOf
  · rw [hbac]
    exact earnedValue_bounds service.calendar hcosts hrows hbudget _
  · intro later laterMetrics hlater hreport
    obtain ⟨hbacLater, hpvLater, -⟩ := getEarnedValue_ok hbaseline hreport
    rw [hpvLater, hbacLater, hbac]
    exact plannedValue_mono service.calendar hcosts hbudget hlater
  · intro hfinished
    have hparts : ∀ row ∈ store.baselineTasksOf baseline.id,
        row.plannedFraction service.calendar asOf = if row.dated = true then 1 else 0 :=
      fun row hrow => row.plannedFraction_of_finishedBy service.calendar (hfinished row hrow)
    constructor
    · intro hloaded
      rw [plannedValue_of_costLoaded service.calendar hcosts hloaded]
      exact sum_parts_ite BaselineTask.dated hparts
    · intro hloaded hpos htotal
      rw [plannedValue_of_shared service.calendar hloaded ⟨hpos, htotal⟩]
      exact sum_parts_ite BaselineTask.dated hparts

end

/-! ## A week of work -/

def reportViewer : ReportingService where
  userSession := .admin
  calendar := weekdayCalendar
  today := 8

/-- A baseline of two tasks, done from Monday and from Thursday to Friday. -/
def weekStore (cost : ℚ) : ProjectStore where
  projects := ⟨[{ id := "p", plannedBudget := some 1000 }], by decide⟩
  tasks := ⟨[{ id := "t", projectId := "p", name := "T", percentComplete := 40 },
             { id := "u", projectId := "p", name := "U" }], by decide⟩
  baselines := ⟨[{ id := "b", projectId := "p", name := "Baseline", createdAt := 1 }], by decide⟩
  baselineTasks :=
    ⟨[{ id := "r", baselineId := "b", taskId := "t", taskName := some "T", baselineStart := some 1
        baselineFinish := some 5, baselineDurationDays := 5, baselinePlannedCost := cost },
      { id := "s", baselineId := "b", taskId := "u", taskName := some "U", baselineStart := some 4
        baselineFinish := some 5, baselineDurationDays := 2, baselinePlannedCost := cost }],
      show ["r", "s"].Nodup by simp⟩

def weekRows (cost : ℚ) : List BaselineTask := (weekStore cost).baselineTasksOf "b"

theorem weekRows_dates (cost : ℚ) :
    ∀ row ∈ weekRows cost, row.baselineFinish = some 5 ∧ ∀ start ∈ row.baselineStart, start < 5 := by
  intro row hrow
  have hmem : row ∈ (weekStore cost).baselineTasks.rows := (List.mem_filter.mp hrow).1
  rcases List.mem_pair.mp hmem with rfl | rfl <;> exact ⟨rfl, by simp⟩

theorem weekReport (cost : ℚ) (asOf : Date) {pv : ℚ}
    (h : ((getEarnedValue reportViewer (weekStore cost) "p" (some asOf) (some "b")).toOption.map
      EarnedValueMetrics.pv) = some pv) :
    ∃ metrics, getEarnedValue reportViewer (weekStore cost) "p" (some asOf) (some "b") =
      .ok metrics ∧ metrics.pv = pv := by
  obtain ⟨metrics, hmetrics, hpv⟩ := Option.map_eq_some_iff.mp h
  exact ⟨metrics, toOption_eq_some.mp hmetrics, hpv⟩

theorem getEarnedValue_withinBudget_week :
    ∃ metrics, getEarnedValue reportViewer (weekStore 500) "p" (some 3) (some "b") = .ok metrics ∧
      metrics.pv = 300 ∧ metrics.pv ≤ metrics.bac ∧ metrics.ev ≤ metrics.bac ∧
      ∃ finished, getEarnedValue reportViewer (weekStore 500) "p" (some 5) (some "b") =
        .ok finished ∧ metrics.pv ≤ finished.pv ∧ finished.pv = datedCost (weekRows 500) := by
  obtain ⟨metrics, hmetrics, hpv⟩ : ∃ metrics,
      getEarnedValue reportViewer (weekStore 500) "p" (some 3) (some "b") = .ok metrics ∧
        metrics.pv = 300 := weekReport 500 3 (by decide +kernel)
  obtain ⟨finished, hfinished, -⟩ : ∃ metrics,
      getEarnedValue reportViewer (weekStore 500) "p" (some 5) (some "b") = .ok metrics ∧
        metrics.pv = 1000 := weekReport 500 5 (by decide +kernel)
  have hbaseline : (weekStore 500).baselineFor "p" (some "b") =
    some { id := "b", projectId := "p", name := "Baseline", createdAt := 1 } := rfl
  have hcosts : NonnegativeCosts (weekRows 500) := by decide +kernel
  have hover : ∀ row ∈ weekRows 500, row.FinishedBy 5 := by
    intro row hrow start finish hstart hfinish
    obtain ⟨hrowFinish, hrowStart⟩ := weekRows_dates 500 row hrow
    rw [hrowFinish] at hfinish
    cases hfinish
    exact ⟨hrowStart start hstart, le_rfl⟩
  have hmiddle := getEarnedValue_withinBudget hbaseline hcosts (by decide +kernel)
    (by decide +kernel) hmetrics
  have hend := getEarnedValue_withinBudget hbaseline hcosts (by decide +kernel)
    (by decide +kernel) hfinished
  exact ⟨metrics, hmetrics, hpv, hmiddle.1.2, hmiddle.2.1.2, finished, hfinished,
    hmiddle.2.2.1 5 finished (by decide) hfinished, (hend.2.2.2 hover).1 (by decide +kernel)⟩

/-- A baseline without costs has a planned value all the same. -/
theorem plannedValue_unpricedWeek :
    NonnegativeCosts (weekRows 0) ∧
      (∀ row ∈ weekRows 0, ∀ finish, row.baselineFinish = some finish → finish ≤ 5) ∧
      ∃ metrics, getEarnedValue reportViewer (weekStore 0) "p" (some 5) (some "b") = .ok metrics ∧
        metrics.pv ≠ datedCost (weekRows 0) := by
  obtain ⟨metrics, hmetrics, hpv⟩ : ∃ metrics,
      getEarnedValue reportViewer (weekStore 0) "p" (some 5) (some "b") = .ok metrics ∧
        metrics.pv = 1000 := weekReport 0 5 (by decide +kernel)
  refine ⟨by decide +kernel, ?_, metrics, hmetrics, ?_⟩
  · intro row hrow finish hfinish
    rw [(weekRows_dates 0 row hrow).1] at hfinish
    exact (Option.some.inj hfinish).ge
  · rw [hpv]
    decide +kernel

end ProjectManager
