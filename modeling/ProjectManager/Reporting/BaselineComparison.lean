import ProjectManager.Foundation.Groups
import ProjectManager.Reporting.EarnedValue

/-! # Comparing baselines

The tasks of two baselines of a project side by side: those that only one of them
has are added or removed, and the others are changed or not.
-/

namespace ProjectManager

open Foundation

inductive BaselineChange
  | added
  | removed
  | changed
  | unchanged
  deriving DecidableEq

def BaselineChange.value : BaselineChange → String
  | .added => "ADDED"
  | .removed => "REMOVED"
  | .changed => "CHANGED"
  | .unchanged => "UNCHANGED"

/-- `change_priority`, the order of the rows. -/
def BaselineChange.priority : BaselineChange → ℕ
  | .added => 0
  | .removed => 1
  | .changed => 2
  | .unchanged => 3

structure BaselineComparisonRow where
  taskId : String
  taskName : String
  baselineAStart : Option Date
  baselineAFinish : Option Date
  baselineADurationDays : Option ℕ
  baselineAPlannedCost : Option ℚ
  baselineBStart : Option Date
  baselineBFinish : Option Date
  baselineBDurationDays : Option ℕ
  baselineBPlannedCost : Option ℚ
  startShiftDays : Option ℤ
  finishShiftDays : Option ℤ
  durationDeltaDays : Option ℤ
  plannedCostDelta : ℚ
  changeType : BaselineChange
  deriving DecidableEq

structure BaselineComparisonResult where
  projectId : String
  baselineAId : String
  baselineAName : String
  baselineACreatedAt : Date
  baselineBId : String
  baselineBName : String
  baselineBCreatedAt : Date
  totalTasksCompared : ℕ
  changedTasks : ℕ
  addedTasks : ℕ
  removedTasks : ℕ
  unchangedTasks : ℕ
  rows : List BaselineComparisonRow
  deriving DecidableEq

/-! ## Rows -/

/-- `{row.task_id: row for row in rows}`: the last row of a task stands for it. -/
def lastByTask : Grouping BaselineTask.taskId BaselineTask.taskId where
  join _ row := row
  key_join _ _ _ := rfl

abbrev TaskRows := Table BaselineTask.taskId

def resolveChangeType (baselineATask baselineBTask : Option BaselineTask) : BaselineChange :=
  match baselineATask, baselineBTask with
  | none, some _ => .added
  | some _, none => .removed
  | none, none => .changed
  | some rowA, some rowB =>
      if rowA.baselineStart = rowB.baselineStart ∧ rowA.baselineFinish = rowB.baselineFinish ∧
          rowA.baselineDurationDays = rowB.baselineDurationDays ∧
          |rowA.baselinePlannedCost - rowB.baselinePlannedCost| < 1 / 10 ^ 9 then
        .unchanged
      else .changed

/-- The difference of two values, where both are known. -/
def delta {α : Type} (sub : α → α → ℤ) (before after : Option α) : Option ℤ :=
  before.bind fun first => after.map fun second => sub second first

section

variable (taskNameById : String → Option String) (baselineATasks baselineBTasks : TaskRows)

def comparisonTaskName (taskId : String) : String :=
  orElse ((taskNameById taskId).getD "")
    (orElse (((baselineBTasks.get? taskId).bind BaselineTask.taskName).getD "")
      (orElse (((baselineATasks.get? taskId).bind BaselineTask.taskName).getD "") taskId))

def comparisonRow (taskId : String) : BaselineComparisonRow :=
  let rowA := baselineATasks.get? taskId
  let rowB := baselineBTasks.get? taskId
  let aStart := rowA.bind BaselineTask.baselineStart
  let bStart := rowB.bind BaselineTask.baselineStart
  let aFinish := rowA.bind BaselineTask.baselineFinish
  let bFinish := rowB.bind BaselineTask.baselineFinish
  let aDuration := rowA.map BaselineTask.baselineDurationDays
  let bDuration := rowB.map BaselineTask.baselineDurationDays
  let aCost := rowA.map BaselineTask.baselinePlannedCost
  let bCost := rowB.map BaselineTask.baselinePlannedCost
  { taskId := taskId
    taskName := comparisonTaskName taskNameById baselineATasks baselineBTasks taskId
    baselineAStart := aStart
    baselineAFinish := aFinish
    baselineADurationDays := aDuration
    baselineAPlannedCost := aCost
    baselineBStart := bStart
    baselineBFinish := bFinish
    baselineBDurationDays := bDuration
    baselineBPlannedCost := bCost
    startShiftDays := delta (fun later earlier : Date => later - earlier) aStart bStart
    finishShiftDays := delta (fun later earlier : Date => later - earlier) aFinish bFinish
    durationDeltaDays := delta (fun later earlier : ℕ => (later : ℤ) - earlier) aDuration bDuration
    plannedCostDelta := bCost.getD 0 - aCost.getD 0
    changeType := resolveChangeType rowA rowB }

/-- The tasks of either baseline. -/
def comparedTaskIds : List String :=
  baselineATasks.ids ++ baselineBTasks.ids.filter fun taskId => taskId ∉ baselineATasks.ids

end

/-- The kind of change comes first, then the name. -/
def BaselineComparisonRow.Before (first second : BaselineComparisonRow) : Prop :=
  first.changeType.priority < second.changeType.priority ∨
    first.changeType.priority = second.changeType.priority ∧
      lower first.taskName ≤ lower second.taskName

instance : DecidableRel BaselineComparisonRow.Before :=
  fun _ _ => inferInstanceAs (Decidable (_ ∨ _ ∧ _))

section

variable (store : ProjectStore) (service : ReportingService)

def baselineRowsByTask (baselineId : String) : TaskRows :=
  lastByTask.collect .empty (store.baselineTasksOf baselineId)

def taskNameById (projectId taskId : String) : Option String :=
  ((store.tasksOf projectId).get? taskId).map Task.name

/-- One round of the loop over the tasks. -/
def compareTask (projectId baselineAId baselineBId : String) : String → BaselineComparisonRow :=
  comparisonRow (taskNameById store projectId) (baselineRowsByTask store baselineAId)
    (baselineRowsByTask store baselineBId)

def allTaskIds (baselineAId baselineBId : String) : List String :=
  comparedTaskIds (baselineRowsByTask store baselineAId) (baselineRowsByTask store baselineBId)

def buildBaselineComparisonRows (projectId baselineAId baselineBId : String)
    (includeUnchanged : Bool) : List BaselineComparisonRow :=
  let rows := ((allTaskIds store baselineAId baselineBId).map
    (compareTask store projectId baselineAId baselineBId)).filter fun row =>
      includeUnchanged || row.changeType ≠ .unchanged
  rows.insertionSort BaselineComparisonRow.Before

def comparisonResult (projectId : String) (baselineA baselineB : ProjectBaseline)
    (includeUnchanged : Bool) : BaselineComparisonResult :=
  let allRows := buildBaselineComparisonRows store projectId baselineA.id baselineB.id true
  let count (changeType : BaselineChange) : ℕ :=
    allRows.countP fun row => row.changeType = changeType
  { projectId := projectId
    baselineAId := baselineA.id
    baselineAName := baselineA.name
    baselineACreatedAt := baselineA.createdAt
    baselineBId := baselineB.id
    baselineBName := baselineB.name
    baselineBCreatedAt := baselineB.createdAt
    totalTasksCompared := allRows.length
    changedTasks := count .changed
    addedTasks := count .added
    removedTasks := count .removed
    unchangedTasks := count .unchanged
    rows := if includeUnchanged then allRows
      else allRows.filter fun row => row.changeType ≠ .unchanged }

def compareBaselines (projectId baselineAId baselineBId : String) (includeUnchanged : Bool) :
    Except DomainError BaselineComparisonResult := do
  service.requireView "compare baselines" projectId
  ensure (baselineAId ≠ "" ∧ baselineBId ≠ "")
    (validationError "Two baseline IDs are required." "BASELINE_COMPARE_INPUT_INVALID")
  ensure (baselineAId ≠ baselineBId)
    (validationError "Select two different baselines to compare."
      "BASELINE_COMPARE_SAME_BASELINE")
  let baselineA ← require (store.baselines.get? baselineAId)
    (notFoundError "Baseline A not found." "BASELINE_A_NOT_FOUND")
  let baselineB ← require (store.baselines.get? baselineBId)
    (notFoundError "Baseline B not found." "BASELINE_B_NOT_FOUND")
  ensure (baselineA.projectId = projectId ∧ baselineB.projectId = projectId)
    (validationError "Selected baselines do not belong to the selected project."
      "BASELINE_COMPARE_PROJECT_MISMATCH")
  return comparisonResult store projectId baselineA baselineB includeUnchanged

end

/-! ## The other way round -/

def BaselineChange.exchanged : BaselineChange → BaselineChange
  | .added => .removed
  | .removed => .added
  | .changed => .changed
  | .unchanged => .unchanged

/-- The row with its baselines exchanged; only the name of the task is not determined by it. -/
def BaselineComparisonRow.mirrored (row : BaselineComparisonRow) (taskName : String) :
    BaselineComparisonRow where
  taskId := row.taskId
  taskName := taskName
  baselineAStart := row.baselineBStart
  baselineAFinish := row.baselineBFinish
  baselineADurationDays := row.baselineBDurationDays
  baselineAPlannedCost := row.baselineBPlannedCost
  baselineBStart := row.baselineAStart
  baselineBFinish := row.baselineAFinish
  baselineBDurationDays := row.baselineADurationDays
  baselineBPlannedCost := row.baselineAPlannedCost
  startShiftDays := row.startShiftDays.map Neg.neg
  finishShiftDays := row.finishShiftDays.map Neg.neg
  durationDeltaDays := row.durationDeltaDays.map Neg.neg
  plannedCostDelta := -row.plannedCostDelta
  changeType := row.changeType.exchanged

theorem exchanged_exchanged (change : BaselineChange) : change.exchanged.exchanged = change := by
  cases change <;> rfl

theorem exchanged_eq_iff {change other : BaselineChange} :
    change.exchanged = other ↔ change = other.exchanged := by
  constructor
  · rintro rfl
    exact (exchanged_exchanged change).symm
  · rintro rfl
    exact exchanged_exchanged other

theorem resolveChangeType_swap (rowA rowB : Option BaselineTask) :
    resolveChangeType rowB rowA = (resolveChangeType rowA rowB).exchanged := by
  cases rowA with
  | none => cases rowB <;> rfl
  | some first =>
      cases rowB with
      | none => rfl
      | some second =>
          -- Being unchanged is symmetric, the tolerance for costs included.
          simp only [resolveChangeType, eq_comm (a := second.baselineStart),
            eq_comm (a := second.baselineFinish), eq_comm (a := second.baselineDurationDays),
            abs_sub_comm second.baselinePlannedCost]
          split <;> rfl

theorem delta_swap {α : Type} {sub : α → α → ℤ} (hsub : ∀ x y, sub x y = -sub y x)
    (before after : Option α) : delta sub after before = (delta sub before after).map Neg.neg := by
  cases before with
  | none => cases after <;> rfl
  | some first =>
      cases after with
      | none => rfl
      | some second => exact congrArg some (hsub first second)

section

variable (taskNameById : String → Option String) (baselineATasks baselineBTasks : TaskRows)

theorem comparisonRow_swap (taskId : String) :
    comparisonRow taskNameById baselineBTasks baselineATasks taskId =
      (comparisonRow taskNameById baselineATasks baselineBTasks taskId).mirrored
        (comparisonTaskName taskNameById baselineBTasks baselineATasks taskId) := by
  have hdates : ∀ later earlier : Date, later - earlier = -(earlier - later) :=
    fun later earlier => (neg_sub earlier later).symm
  have hdurations : ∀ later earlier : ℕ, (later : ℤ) - earlier = -((earlier : ℤ) - later) :=
    fun later earlier => (neg_sub (earlier : ℤ) later).symm
  unfold comparisonRow BaselineComparisonRow.mirrored
  dsimp only
  rw [resolveChangeType_swap (baselineATasks.get? taskId),
    delta_swap hdates ((baselineATasks.get? taskId).bind BaselineTask.baselineStart),
    delta_swap hdates ((baselineATasks.get? taskId).bind BaselineTask.baselineFinish),
    delta_swap hdurations ((baselineATasks.get? taskId).map BaselineTask.baselineDurationDays),
    neg_sub]

/-! ## The tasks of either baseline -/

theorem mem_comparedTaskIds {taskId : String} :
    taskId ∈ comparedTaskIds baselineATasks baselineBTasks ↔
      taskId ∈ baselineATasks.ids ∨ taskId ∈ baselineBTasks.ids := by
  by_cases hid : taskId ∈ baselineATasks.ids
  · simp [comparedTaskIds, hid]
  · simp [comparedTaskIds, hid]

theorem nodup_comparedTaskIds : (comparedTaskIds baselineATasks baselineBTasks).Nodup := by
  refine List.Nodup.append baselineATasks.nodup (baselineBTasks.nodup.filter _) ?_
  intro taskId hfirst hsecond
  have hfresh := (List.mem_filter.mp hsecond).2
  exact absurd hfirst (of_decide_eq_true hfresh)

theorem comparedTaskIds_perm : List.Perm (comparedTaskIds baselineBTasks baselineATasks)
    (comparedTaskIds baselineATasks baselineBTasks) := by
  rw [List.perm_ext_iff_of_nodup (nodup_comparedTaskIds _ _) (nodup_comparedTaskIds _ _)]
  intro taskId
  rw [mem_comparedTaskIds, mem_comparedTaskIds]
  exact or_comm

end

/-! ## What a comparison says -/

def ProjectStore.baselineTaskIds (store : ProjectStore) (baselineId : String) : Finset String :=
  ((store.baselineTasksOf baselineId).map BaselineTask.taskId).toFinset

def changeOf (store : ProjectStore) (baselineAId baselineBId taskId : String) : BaselineChange :=
  resolveChangeType ((baselineRowsByTask store baselineAId).get? taskId)
    ((baselineRowsByTask store baselineBId).get? taskId)

/-- Every task of either baseline is compared once, and the counts divide them up. -/
structure Partitions (store : ProjectStore) (baselineAId baselineBId : String)
    (includeUnchanged : Bool) (compared : BaselineComparisonResult) : Prop where
  nodup : (compared.rows.map BaselineComparisonRow.taskId).Nodup
  within : ∀ row ∈ compared.rows,
    row.taskId ∈ store.baselineTaskIds baselineAId ∪ store.baselineTaskIds baselineBId
  complete : ∀ taskId ∈ store.baselineTaskIds baselineAId ∪ store.baselineTaskIds baselineBId,
    taskId ∈ compared.rows.map BaselineComparisonRow.taskId ∨
      includeUnchanged = false ∧ changeOf store baselineAId baselineBId taskId = .unchanged
  total : compared.totalTasksCompared =
    (store.baselineTaskIds baselineAId ∪ store.baselineTaskIds baselineBId).card
  added : compared.addedTasks =
    (store.baselineTaskIds baselineBId \ store.baselineTaskIds baselineAId).card
  removed : compared.removedTasks =
    (store.baselineTaskIds baselineAId \ store.baselineTaskIds baselineBId).card
  kept : compared.changedTasks + compared.unchangedTasks =
    (store.baselineTaskIds baselineAId ∩ store.baselineTaskIds baselineBId).card

/-- Two comparisons of the same baselines, one the other way round. -/
structure Mirrors (compared swapped : BaselineComparisonResult) : Prop where
  rows : ∃ taskName : String → String, swapped.rows.Perm
    (compared.rows.map fun row => row.mirrored (taskName row.taskId))
  total : swapped.totalTasksCompared = compared.totalTasksCompared
  added : swapped.addedTasks = compared.removedTasks
  removed : swapped.removedTasks = compared.addedTasks
  changed : swapped.changedTasks = compared.changedTasks
  unchanged : swapped.unchangedTasks = compared.unchangedTasks

section

variable {store : ProjectStore}

theorem mem_ids_baselineRowsByTask {baselineId taskId : String} :
    taskId ∈ (baselineRowsByTask store baselineId).ids ↔
      taskId ∈ store.baselineTaskIds baselineId := by
  rw [baselineRowsByTask, lastByTask.mem_ids_collect, ProjectStore.baselineTaskIds,
    List.mem_toFinset, List.mem_map]

theorem isSome_get?_iff {baselineId taskId : String} :
    ((baselineRowsByTask store baselineId).get? taskId).isSome = true ↔
      taskId ∈ store.baselineTaskIds baselineId := by
  rw [← mem_ids_baselineRowsByTask, ← not_iff_not, Bool.not_eq_true, Option.isSome_eq_false_iff,
    Option.isNone_iff_eq_none, Table.get?_eq_none]

variable {baselineAId baselineBId taskId : String}

theorem changeOf_eq_removed : changeOf store baselineAId baselineBId taskId = .removed ↔
    taskId ∈ store.baselineTaskIds baselineAId \ store.baselineTaskIds baselineBId := by
  rw [Finset.mem_sdiff, ← isSome_get?_iff, ← isSome_get?_iff]
  unfold changeOf resolveChangeType
  split
  next hA hB => simp [hA, hB]
  next hA hB => simp [hA, hB]
  next hA hB => simp [hA, hB]
  next hA hB => split <;> simp [hA, hB]

theorem changeOf_swap : changeOf store baselineBId baselineAId taskId =
    (changeOf store baselineAId baselineBId taskId).exchanged :=
  resolveChangeType_swap _ _

theorem changeOf_eq_added : changeOf store baselineAId baselineBId taskId = .added ↔
    taskId ∈ store.baselineTaskIds baselineBId \ store.baselineTaskIds baselineAId := by
  rw [changeOf_swap, exchanged_eq_iff]
  exact changeOf_eq_removed

theorem mem_inter_iff_kept
    (h : taskId ∈ store.baselineTaskIds baselineAId ∪ store.baselineTaskIds baselineBId) :
    taskId ∈ store.baselineTaskIds baselineAId ∩ store.baselineTaskIds baselineBId ↔
      changeOf store baselineAId baselineBId taskId ≠ .added ∧
        changeOf store baselineAId baselineBId taskId ≠ .removed := by
  rw [Ne, Ne, changeOf_eq_added, changeOf_eq_removed, Finset.mem_inter, Finset.mem_sdiff,
    Finset.mem_sdiff]
  rcases Finset.mem_union.mp h with hA | hB
  · simp [hA]
  · simp [hB]

theorem mem_inter_iff : taskId ∈ store.baselineTaskIds baselineAId ∩
      store.baselineTaskIds baselineBId ↔
    taskId ∈ store.baselineTaskIds baselineAId ∪ store.baselineTaskIds baselineBId ∧
      (changeOf store baselineAId baselineBId taskId = .changed ∨
        changeOf store baselineAId baselineBId taskId = .unchanged) := by
  constructor
  · intro h
    have hmem := Finset.mem_union_left (store.baselineTaskIds baselineBId) (Finset.mem_inter.mp h).1
    obtain ⟨hadded, hremoved⟩ := (mem_inter_iff_kept hmem).mp h
    refine ⟨hmem, ?_⟩
    cases hchange : changeOf store baselineAId baselineBId taskId with
    | added => exact absurd hchange hadded
    | removed => exact absurd hchange hremoved
    | changed => exact Or.inl rfl
    | unchanged => exact Or.inr rfl
  · rintro ⟨hmem, hchange | hchange⟩
    · exact (mem_inter_iff_kept hmem).mpr (by rw [hchange]; decide)
    · exact (mem_inter_iff_kept hmem).mpr (by rw [hchange]; decide)

/-! ### Counting -/

theorem countP_allTaskIds (p : String → Prop) [DecidablePred p] :
    (allTaskIds store baselineAId baselineBId).countP p =
      ((store.baselineTaskIds baselineAId ∪ store.baselineTaskIds baselineBId).filter p).card := by
  have hnodup := nodup_comparedTaskIds (baselineRowsByTask store baselineAId)
    (baselineRowsByTask store baselineBId)
  unfold allTaskIds
  rw [List.countP_eq_length_filter, ← List.toFinset_card_of_nodup (hnodup.filter _)]
  congr 1
  ext taskId
  simp only [List.mem_toFinset, List.mem_filter, mem_comparedTaskIds, mem_ids_baselineRowsByTask,
    Finset.mem_filter, Finset.mem_union, decide_eq_true_iff]

variable {projectId : String}

theorem buildBaselineComparisonRows_perm :
    (buildBaselineComparisonRows store projectId baselineAId baselineBId true).Perm
      ((allTaskIds store baselineAId baselineBId).map
        (compareTask store projectId baselineAId baselineBId)) :=
  (List.perm_insertionSort _ _).trans (.of_eq (List.filter_eq_self.mpr fun _ _ => rfl))

theorem count_change (change : BaselineChange) :
    (buildBaselineComparisonRows store projectId baselineAId baselineBId true).countP
        (fun row => row.changeType = change) =
      ((store.baselineTaskIds baselineAId ∪ store.baselineTaskIds baselineBId).filter fun taskId =>
        changeOf store baselineAId baselineBId taskId = change).card := by
  rw [buildBaselineComparisonRows_perm.countP_eq, List.countP_map, ← countP_allTaskIds]
  rfl

theorem count_removed :
    (buildBaselineComparisonRows store projectId baselineAId baselineBId true).countP
        (fun row => row.changeType = .removed) =
      (store.baselineTaskIds baselineAId \ store.baselineTaskIds baselineBId).card := by
  rw [count_change]
  congr 1
  ext taskId
  rw [Finset.mem_filter, changeOf_eq_removed, and_iff_right_iff_imp]
  intro hmem
  exact Finset.mem_union_left _ (Finset.sdiff_subset hmem)

theorem count_added :
    (buildBaselineComparisonRows store projectId baselineAId baselineBId true).countP
        (fun row => row.changeType = .added) =
      (store.baselineTaskIds baselineBId \ store.baselineTaskIds baselineAId).card := by
  rw [count_change]
  congr 1
  ext taskId
  rw [Finset.mem_filter, changeOf_eq_added, and_iff_right_iff_imp]
  intro hmem
  exact Finset.mem_union_right _ (Finset.sdiff_subset hmem)

theorem count_kept :
    (buildBaselineComparisonRows store projectId baselineAId baselineBId true).countP
        (fun row => row.changeType = .changed) +
      (buildBaselineComparisonRows store projectId baselineAId baselineBId true).countP
        (fun row => row.changeType = .unchanged) =
      (store.baselineTaskIds baselineAId ∩ store.baselineTaskIds baselineBId).card := by
  rw [count_change, count_change, ← Finset.card_union_of_disjoint]
  · congr 1
    ext taskId
    rw [← Finset.filter_or, Finset.mem_filter, mem_inter_iff]
  · apply Finset.disjoint_filter.mpr
    intro taskId _ hchanged hunchanged
    rw [hchanged] at hunchanged
    cases hunchanged

/-! ### Both ways -/

theorem buildBaselineComparisonRows_swap :
    (buildBaselineComparisonRows store projectId baselineBId baselineAId true).Perm
      ((buildBaselineComparisonRows store projectId baselineAId baselineBId true).map fun row =>
        row.mirrored (compareTask store projectId baselineBId baselineAId row.taskId).taskName) := by
  refine buildBaselineComparisonRows_perm.trans ?_
  refine .trans ?_ (buildBaselineComparisonRows_perm.map _).symm
  rw [List.map_map]
  refine ((comparedTaskIds_perm _ _).map _).trans (.of_eq ?_)
  apply List.map_congr_left
  intro taskId _
  exact comparisonRow_swap _ _ _ taskId

variable {service : ReportingService} {includeUnchanged : Bool}
  {compared : BaselineComparisonResult}

/-- What an accepted comparison returns. -/
theorem compareBaselines_eq_ok :
    compareBaselines store service projectId baselineAId baselineBId includeUnchanged =
        .ok compared ↔
      ∃ baselineA baselineB, service.requireView "compare baselines" projectId = .ok () ∧
        (baselineAId ≠ "" ∧ baselineBId ≠ "") ∧ baselineAId ≠ baselineBId ∧
        store.baselines.get? baselineAId = some baselineA ∧
        store.baselines.get? baselineBId = some baselineB ∧
        (baselineA.projectId = projectId ∧ baselineB.projectId = projectId) ∧
        compared = comparisonResult store projectId baselineA baselineB includeUnchanged := by
  constructor
  · intro h
    obtain ⟨_, hview, h⟩ := bind_ok h
    obtain ⟨_, hgiven, h⟩ := bind_ok h
    obtain ⟨_, hdifferent, h⟩ := bind_ok h
    obtain ⟨baselineA, hA, h⟩ := bind_ok h
    obtain ⟨baselineB, hB, h⟩ := bind_ok h
    obtain ⟨_, hproject, h⟩ := bind_ok h
    exact ⟨baselineA, baselineB, hview, ensure_eq_ok.mp hgiven, ensure_eq_ok.mp hdifferent,
      require_eq_ok.mp hA, require_eq_ok.mp hB, ensure_eq_ok.mp hproject, (Except.ok.inj h).symm⟩
  · rintro ⟨baselineA, baselineB, hview, hgiven, hdifferent, hA, hB, hproject, rfl⟩
    exact bind_eq_ok.mpr ⟨(), hview, bind_eq_ok.mpr ⟨(), ensure_eq_ok.mpr hgiven,
      bind_eq_ok.mpr ⟨(), ensure_eq_ok.mpr hdifferent, bind_eq_ok.mpr ⟨_, require_eq_ok.mpr hA,
        bind_eq_ok.mpr ⟨_, require_eq_ok.mpr hB,
          bind_eq_ok.mpr ⟨(), ensure_eq_ok.mpr hproject, rfl⟩⟩⟩⟩⟩⟩

theorem exchanged_eq_unchanged {change : BaselineChange} :
    change.exchanged = .unchanged ↔ change = .unchanged :=
  exchanged_eq_iff

theorem comparisonResult_mirrors (baselineA baselineB : ProjectBaseline) :
    Mirrors (comparisonResult store projectId baselineA baselineB includeUnchanged)
      (comparisonResult store projectId baselineB baselineA includeUnchanged) := by
  have hswap := @buildBaselineComparisonRows_swap store baselineA.id baselineB.id projectId
  have hcount (change : BaselineChange) :
      (buildBaselineComparisonRows store projectId baselineB.id baselineA.id true).countP
          (fun row => row.changeType = change) =
        (buildBaselineComparisonRows store projectId baselineA.id baselineB.id true).countP
          fun row => row.changeType = change.exchanged := by
    rw [hswap.countP_eq, List.countP_map]
    apply List.countP_congr
    intro row _
    simp only [Function.comp_apply, BaselineComparisonRow.mirrored, exchanged_eq_iff]
  constructor
  · refine ⟨fun taskId => (compareTask store projectId baselineB.id baselineA.id taskId).taskName,
      ?_⟩
    cases includeUnchanged with
    | true => exact hswap
    | false =>
        change List.Perm (List.filter _ _) (List.map _ (List.filter _ _))
        refine (hswap.filter _).trans (.of_eq ?_)
        rw [List.filter_map]
        congr 1
        apply List.filter_congr
        intro row _
        simp only [Function.comp_apply, BaselineComparisonRow.mirrored, ne_eq,
          exchanged_eq_unchanged]
  · exact hswap.length_eq.trans (List.length_map _)
  · exact hcount .added
  · exact hcount .removed
  · exact hcount .changed
  · exact hcount .unchanged

theorem mem_allTaskIds {taskId : String} : taskId ∈ allTaskIds store baselineAId baselineBId ↔
    taskId ∈ store.baselineTaskIds baselineAId ∪ store.baselineTaskIds baselineBId := by
  unfold allTaskIds
  rw [mem_comparedTaskIds, mem_ids_baselineRowsByTask, mem_ids_baselineRowsByTask, Finset.mem_union]

theorem mem_comparisonResult {baselineA baselineB : ProjectBaseline} {row : BaselineComparisonRow} :
    row ∈ (comparisonResult store projectId baselineA baselineB includeUnchanged).rows ↔
      (∃ taskId ∈ allTaskIds store baselineA.id baselineB.id,
        compareTask store projectId baselineA.id baselineB.id taskId = row) ∧
      (includeUnchanged = true ∨ row.changeType ≠ .unchanged) := by
  have hmem := (@buildBaselineComparisonRows_perm store baselineA.id baselineB.id
    projectId).mem_iff (a := row)
  rw [List.mem_map] at hmem
  rw [← hmem]
  unfold comparisonResult
  cases includeUnchanged with
  | true => simp
  | false => simp

theorem comparisonResult_partitions (baselineA baselineB : ProjectBaseline) :
    Partitions store baselineA.id baselineB.id includeUnchanged
      (comparisonResult store projectId baselineA baselineB includeUnchanged) where
  nodup := by
    have hids : List.Perm ((buildBaselineComparisonRows store projectId baselineA.id baselineB.id
        true).map BaselineComparisonRow.taskId) (allTaskIds store baselineA.id baselineB.id) := by
      refine (buildBaselineComparisonRows_perm.map _).trans (.of_eq ?_)
      rw [List.map_map]
      exact List.map_id _
    have hnodup := hids.nodup_iff.mpr (nodup_comparedTaskIds _ _)
    cases includeUnchanged with
    | true => exact hnodup
    | false => exact (List.filter_sublist.map BaselineComparisonRow.taskId).nodup hnodup
  within row hrow := by
    obtain ⟨⟨taskId, htask, rfl⟩, -⟩ := mem_comparisonResult.mp hrow
    exact mem_allTaskIds.mp htask
  complete taskId htask := by
    by_cases hkept : includeUnchanged = true ∨
        changeOf store baselineA.id baselineB.id taskId ≠ .unchanged
    · have hrow := mem_comparisonResult.mpr
        ⟨⟨taskId, mem_allTaskIds.mpr htask, @rfl _ (compareTask store projectId _ _ taskId)⟩, hkept⟩
      exact Or.inl (List.mem_map.mpr ⟨_, hrow, rfl⟩)
    · push Not at hkept
      exact Or.inr ⟨Bool.eq_false_iff.mpr hkept.1, hkept.2⟩
  total := by
    have hlength := @countP_allTaskIds store baselineA.id baselineB.id (fun _ => True) _
    rw [Finset.filter_true, decide_true, List.countP_true] at hlength
    refine (buildBaselineComparisonRows_perm.length_eq.trans ?_).trans hlength
    exact List.length_map _
  added := count_added
  removed := count_removed
  kept := count_kept

/-- Comparing two baselines the other way round is accepted as well, and mirrors every row; either
comparison divides up the tasks of both baselines. -/
theorem compareBaselines_symmetric
    (h : compareBaselines store service projectId baselineAId baselineBId includeUnchanged =
      .ok compared) :
    Partitions store baselineAId baselineBId includeUnchanged compared ∧
      ∃ swapped,
        compareBaselines store service projectId baselineBId baselineAId includeUnchanged =
          .ok swapped ∧ Mirrors compared swapped := by
  obtain ⟨baselineA, baselineB, hview, hgiven, hdifferent, hA, hB, hproject, rfl⟩ :=
    compareBaselines_eq_ok.mp h
  obtain ⟨-, rfl⟩ := Table.get?_eq_some _ hA
  obtain ⟨-, rfl⟩ := Table.get?_eq_some _ hB
  refine ⟨comparisonResult_partitions baselineA baselineB, _, ?_,
    comparisonResult_mirrors baselineA baselineB⟩
  exact compareBaselines_eq_ok.mpr
    ⟨baselineB, baselineA, hview, hgiven.symm, hdifferent.symm, hB, hA, hproject.symm, rfl⟩

end

/-- The piers move by a day, the road stays, and a railing takes the place of the lamps. -/
def bridgePlans : ProjectStore where
  baselines := .insert (.insert .empty
    { id := "first", projectId := "bridge", name := "First", createdAt := 1 })
    { id := "second", projectId := "bridge", name := "Second", createdAt := 2 }
  baselineTasks :=
    [⟨"1", "first", "piers", none, some 1, some 5, 5, 100⟩,
      ⟨"2", "first", "road", none, some 8, some 9, 2, 50⟩,
      ⟨"3", "first", "lamps", some "Lamps", some 10, some 10, 1, 20⟩,
      ⟨"4", "second", "piers", none, some 2, some 6, 5, 120⟩,
      ⟨"5", "second", "road", none, some 8, some 9, 2, 50⟩,
      ⟨"6", "second", "railing", some "Railing", none, none, 0, 10⟩].foldl Table.insert .empty

theorem compareBaselines_symmetric_bridge :
    ∃ compared swapped,
      compareBaselines bridgePlans reportViewer "bridge" "first" "second" false = .ok compared ∧
      compareBaselines bridgePlans reportViewer "bridge" "second" "first" false = .ok swapped ∧
      Partitions bridgePlans "first" "second" false compared ∧ Mirrors compared swapped ∧
      (compared.addedTasks, compared.removedTasks, compared.changedTasks,
        compared.unchangedTasks) = (1, 1, 1, 1) := by
  have hcounts : (compareBaselines bridgePlans reportViewer "bridge" "first" "second"
      false).toOption.map (fun compared => (compared.addedTasks, compared.removedTasks,
        compared.changedTasks, compared.unchangedTasks)) = some (1, 1, 1, 1) := by
    decide +kernel
  obtain ⟨compared, hcompared, hcounts⟩ := Option.map_eq_some_iff.mp hcounts
  have hcompared := toOption_eq_some.mp hcompared
  obtain ⟨hpartitions, swapped, hswapped, hmirrors⟩ := compareBaselines_symmetric hcompared
  exact ⟨compared, swapped, hcompared, hswapped, hpartitions, hmirrors, hcounts⟩

end ProjectManager
