import ProjectManager.Maintenance.Generation
import ProjectManager.Maintenance.Synchronisation

/-! # When work is due

Whether the turn of a plan generates work follows from the plan and its tasks as
they are before the turn: a calendar plan is due when the window of the date that its
schedule starts with is open.
-/

namespace ProjectManager.Maintenance

open Foundation

/-- Whether a plan is due after a synchronisation. -/
def planDue (store : MaintenanceStore) (plan : PreventivePlan) (asOf : Moment) : Bool :=
  match plan.instanceFrequency with
  | some given => leadWindowStartsAt plan (plan.startDue given asOf) ≤ asOf
  | none => (evaluateTriggerState store plan.trigger asOf).due

/-- The tasks that work is generated for. -/
def dueTasks (store : MaintenanceStore) (plan : PreventivePlan) (asOf : Moment) :
    List PreventivePlanTask :=
  (listPlanTasks store plan.organizationId plan.id).filter
    (isSelected store (planDue store plan asOf) asOf)

/-- Some task is due, or the plan is and has no tasks. -/
def GeneratesWork (store : MaintenanceStore) (plan : PreventivePlan) (asOf : Moment) : Prop :=
  dueTasks store plan asOf ≠ [] ∨
    listPlanTasks store plan.organizationId plan.id = [] ∧ planDue store plan asOf = true

instance (store : MaintenanceStore) (plan : PreventivePlan) (asOf : Moment) :
    Decidable (GeneratesWork store plan asOf) :=
  inferInstanceAs (Decidable (_ ∨ _))

variable {store next : MaintenanceStore} {plan : PreventivePlan} {asOf : Moment}
  {newId : Moment → String} {given : CalendarFrequencyUnit × ℕ}

theorem planDue_of_instances (h : plan.instanceFrequency = some given) :
    planDue store plan asOf =
      decide (leadWindowStartsAt plan (plan.startDue given asOf) ≤ asOf) := by
  unfold planDue
  rw [h]

theorem planDue_of_no_instances (h : plan.instanceFrequency = none) :
    planDue store plan asOf = (evaluateTriggerState store plan.trigger asOf).due := by
  unfold planDue
  rw [h]

theorem PreventivePlan.usesCalendarInstances_of (h : plan.instanceFrequency = some given) :
    plan.usesCalendarInstances := by
  unfold PreventivePlan.usesCalendarInstances
  rw [h]
  rfl

theorem PreventivePlan.not_usesCalendarInstances (h : plan.instanceFrequency = none) :
    ¬ plan.usesCalendarInstances := by
  unfold PreventivePlan.usesCalendarInstances
  rw [h]
  decide

/-! ## Candidates -/

/-- The tasks that a candidate selects when it is due. -/
def candidateTasks (store : MaintenanceStore) (plan : PreventivePlan) (asOf : Moment) :
    List PreventivePlanTask :=
  (listPlanTasks store plan.organizationId plan.id).filter
    (isSelected store (evaluatePlan store plan asOf).due asOf)

theorem candidateState_due {evaluation : TriggerEvaluation} {hasTasks hasSelected : Bool}
    (h : hasSelected = true → hasTasks = true) :
    (candidateState evaluation hasTasks hasSelected).1 = .due ↔
      hasSelected = true ∨ hasTasks = false ∧ evaluation.due = true := by
  unfold candidateState
  cases evaluation.due <;> cases evaluation.blocked <;> cases hasTasks <;> cases hasSelected <;>
    simp_all

theorem buildCandidate_due : (buildCandidate store plan asOf).dueState = .due ↔
    candidateTasks store plan asOf ≠ [] ∨
      listPlanTasks store plan.organizationId plan.id = [] ∧
        (evaluatePlan store plan asOf).due = true := by
  refine (candidateState_due ?_).trans ?_
  · intro h
    rw [Bool.not_eq_true', List.isEmpty_eq_false_iff] at h ⊢
    exact fun hnone => h (by rw [hnone]; rfl)
  · rw [Bool.not_eq_true', Bool.not_eq_false', List.isEmpty_eq_false_iff, List.isEmpty_iff]
    rfl

theorem selectedPlanTasks_eq (h : (buildCandidate store plan asOf).dueState = .due) :
    selectedPlanTasks store plan.organizationId plan.id (buildCandidate store plan asOf) =
      candidateTasks store plan asOf := by
  have hids : (buildCandidate store plan asOf).selectedPlanTaskIds =
      (candidateTasks store plan asOf).map PreventivePlanTask.id := if_pos h
  unfold selectedPlanTasks candidateTasks
  apply List.filter_congr
  intro row hrow
  rw [hids, Bool.eq_iff_iff, decide_eq_true_eq, List.mem_map]
  constructor
  · rintro ⟨other, hother, hid⟩
    rw [candidateTasks, List.mem_filter] at hother
    have hmem : ∀ task ∈ listPlanTasks store plan.organizationId plan.id,
        task ∈ store.planTasks.rows := by
      intro task htask
      rw [listPlanTasks, List.mem_insertionSort, List.mem_filter, List.mem_reverse] at htask
      exact htask.1
    rw [← store.planTasks.eq_of_key_eq (hmem other hother.1) (hmem row hrow) hid]
    exact hother.2
  · intro hselected
    exact ⟨row, List.mem_filter.mpr ⟨hrow, hselected⟩, rfl⟩

/-! ## After a synchronisation -/

theorem evaluatePlan_of_no_instances (h : plan.instanceFrequency = none) :
    evaluatePlan store plan asOf = evaluateTriggerState store plan.trigger asOf :=
  if_neg (PreventivePlan.not_usesCalendarInstances h)

theorem evaluateCalendarInstanceWindow_due {row : PreventivePlanInstance}
    {rest : List PreventivePlanInstance} (h : listPlanned store plan = row :: rest) :
    (evaluateCalendarInstanceWindow store plan asOf).due =
      decide (leadWindowStartsAt plan row.dueAt ≤ asOf) := by
  have hle := leadWindowStartsAt_le plan row.dueAt
  unfold evaluateCalendarInstanceWindow
  rw [h, List.head?_cons]
  dsimp only
  by_cases hdue : row.dueAt ≤ asOf
  · rw [if_pos hdue, decide_eq_true (hle.trans hdue)]
  · rw [if_neg hdue]
    by_cases hopen : leadWindowStartsAt plan row.dueAt ≤ asOf
    · rw [if_pos hopen, decide_eq_true hopen]
      split <;> rfl
    · rw [if_neg hopen, decide_eq_false hopen]

/-- Windows open in the order of the due dates of a schedule. -/
theorem selectDueInstance_eq {row : PreventivePlanInstance} {rest : List PreventivePlanInstance}
    (huses : plan.usesCalendarInstances) (h : listPlanned store plan = row :: rest)
    (htime : ∀ other ∈ rest, row.dueAt.time = other.dueAt.time) :
    selectDueInstance store plan asOf =
      if leadWindowStartsAt plan row.dueAt ≤ asOf then some row else none := by
  unfold selectDueInstance
  rw [if_pos huses, h, List.find?_cons]
  by_cases hopen : leadWindowStartsAt plan row.dueAt ≤ asOf
  · rw [if_pos hopen, decide_eq_true hopen]
  · rw [if_neg hopen, decide_eq_false hopen]
    apply List.find?_eq_none.mpr
    intro other hother hopened
    have hordered := plannedDates_pairwise store plan
    rw [plannedDates, h, List.map_cons, List.pairwise_cons] at hordered
    have hlt : row.dueAt < other.dueAt := hordered.1 _ (List.mem_map_of_mem hother)
    exact hopen ((leadWindowStartsAt_mono plan (htime other hother) hlt.le).trans
      (of_decide_eq_true hopened))

namespace Synced

variable (h : Synced plan asOf newId store next)

include h

/-- The schedule starts with its first planned instance. -/
theorem exists_head (hfrequency : plan.frequency = some given) :
    ∃ row rest, listPlanned next plan = row :: rest ∧ row.dueAt = plan.startDue given asOf := by
  have hhead := congrArg List.head? (h.plannedDates_eq hfrequency)
  rw [head_buildPlannedDueDates hfrequency, plannedDates, List.head?_map] at hhead
  obtain ⟨row, hrow, hdue⟩ := Option.map_eq_some_iff.mp hhead
  obtain ⟨rest, hrest⟩ := List.head?_eq_some_iff.mp hrow
  exact ⟨row, rest, hrest, hdue⟩

theorem evaluatePlan_due (hinstances : plan.instanceFrequency = some given) :
    (evaluatePlan next (syncedPlan plan asOf) asOf).due = planDue store plan asOf := by
  obtain ⟨row, rest, hrow, hdue⟩ :=
    h.exists_head (PreventivePlan.instanceFrequency_eq_some hinstances).2
  have huses : (syncedPlan plan asOf).usesCalendarInstances :=
    PreventivePlan.usesCalendarInstances_of hinstances
  have hplanned : listPlanned next (syncedPlan plan asOf) = row :: rest := hrow
  rw [evaluatePlan, if_pos huses, evaluateCalendarInstanceWindow_due hplanned,
    planDue_of_instances hinstances, hdue]
  rfl

/-- The instance that is due is the first one of the schedule, when its window is open. -/
theorem selectDueInstance (hinstances : plan.instanceFrequency = some given)
    {row : PreventivePlanInstance} {rest : List PreventivePlanInstance}
    (hrow : listPlanned next plan = row :: rest) :
    Maintenance.selectDueInstance next (syncedPlan plan asOf) asOf =
      if planDue store plan asOf = true then some row else none := by
  have hfrequency := (PreventivePlan.instanceFrequency_eq_some hinstances).2
  have huses : (syncedPlan plan asOf).usesCalendarInstances :=
    PreventivePlan.usesCalendarInstances_of hinstances
  have hplanned : listPlanned next (syncedPlan plan asOf) = row :: rest := hrow
  have htime : ∀ other ∈ listPlanned next plan,
      other.dueAt.time = (plan.startDue given asOf).time := by
    intro other hother
    apply time_of_mem_buildPlannedDueDates hfrequency
    rw [← h.plannedDates_eq hfrequency]
    exact List.mem_map_of_mem hother
  obtain ⟨head, tail, hhead, hdue⟩ := h.exists_head hfrequency
  obtain ⟨rfl, rfl⟩ := List.cons.inj (hrow.symm.trans hhead)
  rw [selectDueInstance_eq huses hplanned, planDue_of_instances hinstances, ← hdue]
  · simp only [decide_eq_true_eq]
    rfl
  · intro other hother
    rw [htime row (hrow ▸ List.mem_cons_self), htime other (hrow ▸ List.mem_cons_of_mem _ hother)]

end Synced

end ProjectManager.Maintenance
