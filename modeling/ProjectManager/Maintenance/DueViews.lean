import ProjectManager.Maintenance.Turns

/-! # Views of what is due

The forecast of the first planned instance, the evaluation of its plan and the
selection of an instance each look at the generation window on their own.
-/

namespace ProjectManager.Maintenance

open Foundation

inductive PlannerState
  | completed
  | generated
  | cancelled
  | due
  | readyWindow
  | upcoming
  deriving DecidableEq, Repr

def PlannerState.value : PlannerState → String
  | .completed => "COMPLETED"
  | .generated => "GENERATED"
  | .cancelled => "CANCELLED"
  | .due => "DUE"
  | .readyWindow => "READY_WINDOW"
  | .upcoming => "UPCOMING"

def forecastPlannerState (plan : PreventivePlan) (row : PreventivePlanInstance) (asOf : Moment) :
    PlannerState :=
  match row.status with
  | .completed => .completed
  | .generated => .generated
  | .cancelled => .cancelled
  | .planned =>
      if row.dueAt ≤ asOf then .due
      else if leadWindowStartsAt plan row.dueAt ≤ asOf then .readyWindow
      else .upcoming

/-- The first planned instance is forecast as due or as ready. -/
def ForecastDue (store : MaintenanceStore) (plan : PreventivePlan) (asOf : Moment) : Prop :=
  ∃ row ∈ (listPlanned store plan).head?,
    forecastPlannerState plan row asOf = .due ∨ forecastPlannerState plan row asOf = .readyWindow

instance (store : MaintenanceStore) (plan : PreventivePlan) (asOf : Moment) :
    Decidable (ForecastDue store plan asOf) :=
  inferInstanceAs (Decidable (∃ _ ∈ _, _ ∨ _))

/-- The forecast, the evaluation and the selection say the same. -/
structure DueViewsAgree (store : MaintenanceStore) (plan : PreventivePlan) (asOf : Moment) :
    Prop where
  evaluation : ForecastDue store plan asOf ↔ (evaluatePlan store plan asOf).due = true
  selection : ForecastDue store plan asOf ↔ (selectDueInstance store plan asOf).isSome = true
  first : ∀ row ∈ selectDueInstance store plan asOf, (listPlanned store plan).head? = some row

def OneTimeOfDay (store : MaintenanceStore) (plan : PreventivePlan) : Prop :=
  ∀ row ∈ listPlanned store plan, ∀ other ∈ listPlanned store plan,
    row.dueAt.time = other.dueAt.time

instance (store : MaintenanceStore) (plan : PreventivePlan) : Decidable (OneTimeOfDay store plan) :=
  inferInstanceAs (Decidable (∀ _ ∈ _, ∀ _ ∈ _, _))

/-- The window of no planned instance opens before that of the first one. -/
def FirstOpensFirst (store : MaintenanceStore) (plan : PreventivePlan) : Prop :=
  ∀ row ∈ (listPlanned store plan).head?, ∀ other ∈ listPlanned store plan,
    leadWindowStartsAt plan row.dueAt ≤ leadWindowStartsAt plan other.dueAt

section

variable {store next : MaintenanceStore} {plan synced : PreventivePlan} {asOf : Moment}
  {newId : Moment → String} {given : CalendarFrequencyUnit × ℕ} {row : PreventivePlanInstance}
  {rest : List PreventivePlanInstance}

theorem forecast_open_iff (hplanned : row.status = .planned) :
    (forecastPlannerState plan row asOf = .due ∨ forecastPlannerState plan row asOf = .readyWindow) ↔
      leadWindowStartsAt plan row.dueAt ≤ asOf := by
  have hle := leadWindowStartsAt_le plan row.dueAt
  unfold forecastPlannerState
  rw [hplanned]
  dsimp only
  split
  next hdue => exact iff_of_true (Or.inl rfl) (hle.trans hdue)
  next =>
    split
    next hopen => exact iff_of_true (Or.inr rfl) hopen
    next hclosed => exact iff_of_false (by simp) hclosed

theorem forecastDue_cons (h : listPlanned store plan = row :: rest) :
    ForecastDue store plan asOf ↔ leadWindowStartsAt plan row.dueAt ≤ asOf := by
  have hplanned : row.status = .planned := by
    have hrow : row ∈ listPlanned store plan := h ▸ List.mem_cons_self
    exact (mem_listPlanned.mp hrow).2.2.2
  unfold ForecastDue
  rw [h, List.head?_cons, ← forecast_open_iff hplanned]
  simp

theorem not_forecastDue_nil (h : listPlanned store plan = []) : ¬ ForecastDue store plan asOf := by
  unfold ForecastDue
  rw [h]
  simp

theorem forecastDue_iff_evaluatePlan (huses : plan.usesCalendarInstances) :
    ForecastDue store plan asOf ↔ (evaluatePlan store plan asOf).due = true := by
  rw [evaluatePlan, if_pos huses]
  cases h : listPlanned store plan with
  | nil =>
      refine iff_of_false (not_forecastDue_nil h) ?_
      unfold evaluateCalendarInstanceWindow
      rw [h]
      simp
  | cons row rest =>
      rw [forecastDue_cons h, evaluateCalendarInstanceWindow_due h, decide_eq_true_iff]

theorem selectDueInstance_of_forecastDue (huses : plan.usesCalendarInstances)
    (h : ForecastDue store plan asOf) :
    selectDueInstance store plan asOf = (listPlanned store plan).head? := by
  cases hrows : listPlanned store plan with
  | nil => exact absurd h (not_forecastDue_nil hrows)
  | cons row rest =>
      unfold selectDueInstance
      rw [if_pos huses, hrows, List.head?_cons, List.find?_cons_of_pos]
      exact decide_eq_true ((forecastDue_cons hrows).mp h)

theorem dueViewsAgree_iff (huses : plan.usesCalendarInstances) :
    (∀ asOf, DueViewsAgree store plan asOf) ↔ FirstOpensFirst store plan := by
  constructor
  · intro h row hrow other hother
    -- the time at which the window of the other one opens
    let asOf := leadWindowStartsAt plan other.dueAt
    have hselected : (selectDueInstance store plan asOf).isSome = true := by
      unfold selectDueInstance
      rw [if_pos huses, List.find?_isSome]
      exact ⟨other, hother, decide_eq_true le_rfl⟩
    obtain ⟨rest, hrows⟩ := List.head?_eq_some_iff.mp hrow
    exact (forecastDue_cons hrows).mp ((h asOf).selection.mpr hselected)
  · intro hfirst asOf
    have hforecast : (selectDueInstance store plan asOf).isSome = true →
        ForecastDue store plan asOf := by
      intro hselected
      unfold selectDueInstance at hselected
      rw [if_pos huses, List.find?_isSome] at hselected
      obtain ⟨other, hother, hopen⟩ := hselected
      cases hrows : listPlanned store plan with
      | nil =>
          rw [hrows] at hother
          cases hother
      | cons row rest =>
          apply (forecastDue_cons hrows).mpr
          have hrow : row ∈ (listPlanned store plan).head? := by rw [hrows]; rfl
          exact (hfirst row hrow other hother).trans (of_decide_eq_true hopen)
    constructor
    · exact forecastDue_iff_evaluatePlan huses
    · refine ⟨fun hdue => ?_, hforecast⟩
      rw [selectDueInstance_of_forecastDue huses hdue]
      obtain ⟨row, hrow, -⟩ := hdue
      exact Option.isSome_iff_exists.mpr ⟨row, hrow⟩
    · intro row hrow
      have hdue := hforecast (Option.isSome_iff_exists.mpr ⟨row, hrow⟩)
      rw [← selectDueInstance_of_forecastDue huses hdue]
      exact hrow

/-- Windows open in the order of the due dates, when the lead is not in months or the dates have
one time of day. -/
theorem firstOpensFirst_of (h : plan.generationLeadUnit ≠ .months ∨ OneTimeOfDay store plan) :
    FirstOpensFirst store plan := by
  intro row hrow other hother
  obtain ⟨rest, hrows⟩ := List.head?_eq_some_iff.mp hrow
  have hle : row.dueAt ≤ other.dueAt := by
    have hordered := plannedDates_pairwise store plan
    rw [plannedDates, hrows, List.map_cons, List.pairwise_cons] at hordered
    rw [hrows] at hother
    rcases List.mem_cons.mp hother with rfl | hother
    · exact le_rfl
    · exact (hordered.1 _ (List.mem_map_of_mem hother)).le
  rcases h with hunit | htime
  · unfold leadWindowStartsAt
    cases hlead : plan.generationLeadUnit with
    | days | weeks => exact Moment.addDays_mono hle _
    | months => exact absurd hlead hunit
  · exact leadWindowStartsAt_mono plan (htime row (List.mem_of_head? hrow) other hother) hle

/-- A synchronisation leaves planned instances at one time of day. -/
theorem Synced.oneTimeOfDay (h : Synced plan asOf newId store next)
    (hfrequency : plan.frequency = some given) : OneTimeOfDay next (syncedPlan plan asOf) := by
  have htime : ∀ row ∈ listPlanned next plan,
      row.dueAt.time = (plan.startDue given asOf).time := by
    intro row hrow
    apply time_of_mem_buildPlannedDueDates hfrequency
    rw [← h.plannedDates_eq hfrequency]
    exact List.mem_map_of_mem hrow
  intro row hrow other hother
  exact (htime row hrow).trans (htime other hother).symm

end

/-- For every list of planned instances the forecast agrees with the evaluation, and what is
forecast as due is selected; nothing else is selected exactly when the first window opens first,
as it does after a synchronisation. -/
theorem dueViews_agree (store : MaintenanceStore) (plan : PreventivePlan)
    (huses : plan.usesCalendarInstances) :
    (∀ asOf, (ForecastDue store plan asOf ↔ (evaluatePlan store plan asOf).due = true) ∧
        (ForecastDue store plan asOf →
          selectDueInstance store plan asOf = (listPlanned store plan).head?)) ∧
      ((∀ asOf, DueViewsAgree store plan asOf) ↔ FirstOpensFirst store plan) ∧
      (plan.generationLeadUnit ≠ .months ∨ OneTimeOfDay store plan → FirstOpensFirst store plan) ∧
      ∀ asOf newId synced next,
        syncCalendarPlanInstances plan asOf newId (.clean store) = (.ok synced, .clean next) →
          ∀ later, DueViewsAgree next synced later := by
  refine ⟨fun asOf => ⟨forecastDue_iff_evaluatePlan huses, selectDueInstance_of_forecastDue huses⟩,
    dueViewsAgree_iff huses, firstOpensFirst_of, ?_⟩
  intro asOf newId synced next hrun
  cases syncCalendarPlanInstances_settles.returned hrun with
  | unscheduled hnone => exact absurd huses (PreventivePlan.not_usesCalendarInstances hnone)
  | scheduled hgiven hsync =>
      have hfrequency := (PreventivePlan.instanceFrequency_eq_some hgiven).2
      have hsyncedUses : (syncedPlan plan asOf).usesCalendarInstances :=
        PreventivePlan.usesCalendarInstances_of hgiven
      apply (dueViewsAgree_iff hsyncedUses).mpr
      exact firstOpensFirst_of (Or.inr ((synced_of_ok hsync).oneTimeOfDay hfrequency))

/-- A filter that is changed every month, up to a month ahead. -/
def filterPlan : PreventivePlan where
  id := "filter"
  organizationId := "org"
  siteId := "yard"
  planCode := "FILTER"
  name := "Change the filter"
  calendarFrequencyUnit := some .monthly
  calendarFrequencyValue := some 1
  generationLeadValue := 1
  generationLeadUnit := .months

def filterInstance (id : String) (day hour : ℤ) : PreventivePlanInstance where
  id := id
  organizationId := "org"
  planId := "filter"
  dueAt := Moment.atTime (YMD.toordinal ⟨2023, 3, day⟩) (hour * 3600000000)

/-- Two planned instances, late on a day and early on the next one. -/
def filterYard : MaintenanceStore where
  plans := ⟨[filterPlan], List.nodup_singleton _⟩
  instances :=
    { rows := [filterInstance "late" 30 23, filterInstance "early" 31 1]
      nodup := by decide +kernel
      column_nodup := by decide +kernel }

/-- In April both windows are open, and the first instance is selected. -/
theorem dueViews_agree_filterYard :
    let asOf := Moment.atTime (YMD.toordinal ⟨2023, 4, 1⟩) 0
    (evaluatePlan filterYard filterPlan asOf).due = true ∧
      selectDueInstance filterYard filterPlan asOf = some (filterInstance "late" 30 23) := by
  intro asOf
  have hdue : ForecastDue filterYard filterPlan asOf := by decide +kernel
  obtain ⟨hevaluated, hselected⟩ := (dueViews_agree filterYard filterPlan (by decide)).1 asOf
  exact ⟨hevaluated.mp hdue, hselected hdue⟩

/-- Both windows open on the last day of February, that of the second instance first. -/
theorem not_dueViewsAgree_filterYard :
    let asOf := Moment.atTime (YMD.toordinal ⟨2023, 2, 28⟩) (2 * 3600000000)
    ¬ ForecastDue filterYard filterPlan asOf ∧
      (evaluatePlan filterYard filterPlan asOf).due = false ∧
      selectDueInstance filterYard filterPlan asOf = some (filterInstance "early" 31 1) := by
  decide +kernel

end ProjectManager.Maintenance
