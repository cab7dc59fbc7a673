import ProjectManager.Maintenance.Synchronisation

/-! # Due dates on their anchor day

Each planned due date is computed from the one before it. It is the date that counts
from the first one as long as no month on the way is too short for the day of the
next date.
-/

namespace ProjectManager.Maintenance

open Foundation

/-- The months in a period of a frequency that counts months. -/
def CalendarFrequencyUnit.months : CalendarFrequencyUnit → Option ℕ
  | .daily | .weekly | .customDays => none
  | .monthly => some 1
  | .quarterly => some 3
  | .yearly => some 12

/-- The month that lies `middle` periods after the anchor has room for the day of the date that
lies `last` periods after it. -/
def HasRoom (anchor : Moment) (unit : CalendarFrequencyUnit) (middle last : ℕ) : Prop :=
  ∀ months ∈ unit.months,
    min anchor.date.ymd.day (anchor.date.monthLength (last * months)) ≤
      anchor.date.monthLength (middle * months)

instance (anchor : Moment) (unit : CalendarFrequencyUnit) (middle last : ℕ) :
    Decidable (HasRoom anchor unit middle last) :=
  inferInstanceAs (Decidable (∀ _ ∈ _, _ ≤ _))

/-- Every planned due date is counted from the first one. -/
def Anchored (plan : PreventivePlan) (asOf : Moment) : Prop :=
  ∀ given ∈ plan.frequency, ∀ k < max plan.generationHorizonCount 1,
    (buildPlannedDueDates plan asOf)[k]? =
      some (advanceCalendarDue (plan.startDue given asOf) given.1 (k * given.2))

instance (plan : PreventivePlan) (asOf : Moment) : Decidable (Anchored plan asOf) :=
  inferInstanceAs (Decidable (∀ _ ∈ _, ∀ _ < _, _))

/-- The month of every planned due date but the last has room for the day of the next one. -/
def MonthsHaveRoom (plan : PreventivePlan) (asOf : Moment) : Prop :=
  ∀ given ∈ plan.frequency, ∀ k < max plan.generationHorizonCount 1 - 1,
    HasRoom (plan.startDue given asOf) given.1 (k * given.2) ((k + 1) * given.2)

instance (plan : PreventivePlan) (asOf : Moment) : Decidable (MonthsHaveRoom plan asOf) :=
  inferInstanceAs (Decidable (∀ _ ∈ _, ∀ _ < _, _))

@[simp] theorem advanceCalendarDue_zero (anchor : Moment) (unit : CalendarFrequencyUnit) :
    advanceCalendarDue anchor unit 0 = anchor := by
  cases unit <;> simp [advanceCalendarDue]

/-- Periods are added up when the month in between has room. -/
theorem advanceCalendarDue_add_iff {anchor : Moment} {unit : CalendarFrequencyUnit}
    {middle count : ℕ} :
    advanceCalendarDue (advanceCalendarDue anchor unit middle) unit count =
        advanceCalendarDue anchor unit (middle + count) ↔
      HasRoom anchor unit middle (middle + count) := by
  cases unit with
  | daily | customDays =>
      simp [advanceCalendarDue, HasRoom, CalendarFrequencyUnit.months, Moment.addDays_addDays]
  | weekly =>
      simp [advanceCalendarDue, HasRoom, CalendarFrequencyUnit.months, Moment.addDays_addDays,
        mul_add]
  | monthly | quarterly | yearly =>
      simp only [advanceCalendarDue, HasRoom, CalendarFrequencyUnit.months, Option.mem_def,
        Option.some.injEq, forall_eq', Nat.cast_one, mul_one, Nat.cast_add, add_mul, Nat.cast_ofNat]
      exact Moment.addMonths_addMonths_eq_iff

/-- The planned due dates are counted from the first one exactly when the months on the way have
room. Likewise the periods of any two steps. -/
theorem plannedDueDates_anchored_iff (plan : PreventivePlan) (asOf : Moment) :
    (Anchored plan asOf ↔ MonthsHaveRoom plan asOf) ∧
      ∀ anchor unit middle count,
        advanceCalendarDue (advanceCalendarDue anchor unit middle) unit count =
            advanceCalendarDue anchor unit (middle + count) ↔
          HasRoom anchor unit middle (middle + count) := by
  refine ⟨?_, fun anchor unit middle count => advanceCalendarDue_add_iff⟩
  refine forall₂_congr fun given hgiven => ?_
  -- the dates that are counted from the first one, against the steps of the code
  let counted := fun k => advanceCalendarDue (plan.startDue given asOf) given.1 (k * given.2)
  have hfirst : counted 0 = plan.startDue given asOf := by
    simp only [counted, Nat.zero_mul, advanceCalendarDue_zero]
  have hsteps : (∀ k < max plan.generationHorizonCount 1,
      (dueAfter given)^[k] (counted 0) = counted k) ↔
        ∀ k, k + 1 < max plan.generationHorizonCount 1 →
          dueAfter given (counted k) = counted (k + 1) :=
    iterate_eq_iff
  rw [hfirst] at hsteps
  calc (∀ k < max plan.generationHorizonCount 1,
        (buildPlannedDueDates plan asOf)[k]? = some (counted k))
    _ ↔ ∀ k < max plan.generationHorizonCount 1,
        (dueAfter given)^[k] (plan.startDue given asOf) = counted k := by
      refine forall₂_congr fun k hk => ?_
      rw [buildPlannedDueDates_eq hgiven, List.getElem?_iterate _ _ _ _ hk, Option.some_inj]
    _ ↔ ∀ k, k + 1 < max plan.generationHorizonCount 1 →
        dueAfter given (counted k) = counted (k + 1) := hsteps
    _ ↔ ∀ k < max plan.generationHorizonCount 1 - 1,
        HasRoom (plan.startDue given asOf) given.1 (k * given.2) ((k + 1) * given.2) := by
      refine forall_congr' fun k => ?_
      rw [Nat.lt_sub_iff_add_lt, Nat.succ_mul]
      refine imp_congr_right fun _ => ?_
      rw [← advanceCalendarDue_add_iff, ← Nat.succ_mul]
      rfl

/-- A monthly plan on the last day of January. -/
def monthEndPlan : PreventivePlan where
  id := "filter"
  organizationId := "org"
  siteId := "yard"
  planCode := "FILTER"
  name := "Change the filter"
  calendarFrequencyUnit := some .monthly
  calendarFrequencyValue := some 1
  generationHorizonCount := 3
  nextDueAt := some (Moment.atTime (YMD.toordinal ⟨2023, 1, 31⟩) 0)

/-- Its third date is in March, but on the last day of February. -/
theorem not_anchored_monthEndPlan :
    (buildPlannedDueDates monthEndPlan 0).map (fun due => due.date.ymd) =
        [⟨2023, 1, 31⟩, ⟨2023, 2, 28⟩, ⟨2023, 3, 28⟩] ∧
      ¬ Anchored monthEndPlan 0 := by
  decide +kernel

end ProjectManager.Maintenance
