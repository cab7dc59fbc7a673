import ProjectManager.Foundation.Cadence
import ProjectManager.Maintenance.Schedule

/-! # What a synchronisation does

After a synchronisation the planned instances of a plan are due exactly on its next
due dates, and every other instance is as it was. It is refused when a date that
nothing is planned for is taken.
-/

namespace ProjectManager.Maintenance

open Foundation

/-- The due date that follows another one. -/
def dueAfter (given : CalendarFrequencyUnit × ℕ) (due : Moment) : Moment :=
  advanceCalendarDue due given.1 given.2

def plannedDates (store : MaintenanceStore) (plan : PreventivePlan) : List Moment :=
  (listPlanned store plan).map PreventivePlanInstance.dueAt

def PreventivePlanInstance.IsOf (row : PreventivePlanInstance) (plan : PreventivePlan) : Prop :=
  row.organizationId = plan.organizationId ∧ row.planId = plan.id

instance (row : PreventivePlanInstance) (plan : PreventivePlan) : Decidable (row.IsOf plan) :=
  inferInstanceAs (Decidable (_ ∧ _))

variable {store next : MaintenanceStore} {plan : PreventivePlan} {asOf : Moment}
  {newId : Moment → String} {given : CalendarFrequencyUnit × ℕ} {row : PreventivePlanInstance}

/-! ## Planned instances -/

theorem mem_listInstances : row ∈ listInstances store plan ↔
    row ∈ store.instances.rows ∧ row.IsOf plan := by
  unfold listInstances
  rw [List.mem_insertionSort, List.mem_filter, decide_eq_true_eq]
  rfl

theorem mem_listPlanned : row ∈ listPlanned store plan ↔
    row ∈ store.instances.rows ∧ row.IsPlannedOf plan := by
  unfold listPlanned
  rw [List.mem_filter, mem_listInstances, decide_eq_true_eq]
  constructor
  · rintro ⟨⟨hrow, horganization, hplan⟩, hplanned⟩
    exact ⟨hrow, horganization, hplan, hplanned⟩
  · rintro ⟨hrow, horganization, hplan, hplanned⟩
    exact ⟨⟨hrow, horganization, hplan⟩, hplanned⟩

theorem instance_eq_of_dueAt_eq {first second : PreventivePlanInstance}
    (hfirst : first ∈ store.instances.rows) (hsecond : second ∈ store.instances.rows)
    (hfirstOf : first.IsOf plan) (hsecondOf : second.IsOf plan)
    (h : first.dueAt = second.dueAt) : first = second := by
  apply store.instances.eq_of_column_eq hfirst hsecond
  unfold PreventivePlanInstance.slot
  rw [hfirstOf.1, hfirstOf.2, hsecondOf.1, hsecondOf.2, h]

theorem listInstances_pairwise (store : MaintenanceStore) (plan : PreventivePlan) :
    (listInstances store plan).Pairwise fun first second => first.dueAt < second.dueAt := by
  apply insertionSort_pairwise_lt
  apply List.Nodup.map_on _ (store.instances.nodup.of_map.filter _)
  intro first hfirst second hsecond h
  rw [List.mem_filter, decide_eq_true_eq] at hfirst hsecond
  exact instance_eq_of_dueAt_eq hfirst.1 hsecond.1 hfirst.2 hsecond.2 h

theorem plannedDates_pairwise (store : MaintenanceStore) (plan : PreventivePlan) :
    (plannedDates store plan).Pairwise (· < ·) := by
  rw [plannedDates, List.pairwise_map]
  exact (listInstances_pairwise store plan).sublist List.filter_sublist

theorem mem_plannedDates {due : Moment} : due ∈ plannedDates store plan ↔
    ∃ row ∈ store.instances.rows, row.IsPlannedOf plan ∧ row.dueAt = due := by
  unfold plannedDates
  simp only [List.mem_map, mem_listPlanned, and_assoc]

/-! ## Next due dates -/

theorem dueDatesFrom_eq_iterate (given : CalendarFrequencyUnit × ℕ) (count : ℕ) (due : Moment) :
    dueDatesFrom given count due = List.iterate (dueAfter given) due count := by
  induction count generalizing due with
  | zero => rfl
  | succ count ih => exact congrArg (due :: ·) (ih _)

theorem lt_dueAfter (h : plan.frequency = some given) (due : Moment) : due < dueAfter given due :=
  lt_advanceCalendarDue given.1 due (frequency_eq_some h).2.2

theorem PreventivePlan.instanceFrequency_eq_some (h : plan.instanceFrequency = some given) :
    plan.triggerMode = .calendar ∧ plan.frequency = some given := by
  unfold PreventivePlan.instanceFrequency at h
  split at h
  next hmode => exact ⟨hmode, h⟩
  next => cases h

theorem buildPlannedDueDates_eq (h : plan.frequency = some given) :
    buildPlannedDueDates plan asOf =
      List.iterate (dueAfter given) (plan.startDue given asOf)
        (max plan.generationHorizonCount 1) := by
  unfold buildPlannedDueDates
  rw [h]
  exact dueDatesFrom_eq_iterate _ _ _

theorem buildPlannedDueDates_pairwise (h : plan.frequency = some given) :
    (buildPlannedDueDates plan asOf).Pairwise (· < ·) := by
  rw [buildPlannedDueDates_eq h]
  exact iterate_pairwise_lt (lt_dueAfter h) _ _

/-- The first of the next due dates is the one that the synchronisation starts from. -/
theorem head_buildPlannedDueDates (h : plan.frequency = some given) :
    (buildPlannedDueDates plan asOf).head? = some (plan.startDue given asOf) := by
  have hcount : 0 < max plan.generationHorizonCount 1 := by omega
  obtain ⟨count, hcount⟩ := Nat.exists_eq_add_of_lt hcount
  rw [buildPlannedDueDates_eq h, hcount]
  rfl

theorem time_iterate_dueAfter (count : ℕ) (due : Moment) :
    ((dueAfter given)^[count] due).time = due.time := by
  induction count generalizing due with
  | zero => rfl
  | succ count ih => exact (ih _).trans (time_advanceCalendarDue given.1 due given.2)

theorem time_of_mem_buildPlannedDueDates (h : plan.frequency = some given) {due : Moment}
    (hdue : due ∈ buildPlannedDueDates plan asOf) :
    due.time = (plan.startDue given asOf).time := by
  rw [buildPlannedDueDates_eq h] at hdue
  obtain ⟨index, -, rfl⟩ := List.mem_iterate.mp hdue
  exact time_iterate_dueAfter index _

/-! ## Synchronisations -/

/-- The dates that an instance has to be planned for. -/
def missingDates (store : MaintenanceStore) (plan : PreventivePlan) (asOf : Moment) :
    List Moment :=
  (buildPlannedDueDates plan asOf).filter fun due => due ∉ plannedDates store plan

/-- What a synchronisation can insert: the generated ids are new, and no instance of the plan is due
on a date that is missing. -/
structure SyncFits (store : MaintenanceStore) (plan : PreventivePlan) (asOf : Moment)
    (newId : Moment → String) : Prop where
  ids : (((missingDates store plan asOf).map newId) ++ store.instances.ids).Nodup
  free : ∀ due ∈ missingDates store plan asOf, ∀ row ∈ store.instances.rows, row.IsOf plan →
    row.dueAt ≠ due

/-- The store after a synchronisation. -/
structure Synced (plan : PreventivePlan) (asOf : Moment) (newId : Moment → String)
    (store next : MaintenanceStore) : Prop where
  frame : next = { store with
    instances := next.instances
    plans := store.plans.update (syncedPlan plan asOf) }
  members : ∀ row, row ∈ next.instances.rows ↔
    (row ∈ store.instances.rows ∨
      ∃ due ∈ missingDates store plan asOf, row = plannedInstance plan newId due) ∧
      ¬ (row.IsPlannedOf plan ∧ row.dueAt ∉ buildPlannedDueDates plan asOf)

theorem plannedInstance_isPlannedOf (due : Moment) :
    (plannedInstance plan newId due).IsPlannedOf plan :=
  ⟨rfl, rfl, rfl⟩

theorem PreventivePlanInstance.IsPlannedOf.isOf (h : row.IsPlannedOf plan) : row.IsOf plan :=
  ⟨h.1, h.2.1⟩

theorem synced_of_ok (h : syncInstances plan asOf newId store = .ok next) :
    Synced plan asOf newId store next := by
  obtain ⟨added, hadded, hnext⟩ := bind_ok h
  obtain ⟨instances, hinstances, hstore⟩ := bind_ok hadded
  obtain ⟨-, -, hrows⟩ := UniqueTable.insertAll_eq_ok.mp hinstances
  obtain rfl := Except.ok.inj hstore
  obtain rfl := Except.ok.inj hnext
  refine ⟨rfl, ?_⟩
  intro row
  refine Iff.trans Table.mem_filter ?_
  rw [hrows, List.mem_append, List.mem_reverse, List.mem_map, decide_eq_true_eq]
  constructor
  · rintro ⟨⟨due, hdue, rfl⟩ | hrow, hkept⟩
    · exact ⟨Or.inr ⟨due, hdue, rfl⟩, hkept⟩
    · exact ⟨Or.inl hrow, hkept⟩
  · rintro ⟨hrow | ⟨due, hdue, rfl⟩, hkept⟩
    · exact ⟨Or.inr hrow, hkept⟩
    · exact ⟨Or.inl ⟨due, hdue, rfl⟩, hkept⟩

/-- A plan is in step with its schedule when a synchronisation has nothing to change. -/
def InStep (store : MaintenanceStore) (plan : PreventivePlan) (asOf : Moment) : Prop :=
  plan.nextDueAt.isSome = true ∧ plannedDates store plan = buildPlannedDueDates plan asOf

instance (store : MaintenanceStore) (plan : PreventivePlan) (asOf : Moment) :
    Decidable (InStep store plan asOf) :=
  inferInstanceAs (Decidable (_ ∧ _))

theorem syncedPlan_of_scheduled (hfrequency : plan.frequency = some given)
    (h : plan.nextDueAt.isSome = true) : syncedPlan plan asOf = plan := by
  obtain ⟨due, hdue⟩ := Option.isSome_iff_exists.mp h
  have hhead : (buildPlannedDueDates plan asOf).head? = plan.nextDueAt := by
    rw [head_buildPlannedDueDates hfrequency, PreventivePlan.startDue, hdue]
    rfl
  unfold syncedPlan
  rw [hhead]

theorem syncInstances_of_inStep (hfrequency : plan.frequency = some given)
    (hstored : plan ∈ store.plans.rows) (h : InStep store plan asOf) :
    syncInstances plan asOf newId store = .ok store := by
  have hmissing : missingDates store plan asOf = [] := by
    apply List.filter_eq_nil_iff.mpr
    intro due hdue
    simpa using h.2 ▸ hdue
  have hadded : addPlannedInstances plan newId (buildPlannedDueDates plan asOf) store =
      .ok store := by
    unfold addPlannedInstances
    change (store.instances.insertAll ((missingDates store plan asOf).map _) takenSlot >>= _) = _
    rw [hmissing]
    rfl
  have hkept : deleteOrphans plan (buildPlannedDueDates plan asOf) store = store := by
    unfold deleteOrphans
    rw [UniqueTable.filter_eq_self]
    intro row hrow
    rw [decide_eq_true_eq]
    rintro ⟨hplanned, hdue⟩
    exact hdue (h.2 ▸ mem_plannedDates.mpr ⟨row, hrow, hplanned, rfl⟩)
  refine bind_eq_ok.mpr ⟨store, hadded, ?_⟩
  simp only [hkept, syncedPlan_of_scheduled hfrequency h.1, Table.update_stored hstored]
  rfl

theorem exists_synced (hfrequency : plan.frequency = some given)
    (h : SyncFits store plan asOf newId) :
    ∃ next, syncInstances plan asOf newId store = .ok next := by
  have hcolumns : (((missingDates store plan asOf).map (plannedInstance plan newId)).map
      PreventivePlanInstance.slot ++ store.instances.columns).Nodup := by
    rw [List.map_map, List.nodup_append]
    refine ⟨?_, store.instances.column_nodup, ?_⟩
    · apply List.Nodup.map _ ((buildPlannedDueDates_pairwise hfrequency).nodup.filter _)
      intro first second heq
      exact (Prod.mk.inj (Prod.mk.inj heq).2).2
    · intro slot hslot taken htaken heq
      obtain ⟨due, hdue, rfl⟩ := List.mem_map.mp hslot
      obtain ⟨row, hrow, rfl⟩ := List.mem_map.mp htaken
      obtain ⟨horganization, hrest⟩ := Prod.mk.inj heq
      obtain ⟨hplan, hdate⟩ := Prod.mk.inj hrest
      exact h.free due hdue row hrow ⟨horganization.symm, hplan.symm⟩ hdate.symm
  obtain ⟨instances, hinstances⟩ := UniqueTable.exists_insertAll takenSlot
    (by rw [List.map_map]; exact h.ids) hcolumns
  refine ⟨_, bind_eq_ok.mpr ⟨_, bind_eq_ok.mpr ⟨instances, hinstances, rfl⟩, rfl⟩⟩

namespace Synced

variable (h : Synced plan asOf newId store next)

include h

theorem mem_iff_of_not_planned (hrow : ¬ row.IsPlannedOf plan) :
    row ∈ next.instances.rows ↔ row ∈ store.instances.rows := by
  rw [h.members]
  constructor
  · rintro ⟨hmem | ⟨due, -, rfl⟩, -⟩
    · exact hmem
    · exact absurd (plannedInstance_isPlannedOf due) hrow
  · exact fun hmem => ⟨Or.inl hmem, fun hplanned => hrow hplanned.1⟩

theorem plannedDates_eq (hfrequency : plan.frequency = some given) :
    plannedDates next plan = buildPlannedDueDates plan asOf := by
  apply List.Pairwise.eq_of_mem_iff (plannedDates_pairwise next plan)
    (buildPlannedDueDates_pairwise hfrequency)
  intro due
  rw [mem_plannedDates]
  constructor
  · rintro ⟨row, hrow, hplanned, rfl⟩
    by_contra hdue
    exact ((h.members row).mp hrow).2 ⟨hplanned, hdue⟩
  · intro hdue
    by_cases hstored : due ∈ plannedDates store plan
    · obtain ⟨row, hrow, hplanned, rfl⟩ := mem_plannedDates.mp hstored
      exact ⟨row, (h.members row).mpr ⟨Or.inl hrow, fun horphan => horphan.2 hdue⟩, hplanned, rfl⟩
    · have hmissing : due ∈ missingDates store plan asOf :=
        List.mem_filter.mpr ⟨hdue, decide_eq_true hstored⟩
      exact ⟨plannedInstance plan newId due, (h.members _).mpr
        ⟨Or.inr ⟨due, hmissing, rfl⟩, fun horphan => horphan.2 hdue⟩,
        plannedInstance_isPlannedOf due, rfl⟩

end Synced

end ProjectManager.Maintenance
