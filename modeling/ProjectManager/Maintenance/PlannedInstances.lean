import ProjectManager.Maintenance.AtomicGeneration

/-! # Plans after their synchronisation

The planned instances of a plan are on its next due dates, as many as its horizon asks
for, and stay there when the plan is synchronised again. The synchronisation goes
through unless an instance of another status is due on one of these dates.
-/

namespace ProjectManager.Maintenance

open Foundation

/-- The plan and the store after a synchronisation. -/
structure Synchronises (plan : PreventivePlan) (asOf : Moment) (newId : Moment → String)
    (store : MaintenanceStore) (synced : PreventivePlan) (next : MaintenanceStore) : Prop where
  run : syncCalendarPlanInstances plan asOf newId (.clean store) = (.ok synced, .clean next)
  increasing : (plannedDates next plan).Pairwise (· < ·)
  horizon : (plannedDates next plan).length = max plan.generationHorizonCount 1
  fresh : ∀ row ∈ next.instances.rows, row.IsPlannedOf plan →
    ∀ other ∈ next.instances.rows, other.IsOf plan →
      other.status = .generated ∨ other.status = .completed → row.dueAt ≠ other.dueAt
  stored : synced ∈ next.plans.rows
  nextDue : synced.nextDueAt = (plannedDates next plan).head?
  untouched : ∀ row : PreventivePlanInstance, ¬ row.IsPlannedOf plan →
    (row ∈ next.instances.rows ↔ row ∈ store.instances.rows)
  again : ∀ laterId : Moment → String,
    syncCalendarPlanInstances synced asOf laterId (.clean next) = (.ok synced, .clean next)

/-- None of the next due dates is that of an instance that is not planned. -/
def DueDatesFree (store : MaintenanceStore) (plan : PreventivePlan)
    (given : CalendarFrequencyUnit × ℕ) (asOf : Moment) : Prop :=
  ∀ index < max plan.generationHorizonCount 1, ∀ row ∈ store.instances.rows, row.IsOf plan →
    row.status ≠ .planned → row.dueAt ≠ (dueAfter given)^[index] (plan.startDue given asOf)

instance (store : MaintenanceStore) (plan : PreventivePlan) (given : CalendarFrequencyUnit × ℕ)
    (asOf : Moment) : Decidable (DueDatesFree store plan given asOf) :=
  inferInstanceAs (Decidable (∀ _ < _, ∀ _ ∈ _, _ → _ → _ ≠ _))

/-- The ids that are generated are distinct and new. -/
def FreshIds (store : MaintenanceStore) (plan : PreventivePlan) (asOf : Moment)
    (newId : Moment → String) : Prop :=
  ((missingDates store plan asOf).map newId ++ store.instances.ids).Nodup

instance (store : MaintenanceStore) (plan : PreventivePlan) (asOf : Moment)
    (newId : Moment → String) : Decidable (FreshIds store plan asOf newId) :=
  inferInstanceAs (Decidable (List.Nodup _))

section

variable {store next : MaintenanceStore} {plan : PreventivePlan} {asOf : Moment}
  {newId : Moment → String} {given : CalendarFrequencyUnit × ℕ}

theorem mem_missingDates_of_not_planned {row : PreventivePlanInstance}
    (hrow : row ∈ store.instances.rows) (hof : row.IsOf plan) (hstatus : row.status ≠ .planned)
    (hdue : row.dueAt ∈ buildPlannedDueDates plan asOf) :
    row.dueAt ∈ missingDates store plan asOf := by
  refine List.mem_filter.mpr ⟨hdue, decide_eq_true ?_⟩
  intro hplanned
  obtain ⟨other, hother, hotherPlanned, hsame⟩ := mem_plannedDates.mp hplanned
  obtain rfl := instance_eq_of_dueAt_eq hother hrow hotherPlanned.isOf hof hsame
  exact hstatus hotherPlanned.2.2

theorem syncFits_of_free (hfrequency : plan.frequency = some given)
    (hids : FreshIds store plan asOf newId) (h : DueDatesFree store plan given asOf) :
    SyncFits store plan asOf newId := by
  constructor
  · exact hids
  · intro due hdue row hrow hof hsame
    obtain ⟨hdesired, hmissing⟩ := List.mem_filter.mp hdue
    rw [buildPlannedDueDates_eq hfrequency] at hdesired
    obtain ⟨index, hindex, rfl⟩ := List.mem_iterate.mp hdesired
    refine h index hindex row hrow hof ?_ hsame
    intro hplanned
    rw [decide_eq_true_eq] at hmissing
    exact hmissing (mem_plannedDates.mpr ⟨row, hrow, ⟨hof.1, hof.2, hplanned⟩, hsame⟩)

/-- A synchronisation that is accepted had nothing in its way. -/
theorem dueDatesFree_of_ok (hfrequency : plan.frequency = some given)
    (h : syncInstances plan asOf newId store = .ok next) : DueDatesFree store plan given asOf := by
  obtain ⟨added, hadded, -⟩ := bind_ok h
  obtain ⟨instances, hinstances, -⟩ := bind_ok hadded
  obtain ⟨-, hcolumns, -⟩ := UniqueTable.insertAll_eq_ok.mp hinstances
  intro index hindex row hrow hof hstatus hsame
  have hdue : row.dueAt ∈ buildPlannedDueDates plan asOf := by
    rw [buildPlannedDueDates_eq hfrequency]
    exact List.mem_iterate.mpr ⟨index, hindex, hsame⟩
  have hmissing := mem_missingDates_of_not_planned hrow hof hstatus hdue
  have hslot : (plannedInstance plan newId row.dueAt).slot = row.slot := by
    unfold PreventivePlanInstance.slot
    rw [hof.1, hof.2]
    rfl
  refine (List.nodup_append.mp hcolumns).2.2 row.slot ?_ row.slot ?_ rfl
  · rw [← hslot]
    exact List.mem_map_of_mem (List.mem_map_of_mem hmissing)
  · exact List.mem_map_of_mem hrow

theorem Synced.inStep (h : Synced plan asOf newId store next)
    (hfrequency : plan.frequency = some given) :
    InStep next (syncedPlan plan asOf) asOf := by
  have hhead : (syncedPlan plan asOf).nextDueAt = some (plan.startDue given asOf) :=
    head_buildPlannedDueDates hfrequency
  have hstart : (syncedPlan plan asOf).startDue given asOf = plan.startDue given asOf := by
    rw [PreventivePlan.startDue, hhead]
    rfl
  have hdates : buildPlannedDueDates (syncedPlan plan asOf) asOf =
      buildPlannedDueDates plan asOf := by
    rw [buildPlannedDueDates_eq hfrequency, ← hstart]
    exact buildPlannedDueDates_eq hfrequency
  constructor
  · rw [hhead]
    rfl
  · rw [hdates]
    exact h.plannedDates_eq hfrequency

theorem syncCalendarPlanInstances_of_ok (hgiven : plan.instanceFrequency = some given)
    (h : syncInstances plan asOf newId store = .ok next) :
    syncCalendarPlanInstances plan asOf newId (.clean store) =
      (.ok (syncedPlan plan asOf), .clean next) := by
  have huses : plan.usesCalendarInstances := PreventivePlan.usesCalendarInstances_of hgiven
  unfold syncCalendarPlanInstances
  rw [if_pos huses]
  exact Program.bind_of_ok (Program.save_of_ok h)

theorem synchronises_of_ok (hstored : plan ∈ store.plans.rows)
    (hgiven : plan.instanceFrequency = some given)
    (h : syncInstances plan asOf newId store = .ok next) :
    Synchronises plan asOf newId store (syncedPlan plan asOf) next := by
  have hfrequency := (PreventivePlan.instanceFrequency_eq_some hgiven).2
  have hsynced := synced_of_ok h
  have hdates := hsynced.plannedDates_eq hfrequency
  have hplans : syncedPlan plan asOf ∈ next.plans.rows := by
    rw [hsynced.frame]
    exact Table.mem_update_self hstored rfl
  refine ⟨syncCalendarPlanInstances_of_ok hgiven h, plannedDates_pairwise next plan, ?_, ?_, hplans,
    ?_, fun row hrow => hsynced.mem_iff_of_not_planned hrow, ?_⟩
  · rw [hdates, buildPlannedDueDates_eq hfrequency, List.length_iterate]
  · intro row hrow hplanned other hother hof hstatus hsame
    obtain rfl := instance_eq_of_dueAt_eq hrow hother hplanned.isOf hof hsame
    rw [hplanned.2.2] at hstatus
    simp at hstatus
  · rw [hdates]
    rfl
  · intro laterId
    have hfrequencySynced : (syncedPlan plan asOf).frequency = some given := hfrequency
    have hgivenSynced : (syncedPlan plan asOf).instanceFrequency = some given := hgiven
    have hinStep := hsynced.inStep hfrequency
    have hlater : syncInstances (syncedPlan plan asOf) asOf laterId next = .ok next :=
      syncInstances_of_inStep hfrequencySynced hplans hinStep
    have hrun := syncCalendarPlanInstances_of_ok hgivenSynced hlater
    rw [syncedPlan_of_scheduled hfrequencySynced hinStep.1] at hrun
    exact hrun

/-- What a synchronisation that goes through says of the instances. -/
theorem Synchronises.dueDatesFree {synced : PreventivePlan}
    (hgiven : plan.instanceFrequency = some given)
    (h : Synchronises plan asOf newId store synced next) : DueDatesFree store plan given asOf := by
  cases syncCalendarPlanInstances_settles.returned h.run with
  | unscheduled hnone =>
      rw [hnone] at hgiven
      cases hgiven
  | scheduled _ hrun =>
      exact dueDatesFree_of_ok (PreventivePlan.instanceFrequency_eq_some hgiven).2 hrun

/-- A synchronisation of a stored plan goes through, and does all of this, exactly when none of the
next due dates is that of an instance that is not planned. -/
theorem syncCalendarPlanInstances_synchronises_iff (hstored : plan ∈ store.plans.rows)
    (hgiven : plan.instanceFrequency = some given) (hids : FreshIds store plan asOf newId) :
    (∃ synced next, Synchronises plan asOf newId store synced next) ↔
      DueDatesFree store plan given asOf := by
  have hfrequency := (PreventivePlan.instanceFrequency_eq_some hgiven).2
  constructor
  · rintro ⟨synced, next, hsynchronised⟩
    exact hsynchronised.dueDatesFree hgiven
  · intro hfree
    obtain ⟨next, hnext⟩ := exists_synced hfrequency (syncFits_of_free hfrequency hids hfree)
    exact ⟨_, next, synchronises_of_ok hstored hgiven hnext⟩

end

/-- A pump whose first greasing is completed, and whose second one is planned for a wrong day. -/
def latePump : PreventivePlan := { pumpPlan 2 with nextDueAt := some Moment.day }

def lateYard : MaintenanceStore :=
  { pumpYard 2 with
    plans := ⟨[latePump], List.nodup_singleton _⟩
    instances :=
      { rows := [{ id := "first", organizationId := "org", planId := "pump", dueAt := 0
                   status := .completed },
          { id := "second", organizationId := "org", planId := "pump", dueAt := 5 * Moment.day }]
        nodup := by decide
        column_nodup := by decide } }

theorem syncCalendarPlanInstances_synchronises_lateYard :
    ∃ synced next, Synchronises latePump 0 (pumpIds "1").plannedId lateYard synced next :=
  (syncCalendarPlanInstances_synchronises_iff List.mem_cons_self rfl (by decide +kernel)).mpr
    (by decide +kernel : DueDatesFree lateYard latePump (.daily, 1) 0)

/-- A pump that is greased up to a day ahead. -/
def earlyPump : PreventivePlan :=
  { pumpPlan 1 with
    generationLeadValue := 1
    nextDueAt := some Moment.day }

def earlyYard : MaintenanceStore :=
  { pumpYard 1 with
    plans := ⟨[earlyPump], List.nodup_singleton _⟩
    instances :=
      { rows := [{ id := "first", organizationId := "org", planId := "pump", dueAt := Moment.day }]
        nodup := List.nodup_singleton _
        column_nodup := List.nodup_singleton _ } }

/-- The pump after its work was generated a day ahead. -/
def greasedPump : PreventivePlan :=
  { earlyPump with
    lastGeneratedAt := some 0
    nextDueAt := none }

/-- Work that is generated a whole period ahead leaves a plan that cannot be synchronised: its next
due date is that of the instance that was generated. -/
theorem takenDueDate_earlyYard :
    ((pumpCall "1" "" 0).run (.clean earlyYard)).1 = some takenSlot ∧
    let left := ((pumpCall "1" "" 0).run (.clean earlyYard)).2.pending
    left.plans.rows = [greasedPump] ∧
      (∀ row ∈ left.instances.rows, ¬ row.IsPlannedOf greasedPump) ∧
      ∀ newId, ¬ ∃ synced next, Synchronises greasedPump 0 newId left synced next := by
  have hraised : ((pumpCall "1" "" 0).run (.clean earlyYard)).1 = some takenSlot := by
    decide +kernel
  refine ⟨hraised, by decide +kernel, by decide +kernel, ?_⟩
  rintro newId ⟨synced, next, hsynchronised⟩
  have hgiven : greasedPump.instanceFrequency = some (.daily, 1) := rfl
  exact absurd (hsynchronised.dueDatesFree hgiven) (by decide +kernel)

end ProjectManager.Maintenance
