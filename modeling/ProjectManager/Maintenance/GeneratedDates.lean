import ProjectManager.Maintenance.OtherPlans

/-! # Generated dates

The turn of a plan generates at most one date, the first one of its schedule. The
schedule goes on with the date that follows, unless the generation starts it anew.
-/

namespace ProjectManager.Maintenance

open Foundation

/-- The due dates of the instances of a plan that are no longer planned. -/
def generatedDates (store : MaintenanceStore) (plan : PreventivePlan) : List Moment :=
  ((listInstances store plan).filter fun row => row.status ≠ .planned).map
    PreventivePlanInstance.dueAt

/-- The dates that were generated in between. -/
def newDates (store next : MaintenanceStore) (plan : PreventivePlan) : List Moment :=
  (generatedDates next plan).filter fun due => due ∉ generatedDates store plan

/-- What the turn of a plan needs, to keep its cadence. A schedule that starts anew from the
generation must start with the date that would have been next. -/
def KeepsCadence (services : MaintenanceServices) (store : MaintenanceStore)
    (plan : PreventivePlan) (asOf : Moment) (ids : TurnIds) : Prop :=
  GeneratesWork store plan asOf → WorkAllowed services store plan.organizationId plan ids →
    ∀ given ∈ plan.instanceFrequency,
      (planDue store plan asOf = true → plan.generationHorizonCount ≤ 1 →
        dueAfter given asOf = dueAfter given (plan.startDue given asOf) ∧
          ReplanFits store plan asOf ids) ∧
      (planDue store plan asOf = false → dueAfter given asOf = plan.startDue given asOf)

instance (services : MaintenanceServices) (store : MaintenanceStore) (plan : PreventivePlan)
    (asOf : Moment) (ids : TurnIds) : Decidable (KeepsCadence services store plan asOf ids) :=
  inferInstanceAs (Decidable (_ → _ → ∀ _ ∈ _, (_ → _ → _ ∧ _) ∧ (_ → _)))

/-- Nothing is generated for a plan and its due date stays, or its due date is generated and the
next one follows it. -/
inductive ScheduleStep (given : CalendarFrequencyUnit × ℕ) (store next : MaintenanceStore)
    (plan updated : PreventivePlan) : Prop
  | kept (hdates : generatedDates next plan = generatedDates store plan)
      (hdue : ∀ due ∈ plan.nextDueAt, updated.nextDueAt = some due) :
      ScheduleStep given store next plan updated
  | advanced (date : Moment) (hdate : ∀ due ∈ plan.nextDueAt, date = due)
      (hnew : newDates store next plan = [date])
      (hnext : updated.nextDueAt = some (dueAfter given date)) :
      ScheduleStep given store next plan updated

def Scheduled (given : CalendarFrequencyUnit × ℕ) (store next : MaintenanceStore)
    (plan : PreventivePlan) : Prop :=
  ∃ updated ∈ next.plans.rows, (updated.id = plan.id ∧
    updated.organizationId = plan.organizationId ∧ updated.instanceFrequency = some given) ∧
      ScheduleStep given store next plan updated

variable {services : MaintenanceServices} {store middle worked saved next : MaintenanceStore}
  {plan synced updated : PreventivePlan} {ids : TurnIds} {asOf : Moment}
  {given : CalendarFrequencyUnit × ℕ}

/-! ## Dates -/

theorem mem_generatedDates {due : Moment} : due ∈ generatedDates store plan ↔
    ∃ row ∈ store.instances.rows, row.IsOf plan ∧ row.status ≠ .planned ∧ row.dueAt = due := by
  unfold generatedDates
  simp only [List.mem_map, List.mem_filter, mem_listInstances, decide_eq_true_eq, and_assoc]

theorem generatedDates_pairwise (store : MaintenanceStore) (plan : PreventivePlan) :
    (generatedDates store plan).Pairwise (· < ·) := by
  rw [generatedDates, List.pairwise_map]
  exact (listInstances_pairwise store plan).sublist List.filter_sublist

theorem generatedDates_congr (h : ∀ row : PreventivePlanInstance, row.IsOf plan →
    row.status ≠ .planned → (row ∈ next.instances.rows ↔ row ∈ store.instances.rows)) :
    generatedDates next plan = generatedDates store plan := by
  apply List.Pairwise.eq_of_mem_iff (generatedDates_pairwise next plan)
    (generatedDates_pairwise store plan)
  intro due
  rw [mem_generatedDates, mem_generatedDates]
  constructor
  · rintro ⟨row, hrow, hof, hgenerated, hdue⟩
    exact ⟨row, (h row hof hgenerated).mp hrow, hof, hgenerated, hdue⟩
  · rintro ⟨row, hrow, hof, hgenerated, hdue⟩
    exact ⟨row, (h row hof hgenerated).mpr hrow, hof, hgenerated, hdue⟩

theorem generatedDates_plan (hid : updated.id = plan.id)
    (horganization : updated.organizationId = plan.organizationId) (store : MaintenanceStore) :
    generatedDates store updated = generatedDates store plan := by
  unfold generatedDates listInstances
  rw [hid, horganization]

theorem Synced.generatedDates_eq {newId : Moment → String}
    (h : Synced plan asOf newId store next) :
    generatedDates next plan = generatedDates store plan :=
  generatedDates_congr fun _ _ hgenerated =>
    h.mem_iff_of_not_planned fun hplanned => hgenerated hplanned.2.2

theorem SyncedTo.generatedDates_eq {newId : Moment → String}
    (h : SyncedTo plan asOf newId store synced next) :
    generatedDates next plan = generatedDates store plan := by
  cases h with
  | unscheduled => rfl
  | scheduled _ hrun => exact (synced_of_ok hrun).generatedDates_eq

namespace DueSaved

variable {row : PreventivePlanInstance} {rest : List PreventivePlanInstance}
  (h : DueSaved plan given asOf ids store middle worked updated saved row rest)

include h

theorem mem_generatedDates_saved {due : Moment} : due ∈ generatedDates saved plan ↔
    due ∈ generatedDates middle plan ∨ due = row.dueAt := by
  rw [mem_generatedDates, mem_generatedDates]
  constructor
  · rintro ⟨other, hother, hof, hgenerated, rfl⟩
    rcases h.mem_saved hother with ⟨hmiddle, -⟩ | rfl
    · exact Or.inl ⟨other, hmiddle, hof, hgenerated, rfl⟩
    · exact Or.inr rfl
  · rintro (⟨other, hother, hof, hgenerated, rfl⟩ | rfl)
    · have hid : other.id ≠ row.id := by
        intro hsame
        rw [middle.instances.eq_of_key_eq hother h.row_mem.1 hsame] at hgenerated
        exact hgenerated h.row_mem.2.2.2
      refine ⟨other, ?_, hof, hgenerated, rfl⟩
      rw [h.rows_saved]
      exact List.mem_map.mpr ⟨other, hother, if_neg hid⟩
    · refine ⟨generatedInstance asOf (requestLink plan ids) (orderLink plan ids) row, ?_,
        h.row_mem.2.isOf, (nomatch ·), rfl⟩
      rw [h.rows_saved]
      exact List.mem_map.mpr ⟨row, h.row_mem.1, if_pos rfl⟩

/-- The date that the schedule starts with is generated. -/
theorem newDates_saved : newDates store saved plan = [plan.startDue given asOf] := by
  have hfree : row.dueAt ∉ generatedDates middle plan := by
    rw [mem_generatedDates]
    rintro ⟨other, hother, hof, hgenerated, hdue⟩
    rw [instance_eq_of_dueAt_eq hother h.row_mem.1 hof h.row_mem.2.isOf hdue] at hgenerated
    exact hgenerated h.row_mem.2.2.2
  unfold newDates
  rw [← h.synced.generatedDates_eq, ← h.dueAt_eq]
  apply List.Pairwise.eq_of_mem_iff ((generatedDates_pairwise saved plan).filter _)
    (List.pairwise_singleton _ _)
  intro due
  rw [List.mem_filter, decide_eq_true_eq, h.mem_generatedDates_saved, List.mem_singleton]
  constructor
  · rintro ⟨hdue | hdue, hnew⟩
    · exact absurd hdue hnew
    · exact hdue
  · rintro rfl
    exact ⟨Or.inr rfl, hfree⟩

end DueSaved

/-! ## Turns -/

theorem PreventivePlan.startDue_of_nextDueAt {due : Moment} (h : due ∈ plan.nextDueAt) :
    plan.startDue given asOf = due := by
  unfold PreventivePlan.startDue
  rw [h]
  rfl

theorem Scheduled.congr (h : Scheduled given store middle plan) (hplans : next.plans = middle.plans)
    (hinstances : next.instances = middle.instances) : Scheduled given store next plan := by
  have hdates : generatedDates next plan = generatedDates middle plan := by
    unfold generatedDates listInstances
    rw [hinstances]
  obtain ⟨updated, hmem, hplan, hstep⟩ := h
  refine ⟨updated, hplans ▸ hmem, hplan, ?_⟩
  cases hstep with
  | kept hkept hdue => exact .kept (hdates.trans hkept) hdue
  | advanced date hdate hnew hnext =>
      refine .advanced date hdate ?_ hnext
      unfold newDates at hnew ⊢
      rwa [hdates]

/-- A plan that is there has had no step. -/
theorem Scheduled.refl (hstored : plan ∈ store.plans.rows)
    (hgiven : plan.instanceFrequency = some given) : Scheduled given store store plan :=
  ⟨plan, hstored, ⟨rfl, rfl, hgiven⟩, .kept rfl fun _ hdue => hdue⟩

/-- A synchronisation sets the due date that the schedule starts with. -/
theorem SyncedTo.exists_row {newId : Moment → String} (hstored : plan ∈ store.plans.rows)
    (hgiven : plan.instanceFrequency = some given)
    (h : SyncedTo plan asOf newId store synced next) :
    synced ∈ next.plans.rows ∧ (synced.id = plan.id ∧
      synced.organizationId = plan.organizationId ∧ synced.instanceFrequency = some given) ∧
        synced.nextDueAt = some (plan.startDue given asOf) := by
  have hfrequency := (PreventivePlan.instanceFrequency_eq_some hgiven).2
  cases h with
  | unscheduled hnone =>
      rw [hnone] at hgiven
      cases hgiven
  | scheduled _ hrun =>
      refine ⟨?_, ⟨rfl, rfl, hgiven⟩, head_buildPlannedDueDates hfrequency⟩
      rw [(synced_of_ok hrun).frame]
      exact Table.mem_update_self hstored rfl

theorem SyncedTo.toScheduled {newId : Moment → String} (hstored : plan ∈ store.plans.rows)
    (hgiven : plan.instanceFrequency = some given)
    (h : SyncedTo plan asOf newId store synced next) : Scheduled given store next plan := by
  obtain ⟨hmem, hplan, hdue⟩ := h.exists_row hstored hgiven
  refine ⟨synced, hmem, hplan, .kept h.generatedDates_eq ?_⟩
  intro due hnext
  rw [hdue, PreventivePlan.startDue_of_nextDueAt hnext]

theorem StateSaved.updated_mem (hstored : plan ∈ store.plans.rows)
    (hgiven : plan.instanceFrequency = some given)
    (hsynced : SyncedTo plan asOf ids.plannedId store synced middle)
    (hsaved : StateSaved synced asOf ids middle worked updated saved) :
    updated ∈ saved.plans.rows := by
  obtain ⟨hmem, -, -⟩ := hsynced.exists_row hstored hgiven
  rw [hsaved.plans_eq]
  exact Table.mem_update_self hmem (generatedPlan_id hsaved.updated_eq).1

theorem StateSaved.toScheduled_undue (hstored : plan ∈ store.plans.rows)
    (hgiven : plan.instanceFrequency = some given)
    (hsynced : SyncedTo plan asOf ids.plannedId store synced middle)
    (hsaved : StateSaved synced asOf ids middle worked updated saved)
    (hnone : selectDueInstance middle synced asOf = none)
    (hsame : dueAfter given asOf = plan.startDue given asOf) : Scheduled given store saved plan := by
  obtain ⟨-, ⟨hid, horganization, hinstances⟩, -⟩ := hsynced.exists_row hstored hgiven
  obtain ⟨counter, -, hupdated⟩ := bind_ok hsaved.updated_eq
  obtain rfl := Except.ok.inj hupdated
  have hdates : generatedDates saved plan = generatedDates store plan := by
    rw [← hsynced.generatedDates_eq, hsaved.saved_eq, hnone, hsaved.made.frame]
    rfl
  refine ⟨_, hsaved.updated_mem hstored hgiven hsynced, ⟨hid, horganization, hinstances⟩,
    .kept hdates ?_⟩
  intro due hdue
  have hfrequency : frequency synced.calendarFrequencyUnit synced.calendarFrequencyValue =
      some given := (PreventivePlan.instanceFrequency_eq_some hinstances).2
  change nextDueAfter worked synced asOf (selectDueInstance middle synced asOf) = some due
  rw [hnone, ← PreventivePlan.startDue_of_nextDueAt hdue, ← hsame]
  unfold nextDueAfter nextCalendarDueValue
  dsimp only
  rw [hfrequency]
  rfl

namespace DueSaved

variable {row : PreventivePlanInstance} {rest : List PreventivePlanInstance}
  (h : DueSaved plan given asOf ids store middle worked updated saved row rest)

include h

theorem updated_id : updated.id = plan.id ∧ updated.organizationId = plan.organizationId := by
  rw [h.updated_frame]
  exact ⟨rfl, rfl⟩

/-- A schedule of several dates goes on with the next one, also without a synchronisation. -/
theorem toScheduled_saved (hmem : updated ∈ saved.plans.rows)
    (hcount : ¬ plan.generationHorizonCount ≤ 1) : Scheduled given store saved plan := by
  refine ⟨updated, hmem, ⟨h.updated_id.1, h.updated_id.2, h.updated_instanceFrequency⟩,
    .advanced (plan.startDue given asOf) (fun _ => PreventivePlan.startDue_of_nextDueAt)
      h.newDates_saved ?_⟩
  obtain ⟨count, hsucc⟩ : ∃ count, max plan.generationHorizonCount 1 - 1 = count + 1 :=
    ⟨plan.generationHorizonCount - 2, by omega⟩
  rw [h.nextDueAt_eq, h.rest_eq, hsucc]
  rfl

/-- The second synchronisation keeps the date that the schedule goes on with. -/
theorem toScheduled_replanned {replanned : PreventivePlan} (hmem : updated ∈ saved.plans.rows)
    (hfollows : plan.followingDue given asOf = dueAfter given (plan.startDue given asOf))
    (hagain : SyncedTo updated asOf ids.replannedId saved replanned next) :
    Scheduled given store next plan := by
  obtain ⟨hrow, ⟨hid, horganization, hinstances⟩, hdue⟩ :=
    hagain.exists_row hmem h.updated_instanceFrequency
  obtain ⟨hupdatedId, hupdatedOrganization⟩ := h.updated_id
  have hdates : generatedDates next plan = generatedDates saved plan := by
    rw [← generatedDates_plan hupdatedId hupdatedOrganization, hagain.generatedDates_eq,
      generatedDates_plan hupdatedId hupdatedOrganization]
  refine ⟨replanned, hrow, ⟨hid.trans hupdatedId, horganization.trans hupdatedOrganization,
    hinstances⟩, .advanced (plan.startDue given asOf)
      (fun _ => PreventivePlan.startDue_of_nextDueAt) ?_ ?_⟩
  · have hnew := h.newDates_saved
    unfold newDates at hnew ⊢
    rw [hdates, hnew]
  · rw [hdue, h.startDue_eq, hfollows]

end DueSaved

/-- The schedule goes on in its cadence when the plan keeps it. -/
theorem PreventivePlan.followingDue_eq
    (h : plan.generationHorizonCount ≤ 1 →
      dueAfter given asOf = dueAfter given (plan.startDue given asOf)) :
    plan.followingDue given asOf = dueAfter given (plan.startDue given asOf) := by
  unfold PreventivePlan.followingDue
  split
  next hcount => exact h hcount
  next => rfl

theorem SyncedTo.selectDueInstance_isSome {newId : Moment → String}
    (hgiven : plan.instanceFrequency = some given)
    (h : SyncedTo plan asOf newId store synced next) :
    (selectDueInstance next synced asOf).isSome = planDue store plan asOf := by
  cases h with
  | unscheduled hnone =>
      rw [hnone] at hgiven
      cases hgiven
  | scheduled _ hrun =>
      have hsynced := synced_of_ok hrun
      obtain ⟨row, rest, hplanned, -⟩ :=
        hsynced.exists_head (PreventivePlan.instanceFrequency_eq_some hgiven).2
      rw [hsynced.selectDueInstance hgiven hplanned]
      cases planDue store plan asOf <;> rfl

theorem Replanned.toScheduled {scheduled : MaintenanceStore} (hstored : plan ∈ store.plans.rows)
    (hgiven : plan.instanceFrequency = some given) (hgenerates : GeneratesWork store plan asOf)
    (hallowed : WorkAllowed services store plan.organizationId plan ids)
    (hkeeps : KeepsCadence services store plan asOf ids)
    (hsynced : SyncedTo plan asOf ids.plannedId store synced middle)
    (hsaved : StateSaved synced asOf ids middle worked updated saved)
    (h : Replanned (selectDueInstance middle synced asOf) updated asOf ids saved scheduled) :
    Scheduled given store scheduled plan := by
  obtain ⟨hdueKeeps, hundueKeeps⟩ := hkeeps hgenerates hallowed given hgiven
  have hselected := hsynced.selectDueInstance_isSome hgiven
  cases h with
  | unscheduled hnone =>
      rw [hnone] at hselected
      exact hsaved.toScheduled_undue hstored hgiven hsynced hnone (hundueKeeps hselected.symm)
  | scheduled hsome hagain =>
      rw [hsome] at hselected
      obtain ⟨_, row, rest, -, hdueSaved⟩ := hsaved.exists_dueSaved hsynced hsome
      obtain rfl := Option.some.inj (hgiven.symm.trans hdueSaved.instances)
      exact hdueSaved.toScheduled_replanned (hsaved.updated_mem hstored hgiven hsynced)
        (PreventivePlan.followingDue_eq fun hcount => (hdueKeeps hselected.symm hcount).1) hagain

theorem TurnReturns.toScheduled (hstored : plan ∈ store.plans.rows)
    (hgiven : plan.instanceFrequency = some given)
    (hkeeps : KeepsCadence services store plan asOf ids)
    (h : TurnReturns services store plan asOf ids next) : Scheduled given store next plan := by
  cases h with
  | skipped hsynced => exact hsynced.toScheduled hstored hgiven
  | generated hsynced hgenerates hallowed hsaved hreplanned htasks =>
      apply (hreplanned.toScheduled hstored hgiven hgenerates hallowed hkeeps hsynced hsaved).congr
      · rw [htasks]
      · rw [htasks]

theorem TurnRaises.toScheduled (hstored : plan ∈ store.plans.rows)
    (hgiven : plan.instanceFrequency = some given)
    (hkeeps : KeepsCadence services store plan asOf ids)
    (h : TurnRaises services store plan asOf ids next) : Scheduled given store next plan := by
  cases h with
  | refused => exact .refl hstored hgiven
  | denied hsynced => exact hsynced.toScheduled hstored hgiven
  | incomplete hsynced _ _ hmade =>
      apply (hsynced.toScheduled hstored hgiven).congr
      · rw [hmade.frame]
      · rw [hmade.frame]
  | unplanned hsynced hgenerates hallowed hsaved hdue hrefused =>
      -- With one date planned at a time, the second synchronisation is not refused.
      have hselected := hsynced.selectDueInstance_isSome hgiven
      rw [hdue] at hselected
      obtain ⟨_, row, rest, -, hdueSaved⟩ := hsaved.exists_dueSaved hsynced hdue
      obtain rfl := Option.some.inj (hgiven.symm.trans hdueSaved.instances)
      apply hdueSaved.toScheduled_saved (hsaved.updated_mem hstored hgiven hsynced)
      intro hcount
      obtain ⟨-, hfits⟩ := (hkeeps hgenerates hallowed given hgiven).1 hselected.symm hcount
      obtain ⟨replanned, hreplanned⟩ := hdueSaved.exists_replanned hfits
      obtain ⟨e, he⟩ := hrefused
      rw [hreplanned] at he
      cases he
  | uncounted hsynced hgenerates hallowed hsaved hreplanned htasks =>
      apply (hreplanned.toScheduled hstored hgiven hgenerates hallowed hkeeps hsynced hsaved).congr
      · rw [htasks]
      · rw [htasks]

end ProjectManager.Maintenance
