import ProjectManager.Maintenance.PlanTurns

/-! # The schedule after a generation

When the first instance of a schedule is generated, the schedule goes on with the
second one, and one more date is planned. With a horizon of one instance nothing is
left to go on with, and the schedule starts anew from the generation.
-/

namespace ProjectManager.Maintenance

open Foundation

variable {store middle worked saved next : MaintenanceStore} {plan updated : PreventivePlan}
  {ids : TurnIds} {asOf : Moment} {given : CalendarFrequencyUnit × ℕ}

/-- The due date that a schedule goes on with. -/
def PreventivePlan.followingDue (plan : PreventivePlan) (given : CalendarFrequencyUnit × ℕ)
    (asOf : Moment) : Moment :=
  if plan.generationHorizonCount ≤ 1 then dueAfter given asOf
  else dueAfter given (plan.startDue given asOf)

/-- The date that is planned anew. -/
def PreventivePlan.replannedDate (plan : PreventivePlan) (given : CalendarFrequencyUnit × ℕ)
    (asOf : Moment) : Moment :=
  if plan.generationHorizonCount ≤ 1 then dueAfter given asOf
  else (dueAfter given)^[plan.generationHorizonCount] (plan.startDue given asOf)

/-- The date that is planned anew is free, and so is the id of its instance. -/
def ReplanFits (store : MaintenanceStore) (plan : PreventivePlan) (asOf : Moment)
    (ids : TurnIds) : Prop :=
  ∀ given ∈ plan.instanceFrequency, planDue store plan asOf = true →
    (plan.replannedDate given asOf ≠ plan.startDue given asOf ∧
      ∀ row ∈ store.instances.rows, row.IsOf plan → row.status ≠ .planned →
        row.dueAt ≠ plan.replannedDate given asOf) ∧
    ids.replannedId (plan.replannedDate given asOf) ∉
      store.instances.ids ++ (missingDates store plan asOf).map ids.plannedId

instance (store : MaintenanceStore) (plan : PreventivePlan) (asOf : Moment) (ids : TurnIds) :
    Decidable (ReplanFits store plan asOf ids) :=
  inferInstanceAs (Decidable (∀ _ ∈ _, _ → (_ ∧ ∀ _ ∈ _, _ → _ → _) ∧ _))

/-- An instance of a calendar plan was due, and the state after it is saved. -/
structure DueSaved (plan : PreventivePlan) (given : CalendarFrequencyUnit × ℕ) (asOf : Moment)
    (ids : TurnIds) (store middle worked : MaintenanceStore) (updated : PreventivePlan)
    (saved : MaintenanceStore) (row : PreventivePlanInstance)
    (rest : List PreventivePlanInstance) : Prop where
  instances : plan.instanceFrequency = some given
  synced : Synced plan asOf ids.plannedId store middle
  planned : listPlanned middle plan = row :: rest
  due : planDue store plan asOf = true
  made : WorkMade (syncedPlan plan asOf) ids middle worked
  updated_eq : generatedPlan worked (syncedPlan plan asOf) asOf (some row) = .ok updated
  saved_eq : saved = saveGeneration worked updated asOf (some row)
    (requestLink plan ids) (orderLink plan ids)

namespace DueSaved

variable {row : PreventivePlanInstance} {rest : List PreventivePlanInstance}
  (h : DueSaved plan given asOf ids store middle worked updated saved row rest)

include h

theorem frequency : plan.frequency = some given :=
  (PreventivePlan.instanceFrequency_eq_some h.instances).2

theorem row_mem : row ∈ middle.instances.rows ∧ row.IsPlannedOf plan := by
  apply mem_listPlanned.mp
  rw [h.planned]
  exact List.mem_cons_self

theorem dates_eq : row.dueAt :: rest.map PreventivePlanInstance.dueAt =
    List.iterate (dueAfter given) (plan.startDue given asOf)
      (max plan.generationHorizonCount 1) := by
  rw [← buildPlannedDueDates_eq h.frequency, ← h.synced.plannedDates_eq h.frequency, plannedDates,
    h.planned, List.map_cons]

theorem dueAt_eq : row.dueAt = plan.startDue given asOf := by
  have hcount : max plan.generationHorizonCount 1 =
    (max plan.generationHorizonCount 1 - 1) + 1 := by omega
  have hdates := h.dates_eq
  rw [hcount] at hdates
  exact (List.cons.inj hdates).1

/-- The dates that remain planned. -/
theorem rest_eq : rest.map PreventivePlanInstance.dueAt =
    List.iterate (dueAfter given) (dueAfter given (plan.startDue given asOf))
      (max plan.generationHorizonCount 1 - 1) := by
  have hcount : max plan.generationHorizonCount 1 =
    (max plan.generationHorizonCount 1 - 1) + 1 := by omega
  have hdates := h.dates_eq
  rw [hcount] at hdates
  exact (List.cons.inj hdates).2

theorem rows_saved : saved.instances.rows = middle.instances.rows.map fun old =>
    if old.id = row.id then
      generatedInstance asOf (requestLink plan ids) (orderLink plan ids) old
    else old := by
  have hworked : worked.instances = middle.instances := by rw [h.made.frame]
  rw [h.saved_eq, ← hworked]
  rfl

/-- Of the rows planned before, all but the generated one stay planned. -/
theorem mem_listPlanned_saved {other : PreventivePlanInstance} :
    other ∈ listPlanned saved plan ↔ other ∈ listPlanned middle plan ∧ other.id ≠ row.id := by
  rw [mem_listPlanned, mem_listPlanned, h.rows_saved, List.mem_map]
  constructor
  · rintro ⟨⟨old, hold, rfl⟩, hplanned⟩
    by_cases hid : old.id = row.id
    · rw [if_pos hid] at hplanned
      cases hplanned.2.2
    · rw [if_neg hid] at hplanned ⊢
      exact ⟨⟨hold, hplanned⟩, hid⟩
  · rintro ⟨⟨hother, hplanned⟩, hid⟩
    exact ⟨⟨other, hother, if_neg hid⟩, hplanned⟩

/-- The rows that remain planned are other rows. -/
theorem id_ne_of_mem_rest {other : PreventivePlanInstance} (hother : other ∈ rest) :
    other.id ≠ row.id := by
  intro hid
  have hmem : other ∈ listPlanned middle plan := h.planned ▸ List.mem_cons_of_mem _ hother
  have hsame : other = row := middle.instances.eq_of_key_eq (mem_listPlanned.mp hmem).1
    h.row_mem.1 hid
  have hordered := plannedDates_pairwise middle plan
  rw [plannedDates, h.planned, List.map_cons, List.pairwise_cons] at hordered
  exact lt_irrefl _ (hordered.1 _ (List.mem_map.mpr ⟨other, hother, by rw [hsame]⟩))

theorem plannedDates_saved : plannedDates saved plan = rest.map PreventivePlanInstance.dueAt := by
  have hordered := plannedDates_pairwise middle plan
  rw [plannedDates, h.planned, List.map_cons, List.pairwise_cons] at hordered
  apply List.Pairwise.eq_of_mem_iff (plannedDates_pairwise saved plan) hordered.2
  intro due
  rw [plannedDates, List.mem_map, List.mem_map]
  constructor
  · rintro ⟨other, hother, rfl⟩
    obtain ⟨hother, hid⟩ := h.mem_listPlanned_saved.mp hother
    rw [h.planned, List.mem_cons] at hother
    exact ⟨other, hother.resolve_left fun hsame => hid (congrArg _ hsame), rfl⟩
  · rintro ⟨other, hother, rfl⟩
    exact ⟨other, h.mem_listPlanned_saved.mpr
      ⟨h.planned ▸ List.mem_cons_of_mem _ hother, h.id_ne_of_mem_rest hother⟩, rfl⟩

theorem nextDueAt_eq : updated.nextDueAt = (rest.map PreventivePlanInstance.dueAt).head? := by
  obtain ⟨counter, -, hupdated⟩ := bind_ok h.updated_eq
  obtain rfl := Except.ok.inj hupdated
  have hlist : listPlanned worked (syncedPlan plan asOf) = row :: rest := by
    rw [← h.planned, h.made.frame]
    rfl
  have hrest : rest.filter (fun other => decide (other.id ≠ row.id)) = rest :=
    List.filter_eq_self.mpr fun other hother => decide_eq_true (h.id_ne_of_mem_rest hother)
  change nextDueAfter worked (syncedPlan plan asOf) asOf (some row) = _
  unfold nextDueAfter
  dsimp only
  rw [hlist, List.filter_cons_of_neg (by simp), hrest, List.head?_map]

theorem updated_frame : updated = { plan with
    lastGeneratedAt := some asOf
    nextDueAt := updated.nextDueAt
    nextDueCounter := updated.nextDueCounter } := by
  obtain ⟨counter, -, hupdated⟩ := bind_ok h.updated_eq
  obtain rfl := Except.ok.inj hupdated
  rfl

theorem updated_frequency : updated.frequency = some given := by
  rw [h.updated_frame]
  exact h.frequency

theorem updated_instanceFrequency : updated.instanceFrequency = some given := by
  rw [h.updated_frame]
  exact h.instances

/-- The second synchronisation starts with the date that the schedule goes on with. -/
theorem startDue_eq : updated.startDue given asOf = plan.followingDue given asOf := by
  unfold PreventivePlan.startDue PreventivePlan.followingDue
  rw [h.nextDueAt_eq, h.rest_eq]
  by_cases hcount : plan.generationHorizonCount ≤ 1
  · rw [if_pos hcount, show max plan.generationHorizonCount 1 - 1 = 0 by omega]
    rfl
  · obtain ⟨count, hsucc⟩ : ∃ count, max plan.generationHorizonCount 1 - 1 = count + 1 :=
      ⟨plan.generationHorizonCount - 2, by omega⟩
    rw [if_neg hcount, hsucc]
    rfl

theorem missingDates_saved :
    missingDates saved updated asOf = [plan.replannedDate given asOf] := by
  have hplanned : plannedDates saved updated = rest.map PreventivePlanInstance.dueAt := by
    rw [← h.plannedDates_saved, h.updated_frame]
    rfl
  have hcounts : updated.generationHorizonCount = plan.generationHorizonCount := by
    rw [h.updated_frame]
  unfold missingDates
  rw [hplanned, h.rest_eq, buildPlannedDueDates_eq h.updated_frequency, h.startDue_eq, hcounts]
  unfold PreventivePlan.followingDue PreventivePlan.replannedDate
  by_cases hcount : plan.generationHorizonCount ≤ 1
  · rw [if_pos hcount, if_pos hcount, show max plan.generationHorizonCount 1 = 1 by omega]
    simp [List.iterate]
  · obtain ⟨count, hsucc⟩ : ∃ count, plan.generationHorizonCount = count + 1 :=
      ⟨plan.generationHorizonCount - 1, by omega⟩
    rw [if_neg hcount, if_neg hcount, hsucc, show max (count + 1) 1 = count + 1 by omega]
    exact filter_iterate_succ (lt_dueAfter h.frequency) _ _

theorem ids_saved : saved.instances.ids = middle.instances.ids := by
  unfold Table.ids
  rw [h.rows_saved, List.map_map]
  apply List.map_congr_left
  intro old _
  rw [Function.comp_apply]
  split <;> rfl

theorem mem_saved {other : PreventivePlanInstance} (hother : other ∈ saved.instances.rows) :
    (other ∈ middle.instances.rows ∧ other.id ≠ row.id) ∨
      other = generatedInstance asOf (requestLink plan ids) (orderLink plan ids) row := by
  rw [h.rows_saved, List.mem_map] at hother
  obtain ⟨old, hold, rfl⟩ := hother
  by_cases hid : old.id = row.id
  · rw [if_pos hid, middle.instances.eq_of_key_eq hold h.row_mem.1 hid]
    exact Or.inr rfl
  · rw [if_neg hid]
    exact Or.inl ⟨hold, hid⟩

/-- The second synchronisation goes through when its date and its id are free. -/
theorem exists_replanned (hfits : ReplanFits store plan asOf ids) :
    ∃ next, syncInstances updated asOf ids.replannedId saved = .ok next := by
  obtain ⟨⟨hstart, hfree⟩, hid⟩ := hfits given h.instances h.due
  apply exists_synced h.updated_frequency
  constructor
  · rw [h.missingDates_saved, List.map_singleton, List.singleton_append, List.nodup_cons,
      h.ids_saved]
    refine ⟨fun htaken => hid ?_, middle.instances.nodup⟩
    obtain ⟨other, hother, hotherId, -⟩ := middle.instances.exists_of_mem_ids htaken
    rw [List.mem_append, ← hotherId]
    rcases ((h.synced.members other).mp hother).1 with hstored | ⟨due, hdue, rfl⟩
    · exact Or.inl (store.instances.mem_ids hstored)
    · exact Or.inr (List.mem_map_of_mem hdue)
  · intro due hdue other hother hof
    rw [h.missingDates_saved, List.mem_singleton] at hdue
    subst hdue
    have hof' : other.IsOf plan := by
      rw [h.updated_frame] at hof
      exact hof
    rcases h.mem_saved hother with ⟨hmiddle, hne⟩ | rfl
    · by_cases hplanned : other.status = .planned
      · -- The dates that remain planned are no longer missing.
        have hlisted : other ∈ listPlanned saved plan :=
          h.mem_listPlanned_saved.mpr ⟨mem_listPlanned.mpr
            ⟨hmiddle, hof'.1, hof'.2, hplanned⟩, hne⟩
        intro hdate
        have hmissing : plan.replannedDate given asOf ∈ missingDates saved updated asOf := by
          rw [h.missingDates_saved]
          exact List.mem_singleton_self _
        refine of_decide_eq_true (List.mem_filter.mp hmissing).2 ?_
        rw [← hdate, h.updated_frame]
        exact List.mem_map_of_mem hlisted
      · have hstored := (h.synced.mem_iff_of_not_planned
          (fun hplannedOf => hplanned hplannedOf.2.2)).mp hmiddle
        exact hfree other hstored hof' hplanned
    · change row.dueAt ≠ _
      rw [h.dueAt_eq]
      exact hstart.symm

end DueSaved

/-- A due instance is the first one of a schedule. -/
theorem StateSaved.exists_dueSaved {synced : PreventivePlan}
    (hsynced : SyncedTo plan asOf ids.plannedId store synced middle)
    (hsaved : StateSaved synced asOf ids middle worked updated saved)
    (hdue : (selectDueInstance middle synced asOf).isSome = true) :
    ∃ given row rest, selectDueInstance middle synced asOf = some row ∧
      DueSaved plan given asOf ids store middle worked updated saved row rest := by
  cases hsynced with
  | unscheduled hnone =>
      rw [selectDueInstance, if_neg (PreventivePlan.not_usesCalendarInstances hnone)] at hdue
      cases hdue
  | @scheduled given _ hgiven hrun =>
      have hsynced := synced_of_ok hrun
      have hfrequency := (PreventivePlan.instanceFrequency_eq_some hgiven).2
      obtain ⟨row, rest, hplanned, -⟩ := hsynced.exists_head hfrequency
      have hselected := hsynced.selectDueInstance hgiven hplanned
      have hplanDue : planDue store plan asOf = true := by
        by_contra hnot
        rw [hselected, if_neg hnot] at hdue
        cases hdue
      rw [if_pos hplanDue] at hselected
      obtain ⟨hmade, hupdated, hstate⟩ := hsaved
      rw [hselected] at hupdated hstate
      exact ⟨given, row, rest, hselected, hgiven, hsynced, hplanned, hplanDue, hmade, hupdated,
        hstate⟩

end ProjectManager.Maintenance
