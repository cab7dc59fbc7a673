import ProjectManager.Maintenance.Replanning

/-! # Other plans

The turn of a plan leaves the rows and the instances of all other plans alone.
-/

namespace ProjectManager.Maintenance

open Foundation

structure OtherPlansKept (plan : PreventivePlan) (store next : MaintenanceStore) : Prop where
  plans : ∀ row : PreventivePlan, row.id ≠ plan.id →
    (row ∈ next.plans.rows ↔ row ∈ store.plans.rows)
  instances : ∀ row : PreventivePlanInstance, ¬ row.IsOf plan →
    (row ∈ next.instances.rows ↔ row ∈ store.instances.rows)

variable {store middle worked saved next : MaintenanceStore} {plan synced updated : PreventivePlan}
  {ids : TurnIds} {asOf : Moment} {services : MaintenanceServices}

namespace OtherPlansKept

theorem refl (plan : PreventivePlan) (store : MaintenanceStore) : OtherPlansKept plan store store :=
  ⟨fun _ _ => Iff.rfl, fun _ _ => Iff.rfl⟩

theorem trans (hfirst : OtherPlansKept plan store middle) (hsecond : OtherPlansKept plan middle next) :
    OtherPlansKept plan store next :=
  ⟨fun row hrow => (hsecond.plans row hrow).trans (hfirst.plans row hrow),
    fun row hrow => (hsecond.instances row hrow).trans (hfirst.instances row hrow)⟩

theorem congr (h : OtherPlansKept synced store next) (hid : synced.id = plan.id)
    (horganization : synced.organizationId = plan.organizationId) :
    OtherPlansKept plan store next := by
  refine ⟨fun row hrow => h.plans row (hid ▸ hrow), fun row hrow => h.instances row ?_⟩
  unfold PreventivePlanInstance.IsOf
  rw [hid, horganization]
  exact hrow

theorem of_eq (hplans : next.plans = store.plans) (hinstances : next.instances = store.instances) :
    OtherPlansKept plan store next := by
  constructor
  · rw [hplans]
    exact fun _ _ => Iff.rfl
  · rw [hinstances]
    exact fun _ _ => Iff.rfl

end OtherPlansKept

theorem mem_update_other {plans : Table PreventivePlan.id} {row other : PreventivePlan}
    (h : other.id ≠ row.id) : other ∈ (plans.update row).rows ↔ other ∈ plans.rows := by
  rw [Table.mem_update_iff]
  constructor
  · rintro (⟨rfl, -⟩ | ⟨hmem, -⟩)
    · exact absurd rfl h
    · exact hmem
  · exact fun hmem => Or.inr ⟨hmem, h⟩

theorem SyncedTo.otherPlansKept {newId : Moment → String}
    (h : SyncedTo plan asOf newId store synced next) : OtherPlansKept plan store next := by
  cases h with
  | unscheduled => exact .refl plan store
  | scheduled _ hrun =>
      have hsynced := synced_of_ok hrun
      constructor
      · intro row hrow
        rw [hsynced.frame]
        exact mem_update_other hrow
      · intro row hrow
        exact hsynced.mem_iff_of_not_planned fun hplanned => hrow hplanned.isOf

theorem WorkMade.otherPlansKept (h : WorkMade synced ids store next) :
    OtherPlansKept plan store next := by
  apply OtherPlansKept.of_eq
  · rw [h.frame]
  · rw [h.frame]

theorem generatedPlan_id {dueInstance : Option PreventivePlanInstance}
    (h : generatedPlan store plan asOf dueInstance = .ok updated) :
    updated.id = plan.id ∧ updated.organizationId = plan.organizationId := by
  obtain ⟨counter, -, hupdated⟩ := bind_ok h
  obtain rfl := Except.ok.inj hupdated
  exact ⟨rfl, rfl⟩

theorem StateSaved.plans_eq (h : StateSaved synced asOf ids middle worked updated saved) :
    saved.plans = middle.plans.update updated := by
  have hworked : worked.plans = middle.plans := by rw [h.made.frame]
  rw [h.saved_eq, ← hworked]
  unfold saveGeneration
  cases selectDueInstance middle synced asOf <;> rfl

theorem StateSaved.otherPlansKept
    (hsynced : SyncedTo plan asOf ids.plannedId store synced middle)
    (h : StateSaved synced asOf ids middle worked updated saved) :
    OtherPlansKept plan middle saved := by
  obtain ⟨hid, -⟩ := generatedPlan_id h.updated_eq
  have hsyncedId : synced.id = plan.id := by
    obtain ⟨⟨_, rfl⟩, -⟩ := hsynced.frame
    rfl
  constructor
  · intro row hrow
    rw [h.plans_eq]
    exact mem_update_other (hid.trans hsyncedId ▸ hrow)
  · intro other hother
    by_cases hdue : (selectDueInstance middle synced asOf).isSome = true
    · obtain ⟨given, row, rest, -, hsaved⟩ := h.exists_dueSaved hsynced hdue
      rw [hsaved.rows_saved, List.mem_map]
      constructor
      · rintro ⟨old, hold, rfl⟩
        by_cases hold' : old.id = row.id
        · rw [if_pos hold', middle.instances.eq_of_key_eq hold hsaved.row_mem.1 hold'] at hother
          exact absurd hsaved.row_mem.2.isOf hother
        · rwa [if_neg hold']
      · intro hmem
        refine ⟨other, hmem, if_neg fun hsame => hother ?_⟩
        rw [middle.instances.eq_of_key_eq hmem hsaved.row_mem.1 hsame]
        exact hsaved.row_mem.2.isOf
    · rw [h.saved_eq, Option.not_isSome_iff_eq_none.mp hdue]
      change other ∈ worked.instances.rows ↔ _
      rw [h.made.frame]

theorem StateSaved.updated_id (hsynced : SyncedTo plan asOf ids.plannedId store synced middle)
    (h : StateSaved synced asOf ids middle worked updated saved) :
    updated.id = plan.id ∧ updated.organizationId = plan.organizationId := by
  obtain ⟨hid, horganization⟩ := generatedPlan_id h.updated_eq
  obtain ⟨⟨_, rfl⟩, -⟩ := hsynced.frame
  exact ⟨hid, horganization⟩

theorem partsKeep_otherPlans (plan : PreventivePlan) (asOf : Moment) (ids : TurnIds) :
    PartsKeep plan asOf ids (OtherPlansKept plan) where
  refl := .refl plan
  trans := .trans
  synced hsynced := hsynced.otherPlansKept
  made _ hmade := hmade.otherPlansKept
  saved hsynced hsaved := hsaved.otherPlansKept hsynced
  replanned hsynced hsaved hagain := by
    obtain ⟨hid, horganization⟩ := hsaved.updated_id hsynced
    exact hagain.otherPlansKept.congr hid horganization
  tasks htasks := by
    apply OtherPlansKept.of_eq
    · rw [htasks]
    · rw [htasks]

theorem TurnReturns.otherPlansKept (h : TurnReturns services store plan asOf ids next) :
    OtherPlansKept plan store next :=
  h.kept (partsKeep_otherPlans plan asOf ids)

theorem TurnRaises.otherPlansKept (h : TurnRaises services store plan asOf ids next) :
    OtherPlansKept plan store next :=
  h.kept (partsKeep_otherPlans plan asOf ids)

end ProjectManager.Maintenance
