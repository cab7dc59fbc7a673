import ProjectManager.Maintenance.Turns

/-! # All that the turn of a plan may do

A turn that returns has skipped the plan, or has made its work and saved its state. A
turn that raises leaves behind what it had saved until then.
-/

namespace ProjectManager.Maintenance

open Foundation

/-- The user may generate work for the plan, and the work is accepted. -/
def WorkAllowed (services : MaintenanceServices) (store : MaintenanceStore)
    (organization : String) (plan : PreventivePlan) (ids : TurnIds) : Prop :=
  services.userSession.hasScopePermission "maintenance" (scopeAnchorForPlan plan)
    "maintenance.manage" = true ∧ WorkAccepted services store organization plan ids

instance (services : MaintenanceServices) (store : MaintenanceStore) (organization : String)
    (plan : PreventivePlan) (ids : TurnIds) :
    Decidable (WorkAllowed services store organization plan ids) :=
  inferInstanceAs (Decidable (_ ∧ _))

variable {services : MaintenanceServices} {store next : MaintenanceStore} {organization : String}
  {plan : PreventivePlan} {ids : TurnIds} {asOf : Moment}

/-- The state of a plan saved after its work is made. -/
structure StateSaved (synced : PreventivePlan) (asOf : Moment) (ids : TurnIds)
    (middle worked : MaintenanceStore) (updated : PreventivePlan) (saved : MaintenanceStore) :
    Prop where
  made : WorkMade synced ids middle worked
  updated_eq : generatedPlan worked synced asOf (selectDueInstance middle synced asOf) = .ok updated
  saved_eq : saved = saveGeneration worked updated asOf (selectDueInstance middle synced asOf)
    (requestLink synced ids) (orderLink synced ids)

/-- The plan is synchronised once more when an instance of it was due. -/
inductive Replanned (dueInstance : Option PreventivePlanInstance) (updated : PreventivePlan)
    (asOf : Moment) (ids : TurnIds) (saved : MaintenanceStore) : MaintenanceStore → Prop
  | unscheduled (h : dueInstance = none) : Replanned dueInstance updated asOf ids saved saved
  | scheduled {replanned : PreventivePlan} {next : MaintenanceStore}
      (h : dueInstance.isSome = true)
      (hsynced : SyncedTo updated asOf ids.replannedId saved replanned next) :
      Replanned dueInstance updated asOf ids saved next

inductive TurnReturns (services : MaintenanceServices) (store : MaintenanceStore)
    (plan : PreventivePlan) (asOf : Moment) (ids : TurnIds) : MaintenanceStore → Prop
  | skipped {synced : PreventivePlan} {middle : MaintenanceStore}
      (hsynced : SyncedTo plan asOf ids.plannedId store synced middle)
      (h : ¬ GeneratesWork store plan asOf) : TurnReturns services store plan asOf ids middle
  | generated {synced updated : PreventivePlan}
      {middle worked saved scheduled next : MaintenanceStore}
      (hsynced : SyncedTo plan asOf ids.plannedId store synced middle)
      (h : GeneratesWork store plan asOf)
      (hallowed : WorkAllowed services store plan.organizationId plan ids)
      (hsaved : StateSaved synced asOf ids middle worked updated saved)
      (hreplanned : Replanned (selectDueInstance middle synced asOf) updated asOf ids saved scheduled)
      (htasks : next = { scheduled with planTasks := next.planTasks }) :
      TurnReturns services store plan asOf ids next

inductive TurnRaises (services : MaintenanceServices) (store : MaintenanceStore)
    (plan : PreventivePlan) (asOf : Moment) (ids : TurnIds) : MaintenanceStore → Prop
  | refused : TurnRaises services store plan asOf ids store
  | denied {synced : PreventivePlan} {middle : MaintenanceStore}
      (hsynced : SyncedTo plan asOf ids.plannedId store synced middle)
      (h : GeneratesWork store plan asOf)
      (hallowed : ¬ WorkAllowed services store plan.organizationId plan ids) :
      TurnRaises services store plan asOf ids middle
  | incomplete {synced : PreventivePlan} {middle worked : MaintenanceStore}
      (hsynced : SyncedTo plan asOf ids.plannedId store synced middle)
      (h : GeneratesWork store plan asOf)
      (hallowed : WorkAllowed services store plan.organizationId plan ids)
      (hmade : WorkMade synced ids middle worked)
      (hunfit : ¬ (plan.autoGenerateWorkOrder = true →
          PackageFits services store plan.organizationId ids.package (dueTasks store plan asOf)
            ids.workId) ∨ ¬ plan.CounterEnds store) :
      TurnRaises services store plan asOf ids worked
  | unplanned {synced updated : PreventivePlan} {middle worked saved : MaintenanceStore}
      (hsynced : SyncedTo plan asOf ids.plannedId store synced middle)
      (h : GeneratesWork store plan asOf)
      (hallowed : WorkAllowed services store plan.organizationId plan ids)
      (hsaved : StateSaved synced asOf ids middle worked updated saved)
      (hdue : (selectDueInstance middle synced asOf).isSome = true)
      (hrefused : ∃ e, syncInstances updated asOf ids.replannedId saved = .error e) :
      TurnRaises services store plan asOf ids saved
  | uncounted {synced updated : PreventivePlan}
      {middle worked saved scheduled next : MaintenanceStore} {planTask : PreventivePlanTask}
      (hsynced : SyncedTo plan asOf ids.plannedId store synced middle)
      (h : GeneratesWork store plan asOf)
      (hallowed : WorkAllowed services store plan.organizationId plan ids)
      (hsaved : StateSaved synced asOf ids middle worked updated saved)
      (hreplanned : Replanned (selectDueInstance middle synced asOf) updated asOf ids saved scheduled)
      (htasks : next = { scheduled with planTasks := next.planTasks })
      (hmem : planTask ∈ dueTasks store plan asOf) (hends : ¬ planTask.CounterEnds store) :
      TurnRaises services store plan asOf ids next

/-- What holds across every part of a turn. -/
structure PartsKeep (plan : PreventivePlan) (asOf : Moment) (ids : TurnIds)
    (kept : MaintenanceStore → MaintenanceStore → Prop) : Prop where
  refl : ∀ store, kept store store
  trans : ∀ {store middle next}, kept store middle → kept middle next → kept store next
  synced : ∀ {store synced middle}, SyncedTo plan asOf ids.plannedId store synced middle →
    kept store middle
  made : ∀ {store synced middle worked}, SyncedTo plan asOf ids.plannedId store synced middle →
    WorkMade synced ids middle worked → kept middle worked
  saved : ∀ {store synced middle worked updated saved},
    SyncedTo plan asOf ids.plannedId store synced middle →
      StateSaved synced asOf ids middle worked updated saved → kept middle saved
  replanned : ∀ {store synced middle worked updated saved replanned next},
    SyncedTo plan asOf ids.plannedId store synced middle →
      StateSaved synced asOf ids middle worked updated saved →
        SyncedTo updated asOf ids.replannedId saved replanned next → kept saved next
  tasks : ∀ {store next : MaintenanceStore}, next = { store with planTasks := next.planTasks } →
    kept store next

theorem PartsKeep.generated {kept : MaintenanceStore → MaintenanceStore → Prop}
    (h : PartsKeep plan asOf ids kept) {synced updated : PreventivePlan}
    {middle worked saved scheduled : MaintenanceStore}
    (hsynced : SyncedTo plan asOf ids.plannedId store synced middle)
    (hsaved : StateSaved synced asOf ids middle worked updated saved)
    (hreplanned : Replanned (selectDueInstance middle synced asOf) updated asOf ids saved scheduled)
    (htasks : next = { scheduled with planTasks := next.planTasks }) : kept store next := by
  have hscheduled : kept saved scheduled := by
    cases hreplanned with
    | unscheduled => exact h.refl saved
    | scheduled _ hagain => exact h.replanned hsynced hsaved hagain
  exact h.trans (h.trans (h.synced hsynced) (h.saved hsynced hsaved))
    (h.trans hscheduled (h.tasks htasks))

theorem TurnReturns.kept {kept : MaintenanceStore → MaintenanceStore → Prop}
    (hturn : TurnReturns services store plan asOf ids next) (h : PartsKeep plan asOf ids kept) :
    kept store next := by
  cases hturn with
  | skipped hsynced => exact h.synced hsynced
  | generated hsynced _ _ hsaved hreplanned htasks =>
      exact h.generated hsynced hsaved hreplanned htasks

theorem TurnRaises.kept {kept : MaintenanceStore → MaintenanceStore → Prop}
    (hturn : TurnRaises services store plan asOf ids next) (h : PartsKeep plan asOf ids kept) :
    kept store next := by
  cases hturn with
  | refused => exact h.refl store
  | denied hsynced => exact h.synced hsynced
  | incomplete hsynced _ _ hmade => exact h.trans (h.synced hsynced) (h.made hsynced hmade)
  | unplanned hsynced _ _ hsaved => exact h.trans (h.synced hsynced) (h.saved hsynced hsaved)
  | uncounted hsynced _ _ hsaved hreplanned htasks =>
      exact h.generated hsynced hsaved hreplanned htasks

/-! ## What a synchronisation does not decide -/

namespace SyncedTo

variable {newId : Moment → String} {synced : PreventivePlan} {middle : MaintenanceStore}
  (h : SyncedTo plan asOf newId store synced middle)

include h

theorem organizationId_eq : synced.organizationId = plan.organizationId := by
  obtain ⟨⟨_, rfl⟩, -⟩ := h.frame
  rfl

theorem workAccepted_iff : WorkAccepted services middle organization synced ids ↔
    WorkAccepted services store organization plan ids := by
  obtain ⟨⟨_, rfl⟩, hmiddle⟩ := h.frame
  rw [hmiddle]
  rfl

theorem scopeAnchorForPlan_eq : scopeAnchorForPlan synced = scopeAnchorForPlan plan := by
  obtain ⟨⟨_, rfl⟩, -⟩ := h.frame
  rfl

theorem packageFits_iff {packageIds : PackageIds} {planTasks : List PreventivePlanTask}
    {workOrderId : String} :
    PackageFits services middle organization packageIds planTasks workOrderId ↔
      PackageFits services store organization packageIds planTasks workOrderId := by
  rw [h.frame.2]
  rfl

theorem counterEnds_iff {worked : MaintenanceStore} (hmade : WorkMade synced ids middle worked) :
    synced.CounterEnds worked ↔ plan.CounterEnds store := by
  obtain ⟨⟨_, rfl⟩, hmiddle⟩ := h.frame
  rw [hmade.frame, hmiddle]
  rfl

end SyncedTo

/-! ## The outcome of a turn -/

/-- The sensors stay as they are until the states of the tasks are saved. -/
theorem StateSaved.sensors_eq {synced updated : PreventivePlan}
    {middle worked saved scheduled : MaintenanceStore} {newId : Moment → String}
    (hsynced : SyncedTo plan asOf newId store synced middle)
    (hsaved : StateSaved synced asOf ids middle worked updated saved)
    (hreplanned : Replanned (selectDueInstance middle synced asOf) updated asOf ids saved
      scheduled) : scheduled.sensors = store.sensors := by
  have hmiddle : middle.sensors = store.sensors := by rw [hsynced.frame.2]
  have hworked : worked.sensors = middle.sensors := by rw [hsaved.made.frame]
  have hstate : saved.sensors = worked.sensors := by
    rw [hsaved.saved_eq]
    unfold saveGeneration
    cases selectDueInstance middle synced asOf <;> rfl
  have hscheduled : scheduled.sensors = saved.sensors := by
    cases hreplanned with
    | unscheduled => rfl
    | scheduled _ hagain => rw [hagain.frame.2]
  rw [hscheduled, hstate, hworked, hmiddle]

theorem generateCandidate_settles {synced : PreventivePlan} {middle : MaintenanceStore}
    (hmanages : Manages services plan.organizationId)
    (hsynced : SyncedTo plan asOf ids.plannedId store synced middle)
    (hdue : (buildCandidate middle synced asOf).dueState = .due)
    (hscope : services.userSession.hasScopePermission "maintenance" (scopeAnchorForPlan plan)
      "maintenance.manage" = true) :
    (generateCandidate services plan.organizationId synced (buildCandidate middle synced asOf) asOf
        ids).Settles middle
      (fun _ => TurnReturns services store plan asOf ids)
      fun _ => TurnRaises services store plan asOf ids := by
  have hgenerates := hsynced.buildCandidate_due_iff.mp hdue
  have htasks := selectedPlanTasks_eq hdue
  rw [hsynced.organizationId_eq, hsynced.candidateTasks_eq] at htasks
  apply Program.Settles.bind
  rw [Program.settles_read]
  apply Program.Settles.bind
  rw [Program.settles_read, htasks]
  apply Program.Settles.bind
  refine (generateWork_settles hmanages hsynced.organizationId_eq).mono ?_ ?_
  · rintro result worked ⟨haccepted, hmade, horder, hrequest⟩
    have hallowed : WorkAllowed services store plan.organizationId plan ids :=
      ⟨hscope, hsynced.workAccepted_iff.mp haccepted⟩
    rw [horder, hrequest]
    apply Program.Settles.bind
    refine applyPlanGenerationState_settles.mono ?_ ?_
    · rintro _ scheduled ⟨updated, hupdated, hunscheduled, hscheduled⟩
      have hsaved : StateSaved synced asOf ids middle worked updated
          (saveGeneration worked updated asOf (selectDueInstance middle synced asOf)
            (requestLink synced ids) (orderLink synced ids)) := ⟨hmade, hupdated, rfl⟩
      have hreplanned : Replanned (selectDueInstance middle synced asOf) updated asOf ids
          (saveGeneration worked updated asOf (selectDueInstance middle synced asOf)
            (requestLink synced ids) (orderLink synced ids)) scheduled := by
        by_cases hnone : selectDueInstance middle synced asOf = none
        · rw [hunscheduled hnone]
          exact .unscheduled hnone
        · have hsome := Option.isSome_iff_ne_none.mpr hnone
          obtain ⟨replanned, hagain⟩ := hscheduled hsome
          exact .scheduled hsome hagain
      apply Program.Settles.bind
      refine applyPlanTaskGenerationState_settles.mono ?_ ?_
      · intro _ next hnext
        exact Program.settles_pure.mpr
          (.generated hsynced hgenerates hallowed hsaved hreplanned hnext)
      · rintro e next ⟨hnext, planTask, hmem, hends⟩
        refine .uncounted hsynced hgenerates hallowed hsaved hreplanned hnext hmem fun hcounts => ?_
        apply hends
        unfold PreventivePlanTask.CounterEnds CounterEnds linkedSensor at hcounts ⊢
        rw [hsaved.sensors_eq hsynced hreplanned]
        exact hcounts
    · rintro e next (⟨hends, rfl⟩ | ⟨updated, hupdated, rfl, hsome, -, hrefused⟩)
      · exact .incomplete hsynced hgenerates hallowed hmade
          (Or.inr fun hcounts => hends ((hsynced.counterEnds_iff hmade).mpr hcounts))
      · exact .unplanned hsynced hgenerates hallowed ⟨hmade, hupdated, rfl⟩ hsome hrefused
  · rintro e next (⟨hrefused, rfl⟩ | ⟨haccepted, hmade, hunfit⟩)
    · exact .denied hsynced hgenerates fun hallowed =>
        hrefused (hsynced.workAccepted_iff.mpr hallowed.2)
    · refine .incomplete hsynced hgenerates ⟨hscope, hsynced.workAccepted_iff.mp haccepted⟩ hmade
        (Or.inl fun hfits => hunfit fun hauto => hsynced.packageFits_iff.mpr (hfits ?_))
      obtain ⟨⟨_, rfl⟩, -⟩ := hsynced.frame
      exact hauto

theorem planTurn_settles (hmanages : Manages services plan.organizationId) :
    (planTurn services plan.organizationId asOf plan ids).Settles store
      (fun _ => TurnReturns services store plan asOf ids)
      fun _ => TurnRaises services store plan asOf ids := by
  apply Program.Settles.bind
  refine syncCalendarPlanInstances_settles.mono ?_ ?_
  · intro synced middle hsynced
    apply Program.Settles.bind
    rw [Program.settles_read]
    by_cases hdue : (buildCandidate middle synced asOf).dueState = .due
    · rw [if_pos hdue]
      apply Program.Settles.bind
      rw [Program.settles_check]
      constructor
      · intro _ hpermitted
        have hscope := ensure_eq_ok.mp hpermitted
        rw [hsynced.scopeAnchorForPlan_eq] at hscope
        exact generateCandidate_settles hmanages hsynced hdue hscope
      · intro e hdenied
        refine .denied hsynced (hsynced.buildCandidate_due_iff.mp hdue) fun hallowed => ?_
        exact (ensure_eq_error.mp hdenied).1 (hsynced.scopeAnchorForPlan_eq ▸ hallowed.1)
    · rw [if_neg hdue]
      exact Program.settles_pure.mpr
        (.skipped hsynced fun h => hdue (hsynced.buildCandidate_due_iff.mpr h))
  · rintro e next ⟨rfl, -⟩
    exact .refused

end ProjectManager.Maintenance
