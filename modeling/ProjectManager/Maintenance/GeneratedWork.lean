import ProjectManager.Maintenance.DueWork
import ProjectManager.Maintenance.PackageFits

/-! # Work that is generated for a plan

The order or the request of a plan is accepted when its site and its references are
there, its code is free, and the database takes the row. A refusal writes nothing.
-/

namespace ProjectManager.Maintenance

open Foundation

section

variable (services : MaintenanceServices) (store : MaintenanceStore) (organization : String)
  (plan : PreventivePlan) (ids : TurnIds)

/-- The site and the references of a plan are there. -/
def PlacesFit (subject : Subject) : Prop :=
  (getSite store organization plan.siteId).isOk = true ∧
    (resolveContextReferences store organization subject plan.siteId plan.context).isOk = true

def generatedCode (suffix : String) : String :=
  upper (strip (buildGeneratedCode plan.planCode suffix ids.token))

def OrderAccepted : Prop :=
  PlacesFit store organization plan workOrderSubject ∧
    (generatedCode plan ids "WO" ≠ "" ∧
      findWorkOrder store organization (generatedCode plan ids "WO") = none) ∧
    ids.workId ∉ store.orders.ids ∧ services.refuses ids.workId = none

def RequestAccepted : Prop :=
  (PlacesFit store organization plan workRequestSubject ∧ strip plan.id ≠ "") ∧
    (generatedCode plan ids "WR" ≠ "" ∧
      findWorkRequest store organization (generatedCode plan ids "WR") = none) ∧
    ids.workId ∉ store.requests.ids ∧ services.refuses ids.workId = none

instance (subject : Subject) : Decidable (PlacesFit store organization plan subject) :=
  inferInstanceAs (Decidable (_ ∧ _))

instance : Decidable (OrderAccepted services store organization plan ids) :=
  inferInstanceAs (Decidable (_ ∧ (_ ∧ _) ∧ _ ∧ _))

instance : Decidable (RequestAccepted services store organization plan ids) :=
  inferInstanceAs (Decidable ((_ ∧ _) ∧ (_ ∧ _) ∧ _ ∧ _))

end

variable {services : MaintenanceServices} {store next : MaintenanceStore} {organization : String}
  {plan : PreventivePlan} {ids : TurnIds} {candidate : DueCandidate} {asOf : Moment}

theorem getSite_id {site : Site} {siteId : String} (h : getSite store organization siteId = .ok site) :
    site.id = siteId := by
  obtain ⟨hfound, -⟩ := Option.filter_eq_some_iff.mp (require_eq_ok.mp h)
  exact (store.sites.get?_eq_some hfound).2

/-! ## Orders -/

theorem coerceWorkOrderType_plan (planType : PlanType) :
    ∃ workOrderType, coerceWorkOrderType (some (.text (mapPlanToWorkOrderType planType))) =
      .ok workOrderType := by
  apply isOk_iff.mp
  cases planType <;> decide +kernel

theorem normalizeMaintenanceCode_preventive :
    normalizeMaintenanceCode "PREVENTIVE_PLAN" "Source type" = .ok "PREVENTIVE_PLAN" := by
  decide +kernel

theorem prepareWorkOrder_generated {order : WorkOrder} {request : Option WorkRequest}
    (hmanages : Manages services organization)
    (h : prepareWorkOrder services store (generatedOrderArguments plan candidate asOf ids) =
      .ok (order, request)) :
    (PlacesFit store organization plan workOrderSubject ∧
      generatedCode plan ids "WO" ≠ "" ∧
        findWorkOrder store organization (generatedCode plan ids "WO") = none) ∧
      request = none ∧ order.id = ids.workId ∧ order.organizationId = organization ∧
        order.status = .draft ∧ order.sourceType = "PREVENTIVE_PLAN" := by
  obtain ⟨_, -, h⟩ := bind_ok h
  obtain ⟨active, hactive, h⟩ := bind_ok h
  obtain rfl : organization = active :=
    Except.ok.inj (hmanages.organization_eq.symm.trans hactive)
  obtain ⟨site, hsite, h⟩ := bind_ok h
  obtain ⟨code, hcode, h⟩ := bind_ok h
  obtain ⟨_, -, h⟩ := bind_ok h
  obtain ⟨sourceType, hsource, h⟩ := bind_ok h
  obtain rfl : "PREVENTIVE_PLAN" = sourceType :=
    Except.ok.inj (normalizeMaintenanceCode_preventive.symm.trans hsource)
  obtain ⟨_, hfree, h⟩ := bind_ok h
  obtain ⟨given, hgiven, h⟩ := bind_ok h
  obtain rfl : none = given := Except.ok.inj hgiven
  obtain ⟨context, hcontext, h⟩ := bind_ok h
  obtain ⟨_, -, h⟩ := bind_ok h
  obtain ⟨rfl, rfl⟩ := Prod.mk.inj (Except.ok.inj h)
  obtain ⟨hne, rfl⟩ := normalizeMaintenanceCode_eq_ok.mp hcode
  rw [getSite_id hsite] at hcontext
  refine ⟨⟨⟨isOk_iff.mpr ⟨_, hsite⟩, isOk_iff.mpr ⟨_, hcontext⟩⟩, hne, ensure_eq_ok.mp hfree⟩,
    rfl, rfl, rfl, rfl, rfl⟩

theorem exists_prepareWorkOrder (candidate : DueCandidate) (asOf : Moment)
    (hmanages : Manages services organization)
    (h : OrderAccepted services store organization plan ids) :
    ∃ order, prepareWorkOrder services store (generatedOrderArguments plan candidate asOf ids) =
      .ok (order, none) := by
  obtain ⟨⟨hsite, hcontext⟩, ⟨hne, hfree⟩, -⟩ := h
  obtain ⟨site, hsite⟩ := isOk_iff.mp hsite
  obtain ⟨context, hcontext⟩ := isOk_iff.mp hcontext
  obtain ⟨workOrderType, htype⟩ := coerceWorkOrderType_plan plan.planType
  rw [← getSite_id hsite] at hcontext
  exact ⟨_, bind_eq_ok.mpr ⟨_, hmanages.requireManage _, bind_eq_ok.mpr
    ⟨_, hmanages.organization_eq, bind_eq_ok.mpr ⟨_, hsite, bind_eq_ok.mpr
    ⟨_, normalizeMaintenanceCode_eq_ok.mpr ⟨hne, rfl⟩, bind_eq_ok.mpr ⟨_, htype, bind_eq_ok.mpr
    ⟨_, normalizeMaintenanceCode_preventive, bind_eq_ok.mpr ⟨(), ensure_eq_ok.mpr hfree,
    bind_eq_ok.mpr ⟨none, rfl, bind_eq_ok.mpr ⟨_, hcontext, bind_eq_ok.mpr
    ⟨plan.priority, rfl, rfl⟩⟩⟩⟩⟩⟩⟩⟩⟩⟩⟩

/-- The order of a plan is written alone, or nothing is. -/
theorem createWorkOrder_settles (candidate : DueCandidate) (asOf : Moment)
    (hmanages : Manages services organization) :
    (createWorkOrder services (generatedOrderArguments plan candidate asOf ids)).Settles store
      (fun order next => OrderAccepted services store organization plan ids ∧
        (order.id = ids.workId ∧ order.organizationId = organization ∧ order.status = .draft ∧
          order.sourceType = "PREVENTIVE_PLAN") ∧
          next = { store with orders := store.orders.insert order })
      fun _ next => ¬ OrderAccepted services store organization plan ids ∧ next = store := by
  apply Program.Settles.bind
  rw [Program.settles_transact]
  constructor
  · rintro ⟨order, request⟩ hprepared
    obtain ⟨⟨hplaces, hcode⟩, rfl, hid, hfields⟩ :=
      prepareWorkOrder_generated hmanages hprepared
    have hinsert : insertWorkOrder services store order none =
        services.save workOrderCodeExists store.orders.ids order.id >>= fun _ =>
          .ok { store with orders := store.orders.insert order } := rfl
    rw [hinsert, hid]
    constructor
    · intro next hsaved
      obtain ⟨_, hsave, hnext⟩ := bind_ok hsaved
      cases hnext
      apply Program.Settles.bind
      unfold applyRequestSourceWorkPackage
      apply Program.Settles.bind
      rw [Program.settles_read]
      exact Program.settles_pure.mpr (Program.settles_pure.mpr
        ⟨⟨hplaces, hcode, save_eq_ok.mp hsave⟩, ⟨hid, hfields⟩, rfl⟩)
    · intro e hrefused
      refine ⟨fun haccepted => ?_, rfl⟩
      have hsave : services.save workOrderCodeExists store.orders.ids ids.workId = .ok () :=
        save_eq_ok.mpr haccepted.2.2
      rw [hsave] at hrefused
      cases hrefused
  · intro e hrefused
    refine ⟨fun haccepted => ?_, rfl⟩
    obtain ⟨order, hprepared⟩ := exists_prepareWorkOrder candidate asOf hmanages haccepted
    rw [hprepared] at hrefused
    cases hrefused

/-! ## Requests -/

theorem coerceWorkRequestSourceType_plan :
    coerceWorkRequestSourceType (some (.text "PREVENTIVE_PLAN")) = .ok .preventivePlan := by
  decide +kernel

theorem normalizeMaintenanceName_planType (planType : PlanType) :
    ∃ requestType, normalizeMaintenanceName planType.value "Request type" = .ok requestType := by
  apply isOk_iff.mp
  cases planType <;> decide +kernel

theorem normalizeFailureSymptomCode_blank :
    normalizeFailureSymptomCode store organization "" = .ok "" := by
  have hblank : upper (strip "") = "" := by decide +kernel
  unfold normalizeFailureSymptomCode
  rw [hblank]
  rfl

theorem normalizeReference_eq_none {value : String} :
    normalizeReference (some value) = none ↔ strip value = "" := by
  unfold normalizeReference
  rw [Option.filter_eq_none_iff]
  simp

theorem prepareWorkRequest_generated {planTasks : List PreventivePlanTask} {request : WorkRequest}
    (hmanages : Manages services organization)
    (h : prepareWorkRequest services store
      (generatedRequestArguments plan candidate asOf planTasks ids) = .ok request) :
    ((PlacesFit store organization plan workRequestSubject ∧ strip plan.id ≠ "") ∧
      generatedCode plan ids "WR" ≠ "" ∧
        findWorkRequest store organization (generatedCode plan ids "WR") = none) ∧
      request.id = ids.workId ∧ request.status = .new := by
  obtain ⟨_, -, h⟩ := bind_ok h
  obtain ⟨active, hactive, h⟩ := bind_ok h
  obtain rfl : organization = active :=
    Except.ok.inj (hmanages.organization_eq.symm.trans hactive)
  obtain ⟨site, hsite, h⟩ := bind_ok h
  obtain ⟨code, hcode, h⟩ := bind_ok h
  obtain ⟨sourceType, hsource, h⟩ := bind_ok h
  obtain rfl : .preventivePlan = sourceType :=
    Except.ok.inj (coerceWorkRequestSourceType_plan.symm.trans hsource)
  obtain ⟨_, -, h⟩ := bind_ok h
  obtain ⟨_, hfree, h⟩ := bind_ok h
  obtain ⟨_, hplan, h⟩ := bind_ok h
  obtain ⟨context, hcontext, h⟩ := bind_ok h
  iterate 2 obtain ⟨_, -, h⟩ := bind_ok h
  cases h
  obtain ⟨hne, rfl⟩ := normalizeMaintenanceCode_eq_ok.mp hcode
  rw [getSite_id hsite] at hcontext
  refine ⟨⟨⟨⟨isOk_iff.mpr ⟨_, hsite⟩, isOk_iff.mpr ⟨_, hcontext⟩⟩, ?_⟩, hne,
    ensure_eq_ok.mp hfree⟩, rfl, rfl⟩
  intro hblank
  exact ensure_eq_ok.mp hplan ⟨rfl, normalizeReference_eq_none.mpr hblank⟩

theorem exists_prepareWorkRequest (candidate : DueCandidate) (asOf : Moment)
    (planTasks : List PreventivePlanTask) (hmanages : Manages services organization)
    (h : RequestAccepted services store organization plan ids) :
    ∃ request, prepareWorkRequest services store
      (generatedRequestArguments plan candidate asOf planTasks ids) = .ok request := by
  obtain ⟨⟨⟨hsite, hcontext⟩, hplan⟩, ⟨hne, hfree⟩, -⟩ := h
  obtain ⟨site, hsite⟩ := isOk_iff.mp hsite
  obtain ⟨context, hcontext⟩ := isOk_iff.mp hcontext
  obtain ⟨requestType, htype⟩ := normalizeMaintenanceName_planType plan.planType
  rw [← getSite_id hsite] at hcontext
  exact ⟨_, bind_eq_ok.mpr ⟨_, hmanages.requireManage _, bind_eq_ok.mpr
    ⟨_, hmanages.organization_eq, bind_eq_ok.mpr ⟨_, hsite, bind_eq_ok.mpr
    ⟨_, normalizeMaintenanceCode_eq_ok.mpr ⟨hne, rfl⟩, bind_eq_ok.mpr
    ⟨_, coerceWorkRequestSourceType_plan, bind_eq_ok.mpr ⟨_, htype, bind_eq_ok.mpr
    ⟨(), ensure_eq_ok.mpr hfree, bind_eq_ok.mpr
    ⟨(), ensure_eq_ok.mpr fun hnone => hplan (normalizeReference_eq_none.mp hnone.2),
    bind_eq_ok.mpr ⟨_, hcontext, bind_eq_ok.mpr ⟨plan.priority, rfl, bind_eq_ok.mpr
    ⟨_, normalizeFailureSymptomCode_blank, rfl⟩⟩⟩⟩⟩⟩⟩⟩⟩⟩⟩⟩

/-- The request of a plan is written alone, or nothing is. -/
theorem createWorkRequest_settles (candidate : DueCandidate) (asOf : Moment)
    (planTasks : List PreventivePlanTask) (hmanages : Manages services organization) :
    (createWorkRequest services
        (generatedRequestArguments plan candidate asOf planTasks ids)).Settles store
      (fun request next => RequestAccepted services store organization plan ids ∧
        (request.id = ids.workId ∧ request.status = .new) ∧
          next = { store with requests := store.requests.insert request })
      fun _ next => ¬ RequestAccepted services store organization plan ids ∧ next = store := by
  unfold createWorkRequest
  rw [Program.settles_transact]
  constructor
  · intro request hprepared
    obtain ⟨⟨hplaces, hcode⟩, hid, hstatus⟩ := prepareWorkRequest_generated hmanages hprepared
    unfold insertWorkRequest
    rw [hid]
    constructor
    · intro next hsaved
      obtain ⟨_, hsave, hnext⟩ := bind_ok hsaved
      cases hnext
      exact ⟨⟨hplaces, hcode, save_eq_ok.mp hsave⟩, ⟨rfl, hstatus⟩, rfl⟩
    · intro e hrefused
      refine ⟨fun haccepted => ?_, rfl⟩
      have hsave : services.save workRequestCodeExists store.requests.ids ids.workId = .ok () :=
        save_eq_ok.mpr haccepted.2.2
      rw [hsave] at hrefused
      cases hrefused
  · intro e hrefused
    refine ⟨fun haccepted => ?_, rfl⟩
    obtain ⟨request, hprepared⟩ :=
      exists_prepareWorkRequest candidate asOf planTasks hmanages haccepted
    rw [hprepared] at hrefused
    cases hrefused

end ProjectManager.Maintenance
