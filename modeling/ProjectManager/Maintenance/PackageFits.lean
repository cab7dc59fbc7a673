import ProjectManager.Maintenance.WorkPackages

/-! # Packages that fit

A new work order is filled without a refusal when the templates of the tasks are
there and complete, when numbers and generated ids are distinct and new, and when
the database takes every row. All of this is decided by the store before.
-/

namespace ProjectManager.Maintenance

open Foundation

section

variable (services : MaintenanceServices) (store : MaintenanceStore) (organization : String)
  (ids : PackageIds)

def stepTemplatesOf (planTask : PreventivePlanTask) : List TaskStepTemplate :=
  activeStepTemplates store organization planTask.taskTemplateId

def newStepIds (planTask : PreventivePlanTask) : List String :=
  (stepTemplatesOf store organization planTask).map fun stepTemplate =>
    ids.stepId planTask.id stepTemplate.id

def StepFits (planTask : PreventivePlanTask) (stepTemplate : TaskStepTemplate) : Prop :=
  0 < stepTemplate.stepNumber ∧ strip stepTemplate.instruction ≠ "" ∧
    ids.stepId planTask.id stepTemplate.id ∉ store.taskSteps.ids ∧
      services.refuses (ids.stepId planTask.id stepTemplate.id) = none

def TaskFits (planTask : PreventivePlanTask) : Prop :=
  ∃ template ∈ (getTaskTemplate store organization planTask.taskTemplateId).toOption,
    (0 < planTask.sequenceNo ∧ strip template.name ≠ "" ∧
      ∀ minutes ∈ orMinutes planTask.estimatedMinutesOverride template.estimatedMinutes,
        0 ≤ minutes) ∧
    (ids.taskId planTask.id ∉ store.orderTasks.ids ∧
      services.refuses (ids.taskId planTask.id) = none) ∧
    stepsOfTask store organization (ids.taskId planTask.id) = [] ∧
    ((stepTemplatesOf store organization planTask).map TaskStepTemplate.stepNumber).Nodup ∧
    ∀ stepTemplate ∈ stepTemplatesOf store organization planTask,
      StepFits services store ids planTask stepTemplate

/-- The tasks can be made for a new order. -/
def PackageFits (planTasks : List PreventivePlanTask) (workOrderId : String) : Prop :=
  (∀ planTask ∈ planTasks, TaskFits services store organization ids planTask) ∧
    ((planTasks.map PreventivePlanTask.sequenceNo).Nodup ∧
      (planTasks.map fun planTask => ids.taskId planTask.id).Nodup ∧
        (planTasks.flatMap (newStepIds store organization ids)).Nodup) ∧
    tasksOfOrder store organization workOrderId = []

instance (planTask : PreventivePlanTask) (stepTemplate : TaskStepTemplate) :
    Decidable (StepFits services store ids planTask stepTemplate) :=
  inferInstanceAs (Decidable (_ ∧ _))

instance (planTask : PreventivePlanTask) :
    Decidable (TaskFits services store organization ids planTask) :=
  inferInstanceAs (Decidable (∃ _ ∈ _, (_ ∧ _ ∧ _) ∧ (_ ∧ _) ∧ _ ∧ _ ∧ _))

instance (planTasks : List PreventivePlanTask) (workOrderId : String) :
    Decidable (PackageFits services store organization ids planTasks workOrderId) :=
  inferInstanceAs (Decidable (_ ∧ _))

/-- The user may manage the maintenance of the organization. -/
structure Manages : Prop where
  permitted : services.userSession.hasPermission "maintenance.manage" = true
  active : services.activeOrganization = some organization

end

variable {services : MaintenanceServices} {store current next : MaintenanceStore}
  {organization : String} {ids : PackageIds} {plan : PreventivePlan}
  {planTask : PreventivePlanTask} {template : TaskTemplate}

theorem Manages.requireManage (h : Manages services organization) (operationLabel : String) :
    services.requireManage operationLabel = .ok () :=
  ensure_eq_ok.mpr h.permitted

theorem Manages.organization_eq (h : Manages services organization) :
    services.organization = .ok organization :=
  require_eq_ok.mpr h.active

theorem save_eq_ok {onIntegrity : DomainError} {taken : List String} {id : String} {u : Unit} :
    services.save onIntegrity taken id = .ok u ↔ id ∉ taken ∧ services.refuses id = none := by
  unfold MaintenanceServices.save
  rw [bind_eq_ok]
  constructor
  · rintro ⟨_, hnew, hsaved⟩
    refine ⟨ensure_eq_ok.mp hnew, ?_⟩
    cases hrefuses : services.refuses id with
    | none => rfl
    | some e =>
        rw [hrefuses] at hsaved
        cases hsaved
  · rintro ⟨hnew, hrefuses⟩
    exact ⟨(), ensure_eq_ok.mpr hnew, by rw [hrefuses]⟩

theorem normalizeMaintenanceName_of_ne {value : String} (h : strip value ≠ "") (label : String) :
    normalizeMaintenanceName value label = .ok (strip value) :=
  bind_eq_ok.mpr ⟨(), ensure_eq_ok.mpr h, rfl⟩

theorem coerceOptionalNonNegativeInt_of_le {value : Option ℤ} (h : ∀ given ∈ value, 0 ≤ given)
    (label : String) : coerceOptionalNonNegativeInt value label = .ok value :=
  bind_eq_ok.mpr ⟨(), ensure_eq_ok.mpr h, rfl⟩

theorem resolveNumber_of_pos {number : ℤ} (h : 0 < number) (existing : List ℤ)
    (error : DomainError) : resolveNumber (some number) existing error = .ok number :=
  bind_eq_ok.mpr ⟨(), ensure_eq_ok.mpr h, rfl⟩

/-! ## Tasks -/

/-- An order that can be changed. -/
structure Mutable (store : MaintenanceStore) (organization : String) (order : WorkOrder) :
    Prop where
  found : requireWorkOrder store organization order.id = .ok order
  status : order.status ∉ [WorkOrderStatus.cancelled, .closed]

theorem coerceTaskCompletionRule_package (stepTemplates : List TaskStepTemplate) :
    ∃ rule, coerceTaskCompletionRule (some (.text
      (if stepTemplates.isEmpty then "NO_STEPS_REQUIRED" else "ALL_STEPS_REQUIRED"))) = .ok rule := by
  cases stepTemplates.isEmpty
  · exact ⟨.allStepsRequired, by decide +kernel⟩
  · exact ⟨.noStepsRequired, by decide +kernel⟩

theorem prepareTask_package (plan : PreventivePlan) (ids : PackageIds)
    (stepTemplates : List TaskStepTemplate) {order : WorkOrder}
    (hmanages : Manages services organization) (horder : Mutable store organization order)
    (hnumber : 0 < planTask.sequenceNo) (hname : strip template.name ≠ "")
    (hminutes : ∀ minutes ∈ orMinutes planTask.estimatedMinutesOverride template.estimatedMinutes,
      0 ≤ minutes)
    (hfree : planTask.sequenceNo ∉
      (tasksOfOrder store organization order.id).map WorkOrderTask.sequenceNo) :
    ∃ row, prepareTask services store
        (packageTaskArguments plan planTask template stepTemplates order.id ids) = .ok row ∧
      (row.id = ids.taskId planTask.id ∧ row.sequenceNo = planTask.sequenceNo) ∧
        row.organizationId = organization ∧ row.workOrderId = order.id := by
  obtain ⟨rule, hrule⟩ := coerceTaskCompletionRule_package stepTemplates
  have hprepared : prepareTask services store
      (packageTaskArguments plan planTask template stepTemplates order.id ids) = .ok _ :=
    bind_eq_ok.mpr ⟨_, hmanages.requireManage _, bind_eq_ok.mpr
    ⟨_, hmanages.organization_eq, bind_eq_ok.mpr ⟨_, horder.found, bind_eq_ok.mpr
    ⟨(), ensure_eq_ok.mpr horder.status, bind_eq_ok.mpr ⟨_, resolveNumber_of_pos hnumber _ _,
    bind_eq_ok.mpr ⟨(), ensure_eq_ok.mpr hfree, bind_eq_ok.mpr
    ⟨_, normalizeMaintenanceName_of_ne hname _, bind_eq_ok.mpr
    ⟨_, coerceOptionalNonNegativeInt_of_le hminutes _, bind_eq_ok.mpr
    ⟨none, coerceOptionalNonNegativeInt_of_le
      (fun given h => absurd h (Option.not_mem_none given)) _, bind_eq_ok.mpr ⟨rule, hrule, rfl⟩⟩⟩⟩⟩⟩⟩⟩⟩⟩
  exact ⟨_, hprepared, ⟨rfl, rfl⟩, rfl, rfl⟩

/-! ## Steps -/

theorem prepareStep_package (template : TaskTemplate) (stepId : String) {order : WorkOrder}
    {task : WorkOrderTask} {stepTemplate : TaskStepTemplate}
    (hmanages : Manages services organization) (horder : Mutable store organization order)
    (htask : requireTask store organization task.id = .ok task) (hof : task.workOrderId = order.id)
    (hnumber : 0 < stepTemplate.stepNumber) (hinstruction : strip stepTemplate.instruction ≠ "")
    (hfree : stepTemplate.stepNumber ∉
      (stepsOfTask store organization task.id).map WorkOrderTaskStep.stepNumber) :
    ∃ row, prepareStep services store
        (packageStepArguments template stepTemplate task.id stepId) = .ok row ∧
      row.id = stepId ∧ row.stepNumber = stepTemplate.stepNumber ∧
        row.workOrderTaskId = task.id := by
  have hprepared : prepareStep services store
      (packageStepArguments template stepTemplate task.id stepId) = .ok _ :=
    bind_eq_ok.mpr ⟨_, hmanages.requireManage _, bind_eq_ok.mpr
    ⟨_, hmanages.organization_eq, bind_eq_ok.mpr ⟨_, htask, bind_eq_ok.mpr
    ⟨_, hof ▸ horder.found, bind_eq_ok.mpr ⟨(), ensure_eq_ok.mpr horder.status, bind_eq_ok.mpr
    ⟨_, resolveNumber_of_pos hnumber _ _, bind_eq_ok.mpr ⟨(), ensure_eq_ok.mpr hfree,
    bind_eq_ok.mpr ⟨_, normalizeMaintenanceName_of_ne hinstruction _, rfl⟩⟩⟩⟩⟩⟩⟩⟩
  exact ⟨_, hprepared, rfl, rfl, rfl⟩

/-- The steps that a task has been given so far. -/
structure StepsMade (planTask : PreventivePlanTask) (taskId : String) (ids : PackageIds)
    (store : MaintenanceStore) (before : List TaskStepTemplate) (current : MaintenanceStore) :
    Prop where
  frame : current = { store with taskSteps := current.taskSteps }
  steps : ∀ row ∈ current.taskSteps.rows, row ∈ store.taskSteps.rows ∨
    ∃ made ∈ before, row.workOrderTaskId = taskId ∧ row.id = ids.stepId planTask.id made.id ∧
      row.stepNumber = made.stepNumber

theorem populateSteps_settles (planTask : PreventivePlanTask) (ids : PackageIds) {order : WorkOrder} {task : WorkOrderTask}
    {stepTemplates : List TaskStepTemplate} (hmanages : Manages services organization)
    (horder : Mutable store organization order)
    (htask : requireTask store organization task.id = .ok task) (hof : task.workOrderId = order.id)
    (hnone : stepsOfTask store organization task.id = [])
    (hnumbers : (stepTemplates.map TaskStepTemplate.stepNumber).Nodup)
    (hids : (stepTemplates.map fun made => ids.stepId planTask.id made.id).Nodup)
    (hfits : ∀ made ∈ stepTemplates, StepFits services store ids planTask made)
    (package : GeneratedWorkPackage) :
    (stepTemplates.foldlM (populateStep services template task.id (ids.stepId planTask.id))
      package).Settles store
        (fun _ current => StepsMade planTask task.id ids store stepTemplates current)
        fun _ _ => False := by
  refine Program.settles_foldlM
    (fun before _ current => StepsMade planTask task.id ids store before current) _ ?_
    ⟨rfl, fun row hrow => Or.inl hrow⟩
  intro before stepTemplate after package current hsplit hmade
  obtain ⟨hnumber, hinstruction, hnew, haccepted⟩ :=
    hfits stepTemplate (hsplit ▸ List.mem_append_right _ List.mem_cons_self)
  have hcurrentOrder : Mutable current organization order := by
    refine ⟨?_, horder.status⟩
    rw [hmade.frame]
    exact horder.found
  have hcurrentTask : requireTask current organization task.id = .ok task := by
    rw [hmade.frame]
    exact htask
  -- The numbers taken are those of the templates before.
  have hfree : stepTemplate.stepNumber ∉
      (stepsOfTask current organization task.id).map WorkOrderTaskStep.stepNumber := by
    intro htaken
    obtain ⟨row, hrow, hnumberEq⟩ := List.mem_map.mp htaken
    rw [stepsOfTask, List.mem_filter, decide_eq_true_eq] at hrow
    obtain ⟨hrow, horganization, hrowTask⟩ := hrow
    rcases hmade.steps row hrow with hstored | ⟨made, hmadeBefore, -, -, hmadeNumber⟩
    · have hmem : row ∈ stepsOfTask store organization task.id :=
        List.mem_filter.mpr ⟨hstored, decide_eq_true ⟨horganization, hrowTask⟩⟩
      rw [hnone] at hmem
      cases hmem
    · rw [hsplit, List.map_append, List.nodup_append] at hnumbers
      exact hnumbers.2.2 _ (List.mem_map_of_mem hmadeBefore) _
        (List.mem_map_of_mem List.mem_cons_self) (hmadeNumber.symm.trans hnumberEq)
  have hnewId : ids.stepId planTask.id stepTemplate.id ∉ current.taskSteps.ids := by
    intro htaken
    obtain ⟨row, hrow, hid, -⟩ := current.taskSteps.exists_of_mem_ids htaken
    rcases hmade.steps row hrow with hstored | ⟨made, hmadeBefore, -, hmadeId, -⟩
    · exact hnew (hid ▸ store.taskSteps.mem_ids hstored)
    · rw [hsplit, List.map_append, List.nodup_append] at hids
      exact hids.2.2 _ (List.mem_map_of_mem hmadeBefore) _
        (List.mem_map_of_mem List.mem_cons_self) (hmadeId.symm.trans hid)
  obtain ⟨row, hprepared, hid, hrowNumber, hrowTask⟩ :=
    prepareStep_package template (ids.stepId planTask.id stepTemplate.id) hmanages
      hcurrentOrder hcurrentTask hof hnumber hinstruction hfree
  have hsaved : insertStep services current row =
      .ok { current with taskSteps := current.taskSteps.insert row } :=
    bind_eq_ok.mpr ⟨(), save_eq_ok.mpr (hid ▸ ⟨hnewId, haccepted⟩), rfl⟩
  apply Program.Settles.bind
  refine Program.settles_transact_of_ok hprepared hsaved ?_
  rw [Program.settles_pure]
  refine ⟨?_, ?_⟩
  · rw [hmade.frame]
  · intro other hother
    rcases Table.mem_insert hother with rfl | hother
    · exact Or.inr ⟨stepTemplate, by simp, hrowTask, hid, hrowNumber⟩
    · exact (hmade.steps other hother).imp_right fun ⟨made, hbefore, hrest⟩ =>
        ⟨made, List.mem_append_left _ hbefore, hrest⟩

/-! ## Packages -/

/-- The tasks and steps that a work order has been given so far. -/
structure PackageMade (organization : String) (ids : PackageIds) (store : MaintenanceStore)
    (before : List PreventivePlanTask) (current : MaintenanceStore) : Prop where
  frame : current = { store with
    orderTasks := current.orderTasks
    taskSteps := current.taskSteps }
  tasks : ∀ row ∈ current.orderTasks.rows, row ∈ store.orderTasks.rows ∨
    ∃ made ∈ before, row.id = ids.taskId made.id ∧ row.sequenceNo = made.sequenceNo
  steps : ∀ row ∈ current.taskSteps.rows, row ∈ store.taskSteps.rows ∨
    ∃ made ∈ before, row.workOrderTaskId = ids.taskId made.id ∧
      row.id ∈ newStepIds store organization ids made

section

variable {before : List PreventivePlanTask} {order : WorkOrder}
  (hmade : PackageMade organization ids store before current)

include hmade

theorem PackageMade.sequenceNo_free (hnone : tasksOfOrder store organization order.id = [])
    (hnumber : planTask.sequenceNo ∉ before.map PreventivePlanTask.sequenceNo) :
    planTask.sequenceNo ∉
      (tasksOfOrder current organization order.id).map WorkOrderTask.sequenceNo := by
  intro htaken
  obtain ⟨row, hrow, hnumberEq⟩ := List.mem_map.mp htaken
  rw [tasksOfOrder, List.mem_filter, decide_eq_true_eq] at hrow
  rcases hmade.tasks row hrow.1 with hstored | ⟨made, hbefore, -, hmadeNumber⟩
  · have hmem : row ∈ tasksOfOrder store organization order.id :=
      List.mem_filter.mpr ⟨hstored, decide_eq_true hrow.2⟩
    rw [hnone] at hmem
    cases hmem
  · exact hnumber (hnumberEq ▸ hmadeNumber ▸ List.mem_map_of_mem hbefore)

theorem PackageMade.taskId_new (hnew : ids.taskId planTask.id ∉ store.orderTasks.ids)
    (hid : ids.taskId planTask.id ∉ before.map fun made => ids.taskId made.id) :
    ids.taskId planTask.id ∉ current.orderTasks.ids := by
  intro htaken
  obtain ⟨row, hrow, hrowId, -⟩ := current.orderTasks.exists_of_mem_ids htaken
  rcases hmade.tasks row hrow with hstored | ⟨made, hbefore, hmadeId, -⟩
  · exact hnew (hrowId ▸ store.orderTasks.mem_ids hstored)
  · exact hid (List.mem_map.mpr ⟨made, hbefore, hmadeId.symm.trans hrowId⟩)

theorem PackageMade.stepsOfTask_eq_nil
    (hnone : stepsOfTask store organization (ids.taskId planTask.id) = [])
    (hid : ids.taskId planTask.id ∉ before.map fun made => ids.taskId made.id) :
    stepsOfTask current organization (ids.taskId planTask.id) = [] := by
  apply List.eq_nil_iff_forall_not_mem.mpr
  intro row hrow
  rw [stepsOfTask, List.mem_filter, decide_eq_true_eq] at hrow
  rcases hmade.steps row hrow.1 with hstored | ⟨made, hbefore, hmadeTask, -⟩
  · have hmem : row ∈ stepsOfTask store organization (ids.taskId planTask.id) :=
      List.mem_filter.mpr ⟨hstored, decide_eq_true hrow.2⟩
    rw [hnone] at hmem
    cases hmem
  · exact hid (List.mem_map.mpr ⟨made, hbefore, hmadeTask.symm.trans hrow.2.2⟩)

theorem PackageMade.stepId_new {id : String} (hnew : id ∉ store.taskSteps.ids)
    (hid : id ∉ before.flatMap (newStepIds store organization ids)) :
    id ∉ current.taskSteps.ids := by
  intro htaken
  obtain ⟨row, hrow, rfl, -⟩ := current.taskSteps.exists_of_mem_ids htaken
  rcases hmade.steps row hrow with hstored | ⟨made, hbefore, -, hmadeId⟩
  · exact hnew (store.taskSteps.mem_ids hstored)
  · exact hid (List.mem_flatMap.mpr ⟨made, hbefore, hmadeId⟩)

end

theorem populateTask_settles {before : List PreventivePlanTask} {order : WorkOrder}
    (hmanages : Manages services organization) (hplan : plan.organizationId = organization)
    (horder : Mutable store organization order)
    (hnone : tasksOfOrder store organization order.id = [])
    (hfits : TaskFits services store organization ids planTask)
    (hmade : PackageMade organization ids store before current)
    (hnumber : planTask.sequenceNo ∉ before.map PreventivePlanTask.sequenceNo)
    (hid : ids.taskId planTask.id ∉ before.map fun made => ids.taskId made.id)
    (hstepIds : (before.flatMap (newStepIds store organization ids) ++
      newStepIds store organization ids planTask).Nodup)
    (package : GeneratedWorkPackage) :
    (populateTask services plan order.id ids package planTask).Settles current
      (fun _ next => PackageMade organization ids store (before ++ [planTask]) next)
        fun _ _ => False := by
  subst hplan
  obtain ⟨template, htemplate, ⟨hpositive, hname, hminutes⟩, ⟨hnew, haccepted⟩, hstepless,
    hstepNumbers, hsteps⟩ := hfits
  replace htemplate := toOption_eq_some.mp htemplate
  have htemplateId : template.id = planTask.taskTemplateId := by
    obtain ⟨hfound, -⟩ := Option.filter_eq_some_iff.mp (require_eq_ok.mp htemplate)
    exact (store.taskTemplates.get?_eq_some hfound).2
  obtain ⟨-, hstepIdsNodup, hdisjoint⟩ := List.nodup_append.mp hstepIds
  have hcurrentOrder : Mutable current plan.organizationId order := by
    refine ⟨?_, horder.status⟩
    rw [hmade.frame]
    exact horder.found
  have hcurrentTemplate : getTaskTemplate current plan.organizationId planTask.taskTemplateId =
      .ok template := by
    rw [hmade.frame]
    exact htemplate
  have hcurrentSteps : activeStepTemplates current plan.organizationId template.id =
      stepTemplatesOf store plan.organizationId planTask := by
    rw [hmade.frame, htemplateId]
    rfl
  apply Program.Settles.bind
  refine Program.settles_check_of_ok hcurrentTemplate (Program.Settles.bind ?_)
  rw [Program.settles_read, hcurrentSteps]
  obtain ⟨row, hprepared, ⟨hrowId, hrowNumber⟩, hrowOrganization, hrowOrder⟩ :=
    prepareTask_package plan ids (stepTemplatesOf store plan.organizationId planTask)
      hmanages hcurrentOrder hpositive hname hminutes (hmade.sequenceNo_free hnone hnumber)
  have hrowNew := hmade.taskId_new hnew hid
  have hsaved : insertTask services current row =
      .ok { current with orderTasks := current.orderTasks.insert row } :=
    bind_eq_ok.mpr ⟨(), save_eq_ok.mpr (hrowId ▸ ⟨hrowNew, haccepted⟩), rfl⟩
  apply Program.Settles.bind
  refine Program.settles_transact_of_ok hprepared hsaved ?_
  have hrowNew' : row.id ∉ current.orderTasks.ids := hrowId ▸ hrowNew
  have hfound : requireTask { current with orderTasks := current.orderTasks.insert row }
      plan.organizationId row.id = .ok row := by
    apply require_eq_ok.mpr
    change ((current.orderTasks.insert row).get? row.id).filter _ = _
    rw [Table.get?_insert_self hrowNew']
    exact Option.filter_eq_some_iff.mpr ⟨rfl, decide_eq_true hrowOrganization⟩
  have hstepless' : stepsOfTask { current with orderTasks := current.orderTasks.insert row }
      plan.organizationId row.id = [] := by
    rw [hrowId]
    exact hmade.stepsOfTask_eq_nil hstepless hid
  have hnextOrder : Mutable { current with orderTasks := current.orderTasks.insert row }
      plan.organizationId order := ⟨hcurrentOrder.found, hcurrentOrder.status⟩
  refine (populateSteps_settles planTask ids hmanages hnextOrder hfound hrowOrder hstepless'
    hstepNumbers hstepIdsNodup ?_ _).mono ?_ fun _ _ => id
  · intro stepTemplate hstepTemplate
    obtain ⟨hstepNumber, hinstruction, hstepNew, hstepAccepted⟩ := hsteps stepTemplate hstepTemplate
    refine ⟨hstepNumber, hinstruction, hmade.stepId_new hstepNew ?_, hstepAccepted⟩
    intro htaken
    exact hdisjoint _ htaken _ (List.mem_map_of_mem hstepTemplate) rfl
  · intro _ next hstepsMade
    refine ⟨?_, ?_, ?_⟩
    · rw [hstepsMade.frame, hmade.frame]
    · intro other hother
      rw [hstepsMade.frame] at hother
      rcases Table.mem_insert hother with rfl | hother
      · exact Or.inr ⟨planTask, by simp, hrowId, hrowNumber⟩
      · exact (hmade.tasks other hother).imp_right fun ⟨made, hbefore, hrest⟩ =>
          ⟨made, List.mem_append_left _ hbefore, hrest⟩
    · intro other hother
      rcases hstepsMade.steps other hother with hother | ⟨made, hmadeStep, htask, hstepId, -⟩
      · exact (hmade.steps other hother).imp_right fun ⟨made, hbefore, hrest⟩ =>
          ⟨made, List.mem_append_left _ hbefore, hrest⟩
      · exact Or.inr ⟨planTask, by simp, htask.trans hrowId,
          List.mem_map.mpr ⟨made, hmadeStep, hstepId.symm⟩⟩

theorem populateWorkOrder_settles {order : WorkOrder} {planTasks : List PreventivePlanTask}
    (hmanages : Manages services organization) (hplan : plan.organizationId = organization)
    (horder : Mutable store organization order)
    (hfits : PackageFits services store organization ids planTasks order.id) :
    (populateWorkOrder services plan planTasks order.id ids).Settles store
      (fun _ next => next = { store with
        orderTasks := next.orderTasks
        taskSteps := next.taskSteps })
      fun _ _ => False := by
  obtain ⟨htasks, ⟨hnumbers, htaskIds, hstepIds⟩, hnone⟩ := hfits
  unfold populateWorkOrder
  have hperm := List.perm_insertionSort
    (fun first second : PreventivePlanTask => first.sequenceNo ≤ second.sequenceNo) planTasks
  generalize planTasks.insertionSort (fun first second => first.sequenceNo ≤ second.sequenceNo) =
    sorted at hperm ⊢
  rw [← (hperm.map _).nodup_iff] at hnumbers htaskIds
  rw [← (hperm.flatMap_right _).nodup_iff] at hstepIds
  refine (Program.settles_foldlM
    (fun before _ current => PackageMade organization ids store before current) sorted ?_
    ⟨rfl, fun row hrow => Or.inl hrow, fun row hrow => Or.inl hrow⟩).mono
      (fun _ next hmade => hmade.frame) fun _ _ => id
  intro before planTask after package current hsplit hmade
  have hmem : planTask ∈ sorted := hsplit ▸ List.mem_append_right _ List.mem_cons_self
  rw [hsplit, List.map_append, List.nodup_append] at hnumbers htaskIds
  rw [hsplit, List.flatMap_append, List.flatMap_cons, ← List.append_assoc] at hstepIds
  exact populateTask_settles hmanages hplan horder hnone (htasks planTask (hperm.mem_iff.mp hmem))
    hmade
    (fun htaken => hnumbers.2.2 _ htaken _ (List.mem_map_of_mem List.mem_cons_self) rfl)
    (fun htaken => htaskIds.2.2 _ htaken _
      (List.mem_map.mpr ⟨planTask, List.mem_cons_self, rfl⟩) rfl)
    (List.Nodup.of_append_left hstepIds) package

end ProjectManager.Maintenance
