import ProjectManager.Finance.Baselines
import ProjectManager.Finance.Reconciliation

/-! # Baselines and the cost policy

A baseline counts what the cost policy plans for the project, and what the policy leaves
out: items in other currencies, labor entered by hand where labor is computed in another
currency, and the budget of a project that plans no item.
-/

namespace ProjectManager

open Foundation

/-- The stored rows refer to stored rows, and no rate is negative. -/
structure SoundCosts (store : ProjectStore) (projectId : String) : Prop where
  resources : ∀ row ∈ store.projectResourcesOf projectId, row.resourceId ≠ "" ∧
    ∃ resource, store.resources.get? row.resourceId = some resource ∧
      0 ≤ row.hourlyRate.getD resource.hourlyRate
  tasks : ∀ item ∈ store.costsOf projectId, ∀ taskId ∈ givenText item.taskId,
    taskId ∈ (store.tasksOf projectId).ids

/-- All that a baseline counts is planned by the policy. -/
structure OnlyPolicyCosts (store : ProjectStore) (project : Project) : Prop where
  items : ∀ item ∈ baselineItems store project.id project.baselineCurrency,
    item.InCurrency project.policyCurrency ∧
      (item.costType = .labor → NoComputedLabor store project.id .planned)
  budget : 0 < project.plannedBudget.getD 0 →
    baselineItems store project.id project.baselineCurrency ≠ []

section

variable {store : ProjectStore} {project : Project} {projectId : String}

/-! ## Labor -/

/-- Both sides compare a currency with that of the project. -/
theorem currencyInScope_policyCurrency (value : Option String) :
    currencyInScope (normalizeCurrency value project.policyCurrency) project.policyCurrency = true ↔
      (project.baselineCurrency ≠ "" →
        orElse (strip (upper (value.getD ""))) project.baselineCurrency =
          project.baselineCurrency) := by
  unfold Project.policyCurrency Project.baselineCurrency
  rw [strip_upper, strip_upper]
  cases project.currency with
  | none =>
      have hnone : upper (strip "") = "" := by decide +kernel
      simp [hnone, givenText, currencyInScope]
  | some text =>
      by_cases hempty : upper (strip text) = ""
      · simp [hempty, givenText, currencyInScope]
      · have hgiven : givenText (some (upper (strip text))) = some (upper (strip text)) :=
          Option.filter_eq_some_iff.mpr ⟨rfl, decide_eq_true hempty⟩
        have hcode : upper (orElse (upper (strip (value.getD ""))) (upper (strip text))) =
            orElse (upper (strip (value.getD ""))) (upper (strip text)) := by
          unfold orElse
          split_ifs <;> exact upper_upper _
        have hfallback : orElse (upper (strip (upper (strip text)))) "-" = upper (strip text) := by
          rw [strip_upper_strip, upper_upper, orElse, if_neg hempty]
        rw [Option.map_some, hgiven, currencyInScope, hgiven, normalizeCurrency, Option.getD_some,
          hfallback, Option.all_some, decide_eq_true_iff, hcode, upper_upper]
        simp [hempty]

theorem baselineLaborCost_eq {row : ProjectResource} (hrow : row.resourceId ≠ "" ∧
    ∃ resource, store.resources.get? row.resourceId = some resource ∧
      0 ≤ row.hourlyRate.getD resource.hourlyRate) :
    baselineLaborCost store project.baselineCurrency row =
      ((plannedLabor store project.policyCurrency row).map
        (inScopeAmount project.policyCurrency)).getD 0 := by
  obtain ⟨hid, resource, hresource, hrate⟩ := hrow
  unfold baselineLaborCost plannedLabor
  rw [hresource]
  dsimp only [Option.map_some, Option.getD_some, Option.bind_some]
  have hscope := @currencyInScope_policyCurrency project
    ((givenText row.currencyCode).or resource.currencyCode)
  by_cases hcounts : row.isActive = true ∧ 0 < row.plannedHours
  · rcases hrate.eq_or_lt with hzero | hpos
    · simp [← hzero]
    · simp only [hcounts.1, hcounts.2, hid, hpos, ne_eq, not_false_eq_true, true_and, and_self,
        if_true, Option.map_some, Option.getD_some, inScopeAmount, hscope]
  · have hleft : ¬ (row.isActive = true ∧ row.resourceId ≠ "" ∧ 0 < row.plannedHours ∧
        (project.baselineCurrency ≠ "" → orElse (strip (upper (((givenText row.currencyCode).or
          resource.currencyCode).getD ""))) project.baselineCurrency =
            project.baselineCurrency)) := fun h => hcounts ⟨h.1, h.2.2.1⟩
    have hright : ¬ (row.isActive = true ∧ 0 < row.plannedHours ∧
        0 < row.hourlyRate.getD resource.hourlyRate) :=
      fun h => hcounts ⟨h.1, h.2.1⟩
    rw [if_neg hleft, if_neg hright]
    rfl

theorem baselineLabor_eq (h : SoundCosts store project.id) :
    baselineLabor store project.id project.baselineCurrency =
      ((computedLabor store project.id project.policyCurrency .planned).map
        (inScopeAmount project.policyCurrency)).sum := by
  unfold baselineLabor computedLabor
  dsimp only
  rw [sum_map_filterMap]
  congr 1
  apply List.map_congr_left
  exact fun row hrow => baselineLaborCost_eq (h.resources row hrow)

theorem baselineLabor_nonneg (h : SoundCosts store project.id) :
    0 ≤ baselineLabor store project.id project.baselineCurrency := by
  rw [baselineLabor_eq h]
  refine List.sum_nonneg (List.forall_mem_map.mpr fun cost hcost => ?_)
  unfold inScopeAmount
  split_ifs
  · exact (computedLabor_pos hcost).le
  · exact le_rfl

theorem baselineLabor_of_none (h : SoundCosts store project.id)
    (hnone : NoComputedLabor store project.id .planned) :
    baselineLabor store project.id project.baselineCurrency = 0 := by
  have hempty : computedLabor store project.id project.policyCurrency .planned = [] := by
    refine List.filterMap_eq_nil_iff.mpr fun row hrow => ?_
    have hrow := hnone row hrow
    unfold plannedLabor at hrow ⊢
    dsimp only at hrow ⊢
    split_ifs at hrow ⊢ with hcounts
    rfl
  rw [baselineLabor_eq h, hempty]
  rfl

/-! ## Items -/

section

variable (store) (projectId) (currency : String)

theorem sum_plannedByTask :
    (plannedByTask store projectId currency).sum Prod.snd +
        (((baselineItems store projectId currency).filter fun item =>
          (givenText item.taskId).isNone).map CostItem.plannedAmount).sum =
      ((baselineItems store projectId currency).map CostItem.plannedAmount).sum := by
  unfold plannedByTask
  rw [Buckets.sum_addAll, sum_map_filterMap, sum_map_filter, ← List.sum_map_add]
  congr 1
  apply List.map_congr_left
  intro item _
  unfold CostItem.taskAmount
  cases givenText item.taskId <;> simp

theorem sum_baselineItems_le_iff :
    ((baselineItems store projectId currency).map CostItem.plannedAmount).sum ≤ 0 ↔
      baselineItems store projectId currency = [] := by
  constructor
  · intro hle
    by_contra hne
    refine not_le.mpr (List.sum_pos _ ?_ (mt List.map_eq_nil_iff.mp hne)) hle
    exact List.forall_mem_map.mpr fun item => plannedAmount_pos store projectId currency
  · intro h
    rw [h]
    exact le_rfl

theorem plannedOfTasks_add_plannedUnassigned (budget : ℚ)
    (htasks : ∀ item ∈ store.costsOf projectId, ∀ taskId ∈ givenText item.taskId,
      taskId ∈ (store.tasksOf projectId).ids) :
    plannedOfTasks store projectId currency + plannedUnassigned store projectId currency budget =
      ((baselineItems store projectId currency).map CostItem.plannedAmount).sum +
        if baselineItems store projectId currency = [] ∧ 0 < budget then budget else 0 := by
  have hsplit : plannedOfTasks store projectId currency +
      (((baselineItems store projectId currency).filter fun item =>
        (givenText item.taskId).isNone).map CostItem.plannedAmount).sum =
          ((baselineItems store projectId currency).map CostItem.plannedAmount).sum := by
    unfold plannedOfTasks
    rw [sum_map_filter, sum_map_filter, ← List.sum_map_add]
    congr 1
    apply List.map_congr_left
    intro item hitem
    have htask := htasks item (List.mem_of_mem_filter hitem)
    cases hgiven : givenText item.taskId with
    | none => simp
    | some taskId => simp [htask taskId hgiven]
  unfold plannedUnassigned
  dsimp only
  simp only [sum_plannedByTask, sum_baselineItems_le_iff]
  split_ifs with hbudget
  · rw [← hsplit, hbudget.1]
    simp
  · rw [hsplit, add_zero]

end

def baselineAmount (store : ProjectStore) (project : Project) (item : CostItem) : ℚ :=
  if baselineCounts store project.id project.baselineCurrency item = true then item.plannedAmount
  else 0

variable {day : Date} {manual : Bool}

theorem countedAmount_le_baselineAmount (h : SoundCosts store project.id)
    (hmanual : manual = true → NoComputedLabor store project.id .planned) (item : CostItem) :
    countedAmount day project.policyCurrency manual .planned item ≤
        baselineAmount store project item ∧
      (countedAmount day project.policyCurrency manual .planned item =
          baselineAmount store project item ↔
        (baselineCounts store project.id project.baselineCurrency item = true →
          item.InCurrency project.policyCurrency ∧
            (item.costType = .labor → manual = true))) := by
  have hle : countedAmount day project.policyCurrency manual .planned item ≤
      max item.plannedAmount 0 := countedAmount_le item
  unfold baselineAmount
  by_cases hcounts : baselineCounts store project.id project.baselineCurrency item = true
  · have hpos : 0 < item.plannedAmount := (of_decide_eq_true hcounts).2
    have heq : countedAmount day project.policyCurrency manual .planned item =
        max item.plannedAmount 0 ↔ (0 < item.plannedAmount → item.InCurrency _ ∧
          (item.costType = .labor → manual = true)) := countedAmount_eq_iff item
    rw [max_eq_left hpos.le] at hle heq
    rw [if_pos hcounts, heq]
    exact ⟨hle, ⟨fun hall _ => hall hpos, fun hall _ => hall hcounts⟩⟩
  · have hzero : countedAmount day project.policyCurrency manual .planned item = 0 := by
      by_cases hpos : 0 < item.plannedAmount
      · -- Labor entered by hand, while other labor takes its place in the project currency.
        have hlabor : item.costType = .labor ∧
            0 < baselineLabor store project.id project.baselineCurrency := by
          simpa [baselineCounts, hpos] using hcounts
        have hnot : manual = false := by
          rw [Bool.eq_false_iff]
          exact fun hincluded =>
            hlabor.2.ne' (baselineLabor_of_none h (hmanual hincluded))
        simp [countedAmount, hlabor.1, hnot]
      · have hamount : max (readStageAmount day item .planned) 0 = 0 :=
          max_eq_right (not_lt.mp hpos)
        unfold countedAmount
        rw [hamount, ite_self]
    rw [if_neg hcounts, hzero]
    exact ⟨le_rfl, iff_of_true rfl fun h => absurd h hcounts⟩

end

/-! ## The total -/

section

variable {store : ProjectStore} {project : Project} {reporting : ReportingService}
  {asOf : Option Date} {totals : CostControlTotals} {calendar : WorkCalendarEngine}
  {rows : List BaselineTask}

theorem add_le_add_add_iff {counted more rest : ℚ} (hle : counted ≤ more) (hrest : 0 ≤ rest)
    (labor : ℚ) : counted + labor ≤ more + rest + labor ∧
      (counted + labor = more + rest + labor ↔ counted = more ∧ rest = 0) := by
  refine ⟨by linarith, fun h => ⟨by linarith, by linarith⟩, ?_⟩
  rintro ⟨rfl, rfl⟩
  rw [add_zero]

/-- A baseline plans no less than the cost policy, and the same exactly when it counts nothing that
the policy leaves out. -/
theorem BaselineShows.planned (h : BaselineShows calendar store project rows)
    (hproject : store.projects.get? project.id = some project)
    (hsound : SoundCosts store project.id)
    (htotals : getProjectCostControlTotals reporting store project.id asOf = .ok totals) :
    totals.planned ≤ baselineCost rows ∧
      (totals.planned = baselineCost rows ↔ OnlyPolicyCosts store project) := by
  obtain ⟨policy, hpolicy, -, hamounts⟩ :=
    @exists_policy ⟨reporting.userSession, reporting⟩ store project.id asOf totals htotals
  have hparts : PolicyParts store project.id (asOf.getD reporting.today) policy :=
    buildCostPolicySnapshot_parts hpolicy
  have hcurrency : policy.projectCurrency = project.policyCurrency := by
    obtain ⟨other, hother, hpolicyCurrency⟩ := (buildCostPolicySnapshot_ok hpolicy).currency
    obtain rfl := Option.some.inj (hproject.symm.trans hother)
    exact hpolicyCurrency
  have hplanned : totals.planned = _ := (hamounts .planned).trans (hparts.total .planned)
  have hitems := fun item (_ : item ∈ store.costsOf project.id) =>
    @countedAmount_le_baselineAmount store project (asOf.getD reporting.today)
      (policy.includesManual .planned) hsound (hparts.includesManual .planned).mp item
  have hcounted : ((baselineItems store project.id project.baselineCurrency).map
      CostItem.plannedAmount).sum =
        ((store.costsOf project.id).map (baselineAmount store project)).sum := by
    unfold baselineItems
    rw [sum_map_filter]
    rfl
  have hcost := h.cost
  rw [max_eq_right (baselineLabor_nonneg hsound), baselineLabor_eq hsound,
    plannedOfTasks_add_plannedUnassigned _ _ _ _ hsound.tasks, hcounted] at hcost
  -- Both sides have the same labor, so the items and the budget decide.
  have hfallback : (0 : ℚ) ≤ if baselineItems store project.id project.baselineCurrency = [] ∧
      0 < project.plannedBudget.getD 0 then project.plannedBudget.getD 0 else 0 := by
    split_ifs with hbudget
    · exact hbudget.2.le
    · exact le_rfl
  rw [hcurrency] at hplanned
  rw [hplanned, hcost]
  obtain ⟨hle, heq⟩ := add_le_add_add_iff (List.sum_le_sum fun item hitem => (hitems item hitem).1)
    hfallback ((computedLabor store project.id project.policyCurrency .planned).map
      (inScopeAmount project.policyCurrency)).sum
  refine ⟨hle, heq.trans ?_⟩
  rw [sum_map_eq_iff fun item hitem => (hitems item hitem).1, ite_eq_right_iff]
  constructor
  · rintro ⟨hall, hbudget⟩
    refine ⟨fun item hitem => ?_, fun hpos hempty => hpos.ne' (hbudget ⟨hempty, hpos⟩)⟩
    obtain ⟨hstored, hcounts⟩ := List.mem_filter.mp hitem
    obtain ⟨hscope, hmanual⟩ := (hitems item hstored).2.mp (hall item hstored) hcounts
    exact ⟨hscope, fun hlabor => (hparts.includesManual .planned).mp (hmanual hlabor)⟩
  · rintro ⟨hall, hbudget⟩
    refine ⟨fun item hstored => (hitems item hstored).2.mpr fun hcounts => ?_,
      fun hempty => absurd hempty.1 (hbudget hempty.2)⟩
    obtain ⟨hscope, hmanual⟩ := hall item (List.mem_filter.mpr ⟨hstored, hcounts⟩)
    exact ⟨hscope, fun hlabor => (hparts.includesManual .planned).mpr (hmanual hlabor)⟩

end

theorem SoundCosts.of_keeps {store next : ProjectStore} {projectId : String}
    (h : SoundCosts store projectId) (hkeeps : KeepsCosts projectId store next) :
    SoundCosts next projectId where
  resources := by
    unfold ProjectStore.projectResourcesOf
    rw [hkeeps.projectResources, hkeeps.resources]
    exact h.resources
  tasks := by
    unfold ProjectStore.costsOf
    rw [hkeeps.costs, hkeeps.tasks]
    exact h.tasks

theorem OnlyPolicyCosts.iff_of_keeps {store next : ProjectStore} {projectId : String}
    {project : Project} (hkeeps : KeepsCosts projectId store next) :
    OnlyPolicyCosts next project ↔ OnlyPolicyCosts store project := by
  obtain ⟨hcosts, hresources, hprojectResources, -⟩ := hkeeps
  cases store
  cases next
  cases hcosts
  cases hresources
  cases hprojectResources
  exact ⟨fun h => ⟨h.items, h.budget⟩, fun h => ⟨h.items, h.budget⟩⟩

section

variable {services : ProjectManagementServices} {arguments : CreateBaselineArguments}
  {ids : BaselineIds} {store : PlatformStore} {baseline : ProjectBaseline}
  {next : Session PlatformStore} {reporting : ReportingService} {asOf : Option Date}
  {totals : CostControlTotals}

theorem createBaseline_policy (hsettled : store.addedBalances = [])
    (hrows : ∀ row ∈ store.projects.baselineTasks.rows,
      row.baselineId ∈ store.projects.baselines.ids)
    (hsound : SoundCosts store.projects arguments.projectId)
    (hcreated : createBaseline services arguments ids (.clean store) = (.ok baseline, next))
    (htotals : getProjectCostControlTotals reporting next.committed.projects arguments.projectId
      asOf = .ok totals) :
    ∃ project, store.projects.projects.get? arguments.projectId = some project ∧
      next.committed.projects.projects.get? arguments.projectId = some project ∧
      KeepsCosts arguments.projectId store.projects next.committed.projects ∧
      totals.planned ≤ baselineCost (next.committed.projects.baselineTasksOf baseline.id) ∧
      (totals.planned = baselineCost (next.committed.projects.baselineTasksOf baseline.id) ↔
        OnlyPolicyCosts next.committed.projects project) := by
  obtain ⟨project, hstored, hproject, hkeeps, hshows⟩ :=
    (createBaseline_shows hsettled hrows).of_ok hcreated
  have hid : project.id = arguments.projectId := (Table.get?_eq_some_iff.mp hproject).2
  have hnext := hsound.of_keeps hkeeps
  refine ⟨project, hstored, hproject, hkeeps, ?_⟩
  rw [← hid] at hproject hnext htotals
  exact hshows.planned hproject hnext htotals

/-- What a created baseline plans is at least what the cost policy then plans for the project, and
the same exactly when the baseline counts nothing that the policy leaves out. -/
theorem createBaseline_planned (hsettled : store.addedBalances = [])
    (hrows : ∀ row ∈ store.projects.baselineTasks.rows,
      row.baselineId ∈ store.projects.baselines.ids)
    (hsound : SoundCosts store.projects arguments.projectId)
    (hcreated : createBaseline services arguments ids (.clean store) = (.ok baseline, next))
    (htotals : getProjectCostControlTotals reporting next.committed.projects arguments.projectId
      asOf = .ok totals) :
    ∃ project, next.committed.projects.projects.get? arguments.projectId = some project ∧
      totals.planned ≤ baselineCost (next.committed.projects.baselineTasksOf baseline.id) ∧
      (totals.planned = baselineCost (next.committed.projects.baselineTasksOf baseline.id) ↔
        OnlyPolicyCosts next.committed.projects project) := by
  obtain ⟨project, -, hproject, -, hplanned⟩ :=
    createBaseline_policy hsettled hrows hsound hcreated htotals
  exact ⟨project, hproject, hplanned⟩

/-- The budget is conserved exactly when, in the store that a baseline is created from, it counts
nothing that the policy leaves out. -/
theorem createBaseline_conservesBudget_iff (hsettled : store.addedBalances = [])
    (hrows : ∀ row ∈ store.projects.baselineTasks.rows,
      row.baselineId ∈ store.projects.baselines.ids)
    (hsound : SoundCosts store.projects arguments.projectId)
    (hcreated : createBaseline services arguments ids (.clean store) = (.ok baseline, next))
    (htotals : getProjectCostControlTotals reporting next.committed.projects arguments.projectId
      asOf = .ok totals) :
    ∃ project, store.projects.projects.get? arguments.projectId = some project ∧
      (baselineCost (next.committed.projects.baselineTasksOf baseline.id) = totals.planned ↔
        OnlyPolicyCosts store.projects project) := by
  obtain ⟨project, hproject, -, hkeeps, -, hplanned⟩ :=
    createBaseline_policy hsettled hrows hsound hcreated htotals
  exact ⟨project, hproject, eq_comm.trans (hplanned.trans (OnlyPolicyCosts.iff_of_keeps hkeeps))⟩

end

theorem soundCosts_hall : SoundCosts weldedHall.projects "hall" where
  resources := by
    have hrows : weldedHall.projects.projectResourcesOf "hall" = [
        { id := "hall-welder", projectId := "hall", resourceId := "welder"
          plannedHours := 10 }] := by
      decide +kernel
    rw [hrows]
    intro row hrow
    obtain rfl := List.mem_singleton.mp hrow
    exact ⟨by decide, { id := "welder", name := "Welder", hourlyRate := 40
                        currencyCode := some "EUR" }, by decide +kernel, by decide +kernel⟩
  tasks := by
    unfold givenText
    decide +kernel

theorem eq_of_toOption {ε α β : Type*} {result : Except ε α × β} {value : α}
    (h : result.1.toOption = some value) : result = (.ok value, result.2) :=
  Prod.ext (toOption_eq_some.mp h) rfl

/-- The dollars of the crane are in the baseline. -/
theorem cost_weldedHall : (createBaseline planner { projectId := "hall" } hallBaselineIds
    (.clean weldedHall)).1.toOption.map (fun baseline => baselineCost ((createBaseline planner
      { projectId := "hall" } hallBaselineIds
        (.clean weldedHall)).2.committed.projects.baselineTasksOf baseline.id)) = some 530 := by
  decide +kernel

/-- They are not in the totals in euros. -/
theorem totals_weldedHall : getProjectCostControlTotals hallReports (createBaseline planner
    { projectId := "hall" } hallBaselineIds (.clean weldedHall)).2.committed.projects "hall"
      (some 20) = .ok hallTotals := by
  decide +kernel

theorem createBaseline_planned_hall :
    ∃ baseline next, createBaseline planner { projectId := "hall" } hallBaselineIds
        (.clean weldedHall) = (.ok baseline, next) ∧
      hallTotals.planned < baselineCost (next.committed.projects.baselineTasksOf baseline.id) := by
  obtain ⟨baseline, hbaseline, hcost⟩ := Option.map_eq_some_iff.mp cost_weldedHall
  have hcreated := eq_of_toOption hbaseline
  obtain ⟨project, -, hle, -⟩ := createBaseline_planned (by decide +kernel) (by decide +kernel)
    soundCosts_hall hcreated totals_weldedHall
  refine ⟨baseline, _, hcreated, lt_of_le_of_ne hle ?_⟩
  rw [hcost]
  decide +kernel

/-- The planned total of the hall is positive, and its baseline comes to more. -/
theorem not_conservesBudget_hall :
    ∃ baseline next, createBaseline planner { projectId := "hall" } hallBaselineIds
        (.clean weldedHall) = (.ok baseline, next) ∧
      getProjectCostControlTotals hallReports next.committed.projects "hall" (some 20) =
        .ok hallTotals ∧
      0 < hallTotals.planned ∧
      baselineCost (next.committed.projects.baselineTasksOf baseline.id) ≠ hallTotals.planned := by
  obtain ⟨baseline, hbaseline, hcost⟩ := Option.map_eq_some_iff.mp cost_weldedHall
  refine ⟨baseline, _, eq_of_toOption hbaseline, totals_weldedHall, by decide +kernel, ?_⟩
  rw [hcost]
  decide +kernel

/-- The hall without the crane, with the tasks of the welded one. -/
def helpedOffice : PlatformStore :=
  linkedOffice.withProjects { helpedHall with tasks := weldedHall.projects.tasks }

theorem createBaseline_conservesBudget_iff_helpedOffice :
    ∃ baseline next, createBaseline planner { projectId := "hall" } hallBaselineIds
        (.clean helpedOffice) = (.ok baseline, next) ∧
      baselineCost (next.committed.projects.baselineTasksOf baseline.id) = 500 := by
  have hreturned : ((createBaseline planner { projectId := "hall" } hallBaselineIds
      (.clean helpedOffice)).1.toOption.isSome) = true := by
    decide +kernel
  have htotals : getProjectCostControlTotals hallReports (createBaseline planner
      { projectId := "hall" } hallBaselineIds (.clean helpedOffice)).2.committed.projects "hall"
        (some 20) = .ok helpedTotals := by
    decide +kernel
  have hfound : helpedOffice.projects.projects.get? "hall" =
      some { id := "hall", name := "Hall", currency := some "eur " } := by
    decide +kernel
  have hitems : ∀ item ∈ baselineItems helpedOffice.projects "hall" "EUR",
      item.costType ≠ .labor ∧ item.InCurrency (some "EUR") := by
    unfold CostItem.InCurrency
    decide +kernel
  have hsound : SoundCosts helpedOffice.projects "hall" :=
    ⟨soundCosts_hall.resources, by unfold givenText; decide +kernel⟩
  obtain ⟨baseline, hbaseline⟩ := Option.isSome_iff_exists.mp hreturned
  have hcreated := eq_of_toOption hbaseline
  refine ⟨baseline, _, hcreated, ?_⟩
  obtain ⟨project, hproject, hiff⟩ := createBaseline_conservesBudget_iff (by decide +kernel)
    (by decide +kernel) hsound hcreated htotals
  obtain rfl := Option.some.inj (hfound.symm.trans hproject)
  have hcurrencies : Project.baselineCurrency
        { id := "hall", name := "Hall", currency := some "eur " } = "EUR" ∧
      Project.policyCurrency { id := "hall", name := "Hall", currency := some "eur " } =
        some "EUR" := by
    decide +kernel
  refine hiff.mpr ⟨?_, fun hbudget => absurd hbudget (by decide +kernel)⟩
  rw [hcurrencies.1, hcurrencies.2]
  exact fun item hitem => ⟨(hitems item hitem).2, fun hlabor => absurd hlabor (hitems item hitem).1⟩

end ProjectManager
