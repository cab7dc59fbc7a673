import Mathlib.Algebra.Order.Field.Rat
import Mathlib.Tactic.FieldSimp
import ProjectManager.Calendar.Arithmetic
import ProjectManager.Dashboard.Portfolio

/-! # The load of the portfolio

The portfolio adds up the peaks of the projects. What it reports of a resource
is never below the peak of all its assignments taken together, and it is that
peak exactly when the projects are at their peaks on one working day.
-/

namespace ProjectManager

open Foundation

/-! ## Combined assignments -/

namespace ProjectStore

variable (store : ProjectStore) (projects : List Project) (resourceId : String)

/-- The assignments of a resource to the tasks of some projects. -/
def assignmentsAcross : List TaskAssignment :=
  store.assignments.rows.filter fun assignment => assignment.resourceId = resourceId ∧
    ∃ project ∈ projects, assignment.taskId ∈ (store.tasksOf project.id).ids

/-- What the projects take of a resource on a day, taken together. -/
def combinedLoad : Date → ℚ := store.tasks.dailyLoad (store.assignmentsAcross projects resourceId)

/-- What the projects take of a resource without dates, taken together. -/
def combinedUnscheduled : ℚ :=
  store.tasks.unscheduledLoad (store.assignmentsAcross projects resourceId)

/-- What a project takes of a resource on a day. -/
def projectLoad (project : Project) : Date → ℚ :=
  (store.tasksOf project.id).dailyLoad (store.assignmentsFor project.id resourceId)

end ProjectStore

/-- Sums over classes that do not overlap make up the sum over all classes. -/
theorem sum_filter_exists {α ι : Type*} {members : List ι} {P : ι → α → Prop}
    [∀ i a, Decidable (P i a)] (hdisjoint : members.Pairwise fun i j => ∀ a, P i a → ¬ P j a)
    (f : α → ℚ) (items : List α) :
    ((items.filter fun a => ∃ i ∈ members, P i a).map f).sum =
      (members.map fun i => ((items.filter fun a => P i a).map f).sum).sum := by
  have hone : ∀ a, (members.map fun i => if P i a then f a else 0).sum =
      if ∃ i ∈ members, P i a then f a else 0 := by
    intro a
    induction members with
    | nil => simp
    | cons i rest ih =>
        obtain ⟨hhead, hrest⟩ := List.pairwise_cons.mp hdisjoint
        rw [List.map_cons, List.sum_cons, ih hrest]
        by_cases hi : P i a
        · have hnone : ¬ ∃ j ∈ rest, P j a := by
            rintro ⟨j, hj, hPj⟩
            exact hhead j hj a hi hPj
          simp [hi, hnone]
        · simp [hi]
  induction items with
  | nil => simp
  | cons a rest ih =>
      have hfilter : ∀ (Q : α → Prop) [DecidablePred Q],
          (((a :: rest).filter fun b => Q b).map f).sum =
            (if Q a then f a else 0) + ((rest.filter fun b => Q b).map f).sum := by
        intro Q _
        by_cases ha : Q a <;> simp [ha]
      rw [hfilter, ih, ← hone, ← List.sum_map_add]
      exact congrArg List.sum (List.map_congr_left fun i _ => (hfilter (P i)).symm)

section

variable {store : ProjectStore} {projects : List Project}

theorem assignedDates_tasksOf {projectId : String} {assignment : TaskAssignment}
    (h : assignment.taskId ∈ (store.tasksOf projectId).ids) :
    (store.tasksOf projectId).assignedDates assignment =
      store.tasks.assignedDates assignment := by
  obtain ⟨task, hmem, hkey, hfound⟩ := Table.exists_of_mem_ids _ h
  have hstored : store.tasks.get? assignment.taskId = some task :=
    Table.get?_eq_some_iff.mpr ⟨(Table.mem_filter.mp hmem).1, hkey⟩
  rw [TasksById.assignedDates, TasksById.assignedDates, hfound, hstored]

theorem tasksOf_disjoint (store : ProjectStore) (hprojects : (projects.map Project.id).Nodup) :
    projects.Pairwise fun first second => ∀ assignment : TaskAssignment,
      assignment.taskId ∈ (store.tasksOf first.id).ids →
        assignment.taskId ∉ (store.tasksOf second.id).ids := by
  refine List.Pairwise.imp ?_ (List.pairwise_map.mp hprojects)
  intro first second hne assignment hfirst hsecond
  obtain ⟨task, htask, hkey, -⟩ := Table.exists_of_mem_ids _ hfirst
  obtain ⟨other, hother, hotherKey, -⟩ := Table.exists_of_mem_ids _ hsecond
  obtain ⟨hstored, hin⟩ := Table.mem_filter.mp htask
  obtain ⟨hotherStored, hotherIn⟩ := Table.mem_filter.mp hother
  obtain rfl := store.tasks.eq_of_key_eq hstored hotherStored (hkey.trans hotherKey.symm)
  exact hne ((of_decide_eq_true hin).symm.trans (of_decide_eq_true hotherIn))

theorem sum_assignmentsAcross (hprojects : (projects.map Project.id).Nodup) (resourceId : String)
    (f : TaskAssignment → ℚ) :
    ((store.assignmentsAcross projects resourceId).map f).sum =
      (projects.map fun project =>
        ((store.assignmentsFor project.id resourceId).map f).sum).sum := by
  have hsplit := sum_filter_exists (tasksOf_disjoint store hprojects) f
    (store.assignments.rows.filter fun assignment => assignment.resourceId = resourceId)
  rw [List.filter_filter] at hsplit
  have hacross : store.assignmentsAcross projects resourceId =
      store.assignments.rows.filter fun assignment =>
        decide (∃ project ∈ projects, assignment.taskId ∈ (store.tasksOf project.id).ids) &&
          decide (assignment.resourceId = resourceId) := by
    apply List.filter_congr
    intro assignment _
    rw [Bool.decide_and, Bool.and_comm]
  rw [hacross, hsplit]
  apply congrArg List.sum
  apply List.map_congr_left
  intro project _
  rw [ProjectStore.assignmentsFor, ProjectStore.assignmentsOf, List.filter_filter,
    List.filter_filter]
  simp only [Bool.and_comm]

theorem mem_assignmentsFor {projectId resourceId : String} {assignment : TaskAssignment}
    (h : assignment ∈ store.assignmentsFor projectId resourceId) :
    assignment.taskId ∈ (store.tasksOf projectId).ids := by
  have hin := (List.mem_filter.mp (List.mem_filter.mp h).1).2
  exact of_decide_eq_true hin

theorem combinedLoad_eq (hprojects : (projects.map Project.id).Nodup) (resourceId : String) :
    store.combinedLoad projects resourceId =
      combined projects (store.projectLoad resourceId) := by
  funext day
  rw [ProjectStore.combinedLoad, TasksById.dailyLoad, sum_assignmentsAcross hprojects]
  apply congrArg List.sum
  apply List.map_congr_left
  intro project _
  apply congrArg List.sum
  apply List.map_congr_left
  intro assignment hassignment
  rw [TasksById.allocationOn, TasksById.allocationOn,
    assignedDates_tasksOf (mem_assignmentsFor hassignment)]

theorem combinedUnscheduled_eq (hprojects : (projects.map Project.id).Nodup)
    (resourceId : String) :
    store.combinedUnscheduled projects resourceId = (projects.map fun project =>
      (store.tasksOf project.id).unscheduledLoad
        (store.assignmentsFor project.id resourceId)).sum := by
  rw [ProjectStore.combinedUnscheduled, TasksById.unscheduledLoad, sum_assignmentsAcross hprojects]
  apply congrArg List.sum
  apply List.map_congr_left
  intro project _
  apply congrArg List.sum
  apply List.map_congr_left
  intro assignment hassignment
  rw [TasksById.unscheduledAllocation, TasksById.unscheduledAllocation,
    assignedDates_tasksOf (mem_assignmentsFor hassignment)]

end

/-! ## Merged rows -/

theorem capacityPercentOf_pos (resource : Option Resource) : 0 < capacityPercentOf resource := by
  unfold capacityPercentOf
  dsimp only
  split
  next => norm_num
  next h => exact not_le.mp h

theorem orHundred_of_pos {x : ℚ} (h : 0 < x) : orHundred x = x := if_neg h.ne'

section

variable {calendar : WorkCalendarEngine} {store : ProjectStore} {projects : List Project}
  {resourceId : String}

/-- What the merged row of a resource says after some rows of projects. -/
structure MergesRows (store : ProjectStore) (resourceId : String) (rows : List ResourceLoadRow)
    (merged : ResourceLoadRow) : Prop where
  key : merged.resourceId = resourceId
  total : merged.totalAllocationPercent =
    (rows.map ResourceLoadRow.totalAllocationPercent).sum
  tasksCount : merged.tasksCount = (rows.map ResourceLoadRow.tasksCount).sum
  capacity : merged.capacityPercent = capacityPercentOf (store.resources.get? resourceId)
  utilization : merged.utilizationPercent =
    merged.totalAllocationPercent / merged.capacityPercent * 100

def summaryRows (calendar : WorkCalendarEngine) (store : ProjectStore) (projects : List Project)
    (resourceId : String) : List ResourceLoadRow :=
  projects.flatMap fun project =>
    if store.assignmentsFor project.id resourceId = [] then []
    else [summaryRow calendar store project.id resourceId]

theorem mem_summaryRows {row : ResourceLoadRow}
    (h : row ∈ summaryRows calendar store projects resourceId) :
    ∃ project ∈ projects, row = summaryRow calendar store project.id resourceId := by
  obtain ⟨project, hproject, hrow⟩ := List.mem_flatMap.mp h
  split at hrow
  next => cases hrow
  next => exact ⟨project, hproject, List.mem_singleton.mp hrow⟩

theorem mergesRows_of_joinAll {merged : ResourceLoadRow}
    (h : mergedLoads.joinAll none (summaryRows calendar store projects resourceId) =
      some merged) :
    MergesRows store resourceId (summaryRows calendar store projects resourceId) merged := by
  have hpositive := capacityPercentOf_pos (store.resources.get? resourceId)
  apply Grouping.joinAll_induction mergedLoads _ _ h
  · intro row hrow
    obtain ⟨project, -, rfl⟩ := mem_summaryRows hrow
    constructor
    · rfl
    · exact (List.sum_singleton).symm
    · exact (List.sum_singleton).symm
    · exact orHundred_of_pos hpositive
    · dsimp only [mergedLoads, summaryRow]
      rw [orHundred_of_pos hpositive]
  · intro before row current hrow hcurrent
    obtain ⟨project, -, rfl⟩ := mem_summaryRows hrow
    constructor
    · exact hcurrent.key
    · simp [mergedLoads, hcurrent.total]
    · simp [mergedLoads, hcurrent.tasksCount]
    · dsimp only [mergedLoads, summaryRow]
      rw [hcurrent.capacity]
      exact (max_self (orHundred _)).trans (orHundred_of_pos hpositive)
    · -- Both capacities are that of the resource, so their maximum is it as well.
      dsimp only [mergedLoads, summaryRow]
      rw [hcurrent.capacity, max_self (orHundred _), orHundred_of_pos hpositive,
        orHundred_of_pos hpositive]

theorem projectAllocation_of_nil {projectId : String}
    (h : store.assignmentsFor projectId resourceId = []) :
    projectAllocation calendar store projectId resourceId = 0 := by
  rw [projectAllocation, h]
  exact add_zero 0

/-- Projects without assignments of a resource add nothing to its total. -/
theorem sum_summaryRows : ((summaryRows calendar store projects resourceId).map
    ResourceLoadRow.totalAllocationPercent).sum =
      (projects.map fun project =>
        projectAllocation calendar store project.id resourceId).sum := by
  unfold summaryRows
  induction projects with
  | nil => rfl
  | cons project rest ih =>
      rw [List.flatMap_cons, List.map_append, List.sum_append, ih, List.map_cons, List.sum_cons]
      congr 1
      split
      next hnil => exact (projectAllocation_of_nil hnil).symm
      next => exact List.sum_singleton

theorem summaryRows_eq_nil :
    summaryRows calendar store projects resourceId = [] ↔
      store.assignmentsAcross projects resourceId = [] := by
  rw [summaryRows, List.flatMap_eq_nil_iff, ProjectStore.assignmentsAcross,
    List.filter_eq_nil_iff]
  constructor
  · intro hnone assignment hstored hassigned
    obtain ⟨hresource, project, hproject, htask⟩ := of_decide_eq_true hassigned
    have hmem : assignment ∈ store.assignmentsFor project.id resourceId :=
      List.mem_filter.mpr ⟨List.mem_filter.mpr ⟨hstored, decide_eq_true htask⟩,
        decide_eq_true hresource⟩
    have hnil := hnone project hproject
    rw [if_neg (List.ne_nil_of_mem hmem)] at hnil
    cases hnil
  · intro hnone project hproject
    apply if_pos
    apply List.eq_nil_iff_forall_not_mem.mpr
    intro assignment hassignment
    obtain ⟨hof, hresource⟩ := List.mem_filter.mp hassignment
    obtain ⟨hstored, htask⟩ := List.mem_filter.mp hof
    exact hnone assignment hstored (decide_eq_true ⟨of_decide_eq_true hresource, project,
      hproject, of_decide_eq_true htask⟩)

end

/-! ## What the portfolio reports -/

theorem filterScopeRows_sublist {α : Type} (active : Option UserSessionPrincipal) (rows : List α)
    (scopeType permissionCode : String) (scopeIdGetter : α → String) :
    (filterScopeRows active rows scopeType permissionCode scopeIdGetter).Sublist rows := by
  unfold filterScopeRows
  split
  · split
    · exact List.filter_sublist
    · exact List.Sublist.refl rows
  · exact List.nil_sublist rows

/-- Rows that were filtered pass the filter again. -/
theorem filterScopeRows_twice {α : Type} (active : Option UserSessionPrincipal) (rows : List α)
    (scopeType permissionCode : String) (scopeIdGetter : α → String) :
    filterScopeRows active (filterScopeRows active rows scopeType permissionCode scopeIdGetter)
        scopeType permissionCode scopeIdGetter =
      filterScopeRows active rows scopeType permissionCode scopeIdGetter := by
  unfold filterScopeRows
  split
  · split
    · rw [List.filter_filter]
      simp only [Bool.and_self]
    · rfl
  · rfl

/-- The projects that the user may read. -/
def accessibleProjects (service : DashboardService) (store : ProjectStore) : List Project :=
  filterScopeRows service.userSession store.projects.rows "project" "project.read" Project.id

theorem nodup_accessibleProjects (service : DashboardService) (store : ProjectStore) :
    ((accessibleProjects service store).map Project.id).Nodup :=
  store.projects.nodup.sublist ((filterScopeRows_sublist _ _ _ _ _).map Project.id)

/-- The portfolio warns of overloads exactly when a row is above its capacity. -/
theorem mem_buildPortfolioAlerts {portfolio : DashboardPortfolio}
    {resourceLoad : List ResourceLoadRow} {costVariance : ℚ}
    (hprojects : portfolio.projectsTotal ≠ 0) :
    (∃ resources, PortfolioAlert.exceedCapacity resources ∈
      buildPortfolioAlerts portfolio resourceLoad costVariance) ↔
      ∃ row ∈ resourceLoad, 100 < row.utilizationPercent := by
  have hoverloaded : overloaded resourceLoad ≠ [] ↔
      ∃ row ∈ resourceLoad, 100 < row.utilizationPercent := by
    simp [overloaded, List.filter_eq_nil_iff]
  have hmem : ∀ (condition : Prop) [Decidable condition] (alert other : PortfolioAlert),
      alert ∈ (if condition then [other] else []) ↔ condition ∧ alert = other := by
    intro condition _ alert other
    by_cases h : condition <;> simp [h]
  rw [← hoverloaded, buildPortfolioAlerts, if_neg hprojects, ← ite_not]
  simp only [List.mem_append, hmem]
  simp

theorem filter_entries {service : DashboardService} {store : ProjectStore}
    {projects : List Project} {entries : List PortfolioEntry}
    (h : List.Forall₂ (fun project entry => portfolioEntry service store project = .ok entry)
      projects entries) (resourceId : String) :
    ((entries.flatMap PortfolioEntry.loads).filter fun row => row.resourceId = resourceId) =
      summaryRows service.calendar store projects resourceId := by
  rw [List.filter_flatMap, summaryRows]
  induction h with
  | nil => rfl
  | cons hentry _ ih =>
      obtain ⟨kpi, -, hentry⟩ := bind_ok hentry
      obtain ⟨loads, hloads, hentry⟩ := bind_ok hentry
      cases hentry
      rw [List.flatMap_cons, List.flatMap_cons, ih]
      exact congrArg (· ++ _) (filter_summary hloads resourceId)

theorem getPortfolioData_spec {service : DashboardService} {store : ProjectStore}
    {data : DashboardData} (h : getPortfolioData service store = .ok data) :
    ∃ rows, data.resourceLoad = mergedResourceLoad rows ∧
      (∀ resourceId, (rows.filter fun row => row.resourceId = resourceId) =
        summaryRows service.calendar store (accessibleProjects service store) resourceId) ∧
      ((∃ resources, PortfolioAlert.exceedCapacity resources ∈ data.alerts) ↔
        ∃ row ∈ data.resourceLoad, 100 < row.utilizationPercent) := by
  obtain ⟨-, -, h⟩ := bind_ok h
  obtain ⟨listed, hlisted, h⟩ := bind_ok h
  obtain ⟨-, -, hlisted⟩ := bind_ok hlisted
  cases hlisted
  dsimp only at h
  rw [filterScopeRows_twice, ← accessibleProjects] at h
  split at h
  next hnone =>
    cases h
    refine ⟨[], rfl, fun resourceId => ?_, ?_⟩
    · rw [hnone]
      rfl
    · simp
  next hsome =>
    obtain ⟨entries, hentries, h⟩ := bind_ok h
    cases h
    have hforall := mapM_eq_ok.mp hentries
    refine ⟨entries.flatMap PortfolioEntry.loads, rfl, fun resourceId => ?_, ?_⟩
    · exact filter_entries hforall resourceId
    · apply mem_buildPortfolioAlerts
      change entries.length ≠ 0
      rw [← hforall.length_eq]
      exact fun hzero => hsome (List.length_eq_zero_iff.mp hzero)

/-- A resource has a merged row when some project assigns it, and the row merges the rows of the
projects. -/
theorem mem_resourceLoad {service : DashboardService} {store : ProjectStore}
    {data : DashboardData} (h : getPortfolioData service store = .ok data) (resourceId : String) :
    ((∃ row ∈ data.resourceLoad, row.resourceId = resourceId) ↔
      store.assignmentsAcross (accessibleProjects service store) resourceId ≠ []) ∧
    ∀ row ∈ data.resourceLoad, row.resourceId = resourceId → MergesRows store resourceId
      (summaryRows service.calendar store (accessibleProjects service store) resourceId) row := by
  obtain ⟨rows, hload, hrows, -⟩ := getPortfolioData_spec h
  have hmem : ∀ row, row ∈ data.resourceLoad ∧ row.resourceId = resourceId ↔
      mergedLoads.joinAll none (summaryRows service.calendar store
        (accessibleProjects service store) resourceId) = some row := by
    intro row
    have hget := mergedLoads.get?_collect .empty rows resourceId
    rw [hrows resourceId] at hget
    rw [hload, mergedResourceLoad, List.mem_insertionSort, List.mem_reverse,
      ← Table.get?_eq_some_iff, hget]
    rfl
  constructor
  · have hnil : summaryRows service.calendar store (accessibleProjects service store) resourceId =
        [] ↔ store.assignmentsAcross (accessibleProjects service store) resourceId = [] :=
      summaryRows_eq_nil
    rw [ne_eq, ← hnil, ← mergedLoads.joinAll_eq_none, ← ne_eq, Option.ne_none_iff_exists']
    exact exists_congr hmem
  · exact fun row hrow hkey => mergesRows_of_joinAll ((hmem row).mp ⟨hrow, hkey⟩)

section

variable (calendar : WorkCalendarEngine) (store : ProjectStore) (projects : List Project)
  (resourceId : String)

/-- On one working day every project takes the most that it ever takes of the resource. -/
def ProjectPeaksMeet : Prop :=
  PeaksMeet calendar.workdays projects (store.projectLoad resourceId) fun project =>
    peakAllocation calendar (store.tasksOf project.id) (store.assignmentsFor project.id resourceId)

/-- On some working day the projects together take more of the resource than there is. -/
def CombinedOverload : Prop :=
  ∃ day ∈ calendar.workdays, capacityPercentOf (store.resources.get? resourceId) <
    store.combinedLoad projects resourceId day + store.combinedUnscheduled projects resourceId

/-- The peaks of the projects, and what is not scheduled, added up. -/
def addedAllocation : ℚ :=
  (projects.map fun project => projectAllocation calendar store project.id resourceId).sum

variable {calendar store projects resourceId}

theorem addedAllocation_eq (hprojects : (projects.map Project.id).Nodup) :
    addedAllocation calendar store projects resourceId =
      (projects.map fun project => peakAllocation calendar (store.tasksOf project.id)
        (store.assignmentsFor project.id resourceId)).sum +
      store.combinedUnscheduled projects resourceId := by
  rw [combinedUnscheduled_eq hprojects, ← List.sum_map_add]
  rfl

theorem combined_le_added (hprojects : (projects.map Project.id).Nodup) {peak : ℚ}
    (hpeak : IsPeak calendar.workdays (store.combinedLoad projects resourceId) peak) :
    peak + store.combinedUnscheduled projects resourceId ≤
      addedAllocation calendar store projects resourceId ∧
    (addedAllocation calendar store projects resourceId =
      peak + store.combinedUnscheduled projects resourceId ↔
        ProjectPeaksMeet calendar store projects resourceId) := by
  have hmembers : ∀ project ∈ projects, IsPeak calendar.workdays
      (store.projectLoad resourceId project) (peakAllocation calendar (store.tasksOf project.id)
        (store.assignmentsFor project.id resourceId)) :=
    fun project _ => isPeak_peakAllocation calendar _ _
  rw [combinedLoad_eq hprojects] at hpeak
  rw [addedAllocation_eq hprojects, add_le_add_iff_right, add_left_inj, eq_comm]
  exact ⟨IsPeak.le_sum hmembers hpeak, IsPeak.eq_sum_iff hmembers hpeak⟩

theorem combinedOverload_iff {peak : ℚ}
    (hpeak : IsPeak calendar.workdays (store.combinedLoad projects resourceId) peak) :
    CombinedOverload calendar store projects resourceId ↔
      capacityPercentOf (store.resources.get? resourceId) <
        peak + store.combinedUnscheduled projects resourceId := by
  have hdays : calendar.workdays.Nonempty :=
    ⟨calendar.workingDay 0, calendar.isWorkingDay_workingDay 0⟩
  have hload : ∀ day ∈ calendar.workdays, 0 ≤ store.combinedLoad projects resourceId day :=
    fun day _ => store.tasks.dailyLoad_nonneg _ day
  rw [← sub_lt_iff_lt_add, hpeak.lt_iff hdays hload]
  simp only [CombinedOverload, sub_lt_iff_lt_add]

/-- Nothing is overloaded that nobody is assigned to. -/
theorem assigned_of_combinedOverload (h : CombinedOverload calendar store projects resourceId) :
    store.assignmentsAcross projects resourceId ≠ [] := by
  rintro hnone
  obtain ⟨day, -, hlt⟩ := h
  have hcapacity := capacityPercentOf_pos (store.resources.get? resourceId)
  have hzero : store.combinedLoad projects resourceId day +
      store.combinedUnscheduled projects resourceId = 0 := by
    rw [ProjectStore.combinedLoad, ProjectStore.combinedUnscheduled, hnone]
    exact add_zero 0
  exact (hcapacity.trans hlt).ne hzero.symm

end

theorem MergesRows.utilization_eq {calendar : WorkCalendarEngine} {store : ProjectStore}
    {projects : List Project} {resourceId : String} {row : ResourceLoadRow}
    (h : MergesRows store resourceId (summaryRows calendar store projects resourceId) row) :
    row.utilizationPercent = addedAllocation calendar store projects resourceId /
      capacityPercentOf (store.resources.get? resourceId) * 100 := by
  rw [h.utilization, h.capacity, h.total, sum_summaryRows]
  rfl

theorem percent_lt_iff {total capacity : ℚ} (h : 0 < capacity) :
    100 < total / capacity * 100 ↔ capacity < total := by
  rw [← one_lt_div h]
  constructor <;> intro hlt <;> linarith

/-- The portfolio reports the added peaks of the projects. They are at least the peak of all
assignments together, and that peak exactly when the projects peak on one day. -/
theorem getPortfolioData_load {service : DashboardService} {store : ProjectStore}
    {data : DashboardData} (h : getPortfolioData service store = .ok data) :
    (∀ resourceId, (∃ row ∈ data.resourceLoad, row.resourceId = resourceId) ↔
      store.assignmentsAcross (accessibleProjects service store) resourceId ≠ []) ∧
    (∀ row ∈ data.resourceLoad, ∀ peak, IsPeak service.calendar.workdays
        (store.combinedLoad (accessibleProjects service store) row.resourceId) peak →
      (peak + store.combinedUnscheduled (accessibleProjects service store) row.resourceId) /
          capacityPercentOf (store.resources.get? row.resourceId) * 100 ≤
        row.utilizationPercent ∧
      (row.utilizationPercent =
          (peak + store.combinedUnscheduled (accessibleProjects service store) row.resourceId) /
            capacityPercentOf (store.resources.get? row.resourceId) * 100 ↔
        ProjectPeaksMeet service.calendar store (accessibleProjects service store)
          row.resourceId)) ∧
    ((∃ resourceId, CombinedOverload service.calendar store (accessibleProjects service store)
        resourceId) →
      ∃ resources, PortfolioAlert.exceedCapacity resources ∈ data.alerts) ∧
    ((∀ resourceId, ProjectPeaksMeet service.calendar store (accessibleProjects service store)
        resourceId) →
      ((∃ resources, PortfolioAlert.exceedCapacity resources ∈ data.alerts) ↔
        ∃ resourceId, CombinedOverload service.calendar store
          (accessibleProjects service store) resourceId)) := by
  have hprojects := nodup_accessibleProjects service store
  have hassigned := fun resourceId => (mem_resourceLoad h resourceId).1
  have hmerges := fun resourceId => (mem_resourceLoad h resourceId).2
  obtain ⟨rows, -, -, halert⟩ := getPortfolioData_spec h
  generalize accessibleProjects service store = projects at *
  have hpeak := fun resourceId => isPeak_peakAllocation service.calendar store.tasks
    (store.assignmentsAcross projects resourceId)
  have hreported : ∀ row ∈ data.resourceLoad, 100 < row.utilizationPercent ↔
      capacityPercentOf (store.resources.get? row.resourceId) <
        addedAllocation service.calendar store projects row.resourceId := by
    intro row hrow
    rw [(hmerges row.resourceId row hrow rfl).utilization_eq]
    exact percent_lt_iff (capacityPercentOf_pos _)
  have hwarned : (∃ resourceId, CombinedOverload service.calendar store projects resourceId) →
      ∃ resources, PortfolioAlert.exceedCapacity resources ∈ data.alerts := by
    rintro ⟨resourceId, hoverload⟩
    obtain ⟨row, hrow, rfl⟩ := (hassigned resourceId).mpr (assigned_of_combinedOverload hoverload)
    rw [halert]
    refine ⟨row, hrow, (hreported row hrow).mpr ?_⟩
    exact ((combinedOverload_iff (hpeak _)).mp hoverload).trans_le
      (combined_le_added hprojects (hpeak _)).1
  refine ⟨hassigned, ?_, hwarned, ?_⟩
  · intro row hrow peak hrowPeak
    obtain ⟨hle, hmeet⟩ := combined_le_added hprojects hrowPeak
    have hcapacity := capacityPercentOf_pos (store.resources.get? row.resourceId)
    rw [(hmerges row.resourceId row hrow rfl).utilization_eq, ← hmeet]
    constructor
    · gcongr
    · rw [mul_left_inj' (by norm_num), div_left_inj' hcapacity.ne']
  · intro hmeet
    refine ⟨?_, hwarned⟩
    rw [halert]
    rintro ⟨row, hrow, hlt⟩
    refine ⟨row.resourceId, (combinedOverload_iff (hpeak _)).mpr ?_⟩
    rw [← (combined_le_added hprojects (hpeak _)).2.mpr (hmeet row.resourceId)]
    exact (hreported row hrow).mp hlt

/-! ## Two projects that share a resource -/

def portfolioManager : UserSessionPrincipal where
  userId := "U1"
  userId_ne := by decide
  username := "manager"
  permissions := ["project.read", "report.view"]

def portfolioService : DashboardService where
  userSession := some portfolioManager
  calendar := weekdayCalendar
  today := 1

def weldOn (day : Date) (id projectId : String) : Task where
  id := id
  projectId := projectId
  name := "Weld"
  startDate := some day
  endDate := some day
  durationDays := some 1

/-- A welder is assigned 60 percent in each of two projects, on one day in each. -/
def sharedWelder (first second : Date) : ProjectStore where
  projects := ⟨[{ id := "P1", name := "North" }, { id := "P2", name := "South" }], by decide⟩
  tasks := ⟨[weldOn first "T1" "P1", weldOn second "T2" "P2"],
    show ["T1", "T2"].Nodup by decide⟩
  resources := ⟨[{ id := "R1", name := "Welder" }], by decide⟩
  assignments := ⟨[{ id := "A1", taskId := "T1", resourceId := "R1", allocationPercent := 60 },
    { id := "A2", taskId := "T2", resourceId := "R1", allocationPercent := 60 }], by decide⟩

/-- On different days the welder never works more than 60 percent, and is reported with 120. -/
theorem reportedOverload_differentDays :
    ∃ data, getPortfolioData portfolioService (sharedWelder 1 2) = .ok data ∧
      (∃ row ∈ data.resourceLoad, row.resourceId = "R1" ∧ row.capacityPercent = 100 ∧
        row.utilizationPercent = 120) ∧
      (∃ resources, PortfolioAlert.exceedCapacity resources ∈ data.alerts) ∧
      IsPeak weekdayCalendar.workdays ((sharedWelder 1 2).combinedLoad
        (accessibleProjects portfolioService (sharedWelder 1 2)) "R1") 60 ∧
      ∀ resourceId, ¬ CombinedOverload weekdayCalendar (sharedWelder 1 2)
        (accessibleProjects portfolioService (sharedWelder 1 2)) resourceId := by
  have hok : (getPortfolioData portfolioService (sharedWelder 1 2)).isOk = true := by
    decide +kernel
  cases hdata : getPortfolioData portfolioService (sharedWelder 1 2) with
  | error e =>
      rw [hdata] at hok
      cases hok
  | ok data =>
      obtain ⟨rows, -, -, halert⟩ := getPortfolioData_spec hdata
      obtain ⟨hassigned, hmerges⟩ := mem_resourceLoad hdata "R1"
      obtain ⟨row, hrow, hkey⟩ := hassigned.mpr (by decide +kernel)
      have hmerged := hmerges row hrow hkey
      have hutilization : row.utilizationPercent = 120 := by
        rw [hmerged.utilization_eq]
        decide +kernel
      have hpeak : peakAllocation weekdayCalendar (sharedWelder 1 2).tasks
          ((sharedWelder 1 2).assignmentsAcross
            (accessibleProjects portfolioService (sharedWelder 1 2)) "R1") = 60 := by
        decide +kernel
      refine ⟨data, rfl, ⟨row, hrow, hkey, ?_, hutilization⟩, ?_, ?_, ?_⟩
      · rw [hmerged.capacity]
        decide +kernel
      · exact halert.mpr ⟨row, hrow, by rw [hutilization]; norm_num⟩
      · exact hpeak ▸ isPeak_peakAllocation weekdayCalendar _ _
      · intro resourceId hoverload
        by_cases hwelder : resourceId = "R1"
        · subst hwelder
          rw [combinedOverload_iff (isPeak_peakAllocation weekdayCalendar _ _), hpeak] at hoverload
          exact absurd hoverload (by decide +kernel)
        · apply assigned_of_combinedOverload hoverload
          apply List.filter_eq_nil_iff.mpr
          intro assignment hstored hassigned
          have hresource : assignment.resourceId = "R1" := by
            have hall : ∀ other ∈ (sharedWelder 1 2).assignments.rows,
                other.resourceId = "R1" := by
              decide
            exact hall assignment hstored
          exact hwelder ((of_decide_eq_true hassigned).1.symm.trans hresource)

/-- On one day the 120 percent are what the welder is asked for. -/
theorem getPortfolioData_load_sameDay :
    ∃ data, getPortfolioData portfolioService (sharedWelder 1 1) = .ok data ∧
      ∃ resources, PortfolioAlert.exceedCapacity resources ∈ data.alerts := by
  have hok : (getPortfolioData portfolioService (sharedWelder 1 1)).isOk = true := by
    decide +kernel
  cases hdata : getPortfolioData portfolioService (sharedWelder 1 1) with
  | error e =>
      rw [hdata] at hok
      cases hok
  | ok data =>
      obtain ⟨-, -, hwarned, -⟩ := getPortfolioData_load hdata
      exact ⟨data, rfl, hwarned ⟨"R1", 1, rfl, by decide +kernel⟩⟩

end ProjectManager
