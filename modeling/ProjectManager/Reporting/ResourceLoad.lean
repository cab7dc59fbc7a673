import Mathlib.Algebra.Order.Floor.Defs
import Mathlib.Data.List.Sort
import Mathlib.Data.Rat.Floor
import ProjectManager.Foundation.Groups
import ProjectManager.Foundation.Peaks
import ProjectManager.Reporting.CostPolicy

/-! # Resource loads

How much of its capacity a resource is assigned in a project. Assignments to
tasks with dates add up day by day, and the busiest working day counts;
assignments to tasks without dates come on top of it.
-/

namespace ProjectManager

open Foundation

/-! ## Numbers in texts -/

def roundHalfEven (x : ℚ) : ℤ :=
  let floor := ⌊x⌋
  if x - floor < 1 / 2 then floor
  else if 1 / 2 < x - floor then floor + 1
  else if floor % 2 = 0 then floor
  else floor + 1

/-- The format `.1f`. -/
def formatTenths (x : ℚ) : String :=
  let tenths := (roundHalfEven (|x| * 10)).toNat
  (if x < 0 then "-" else "") ++ toString (tenths / 10) ++ "." ++ toString (tenths % 10)

/-- The format `.2f`. -/
def formatCents (x : ℚ) : String :=
  let cents := (roundHalfEven (|x| * 100)).toNat
  (if x < 0 then "-" else "") ++ toString (cents / 100) ++ "." ++
    (if cents % 100 < 10 then "0" else "") ++ toString (cents % 100)

/-! ## Rows -/

structure ResourceLoadRow where
  resourceId : String
  resourceName : String
  totalAllocationPercent : ℚ
  tasksCount : ℕ
  capacityPercent : ℚ := 100
  utilizationPercent : ℚ := 0
  deriving DecidableEq

/-- The entries of a resource in `load_by_res` and `daily_by_res`. -/
structure CollectedLoad where
  resourceId : String
  count : ℕ := 0
  unscheduled : ℚ := 0
  daily : Buckets Date ℚ := .empty

/-- The working days from one date to the other, whichever comes first. -/
def WorkCalendarEngine.iterWorkdays (calendar : WorkCalendarEngine) (start finish : Date) :
    List Date :=
  let (first, last) := if finish < start then (finish, start) else (start, finish)
  ((List.range (last - first + 1).toNat).map fun i : ℕ => first + (i : ℤ)).filter
    fun day => calendar.isWorkingDay day

def TasksById.assignedDates (tasks : TasksById) (assignment : TaskAssignment) :
    Option (Date × Date) :=
  (tasks.get? assignment.taskId).bind fun task =>
    task.startDate.bind fun start => task.endDate.map fun finish => (start, finish)

section

variable (calendar : WorkCalendarEngine) (tasks : TasksById)

def CollectedLoad.add (load : CollectedLoad) (assignment : TaskAssignment) : CollectedLoad :=
  let counted := { load with count := load.count + 1 }
  if 0 < assignment.allocationPercent then
    match tasks.assignedDates assignment with
    | some (start, finish) =>
        { counted with
          daily := load.daily.addAll ((calendar.iterWorkdays start finish).map fun day =>
            (day, assignment.allocationPercent)) }
    | none =>
        -- An assignment without dates is taken as a risk on any day.
        { counted with unscheduled := load.unscheduled + assignment.allocationPercent }
  else counted

/-- The loop over the assignments: each goes to the entries of its resource. -/
def collectedLoads : Grouping TaskAssignment.resourceId CollectedLoad.resourceId where
  join load assignment :=
    (load.getD { resourceId := assignment.resourceId }).add calendar tasks assignment
  key_join load assignment hload := by
    have hadd : ∀ load : CollectedLoad,
        (load.add calendar tasks assignment).resourceId = load.resourceId := by
      intro load
      unfold CollectedLoad.add
      dsimp only
      split
      · split <;> rfl
      · rfl
    rw [hadd]
    cases load with
    | none => rfl
    | some load => exact hload load rfl

end

/-- `x or 100.0`. -/
def orHundred (x : ℚ) : ℚ := if x = 0 then 100 else x

def capacityPercentOf (resource : Option Resource) : ℚ :=
  let capacity := (resource.map fun resource => orHundred resource.capacityPercent).getD 100
  if capacity ≤ 0 then 100 else capacity

section

variable (store : ProjectStore)

def resourceLoadRow (load : CollectedLoad) : ResourceLoadRow :=
  let resource := store.resources.get? load.resourceId
  let totalAllocation := load.daily.maxValue + load.unscheduled
  let capacity := capacityPercentOf resource
  { resourceId := load.resourceId
    resourceName := (resource.map Resource.name).getD "<unknown>"
    totalAllocationPercent := totalAllocation
    tasksCount := load.count
    capacityPercent := capacity
    utilizationPercent := totalAllocation / capacity * 100 }

/-- The sort key of the load rows, the highest pressure first. -/
def ResourceLoadRow.AtLeast (first second : ResourceLoadRow) : Prop :=
  second.utilizationPercent < first.utilizationPercent ∨
    second.utilizationPercent = first.utilizationPercent ∧
      second.totalAllocationPercent ≤ first.totalAllocationPercent

instance : DecidableRel ResourceLoadRow.AtLeast := fun first second =>
  inferInstanceAs (Decidable (second.utilizationPercent < first.utilizationPercent ∨
    second.utilizationPercent = first.utilizationPercent ∧
      second.totalAllocationPercent ≤ first.totalAllocationPercent))

/-- A project without tasks has no assignments, and no rows. -/
def getResourceLoadSummary (service : ReportingService) (projectId : String) :
    Except DomainError (List ResourceLoadRow) := do
  service.requireView "view resource load report" projectId
  let loads := (collectedLoads service.calendar (store.tasksOf projectId)).collect .empty
    (store.assignmentsOf projectId)
  return (loads.rows.reverse.map (resourceLoadRow store)).insertionSort ResourceLoadRow.AtLeast

end

/-! ## Daily loads -/

namespace TasksById

variable (tasks : TasksById)

/-- What an assignment takes of a resource on a day: all of it while its task lasts. -/
def allocationOn (assignment : TaskAssignment) (day : Date) : ℚ :=
  match tasks.assignedDates assignment with
  | some (start, finish) =>
      if 0 < assignment.allocationPercent ∧ min start finish ≤ day ∧ day ≤ max start finish then
        assignment.allocationPercent
      else 0
  | none => 0

/-- What an assignment takes while its task has no dates. -/
def unscheduledAllocation (assignment : TaskAssignment) : ℚ :=
  if 0 < assignment.allocationPercent ∧ tasks.assignedDates assignment = none then
    assignment.allocationPercent
  else 0

def dailyLoad (assignments : List TaskAssignment) (day : Date) : ℚ :=
  (assignments.map fun assignment => tasks.allocationOn assignment day).sum

def unscheduledLoad (assignments : List TaskAssignment) : ℚ :=
  (assignments.map tasks.unscheduledAllocation).sum

theorem allocationOn_nonneg (assignment : TaskAssignment) (day : Date) :
    0 ≤ tasks.allocationOn assignment day := by
  unfold allocationOn
  split
  · split
    next hactive => exact hactive.1.le
    next => exact le_rfl
  · exact le_rfl

theorem dailyLoad_nonneg (assignments : List TaskAssignment) (day : Date) :
    0 ≤ tasks.dailyLoad assignments day := by
  apply List.sum_nonneg
  intro amount hamount
  obtain ⟨assignment, -, rfl⟩ := List.mem_map.mp hamount
  exact tasks.allocationOn_nonneg assignment day

end TasksById

def WorkCalendarEngine.workdays (calendar : WorkCalendarEngine) : Set Date :=
  {day | calendar.isWorkingDay day = true}

section

variable (calendar : WorkCalendarEngine) (tasks : TasksById)

theorem mem_iterWorkdays {start finish day : Date} :
    day ∈ calendar.iterWorkdays start finish ↔
      day ∈ calendar.workdays ∧ min start finish ≤ day ∧ day ≤ max start finish := by
  unfold WorkCalendarEngine.iterWorkdays
  by_cases hlt : finish < start
  · simp only [if_pos hlt, List.mem_filter, mem_dayRange, min_eq_right hlt.le, max_eq_left hlt.le]
    exact and_comm
  · have hle := not_lt.mp hlt
    simp only [if_neg hlt, List.mem_filter, mem_dayRange, min_eq_left hle, max_eq_right hle]
    exact and_comm

theorem nodup_iterWorkdays (start finish : Date) : (calendar.iterWorkdays start finish).Nodup :=
  (nodup_dayRange _ _).filter _

/-- Days that come once get the amount once. -/
theorem sum_map_day {days : List Date} (hdays : days.Nodup) (amount : ℚ) (day : Date) :
    ((days.map fun other => (other, amount)).map fun item =>
      if day = item.1 then item.2 else 0).sum = if day ∈ days then amount else 0 := by
  induction days with
  | nil => rfl
  | cons head rest ih =>
      obtain ⟨hhead, hrest⟩ := List.nodup_cons.mp hdays
      rw [List.map_cons, List.map_cons, List.sum_cons, ih hrest]
      by_cases hday : day = head
      · subst hday
        rw [if_pos rfl, if_neg hhead, if_pos List.mem_cons_self, add_zero]
      · simp [hday]

/-- What the entries of a resource say about the assignments that they collect. -/
structure CollectedLoad.Holds (assignments : List TaskAssignment) (load : CollectedLoad) :
    Prop where
  count : load.count = assignments.length
  unscheduled : load.unscheduled = tasks.unscheduledLoad assignments
  daily : ∀ day ∈ calendar.workdays, load.daily.amount day = tasks.dailyLoad assignments day
  within : load.daily.Within calendar.workdays

variable {calendar tasks}

theorem CollectedLoad.holds_none (resourceId : String) :
    CollectedLoad.Holds calendar tasks [] { resourceId := resourceId } where
  count := rfl
  unscheduled := rfl
  daily _ _ := rfl
  within _ hbucket := nomatch hbucket

theorem dailyLoad_append (before : List TaskAssignment) (assignment : TaskAssignment)
    (day : Date) : tasks.dailyLoad (before ++ [assignment]) day =
      tasks.dailyLoad before day + tasks.allocationOn assignment day := by
  simp [TasksById.dailyLoad]

theorem unscheduledLoad_append (before : List TaskAssignment) (assignment : TaskAssignment) :
    tasks.unscheduledLoad (before ++ [assignment]) =
      tasks.unscheduledLoad before + tasks.unscheduledAllocation assignment := by
  simp [TasksById.unscheduledLoad]

theorem CollectedLoad.Holds.add {before : List TaskAssignment} {load : CollectedLoad}
    (h : load.Holds calendar tasks before) (assignment : TaskAssignment) :
    (load.add calendar tasks assignment).Holds calendar tasks (before ++ [assignment]) := by
  have hcount : load.count + 1 = (before ++ [assignment]).length := by
    rw [h.count, List.length_append, List.length_singleton]
  unfold CollectedLoad.add
  by_cases hpositive : 0 < assignment.allocationPercent
  · cases hdates : tasks.assignedDates assignment with
    | none =>
        have hallocation : ∀ day, tasks.allocationOn assignment day = 0 := by
          intro day
          rw [TasksById.allocationOn, hdates]
        rw [if_pos hpositive]
        constructor
        · exact hcount
        · rw [unscheduledLoad_append, TasksById.unscheduledAllocation,
            if_pos ⟨hpositive, hdates⟩, ← h.unscheduled]
        · intro day hday
          rw [dailyLoad_append, hallocation, add_zero]
          exact h.daily day hday
        · exact h.within
    | some dates =>
        rw [if_pos hpositive]
        constructor
        · exact hcount
        · rw [unscheduledLoad_append, TasksById.unscheduledAllocation, hdates,
            if_neg (fun hnone => nomatch hnone.2), add_zero]
          exact h.unscheduled
        · intro day hday
          rw [dailyLoad_append, ← h.daily day hday, TasksById.allocationOn, hdates]
          dsimp only
          rw [Buckets.amount_addAll, sum_map_day (nodup_iterWorkdays calendar _ _)]
          simp only [mem_iterWorkdays, hday, hpositive, true_and]
        · apply Buckets.within_addAll h.within
          intro item hitem
          obtain ⟨day, hday, rfl⟩ := List.mem_map.mp hitem
          exact ⟨((mem_iterWorkdays calendar).mp hday).1, hpositive.le⟩
  · have hallocation : ∀ day, tasks.allocationOn assignment day = 0 := by
      intro day
      unfold TasksById.allocationOn
      split
      · rw [if_neg fun hactive => hpositive hactive.1]
      · rfl
    rw [if_neg hpositive]
    constructor
    · exact hcount
    · rw [unscheduledLoad_append, TasksById.unscheduledAllocation,
        if_neg fun hnone => hpositive hnone.1, add_zero]
      exact h.unscheduled
    · intro day hday
      rw [dailyLoad_append, hallocation, add_zero]
      exact h.daily day hday
    · exact h.within

/-- The entries of a resource hold its assignments, and only those. -/
theorem CollectedLoad.holds_of_joinAll {assignments : List TaskAssignment}
    {load : CollectedLoad}
    (h : (collectedLoads calendar tasks).joinAll none assignments = some load) :
    load.Holds calendar tasks assignments := by
  apply Grouping.joinAll_induction (collectedLoads calendar tasks) _ _ h
  · intro assignment _
    exact (CollectedLoad.holds_none assignment.resourceId).add assignment
  · intro before assignment load _ hload
    exact hload.add assignment

theorem CollectedLoad.Holds.isPeak {assignments : List TaskAssignment} {load : CollectedLoad}
    (h : load.Holds calendar tasks assignments) :
    IsPeak calendar.workdays (tasks.dailyLoad assignments) load.daily.maxValue :=
  (Buckets.isPeak_maxValue h.within).congr fun day hday => (h.daily day hday).symm

end

/-! ## The rows of a summary -/

section

variable (calendar : WorkCalendarEngine)

/-- The most that assignments take of a resource on a working day. -/
def peakAllocation (tasks : TasksById) (assignments : List TaskAssignment) : ℚ :=
  (((collectedLoads calendar tasks).joinAll none assignments).map fun load =>
    load.daily.maxValue).getD 0

theorem isPeak_peakAllocation (tasks : TasksById) (assignments : List TaskAssignment) :
    IsPeak calendar.workdays (tasks.dailyLoad assignments)
      (peakAllocation calendar tasks assignments) := by
  unfold peakAllocation
  cases hload : (collectedLoads calendar tasks).joinAll none assignments with
  | none =>
      rw [(Grouping.joinAll_eq_none _).mp hload]
      exact ⟨le_rfl, fun _ _ => le_rfl, Or.inl rfl⟩
  | some load => exact (CollectedLoad.holds_of_joinAll hload).isPeak

variable (store : ProjectStore) (projectId resourceId : String)

def ProjectStore.assignmentsFor : List TaskAssignment :=
  (store.assignmentsOf projectId).filter fun assignment => assignment.resourceId = resourceId

/-- What a project takes of a resource: its peak, and what is not scheduled. -/
def projectAllocation : ℚ :=
  peakAllocation calendar (store.tasksOf projectId) (store.assignmentsFor projectId resourceId) +
    (store.tasksOf projectId).unscheduledLoad (store.assignmentsFor projectId resourceId)

/-- The row of a resource in the summary of a project that assigns it. -/
def summaryRow : ResourceLoadRow :=
  let resource := store.resources.get? resourceId
  { resourceId := resourceId
    resourceName := (resource.map Resource.name).getD "<unknown>"
    totalAllocationPercent := projectAllocation calendar store projectId resourceId
    tasksCount := (store.assignmentsFor projectId resourceId).length
    capacityPercent := capacityPercentOf resource
    utilizationPercent := projectAllocation calendar store projectId resourceId /
      capacityPercentOf resource * 100 }

variable {calendar store projectId resourceId}

theorem resourceLoadRow_eq {load : CollectedLoad} (hkey : load.resourceId = resourceId)
    (h : (collectedLoads calendar (store.tasksOf projectId)).joinAll none
      (store.assignmentsFor projectId resourceId) = some load) :
    resourceLoadRow store load = summaryRow calendar store projectId resourceId := by
  obtain ⟨hcount, hunscheduled, -, -⟩ := CollectedLoad.holds_of_joinAll h
  have hpeak : load.daily.maxValue = peakAllocation calendar (store.tasksOf projectId)
      (store.assignmentsFor projectId resourceId) := by
    rw [peakAllocation, h]
    rfl
  subst hkey
  rw [resourceLoadRow, summaryRow, projectAllocation, hcount, hunscheduled, hpeak]

theorem filter_summary {service : ReportingService} {rows : List ResourceLoadRow}
    (h : getResourceLoadSummary store service projectId = .ok rows) (resourceId : String) :
    (rows.filter fun row => row.resourceId = resourceId) =
      if store.assignmentsFor projectId resourceId = [] then []
      else [summaryRow service.calendar store projectId resourceId] := by
  obtain ⟨-, -, hrows⟩ := bind_ok h
  cases hrows
  generalize htable : (collectedLoads service.calendar (store.tasksOf projectId)).collect .empty
    (store.assignmentsOf projectId) = table
  have hrow : (table.get? resourceId) =
      (collectedLoads service.calendar (store.tasksOf projectId)).joinAll none
        (store.assignmentsFor projectId resourceId) := by
    rw [← htable]
    exact Grouping.get?_collect _ .empty (store.assignmentsOf projectId) resourceId
  -- Sorting, reversing and computing the rows leave the rows of the resource together.
  have hperm : List.Perm
      (((table.rows.reverse.map (resourceLoadRow store)).insertionSort
        ResourceLoadRow.AtLeast).filter fun row => row.resourceId = resourceId)
      ((table.get? resourceId).toList.map (resourceLoadRow store)) := by
    rw [← table.filter_key resourceId]
    refine ((List.perm_insertionSort _ _).filter _).trans ?_
    rw [List.filter_map]
    exact ((List.reverse_perm table.rows).filter _).map _
  cases hload : table.get? resourceId with
  | none =>
      rw [hload] at hrow hperm
      rw [if_pos ((Grouping.joinAll_eq_none _).mp hrow.symm)]
      exact hperm.eq_nil
  | some load =>
      rw [hload] at hrow hperm
      have hassigned : store.assignmentsFor projectId resourceId ≠ [] := by
        intro hnil
        rw [hnil] at hrow
        cases hrow
      rw [if_neg hassigned, List.perm_singleton.mp hperm,
        resourceLoadRow_eq (table.get?_eq_some hload).2 hrow.symm]

end

end ProjectManager
