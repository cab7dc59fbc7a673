import ProjectManager.Projects.Lifecycle
import ProjectManager.Scheduling.Leveling
import ProjectManager.Tasks.StoredSchedules

/-! # Assignments

A resource is assigned to a task, and the share that the task takes of it is
changed. Before that the shares of the resource are added up day by day. Where
the policy is strict, a day on which they exceed the capacity refuses the call.
-/

namespace ProjectManager

open Foundation ServiceProgram

/-- The values of `PM_OVERALLOCATION_POLICY`. -/
inductive OverallocationPolicy
  | strict
  | warn
  deriving DecidableEq, Repr

/-- What the task service is wired to for assignments. -/
structure AssignmentService where
  userSession : AuthorizationEngine
  overallocationPolicy : OverallocationPolicy

namespace TaskValidation

/-- The days from one date to the other, whichever comes first, without the weekends. -/
def iterWorkdays (start finish : Date) : List Date :=
  let (first, last) := if finish < start then (finish, start) else (start, finish)
  ((List.range (last - first + 1).toNat).map fun i : ℕ => first + (i : ℤ)).filter
    fun day => weekday day < 5

/-- What a task takes of a resource on a day: an entry of `daily_total` and `daily_tasks`. -/
structure DailyShare where
  day : Date
  taskName : String
  alloc : ℚ

section

variable (store : ProjectStore) (projectId : String) (start finish : Date)

def sharesOf (assignment : TaskAssignment) : List DailyShare :=
  match store.tasks.get? assignment.taskId with
  | none => []
  | some task =>
      if task.projectId ≠ projectId then []
      else
        match task.startDate, task.endDate with
        | some taskStart, some taskEnd =>
            let first := max start taskStart
            let last := min finish taskEnd
            if last < first then []
            else if assignment.allocationPercent ≤ 0 then []
            else (iterWorkdays first last).map fun day =>
              ⟨day, task.name, assignment.allocationPercent⟩
        | _, _ => []

end

def shareTotal (shares : List DailyShare) : ℚ := (shares.map DailyShare.alloc).sum

def overallocatedMessage (day : Date) (shares : List DailyShare) (capacityPercent : ℚ) : String :=
  "Resource would be over-allocated on " ++ Date.isoformat day ++ " (" ++
    formatTenths (shareTotal shares) ++ "% > " ++ formatTenths capacityPercent ++ "%).\nTasks: " ++
    String.intercalate ", " ((shares.map DailyShare.taskName).take 6) ++
    (if 6 < shares.length then "..." else "")

/-- The first day on which the shares exceed the capacity. -/
def overallocatedDay (shares : List DailyShare) (capacityPercent : ℚ) :
    Option (Date × List DailyShare) :=
  (((Grouping.listed DailyShare.day).collect .empty shares).rows.insertionSort
    fun first second => first.1 ≤ second.1).find? fun entry =>
      capacityPercent + Leveling.tolerance < shareTotal entry.2

/-- The warning of a check that does not raise. -/
def checkResourceOverallocation (policy : OverallocationPolicy) (store : ProjectStore)
    (projectId resourceId newTaskId : String) (newAllocPercent : ℚ)
    (excludeAssignmentId : Option String) : Except DomainError (Option String) := do
  let newTask ← require (store.tasks.get? newTaskId) taskNotFound
  match newTask.startDate, newTask.endDate with
  | some start, some finish =>
      let capacityPercent := capacityPercentOf (store.resources.get? resourceId)
      let assigns := store.assignments.rows.filter fun row => row.resourceId = resourceId
      if assigns = [] then return none
      let excluded := excludeAssignmentId.filter (· ≠ "")
      let others := assigns.filter fun row => some row.id ≠ excluded
      let shares := others.flatMap (sharesOf store projectId start finish) ++
        (iterWorkdays start finish).map fun day => ⟨day, newTask.name, newAllocPercent⟩
      match overallocatedDay shares capacityPercent with
      | none => return none
      | some (day, shares) =>
          let message := overallocatedMessage day shares capacityPercent
          if policy = .strict then
            .error {
              errorClass := .businessRuleError
              message := message
              code := "RESOURCE_OVERALLOCATED" }
          else return some message
  | _, _ => return none

end TaskValidation

namespace AssignmentService

open TaskValidation

variable (service : AssignmentService)

def requireManage (operationLabel : String) (projectId : Option String) :
    Except DomainError Unit := do
  service.userSession.requirePermission "task.manage" operationLabel
  match projectId.filter (· ≠ "") with
  | none => return ()
  | some projectId =>
      service.userSession.requireProjectPermission projectId "task.manage" operationLabel

def validateAllocation (allocationPercent : ℚ) : Except DomainError Unit :=
  ensure (0 < allocationPercent ∧ allocationPercent ≤ 100)
    (validationError "allocation_percent must be > 0 and <= 100.")

def setAssignmentAllocation (assignmentId : String) (allocationPercent : ℚ)
    (store : ProjectStore) : Except DomainError (TaskAssignment × ProjectStore) := do
  validateAllocation allocationPercent
  let assignment ← require (store.assignments.get? assignmentId)
    (notFoundError "Assignment not found." "ASSIGNMENT_NOT_FOUND")
  let task ← require (store.tasks.get? assignment.taskId) taskNotFound
  service.requireManage "set assignment allocation" (some task.projectId)
  let _ ← checkResourceOverallocation service.overallocationPolicy store task.projectId
    assignment.resourceId task.id allocationPercent (some assignment.id)
  let changed := { assignment with allocationPercent := allocationPercent }
  return (changed, { store with assignments := store.assignments.update changed })

/-- `assign_project_resource`, with the generated id as an argument. -/
def assignProjectResource (id taskId projectResourceId : String) (allocationPercent : ℚ)
    (store : ProjectStore) : Except DomainError (TaskAssignment × ProjectStore) := do
  validateAllocation allocationPercent
  let task ← require (store.tasks.get? taskId) taskNotFound
  service.requireManage "add assignment" (some task.projectId)
  let row ← require (store.projectResources.get? projectResourceId)
    (notFoundError "Project resource not found." "PROJECT_RESOURCE_NOT_FOUND")
  ensure (row.projectId = task.projectId)
    { errorClass := .businessRuleError
      message := "Selected resource is not linked to this task's project."
      code := "PROJECT_RESOURCE_MISMATCH" }
  ensure (row.isActive = true)
    { errorClass := .businessRuleError
      message := "This project resource is inactive."
      code := "PROJECT_RESOURCE_INACTIVE" }
  let _ ← checkResourceOverallocation service.overallocationPolicy store task.projectId
    row.resourceId task.id allocationPercent none
  let assignment : TaskAssignment :=
    { id := id
      taskId := taskId
      resourceId := row.resourceId
      allocationPercent := allocationPercent
      projectResourceId := some row.id }
  ensure (id ∉ store.assignments.ids) (takenPrimaryKey "task_assignments")
  return (assignment, { store with assignments := store.assignments.insert assignment })

/-- What `assign_resource` reads: the row of the resource in the project, or else a new one, with
the generated id as an argument. -/
def projectResourceRow (id taskId resourceId : String) (allocationPercent : ℚ)
    (store : ProjectStore) : Except DomainError (ProjectResource × Bool) := do
  service.requireManage "add assignment" none
  validateAllocation allocationPercent
  let task ← require (store.tasks.get? taskId) taskNotFound
  let resource ← require (store.resources.get? resourceId)
    (notFoundError "Resource not found." "RESOURCE_NOT_FOUND")
  match store.projectResources.rows.find? fun row =>
      row.projectId = task.projectId ∧ row.resourceId = resourceId with
  | some row => return (row, false)
  | none => return (
      { id := id
        projectId := task.projectId
        resourceId := resourceId
        hourlyRate := some resource.hourlyRate
        currencyCode := resource.currencyCode
        isActive := resource.isActive }, true)

def addProjectResource (row : ProjectResource) (store : ProjectStore) :
    Except DomainError (Unit × ProjectStore) := do
  ensure (row.id ∉ store.projectResources.ids) (takenPrimaryKey "project_resources")
  return ((), { store with projectResources := store.projectResources.insert row })

/-- The row of the resource in the project is committed on its own. -/
def assignResource (id projectResourceId taskId resourceId : String) (allocationPercent : ℚ) :
    ServiceProgram TaskAssignment := do
  let (row, isNew) ← readProjects
    (service.projectResourceRow projectResourceId taskId resourceId allocationPercent)
  if isNew then committed (addProjectResource row)
  committed (service.assignProjectResource id taskId row.id allocationPercent)

end AssignmentService

inductive AssignmentCall
  | assignResource (id projectResourceId taskId resourceId : String) (allocationPercent : ℚ)
  | assignProjectResource (id taskId projectResourceId : String) (allocationPercent : ℚ)
  | setAssignmentAllocation (assignmentId : String) (allocationPercent : ℚ)

def AssignmentCall.program (service : AssignmentService) :
    AssignmentCall → ServiceProgram TaskAssignment
  | .assignResource id projectResourceId taskId resourceId allocationPercent =>
      service.assignResource id projectResourceId taskId resourceId allocationPercent
  | .assignProjectResource id taskId projectResourceId allocationPercent =>
      committed (service.assignProjectResource id taskId projectResourceId allocationPercent)
  | .setAssignmentAllocation assignmentId allocationPercent =>
      committed (service.setAssignmentAllocation assignmentId allocationPercent)

def runAssignmentCall (call : AssignmentService × AssignmentCall)
    (session : Session PlatformStore) : Outcome DomainError PlatformStore :=
  (call.2.program call.1).outcome session

/-! ## Projects without conflicts -/

section

variable (calendar : WorkCalendarEngine)

/-- The preview with a threshold of a hundred percent reports nothing. -/
def ConflictFree (projectId : String) (store : ProjectStore) : Prop :=
  Leveling.previewResourceConflicts calendar store projectId 100 = .ok []

/-- What an assignment takes of a resource on a day, as the leveling books it. -/
def bookedBy (tasks : TasksById) (resourceId : String) (day : Date)
    (assignment : TaskAssignment) : ℚ :=
  Leveling.bookedOn
    ((tasks.get? assignment.taskId).elim [] (Leveling.bookTask calendar assignment)) resourceId day

end

section

variable {calendar : WorkCalendarEngine} {store : ProjectStore} {tasks : TasksById}
  {projectId resourceId : String} {day : Date} {assignment : TaskAssignment}

theorem bookedBy_cases (calendar : WorkCalendarEngine) (tasks : TasksById) (resourceId : String)
    (day : Date) (assignment : TaskAssignment) :
    bookedBy calendar tasks resourceId day assignment = 0 ∨
      bookedBy calendar tasks resourceId day assignment = assignment.allocationPercent ∧
        0 < assignment.allocationPercent ∧ assignment.resourceId = resourceId ∧
          ∃ task, tasks.get? assignment.taskId = some task ∧
            ∃ start ∈ task.startDate, ∃ finish ∈ task.endDate,
              day ∈ Leveling.iterWorkdays calendar start finish := by
  unfold bookedBy
  cases htask : tasks.get? assignment.taskId with
  | none => exact Or.inl rfl
  | some task =>
      rw [Option.elim_some, Leveling.bookTask]
      split
      next start finish hstart hfinish =>
        split
        next => exact Or.inl rfl
        next hpositive =>
          have hdays : (Leveling.iterWorkdays calendar start finish).Nodup :=
            (nodup_dayRange start finish).filter _
          rw [Leveling.bookedOn_days hdays]
          split
          next hbooked =>
            obtain ⟨hresource, hday⟩ := hbooked
            exact Or.inr ⟨rfl, not_le.mp hpositive, hresource, task, rfl, start, hstart, finish,
              hfinish, hday⟩
          next => exact Or.inl rfl
      next => exact Or.inl rfl

theorem bookedBy_nonneg : 0 ≤ bookedBy calendar tasks resourceId day assignment := by
  rcases bookedBy_cases calendar tasks resourceId day assignment with hzero | ⟨hshare, hpositive, -⟩
  · exact hzero.ge
  · exact hshare ▸ hpositive.le

theorem bookedBy_of_ne (h : assignment.resourceId ≠ resourceId) :
    bookedBy calendar tasks resourceId day assignment = 0 := by
  rcases bookedBy_cases calendar tasks resourceId day assignment with hzero | ⟨-, -, hresource, -⟩
  · exact hzero
  · exact absurd hresource h

theorem bookedOn_project (calendar : WorkCalendarEngine) (store : ProjectStore)
    (projectId resourceId : String) (day : Date) :
    Leveling.bookedOn (Leveling.bookings calendar (store.tasksOf projectId)
        (store.assignmentsOf projectId)) resourceId day =
      store.assignments.sum (bookedBy calendar (store.tasksOf projectId) resourceId day) := by
  have hsum (assignments : List TaskAssignment) :
      Leveling.bookedOn (Leveling.bookings calendar (store.tasksOf projectId) assignments)
          resourceId day =
        (assignments.map (bookedBy calendar (store.tasksOf projectId) resourceId day)).sum := by
    induction assignments with
    | nil => rfl
    | cons assignment rest ih =>
        rw [List.map_cons, List.sum_cons, ← ih]
        exact Leveling.bookedOn_append _ _ resourceId day
  rw [hsum]
  apply Table.sum_filter_of_eq_zero
  intro assignment _ hother
  unfold bookedBy
  rw [Table.get?_eq_none.mpr hother]
  rfl

theorem conflictFree_iff : ConflictFree calendar projectId store ↔
    ∀ resourceId day,
      store.assignments.sum (bookedBy calendar (store.tasksOf projectId) resourceId day) ≤
        capacityPercentOf (store.resources.get? resourceId) + Leveling.tolerance := by
  obtain ⟨conflicts, hconflicts⟩ :=
    Leveling.exists_previewResourceConflicts calendar store projectId (show (0 : ℚ) < 100 by norm_num)
  have hexceeds (resourceId : String) (day : Date) :
      (∃ conflict ∈ conflicts, conflict.position = (resourceId, day)) ↔
        capacityPercentOf (store.resources.get? resourceId) + Leveling.tolerance <
          store.assignments.sum (bookedBy calendar (store.tasksOf projectId) resourceId day) := by
    rw [Leveling.exists_previewed_iff hconflicts, ← bookedOn_project, Leveling.threshold_eq]
    split
    next => rfl
    next hother =>
      -- What has no assignment is measured against another threshold, and has no bookings.
      have hzero : Leveling.bookedOn (Leveling.bookings calendar (store.tasksOf projectId)
          (store.assignmentsOf projectId)) resourceId day = 0 := by
        apply Leveling.bookedOn_eq_zero
        intro booking hbooking hkey
        obtain ⟨assignment, hassignment, hbooked⟩ := List.mem_flatMap.mp hbooking
        cases htask : (store.tasksOf projectId).get? assignment.taskId with
        | none =>
            rw [htask] at hbooked
            cases hbooked
        | some task =>
            rw [htask] at hbooked
            have hresource := (Leveling.mem_bookTask hbooked).1
            have hkeyed : booking.resourceId = resourceId := congrArg Prod.fst hkey
            exact hother (List.mem_map.mpr ⟨assignment, hassignment, hresource ▸ hkeyed⟩)
      have hcapacity := Leveling.capacityPercentOf_pos (store.resources.get? resourceId)
      have htolerance := Leveling.tolerance_pos
      rw [hzero]
      constructor <;> intro hlt <;> linarith
  unfold ConflictFree
  rw [hconflicts]
  constructor
  · intro hnone resourceId day
    apply not_lt.mp
    intro hlt
    obtain ⟨conflict, hconflict, -⟩ := (hexceeds resourceId day).mpr hlt
    rw [Except.ok.inj hnone] at hconflict
    cases hconflict
  · intro hwithin
    apply congrArg Except.ok
    apply List.eq_nil_iff_forall_not_mem.mpr
    intro conflict hconflict
    have hlt := (hexceeds conflict.resourceId conflict.conflictDate).mp ⟨conflict, hconflict, rfl⟩
    exact (hwithin conflict.resourceId conflict.conflictDate).not_gt hlt

end

/-! ## What the check adds up -/

namespace TaskValidation

def sharedOn (shares : List DailyShare) (day : Date) : ℚ :=
  shareTotal (shares.filter fun share => share.day = day)

theorem sharedOn_append (first second : List DailyShare) (day : Date) :
    sharedOn (first ++ second) day = sharedOn first day + sharedOn second day := by
  simp [sharedOn, shareTotal]

theorem sharedOn_flatMap {α : Type} (items : List α) (sharesOf : α → List DailyShare)
    (day : Date) :
    sharedOn (items.flatMap sharesOf) day =
      (items.map fun item => sharedOn (sharesOf item) day).sum := by
  induction items with
  | nil => rfl
  | cons item rest ih => rw [List.flatMap_cons, sharedOn_append, ih, List.map_cons, List.sum_cons]

theorem sharedOn_days {days : List Date} (hdays : days.Nodup) {day : Date} (hday : day ∈ days)
    (taskName : String) (alloc : ℚ) :
    sharedOn (days.map fun other => ⟨other, taskName, alloc⟩) day = alloc := by
  have hone : days.filter (fun other => other = day) = [day] := by
    have hcount := List.count_eq_one_of_mem hdays hday
    rw [List.filter_eq, hcount]
    rfl
  unfold sharedOn
  rw [List.filter_map]
  change shareTotal ((days.filter fun other => other = day).map _) = alloc
  rw [hone]
  exact add_zero alloc

theorem sharedOn_nonneg {shares : List DailyShare} (h : ∀ share ∈ shares, 0 ≤ share.alloc)
    (day : Date) : 0 ≤ sharedOn shares day := by
  apply List.sum_nonneg
  intro amount hamount
  obtain ⟨share, hshare, rfl⟩ := List.mem_map.mp hamount
  exact h share (List.mem_of_mem_filter hshare)

/-- Where no day exceeds the capacity, what each day adds up to is within it. -/
theorem sharedOn_le {shares : List DailyShare} {capacityPercent : ℚ}
    (hcapacity : 0 < capacityPercent) (h : overallocatedDay shares capacityPercent = none)
    (day : Date) : sharedOn shares day ≤ capacityPercent + Leveling.tolerance := by
  by_cases hnone : shares.filter (fun share => share.day = day) = []
  · unfold sharedOn
    rw [hnone]
    have htolerance := Leveling.tolerance_pos
    exact (add_pos hcapacity htolerance).le
  · have hentry : (day, shares.filter fun share => share.day = day) ∈
        ((Grouping.listed DailyShare.day).collect .empty shares).rows :=
      Grouping.mem_listed.mpr ⟨hnone, rfl⟩
    have hwithin := List.find?_eq_none.mp h _ ((List.mem_insertionSort _).mpr hentry)
    exact not_lt.mp fun hlt => hwithin (decide_eq_true hlt)

theorem mem_weekdaysBetween {start finish day : Date} (hstart : start ≤ day)
    (hfinish : day ≤ finish) : day ∈ iterWorkdays start finish ↔ weekday day < 5 := by
  have hle : ¬ finish < start := (hstart.trans hfinish).not_gt
  unfold iterWorkdays
  rw [if_neg hle]
  dsimp only
  rw [List.mem_filter, mem_dayRange, decide_eq_true_iff]
  exact and_iff_right ⟨hstart, hfinish⟩

theorem nodup_weekdaysBetween (start finish : Date) : (iterWorkdays start finish).Nodup := by
  unfold iterWorkdays
  exact (nodup_dayRange _ _).filter _

section

variable {calendar : WorkCalendarEngine} {store : ProjectStore}
  {projectId resourceId taskId : String} {start finish day : Date} {assignment : TaskAssignment}

theorem sharesOf_nonneg (store : ProjectStore) (projectId : String) (start finish : Date)
    (assignment : TaskAssignment) :
    ∀ share ∈ sharesOf store projectId start finish assignment, 0 ≤ share.alloc := by
  intro share hshare
  unfold sharesOf at hshare
  split at hshare
  next => cases hshare
  next task _ =>
    split at hshare
    next => cases hshare
    next =>
      split at hshare
      next =>
        dsimp only at hshare
        split at hshare
        next => cases hshare
        next =>
          split at hshare
          next => cases hshare
          next hpositive =>
            obtain ⟨other, -, rfl⟩ := List.mem_map.mp hshare
            exact (not_le.mp hpositive).le
      next => cases hshare

/-- On a day of the new task that is no weekend the check counts all that the leveling books. -/
theorem bookedBy_le_sharedOn (hstart : start ≤ day) (hfinish : day ≤ finish)
    (hweekday : weekday day < 5) :
    bookedBy calendar (store.tasksOf projectId) resourceId day assignment ≤
      sharedOn (sharesOf store projectId start finish assignment) day := by
  rcases bookedBy_cases calendar (store.tasksOf projectId) resourceId day assignment with
    hzero | ⟨hshare, hpositive, -, task, htask, taskStart, htaskStart, taskEnd, htaskEnd, hday⟩
  · rw [hzero]
    exact sharedOn_nonneg (sharesOf_nonneg _ _ _ _ _) day
  · rw [get?_tasksOf] at htask
    obtain ⟨hstored, hproject⟩ := Option.filter_eq_some_iff.mp htask
    obtain ⟨hfrom, hto⟩ := mem_dayRange.mp (List.mem_of_mem_filter hday)
    have hfirst : max start taskStart ≤ day := max_le hstart hfrom
    have hlast : day ≤ min finish taskEnd := le_min hfinish hto
    have hshares : sharesOf store projectId start finish assignment =
        (iterWorkdays (max start taskStart) (min finish taskEnd)).map fun other =>
          ⟨other, task.name, assignment.allocationPercent⟩ := by
      unfold sharesOf
      rw [hstored]
      dsimp only
      rw [if_neg (not_not.mpr (of_decide_eq_true hproject)), Option.mem_def.mp htaskStart,
        Option.mem_def.mp htaskEnd]
      dsimp only
      rw [if_neg (hfirst.trans hlast).not_gt, if_neg hpositive.not_ge]
    rw [hshare, hshares, sharedOn_days (nodup_weekdaysBetween _ _)
      ((mem_weekdaysBetween hfirst hlast).mpr hweekday)]

end

end TaskValidation

/-! ## What an accepted share leaves -/

/-- Every day on which the leveling books the task is one that the check sees: it is no weekend, and
the resource has an assignment already, without which nothing is checked, or the share alone is
within its capacity. -/
def SeesBookedDays (calendar : WorkCalendarEngine) (projectId taskId resourceId : String)
    (alloc : ℚ) (store : ProjectStore) : Prop :=
  ∀ task ∈ store.tasks.get? taskId, task.projectId = projectId →
    ∀ start ∈ task.startDate, ∀ finish ∈ task.endDate,
      ∀ day ∈ Leveling.iterWorkdays calendar start finish,
        weekday day < 5 ∧
          ((∃ row ∈ store.assignments.rows, row.resourceId = resourceId) ∨
            alloc ≤ capacityPercentOf (store.resources.get? resourceId) + Leveling.tolerance)

instance (calendar : WorkCalendarEngine) (projectId taskId resourceId : String) (alloc : ℚ)
    (store : ProjectStore) :
    Decidable (SeesBookedDays calendar projectId taskId resourceId alloc store) :=
  inferInstanceAs (Decidable (∀ task ∈ store.tasks.get? taskId, task.projectId = projectId →
    ∀ start ∈ task.startDate, ∀ finish ∈ task.endDate,
      ∀ day ∈ Leveling.iterWorkdays calendar start finish,
        weekday day < 5 ∧
          ((∃ row ∈ store.assignments.rows, row.resourceId = resourceId) ∨
            alloc ≤ capacityPercentOf (store.resources.get? resourceId) + Leveling.tolerance)))

section

variable {calendar : WorkCalendarEngine} {store : ProjectStore} {projectId : String}

open TaskValidation

/-- An accepted share and what else is booked on a day of the task are within the capacity. -/
theorem booked_le_of_check {resourceId taskId : String} {alloc : ℚ}
    {excludeAssignmentId warning : Option String}
    (hcheck : checkResourceOverallocation .strict store projectId resourceId taskId alloc
      excludeAssignmentId = .ok warning)
    (hsees : SeesBookedDays calendar projectId taskId resourceId alloc store) {task : Task}
    (htask : store.tasks.get? taskId = some task) (hproject : task.projectId = projectId)
    {start finish day : Date} (hstart : task.startDate = some start)
    (hfinish : task.endDate = some finish)
    (hday : day ∈ Leveling.iterWorkdays calendar start finish) :
    ((store.assignments.rows.filter fun row =>
        some row.id ≠ excludeAssignmentId.filter (· ≠ "")).map
          (bookedBy calendar (store.tasksOf projectId) resourceId day)).sum + alloc ≤
      capacityPercentOf (store.resources.get? resourceId) + Leveling.tolerance := by
  obtain ⟨hweekday, hassigned⟩ := hsees task htask hproject start hstart finish hfinish day hday
  obtain ⟨hfrom, hto⟩ := mem_dayRange.mp (List.mem_of_mem_filter hday)
  obtain ⟨newTask, hnewTask, hcheck⟩ := bind_ok hcheck
  obtain rfl := Option.some.inj ((require_eq_ok.mp hnewTask).symm.trans htask)
  rw [hstart, hfinish] at hcheck
  dsimp only at hcheck
  -- Only the assignments of the resource book anything of it.
  have hown : ((store.assignments.rows.filter fun row =>
        some row.id ≠ excludeAssignmentId.filter (· ≠ "")).map
          (bookedBy calendar (store.tasksOf projectId) resourceId day)).sum =
      (((store.assignments.rows.filter fun row => row.resourceId = resourceId).filter fun row =>
        some row.id ≠ excludeAssignmentId.filter (· ≠ "")).map
          (bookedBy calendar (store.tasksOf projectId) resourceId day)).sum := by
    rw [List.filter_comm]
    exact (Table.sum_filter_of_eq_zero fun row _ hother => bookedBy_of_ne hother).symm
  rw [hown]
  split at hcheck
  next hnone =>
    rw [hnone]
    rcases hassigned with ⟨row, hrow, hresource⟩ | halone
    · have hmem : row ∈ store.assignments.rows.filter fun row => row.resourceId = resourceId :=
        List.mem_filter.mpr ⟨hrow, decide_eq_true hresource⟩
      rw [hnone] at hmem
      cases hmem
    · exact (zero_add alloc).le.trans halone
  next =>
    split at hcheck
    next hwithin =>
      have hshares := sharedOn_le (Leveling.capacityPercentOf_pos _) hwithin day
      have hnew := (mem_weekdaysBetween hfrom hto).mpr hweekday
      rw [sharedOn_append, sharedOn_flatMap,
        sharedOn_days (nodup_weekdaysBetween _ _) hnew] at hshares
      refine le_trans (add_le_add_left ?_ alloc) hshares
      apply List.sum_le_sum
      intro row _
      exact bookedBy_le_sharedOn hfrom hto hweekday
    next =>
      rw [if_pos rfl] at hcheck
      cases hcheck

theorem booked_le_of_accepted {assignment : TaskAssignment}
    {excludeAssignmentId warning : Option String} {task : Task}
    (htask : store.tasks.get? assignment.taskId = some task)
    (hcheck : checkResourceOverallocation .strict store task.projectId assignment.resourceId
      assignment.taskId assignment.allocationPercent excludeAssignmentId = .ok warning)
    (hsees : SeesBookedDays calendar projectId assignment.taskId assignment.resourceId
      assignment.allocationPercent store) (resourceId : String) (day : Date) :
    bookedBy calendar (store.tasksOf projectId) resourceId day assignment = 0 ∨
      ((store.assignments.rows.filter fun row =>
          some row.id ≠ excludeAssignmentId.filter (· ≠ "")).map
            (bookedBy calendar (store.tasksOf projectId) resourceId day)).sum +
          bookedBy calendar (store.tasksOf projectId) resourceId day assignment ≤
        capacityPercentOf (store.resources.get? resourceId) + Leveling.tolerance := by
  rcases bookedBy_cases calendar (store.tasksOf projectId) resourceId day assignment with
    hzero | ⟨hshare, -, rfl, found, hfound, start, hstart, finish, hfinish, hday⟩
  · exact Or.inl hzero
  · rw [get?_tasksOf, htask] at hfound
    obtain ⟨hstored, hproject⟩ := Option.filter_eq_some_iff.mp hfound
    cases hstored
    obtain rfl := of_decide_eq_true hproject
    rw [hshare]
    exact Or.inr (booked_le_of_check hcheck hsees htask rfl hstart hfinish hday)

theorem ConflictFree.insertAssignment (h : ConflictFree calendar projectId store)
    {assignment : TaskAssignment} (hnew : assignment.id ∉ store.assignments.ids)
    {warning : Option String} {task : Task}
    (htask : store.tasks.get? assignment.taskId = some task)
    (hcheck : checkResourceOverallocation .strict store task.projectId assignment.resourceId
      assignment.taskId assignment.allocationPercent none = .ok warning)
    (hsees : SeesBookedDays calendar projectId assignment.taskId assignment.resourceId
      assignment.allocationPercent store) :
    ConflictFree calendar projectId
      { store with assignments := store.assignments.insert assignment } := by
  apply conflictFree_iff.mpr
  intro resourceId day
  have hbefore := conflictFree_iff.mp h resourceId day
  change (store.assignments.insert assignment).sum
    (bookedBy calendar (store.tasksOf projectId) resourceId day) ≤ _
  rw [Table.sum_insert hnew]
  rcases booked_le_of_accepted htask hcheck hsees resourceId day with hzero | hwithin
  · rw [hzero, zero_add]
    exact hbefore
  · have hall : store.assignments.rows.filter (fun row =>
        some row.id ≠ (none : Option String).filter (· ≠ "")) = store.assignments.rows := by
      apply List.filter_eq_self.mpr
      intro row _
      exact decide_eq_true (Option.some_ne_none row.id)
    rw [hall, add_comm] at hwithin
    exact hwithin

theorem ConflictFree.updateAssignment (h : ConflictFree calendar projectId store)
    {stored changed : TaskAssignment} (hstored : store.assignments.get? changed.id = some stored)
    {warning : Option String} {task : Task}
    (htask : store.tasks.get? changed.taskId = some task)
    (hcheck : checkResourceOverallocation .strict store task.projectId changed.resourceId
      changed.taskId changed.allocationPercent (some changed.id) = .ok warning)
    (hsees : SeesBookedDays calendar projectId changed.taskId changed.resourceId
      changed.allocationPercent store) :
    ConflictFree calendar projectId
      { store with assignments := store.assignments.update changed } := by
  apply conflictFree_iff.mpr
  intro resourceId day
  have hbefore := conflictFree_iff.mp h resourceId day
  have hnonneg : 0 ≤ bookedBy calendar (store.tasksOf projectId) resourceId day stored :=
    bookedBy_nonneg
  change (store.assignments.update changed).sum
    (bookedBy calendar (store.tasksOf projectId) resourceId day) ≤ _
  rw [Table.sum_update hstored]
  rcases booked_le_of_accepted htask hcheck hsees resourceId day with hzero | hwithin
  · linarith
  · refine le_trans (add_le_add_left ?_ _) hwithin
    by_cases hempty : changed.id = ""
    · -- An empty id excludes nothing, so that the old share is counted as well.
      have hall : store.assignments.rows.filter (fun row =>
          some row.id ≠ (some changed.id).filter (· ≠ "")) = store.assignments.rows := by
        apply List.filter_eq_self.mpr
        intro row _
        rw [hempty]
        exact decide_eq_true (Option.some_ne_none row.id)
      rw [hall]
      exact sub_le_self _ hnonneg
    · obtain ⟨hmem, hid⟩ := Table.get?_eq_some_iff.mp hstored
      have hothers := Table.sum_delete hmem
        (bookedBy calendar (store.tasksOf projectId) resourceId day)
      rw [← hothers, hid]
      have hexcluded : (some changed.id).filter (· ≠ "") = some changed.id :=
        Option.filter_eq_some_iff.mpr ⟨rfl, decide_eq_true hempty⟩
      rw [hexcluded]
      apply le_of_eq
      simp [Table.sum, Table.filter]

end

/-! ## The calls -/

namespace AssignmentService

open TaskValidation

variable {service : AssignmentService} {store next : ProjectStore} {assignment : TaskAssignment}

theorem assignProjectResource_ok {id taskId projectResourceId : String} {allocationPercent : ℚ}
    (h : service.assignProjectResource id taskId projectResourceId allocationPercent store =
      .ok (assignment, next)) :
    ∃ task row warning, store.tasks.get? taskId = some task ∧
      store.projectResources.get? projectResourceId = some row ∧
      checkResourceOverallocation service.overallocationPolicy store task.projectId row.resourceId
        taskId allocationPercent none = .ok warning ∧
      assignment.taskId = taskId ∧ assignment.resourceId = row.resourceId ∧
      assignment.allocationPercent = allocationPercent ∧ assignment.id ∉ store.assignments.ids ∧
      next = { store with assignments := store.assignments.insert assignment } := by
  obtain ⟨_, -, h⟩ := bind_ok h
  obtain ⟨task, htask, h⟩ := bind_ok h
  obtain ⟨_, -, h⟩ := bind_ok h
  obtain ⟨row, hrow, h⟩ := bind_ok h
  iterate 2 obtain ⟨_, -, h⟩ := bind_ok h
  obtain ⟨warning, hcheck, h⟩ := bind_ok h
  obtain ⟨_, hnew, h⟩ := bind_ok h
  have htask := require_eq_ok.mp htask
  obtain ⟨-, hid⟩ := Table.get?_eq_some_iff.mp htask
  rw [hid] at hcheck
  cases h
  exact ⟨task, row, warning, htask, require_eq_ok.mp hrow, hcheck, rfl, rfl, rfl,
    ensure_eq_ok.mp hnew, rfl⟩

theorem setAssignmentAllocation_ok {assignmentId : String} {allocationPercent : ℚ}
    (h : service.setAssignmentAllocation assignmentId allocationPercent store =
      .ok (assignment, next)) :
    ∃ task stored warning, store.assignments.get? assignmentId = some stored ∧
      store.tasks.get? stored.taskId = some task ∧
      checkResourceOverallocation service.overallocationPolicy store task.projectId
        stored.resourceId stored.taskId allocationPercent (some stored.id) = .ok warning ∧
      assignment = { stored with allocationPercent := allocationPercent } ∧
      next = { store with assignments := store.assignments.update assignment } := by
  obtain ⟨_, -, h⟩ := bind_ok h
  obtain ⟨stored, hstored, h⟩ := bind_ok h
  obtain ⟨task, htask, h⟩ := bind_ok h
  obtain ⟨_, -, h⟩ := bind_ok h
  obtain ⟨warning, hcheck, h⟩ := bind_ok h
  have htask := require_eq_ok.mp htask
  obtain ⟨-, hid⟩ := Table.get?_eq_some_iff.mp htask
  rw [hid] at hcheck
  cases h
  exact ⟨task, stored, warning, require_eq_ok.mp hstored, htask, hcheck, rfl, rfl⟩

theorem projectResourceRow_ok {id taskId resourceId : String} {allocationPercent : ℚ}
    {row : ProjectResource} {isNew : Bool}
    (h : service.projectResourceRow id taskId resourceId allocationPercent store =
      .ok (row, isNew)) :
    row.resourceId = resourceId ∧
      (isNew = false → store.projectResources.get? row.id = some row) := by
  iterate 2 obtain ⟨_, -, h⟩ := bind_ok h
  obtain ⟨task, -, h⟩ := bind_ok h
  obtain ⟨resource, -, h⟩ := bind_ok h
  split at h
  next found hfound =>
    cases h
    have hmatches := List.find?_some hfound
    have hmatches := of_decide_eq_true hmatches
    exact ⟨hmatches.2, fun _ => Table.get?_of_mem _ (List.mem_of_find?_eq_some hfound)⟩
  next =>
    cases h
    exact ⟨rfl, fun hold => absurd hold Bool.true_eq_false.mp⟩

end AssignmentService

/-- The call names a share that its check sees. -/
def AssignmentCall.Seen (calendar : WorkCalendarEngine) (projectId : String)
    (store : ProjectStore) : AssignmentCall → Prop
  | .assignResource _ _ taskId resourceId allocationPercent =>
      SeesBookedDays calendar projectId taskId resourceId allocationPercent store
  | .assignProjectResource _ taskId projectResourceId allocationPercent =>
      ∀ row ∈ store.projectResources.get? projectResourceId,
        SeesBookedDays calendar projectId taskId row.resourceId allocationPercent store
  | .setAssignmentAllocation assignmentId allocationPercent =>
      ∀ row ∈ store.assignments.get? assignmentId,
        SeesBookedDays calendar projectId row.taskId row.resourceId allocationPercent store

instance (calendar : WorkCalendarEngine) (projectId : String) (store : ProjectStore)
    (call : AssignmentCall) : Decidable (call.Seen calendar projectId store) := by
  cases call with
  | assignResource id projectResourceId taskId resourceId allocationPercent =>
      exact inferInstanceAs (Decidable
        (SeesBookedDays calendar projectId taskId resourceId allocationPercent store))
  | assignProjectResource id taskId projectResourceId allocationPercent =>
      exact inferInstanceAs (Decidable (∀ row ∈ store.projectResources.get? projectResourceId,
        SeesBookedDays calendar projectId taskId row.resourceId allocationPercent store))
  | setAssignmentAllocation assignmentId allocationPercent =>
      exact inferInstanceAs (Decidable (∀ row ∈ store.assignments.get? assignmentId,
        SeesBookedDays calendar projectId row.taskId row.resourceId allocationPercent store))

/-- The call is made under the strict policy, and its check sees the share. -/
def StrictlySeen (calendar : WorkCalendarEngine) (projectId : String)
    (session : Session PlatformStore) (call : AssignmentService × AssignmentCall) : Prop :=
  call.1.overallocationPolicy = .strict ∧
    call.2.Seen calendar projectId session.pending.projects

instance (calendar : WorkCalendarEngine) (projectId : String) (session : Session PlatformStore)
    (call : AssignmentService × AssignmentCall) :
    Decidable (StrictlySeen calendar projectId session call) :=
  inferInstanceAs (Decidable (_ ∧ _))

section

variable {service : AssignmentService} {calendar : WorkCalendarEngine} {projectId : String}
  {store next : ProjectStore} {assignment : TaskAssignment} {session : Session PlatformStore}

theorem ConflictFree.assignProjectResource (h : ConflictFree calendar projectId store)
    (hstrict : service.overallocationPolicy = .strict) {id taskId projectResourceId : String}
    {allocationPercent : ℚ}
    (hsees : ∀ row ∈ store.projectResources.get? projectResourceId,
      SeesBookedDays calendar projectId taskId row.resourceId allocationPercent store)
    (hassigned : service.assignProjectResource id taskId projectResourceId allocationPercent
      store = .ok (assignment, next)) :
    ConflictFree calendar projectId next := by
  obtain ⟨task, row, warning, htask, hrow, hcheck, rfl, hresource, rfl, hnew, rfl⟩ :=
    AssignmentService.assignProjectResource_ok hassigned
  have hsees := hsees row hrow
  rw [hstrict, ← hresource] at hcheck
  rw [← hresource] at hsees
  exact h.insertAssignment hnew htask hcheck hsees

theorem ConflictFree.setAssignmentAllocation (h : ConflictFree calendar projectId store)
    (hstrict : service.overallocationPolicy = .strict) {assignmentId : String}
    {allocationPercent : ℚ}
    (hsees : ∀ row ∈ store.assignments.get? assignmentId,
      SeesBookedDays calendar projectId row.taskId row.resourceId allocationPercent store)
    (hset : service.setAssignmentAllocation assignmentId allocationPercent store =
      .ok (assignment, next)) :
    ConflictFree calendar projectId next := by
  obtain ⟨task, stored, warning, hstored, htask, hcheck, rfl, rfl⟩ :=
    AssignmentService.setAssignmentAllocation_ok hset
  obtain ⟨-, hid⟩ := Table.get?_eq_some_iff.mp hstored
  rw [hstrict] at hcheck
  let changed : TaskAssignment := { stored with allocationPercent := allocationPercent }
  have hchanged : store.assignments.get? changed.id = some stored :=
    (congrArg store.assignments.get? hid).trans hstored
  exact h.updateAssignment hchanged htask hcheck (hsees stored hstored)

/-- A committed operation keeps of the projects what it keeps of those that it reads. -/
theorem committed_both {α : Type} {P : ProjectStore → Prop}
    {operation : ProjectStore → Except DomainError (α × ProjectStore)}
    (h : session.Both fun state => P state.projects)
    (hoperation : ∀ value projects, operation session.pending.projects = .ok (value, projects) →
      P projects) :
    (committed operation).Spec session
      (fun value next => (next.Both fun state => P state.projects) ∧
        operation session.pending.projects = .ok (value, next.pending.projects))
      fun _ next => next.Both fun state => P state.projects := by
  apply (committed_spec operation session).mono
  · rintro value next ⟨projects, hwritten, rfl, hcommitted⟩
    have hprojects := hoperation _ _ hwritten
    refine ⟨⟨?_, hprojects⟩, hwritten⟩
    rw [hcommitted]
    exact hprojects
  · rintro e next (⟨-, rfl⟩ | ⟨-, rfl⟩)
    · exact h
    · exact h.rollback

/-- Neither what is committed nor what is pending has a conflict. -/
abbrev ConflictFreeIn (calendar : WorkCalendarEngine) (projectId : String)
    (session : Session PlatformStore) : Prop :=
  session.Both fun state => ConflictFree calendar projectId state.projects

/-- A resource that is new to the project gets its row first, which no check reads. -/
theorem assignResource_both (hstrict : service.overallocationPolicy = .strict)
    {id projectResourceId taskId resourceId : String} {allocationPercent : ℚ}
    (hsees : SeesBookedDays calendar projectId taskId resourceId allocationPercent
      session.pending.projects)
    (h : ConflictFreeIn calendar projectId session) :
    (service.assignResource id projectResourceId taskId resourceId allocationPercent).Spec session
      (fun _ next => ConflictFreeIn calendar projectId next)
      fun _ next => ConflictFreeIn calendar projectId next := by
  unfold AssignmentService.assignResource
  rw [Program.spec_bind, spec_readProjects]
  cases hread : service.projectResourceRow projectResourceId taskId resourceId allocationPercent
      session.pending.projects with
  | error e => exact h
  | ok read =>
      obtain ⟨row, isNew⟩ := read
      obtain ⟨hresource, hold⟩ := AssignmentService.projectResourceRow_ok hread
      have hassign (current : Session PlatformStore)
          (hcurrent : ConflictFreeIn calendar projectId current)
          (hrow : current.pending.projects.projectResources.get? row.id = some row)
          (hsees : SeesBookedDays calendar projectId taskId resourceId allocationPercent
            current.pending.projects) :
          (committed (service.assignProjectResource id taskId row.id allocationPercent)).Spec
            current
            (fun _ next => ConflictFreeIn calendar projectId next)
            fun _ next => ConflictFreeIn calendar projectId next := by
        apply (committed_both hcurrent ?_).mono (fun _ _ hnext => hnext.1) fun _ _ hnext => hnext
        intro assignment projects hassigned
        refine hcurrent.2.assignProjectResource hstrict ?_ hassigned
        intro found hfound
        obtain rfl := Option.some.inj (hrow.symm.trans hfound)
        exact hresource ▸ hsees
      dsimp only
      cases isNew with
      | false =>
          exact hassign session h (hold rfl) hsees
      | true =>
          rw [if_pos rfl, Program.spec_bind]
          refine (committed_both h ?_).mono ?_ fun _ _ hnext => hnext
          · intro value projects hadded
            obtain ⟨_, -, hadded⟩ := bind_ok hadded
            cases hadded
            exact h.2
          · rintro value next ⟨hnext, hadded⟩
            obtain ⟨_, hnew, hadded⟩ := bind_ok hadded
            have hprojects := (Prod.mk.inj (Except.ok.inj hadded)).2
            apply hassign next hnext
            · rw [← hprojects]
              exact Table.get?_insert_self (ensure_eq_ok.mp hnew)
            · rw [← hprojects]
              exact hsees

/-- What the check of a strict call sees does not make a conflict. -/
theorem runAssignmentCall_both (session : Session PlatformStore)
    (call : AssignmentService × AssignmentCall)
    (hseen : StrictlySeen calendar projectId session call)
    (h : ConflictFreeIn calendar projectId session) :
    ConflictFreeIn calendar projectId (runAssignmentCall call session).2 := by
  obtain ⟨service, call⟩ := call
  obtain ⟨hstrict, hseen⟩ := hseen
  apply Program.Spec.outcome_snd
  cases call with
  | assignResource id projectResourceId taskId resourceId allocationPercent =>
      exact assignResource_both hstrict hseen h
  | assignProjectResource id taskId projectResourceId allocationPercent =>
      apply (committed_both h ?_).mono (fun _ _ hnext => hnext.1) fun _ _ hnext => hnext
      intro assignment projects hassigned
      exact h.2.assignProjectResource hstrict hseen hassigned
  | setAssignmentAllocation assignmentId allocationPercent =>
      apply (committed_both h ?_).mono (fun _ _ hnext => hnext.1) fun _ _ hnext => hnext
      intro assignment projects hset
      exact h.2.setAssignmentAllocation hstrict hseen hset

end

/-- Where the checks of a run see every day on which the leveling books its tasks, no call of the
run makes a conflict. -/
theorem strictRun_conflictFree (calendar : WorkCalendarEngine) (projectId : String)
    (calls : List (AssignmentService × AssignmentCall)) (store : PlatformStore)
    (hstart : ConflictFree calendar projectId store.projects)
    (hseen : EachCall runAssignmentCall (StrictlySeen calendar projectId) (.clean store) calls) :
    ConflictFree calendar projectId
      (sessionAfter runAssignmentCall (.clean store) calls).committed.projects := by
  have hlast := sessionAfter_invariant runAssignmentCall_both calls hseen
    (Session.both_clean.mpr hstart)
  exact hlast.1

/-! ## A welder with a frame and a door -/

/-- Nobody is assigned to the two tasks yet. -/
def weldingSite (capacityPercent : ℚ) (first last : Date) : PlatformStore where
  sites := .empty
  parties := .empty
  approvals := .empty
  inventory := .empty
  projects := {
    projects := .insert .empty { id := "shop", name := "Shop" }
    tasks := .insert (.insert .empty
      { id := "frame", projectId := "shop", name := "Frame", startDate := some first
        endDate := some last })
      { id := "door", projectId := "shop", name := "Door", startDate := some first
        endDate := some first }
    resources := .insert .empty
      { id := "welder", name := "Welder", capacityPercent := capacityPercent } }

def strictForeman : AssignmentService where
  userSession := .admin
  overallocationPolicy := .strict

def assignWelder (id taskId : String) (allocationPercent : ℚ) :
    AssignmentService × AssignmentCall :=
  (strictForeman, .assignResource id "P1" taskId "welder" allocationPercent)

/-- The door is refused until the frame takes less. -/
def sharedShifts : List (AssignmentService × AssignmentCall) :=
  [assignWelder "A1" "frame" 60, assignWelder "A2" "door" 50,
    (strictForeman, .setAssignmentAllocation "A1" 50), assignWelder "A2" "door" 50]

theorem strictRun_conflictFree_welder :
    let site := weldingSite 100 1 2
    let last := (sessionAfter runAssignmentCall (.clean site) sharedShifts).committed
    last.projects.assignments.rows.map TaskAssignment.allocationPercent = [50, 50] ∧
      ConflictFree weekdayCalendar "shop" last.projects := by
  have hstart : ConflictFree weekdayCalendar "shop" (weldingSite 100 1 2).projects := rfl
  have hseen : EachCall runAssignmentCall (StrictlySeen weekdayCalendar "shop")
      (.clean (weldingSite 100 1 2)) sharedShifts := by
    decide +kernel
  exact ⟨by decide +kernel, strictRun_conflictFree weekdayCalendar "shop" sharedShifts
    (weldingSite 100 1 2) hstart hseen⟩

/-- Saturday is a working day as well. -/
def sixDayCalendar : WorkCalendarEngine where
  calendar := some { workingDays := [0, 1, 2, 3, 4, 5] }
  holidays := []
  proper := by decide

def StrictlyAccepted (session : Session PlatformStore)
    (call : AssignmentService × AssignmentCall) : Prop :=
  call.1.overallocationPolicy = .strict ∧ (runAssignmentCall call session).1 = none

instance (session : Session PlatformStore) (call : AssignmentService × AssignmentCall) :
    Decidable (StrictlyAccepted session call) :=
  inferInstanceAs (Decidable (_ ∧ _))

/-- The first share of a resource is not checked, and no share is checked on a Saturday. -/
theorem not_strictRun_conflictFree :
    let halfTime := weldingSite 50 1 2
    let first := [assignWelder "A1" "frame" 100]
    let saturday := weldingSite 100 6 6
    let both := [assignWelder "A1" "frame" 100, assignWelder "A2" "door" 100]
    (ConflictFree weekdayCalendar "shop" halfTime.projects ∧
      EachCall runAssignmentCall StrictlyAccepted (.clean halfTime) first ∧
      ¬ ConflictFree weekdayCalendar "shop"
        (sessionAfter runAssignmentCall (.clean halfTime) first).committed.projects) ∧
    ConflictFree sixDayCalendar "shop" saturday.projects ∧
      EachCall runAssignmentCall StrictlyAccepted (.clean saturday) both ∧
      ¬ ConflictFree sixDayCalendar "shop"
        (sessionAfter runAssignmentCall (.clean saturday) both).committed.projects := by
  refine ⟨⟨rfl, by decide +kernel, ?_⟩, rfl, by decide +kernel, ?_⟩
  · unfold ConflictFree
    rw [← toOption_eq_some]
    decide +kernel
  · unfold ConflictFree
    rw [← toOption_eq_some]
    decide +kernel

end ProjectManager
