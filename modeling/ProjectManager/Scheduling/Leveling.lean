import Mathlib.Tactic.FieldSimp
import ProjectManager.Reporting.ResourceLoad

/-! # Resource conflicts

The days on which the tasks of a project take more of a resource than it has. Each
assignment books its resource on every working day of its task, and a day with
more bookings than the threshold of the resource is a conflict.
-/

namespace ProjectManager

open Foundation

structure ResourceConflictEntry where
  taskId : String
  taskName : String
  allocationPercent : ℚ
  deriving DecidableEq

structure ResourceConflict where
  resourceId : String
  resourceName : String
  conflictDate : Date
  totalAllocationPercent : ℚ
  entries : List ResourceConflictEntry
  deriving DecidableEq

def ResourceConflict.position (conflict : ResourceConflict) : String × Date :=
  (conflict.resourceId, conflict.conflictDate)

namespace Leveling

/-- An entry of the bucket of a resource and a day. -/
structure Booking where
  resourceId : String
  day : Date
  task : Task
  alloc : ℚ

def Booking.key (booking : Booking) : String × Date := (booking.resourceId, booking.day)

/-- The excess over a threshold that is not reported. -/
def tolerance : ℚ := 1 / 10 ^ 9

/-! ## Bookings -/

section

variable (calendar : WorkCalendarEngine)

/-- Unlike the walk of the reports this one does not exchange its dates. -/
def iterWorkdays (start finish : Date) : List Date :=
  ((List.range (finish - start + 1).toNat).map fun i : ℕ => start + (i : ℤ)).filter
    fun day => calendar.isWorkingDay day

def bookTask (assignment : TaskAssignment) (task : Task) : List Booking :=
  match task.startDate, task.endDate with
  | some start, some finish =>
      if assignment.allocationPercent ≤ 0 then []
      else (iterWorkdays calendar start finish).map fun day =>
        { resourceId := assignment.resourceId
          day := day
          task := task
          alloc := assignment.allocationPercent }
  | _, _ => []

variable (tasksById : TasksById)

def bookings (assignments : List TaskAssignment) : List Booking :=
  assignments.flatMap fun assignment =>
    (tasksById.get? assignment.taskId).elim [] (bookTask calendar assignment)

end

/-! ## Conflicts -/

def taskEntries : Grouping (fun booking : Booking => booking.task.id)
    ResourceConflictEntry.taskId where
  join entry booking :=
    { taskId := booking.task.id
      taskName := booking.task.name
      allocationPercent :=
        (entry.map ResourceConflictEntry.allocationPercent).getD 0 + booking.alloc }
  key_join _ _ _ := rfl

/-- The larger share comes first, then the name. -/
def EntryBefore (first second : ResourceConflictEntry) : Prop :=
  second.allocationPercent < first.allocationPercent ∨
    second.allocationPercent = first.allocationPercent ∧
      lower first.taskName ≤ lower second.taskName

instance : DecidableRel EntryBefore := fun _ _ => inferInstanceAs (Decidable (_ ∨ _ ∧ _))

/-- The earlier day comes first, then the name of the resource, then the larger total. -/
def ConflictBefore (first second : ResourceConflict) : Prop :=
  first.conflictDate < second.conflictDate ∨
    first.conflictDate = second.conflictDate ∧
      (lower first.resourceName < lower second.resourceName ∨
        lower first.resourceName = lower second.resourceName ∧
          second.totalAllocationPercent ≤ first.totalAllocationPercent)

instance : DecidableRel ConflictBefore := fun first second =>
  inferInstanceAs (Decidable (first.conflictDate < second.conflictDate ∨
    first.conflictDate = second.conflictDate ∧
      (lower first.resourceName < lower second.resourceName ∨
        lower first.resourceName = lower second.resourceName ∧
          second.totalAllocationPercent ≤ first.totalAllocationPercent)))

/-- A dictionary from resources to values. -/
abbrev ByResource (α : Type) := Table (Prod.fst : String × α → String)

def ByResource.getD {α : Type} (values : ByResource α) (resourceId : String) (default : α) : α :=
  ((values.get? resourceId).map Prod.snd).getD default

section

variable (resourceNameById : ByResource String) (thresholdPercent : ℚ)
  (thresholdByResourceId : ByResource ℚ)

def conflictOf (group : (String × Date) × List Booking) : Option ResourceConflict :=
  let (resourceId, day) := group.1
  let total := (group.2.map Booking.alloc).sum
  let threshold := thresholdByResourceId.getD resourceId thresholdPercent
  if total ≤ threshold + tolerance then none
  else some {
    resourceId := resourceId
    resourceName := resourceNameById.getD resourceId resourceId
    conflictDate := day
    totalAllocationPercent := total
    entries := (taskEntries.collect .empty group.2).rows.reverse.insertionSort EntryBefore }

def buildResourceConflicts (tasksById : TasksById) (assignments : List TaskAssignment)
    (calendar : WorkCalendarEngine) : List ResourceConflict :=
  let bucket := (Grouping.listed Booking.key).collect .empty
    (bookings calendar tasksById assignments)
  (bucket.rows.reverse.filterMap
    (conflictOf resourceNameById thresholdPercent thresholdByResourceId)).insertionSort
      ConflictBefore

end

/-! ## The preview of a project -/

/-- One round of the loop over the assignments: a new resource gets a name and a threshold. -/
def nameResource (store : ProjectStore) (scale : ℚ) (maps : ByResource String × ByResource ℚ)
    (assignment : TaskAssignment) : ByResource String × ByResource ℚ :=
  let rid := assignment.resourceId
  if rid ∈ maps.1.ids then maps
  else
    let resource := store.resources.get? rid
    (maps.1.insert (rid, (resource.map Resource.name).getD rid),
      maps.2.insert (rid, capacityPercentOf resource * scale))

def buildResourceNameMap (store : ProjectStore) (assignments : List TaskAssignment)
    (thresholdPercent : ℚ) : ByResource String × ByResource ℚ :=
  assignments.foldl (nameResource store (orHundred thresholdPercent / 100)) (.empty, .empty)

def previewResourceConflicts (calendar : WorkCalendarEngine) (store : ProjectStore)
    (projectId : String) (thresholdPercent : ℚ) : Except DomainError (List ResourceConflict) := do
  ensure (0 < thresholdPercent)
    (validationError "threshold_percent must be greater than zero."
      "RESOURCE_LEVELING_INVALID_THRESHOLD")
  let tasks := store.tasksOf projectId
  if tasks.rows = [] then
    return []
  let assignments := store.assignmentsOf projectId
  if assignments = [] then
    return []
  let (names, thresholds) := buildResourceNameMap store assignments thresholdPercent
  return buildResourceConflicts names thresholdPercent thresholds tasks assignments calendar

/-! ## What a day adds up to -/

section

variable {calendar : WorkCalendarEngine} {tasks : TasksById}

/-- The dates of an assignment that takes anything of its resource are in order. -/
def DatesOrdered (tasks : TasksById) (assignment : TaskAssignment) : Prop :=
  0 < assignment.allocationPercent →
    ∃ start finish, tasks.assignedDates assignment = some (start, finish) ∧ start ≤ finish

/-- Where the dates are in order, both walks pass the same days. -/
theorem iterWorkdays_eq {start finish : Date} (h : start ≤ finish) :
    iterWorkdays calendar start finish = calendar.iterWorkdays start finish := by
  unfold iterWorkdays WorkCalendarEngine.iterWorkdays
  rw [if_neg h.not_gt]

def bookedOn (booked : List Booking) (resourceId : String) (day : Date) : ℚ :=
  ((booked.filter fun booking => booking.key = (resourceId, day)).map Booking.alloc).sum

theorem mem_bookTask {assignment : TaskAssignment} {task : Task} {booking : Booking}
    (h : booking ∈ bookTask calendar assignment task) :
    booking.resourceId = assignment.resourceId ∧ booking.alloc = assignment.allocationPercent ∧
      0 < assignment.allocationPercent ∧ ∃ start ∈ task.startDate, ∃ finish ∈ task.endDate,
        booking.day ∈ iterWorkdays calendar start finish := by
  unfold bookTask at h
  split at h
  next start finish hstart hfinish =>
    split at h
    next => cases h
    next hpositive =>
      obtain ⟨day, hday, rfl⟩ := List.mem_map.mp h
      exact ⟨rfl, rfl, not_le.mp hpositive, start, hstart, finish, hfinish, hday⟩
  next => cases h

theorem bookedOn_eq_zero {booked : List Booking} {resourceId : String} {day : Date}
    (h : ∀ booking ∈ booked, booking.key ≠ (resourceId, day)) :
    bookedOn booked resourceId day = 0 := by
  have hnone : (booked.filter fun booking => booking.key = (resourceId, day)) = [] := by
    apply List.filter_eq_nil_iff.mpr
    intro booking hbooking hkey
    exact h booking hbooking (of_decide_eq_true hkey)
  rw [bookedOn, hnone]
  rfl

theorem bookedOn_append (first second : List Booking) (resourceId : String) (day : Date) :
    bookedOn (first ++ second) resourceId day =
      bookedOn first resourceId day + bookedOn second resourceId day := by
  simp [bookedOn]

theorem bookedOn_days {days : List Date} (hdays : days.Nodup) (assigned resourceId : String)
    (task : Task) (alloc : ℚ) (day : Date) :
    bookedOn (days.map fun other => ⟨assigned, other, task, alloc⟩) resourceId day =
      if assigned = resourceId ∧ day ∈ days then alloc else 0 := by
  induction days with
  | nil => simp [bookedOn]
  | cons head rest ih =>
      obtain ⟨hhead, hrest⟩ := List.nodup_cons.mp hdays
      rw [List.map_cons, ← List.singleton_append, bookedOn_append, ih hrest]
      by_cases hassigned : assigned = resourceId
      · by_cases hday : head = day
        · subst hday
          simp [bookedOn, Booking.key, hassigned, hhead]
        · simp [bookedOn, Booking.key, hassigned, hday, Ne.symm hday]
      · simp [bookedOn, Booking.key, hassigned]

theorem bookedOn_assignment {assignment : TaskAssignment} (h : DatesOrdered tasks assignment)
    (resourceId : String) (day : Date) :
    bookedOn ((tasks.get? assignment.taskId).elim [] (bookTask calendar assignment)) resourceId
        day =
      if assignment.resourceId = resourceId ∧ calendar.isWorkingDay day = true then
        tasks.allocationOn assignment day
      else 0 := by
  by_cases hpositive : 0 < assignment.allocationPercent
  · obtain ⟨start, finish, hdates, hle⟩ := h hpositive
    have hallocation : tasks.allocationOn assignment day =
        if start ≤ day ∧ day ≤ finish then assignment.allocationPercent else 0 := by
      rw [TasksById.allocationOn, hdates]
      simp [hpositive, hle]
    obtain ⟨task, htask, hdates⟩ := Option.bind_eq_some_iff.mp hdates
    obtain ⟨_, hstart, hdates⟩ := Option.bind_eq_some_iff.mp hdates
    obtain ⟨_, hfinish, heq⟩ := Option.map_eq_some_iff.mp hdates
    cases heq
    have hbooked : bookTask calendar assignment task =
        (calendar.iterWorkdays start finish).map fun day =>
          ⟨assignment.resourceId, day, task, assignment.allocationPercent⟩ := by
      rw [bookTask, hstart, hfinish, ← iterWorkdays_eq hle]
      exact if_neg hpositive.not_ge
    have hdays : day ∈ calendar.iterWorkdays start finish ↔
        calendar.isWorkingDay day = true ∧ start ≤ day ∧ day ≤ finish := by
      rw [mem_iterWorkdays, min_eq_left hle, max_eq_right hle]
      rfl
    rw [htask, Option.elim_some, hbooked, bookedOn_days (nodup_iterWorkdays calendar start finish),
      hallocation]
    simp only [hdays, ← ite_and, and_assoc]
  · have hallocation : tasks.allocationOn assignment day = 0 := by
      unfold TasksById.allocationOn
      split
      · exact if_neg fun hactive => hpositive hactive.1
      · rfl
    have hbooked : (tasks.get? assignment.taskId).elim [] (bookTask calendar assignment) = [] := by
      cases tasks.get? assignment.taskId with
      | none => rfl
      | some task =>
          change bookTask calendar assignment task = []
          unfold bookTask
          split
          · exact if_pos (not_lt.mp hpositive)
          · rfl
    rw [hbooked, hallocation, ite_self]
    rfl

theorem bookedOn_bookings {assignments : List TaskAssignment}
    (h : ∀ assignment ∈ assignments, DatesOrdered tasks assignment) (resourceId : String)
    (day : Date) :
    bookedOn (bookings calendar tasks assignments) resourceId day =
      if calendar.isWorkingDay day = true then
        tasks.dailyLoad (assignments.filter fun assignment =>
          assignment.resourceId = resourceId) day
      else 0 := by
  induction assignments with
  | nil => exact (ite_self 0).symm
  | cons assignment rest ih =>
      have hrest := ih fun other hother => h other (List.mem_cons_of_mem _ hother)
      rw [bookings, List.flatMap_cons, ← bookings, bookedOn_append, hrest,
        bookedOn_assignment (h assignment List.mem_cons_self), List.filter_cons]
      by_cases hresource : assignment.resourceId = resourceId
      · by_cases hworks : calendar.isWorkingDay day = true
        · simp [hresource, hworks, TasksById.dailyLoad]
        · simp [hworks]
      · simp [hresource]

end

/-! ## The conflicts of a resource -/

section

variable {names : ByResource String} {thresholds : ByResource ℚ} {calendar : WorkCalendarEngine}
  {tasks : TasksById} {assignments : List TaskAssignment}

theorem conflictOf_eq_some {thresholdPercent : ℚ} {group : (String × Date) × List Booking}
    {conflict : ResourceConflict}
    (h : conflictOf names thresholdPercent thresholds group = some conflict) :
    conflict.position = group.1 ∧
      thresholds.getD group.1.1 thresholdPercent + tolerance <
        (group.2.map Booking.alloc).sum := by
  obtain ⟨⟨resourceId, day⟩, booked⟩ := group
  by_cases hwithin : (booked.map Booking.alloc).sum ≤
      thresholds.getD resourceId thresholdPercent + tolerance
  · cases (if_pos hwithin).symm.trans h
  · cases (if_neg hwithin).symm.trans h
    exact ⟨rfl, not_le.mp hwithin⟩

theorem conflictOf_exceeding {thresholdPercent : ℚ} {group : (String × Date) × List Booking}
    (h : thresholds.getD group.1.1 thresholdPercent + tolerance <
      (group.2.map Booking.alloc).sum) :
    ∃ conflict, conflictOf names thresholdPercent thresholds group = some conflict ∧
      conflict.position = group.1 :=
  ⟨_, if_neg h.not_ge, rfl⟩

theorem exists_conflictOn_iff {thresholdPercent : ℚ} {resourceId : String} {day : Date}
    (hthreshold : 0 ≤ thresholds.getD resourceId thresholdPercent) :
    (∃ conflict ∈ buildResourceConflicts names thresholdPercent thresholds tasks assignments
        calendar, conflict.position = (resourceId, day)) ↔
      thresholds.getD resourceId thresholdPercent + tolerance <
        bookedOn (bookings calendar tasks assignments) resourceId day := by
  simp only [buildResourceConflicts, List.mem_insertionSort, List.mem_filterMap,
    List.mem_reverse]
  constructor
  · rintro ⟨conflict, ⟨⟨key, booked⟩, hgroup, hconflict⟩, hposition⟩
    obtain ⟨hkey, hexceeds⟩ := conflictOf_eq_some hconflict
    obtain rfl : (resourceId, day) = key := hposition.symm.trans hkey
    obtain ⟨-, hbooked⟩ := Grouping.mem_listed.mp hgroup
    rw [bookedOn, ← hbooked]
    exact hexceeds
  · intro hexceeds
    let booked := (bookings calendar tasks assignments).filter fun booking =>
      booking.key = (resourceId, day)
    have hne : booked ≠ [] := by
      intro hnil
      have hzero : bookedOn (bookings calendar tasks assignments) resourceId day = 0 :=
        congrArg (fun booked => (booked.map Booking.alloc).sum) hnil
      rw [hzero] at hexceeds
      have hpositive : 0 < tolerance := by
        norm_num [tolerance]
      linarith
    obtain ⟨conflict, hconflict, hposition⟩ : ∃ conflict,
        conflictOf names thresholdPercent thresholds ((resourceId, day), booked) = some conflict ∧
          conflict.position = (resourceId, day) := conflictOf_exceeding hexceeds
    exact ⟨conflict, ⟨_, Grouping.mem_listed.mpr ⟨hne, rfl⟩, hconflict⟩, hposition⟩

theorem exists_conflict_iff {thresholdPercent : ℚ} {resourceId : String}
    (hthreshold : 0 ≤ thresholds.getD resourceId thresholdPercent) :
    (∃ conflict ∈ buildResourceConflicts names thresholdPercent thresholds tasks assignments
        calendar, conflict.resourceId = resourceId) ↔
      ∃ day, thresholds.getD resourceId thresholdPercent + tolerance <
        bookedOn (bookings calendar tasks assignments) resourceId day := by
  constructor
  · rintro ⟨conflict, hconflict, rfl⟩
    exact ⟨conflict.conflictDate,
      (exists_conflictOn_iff hthreshold).mp ⟨conflict, hconflict, rfl⟩⟩
  · rintro ⟨day, hexceeds⟩
    obtain ⟨conflict, hconflict, hposition⟩ := (exists_conflictOn_iff hthreshold).mpr hexceeds
    exact ⟨conflict, hconflict, congrArg Prod.fst hposition⟩

theorem nodup_positions (thresholdPercent : ℚ) :
    ((buildResourceConflicts names thresholdPercent thresholds tasks assignments calendar).map
      ResourceConflict.position).Nodup := by
  have hkeys := ((Grouping.listed Booking.key).collect .empty
    (bookings calendar tasks assignments)).nodup
  unfold buildResourceConflicts
  dsimp only
  generalize ((Grouping.listed Booking.key).collect .empty
    (bookings calendar tasks assignments)).rows = groups at hkeys ⊢
  have hsorted := List.perm_insertionSort ConflictBefore
    (groups.reverse.filterMap (conflictOf names thresholdPercent thresholds))
  rw [(hsorted.map ResourceConflict.position).nodup_iff]
  have hsublist : ∀ rows : List ((String × Date) × List Booking),
      ((rows.filterMap (conflictOf names thresholdPercent thresholds)).map
        ResourceConflict.position).Sublist (rows.map Prod.fst) := by
    intro rows
    induction rows with
    | nil => exact List.Sublist.refl _
    | cons group rest ih =>
        cases hconflict : conflictOf names thresholdPercent thresholds group with
        | none =>
            rw [List.filterMap_cons_none hconflict, List.map_cons]
            exact ih.cons _
        | some conflict =>
            rw [List.filterMap_cons_some hconflict, List.map_cons, List.map_cons,
              (conflictOf_eq_some hconflict).1]
            exact ih.cons_cons _
  apply (hsublist groups.reverse).nodup
  rw [List.map_reverse, List.nodup_reverse]
  exact hkeys

end

/-! ## Thresholds -/

section

variable {store : ProjectStore} {scale : ℚ} {maps : ByResource String × ByResource ℚ}

theorem ids_nameResource (h : maps.1.ids = maps.2.ids) (assignment : TaskAssignment) :
    (nameResource store scale maps assignment).1.ids =
      (nameResource store scale maps assignment).2.ids := by
  unfold nameResource
  dsimp only
  split
  next => exact h
  next hnew =>
    rw [Table.ids, Table.ids, Table.rows_insert hnew, Table.rows_insert (h ▸ hnew)]
    exact congrArg (assignment.resourceId :: ·) h

/-- A resource that has no threshold yet gets that of its capacity. -/
theorem get?_nameResource (h : maps.1.ids = maps.2.ids) (assignment : TaskAssignment)
    (resourceId : String) :
    (nameResource store scale maps assignment).2.get? resourceId =
      (maps.2.get? resourceId).or
        (if assignment.resourceId = resourceId then
          some (resourceId, capacityPercentOf (store.resources.get? resourceId) * scale)
        else none) := by
  unfold nameResource
  dsimp only
  split
  next hold =>
    by_cases hresource : assignment.resourceId = resourceId
    · rw [h, hresource] at hold
      obtain ⟨row, -, -, hrow⟩ := maps.2.exists_of_mem_ids hold
      rw [hrow, Option.some_or]
    · rw [if_neg hresource, Option.or_none]
  next hnew =>
    rw [h] at hnew
    by_cases hresource : assignment.resourceId = resourceId
    · subst hresource
      rw [Table.get?_eq_none.mpr hnew, Option.none_or, if_pos rfl]
      exact Table.get?_insert_self hnew
    · rw [if_neg hresource, Option.or_none]
      exact Table.get?_insert_of_ne (Ne.symm hresource)

theorem get?_nameResources (h : maps.1.ids = maps.2.ids) (assignments : List TaskAssignment)
    (resourceId : String) :
    (assignments.foldl (nameResource store scale) maps).2.get? resourceId =
      (maps.2.get? resourceId).or
        (if resourceId ∈ assignments.map TaskAssignment.resourceId then
          some (resourceId, capacityPercentOf (store.resources.get? resourceId) * scale)
        else none) := by
  induction assignments generalizing maps with
  | nil => exact (Option.or_none).symm
  | cons assignment rest ih =>
      rw [List.foldl_cons, ih (ids_nameResource h assignment), get?_nameResource h, Option.or_assoc]
      congr 1
      by_cases hresource : assignment.resourceId = resourceId
      · simp [hresource]
      · simp [hresource, Ne.symm hresource]

theorem threshold_getD (thresholdPercent : ℚ) (assignments : List TaskAssignment)
    (resourceId : String) :
    (buildResourceNameMap store assignments thresholdPercent).2.getD resourceId thresholdPercent =
      if resourceId ∈ assignments.map TaskAssignment.resourceId then
        capacityPercentOf (store.resources.get? resourceId) * (orHundred thresholdPercent / 100)
      else thresholdPercent := by
  unfold ByResource.getD buildResourceNameMap
  rw [get?_nameResources rfl]
  split
  · rfl
  · rfl

theorem threshold_eq (assignments : List TaskAssignment) (resourceId : String) :
    (buildResourceNameMap store assignments 100).2.getD resourceId 100 =
      if resourceId ∈ assignments.map TaskAssignment.resourceId then
        capacityPercentOf (store.resources.get? resourceId)
      else 100 := by
  have hscale : orHundred 100 / 100 = 1 := by
    norm_num [orHundred]
  rw [threshold_getD, hscale, mul_one]

theorem capacityPercentOf_pos (resource : Option Resource) : 0 < capacityPercentOf resource := by
  unfold capacityPercentOf
  dsimp only
  split
  next => norm_num
  next hpositive => exact not_le.mp hpositive

theorem threshold_pos {thresholdPercent : ℚ} (h : 0 < thresholdPercent)
    (assignments : List TaskAssignment) (resourceId : String) :
    0 < (buildResourceNameMap store assignments thresholdPercent).2.getD resourceId
      thresholdPercent := by
  rw [threshold_getD]
  split
  next =>
    rw [orHundred, if_neg h.ne']
    exact mul_pos (capacityPercentOf_pos _) (by linarith)
  next => exact h

end

/-! ## Agreement with the load summary -/

section

variable {service : ReportingService} {store : ProjectStore} {projectId : String}

/-- Without tasks or assignments there is nothing to report. -/
theorem previewResourceConflicts_eq_ok {calendar : WorkCalendarEngine} {thresholdPercent : ℚ}
    {conflicts : List ResourceConflict}
    (h : previewResourceConflicts calendar store projectId thresholdPercent = .ok conflicts) :
    conflicts = buildResourceConflicts
      (buildResourceNameMap store (store.assignmentsOf projectId) thresholdPercent).1
      thresholdPercent
      (buildResourceNameMap store (store.assignmentsOf projectId) thresholdPercent).2
      (store.tasksOf projectId) (store.assignmentsOf projectId) calendar := by
  obtain ⟨_, -, h⟩ := bind_ok h
  dsimp only at h
  split at h
  next htasks =>
    have hassignments : store.assignmentsOf projectId = [] := by
      apply List.filter_eq_nil_iff.mpr
      intro assignment _
      simp [Table.ids, htasks]
    rw [hassignments]
    exact (Except.ok.inj h).symm
  next =>
    split at h
    next hassignments =>
      rw [hassignments]
      exact (Except.ok.inj h).symm
    next => exact (Except.ok.inj h).symm

theorem exists_previewed_iff {calendar : WorkCalendarEngine} {thresholdPercent : ℚ}
    {conflicts : List ResourceConflict}
    (h : previewResourceConflicts calendar store projectId thresholdPercent = .ok conflicts)
    (resourceId : String) (day : Date) :
    (∃ conflict ∈ conflicts, conflict.position = (resourceId, day)) ↔
      (buildResourceNameMap store (store.assignmentsOf projectId) thresholdPercent).2.getD
          resourceId thresholdPercent + tolerance <
        bookedOn (bookings calendar (store.tasksOf projectId) (store.assignmentsOf projectId))
          resourceId day := by
  obtain ⟨_, hpositive, -⟩ := bind_ok h
  rw [previewResourceConflicts_eq_ok h]
  exact exists_conflictOn_iff (threshold_pos (ensure_eq_ok.mp hpositive) _ _).le

theorem exists_previewResourceConflicts (calendar : WorkCalendarEngine) (store : ProjectStore)
    (projectId : String) {thresholdPercent : ℚ} (h : 0 < thresholdPercent) :
    ∃ conflicts,
      previewResourceConflicts calendar store projectId thresholdPercent = .ok conflicts := by
  unfold previewResourceConflicts
  rw [ensure, if_pos h]
  dsimp only [bind, Except.bind]
  split
  next => exact ⟨_, rfl⟩
  next =>
    split
    next => exact ⟨_, rfl⟩
    next => exact ⟨_, rfl⟩

/-- Nothing is left unscheduled where all dates are known. -/
theorem unscheduledLoad_eq_zero {tasks : TasksById} {assignments : List TaskAssignment}
    (h : ∀ assignment ∈ assignments, DatesOrdered tasks assignment) :
    tasks.unscheduledLoad assignments = 0 := by
  apply List.sum_eq_zero
  intro amount hamount
  obtain ⟨assignment, hassignment, rfl⟩ := List.mem_map.mp hamount
  apply if_neg
  rintro ⟨hpositive, hnone⟩
  obtain ⟨start, finish, hdates, -⟩ := h assignment hassignment hpositive
  rw [hdates] at hnone
  cases hnone

theorem exceeds_iff {capacity total : ℚ} (hcapacity : 0 < capacity) :
    100 + tolerance / capacity * 100 < total / capacity * 100 ↔ capacity + tolerance < total := by
  have hhundred : 100 + tolerance / capacity * 100 = (capacity + tolerance) / capacity * 100 := by
    field_simp
  rw [hhundred, mul_lt_mul_iff_left₀ (by norm_num), div_lt_div_iff_of_pos_right hcapacity]

theorem lt_peakAllocation_iff {calendar : WorkCalendarEngine} {tasks : TasksById}
    {assignments : List TaskAssignment} {bound : ℚ} (hbound : 0 ≤ bound) :
    bound < peakAllocation calendar tasks assignments ↔
      ∃ day ∈ calendar.workdays, bound < tasks.dailyLoad assignments day := by
  have hpeak := isPeak_peakAllocation calendar tasks assignments
  constructor
  · intro hlt
    rcases hpeak.reached with hzero | ⟨day, hday, hreached⟩
    · rw [hzero] at hlt
      exact absurd (hbound.trans_lt hlt) (lt_irrefl 0)
    · exact ⟨day, hday, hreached ▸ hlt⟩
  · rintro ⟨day, hday, hlt⟩
    exact hlt.trans_le (hpeak.le day hday)

theorem tolerance_pos : 0 < tolerance := by
  norm_num [tolerance]

theorem exists_overloaded_iff {rows : List ResourceLoadRow}
    (hdates : ∀ assignment ∈ store.assignmentsOf projectId,
      DatesOrdered (store.tasksOf projectId) assignment)
    (hrows : getResourceLoadSummary store service projectId = .ok rows) (resourceId : String) :
    (∃ row ∈ rows, row.resourceId = resourceId ∧
        100 + tolerance / row.capacityPercent * 100 < row.utilizationPercent) ↔
      store.assignmentsFor projectId resourceId ≠ [] ∧
        capacityPercentOf (store.resources.get? resourceId) + tolerance <
          peakAllocation service.calendar (store.tasksOf projectId)
            (store.assignmentsFor projectId resourceId) := by
  have hsummary := filter_summary hrows resourceId
  have hmem (row : ResourceLoadRow) : row ∈ rows ∧ row.resourceId = resourceId ↔
      store.assignmentsFor projectId resourceId ≠ [] ∧
        row = summaryRow service.calendar store projectId resourceId := by
    have hfiltered := congrArg (row ∈ ·) hsummary
    simp only [List.mem_filter, decide_eq_true_iff] at hfiltered
    rw [hfiltered]
    split
    next hnone => simp [hnone]
    next hassigned => simp [hassigned]
  have hunscheduled : (store.tasksOf projectId).unscheduledLoad
      (store.assignmentsFor projectId resourceId) = 0 :=
    unscheduledLoad_eq_zero fun assignment hassignment =>
      hdates assignment (List.mem_of_mem_filter hassignment)
  have hpeak : (summaryRow service.calendar store projectId resourceId).utilizationPercent =
      peakAllocation service.calendar (store.tasksOf projectId)
        (store.assignmentsFor projectId resourceId) /
          capacityPercentOf (store.resources.get? resourceId) * 100 := by
    rw [summaryRow, projectAllocation, hunscheduled, add_zero]
  rw [← exceeds_iff (capacityPercentOf_pos _), ← hpeak]
  constructor
  · rintro ⟨row, hrow, hresource, hover⟩
    obtain ⟨hassigned, rfl⟩ := (hmem row).mp ⟨hrow, hresource⟩
    exact ⟨hassigned, hover⟩
  · rintro ⟨hassigned, hover⟩
    obtain ⟨hrow, hresource⟩ := (hmem _).mpr ⟨hassigned, rfl⟩
    exact ⟨_, hrow, hresource, hover⟩

theorem exists_booked_iff {calendar : WorkCalendarEngine} {bound : ℚ} (hbound : 0 ≤ bound)
    (hdates : ∀ assignment ∈ store.assignmentsOf projectId,
      DatesOrdered (store.tasksOf projectId) assignment) (resourceId : String) :
    (∃ day, bound < bookedOn (bookings calendar (store.tasksOf projectId)
        (store.assignmentsOf projectId)) resourceId day) ↔
      bound < peakAllocation calendar (store.tasksOf projectId)
        (store.assignmentsFor projectId resourceId) := by
  rw [lt_peakAllocation_iff hbound]
  refine exists_congr fun day => ?_
  rw [bookedOn_bookings hdates]
  split
  next hworks => exact (and_iff_right hworks).symm
  next hidle =>
    constructor
    · intro hlt
      exact absurd hlt hbound.not_gt
    · rintro ⟨hworks, -⟩
      exact absurd hworks hidle

theorem exists_conflict_of_resource_iff {calendar : WorkCalendarEngine}
    {conflicts : List ResourceConflict}
    (hdates : ∀ assignment ∈ store.assignmentsOf projectId,
      DatesOrdered (store.tasksOf projectId) assignment)
    (hconflicts : previewResourceConflicts calendar store projectId 100 = .ok conflicts)
    (resourceId : String) :
    (∃ conflict ∈ conflicts, conflict.resourceId = resourceId) ↔
      store.assignmentsFor projectId resourceId ≠ [] ∧
        capacityPercentOf (store.resources.get? resourceId) + tolerance <
          peakAllocation calendar (store.tasksOf projectId)
            (store.assignmentsFor projectId resourceId) := by
  have hassigned : resourceId ∈ (store.assignmentsOf projectId).map TaskAssignment.resourceId ↔
      store.assignmentsFor projectId resourceId ≠ [] := by
    simp [ProjectStore.assignmentsFor]
  have hcapacity := capacityPercentOf_pos (store.resources.get? resourceId)
  have hthreshold := @threshold_eq store (store.assignmentsOf projectId) resourceId
  have htolerance := tolerance_pos
  rw [previewResourceConflicts_eq_ok hconflicts]
  by_cases hmem : store.assignmentsFor projectId resourceId = []
  · -- What is not assigned has no load.
    rw [if_neg fun h => hassigned.mp h hmem] at hthreshold
    rw [exists_conflict_iff (by rw [hthreshold]; norm_num), hthreshold,
      exists_booked_iff (by linarith) hdates, hmem]
    have hzero : peakAllocation calendar (store.tasksOf projectId) [] = 0 := rfl
    rw [hzero]
    constructor
    · intro hlt
      linarith
    · rintro ⟨hne, -⟩
      exact absurd rfl hne
  · rw [if_pos (hassigned.mpr hmem)] at hthreshold
    rw [exists_conflict_iff (by rw [hthreshold]; exact hcapacity.le), hthreshold,
      exists_booked_iff (by linarith) hdates]
    exact (and_iff_right hmem).symm

/-- The load summary and the conflicts agree: a resource is used beyond its capacity, by more than
the tolerance, exactly when it has a conflict. -/
theorem overloaded_iff_conflict {rows : List ResourceLoadRow} {conflicts : List ResourceConflict}
    (hdates : ∀ assignment ∈ store.assignmentsOf projectId,
      DatesOrdered (store.tasksOf projectId) assignment)
    (hrows : getResourceLoadSummary store service projectId = .ok rows)
    (hconflicts : previewResourceConflicts service.calendar store projectId 100 = .ok conflicts)
    (resourceId : String) :
    (∃ row ∈ rows, row.resourceId = resourceId ∧
        100 + tolerance / row.capacityPercent * 100 < row.utilizationPercent) ↔
      ∃ conflict ∈ conflicts, conflict.resourceId = resourceId := by
  rw [exists_overloaded_iff hdates hrows, exists_conflict_of_resource_iff hdates hconflicts]

end

/-! ## A welder on two tasks -/

/-- The welder is on both tasks on Monday, and on the first one on Tuesday as well. -/
def weldingShop (second : ℚ) : ProjectStore where
  projects := .insert .empty { id := "shop", name := "Shop" }
  tasks := .insert (.insert .empty
    { id := "frame", projectId := "shop", name := "Frame", startDate := some 1, endDate := some 2 })
    { id := "door", projectId := "shop", name := "Door", startDate := some 1, endDate := some 1 }
  resources := .insert .empty { id := "welder", name := "Welder" }
  assignments := .insert (.insert .empty
    { id := "A1", taskId := "frame", resourceId := "welder", allocationPercent := 60 })
    { id := "A2", taskId := "door", resourceId := "welder", allocationPercent := second }

def shopReports : ReportingService where
  userSession := .admin
  calendar := weekdayCalendar
  today := 1

theorem weldingShop_datesOrdered (second : ℚ) :
    ∀ assignment ∈ (weldingShop second).assignmentsOf "shop",
      DatesOrdered ((weldingShop second).tasksOf "shop") assignment := by
  intro assignment hassignment _
  have hstored := List.mem_of_mem_filter hassignment
  rcases Table.mem_insert hstored with rfl | hstored
  · exact ⟨1, 1, rfl, le_rfl⟩
  · rcases Table.mem_insert hstored with rfl | hstored
    · exact ⟨1, 2, rfl, by decide⟩
    · cases hstored

theorem overloaded_iff_conflict_welder :
    ∃ rows conflicts,
      getResourceLoadSummary (weldingShop 60) shopReports "shop" = .ok rows ∧
      previewResourceConflicts weekdayCalendar (weldingShop 60) "shop" 100 = .ok conflicts ∧
      conflicts.map (fun conflict => (conflict.resourceId, conflict.conflictDate)) =
        [("welder", 1)] ∧
      ∃ row ∈ rows, row.resourceId = "welder" ∧
        100 + tolerance / row.capacityPercent * 100 < row.utilizationPercent := by
  have hsummary : (getResourceLoadSummary (weldingShop 60) shopReports "shop").toOption.isSome =
      true := by
    decide +kernel
  have hpreview : (previewResourceConflicts weekdayCalendar (weldingShop 60) "shop"
      100).toOption.map (List.map fun conflict => (conflict.resourceId, conflict.conflictDate)) =
        some [("welder", 1)] := by
    decide +kernel
  obtain ⟨rows, hrows⟩ := Option.isSome_iff_exists.mp hsummary
  obtain ⟨conflicts, hconflicts, hdays⟩ := Option.map_eq_some_iff.mp hpreview
  have hrows := toOption_eq_some.mp hrows
  have hconflicts := toOption_eq_some.mp hconflicts
  have hagree := overloaded_iff_conflict (weldingShop_datesOrdered 60) hrows hconflicts "welder"
  refine ⟨rows, conflicts, hrows, hconflicts, hdays, hagree.mpr ?_⟩
  obtain ⟨conflict, rfl, hconflict⟩ := List.map_eq_singleton_iff.mp hdays
  exact ⟨conflict, List.mem_singleton_self conflict, congrArg Prod.fst hconflict⟩

/-- An excess within the tolerance counts in the summary and is no conflict. -/
theorem not_conflict_withinTolerance :
    ∃ rows, getResourceLoadSummary (weldingShop (40 + tolerance / 2)) shopReports "shop" =
        .ok rows ∧
      previewResourceConflicts weekdayCalendar (weldingShop (40 + tolerance / 2)) "shop" 100 =
        .ok [] ∧
      (∀ assignment ∈ (weldingShop (40 + tolerance / 2)).assignmentsOf "shop",
        DatesOrdered ((weldingShop (40 + tolerance / 2)).tasksOf "shop") assignment) ∧
      ∃ row ∈ rows, row.resourceId = "welder" ∧ 100 < row.utilizationPercent := by
  have hsummary : (getResourceLoadSummary (weldingShop (40 + tolerance / 2)) shopReports
      "shop").toOption.map (fun rows => rows.any fun row =>
        row.resourceId = "welder" ∧ 100 < row.utilizationPercent) = some true := by
    decide +kernel
  have hpreview : (previewResourceConflicts weekdayCalendar (weldingShop (40 + tolerance / 2))
      "shop" 100).toOption = some [] := by
    decide +kernel
  obtain ⟨rows, hrows, hover⟩ := Option.map_eq_some_iff.mp hsummary
  refine ⟨rows, toOption_eq_some.mp hrows, toOption_eq_some.mp hpreview,
    weldingShop_datesOrdered _, ?_⟩
  obtain ⟨row, hrow, hexceeds⟩ := List.any_eq_true.mp hover
  exact ⟨row, hrow, of_decide_eq_true hexceeds⟩

end Leveling

end ProjectManager
