import ProjectManager.Time.Entries

/-! # Frozen timesheet periods

The entry operations refuse to touch a submitted, approved or locked period.
The entries of such a period therefore survive every run that removes no
assignment with entries in one.
-/

namespace ProjectManager

open Foundation

section

variable {store next : TimesheetStore}

/-! ## The entries of a period -/

def allocationIds (store : TimesheetStore) (resourceId : String) : List String :=
  (store.assignments.rows.filter fun a => a.resourceId = resourceId).map TaskAssignment.id

/-- The entry belongs to the allocation and to the month of the date. -/
def EntryOf (workAllocationId : String) (periodStart : CivilDate) (entry : TimeEntry) : Prop :=
  entry.workAllocationId = workAllocationId ∧
    entry.entryDate.monthStart = periodStart.monthStart

instance (workAllocationId : String) (periodStart : CivilDate) (entry : TimeEntry) :
    Decidable (EntryOf workAllocationId periodStart entry) :=
  inferInstanceAs (Decidable (_ ∧ _))

theorem listTimeEntriesForResourcePeriod_eq (resourceId : String) (periodStart : CivilDate) :
    listTimeEntriesForResourcePeriod store resourceId periodStart =
      (allocationIds store resourceId).flatMap fun id =>
        store.entries.rows.filter fun entry => EntryOf id periodStart entry := by
  unfold listTimeEntriesForResourcePeriod allocationIds
  rw [List.flatMap_map]
  apply List.flatMap_congr
  intro a _
  apply List.filter_congr
  intro entry _
  exact decide_eq_decide.mpr (and_congr Iff.rfl within_timesheetPeriodBounds)

theorem mem_allocationIds {resourceId id : String} : id ∈ allocationIds store resourceId ↔
    ∃ a ∈ store.assignments.rows, a.resourceId = resourceId ∧ a.id = id := by
  simp [allocationIds, and_assoc]

theorem frozen_congr (h : next.periods = store.periods) {resourceId : String}
    {first second : CivilDate} (hmonth : first.monthStart = second.monthStart) :
    Frozen next resourceId first ↔ Frozen store resourceId second := by
  unfold Frozen lookupTimesheetPeriod timesheetPeriodBounds
  rw [h, hmonth]

/-- Assignment ids are generated and carry no blanks. -/
def GeneratedIds (store : TimesheetStore) : Prop :=
  ∀ a ∈ store.assignments.rows, strip a.id = a.id

/-- The entries of every frozen period are those of before. -/
structure KeepsFrozenEntries (store next : TimesheetStore) : Prop where
  periods : next.periods = store.periods
  generated : GeneratedIds store → GeneratedIds next
  entries : ∀ resourceId periodStart, Frozen store resourceId periodStart →
    listTimeEntriesForResourcePeriod next resourceId periodStart =
      listTimeEntriesForResourcePeriod store resourceId periodStart

namespace KeepsFrozenEntries

theorem refl (store : TimesheetStore) : KeepsFrozenEntries store store :=
  ⟨rfl, id, fun _ _ _ => rfl⟩

theorem trans {last : TimesheetStore} (hfirst : KeepsFrozenEntries store next)
    (hsecond : KeepsFrozenEntries next last) : KeepsFrozenEntries store last where
  periods := hsecond.periods.trans hfirst.periods
  generated h := hsecond.generated (hfirst.generated h)
  entries resourceId periodStart hfrozen :=
    (hsecond.entries resourceId periodStart
      ((frozen_congr hfirst.periods rfl).mpr hfrozen)).trans
      (hfirst.entries resourceId periodStart hfrozen)

/-- Entries may be rewritten as long as no frozen period sees it. -/
theorem of_entries (hassignments : next.assignments = store.assignments)
    (hperiods : next.periods = store.periods)
    (hentries : ∀ a ∈ store.assignments.rows, ∀ periodStart, Frozen store a.resourceId periodStart →
      (next.entries.rows.filter fun entry => EntryOf a.id periodStart entry) =
        store.entries.rows.filter fun entry => EntryOf a.id periodStart entry) :
    KeepsFrozenEntries store next where
  periods := hperiods
  generated h := by
    unfold GeneratedIds
    rw [hassignments]
    exact h
  entries resourceId periodStart hfrozen := by
    rw [listTimeEntriesForResourcePeriod_eq, listTimeEntriesForResourcePeriod_eq]
    have hids : allocationIds next resourceId = allocationIds store resourceId := by
      unfold allocationIds
      rw [hassignments]
    rw [hids]
    apply List.flatMap_congr
    intro id hid
    obtain ⟨a, ha, rfl, rfl⟩ := mem_allocationIds.mp hid
    exact hentries a ha periodStart hfrozen

end KeepsFrozenEntries

/-! ## Writing single rows -/

theorem allocationIds_update (row : TaskAssignment) {stored : TaskAssignment}
    (hmem : stored ∈ store.assignments.rows) (hid : stored.id = row.id)
    (hresource : row.resourceId = stored.resourceId) (resourceId : String) :
    allocationIds { store with assignments := store.assignments.update row } resourceId =
      allocationIds store resourceId := by
  have hsame : ∀ a ∈ store.assignments.rows, a.id = row.id → a.resourceId = row.resourceId := by
    intro a ha h
    rw [store.assignments.eq_of_key_eq ha hmem (h.trans hid.symm), hresource]
  unfold allocationIds Table.update
  rw [List.filter_map, List.map_map]
  have hfilter : (store.assignments.rows.filter ((fun a => decide (a.resourceId = resourceId)) ∘
      fun a => if a.id = row.id then row else a)) =
        store.assignments.rows.filter fun a => a.resourceId = resourceId := by
    apply List.filter_congr
    intro a ha
    by_cases h : a.id = row.id
    · simp [h, hsame a ha h]
    · simp [h]
  rw [hfilter]
  apply List.map_congr_left
  intro a _
  by_cases h : a.id = row.id <;> simp [h]

/-- Hours are no part of the entries of a period. -/
theorem keepsFrozenEntries_hours {stored : TaskAssignment} {id : String} (hours : ℚ)
    (hstored : store.assignments.get? id = some stored) :
    KeepsFrozenEntries store { store with
      assignments := store.assignments.update { stored with hoursLogged := hours } } where
  periods := rfl
  generated h := by
    obtain ⟨hmem, -⟩ := Table.get?_eq_some_iff.mp hstored
    intro a ha
    rcases Table.mem_update_iff.mp ha with ⟨rfl, -⟩ | ⟨ha, -⟩
    · exact h stored hmem
    · exact h a ha
  entries resourceId periodStart _ := by
    obtain ⟨hmem, -⟩ := Table.get?_eq_some_iff.mp hstored
    have hids : allocationIds { store with
        assignments := store.assignments.update { stored with hoursLogged := hours } } resourceId =
          allocationIds store resourceId :=
      allocationIds_update { stored with hoursLogged := hours } hmem rfl rfl resourceId
    rw [listTimeEntriesForResourcePeriod_eq, listTimeEntriesForResourcePeriod_eq, hids]

theorem syncWorkAllocationHours_keeps {id : String}
    (h : syncWorkAllocationHours store id = .ok next) : KeepsFrozenEntries store next := by
  obtain ⟨stored, hstored, h⟩ := bind_ok h
  cases h
  exact keepsFrozenEntries_hours _ (require_eq_ok.mp hstored)

/-- An entry that no frozen period of its resource covers. -/
def Editable (store : TimesheetStore) (entry : TimeEntry) : Prop :=
  ∀ a ∈ store.assignments.rows, a.id = entry.workAllocationId →
    ¬ Frozen store a.resourceId entry.entryDate

theorem Editable.not_entryOf {entry : TimeEntry} (h : Editable store entry) {a : TaskAssignment}
    (ha : a ∈ store.assignments.rows) {periodStart : CivilDate}
    (hfrozen : Frozen store a.resourceId periodStart) : ¬ EntryOf a.id periodStart entry := by
  rintro ⟨hallocation, hmonth⟩
  exact h a ha hallocation.symm ((frozen_congr rfl hmonth).mpr hfrozen)

theorem insertEntry_keeps {entry : TimeEntry} (h : insertEntry store entry = .ok next)
    (heditable : Editable store entry) : KeepsFrozenEntries store next := by
  obtain ⟨_, hfresh, h⟩ := bind_ok h
  cases h
  refine .of_entries rfl rfl ?_
  intro a ha periodStart hfrozen
  rw [Table.rows_insert (ensure_eq_ok.mp hfresh)]
  exact List.filter_cons_of_neg (by simpa using heditable.not_entryOf ha hfrozen)

theorem updateEntry_keeps (stored : TimeEntry) {entry : TimeEntry}
    (hstored : store.entries.get? entry.id = some stored) (hbefore : Editable store stored)
    (hafter : Editable store entry) :
    KeepsFrozenEntries store { store with entries := store.entries.update entry } := by
  refine .of_entries rfl rfl ?_
  intro a ha periodStart hfrozen
  obtain ⟨hmem, hid⟩ := Table.get?_eq_some_iff.mp hstored
  unfold Table.update
  rw [List.filter_map]
  have hfilter : (store.entries.rows.filter ((fun row => decide (EntryOf a.id periodStart row)) ∘
      fun row => if row.id = entry.id then entry else row)) =
        store.entries.rows.filter fun row => EntryOf a.id periodStart row := by
    apply List.filter_congr
    intro row hrow
    by_cases h : row.id = entry.id
    · obtain rfl := store.entries.eq_of_key_eq hrow hmem (h.trans hid.symm)
      simp [h, hbefore.not_entryOf ha hfrozen, hafter.not_entryOf ha hfrozen]
    · simp [h]
  rw [hfilter]
  conv_rhs => rw [← List.map_id (List.filter _ _)]
  apply List.map_congr_left
  intro row hrow
  obtain ⟨hrow, hentryOf⟩ := List.mem_filter.mp hrow
  by_cases h : row.id = entry.id
  · obtain rfl := store.entries.eq_of_key_eq hrow hmem (h.trans hid.symm)
    exact absurd (by simpa using hentryOf) (hbefore.not_entryOf ha hfrozen)
  · simp [h]

theorem deleteEntry_keeps {stored : TimeEntry} {id : String}
    (hstored : store.entries.get? id = some stored) (hbefore : Editable store stored) :
    KeepsFrozenEntries store
      { store with entries := store.entries.filter fun row => row.id ≠ stored.id } := by
  refine .of_entries rfl rfl ?_
  intro a ha periodStart hfrozen
  obtain ⟨hmem, -⟩ := Table.get?_eq_some_iff.mp hstored
  change ((store.entries.rows.filter _).filter _) = _
  rw [List.filter_filter]
  apply List.filter_congr
  intro row hrow
  by_cases h : row.id = stored.id
  · obtain rfl := store.entries.eq_of_key_eq hrow hmem h
    simp [hbefore.not_entryOf ha hfrozen]
  · simp [h]

/-! ## Deleting assignments -/

theorem deleteEntriesOf_eq (store : TimesheetStore) (assignments : List TaskAssignment) :
    deleteEntriesOf store assignments =
      { store with
        entries := store.entries.filter fun entry =>
          ∀ a ∈ assignments, entry.workAllocationId ≠ a.id } := by
  induction assignments generalizing store with
  | nil =>
      have hall : store.entries.filter (fun entry => ∀ a ∈ ([] : List TaskAssignment),
          entry.workAllocationId ≠ a.id) = store.entries :=
        Table.filter_eq_self (by simp)
      rw [hall]
      rfl
  | cons head rest ih =>
      change deleteEntriesOf (deleteByAssignment store head.id) rest = _
      rw [ih, deleteByAssignment, Table.filter_filter]
      congr 2
      funext entry
      simp [Bool.and_comm]

theorem deleteAssignments_eq (store : TimesheetStore) (doomed : TaskAssignment → Bool) :
    deleteAssignments store doomed =
      { store with
        assignments := store.assignments.filter fun a => !doomed a
        entries := store.entries.filter fun entry =>
          ∀ a ∈ store.assignments.rows.filter doomed, entry.workAllocationId ≠ a.id } := by
  unfold deleteAssignments
  rw [deleteEntriesOf_eq]

/-- No deleted assignment has an entry in a frozen period. -/
def SparesFrozen (store : TimesheetStore) (doomed : TaskAssignment → Prop) : Prop :=
  ∀ a ∈ store.assignments.rows, doomed a → ∀ entry ∈ store.entries.rows,
    entry.workAllocationId = a.id → ¬ Frozen store a.resourceId entry.entryDate

/-- Dropping list members that contribute nothing. -/
theorem flatMap_filter_eq {α β : Type*} {keep : α → Bool} {f : α → List β} {l : List α}
    (h : ∀ a ∈ l, keep a = false → f a = []) : (l.filter keep).flatMap f = l.flatMap f := by
  induction l with
  | nil => rfl
  | cons head rest ih =>
      have hrest := ih fun a ha => h a (List.mem_cons_of_mem head ha)
      cases hkeep : keep head with
      | true => rw [List.filter_cons_of_pos hkeep, List.flatMap_cons, List.flatMap_cons, hrest]
      | false =>
          rw [List.filter_cons_of_neg (by simp [hkeep]), List.flatMap_cons,
            h head List.mem_cons_self hkeep, List.nil_append, hrest]

theorem deleteAssignments_keeps {doomed : TaskAssignment → Bool}
    (h : SparesFrozen store fun a => doomed a = true) :
    KeepsFrozenEntries store (deleteAssignments store doomed) where
  periods := by rw [deleteAssignments_eq]
  generated hgenerated := by
    rw [deleteAssignments_eq]
    intro a ha
    exact hgenerated a (Table.mem_filter.mp ha).1
  entries resourceId periodStart hfrozen := by
    rw [deleteAssignments_eq, listTimeEntriesForResourcePeriod_eq,
      listTimeEntriesForResourcePeriod_eq]
    unfold allocationIds
    rw [List.flatMap_map, List.flatMap_map]
    change ((store.assignments.rows.filter _).filter _).flatMap _ = _
    rw [List.filter_filter]
    simp only [Bool.and_comm]
    rw [← List.filter_filter]
    -- The entries of a kept allocation stay, and a deleted one has none in the period.
    have hkept : ∀ a ∈ (store.assignments.rows.filter fun a => a.resourceId = resourceId).filter
        fun a => !doomed a, ((store.entries.filter fun entry =>
          ∀ a ∈ store.assignments.rows.filter doomed, entry.workAllocationId ≠ a.id).rows.filter
            fun entry => EntryOf a.id periodStart entry) =
          store.entries.rows.filter fun entry => EntryOf a.id periodStart entry := by
      intro a ha
      obtain ⟨haResource, haKept⟩ := List.mem_filter.mp ha
      have haRow := (List.mem_filter.mp haResource).1
      change ((store.entries.rows.filter _).filter _) = _
      rw [List.filter_filter]
      apply List.filter_congr
      intro entry _
      by_cases hentry : EntryOf a.id periodStart entry
      · have hother : ∀ other ∈ store.assignments.rows.filter doomed,
            entry.workAllocationId ≠ other.id := by
          intro other hother hid
          obtain ⟨hotherRow, hdoomed⟩ := List.mem_filter.mp hother
          obtain rfl := store.assignments.eq_of_key_eq haRow hotherRow (hentry.1.symm.trans hid)
          simp [hdoomed] at haKept
        simp only [hentry, decide_true]
        exact decide_eq_true hother
      · simp [hentry]
    rw [List.flatMap_congr hkept]
    apply flatMap_filter_eq
    intro a ha hdoomed
    obtain ⟨haRow, haResource⟩ := List.mem_filter.mp ha
    obtain rfl : a.resourceId = resourceId := by simpa using haResource
    rw [List.filter_eq_nil_iff]
    intro entry hentry hentryOf
    obtain ⟨hallocation, hmonth⟩ : EntryOf a.id periodStart entry := by simpa using hentryOf
    exact h a haRow (by simpa using hdoomed) entry hentry hallocation
      ((frozen_congr rfl hmonth).mpr hfrozen)

theorem deleteTaskRows_keeps {taskId : String}
    (h : SparesFrozen store fun a => a.taskId = taskId) :
    KeepsFrozenEntries store (deleteTaskRows store taskId) := by
  have hcleared : KeepsFrozenEntries store
      (deleteAssignments store fun a => decide (a.taskId = taskId)) :=
    deleteAssignments_keeps (by simpa using h)
  exact ⟨hcleared.periods, hcleared.generated, hcleared.entries⟩

theorem SparesFrozen.deleteTaskRows {doomed : TaskAssignment → Prop}
    (h : SparesFrozen store doomed) (taskId : String) :
    SparesFrozen (deleteTaskRows store taskId) doomed := by
  unfold ProjectManager.deleteTaskRows
  rw [deleteAssignments_eq]
  intro a ha hdoomed entry hentry hid
  exact h a (Table.mem_filter.mp ha).1 hdoomed entry (Table.mem_filter.mp hentry).1 hid

theorem deleteProjectTasks_keeps (tasks : List WorkOwner) {store : TimesheetStore}
    (h : SparesFrozen store fun a => ∃ task ∈ tasks, task.id = a.taskId) :
    KeepsFrozenEntries store
      (tasks.foldl (fun current task => deleteTaskRows current task.id) store) := by
  induction tasks generalizing store with
  | nil => exact .refl store
  | cons head rest ih =>
      have hhead : KeepsFrozenEntries store (deleteTaskRows store head.id) :=
        deleteTaskRows_keeps fun a ha htask =>
          h a ha ⟨head, List.mem_cons_self, htask.symm⟩
      have hrest : SparesFrozen (deleteTaskRows store head.id)
          fun a => ∃ task ∈ rest, task.id = a.taskId :=
        SparesFrozen.deleteTaskRows (fun a ha ⟨task, htask, hid⟩ =>
          h a ha ⟨task, List.mem_cons_of_mem head htask, hid⟩) head.id
      exact hhead.trans (ih hrest)

/-! ## The entry operations -/

variable {service : TimesheetService}

theorem loadWorkAllocationContext_ok {id : String} {context : WorkAllocationContext}
    (h : loadWorkAllocationContext store id = .ok context) :
    store.assignments.get? id = some context.workAllocation := by
  obtain ⟨workAllocation, hfound, h⟩ := bind_ok h
  obtain ⟨owner, -, h⟩ := bind_ok h
  cases h
  exact require_eq_ok.mp hfound

/-- The check of the period makes an entry of the allocation editable. -/
theorem editable_of_ensure {a : TaskAssignment} (ha : a ∈ store.assignments.rows)
    {entry : TimeEntry} (hid : entry.workAllocationId = a.id)
    (hfrozen : ¬ Frozen store a.resourceId entry.entryDate) : Editable store entry := by
  intro other hother hotherId
  obtain rfl := store.assignments.eq_of_key_eq hother ha (hotherId.trans hid)
  exact hfrozen

theorem seedLegacyHoursEntry_keeps {context : WorkAllocationContext} {seedId : String}
    (hgenerated : GeneratedIds store) (hcontext : context.workAllocation ∈ store.assignments.rows)
    (h : seedLegacyHoursEntry service store context seedId = .ok next) :
    KeepsFrozenEntries store next := by
  simp only [seedLegacyHoursEntry] at h
  split at h
  · obtain rfl := Except.ok.inj h
    exact .refl store
  · obtain ⟨_, heditable, h⟩ := bind_ok h
    obtain ⟨seeded, hseeded, h⟩ := bind_ok h
    refine (insertEntry_keeps hseeded ?_).trans (syncWorkAllocationHours_keeps h)
    exact editable_of_ensure hcontext (hgenerated _ hcontext) (ensure_eq_ok.mp heditable)

/-- Neither inserting an entry nor summing up hours adds or removes an allocation. -/
theorem allocation_of_seeded {context : WorkAllocationContext} {seedId : String}
    (hcontext : context.workAllocation ∈ store.assignments.rows)
    (h : seedLegacyHoursEntry service store context seedId = .ok next) :
    ∃ a ∈ next.assignments.rows, a.id = context.workAllocation.id ∧
      a.resourceId = context.workAllocation.resourceId := by
  simp only [seedLegacyHoursEntry] at h
  split at h
  · obtain rfl := Except.ok.inj h
    exact ⟨_, hcontext, rfl, rfl⟩
  · obtain ⟨_, -, h⟩ := bind_ok h
    obtain ⟨seeded, hseeded, h⟩ := bind_ok h
    obtain ⟨_, -, hseeded⟩ := bind_ok hseeded
    cases hseeded
    obtain ⟨stored, hstored, h⟩ := bind_ok h
    cases h
    obtain ⟨hmem, hid⟩ := Table.get?_eq_some_iff.mp (require_eq_ok.mp hstored)
    obtain rfl := store.assignments.eq_of_key_eq hmem hcontext hid
    exact ⟨_, Table.mem_update_self hmem rfl, rfl, rfl⟩

theorem addWorkEntry_keeps {workAllocationId : String} {entryDate : CivilDate} {hours : ℚ}
    {note seedId entryId : String} (hgenerated : GeneratedIds store)
    (h : addWorkEntry service store workAllocationId entryDate hours note seedId entryId =
      .ok next) : KeepsFrozenEntries store next := by
  obtain ⟨_, -, h⟩ := bind_ok h
  obtain ⟨context, hcontext, h⟩ := bind_ok h
  obtain ⟨_, heditable, h⟩ := bind_ok h
  obtain ⟨hours, -, h⟩ := bind_ok h
  obtain ⟨seeded, hseeded, h⟩ := bind_ok h
  obtain ⟨added, hadded, h⟩ := bind_ok h
  obtain ⟨hallocation, -⟩ := Table.get?_eq_some_iff.mp (loadWorkAllocationContext_ok hcontext)
  have hseed := seedLegacyHoursEntry_keeps hgenerated hallocation hseeded
  refine hseed.trans ((insertEntry_keeps hadded ?_).trans (syncWorkAllocationHours_keeps h))
  obtain ⟨a, ha, hid, hresource⟩ := allocation_of_seeded hallocation hseeded
  refine editable_of_ensure ha ((hgenerated _ hallocation).trans hid.symm) ?_
  rw [hresource, frozen_congr hseed.periods rfl]
  exact ensure_eq_ok.mp heditable

theorem updateTimeEntry_keeps {entryId : String} {entryDate : Option CivilDate}
    {hours : Option ℚ} {note : Option String}
    (h : updateTimeEntry service store entryId entryDate hours note = .ok next) :
    KeepsFrozenEntries store next := by
  obtain ⟨_, -, h⟩ := bind_ok h
  obtain ⟨entry, hentry, h⟩ := bind_ok h
  obtain ⟨context, hcontext, h⟩ := bind_ok h
  obtain ⟨_, heditable, h⟩ := bind_ok h
  obtain ⟨_, htarget, h⟩ := bind_ok h
  obtain ⟨_, -, h⟩ := bind_ok h
  obtain ⟨hallocation, hid⟩ := Table.get?_eq_some_iff.mp (loadWorkAllocationContext_ok hcontext)
  have hbefore := ensure_eq_ok.mp heditable
  have hafter : ¬ Frozen store context.workAllocation.resourceId
      (entryDate.getD entry.entryDate) := by
    by_cases hsame : entryDate.getD entry.entryDate = entry.entryDate
    · rw [hsame]
      exact hbefore
    · rw [if_neg hsame] at htarget
      exact ensure_eq_ok.mp htarget
  obtain ⟨hmem, -⟩ := Table.get?_eq_some_iff.mp (require_eq_ok.mp hentry)
  refine KeepsFrozenEntries.trans ?_ (syncWorkAllocationHours_keeps h)
  refine updateEntry_keeps entry ?_ ?_ ?_
  · exact store.entries.get?_of_mem hmem
  · exact editable_of_ensure hallocation hid.symm hbefore
  · exact editable_of_ensure hallocation hid.symm hafter

theorem deleteTimeEntry_keeps {entryId : String}
    (h : deleteTimeEntry service store entryId = .ok next) : KeepsFrozenEntries store next := by
  obtain ⟨_, -, h⟩ := bind_ok h
  obtain ⟨entry, hentry, h⟩ := bind_ok h
  obtain ⟨context, hcontext, h⟩ := bind_ok h
  obtain ⟨_, heditable, h⟩ := bind_ok h
  obtain ⟨hallocation, hid⟩ := Table.get?_eq_some_iff.mp (loadWorkAllocationContext_ok hcontext)
  refine (deleteEntry_keeps (require_eq_ok.mp hentry) ?_).trans (syncWorkAllocationHours_keeps h)
  exact editable_of_ensure hallocation hid.symm (ensure_eq_ok.mp heditable)

theorem setAssignmentHours_keeps {assignmentId : String} {hours : ℚ}
    (h : setAssignmentHours service store assignmentId hours = .ok next) :
    KeepsFrozenEntries store next := by
  obtain ⟨_, -, h⟩ := bind_ok h
  obtain ⟨assignment, hfound, h⟩ := bind_ok h
  obtain ⟨_, -, h⟩ := bind_ok h
  obtain ⟨task, -, h⟩ := bind_ok h
  obtain ⟨_, -, h⟩ := bind_ok h
  cases h
  exact keepsFrozenEntries_hours hours (require_eq_ok.mp hfound)

/-! ## Calls and runs -/

end

inductive TimesheetCall
  | addWorkEntry (workAllocationId : String) (entryDate : CivilDate) (hours : ℚ) (note : String)
      (seedId entryId : String)
  | updateTimeEntry (entryId : String) (entryDate : Option CivilDate) (hours : Option ℚ)
      (note : Option String)
  | deleteTimeEntry (entryId : String)
  | setAssignmentHours (assignmentId : String) (hoursLogged : ℚ)
  | unassignResource (assignmentId : String)
  | deleteTask (taskId : String)
  | deleteProject (projectId : String)
  | deleteResource (resourceId : String)

namespace TimesheetCall

def apply (service : TimesheetService) (store : TimesheetStore) :
    TimesheetCall → Except DomainError TimesheetStore
  | .addWorkEntry workAllocationId entryDate hours note seedId entryId =>
      ProjectManager.addWorkEntry service store workAllocationId entryDate hours note seedId entryId
  | .updateTimeEntry entryId entryDate hours note =>
      ProjectManager.updateTimeEntry service store entryId entryDate hours note
  | .deleteTimeEntry entryId => ProjectManager.deleteTimeEntry service store entryId
  | .setAssignmentHours assignmentId hoursLogged =>
      ProjectManager.setAssignmentHours service store assignmentId hoursLogged
  | .unassignResource assignmentId => ProjectManager.unassignResource service store assignmentId
  | .deleteTask taskId => ProjectManager.deleteTask service store taskId
  | .deleteProject projectId => ProjectManager.deleteProject service store projectId
  | .deleteResource resourceId => ProjectManager.deleteResource service store resourceId

/-- A call with the services of the user who makes it. -/
def applyBy (store : TimesheetStore) (call : TimesheetService × TimesheetCall) :
    Except DomainError TimesheetStore :=
  call.2.apply call.1 store

def Removes (store : TimesheetStore) : TimesheetCall → TaskAssignment → Prop
  | .unassignResource assignmentId, a => a.id = assignmentId
  | .deleteTask taskId, a => a.taskId = taskId
  | .deleteProject projectId, a =>
      ∃ task ∈ store.tasks.rows, task.projectId = projectId ∧ task.id = a.taskId
  | .deleteResource resourceId, a => a.resourceId = resourceId
  | _, _ => False

variable {service : TimesheetService} {store next : TimesheetStore}

theorem apply_keeps {call : TimesheetCall} (hcall : call.apply service store = .ok next)
    (hspares : SparesFrozen store (call.Removes store)) (hgenerated : GeneratedIds store) :
    KeepsFrozenEntries store next := by
  cases call with
  | addWorkEntry => exact addWorkEntry_keeps hgenerated hcall
  | updateTimeEntry => exact updateTimeEntry_keeps hcall
  | deleteTimeEntry => exact deleteTimeEntry_keeps hcall
  | setAssignmentHours => exact setAssignmentHours_keeps hcall
  | unassignResource assignmentId =>
      obtain ⟨_, -, h⟩ := bind_ok hcall
      iterate 2 obtain ⟨_, -, h⟩ := bind_ok h
      cases h
      exact deleteAssignments_keeps fun a ha hid =>
        hspares a ha (of_decide_eq_true (p := a.id = assignmentId) hid)
  | deleteTask taskId =>
      obtain ⟨_, -, h⟩ := bind_ok hcall
      iterate 2 obtain ⟨_, -, h⟩ := bind_ok h
      cases h
      exact deleteTaskRows_keeps hspares
  | deleteProject projectId =>
      obtain ⟨_, -, h⟩ := bind_ok hcall
      iterate 2 obtain ⟨_, -, h⟩ := bind_ok h
      cases h
      have hcleared : KeepsFrozenEntries store _ := deleteProjectTasks_keeps
        (store.tasks.rows.filter fun task => task.projectId = projectId)
        fun a ha ⟨task, htask, hid⟩ =>
          hspares a ha ⟨task, (List.mem_filter.mp htask).1,
            by simpa using (List.mem_filter.mp htask).2, hid⟩
      exact ⟨hcleared.periods, hcleared.generated, hcleared.entries⟩
  | deleteResource resourceId =>
      obtain ⟨_, -, h⟩ := bind_ok hcall
      obtain ⟨_, -, h⟩ := bind_ok h
      cases h
      have hcleared : KeepsFrozenEntries store
          (deleteAssignments store fun a => decide (a.resourceId = resourceId)) :=
        deleteAssignments_keeps fun a ha hid =>
          hspares a ha (of_decide_eq_true (p := a.resourceId = resourceId) hid)
      exact ⟨hcleared.periods, hcleared.generated, hcleared.entries⟩

end TimesheetCall

/-- The entries of a frozen period survive every run, whoever makes the calls, whose accepted calls
remove no assignment with entries in a frozen period. -/
theorem timesheetRun_keepsFrozen (calls : List (TimesheetService × TimesheetCall))
    (store : TimesheetStore) (hgenerated : GeneratedIds store)
    (hcalls : AllCalls TimesheetCall.applyBy
      (fun current call => (TimesheetCall.applyBy current call).isOk = true →
        SparesFrozen current (call.2.Removes current)) store calls)
    (resourceId : String) (periodStart : CivilDate) (hfrozen : Frozen store resourceId periodStart) :
    let last := stateAfterAll TimesheetCall.applyBy store calls
    Frozen last resourceId periodStart ∧
      listTimeEntriesForResourcePeriod last resourceId periodStart =
        listTimeEntriesForResourcePeriod store resourceId periodStart := by
  have hkeeps : KeepsFrozenEntries store
      (stateAfterAll TimesheetCall.applyBy store calls) := by
    refine stateAfterAll_invariant ?_ calls hcalls (.refl store)
    intro current call next hcall hspares hcurrent
    exact hcurrent.trans (call.2.apply_keeps hcall (hspares (by rw [hcall]; rfl))
      (hcurrent.generated hgenerated))
  exact ⟨(frozen_congr hkeeps.periods rfl).mpr hfrozen,
    hkeeps.entries resourceId periodStart hfrozen⟩

/-! ## A month that is approved -/

def adminTimesheetService : TimesheetService where
  userSession := .admin
  principal := some ("u", "admin")
  employees _ := none
  today := ⟨2025, 4, 1, by decide⟩

/-- An assignment with two hours on 3 March, and one without; March is approved. -/
def approvedMarch : TimesheetStore where
  projectIds := ["p"]
  tasks := ⟨[{ id := "design", projectId := "p", name := "Design" }], by decide⟩
  resources := ⟨[{ id := "crew" }], by decide⟩
  assignments := ⟨[{ id := "a", taskId := "design", resourceId := "crew", hoursLogged := 2 },
    { id := "b", taskId := "design", resourceId := "crew" }], by decide⟩
  entries := ⟨[
    { id := "e"
      workAllocationId := "a"
      entryDate := ⟨2025, 3, 3, by decide⟩
      hours := 2 }], by decide⟩
  periods := ⟨[
    { id := "m"
      resourceId := "crew"
      periodStart := ⟨2025, 3, 1, by decide⟩
      periodEnd := ⟨2025, 3, 31, by decide⟩
      status := .approved }], by decide⟩

/-- The assignment without hours is removed and an entry in April is accepted; entries of March are
refused. -/
def aprilCalls : List (TimesheetService × TimesheetCall) :=
  [(adminTimesheetService, .unassignResource "b"),
    (adminTimesheetService, .addWorkEntry "a" ⟨2025, 4, 7, by decide⟩ 3 "" "s" "f"),
    (adminTimesheetService, .deleteTimeEntry "e"),
    (adminTimesheetService, .updateTimeEntry "f" (some ⟨2025, 3, 4, by decide⟩) none none)]

theorem timesheetRun_keepsFrozen_march :
    let last := stateAfterAll TimesheetCall.applyBy approvedMarch aprilCalls
    last.assignments.ids = ["a"] ∧ Frozen last "crew" ⟨2025, 3, 9, by decide⟩ ∧
      listTimeEntriesForResourcePeriod last "crew" ⟨2025, 3, 9, by decide⟩ =
        listTimeEntriesForResourcePeriod approvedMarch "crew" ⟨2025, 3, 9, by decide⟩ := by
  refine ⟨by decide, timesheetRun_keepsFrozen aprilCalls approvedMarch ?_
    ⟨?_, ?_, ?_, ?_, trivial⟩ "crew" ⟨2025, 3, 9, by decide⟩ (by decide)⟩
  · unfold GeneratedIds
    decide
  · intro _ a ha (hid : a.id = "b")
    obtain rfl | rfl : a = _ ∨ a = _ := by simpa [approvedMarch] using ha
    · exact absurd hid (by decide)
    · decide
  all_goals exact fun _ _ _ hremoves => hremoves.elim

/-- Each of the four removing calls empties the approved month. -/
theorem not_keepsFrozen_march :
    List.Forall (fun call =>
      let last := stateAfterAll (TimesheetCall.apply adminTimesheetService) approvedMarch [call]
      Frozen approvedMarch "crew" ⟨2025, 3, 1, by decide⟩ ∧
        Frozen last "crew" ⟨2025, 3, 1, by decide⟩ ∧
        listTimeEntriesForResourcePeriod last "crew" ⟨2025, 3, 1, by decide⟩ ≠
          listTimeEntriesForResourcePeriod approvedMarch "crew" ⟨2025, 3, 1, by decide⟩)
      [.unassignResource "a", .deleteTask "design", .deleteProject "p", .deleteResource "crew"] := by
  decide

end ProjectManager
