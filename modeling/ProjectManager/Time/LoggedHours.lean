import Mathlib.Algebra.Order.BigOperators.Group.List
import ProjectManager.Time.FrozenPeriods

/-! # Logged hours

The hours of an allocation are recomputed from its entries after every entry
operation. An allocation with entries therefore always carries their sum, and
the hours it carried before its first entry live on in the seeded one.
-/

namespace ProjectManager

open Foundation

def entryHours (store : TimesheetStore) (workAllocationId : String) : ℚ :=
  ((store.entries.rows.filter fun entry => entry.workAllocationId = workAllocationId).map
    TimeEntry.hours).sum

def HasEntries (store : TimesheetStore) (workAllocationId : String) : Prop :=
  ∃ entry ∈ store.entries.rows, entry.workAllocationId = workAllocationId

instance (store : TimesheetStore) (workAllocationId : String) :
    Decidable (HasEntries store workAllocationId) :=
  inferInstanceAs (Decidable (∃ entry ∈ store.entries.rows, _))

/-- An allocation with entries carries their sum, one without carries legacy hours or none. -/
structure HoursMatch (store : TimesheetStore) : Prop where
  generated : GeneratedIds store
  legacy : ∀ a ∈ store.assignments.rows, 0 ≤ a.hoursLogged
  positive : ∀ entry ∈ store.entries.rows, 0 < entry.hours
  logged : ∀ a ∈ store.assignments.rows, HasEntries store a.id →
    a.hoursLogged = entryHours store a.id

section

variable {service : TimesheetService} {store next : TimesheetStore}

/-! ## Sums of entries -/

def hoursFor (workAllocationId : String) (entry : TimeEntry) : ℚ :=
  if entry.workAllocationId = workAllocationId then entry.hours else 0

theorem entryHours_eq_sum (store : TimesheetStore) (workAllocationId : String) :
    entryHours store workAllocationId = store.entries.sum (hoursFor workAllocationId) := by
  unfold entryHours Table.sum
  induction store.entries.rows with
  | nil => rfl
  | cons head rest ih =>
      by_cases h : head.workAllocationId = workAllocationId <;> simp [hoursFor, h, ih]

theorem entryHours_eq_zero {workAllocationId : String} (h : ¬ HasEntries store workAllocationId) :
    entryHours store workAllocationId = 0 := by
  rw [entryHours_eq_sum]
  apply Table.sum_eq_zero
  intro entry hentry
  exact if_neg fun hid => h ⟨entry, hentry, hid⟩

theorem entryHours_nonneg (hpositive : ∀ entry ∈ store.entries.rows, 0 < entry.hours)
    (workAllocationId : String) : 0 ≤ entryHours store workAllocationId := by
  apply List.sum_nonneg
  intro hours hhours
  obtain ⟨entry, hentry, rfl⟩ := List.mem_map.mp hhours
  exact (hpositive entry (List.mem_filter.mp hentry).1).le

/-- The hours of an allocation and their change by a call. -/
def TaskAssignment.addHours (change : String → ℚ) (a : TaskAssignment) : TaskAssignment :=
  { a with hoursLogged := a.hoursLogged + change a.id }

theorem map_addHours_zero (rows : List TaskAssignment) :
    rows.map (TaskAssignment.addHours fun _ => 0) = rows := by
  conv_rhs => rw [← List.map_id rows]
  apply List.map_congr_left
  intro a _
  simp [TaskAssignment.addHours]

/-! ## Recomputing the hours of one allocation -/

/-- Entries change for one allocation only, and by the given amount. -/
structure EntriesChange (store changed : TimesheetStore) (workAllocationId : String) (amount : ℚ) :
    Prop where
  assignments : changed.assignments = store.assignments
  positive : ∀ entry ∈ changed.entries.rows, 0 < entry.hours
  hours : entryHours changed workAllocationId = entryHours store workAllocationId + amount
  others : ∀ id, id ≠ workAllocationId → entryHours changed id = entryHours store id ∧
    (HasEntries changed id → HasEntries store id)

theorem EntriesChange.synced {changed : TimesheetStore} {id : String} {amount change : ℚ}
    (hchange : EntriesChange store changed id amount) (hmatch : HoursMatch store)
    (hlogged : ∀ a ∈ store.assignments.rows, a.id = id →
      entryHours changed id = a.hoursLogged + change)
    (h : syncWorkAllocationHours changed id = .ok next) :
    HoursMatch next ∧ next.assignments.rows = store.assignments.rows.map
      (TaskAssignment.addHours fun other => if other = id then change else 0) := by
  obtain ⟨stored, hstored, h⟩ := bind_ok h
  cases h
  obtain ⟨hmem, hid⟩ := Table.get?_eq_some_iff.mp (require_eq_ok.mp hstored)
  have hrows : (changed.assignments.update
      { stored with hoursLogged := entryHours changed id }).rows = store.assignments.rows.map
        (TaskAssignment.addHours fun other => if other = id then change else 0) := by
    rw [hchange.assignments] at hmem ⊢
    apply List.map_congr_left
    intro a ha
    by_cases hsame : a.id = id
    · obtain rfl := store.assignments.eq_of_key_eq ha hmem (hsame.trans hid.symm)
      simp [TaskAssignment.addHours, hid, hlogged a ha hsame]
    · have hother : a.id ≠ stored.id := fun hkey => hsame (hkey.trans hid)
      simp [TaskAssignment.addHours, hsame, hother]
  refine ⟨?_, hrows⟩
  have hassignment : ∀ b ∈ (changed.assignments.update
      { stored with hoursLogged := entryHours changed id }).rows,
        ∃ a ∈ store.assignments.rows, b = a.addHours fun other => if other = id then change else 0 := by
    intro b hb
    rw [hrows] at hb
    obtain ⟨a, ha, rfl⟩ := List.mem_map.mp hb
    exact ⟨a, ha, rfl⟩
  -- An allocation either has the recomputed hours or keeps what it had.
  have hhours : ∀ a ∈ store.assignments.rows,
      (a.addHours fun other => if other = id then change else 0).hoursLogged =
        if a.id = id then entryHours changed id else a.hoursLogged := by
    intro a ha
    by_cases hsame : a.id = id
    · simp [TaskAssignment.addHours, hsame, hlogged a ha hsame]
    · simp [TaskAssignment.addHours, hsame]
  refine ⟨?_, ?_, hchange.positive, ?_⟩
  · intro b hb
    obtain ⟨a, ha, rfl⟩ := hassignment b hb
    exact hmatch.generated a ha
  · intro b hb
    obtain ⟨a, ha, rfl⟩ := hassignment b hb
    rw [hhours a ha]
    split
    · exact entryHours_nonneg hchange.positive id
    · exact hmatch.legacy a ha
  · intro b hb hentries
    obtain ⟨a, ha, rfl⟩ := hassignment b hb
    rw [hhours a ha]
    by_cases hsame : a.id = id
    · rw [if_pos hsame]
      exact congrArg (entryHours changed) hsame.symm
    · obtain ⟨hsum, hbefore⟩ := hchange.others a.id hsame
      rw [if_neg hsame, hmatch.logged a ha (hbefore hentries)]
      exact hsum.symm

theorem syncWorkAllocationHours_entries {id : String}
    (h : syncWorkAllocationHours store id = .ok next) (other : String) :
    entryHours next other = entryHours store other := by
  obtain ⟨_, -, h⟩ := bind_ok h
  cases h
  rfl

theorem insertEntry_change {entry : TimeEntry} (h : insertEntry store entry = .ok next)
    (hpositive : ∀ row ∈ store.entries.rows, 0 < row.hours) (hhours : 0 < entry.hours) :
    EntriesChange store next entry.workAllocationId entry.hours := by
  obtain ⟨_, hfresh, h⟩ := bind_ok h
  cases h
  have hrows := Table.rows_insert (ensure_eq_ok.mp hfresh)
  refine ⟨rfl, ?_, ?_, ?_⟩
  · intro row hrow
    rcases Table.mem_insert hrow with rfl | hrow
    · exact hhours
    · exact hpositive row hrow
  · rw [entryHours_eq_sum, Table.sum_insert (ensure_eq_ok.mp hfresh), entryHours_eq_sum, add_comm,
      hoursFor, if_pos rfl]
  · intro id hid
    constructor
    · rw [entryHours_eq_sum, Table.sum_insert (ensure_eq_ok.mp hfresh), entryHours_eq_sum,
        hoursFor, if_neg hid.symm, zero_add]
    · rintro ⟨row, hrow, rfl⟩
      rcases Table.mem_insert hrow with rfl | hrow
      · exact absurd rfl hid
      · exact ⟨row, hrow, rfl⟩

theorem updateEntry_change {stored entry : TimeEntry}
    (hstored : store.entries.get? entry.id = some stored)
    (hallocation : entry.workAllocationId = stored.workAllocationId)
    (hpositive : ∀ row ∈ store.entries.rows, 0 < row.hours) (hhours : 0 < entry.hours) :
    EntriesChange store { store with entries := store.entries.update entry }
      stored.workAllocationId (entry.hours - stored.hours) where
  assignments := rfl
  positive row hrow := by
    rcases Table.mem_update_iff.mp hrow with ⟨rfl, -⟩ | ⟨hrow, -⟩
    · exact hhours
    · exact hpositive row hrow
  hours := by
    rw [entryHours_eq_sum, Table.sum_update hstored, entryHours_eq_sum, hoursFor, hoursFor,
      if_pos rfl, if_pos hallocation]
    abel
  others id hid := by
    constructor
    · rw [entryHours_eq_sum, Table.sum_update hstored, entryHours_eq_sum, hoursFor, hoursFor,
        if_neg hid.symm, if_neg (hallocation ▸ hid.symm), sub_zero, add_zero]
    · rintro ⟨row, hrow, rfl⟩
      rcases Table.mem_update_iff.mp hrow with ⟨rfl, -⟩ | ⟨hrow, -⟩
      · exact absurd hallocation hid
      · exact ⟨row, hrow, rfl⟩

theorem deleteEntry_change {stored : TimeEntry} (hmem : stored ∈ store.entries.rows)
    (hpositive : ∀ row ∈ store.entries.rows, 0 < row.hours) :
    EntriesChange store { store with entries := store.entries.filter fun row => row.id ≠ stored.id }
      stored.workAllocationId (- stored.hours) where
  assignments := rfl
  positive row hrow := hpositive row (Table.mem_filter.mp hrow).1
  hours := by
    rw [entryHours_eq_sum, Table.sum_delete hmem, entryHours_eq_sum, hoursFor, if_pos rfl,
      sub_eq_add_neg]
  others id hid := by
    constructor
    · rw [entryHours_eq_sum, Table.sum_delete hmem, entryHours_eq_sum, hoursFor, if_neg hid.symm,
        sub_zero]
    · rintro ⟨row, hrow, rfl⟩
      exact ⟨row, (Table.mem_filter.mp hrow).1, rfl⟩

/-! ## The entry operations -/

theorem seedLegacyHoursEntry_match {context : WorkAllocationContext} {seedId : String}
    (hmatch : HoursMatch store) (hcontext : context.workAllocation ∈ store.assignments.rows)
    (h : seedLegacyHoursEntry service store context seedId = .ok next) :
    HoursMatch next ∧ next.assignments = store.assignments ∧
      context.workAllocation.hoursLogged = entryHours next context.workAllocation.id := by
  simp only [seedLegacyHoursEntry] at h
  split at h
  next hkept =>
    cases h
    refine ⟨hmatch, rfl, ?_⟩
    by_cases hentries : HasEntries store context.workAllocation.id
    · exact hmatch.logged _ hcontext hentries
    · rw [entryHours_eq_zero hentries]
      exact le_antisymm (hkept.resolve_left hentries) (hmatch.legacy _ hcontext)
  next hseeds =>
    obtain ⟨hentries, hhours⟩ := not_or.mp hseeds
    obtain ⟨_, -, h⟩ := bind_ok h
    obtain ⟨seeded, hseeded, h⟩ := bind_ok h
    have hid : strip context.workAllocation.id = context.workAllocation.id :=
      hmatch.generated _ hcontext
    have hchange : EntriesChange store seeded (strip context.workAllocation.id)
        context.workAllocation.hoursLogged :=
      insertEntry_change hseeded hmatch.positive (not_le.mp hhours)
    rw [hid] at hchange
    have hlegacy : entryHours seeded context.workAllocation.id =
        context.workAllocation.hoursLogged := by
      rw [hchange.hours, entryHours_eq_zero hentries, zero_add]
    have hlogged : ∀ a ∈ store.assignments.rows, a.id = context.workAllocation.id →
        entryHours seeded context.workAllocation.id = a.hoursLogged + 0 := by
      intro a ha hsame
      obtain rfl := store.assignments.eq_of_key_eq ha hcontext hsame
      rw [hlegacy, add_zero]
    obtain ⟨hnext, hrows⟩ := hchange.synced hmatch hlogged h
    have hsame : next.assignments = store.assignments := by
      ext1
      rw [hrows]
      simp only [ite_self]
      exact map_addHours_zero _
    refine ⟨hnext, hsame, ?_⟩
    rw [← hlegacy, syncWorkAllocationHours_entries h]

theorem addWorkEntry_match {workAllocationId : String} {entryDate : CivilDate} {hours : ℚ}
    {note seedId entryId : String} (hmatch : HoursMatch store)
    (h : addWorkEntry service store workAllocationId entryDate hours note seedId entryId =
      .ok next) : HoursMatch next ∧ next.assignments.rows = store.assignments.rows.map
        (TaskAssignment.addHours fun other => if other = workAllocationId then hours else 0) := by
  obtain ⟨_, -, h⟩ := bind_ok h
  obtain ⟨context, hcontext, h⟩ := bind_ok h
  obtain ⟨_, -, h⟩ := bind_ok h
  obtain ⟨validated, hvalidated, h⟩ := bind_ok h
  obtain ⟨seeded, hseeded, h⟩ := bind_ok h
  obtain ⟨added, hadded, hsync⟩ := bind_ok h
  obtain ⟨_, hhours, hvalidated⟩ := bind_ok hvalidated
  cases hvalidated
  obtain ⟨hallocation, hkey⟩ := Table.get?_eq_some_iff.mp (loadWorkAllocationContext_ok hcontext)
  obtain ⟨hmatchSeeded, hassignments, hlegacy⟩ :=
    seedLegacyHoursEntry_match hmatch hallocation hseeded
  have hid : strip context.workAllocation.id = context.workAllocation.id :=
    hmatch.generated _ hallocation
  have hchange : EntriesChange seeded added (strip context.workAllocation.id) hours :=
    insertEntry_change hadded hmatchSeeded.positive (ensure_eq_ok.mp hhours)
  rw [hid] at hchange
  rw [← hassignments] at hallocation ⊢
  rw [← hkey]
  apply hchange.synced hmatchSeeded _ hsync
  intro a ha hsame
  obtain rfl := seeded.assignments.eq_of_key_eq ha hallocation hsame
  rw [hchange.hours, hlegacy]

theorem HoursMatch.logged_of_entry (hmatch : HoursMatch store) {entry : TimeEntry}
    (hentry : entry ∈ store.entries.rows) {a : TaskAssignment}
    (ha : a ∈ store.assignments.rows) (hid : a.id = entry.workAllocationId) :
    a.hoursLogged = entryHours store entry.workAllocationId := by
  rw [← hid]
  exact hmatch.logged a ha ⟨entry, hentry, hid.symm⟩

theorem updateTimeEntry_match {entryId : String} {entryDate : Option CivilDate}
    {hours : Option ℚ} {note : Option String} (hmatch : HoursMatch store)
    (h : updateTimeEntry service store entryId entryDate hours note = .ok next) :
    ∃ entry, store.entries.get? entryId = some entry ∧ HoursMatch next ∧
      next.assignments.rows = store.assignments.rows.map (TaskAssignment.addHours fun other =>
        if other = entry.workAllocationId then hours.getD entry.hours - entry.hours else 0) := by
  obtain ⟨_, -, h⟩ := bind_ok h
  obtain ⟨entry, hentry, h⟩ := bind_ok h
  obtain ⟨context, -, h⟩ := bind_ok h
  iterate 2 obtain ⟨_, -, h⟩ := bind_ok h
  obtain ⟨_, hgiven, h⟩ := bind_ok h
  obtain ⟨hmem, -⟩ := Table.get?_eq_some_iff.mp (require_eq_ok.mp hentry)
  have hhours : 0 < hours.getD entry.hours := by
    cases hours with
    | none => exact hmatch.positive entry hmem
    | some given => exact ensure_eq_ok.mp hgiven
  have hchange : EntriesChange store { store with
      entries := store.entries.update
        { entry with
          entryDate := entryDate.getD entry.entryDate
          hours := hours.getD entry.hours
          note := (note.map strip).getD entry.note } } entry.workAllocationId
      (hours.getD entry.hours - entry.hours) :=
    updateEntry_change (store.entries.get?_of_mem hmem) rfl hmatch.positive hhours
  refine ⟨entry, require_eq_ok.mp hentry, ?_⟩
  apply hchange.synced hmatch _ h
  intro a ha hsame
  rw [hchange.hours, hmatch.logged_of_entry hmem ha hsame]

theorem deleteTimeEntry_match {entryId : String} (hmatch : HoursMatch store)
    (h : deleteTimeEntry service store entryId = .ok next) :
    ∃ entry, store.entries.get? entryId = some entry ∧ HoursMatch next ∧
      next.assignments.rows = store.assignments.rows.map (TaskAssignment.addHours fun other =>
        if other = entry.workAllocationId then - entry.hours else 0) := by
  obtain ⟨_, -, h⟩ := bind_ok h
  obtain ⟨entry, hentry, h⟩ := bind_ok h
  obtain ⟨context, -, h⟩ := bind_ok h
  obtain ⟨_, -, h⟩ := bind_ok h
  obtain ⟨hmem, -⟩ := Table.get?_eq_some_iff.mp (require_eq_ok.mp hentry)
  have hchange := deleteEntry_change hmem hmatch.positive
  refine ⟨entry, require_eq_ok.mp hentry, ?_⟩
  apply hchange.synced hmatch _ h
  intro a ha hsame
  rw [hchange.hours, hmatch.logged_of_entry hmem ha hsame]

end

/-! ## Calls and runs -/

inductive HoursCall
  | initializeTimesheet (workAllocationId : String) (seedId : String)
  | addWorkEntry (workAllocationId : String) (entryDate : CivilDate) (hours : ℚ) (note : String)
      (seedId entryId : String)
  | updateTimeEntry (entryId : String) (entryDate : Option CivilDate) (hours : Option ℚ)
      (note : Option String)
  | deleteTimeEntry (entryId : String)

namespace HoursCall

def apply (service : TimesheetService) (store : TimesheetStore) :
    HoursCall → Except DomainError TimesheetStore
  | .initializeTimesheet workAllocationId seedId =>
      initializeTimesheetForWorkAllocation service store workAllocationId seedId
  | .addWorkEntry workAllocationId entryDate hours note seedId entryId =>
      ProjectManager.addWorkEntry service store workAllocationId entryDate hours note seedId entryId
  | .updateTimeEntry entryId entryDate hours note =>
      ProjectManager.updateTimeEntry service store entryId entryDate hours note
  | .deleteTimeEntry entryId => ProjectManager.deleteTimeEntry service store entryId

/-- What a call adds to the logged hours of each allocation. -/
def change (store : TimesheetStore) (call : HoursCall) (workAllocationId : String) : ℚ :=
  match call with
  | .initializeTimesheet _ _ => 0
  | .addWorkEntry target _ hours _ _ _ => if workAllocationId = target then hours else 0
  | .updateTimeEntry entryId _ hours _ =>
      ((store.entries.get? entryId).map fun entry =>
        if workAllocationId = entry.workAllocationId then hours.getD entry.hours - entry.hours
        else 0).getD 0
  | .deleteTimeEntry entryId =>
      ((store.entries.get? entryId).map fun entry =>
        if workAllocationId = entry.workAllocationId then - entry.hours else 0).getD 0

variable {service : TimesheetService} {store next : TimesheetStore}

theorem apply_match {call : HoursCall} (h : call.apply service store = .ok next)
    (hmatch : HoursMatch store) : HoursMatch next ∧
      next.assignments.rows = store.assignments.rows.map
        (TaskAssignment.addHours (call.change store)) := by
  cases call with
  | initializeTimesheet workAllocationId seedId =>
      obtain ⟨_, -, h⟩ := bind_ok h
      obtain ⟨context, hcontext, h⟩ := bind_ok h
      obtain ⟨hallocation, -⟩ := Table.get?_eq_some_iff.mp (loadWorkAllocationContext_ok hcontext)
      obtain ⟨hnext, hassignments, -⟩ := seedLegacyHoursEntry_match hmatch hallocation h
      refine ⟨hnext, ?_⟩
      rw [hassignments]
      exact (map_addHours_zero _).symm
  | addWorkEntry => exact addWorkEntry_match hmatch h
  | updateTimeEntry entryId entryDate hours note =>
      obtain ⟨entry, hentry, hnext, hrows⟩ := updateTimeEntry_match hmatch h
      refine ⟨hnext, hrows.trans ?_⟩
      congr 2
      funext other
      rw [change, hentry, Option.map_some, Option.getD_some]
  | deleteTimeEntry entryId =>
      obtain ⟨entry, hentry, hnext, hrows⟩ := deleteTimeEntry_match hmatch h
      refine ⟨hnext, hrows.trans ?_⟩
      congr 2
      funext other
      rw [change, hentry, Option.map_some, Option.getD_some]

/-- A call with the services of the user who makes it. -/
def applyBy (store : TimesheetStore) (call : TimesheetService × HoursCall) :
    Except DomainError TimesheetStore :=
  call.2.apply call.1 store

end HoursCall

/-- Along every run the allocations with entries carry their sums, and every accepted call
changes the logged hours by exactly what it adds, edits or deletes. -/
theorem hoursRun_match (calls : List (TimesheetService × HoursCall)) (store : TimesheetStore)
    (hmatch : HoursMatch store) :
    let last := stateAfterAll HoursCall.applyBy store calls
    HoursMatch last ∧ ∀ (service : TimesheetService) (call : HoursCall) (next : TimesheetStore),
      call.apply service last = .ok next → HoursMatch next ∧
        next.assignments.rows = last.assignments.rows.map
          (TaskAssignment.addHours (call.change last)) := by
  have hlast : HoursMatch (stateAfterAll HoursCall.applyBy store calls) := by
    apply stateAfterAll_kept _ calls hmatch
    intro current call next hcall hcurrent
    exact (HoursCall.apply_match hcall hcurrent).1
  exact ⟨hlast, fun service call next hcall => HoursCall.apply_match hcall hlast⟩

/-! ## Legacy hours -/

/-- Five hours logged before there were entries. -/
def legacyDesign : TimesheetStore where
  projectIds := ["p"]
  tasks := ⟨[{ id := "design", projectId := "p", name := "Design" }], List.nodup_singleton _⟩
  resources := ⟨[{ id := "crew" }], List.nodup_singleton _⟩
  assignments := ⟨[{ id := "a", taskId := "design", resourceId := "crew", hoursLogged := 5 }],
    List.nodup_singleton _⟩
  entries := .empty
  periods := .empty

theorem legacyDesign_match : HoursMatch legacyDesign := by
  refine ⟨?_, ?_, ?_, ?_⟩
  · unfold GeneratedIds
    decide
  all_goals decide +kernel

/-- Three hours on top of the legacy ones, and their deletion. -/
theorem hoursRun_match_design :
    let last := stateAfterAll HoursCall.applyBy legacyDesign
      [(adminTimesheetService, .addWorkEntry "a" ⟨2025, 4, 7, by decide⟩ 3 "" "s" "e")]
    HoursMatch last ∧ last.assignments.rows.map TaskAssignment.hoursLogged = [8] ∧
      ∃ next, (HoursCall.deleteTimeEntry "e").apply adminTimesheetService last = .ok next ∧
        HoursMatch next ∧ next.assignments.rows.map TaskAssignment.hoursLogged = [5] := by
  intro last
  obtain ⟨hlast, hcalls⟩ := hoursRun_match [(adminTimesheetService,
    .addWorkEntry "a" ⟨2025, 4, 7, by decide⟩ 3 "" "s" "e")] legacyDesign legacyDesign_match
  have haccepted : ((HoursCall.deleteTimeEntry "e").apply adminTimesheetService last).isOk := by
    decide +kernel
  cases hnext : (HoursCall.deleteTimeEntry "e").apply adminTimesheetService last with
  | error e =>
      rw [hnext] at haccepted
      cases haccepted
  | ok next =>
      obtain ⟨hmatch, hrows⟩ := hcalls adminTimesheetService (.deleteTimeEntry "e") next hnext
      refine ⟨hlast, by decide +kernel, next, rfl, hmatch, ?_⟩
      rw [hrows]
      decide +kernel

end ProjectManager
