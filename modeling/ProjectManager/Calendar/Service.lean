import Mathlib.Data.Finset.Sort
import Mathlib.Data.Rat.Defs
import ProjectManager.Calendar.Arithmetic
import ProjectManager.Domain.Checks
import ProjectManager.Foundation.KeptStates
import ProjectManager.Foundation.Tables

/-! # The working-calendar service

All writes of the calendar go through the service, and the engine reads what it
has left. A search of the engine ends as long as some weekday is a working day;
the service takes any set of days.
-/

namespace ProjectManager

open Foundation

/-- A stored calendar; the set of its days is kept as a sorted list. -/
structure CalendarRow extends WorkingCalendar where
  id : String
  name : String := "Default"
  hoursPerDay : ℚ := 8
  deriving DecidableEq

def CalendarRow.createDefault : CalendarRow := { WorkingCalendar.createDefault with id := "default" }

structure Holiday where
  id : String
  calendarId : String
  date : Date
  name : String := ""
  deriving DecidableEq

structure CalendarStore where
  calendars : Table CalendarRow.id := .empty
  holidays : Table Holiday.id := .empty

namespace CalendarStore

variable (store : CalendarStore)

def getDefault : Option CalendarRow := store.calendars.get? "default"

def upsertCalendar (calendar : CalendarRow) : CalendarStore :=
  { store with calendars := store.calendars.upsert calendar }

def listHolidays (calendarId : String) : List Holiday :=
  store.holidays.rows.filter fun holiday => holiday.calendarId = calendarId

def addHoliday (holiday : Holiday) : Except DomainError CalendarStore := do
  ensure (holiday.id ∉ store.holidays.ids) (takenPrimaryKey "holidays")
  return { store with holidays := store.holidays.insert holiday }

def deleteHoliday (holidayId : String) : CalendarStore :=
  { store with holidays := store.holidays.filter fun holiday => holiday.id ≠ holidayId }

/-- What the engine, which is bound to the default calendar, reads. -/
def repository : WorkingCalendarRepository where
  calendar := store.getDefault.map CalendarRow.toWorkingCalendar
  holidays := (store.listHolidays "default").map Holiday.date

end CalendarStore

/-! ## The calls -/

abbrev CalendarProgram := Program DomainError CalendarStore

/-- `_ensure_calendar`. -/
def ensureCalendar : CalendarProgram CalendarRow := do
  match ← Program.check fun store => .ok store.getDefault with
  | some calendar => return calendar
  | none =>
      Program.commit fun store => .ok (store.upsertCalendar .createDefault)
      return .createDefault

section

variable (user : AuthorizationEngine)

def getCalendar : CalendarProgram CalendarRow := do
  Program.check fun _ => user.requirePermission "task.read" "view working calendar"
  ensureCalendar

def setWorkingDays (workingDays : Finset ℤ) (hoursPerDay : Option ℚ) :
    CalendarProgram CalendarRow := do
  Program.check fun _ => user.requirePermission "task.manage" "update working calendar"
  let stored ← ensureCalendar
  Program.check fun _ => ensure (∀ hours ∈ hoursPerDay, 0 < hours)
    (validationError "hours_per_day must be positive.")
  let calendar := { stored with
    workingDays := workingDays.sort (· ≤ ·)
    hoursPerDay := hoursPerDay.getD stored.hoursPerDay }
  Program.commit fun store => .ok (store.upsertCalendar calendar)
  return calendar

def listHolidays : CalendarProgram (List Holiday) := do
  Program.check fun _ => user.requirePermission "task.read" "list non-working days"
  let calendar ← ensureCalendar
  Program.check fun store => .ok (store.listHolidays calendar.id)

/-- `add_holiday`, with the generated id. -/
def addHoliday (id : String) (date : Date) (name : String) : CalendarProgram Holiday := do
  Program.check fun _ => user.requirePermission "task.manage" "add non-working day"
  let calendar ← ensureCalendar
  let holiday : Holiday := { id := id, calendarId := calendar.id, date := date, name := strip name }
  Program.commit fun store => store.addHoliday holiday
  return holiday

def deleteHoliday (holidayId : String) : CalendarProgram Unit := do
  Program.check fun _ => user.requirePermission "task.manage" "delete non-working day"
  Program.commit fun store => .ok (store.deleteHoliday holidayId)

end

inductive CalendarCall
  | getCalendar
  | setWorkingDays (workingDays : Finset ℤ) (hoursPerDay : Option ℚ)
  | listHolidays
  | addHoliday (id : String) (date : Date) (name : String)
  | deleteHoliday (holidayId : String)

def CalendarCall.program (user : AuthorizationEngine) : CalendarCall → CalendarProgram Unit
  | .getCalendar => do let _ ← ProjectManager.getCalendar user
  | .setWorkingDays workingDays hoursPerDay => do
      let _ ← ProjectManager.setWorkingDays user workingDays hoursPerDay
  | .listHolidays => do let _ ← ProjectManager.listHolidays user
  | .addHoliday id date name => do let _ ← ProjectManager.addHoliday user id date name
  | .deleteHoliday holidayId => ProjectManager.deleteHoliday user holidayId

def runCalendarCall (call : AuthorizationEngine × CalendarCall) (session : Session CalendarStore) :
    Outcome DomainError CalendarStore :=
  (call.2.program call.1).outcome session

/-! ## Calendars that keep a working weekday -/

def WorksSomeWeekday (workingDays : Finset ℤ) : Prop := ∃ w ∈ workingDays, 0 ≤ w ∧ w < 7

namespace CalendarStore

variable {store : CalendarStore} {calendar : CalendarRow}

theorem getDefault_upsertCalendar (h : calendar.id = "default") :
    (store.upsertCalendar calendar).getDefault = some calendar := by
  unfold getDefault upsertCalendar Table.upsert
  rw [← h]
  split
  next hmem =>
    obtain ⟨_, -, -, hstored⟩ := store.calendars.exists_of_mem_ids hmem
    exact Table.get?_update_self hstored
  next hmem => exact Table.get?_insert_self hmem

theorem id_of_getDefault (h : store.getDefault = some calendar) : calendar.id = "default" :=
  (store.calendars.get?_eq_some h).2

/-- The holidays do not decide whether there is a working weekday. -/
theorem proper_congr {next : CalendarStore} (h : next.getDefault = store.getDefault) :
    next.repository.Proper ↔ store.repository.Proper := by
  unfold WorkingCalendarRepository.Proper WorkingCalendarRepository.getCalendar repository
  rw [h]

theorem proper_upsertCalendar (hid : calendar.id = "default")
    (hdays : ∃ w ∈ calendar.workingDays, 0 ≤ w ∧ w < 7) :
    (store.upsertCalendar calendar).repository.Proper := by
  unfold WorkingCalendarRepository.Proper WorkingCalendarRepository.getCalendar repository
  rw [getDefault_upsertCalendar hid]
  exact hdays

end CalendarStore

/-- Nothing is waiting to be committed, and the calendar keeps a working weekday. -/
def CalendarSettled (session : Session CalendarStore) : Prop :=
  ∃ store, session = .clean store ∧ store.repository.Proper

section

variable {session : Session CalendarStore} {user : AuthorizationEngine}

theorem ensureCalendar_spec (h : CalendarSettled session) :
    ensureCalendar.Spec session
      (fun calendar next => calendar.id = "default" ∧ CalendarSettled next)
      fun _ => CalendarSettled := by
  obtain ⟨store, rfl, hproper⟩ := h
  unfold ensureCalendar
  rw [Program.spec_bind, Program.spec_check]
  cases hdefault : store.getDefault with
  | some calendar =>
      simp only [Session.clean_pending, hdefault]
      exact ⟨CalendarStore.id_of_getDefault hdefault, store, rfl, hproper⟩
  | none =>
      simp only [Session.clean_pending, hdefault]
      rw [Program.spec_bind, Program.spec_commit]
      refine ⟨rfl, _, rfl, CalendarStore.proper_upsertCalendar rfl ?_⟩
      exact ⟨0, by decide, by decide⟩

theorem permission_spec {permission label : String} (h : CalendarSettled session) :
    (Program.check fun _ : CalendarStore => user.requirePermission permission label).Spec session
      (fun _ => CalendarSettled) fun _ => CalendarSettled := by
  rw [Program.spec_check]
  cases user.requirePermission permission label <;> exact h

theorem commit_spec {flush : CalendarStore → Except DomainError CalendarStore}
    (h : CalendarSettled session)
    (hflush : ∀ store next, flush store = .ok next → next.getDefault = store.getDefault) :
    (Program.commit flush).Spec session (fun _ => CalendarSettled) fun _ => CalendarSettled := by
  obtain ⟨store, rfl, hproper⟩ := h
  rw [Program.spec_commit]
  cases hnext : flush (Session.clean store).pending with
  | ok next => exact ⟨next, rfl, (CalendarStore.proper_congr (hflush store next hnext)).mpr hproper⟩
  | error e => exact ⟨store, rfl, hproper⟩

theorem getCalendar_spec (h : CalendarSettled session) :
    (getCalendar user).Spec session (fun _ => CalendarSettled) fun _ => CalendarSettled := by
  unfold getCalendar
  rw [Program.spec_bind]
  exact (permission_spec h).mono (fun _ _ hnext =>
    (ensureCalendar_spec hnext).mono (fun _ _ => And.right) fun _ _ => id) fun _ _ => id

theorem listHolidays_spec (h : CalendarSettled session) :
    (listHolidays user).Spec session (fun _ => CalendarSettled) fun _ => CalendarSettled := by
  unfold listHolidays
  rw [Program.spec_bind]
  refine (permission_spec h).mono (fun _ next hnext => ?_) fun _ _ => id
  rw [Program.spec_bind]
  refine (ensureCalendar_spec hnext).mono (fun calendar last hlast => ?_) fun _ _ => id
  rw [Program.spec_check]
  exact hlast.2

theorem addHoliday_spec (h : CalendarSettled session) (holidayId : String) (date : Date)
    (name : String) : (addHoliday user holidayId date name).Spec session (fun _ => CalendarSettled)
      fun _ => CalendarSettled := by
  unfold addHoliday
  rw [Program.spec_bind]
  refine (permission_spec h).mono (fun _ next hnext => ?_) fun _ _ => id
  rw [Program.spec_bind]
  refine (ensureCalendar_spec hnext).mono (fun calendar last hlast => ?_) fun _ _ => id
  rw [Program.spec_bind]
  refine (commit_spec hlast.2 ?_).mono (fun _ _ hend => hend) fun _ _ => id
  intro store changed hchanged
  obtain ⟨_, -, hchanged⟩ := bind_ok hchanged
  obtain rfl := Except.ok.inj hchanged
  rfl

theorem deleteHoliday_spec (h : CalendarSettled session) (holidayId : String) :
    (deleteHoliday user holidayId).Spec session (fun _ => CalendarSettled)
      fun _ => CalendarSettled := by
  unfold deleteHoliday
  rw [Program.spec_bind]
  refine (permission_spec h).mono (fun _ next hnext => commit_spec hnext ?_) fun _ _ => id
  intro store changed hchanged
  obtain rfl := Except.ok.inj hchanged
  rfl

/-- Whatever days are set, they are stored only when the call is accepted. -/
theorem setWorkingDays_spec (h : CalendarSettled session) (workingDays : Finset ℤ)
    (hoursPerDay : Option ℚ) :
    (setWorkingDays user workingDays hoursPerDay).Spec session
      (fun _ next => WorksSomeWeekday workingDays → CalendarSettled next)
      fun _ => CalendarSettled := by
  unfold setWorkingDays
  rw [Program.spec_bind]
  refine (permission_spec h).mono (fun _ next hnext => ?_) fun _ _ => id
  rw [Program.spec_bind]
  refine (ensureCalendar_spec hnext).mono (fun calendar last hlast => ?_) fun _ _ => id
  rw [Program.spec_bind, Program.spec_check]
  obtain ⟨hid, hsettled⟩ := hlast
  cases ensure (∀ hours ∈ hoursPerDay, 0 < hours)
      (validationError "hours_per_day must be positive.") with
  | error e => exact hsettled
  | ok _ =>
      dsimp only
      rw [Program.spec_bind, Program.spec_commit]
      rintro ⟨w, hw, hweekday⟩
      refine ⟨_, rfl, CalendarStore.proper_upsertCalendar hid ⟨w, ?_, hweekday⟩⟩
      exact (Finset.mem_sort _).mpr hw

end

/-- An accepted call does not set the working days to a set without a weekday. -/
def KeepsSomeWeekday (session : Session CalendarStore) (call : AuthorizationEngine × CalendarCall) :
    Prop :=
  ∀ workingDays hoursPerDay, call.2 = .setWorkingDays workingDays hoursPerDay →
    (runCalendarCall call session).1 = none → WorksSomeWeekday workingDays

theorem runCalendarCall_settled {session : Session CalendarStore}
    {call : AuthorizationEngine × CalendarCall} (hkeeps : KeepsSomeWeekday session call)
    (h : CalendarSettled session) : CalendarSettled (runCalendarCall call session).2 := by
  obtain ⟨user, call⟩ := call
  cases call with
  | getCalendar =>
      apply Program.Spec.outcome_snd
      rw [CalendarCall.program, Program.spec_bind]
      exact getCalendar_spec h
  | setWorkingDays workingDays hoursPerDay =>
      have hset : (CalendarCall.program user (.setWorkingDays workingDays hoursPerDay)).Spec session
          (fun _ next => WorksSomeWeekday workingDays → CalendarSettled next)
          fun _ => CalendarSettled := by
        rw [CalendarCall.program, Program.spec_bind]
        exact setWorkingDays_spec h workingDays hoursPerDay
      have houtcome := hset.outcome
      have haccepted := hkeeps workingDays hoursPerDay rfl
      unfold runCalendarCall at haccepted ⊢
      generalize (CalendarCall.program user (.setWorkingDays workingDays hoursPerDay)).outcome
        session = result at houtcome haccepted ⊢
      obtain ⟨_ | e, next⟩ := result
      · exact houtcome.elim fun _ hnext => hnext (haccepted rfl)
      · exact houtcome
  | listHolidays =>
      apply Program.Spec.outcome_snd
      rw [CalendarCall.program, Program.spec_bind]
      exact listHolidays_spec h
  | addHoliday holidayId date name =>
      apply Program.Spec.outcome_snd
      rw [CalendarCall.program, Program.spec_bind]
      exact addHoliday_spec h holidayId date name
  | deleteHoliday holidayId =>
      apply Program.Spec.outcome_snd
      exact deleteHoliday_spec h holidayId

/-! ## Searches -/

namespace WorkCalendarEngine

variable (calendar : WorkCalendarEngine) {current : Date}

theorem exists_forwardLoop (hcurrent : calendar.isWorkingDay current = true) (remaining : ℕ) :
    ∃ steps day, calendar.forwardLoop steps remaining current = some day ∧
      calendar.isWorkingDay day = true := by
  obtain rfl | hpos := Nat.eq_zero_or_pos remaining
  · exact ⟨0, current, rfl, hcurrent⟩
  · let target := calendar.workingDay (calendar.position (current + 1) + remaining - 1)
    refine ⟨(target - current).toNat, target, calendar.forwardLoop_eq hpos ?_,
      calendar.isWorkingDay_workingDay _⟩
    have hsteps := Int.self_le_toNat (target - current)
    change target ≤ _
    linarith

theorem exists_backwardLoop (hcurrent : calendar.isWorkingDay current = true) (remaining : ℕ) :
    ∃ steps day, calendar.backwardLoop steps remaining current = some day ∧
      calendar.isWorkingDay day = true := by
  obtain rfl | hpos := Nat.eq_zero_or_pos remaining
  · exact ⟨0, current, rfl, hcurrent⟩
  · let target := calendar.workingDay (calendar.position current - remaining)
    refine ⟨(current - target).toNat, target, calendar.backwardLoop_eq hpos ?_,
      calendar.isWorkingDay_workingDay _⟩
    have hsteps := Int.self_le_toNat (current - target)
    change _ ≤ target
    linarith

end WorkCalendarEngine

namespace WorkingCalendarRepository

variable (repo : WorkingCalendarRepository)

/-- `next_working_day` ends on a day, after some number of iterations. -/
def NextWorkingDayEnds (d : Date) (includeToday : Bool) (day : Date) : Prop :=
  ∃ iterations, repo.nextWorkingDayLoop iterations (if includeToday then d else d + 1) = some day

/-- The loops of `add_working_days`, each with its iterations. -/
def addWorkingDaysRun (iterations steps : ℕ) (start : Date) (workingDays : ℤ) : Option Date :=
  if workingDays = 0 then some start
  else do
    let current ← repo.nextWorkingDayLoop iterations start
    if workingDays > 0 then repo.forwardLoop steps (workingDays - 1).toNat current
    else repo.backwardLoop steps (-workingDays).toNat current

def AddWorkingDaysEnds (start : Date) (workingDays : ℤ) (day : Date) : Prop :=
  ∃ iterations steps, repo.addWorkingDaysRun iterations steps start workingDays = some day

/-- Every search ends, on a working day; a shift by zero days does not search. -/
structure SearchesEnd : Prop where
  next : ∀ d includeToday, ∃ day, repo.NextWorkingDayEnds d includeToday day ∧
    repo.isWorkingDay day = true
  add : ∀ start workingDays, ∃ day, repo.AddWorkingDaysEnds start workingDays day ∧
    if workingDays = 0 then day = start else repo.isWorkingDay day = true

variable {repo}

/-- With a working weekday the loops end on the day that the engine returns. -/
theorem Proper.searchesEnd (h : repo.Proper) : repo.SearchesEnd := by
  let calendar : WorkCalendarEngine := ⟨repo, h⟩
  have hnext : ∀ d : Date, repo.nextWorkingDayLoop repo.searchWindow d =
      some (calendar.workingDay (calendar.position d)) := fun d =>
    calendar.nextWorkingDayLoop_eq (calendar.boundedGaps.nth_rank_lt_add_gap d)
  constructor
  · intro d includeToday
    exact ⟨_, ⟨repo.searchWindow, hnext _⟩, calendar.isWorkingDay_workingDay _⟩
  · intro start workingDays
    by_cases hzero : workingDays = 0
    · refine ⟨start, ⟨0, 0, if_pos hzero⟩, ?_⟩
      rw [if_pos hzero]
    · have hfirst := calendar.isWorkingDay_workingDay (calendar.position start)
      by_cases hforward : workingDays > 0
      · obtain ⟨steps, day, hday, hworking⟩ :=
          calendar.exists_forwardLoop hfirst (workingDays - 1).toNat
        refine ⟨day, ⟨repo.searchWindow, steps, ?_⟩, ?_⟩
        · rw [addWorkingDaysRun, if_neg hzero, hnext start]
          exact (if_pos hforward).trans hday
        · rwa [if_neg hzero]
      · obtain ⟨steps, day, hday, hworking⟩ :=
          calendar.exists_backwardLoop hfirst (-workingDays).toNat
        refine ⟨day, ⟨repo.searchWindow, steps, ?_⟩, ?_⟩
        · rw [addWorkingDaysRun, if_neg hzero, hnext start]
          exact (if_neg hforward).trans hday
        · rwa [if_neg hzero]

end WorkingCalendarRepository

/-- As long as no accepted call takes the last weekday from the working days, every search on the
calendar that a run has left ends. -/
theorem calendarRun_searchesEnd (calls : List (AuthorizationEngine × CalendarCall))
    (store : CalendarStore) (hproper : store.repository.Proper)
    (hcalls : EachCall runCalendarCall KeepsSomeWeekday (.clean store) calls) :
    (sessionAfter runCalendarCall (.clean store) calls).pending.repository.SearchesEnd := by
  have hstep : ∀ session call, KeepsSomeWeekday session call → CalendarSettled session →
      CalendarSettled (runCalendarCall call session).2 := fun _ _ => runCalendarCall_settled
  obtain ⟨last, hlast, hworks⟩ :=
    sessionAfter_invariant hstep calls hcalls ⟨store, rfl, hproper⟩
  rw [hlast]
  exact hworks.searchesEnd

/-- A calendar of weekends, with a holiday on a Saturday. -/
def weekendCalls : List (AuthorizationEngine × CalendarCall) :=
  [(.admin, .setWorkingDays {5, 6} (some 4)), (.admin, .addHoliday "fair" 6 " Fair ")]

theorem calendarRun_searchesEnd_weekends :
    (sessionAfter runCalendarCall (.clean {}) weekendCalls).pending.repository.SearchesEnd := by
  refine calendarRun_searchesEnd weekendCalls {} (by decide) ⟨?_, ?_, trivial⟩
  · intro workingDays hoursPerDay hcall _
    cases hcall
    exact ⟨5, by decide, by decide⟩
  · intro workingDays hoursPerDay hcall
    cases hcall

/-- On the default calendar a shift by zero days leaves a Saturday where it is. -/
theorem not_searchesEnd_zeroShift :
    (∀ iterations, (CalendarStore.repository {}).addWorkingDaysRun iterations iterations 6 0 =
      some 6) ∧ (CalendarStore.repository {}).isWorkingDay 6 = false :=
  ⟨fun _ => rfl, by decide⟩

end ProjectManager
