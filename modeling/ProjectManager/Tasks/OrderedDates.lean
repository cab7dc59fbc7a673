import ProjectManager.Tasks.ForcedDates
import ProjectManager.Tasks.Rescheduling

/-! # The order of the stored dates

The start and the end of a task are stored under two conditions, so a task with
one actual date keeps one stored date and gets one that was computed.
-/

namespace ProjectManager

open Foundation ServiceProgram

/-- The start of a task is not after its end, where both are stored. -/
def Task.Ordered (task : Task) : Prop :=
  ∀ start ∈ task.startDate, ∀ finish ∈ task.endDate, start ≤ finish

/-- What keeps the dates of a task in order. A task that has ended without a recorded start keeps
an end date, and a task that has started keeps its start date. -/
def Task.KeepsOrder (calendar : WorkCalendarEngine) (project : TasksById)
    (deps : List TaskDependency) (task : Task) : Prop :=
  match task.actualStart, task.actualEnd with
  | none, some actualEnd =>
      ∀ start ∈ (endedDates calendar task actualEnd).start, ∀ finish ∈ task.endDate, start ≤ finish
  | some _, none =>
      ∀ start ∈ task.startDate, ∃ dates, Forces calendar project deps task.id dates ∧
        ∃ finish ∈ dates.finish, start ≤ finish
  | none, none => True
  | some _, some _ => True

section

variable {calendar : WorkCalendarEngine} {project : TasksById} {deps : List TaskDependency}
  {graph : DependencyGraph} {late : DateTable}

/-- Without an actual end the earliest start is not after the earliest finish. -/
theorem forwardDates_ordered (hsorted : graph.Sorted project deps) {task : Task}
    (htask : task ∈ project.tasks) (hend : task.actualEnd = none) :
    NotAfter (forwardDates project graph (computeTaskDates calendar) task.id).start
      (forwardDates project graph (computeTaskDates calendar) task.id).finish := by
  rw [forwardDates_eq hsorted (computeTaskDates_predecessorsOnly calendar) htask,
    computeTaskDates_eq calendar hend]
  intro start hstart
  exact ⟨finishFrom calendar task.duration start,
    Option.map_eq_some_iff.mpr ⟨start, hstart, rfl⟩, le_finishFrom start⟩

theorem scheduleInfo_ordered_iff (hsorted : graph.Sorted project deps) {task : Task}
    (htask : task ∈ project.tasks) (hordered : task.Ordered) :
    (scheduleInfo calendar (forwardDates project graph (computeTaskDates calendar)) late
      task).task.Ordered ↔ task.KeepsOrder calendar project deps := by
  unfold Task.KeepsOrder
  cases hstart : task.actualStart with
  | none =>
      cases hend : task.actualEnd with
      | none =>
          refine iff_of_true ?_ trivial
          intro start hstored finish hfinish
          simp only [scheduleInfo, hstart, hend, Option.isNone_none, if_true] at hstored hfinish
          obtain ⟨computed, hcomputed, hle⟩ :=
            forwardDates_ordered hsorted htask hend start hstored
          obtain rfl := Option.some.inj (hcomputed.symm.trans hfinish)
          exact hle
      | some actualEnd =>
          have hearly := forwardDates_eq hsorted (computeTaskDates_predecessorsOnly calendar) htask
          rw [computeTaskDates_ended hend] at hearly
          unfold Task.Ordered scheduleInfo
          simp only [hstart, hend, hearly]
          rfl
  | some actualStart =>
      cases hend : task.actualEnd with
      | some actualEnd =>
          refine iff_of_true ?_ trivial
          unfold Task.Ordered scheduleInfo
          simp only [hstart, hend]
          exact hordered
      | none =>
          have hdate : DatedBefore project deps task.id :=
            ⟨task, htask, Or.inr (Or.inl (Option.isSome_of_eq_some hstart)), .refl⟩
          obtain ⟨hstartSome, hfinishSome⟩ := forwardDates_dated calendar hsorted hdate
          unfold Task.Ordered scheduleInfo
          simp only [hstart, hend, Option.isNone_none, Option.isNone_some, if_true,
            Bool.false_eq_true, if_false]
          refine forall₂_congr fun start _ => ?_
          constructor
          · intro hle
            obtain ⟨finish, hfinish⟩ := Option.isSome_iff_exists.mp hfinishSome
            exact ⟨_, forces_forwardDates hsorted (project.mem_ids htask) hstartSome, finish,
              hfinish, hle finish hfinish⟩
          · rintro ⟨dates, hforces, finish, hfinish, hle⟩ computed hcomputed
            obtain ⟨latest, hlatest, hnotAfter⟩ := (hforces.notAfter hsorted).finish finish hfinish
            obtain rfl := Option.some.inj (hlatest.symm.trans hcomputed)
            exact hle.trans hnotAfter

end

theorem IsSaved.ordered_iff {calendar : WorkCalendarEngine} {early late : DateTable}
    {task saved : Task} (h : IsSaved calendar early late task saved) :
    saved.Ordered ↔ (scheduleInfo calendar early late task).task.Ordered := by
  obtain ⟨version, rfl⟩ := h
  rfl

/-- After a recalculation the stored dates of a project are in order exactly when every task keeps
its dates in order. -/
theorem recalculateSchedule_ordered_iff (calendar : WorkCalendarEngine) (projectId : String)
    (store : PlatformStore) {infos : List CPMTaskInfo} {next : Session PlatformStore}
    (hsettled : store.addedBalances = [])
    (h : recalculateSchedule calendar projectId true (.clean store) = (.ok infos, next))
    (hordered : ∀ task ∈ (store.projects.tasksOf projectId).tasks, task.Ordered) :
    (∀ task ∈ (next.committed.projects.tasksOf projectId).tasks, task.Ordered) ↔
      ∀ task ∈ (store.projects.tasksOf projectId).tasks, task.KeepsOrder calendar
        (store.projects.tasksOf projectId) (store.projects.dependenciesOf projectId) := by
  rw [recalculateSchedule_run calendar projectId hsettled] at h
  split at h
  case h_2 => cases h
  next schedule hschedule =>
  obtain ⟨-, rfl⟩ := Prod.mk.inj h
  rw [if_pos rfl]
  change (∀ task ∈ ((saveSchedule schedule store.projects).tasksOf projectId).tasks, _) ↔ _
  by_cases hempty : (store.projects.tasksOf projectId).tasks = []
  · have hnil : schedule = [] := by
      unfold storedSchedule recalculateProjectSchedule at hschedule
      rw [if_pos (List.isEmpty_iff.mpr hempty)] at hschedule
      exact (Except.ok.inj hschedule).symm
    rw [hnil, saveSchedule_nil, hempty]
    simp
  · obtain ⟨graph, finish, late, hsorted, -, -, rfl⟩ :=
      exists_forwardPass_of_schedule hschedule hempty
    constructor
    · intro hall task htask
      obtain ⟨saved, hmem, hrow⟩ := exists_isSaved htask
      exact (scheduleInfo_ordered_iff hsorted htask (hordered task htask)).mp
        (hrow.ordered_iff.mp (hall saved hmem))
    · intro hkeeps saved hmem
      obtain ⟨task, htask, hrow⟩ := isSaved_of_mem hmem
      exact hrow.ordered_iff.mpr
        ((scheduleInfo_ordered_iff hsorted htask (hordered task htask)).mpr (hkeeps task htask))

instance (task : Task) : Decidable task.Ordered :=
  inferInstanceAs (Decidable (∀ start ∈ task.startDate, ∀ finish ∈ task.endDate, start ≤ finish))

/-- A task that was planned for the first days and ended two weeks later. -/
def endedDesign : Task where
  id := "design"
  projectId := "office"
  name := "Design"
  startDate := some 8
  endDate := some 10
  durationDays := some 3
  actualEnd := some 24

def endedOffice : PlatformStore :=
  { officeSite with
    projects := { officeSite.projects with tasks := ⟨[endedDesign], by decide⟩ } }

theorem recalculateSchedule_ordered_iff_office :
    let first := recalculateSchedule weekdayCalendar "office" true (.clean linkedOffice)
    (∀ task ∈ (first.2.committed.projects.tasksOf "office").tasks, task.Ordered) ↔
      ∀ task ∈ (linkedOffice.projects.tasksOf "office").tasks, task.KeepsOrder weekdayCalendar
        (linkedOffice.projects.tasksOf "office")
        (linkedOffice.projects.dependenciesOf "office") := by
  intro first
  have hlength : first.1.toOption.map List.length = some 2 := by decide +kernel
  have hsettled : linkedOffice.addedBalances = [] := by decide +kernel
  have hordered : ∀ task ∈ (linkedOffice.projects.tasksOf "office").tasks, task.Ordered := by
    decide +kernel
  obtain ⟨infos, hinfos, -⟩ := Option.map_eq_some_iff.mp hlength
  have hfirst : first = (.ok infos, first.2) := by
    rw [← toOption_eq_some.mp hinfos]
  exact recalculateSchedule_ordered_iff weekdayCalendar "office" linkedOffice hsettled hfirst
    hordered

/-- The start moves to the recorded end, and the planned end stays. -/
theorem not_ordered_endedOffice :
    let run := recalculateSchedule weekdayCalendar "office" true (.clean endedOffice)
    (∀ task ∈ endedOffice.projects.tasks.rows, task.Ordered) ∧ run.1.toOption.isSome ∧
      ¬ ∀ task ∈ run.2.committed.projects.tasks.rows, task.Ordered := by
  decide +kernel

end ProjectManager
