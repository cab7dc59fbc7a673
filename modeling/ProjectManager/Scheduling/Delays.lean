import ProjectManager.Foundation.Pointwise
import ProjectManager.Scheduling.OrderIndependence

/-! # Delays

Later dates of tasks and longer lags of the same links never bring an earliest date
forward. A project that could be scheduled still can be, and no task gets less late.
Durations stay as they are: where links fix the finish of a task, a longer task
starts earlier, and so may tasks that are linked to its start.
-/

namespace ProjectManager

open Foundation

theorem WorkCalendarEngine.addWorkingDays_le (calendar : WorkCalendarEngine) {d e : Date}
    (hdate : d ≤ e) {m n : ℤ} (hshift : m ≤ n) :
    calendar.addWorkingDays d m ≤ calendar.addWorkingDays e n := by
  refine (calendar.addWorkingDays_mono hdate m).trans ?_
  by_cases hn : 0 < n
  · have hfirst : e ≤ calendar.addWorkingDays e n := by
      rw [calendar.addWorkingDays_of_pos e hn]
      exact (calendar.le_workingDay_position e).trans
        (calendar.workingDay_le_workingDay.mpr (by omega))
    by_cases hm : 0 < m
    · rw [calendar.addWorkingDays_of_pos e hm, calendar.addWorkingDays_of_pos e hn,
        calendar.workingDay_le_workingDay]
      omega
    · exact (calendar.addWorkingDays_le_self e (not_lt.mp hm)).trans hfirst
  · obtain rfl | hneg := eq_or_lt_of_le (not_lt.mp hn)
    · exact calendar.addWorkingDays_le_self e hshift
    · rw [calendar.addWorkingDays_of_neg e (hshift.trans_lt hneg),
        calendar.addWorkingDays_of_neg e hneg, calendar.workingDay_le_workingDay]
      omega

/-- No later than the other date, and missing where the other is missing. -/
abbrev NoLater : Option Date → Option Date → Prop := Option.Rel (· ≤ ·)

/-- A task as it was, or with later dates. -/
structure Task.DelayedTo (task later : Task) : Prop where
  id : later.id = task.id
  projectId : later.projectId = task.projectId
  duration : later.duration = task.duration
  deadline : later.deadline = task.deadline
  startDate : NoLater task.startDate later.startDate
  actualStart : NoLater task.actualStart later.actualStart
  actualEnd : NoLater task.actualEnd later.actualEnd

/-- A link as it was, or with a longer lag. -/
structure TaskDependency.DelayedTo (dep later : TaskDependency) : Prop where
  predecessorTaskId : later.predecessorTaskId = dep.predecessorTaskId
  successorTaskId : later.successorTaskId = dep.successorTaskId
  dependencyType : later.dependencyType = dep.dependencyType
  lagDays : dep.lagDays ≤ later.lagDays

structure TaskDates.DelayedTo (dates later : TaskDates) : Prop where
  start : NoLater dates.start later.start
  finish : NoLater dates.finish later.finish

/-- The earliest dates are no earlier than they were, and the task is no less late. -/
structure CPMTaskInfo.DelayedTo (info later : CPMTaskInfo) : Prop where
  task : later.task.id = info.task.id
  earliestStart : NoLater info.earliestStart later.earliestStart
  earliestFinish : NoLater info.earliestFinish later.earliestFinish
  lateByDays : info.lateByDays.getD 0 ≤ later.lateByDays.getD 0

/-! ## The dates of one task -/

section

variable {calendar : WorkCalendarEngine} {task later : Task} {dep laterDep : TaskDependency}
  {incoming laterIncoming : List TaskDependency} {dates laterDates : DateTable}

/-- A delayed link from a predecessor that is no earlier. -/
def LinkDelayed (dates laterDates : DateTable) (dep laterDep : TaskDependency) : Prop :=
  (dates dep.predecessorTaskId).DelayedTo (laterDates dep.predecessorTaskId) ∧
    dep.DelayedTo laterDep

variable (calendar) in
theorem linkDate_delayed (h : LinkDelayed dates laterDates dep laterDep) :
    NoLater (linkDate calendar dates dep) (linkDate calendar laterDates laterDep) := by
  obtain ⟨⟨hstart, hfinish⟩, hdep⟩ := h
  have hshift : ∀ {first second : Option Date} {lag laterLag : ℤ}, lag ≤ laterLag →
      NoLater first second →
      NoLater (first.map fun d => calendar.addWorkingDays d lag)
        (second.map fun d => calendar.addWorkingDays d laterLag) := by
    intro first second lag laterLag hlag hle
    apply rel_optionMap _ hle
    intro d e hle
    exact calendar.addWorkingDays_le hle hlag
  have hlag := hdep.lagDays
  unfold linkDate
  rw [hdep.predecessorTaskId, hdep.dependencyType]
  cases dep.dependencyType with
  | finishToStart => exact hshift (by linarith) hfinish
  | startToStart => exact hshift hlag hstart
  | finishToFinish => exact hshift hlag hfinish
  | startToFinish => exact hshift hlag hstart

theorem inducedStart_delayed (hduration : later.duration = task.duration)
    (h : LinkDelayed dates laterDates dep laterDep) :
    NoLater (inducedStart calendar task dates dep)
      (inducedStart calendar later laterDates laterDep) := by
  have hlink := linkDate_delayed calendar h
  -- The start is as many days before the date of the link in both tables.
  have hback : ∀ d e : Date, d ≤ e →
      (if task.duration > 0 then calendar.addWorkingDays d (-(task.duration - 1)) else d) ≤
        if task.duration > 0 then calendar.addWorkingDays e (-(task.duration - 1)) else e := by
    intro d e hle
    split
    · exact calendar.addWorkingDays_mono hle _
    · exact hle
  unfold inducedStart startCandidate
  rw [hduration, h.2.dependencyType]
  split
  · exact hlink
  · cases dep.dependencyType with
    | finishToStart | startToStart => exact hlink
    | finishToFinish | startToFinish => exact rel_optionMap hback hlink

theorem delayToActualStart_delayed {actualStart laterActualStart start laterStart : Option Date}
    (hactual : NoLater actualStart laterActualStart) (h : NoLater start laterStart) :
    NoLater (delayToActualStart actualStart start)
      (delayToActualStart laterActualStart laterStart) := by
  cases hactual with
  | none => exact h
  | some hactual =>
      cases h with
      | none => exact .some hactual
      | some hle =>
          simp only [delayToActualStart, Option.all_some, decide_eq_true_eq]
          split <;> split <;> refine .some ?_
          all_goals linarith

theorem datesFrom_delayed (duration : ℤ) {start laterStart : Option Date}
    (h : NoLater start laterStart) :
    (datesFrom calendar duration start).DelayedTo (datesFrom calendar duration laterStart) :=
  ⟨h, rel_optionMap (fun _ _ hle => finishFrom_mono hle) h⟩

theorem computeTaskDates_delayed (h : task.DelayedTo later)
    (hlinks : List.Forall₂ (LinkDelayed dates laterDates) incoming laterIncoming) :
    (computeTaskDates calendar task incoming dates).DelayedTo
      (computeTaskDates calendar later laterIncoming laterDates) := by
  have hlatest : NoLater (latestInducedStart calendar task incoming dates)
      (latestInducedStart calendar later laterIncoming laterDates) :=
    rel_max? (List.rel_filterMap (fun _ _ hlink => inducedStart_delayed h.duration hlink) hlinks)
  have hactualEnd := h.actualEnd
  cases hend : task.actualEnd with
  | none =>
      rw [hend] at hactualEnd
      have hlaterEnd : later.actualEnd = none := by
        cases hlater : later.actualEnd with
        | none => rfl
        | some _ => rw [hlater] at hactualEnd; cases hactualEnd
      rw [computeTaskDates_eq calendar hend, computeTaskDates_eq calendar hlaterEnd, h.duration]
      exact datesFrom_delayed _ (delayToActualStart_delayed h.actualStart
        (rel_or hlatest h.startDate))
  | some finish =>
      -- An actual end sets both dates, whatever the links ask.
      rw [hend] at hactualEnd
      cases hlater : later.actualEnd with
      | none => rw [hlater] at hactualEnd; cases hactualEnd
      | some laterFinish =>
          rw [hlater] at hactualEnd
          have hfinish := Option.rel_some_some.mp hactualEnd
          have hactualStart := h.actualStart
          simp only [computeTaskDates, applyActualConstraints, hend, hlater, h.duration]
          generalize task.actualStart = started at hactualStart ⊢
          generalize later.actualStart = laterStarted at hactualStart ⊢
          cases hactualStart with
          | some hstart => exact ⟨.some hstart, .some hfinish⟩
          | none =>
              refine ⟨.some ?_, .some hfinish⟩
              split
              · exact calendar.addWorkingDays_mono hfinish _
              · exact hfinish

end

/-! ## The forward pass -/

section

variable {calendar : WorkCalendarEngine} {project other : TasksById}
  {deps otherDeps : List TaskDependency} {graph otherGraph : DependencyGraph}

/-- The same tasks and links, with later dates and longer lags. -/
structure PlanDelayed (project : TasksById) (deps : List TaskDependency) (other : TasksById)
    (otherDeps : List TaskDependency) : Prop where
  tasks : List.Forall₂ Task.DelayedTo project.tasks other.tasks
  links : List.Forall₂ TaskDependency.DelayedTo deps otherDeps

namespace PlanDelayed

theorem ids (h : PlanDelayed project deps other otherDeps) : other.ids = project.ids :=
  map_eq_of_forall₂ (fun _ _ htask => htask.id) h.tasks

theorem known (h : PlanDelayed project deps other otherDeps) :
    List.Forall₂ TaskDependency.DelayedTo (knownDependencies project deps)
      (knownDependencies other otherDeps) := by
  refine List.rel_filter ?_ h.links
  intro dep later hdep
  simp only [h.ids, hdep.predecessorTaskId, hdep.successorTaskId]

theorem precedes (h : PlanDelayed project deps other otherDeps) :
    Precedes other otherDeps = Precedes project deps := by
  have hends : ∀ (project : TasksById) deps pred succ, Precedes project deps pred succ ↔
      (pred, succ) ∈ (knownDependencies project deps).map fun dep =>
        (dep.predecessorTaskId, dep.successorTaskId) := by
    intro project deps pred succ
    simp [Precedes]
  funext pred succ
  rw [eq_iff_iff, hends, hends, map_eq_of_forall₂ (fun dep later hdep => ?_) h.known]
  rw [hdep.predecessorTaskId, hdep.successorTaskId]

theorem acyclic (h : PlanDelayed project deps other otherDeps) :
    AcyclicDependencies other otherDeps ↔ AcyclicDependencies project deps := by
  unfold AcyclicDependencies
  rw [h.precedes]

variable (calendar) in
/-- Along the topological order no task gets earlier dates than before. -/
theorem dates (h : PlanDelayed project deps other otherDeps)
    (hsorted : graph.Sorted project deps) (hother : otherGraph.Sorted other otherDeps) :
    ∀ id ∈ project.ids, (forwardDates project graph (computeTaskDates calendar) id).DelayedTo
      (forwardDates other otherGraph (computeTaskDates calendar) id) := by
  have hall := hsorted.predecessorsEarlier.induction
    (fun id => (forwardDates project graph (computeTaskDates calendar) id).DelayedTo
      (forwardDates other otherGraph (computeTaskDates calendar) id)) ?_
  · intro id hid
    exact hall id (hsorted.perm.mem_iff.mpr hid)
  intro id hid hearlier
  obtain ⟨task, htask, rfl, -⟩ := project.exists_of_mem_ids (hsorted.perm.mem_iff.mp hid)
  obtain ⟨later, hlater, hdelayed⟩ := exists_of_mem_forall₂ h.tasks htask
  have hdates := forwardDates_eq hsorted (computeTaskDates_predecessorsOnly calendar) htask
  have hlaterDates := forwardDates_eq hother (computeTaskDates_predecessorsOnly calendar) hlater
  rw [hdelayed.id] at hlaterDates
  rw [hdates, hlaterDates, hsorted.depsBySuccessor, hother.depsBySuccessor]
  apply computeTaskDates_delayed hdelayed
  refine (List.forall₂_and_left _ _).mpr ⟨?_, List.rel_filter ?_ h.known⟩
  · intro dep hdep
    obtain ⟨hknown, hsucc⟩ := List.mem_filter.mp hdep
    have hpred := (mem_knownDependencies.mp hknown).2.1
    exact hearlier _ (hsorted.perm.mem_iff.mpr hpred)
      ⟨dep, hknown, rfl, of_decide_eq_true hsucc⟩
  · intro dep later hdep
    simp only [hdep.successorTaskId]

variable (calendar) in
theorem finishes (h : PlanDelayed project deps other otherDeps)
    (hsorted : graph.Sorted project deps) (hother : otherGraph.Sorted other otherDeps) :
    List.Forall₂ (· ≤ ·)
      (finishDates project (forwardDates project graph (computeTaskDates calendar)))
      (finishDates other
        (forwardDates other otherGraph (computeTaskDates calendar))) := by
  have htasks := (List.forall₂_and_left _ _).mpr ⟨fun _ htask => htask, h.tasks⟩
  refine List.rel_filterMap ?_ htasks
  intro task later ⟨htask, hdelayed⟩
  simp only [hdelayed.id]
  exact (h.dates calendar hsorted hother task.id (project.mem_ids htask)).finish

end PlanDelayed

end

/-! ## The schedule -/

section

variable {calendar : WorkCalendarEngine}

theorem lateBy_delayed (deadline : Option Date) {finish later : Option Date}
    (h : NoLater finish later) :
    (lateBy calendar deadline finish).getD 0 ≤ (lateBy calendar deadline later).getD 0 := by
  cases deadline with
  | none => exact le_rfl
  | some deadline =>
      cases h with
      | none => exact le_rfl
      | @some finish later hle =>
          simp only [lateBy]
          by_cases hlate : finish > deadline
          · rw [if_pos hlate, if_pos (lt_of_lt_of_le hlate hle)]
            exact calendar.workingDaysBetween_mono _ hle
          · rw [if_neg hlate]
            exact Nat.zero_le _

variable (calendar) in
theorem scheduleInfo_delayed {early laterEarly : DateTable} (late otherLate : DateTable)
    {task later : Task} (htask : task.DelayedTo later)
    (hdates : (early task.id).DelayedTo (laterEarly task.id)) :
    (scheduleInfo calendar early late task).DelayedTo
      (scheduleInfo calendar laterEarly otherLate later) where
  task := htask.id
  earliestStart := by
    simpa only [scheduleInfo, htask.id] using hdates.start
  earliestFinish := by
    simpa only [scheduleInfo, htask.id] using hdates.finish
  lateByDays := by
    simpa only [scheduleInfo, htask.id, htask.deadline] using lateBy_delayed _ hdates.finish

theorem schedule_of_nil {project : TasksById} {deps : List TaskDependency}
    (hempty : project.tasks = []) : recalculateProjectSchedule calendar project deps = .ok [] := by
  unfold recalculateProjectSchedule
  rw [if_pos (List.isEmpty_iff.mpr hempty)]

theorem recalculateProjectSchedule_eq_ok {project : TasksById} {deps : List TaskDependency}
    {graph : DependencyGraph} (htasks : project.tasks ≠ [])
    (hgraph : buildProjectDependencyGraph project priorityValue deps = .ok graph)
    (hfinish : finishDates project (forwardDates project graph (computeTaskDates calendar)) ≠ []) :
    ∃ late, recalculateProjectSchedule calendar project deps = .ok (buildScheduleResult calendar
      project (forwardDates project graph (computeTaskDates calendar)) late) := by
  obtain ⟨latest, hlatest⟩ := Option.isSome_iff_exists.mp
    (List.isSome_max?_of_mem (List.head_mem hfinish))
  have hforward : runForwardPass project graph (computeTaskDates calendar) =
      .ok (forwardDates project graph (computeTaskDates calendar), latest) := by
    unfold forwardDates at hlatest ⊢
    simp only [runForwardPass, hlatest]
  refine ⟨runBackwardPass calendar project graph
    (forwardDates project graph (computeTaskDates calendar)) latest, ?_⟩
  unfold recalculateProjectSchedule
  rw [if_neg (List.isEmpty_iff.not.mpr htasks), hgraph]
  change (runForwardPass project graph (computeTaskDates calendar) >>= _) = _
  rw [hforward]
  rfl

theorem finishDates_ne_nil {project : TasksById} {graph : DependencyGraph} {finish : Date}
    (h : runForwardPass project graph (computeTaskDates calendar) =
      .ok (forwardDates project graph (computeTaskDates calendar), finish)) :
    finishDates project (forwardDates project graph (computeTaskDates calendar)) ≠ [] := by
  obtain ⟨-, ⟨task, htask, hfinish⟩, -⟩ := runForwardPass_ok h
  exact List.ne_nil_of_mem (List.mem_filterMap.mpr ⟨task, htask, hfinish⟩)

namespace PlanDelayed

variable {project other : TasksById} {deps otherDeps : List TaskDependency}
  {schedule later : List CPMTaskInfo}

theorem tasks_eq_nil (h : PlanDelayed project deps other otherDeps) :
    other.tasks = [] ↔ project.tasks = [] := by
  have hlength := h.tasks.length_eq
  rw [← List.length_eq_zero_iff, ← List.length_eq_zero_iff, hlength]

theorem exists_schedules (h : PlanDelayed project deps other otherDeps)
    (hempty : project.tasks ≠ [])
    (hschedule : recalculateProjectSchedule calendar project deps = .ok schedule) :
    ∃ graph otherGraph late otherLate, graph.Sorted project deps ∧
      otherGraph.Sorted other otherDeps ∧
      schedule = buildScheduleResult calendar project
        (forwardDates project graph (computeTaskDates calendar)) late ∧
      recalculateProjectSchedule calendar other otherDeps = .ok (buildScheduleResult calendar other
        (forwardDates other otherGraph (computeTaskDates calendar)) otherLate) := by
  obtain ⟨graph, finish, late, hsorted, hforward, -, hinfos⟩ :=
    exists_forwardPass_of_schedule hschedule hempty
  obtain ⟨otherGraph, hotherGraph⟩ :=
    exists_buildProjectDependencyGraph priorityValue (h.acyclic.mpr hsorted.acyclic)
  have hother := buildProjectDependencyGraph_sorted hotherGraph
  have hfinish : finishDates other
      (forwardDates other otherGraph (computeTaskDates calendar)) ≠ [] := by
    intro hnil
    have hdates := h.finishes calendar hsorted hother
    rw [hnil] at hdates
    exact finishDates_ne_nil hforward (List.forall₂_nil_right_iff.mp hdates)
  obtain ⟨otherLate, hlater⟩ :=
    recalculateProjectSchedule_eq_ok (h.tasks_eq_nil.not.mpr hempty) hotherGraph hfinish
  exact ⟨graph, otherGraph, late, otherLate, hsorted, hother, hinfos, hlater⟩

theorem schedule_ok (h : PlanDelayed project deps other otherDeps)
    (hschedule : recalculateProjectSchedule calendar project deps = .ok schedule) :
    ∃ later, recalculateProjectSchedule calendar other otherDeps = .ok later ∧
      List.Forall₂ CPMTaskInfo.DelayedTo schedule later := by
  by_cases hempty : project.tasks = []
  · rw [schedule_of_nil hempty] at hschedule
    obtain rfl := Except.ok.inj hschedule
    exact ⟨[], schedule_of_nil (h.tasks_eq_nil.mpr hempty), .nil⟩
  · obtain ⟨graph, otherGraph, late, otherLate, hsorted, hother, rfl, hlater⟩ :=
      h.exists_schedules hempty hschedule
    refine ⟨_, hlater, forall₂_map h.tasks ?_⟩
    intro task htask later _ hdelayed
    exact scheduleInfo_delayed calendar _ _ hdelayed
      (h.dates calendar hsorted hother task.id (project.mem_ids htask))

/-- Later dates do not make it possible to schedule a plan. -/
theorem schedule_of_later (h : PlanDelayed project deps other otherDeps)
    (hlater : recalculateProjectSchedule calendar other otherDeps = .ok later) :
    ∃ schedule, recalculateProjectSchedule calendar project deps = .ok schedule := by
  by_cases hempty : project.tasks = []
  · exact ⟨[], schedule_of_nil hempty⟩
  · obtain ⟨otherGraph, finish, late, hother, hforward, -, -⟩ :=
      exists_forwardPass_of_schedule hlater (h.tasks_eq_nil.not.mpr hempty)
    obtain ⟨graph, hgraph⟩ :=
      exists_buildProjectDependencyGraph priorityValue (h.acyclic.mp hother.acyclic)
    have hsorted := buildProjectDependencyGraph_sorted hgraph
    have hfinish : finishDates project
        (forwardDates project graph (computeTaskDates calendar)) ≠ [] := by
      intro hnil
      have hdates := h.finishes calendar hsorted hother
      rw [hnil] at hdates
      exact finishDates_ne_nil hforward (List.forall₂_nil_left_iff.mp hdates)
    obtain ⟨late, hschedule⟩ := recalculateProjectSchedule_eq_ok hempty hgraph hfinish
    exact ⟨_, hschedule⟩

/-- A plan that cannot be scheduled fails for the same reason with later dates. -/
theorem schedule_error (h : PlanDelayed project deps other otherDeps) {error : DomainError}
    (hschedule : recalculateProjectSchedule calendar project deps = .error error) :
    recalculateProjectSchedule calendar other otherDeps = .error error := by
  cases hlater : recalculateProjectSchedule calendar other otherDeps with
  | ok later =>
      obtain ⟨schedule, hok⟩ := h.schedule_of_later hlater
      cases hschedule.symm.trans hok
  | error laterError =>
      have hreason := recalculateProjectSchedule_error hschedule
      have hlaterReason := recalculateProjectSchedule_error hlater
      rw [h.acyclic] at hlaterReason
      rcases hreason with ⟨hcycle, rfl⟩ | ⟨hacyclic, rfl⟩
      · rcases hlaterReason with ⟨-, rfl⟩ | ⟨hacyclic, -⟩
        · rfl
        · exact absurd hacyclic hcycle
      · rcases hlaterReason with ⟨hcycle, -⟩ | ⟨-, rfl⟩
        · exact absurd hacyclic hcycle
        · rfl

end PlanDelayed

end

/-- What delays do to a schedule: it is there as before, with no earlier dates, or it fails for
the same reason. -/
def ScheduleDelayed : Except DomainError (List CPMTaskInfo) →
    Except DomainError (List CPMTaskInfo) → Prop
  | .ok schedule, .ok later => List.Forall₂ CPMTaskInfo.DelayedTo schedule later
  | .error error, .error laterError => laterError = error
  | _, _ => False

theorem recalculateProjectSchedule_delayed (calendar : WorkCalendarEngine)
    {project other : TasksById} {deps otherDeps : List TaskDependency}
    (h : PlanDelayed project deps other otherDeps) :
    ScheduleDelayed (recalculateProjectSchedule calendar project deps)
      (recalculateProjectSchedule calendar other otherDeps) := by
  cases hschedule : recalculateProjectSchedule calendar project deps with
  | error error =>
      rw [h.schedule_error hschedule]
      rfl
  | ok schedule =>
      obtain ⟨later, hlater, hdelayed⟩ := h.schedule_ok hschedule
      rw [hlater]
      exact hdelayed

/-- Design from Wednesday on instead of Monday. -/
def laterDesignAndReview : TasksById where
  rows := [
    { id := "design", projectId := "p", name := "Design", startDate := some 10,
      durationDays := some 3 },
    { id := "review", projectId := "p", name := "Review", durationDays := some 1 }]
  nodup := by decide

/-- The review waits two more days. -/
def reviewWellAfterDesign : List TaskDependency :=
  [{ id := "d", predecessorTaskId := "design", successorTaskId := "review", lagDays := 2 }]

theorem recalculateProjectSchedule_delayed_designAndReview :
    ScheduleDelayed
      (recalculateProjectSchedule weekdayCalendar designAndReview reviewAfterDesign)
      (recalculateProjectSchedule weekdayCalendar laterDesignAndReview reviewWellAfterDesign) := by
  apply recalculateProjectSchedule_delayed
  refine ⟨.cons ?_ (.cons ?_ .nil), .cons ?_ .nil⟩
  · exact ⟨rfl, rfl, rfl, rfl, .some (by decide), .none, .none⟩
  · exact ⟨rfl, rfl, rfl, rfl, .none, .none, .none⟩
  · exact ⟨rfl, rfl, rfl, by decide⟩

end ProjectManager
