import Mathlib.Data.Int.Order.Basic
import ProjectManager.Calendar.Arithmetic
import ProjectManager.Scheduling.Engine
import ProjectManager.Scheduling.TopologicalOrder

/-! # Soundness of the forward pass

Along a topological order the table of earliest dates solves the equations of
all tasks at once. Every link into a task without an actual end is then met,
and nothing but links, the own start date and an actual start sets the start.
-/

namespace ProjectManager

open Foundation

/-! ## The equations of the table -/

section

variable {project : TasksById} {deps : List TaskDependency} {graph : DependencyGraph}

theorem DependencyGraph.Sorted.mem_topoOrder (h : graph.Sorted project deps)
    {task : Task} (hmem : task ∈ project.tasks) : task.id ∈ graph.topoOrder :=
  h.perm.mem_iff.mpr (project.mem_ids hmem)

theorem DependencyGraph.Sorted.predecessorsEarlier (h : graph.Sorted project deps) :
    ReadsEarlier (fun id other => Precedes project deps other id) graph.topoOrder := by
  intro before id after hsplit other _ hreads
  obtain ⟨dep, hdep, rfl, hsucc⟩ := hreads
  exact h.ordered before id after hsplit dep hdep hsucc

/-- A computation of dates that looks at the predecessors of its links only. -/
def PredecessorsOnly (compute : Task → List TaskDependency → DateTable → TaskDates) : Prop :=
  ∀ task incoming first second,
    (∀ dep ∈ incoming, first dep.predecessorTaskId = second dep.predecessorTaskId) →
    compute task incoming first = compute task incoming second

/-- The dates that a computation leaves in the finished table. -/
def forwardDates (project : TasksById) (graph : DependencyGraph)
    (compute : Task → List TaskDependency → DateTable → TaskDates) : DateTable :=
  evaluate (forwardRule project graph compute) graph.topoOrder fun _ => .undated

variable {compute : Task → List TaskDependency → DateTable → TaskDates}

/-- The finished table of the forward pass solves the equation of every task. -/
theorem forwardDates_eq (hsorted : graph.Sorted project deps)
    (hcompute : PredecessorsOnly compute) {task : Task} (hmem : task ∈ project.tasks) :
    forwardDates project graph compute task.id =
      compute task (graph.depsBySuccessor task.id) (forwardDates project graph compute) := by
  have honly : ReadsOnly (fun id other => Precedes project deps other id)
      (forwardRule project graph compute) := by
    intro id own first second hagree
    simp only [forwardRule]
    split
    · apply hcompute
      intro dep hdep
      rw [hsorted.depsBySuccessor] at hdep
      obtain ⟨hknown, hsucc⟩ := List.mem_filter.mp hdep
      exact hagree _ ⟨dep, hknown, rfl, by simpa using hsucc⟩
    · rfl
  rw [forwardDates, evaluate_eq hsorted.nodup hsorted.predecessorsEarlier honly _
    (hsorted.mem_topoOrder hmem), forwardRule, project.get?_of_mem hmem]

theorem runForwardPass_ok {dates : DateTable} {finish : Date}
    (h : runForwardPass project graph compute = .ok (dates, finish)) :
    dates = forwardDates project graph compute ∧
      (∃ task ∈ project.tasks, (dates task.id).finish = some finish) ∧
      ∀ task ∈ project.tasks, ∀ d, (dates task.id).finish = some d → d ≤ finish := by
  simp only [runForwardPass] at h
  split at h
  next => cases h
  next latest hmax =>
    obtain ⟨rfl, rfl⟩ : _ = dates ∧ latest = finish := by simpa using h
    obtain ⟨hmem, hle⟩ := List.max?_eq_some_iff.mp hmax
    refine ⟨rfl, ?_, ?_⟩
    · simpa [finishDates] using hmem
    · intro task htask d hd
      exact hle d (List.mem_filterMap.mpr ⟨task, htask, hd⟩)

theorem runForwardPass_eq_ok {finish : Date} (hmem : ∃ task ∈ project.tasks,
      (forwardDates project graph compute task.id).finish = some finish)
    (hle : ∀ task ∈ project.tasks, ∀ d,
      (forwardDates project graph compute task.id).finish = some d → d ≤ finish) :
    runForwardPass project graph compute = .ok (forwardDates project graph compute, finish) := by
  have hmax : (finishDates project (forwardDates project graph compute)).max? = some finish := by
    rw [List.max?_eq_some_iff]
    constructor
    · obtain ⟨task, htask, hfinish⟩ := hmem
      exact List.mem_filterMap.mpr ⟨task, htask, hfinish⟩
    · intro d hd
      obtain ⟨task, htask, hfinish⟩ := List.mem_filterMap.mp hd
      exact hle task htask d hfinish
  simp only [runForwardPass]
  simp only [forwardDates] at hmax
  rw [hmax]
  rfl

end

/-! ## The dates of one task -/

section

variable (calendar : WorkCalendarEngine)

/-- The finish that goes with a start. -/
def finishFrom (duration : ℤ) (start : Date) : Date :=
  if duration ≤ 0 then start else calendar.addWorkingDays start duration

def datesFrom (duration : ℤ) (start : Option Date) : TaskDates :=
  ⟨start, start.map (finishFrom calendar duration)⟩

/-- The start date that one link induces. -/
def inducedStart (task : Task) (dates : DateTable) (dep : TaskDependency) : Option Date :=
  if task.duration ≤ 0 then linkDate calendar dates dep
  else startCandidate calendar task.duration dates dep

/-- The latest of the start dates that the links induce. -/
def latestInducedStart (task : Task) (incoming : List TaskDependency) (dates : DateTable) :
    Option Date :=
  (incoming.filterMap (inducedStart calendar task dates)).max?

/-- An actual start delays the computed start at most. -/
def delayToActualStart (actualStart start : Option Date) : Option Date :=
  match actualStart with
  | none => start
  | some actual => if start.all fun d => actual > d then some actual else start

theorem computeDates_eq (task : Task) (incoming : List TaskDependency) (dates : DateTable) :
    (if task.duration ≤ 0 then computeDatesMilestone calendar task incoming dates
      else computeDatesWithDuration calendar task incoming dates task.duration) =
      datesFrom calendar task.duration
        ((latestInducedStart calendar task incoming dates).or task.startDate) := by
  have hown : ∀ start : Option Date, (start.map fun d =>
      (⟨some d, some (calendar.addWorkingDays d task.duration)⟩ : TaskDates)).getD .undated =
      ⟨start, start.map fun d => calendar.addWorkingDays d task.duration⟩ := by
    intro start
    cases start <;> rfl
  by_cases hduration : task.duration ≤ 0
  · have hinduced : inducedStart calendar task dates = linkDate calendar dates := by
      funext dep
      simp [inducedStart, hduration]
    have hfinish : finishFrom calendar task.duration = id := by
      funext d
      simp [finishFrom, hduration]
    simp only [hduration, if_true, computeDatesMilestone, latestInducedStart, hinduced, datesFrom,
      hfinish]
    cases incoming with
    | nil => simp
    | cons dep rest => cases ((dep :: rest).filterMap (linkDate calendar dates)).max? <;> simp
  · have hinduced : inducedStart calendar task dates =
        startCandidate calendar task.duration dates := by
      funext dep
      simp [inducedStart, hduration]
    have hfinish : finishFrom calendar task.duration =
        fun d => calendar.addWorkingDays d task.duration := by
      funext d
      simp [finishFrom, hduration]
    simp only [hduration, if_false, computeDatesWithDuration, latestInducedStart, hinduced,
      datesFrom, hfinish, hown]
    cases incoming with
    | nil => simp
    | cons dep rest =>
        cases ((dep :: rest).filterMap (startCandidate calendar task.duration dates)).max? <;> simp

theorem computeTaskDates_eq {task : Task} (hend : task.actualEnd = none)
    (incoming : List TaskDependency) (dates : DateTable) :
    computeTaskDates calendar task incoming dates =
      datesFrom calendar task.duration (delayToActualStart task.actualStart
        ((latestInducedStart calendar task incoming dates).or task.startDate)) := by
  simp only [computeTaskDates, computeDates_eq]
  generalize (latestInducedStart calendar task incoming dates).or task.startDate = start
  cases hactual : task.actualStart with
  | none => simp [applyActualConstraints, hend, hactual, delayToActualStart]
  | some actual =>
      cases start with
      | none => simp [applyActualConstraints, hend, hactual, delayToActualStart, datesFrom, finishFrom]
      | some computed =>
          by_cases hlater : computed < actual <;>
            simp [applyActualConstraints, hend, hactual, delayToActualStart, datesFrom, finishFrom,
              hlater]

theorem computeTaskDates_predecessorsOnly : PredecessorsOnly (computeTaskDates calendar) := by
  intro task incoming first second hagree
  have hlink : ∀ dep ∈ incoming, linkDate calendar first dep = linkDate calendar second dep := by
    intro dep hdep
    simp only [linkDate, hagree dep hdep]
  have hinduced : incoming.filterMap (inducedStart calendar task first) =
      incoming.filterMap (inducedStart calendar task second) := by
    apply List.filterMap_congr
    intro dep hdep
    simp only [inducedStart, startCandidate, hlink dep hdep]
  simp only [computeTaskDates, computeDates_eq, latestInducedStart, hinduced]

end

/-! ## Soundness and tightness -/

section

variable (calendar : WorkCalendarEngine)

/-- The successor respects the date that the link passes on, if it passes one on. -/
def LinkRespected (dates : DateTable) (dep : TaskDependency) : Prop :=
  ∀ bound, linkDate calendar dates dep = some bound →
    match dep.dependencyType with
    | .finishToStart | .startToStart =>
        ∃ start, (dates dep.successorTaskId).start = some start ∧ bound ≤ start
    | .finishToFinish | .startToFinish =>
        ∃ finish, (dates dep.successorTaskId).finish = some finish ∧ bound ≤ finish

variable {calendar}

theorem finishFrom_mono {duration : ℤ} {first second : Date} (h : first ≤ second) :
    finishFrom calendar duration first ≤ finishFrom calendar duration second := by
  simp only [finishFrom]
  split
  · exact h
  · exact calendar.addWorkingDays_mono h duration

theorem le_finishFrom {duration : ℤ} (start : Date) : start ≤ finishFrom calendar duration start := by
  simp only [finishFrom]
  split
  · exact le_rfl
  next hduration =>
    rw [calendar.addWorkingDays_of_pos start (by omega)]
    exact (calendar.le_workingDay_position start).trans
      (calendar.workingDay_le_workingDay.mpr (by omega))

theorem le_delayToActualStart (actualStart : Option Date) {start : Option Date} {d : Date}
    (h : start = some d) :
    ∃ delayed, delayToActualStart actualStart start = some delayed ∧ d ≤ delayed := by
  subst h
  cases actualStart with
  | none => exact ⟨d, rfl, le_rfl⟩
  | some actual =>
      simp only [delayToActualStart, Option.all_some, gt_iff_lt, decide_eq_true_eq]
      split
      next hlater => exact ⟨actual, rfl, hlater.le⟩
      next => exact ⟨d, rfl, le_rfl⟩

theorem linkDate_le_of_inducedStart_le {task : Task} {dates : DateTable} {dep : TaskDependency}
    {bound induced start : Date} (hlink : linkDate calendar dates dep = some bound)
    (hinduced : inducedStart calendar task dates dep = some induced) (hle : induced ≤ start) :
    match dep.dependencyType with
    | .finishToStart | .startToStart => bound ≤ start
    | .finishToFinish | .startToFinish => bound ≤ finishFrom calendar task.duration start := by
  have hfinish : task.duration ≤ 0 → bound ≤ finishFrom calendar task.duration start := by
    intro hduration
    simp only [inducedStart, hduration, if_true, hlink, Option.some.injEq] at hinduced
    simpa [finishFrom, hduration, hinduced] using hle
  have hback : ¬ task.duration ≤ 0 →
      calendar.addWorkingDays bound (-(task.duration - 1)) ≤ start →
      bound ≤ finishFrom calendar task.duration start := by
    intro hduration hstart
    have hmono := calendar.addWorkingDays_mono hstart task.duration
    rw [calendar.addWorkingDays_neg_pred_add bound (by omega)] at hmono
    simp only [finishFrom, hduration, if_false]
    exact (calendar.le_workingDay_position bound).trans hmono
  by_cases hduration : task.duration ≤ 0
  · have hstart : bound ≤ start := by
      simp only [inducedStart, hduration, if_true, hlink, Option.some.injEq] at hinduced
      exact hinduced ▸ hle
    split
    all_goals first | exact hstart | exact hfinish hduration
  · have hpos : task.duration > 0 := by omega
    simp only [inducedStart, hduration, if_false, startCandidate, hlink, Option.map_some,
      hpos, if_true] at hinduced
    split <;> simp_all

/-- The latest induced start serves every link at once, and an actual start only
delays it. -/
theorem linkRespected_of_eq {task : Task} {dates : DateTable} {incoming : List TaskDependency}
    {dep : TaskDependency}
    (heq : dates task.id = datesFrom calendar task.duration (delayToActualStart task.actualStart
      ((latestInducedStart calendar task incoming dates).or task.startDate)))
    (hdep : dep ∈ incoming) (hsucc : dep.successorTaskId = task.id) :
    LinkRespected calendar dates dep := by
  intro bound hbound
  obtain ⟨induced, hinduced⟩ : ∃ induced, inducedStart calendar task dates dep = some induced := by
    simp only [inducedStart, startCandidate, hbound]
    split
    · exact ⟨bound, rfl⟩
    · split <;> exact ⟨_, rfl⟩
  have hincoming : induced ∈ incoming.filterMap (inducedStart calendar task dates) :=
    List.mem_filterMap.mpr ⟨dep, hdep, hinduced⟩
  obtain ⟨latest, hlatest⟩ := Option.isSome_iff_exists.mp (List.isSome_max?_of_mem hincoming)
  have hle := (List.max?_eq_some_iff.mp hlatest).2 induced hincoming
  have hor : (latestInducedStart calendar task incoming dates).or task.startDate = some latest := by
    rw [latestInducedStart, hlatest]
    rfl
  obtain ⟨start, hstart, hdelay⟩ := le_delayToActualStart task.actualStart hor
  rw [hstart] at heq
  have hrespected := linkDate_le_of_inducedStart_le hbound hinduced (hle.trans hdelay)
  rw [hsucc, heq]
  simp only [datesFrom, Option.map_some, Option.some.injEq, exists_eq_left']
  exact hrespected

/-- The dates of a task meet its links, its finish goes with its start, and
without an actual start it starts no later than its links ask. -/
structure EarliestDates (calendar : WorkCalendarEngine) (project : TasksById)
    (deps : List TaskDependency) (dates : DateTable) (task : Task) : Prop where
  links : ∀ dep ∈ knownDependencies project deps, dep.successorTaskId = task.id →
    LinkRespected calendar dates dep
  finish : ∀ start, (dates task.id).start = some start → (dates task.id).finish =
    some (if task.duration ≥ 1 then calendar.addWorkingDays start task.duration else start)
  start : task.actualStart = none → (dates task.id).start =
    (latestInducedStart calendar task
      ((knownDependencies project deps).filter fun dep => dep.successorTaskId = task.id)
      dates).or task.startDate

theorem earliestDates_forwardDates (hsorted : graph.Sorted project deps) {task : Task}
    (hmem : task ∈ project.tasks) (hend : task.actualEnd = none) :
    EarliestDates calendar project deps
      (forwardDates project graph (computeTaskDates calendar)) task := by
  have heq := forwardDates_eq hsorted (computeTaskDates_predecessorsOnly calendar) hmem
  rw [computeTaskDates_eq calendar hend, hsorted.depsBySuccessor] at heq
  refine ⟨?_, ?_, ?_⟩
  · intro dep hdep hsucc
    exact linkRespected_of_eq heq (List.mem_filter.mpr ⟨hdep, by simpa using hsucc⟩) hsucc
  · intro start hstart
    rw [heq] at hstart ⊢
    simp only [datesFrom] at hstart ⊢
    rw [hstart, Option.map_some, finishFrom]
    by_cases hduration : task.duration ≤ 0
    · rw [if_pos hduration, if_neg (by omega)]
    · rw [if_neg hduration, if_pos (by omega)]
  · intro hactual
    rw [heq, hactual]
    rfl

/-- Soundness and tightness of the forward pass on an acyclic project. -/
theorem forwardPass_sound_and_tight (calendar : WorkCalendarEngine) (project : TasksById)
    (deps : List TaskDependency) (priority : Task → ℤ)
    (hacyclic : AcyclicDependencies project deps) :
    ∃ graph, buildProjectDependencyGraph project priority deps = .ok graph ∧
    ∀ dates finish,
      runForwardPass project graph (computeTaskDates calendar) = .ok (dates, finish) →
    ∀ task ∈ project.tasks, task.actualEnd = none →
      EarliestDates calendar project deps dates task := by
  obtain ⟨graph, hgraph⟩ := exists_buildProjectDependencyGraph priority hacyclic
  refine ⟨graph, hgraph, ?_⟩
  intro dates finish hrun task hmem hend
  obtain ⟨rfl, -, -⟩ := runForwardPass_ok hrun
  exact earliestDates_forwardDates (buildProjectDependencyGraph_sorted hgraph) hmem hend

/-- Design for three days, then review for one; ordinal `8` is a Monday. -/
def designAndReview : TasksById where
  rows := [
    { id := "design", projectId := "p", name := "Design", startDate := some 8,
      durationDays := some 3 },
    { id := "review", projectId := "p", name := "Review", durationDays := some 1 }]
  nodup := by decide

def reviewAfterDesign : List TaskDependency :=
  [{ id := "d", predecessorTaskId := "design", successorTaskId := "review" }]

theorem forwardPass_sound_and_tight_designAndReview :
    AcyclicDependencies designAndReview reviewAfterDesign ∧
    ∃ graph, buildProjectDependencyGraph designAndReview priorityValue reviewAfterDesign =
      .ok graph ∧
    ∀ dates finish,
      runForwardPass designAndReview graph (computeTaskDates weekdayCalendar) =
        .ok (dates, finish) →
    ∀ task ∈ designAndReview.tasks, task.actualEnd = none →
      EarliestDates weekdayCalendar designAndReview reviewAfterDesign dates task := by
  have hacyclic : AcyclicDependencies designAndReview reviewAfterDesign :=
    acyclic_of_rank (fun id => if id = "design" then 0 else 1) (by decide)
  exact ⟨hacyclic,
    forwardPass_sound_and_tight weekdayCalendar designAndReview reviewAfterDesign priorityValue
      hacyclic⟩

end

end ProjectManager
