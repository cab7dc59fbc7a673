import ProjectManager.Scheduling.ForwardPass

/-! # Feasibility of the backward pass

Latest dates solve equations against the topological order: they are the least that chains of
links leave a task. A task with a finish-side link drops the bounds of its start-side links, so the
latest dates are a schedule of their own only where other chains ask for no less.
-/

namespace ProjectManager

open Foundation

/-- FS and FF links bound the finish of their predecessor. -/
def TaskDependency.FinishSide (dep : TaskDependency) : Prop :=
  dep.dependencyType = .finishToStart ∨ dep.dependencyType = .finishToFinish

instance (dep : TaskDependency) : Decidable dep.FinishSide :=
  inferInstanceAs (Decidable (_ ∨ _))

/-- No lag is negative and nothing has started yet. -/
structure PlannedProject (project : TasksById) (deps : List TaskDependency) : Prop where
  lags : ∀ dep ∈ knownDependencies project deps, 0 ≤ dep.lagDays
  noActualStart : ∀ task ∈ project.tasks, task.actualStart = none
  noActualEnd : ∀ task ∈ project.tasks, task.actualEnd = none

def TaskDates.Dated (dates : TaskDates) : Prop := dates.start.isSome

instance (dates : TaskDates) : Decidable dates.Dated :=
  inferInstanceAs (Decidable (_ = _))

/-! ## The equations of the table -/

section

variable {calendar : WorkCalendarEngine} {project : TasksById} {deps : List TaskDependency}
  {graph : DependencyGraph} {early : DateTable} {finish : Date}

def outgoingDependencies (project : TasksById) (deps : List TaskDependency) (id : String) :
    List TaskDependency :=
  (knownDependencies project deps).filter fun dep => dep.predecessorTaskId = id

theorem mem_outgoingDependencies {id : String} {dep : TaskDependency} :
    dep ∈ outgoingDependencies project deps id ↔
      dep ∈ knownDependencies project deps ∧ dep.predecessorTaskId = id := by
  simp [outgoingDependencies]

/-- The table of the backward pass solves the equation of every task. -/
theorem runBackwardPass_eq (hsorted : graph.Sorted project deps) {task : Task}
    (hmem : task ∈ project.tasks) :
    runBackwardPass calendar project graph early finish task.id =
      backwardRule calendar project graph early task.id
        (endTaskDates calendar project graph finish task.id)
        (runBackwardPass calendar project graph early finish) := by
  have honly : ReadsOnly (fun id other => Precedes project deps id other)
      (backwardRule calendar project graph early) := by
    intro id own first second hagree
    have hlate : ∀ dep ∈ graph.depsByPredecessor id,
        first dep.successorTaskId = second dep.successorTaskId := by
      intro dep hdep
      rw [hsorted.depsByPredecessor] at hdep
      obtain ⟨hknown, hpred⟩ := mem_outgoingDependencies.mp hdep
      exact hagree _ ⟨dep, hknown, hpred, rfl⟩
    have hfinish : (graph.depsByPredecessor id).filterMap (lateFinishCandidate calendar first) =
        (graph.depsByPredecessor id).filterMap (lateFinishCandidate calendar second) := by
      apply List.filterMap_congr
      intro dep hdep
      simp only [lateFinishCandidate, hlate dep hdep]
    have hstart : (graph.depsByPredecessor id).filterMap (lateStartCandidate calendar first) =
        (graph.depsByPredecessor id).filterMap (lateStartCandidate calendar second) := by
      apply List.filterMap_congr
      intro dep hdep
      simp only [lateStartCandidate, hlate dep hdep]
    simp only [backwardRule, hfinish, hstart]
  exact evaluate_eq (List.nodup_reverse.mpr hsorted.nodup)
    (hsorted.predecessorsEarlier.reverse hsorted.nodup) honly _
    (List.mem_reverse.mpr (hsorted.mem_topoOrder hmem))

/-- End tasks finish with the project. -/
theorem runBackwardPass_of_end (hsorted : graph.Sorted project deps) {task : Task}
    (hmem : task ∈ project.tasks) (hend : outgoingDependencies project deps task.id = []) :
    runBackwardPass calendar project graph early finish task.id =
      fromLateFinish calendar task.duration finish := by
  have hgraph : graph.depsByPredecessor task.id = [] :=
    (hsorted.depsByPredecessor task.id).trans hend
  rw [runBackwardPass_eq hsorted hmem, backwardRule, project.get?_of_mem hmem]
  simp [hgraph, endTaskDates, project.get?_of_mem hmem, fromLateFinish]

theorem isEmpty_eq_false_of_candidate {outgoing : List TaskDependency}
    {candidate : TaskDependency → Option Date} {bound : Date}
    (h : (outgoing.filterMap candidate).min? = some bound) : outgoing.isEmpty = false := by
  cases outgoing with
  | nil => cases h
  | cons => rfl

/-- A task with a finish-side candidate takes the least of these candidates. -/
theorem runBackwardPass_of_finishSide (hsorted : graph.Sorted project deps) {task : Task}
    (hmem : task ∈ project.tasks) {bound : Date}
    (hbound : ((outgoingDependencies project deps task.id).filterMap (lateFinishCandidate calendar
      (runBackwardPass calendar project graph early finish))).min? = some bound) :
    runBackwardPass calendar project graph early finish task.id =
      fromLateFinish calendar task.duration bound := by
  have hgraph : graph.depsByPredecessor task.id = outgoingDependencies project deps task.id :=
    hsorted.depsByPredecessor task.id
  have hne := isEmpty_eq_false_of_candidate hbound
  rw [runBackwardPass_eq hsorted hmem, backwardRule, project.get?_of_mem hmem]
  simp [hgraph, hne, hbound]

/-- Only without finish-side candidates do the start-side candidates count. -/
theorem runBackwardPass_of_startSide (hsorted : graph.Sorted project deps) {task : Task}
    (hmem : task ∈ project.tasks) {bound : Date}
    (hnone : (outgoingDependencies project deps task.id).filterMap (lateFinishCandidate calendar
      (runBackwardPass calendar project graph early finish)) = [])
    (hbound : ((outgoingDependencies project deps task.id).filterMap (lateStartCandidate calendar
      (runBackwardPass calendar project graph early finish))).min? = some bound) :
    runBackwardPass calendar project graph early finish task.id =
      fromLateStart calendar task.duration bound := by
  have hgraph : graph.depsByPredecessor task.id = outgoingDependencies project deps task.id :=
    hsorted.depsByPredecessor task.id
  have hne := isEmpty_eq_false_of_candidate hbound
  rw [runBackwardPass_eq hsorted hmem, backwardRule, project.get?_of_mem hmem]
  simp [hgraph, hne, hnone, hbound]

end

/-! ## Dated tasks -/

section

variable {calendar : WorkCalendarEngine} {project : TasksById} {deps : List TaskDependency}
  {graph : DependencyGraph}

theorem forwardDates_planned (calendar : WorkCalendarEngine) (hsorted : graph.Sorted project deps)
    (hplanned : PlannedProject project deps) {task : Task} (hmem : task ∈ project.tasks) :
    let early := forwardDates project graph (computeTaskDates calendar)
    early task.id = datesFrom calendar task.duration (delayToActualStart task.actualStart
      ((latestInducedStart calendar task ((knownDependencies project deps).filter
        fun dep => dep.successorTaskId = task.id) early).or task.startDate)) := by
  intro early
  have heq := forwardDates_eq hsorted (computeTaskDates_predecessorsOnly calendar) hmem
  rwa [computeTaskDates_eq calendar (hplanned.noActualEnd task hmem),
    hsorted.depsBySuccessor] at heq

/-- A dated task has the finish that goes with its start. -/
theorem forwardDates_of_dated (hsorted : graph.Sorted project deps)
    (hplanned : PlannedProject project deps) {task : Task} (hmem : task ∈ project.tasks)
    (hdated : (forwardDates project graph (computeTaskDates calendar) task.id).Dated) :
    ∃ start, forwardDates project graph (computeTaskDates calendar) task.id =
      ⟨some start, some (finishFrom calendar task.duration start)⟩ := by
  have heq := forwardDates_planned calendar hsorted hplanned hmem
  simp only [TaskDates.Dated, heq, datesFrom] at hdated ⊢
  obtain ⟨start, hstart⟩ := Option.isSome_iff_exists.mp hdated
  exact ⟨start, by rw [hstart, Option.map_some]⟩

/-- A link out of a dated task dates its successor. -/
theorem dated_successor (hsorted : graph.Sorted project deps)
    (hplanned : PlannedProject project deps) {dep : TaskDependency}
    (hdep : dep ∈ knownDependencies project deps)
    (hdated : (forwardDates project graph (computeTaskDates calendar)
      dep.predecessorTaskId).Dated) :
    (forwardDates project graph (computeTaskDates calendar) dep.successorTaskId).Dated := by
  obtain ⟨-, hpred, hsucc⟩ := mem_knownDependencies.mp hdep
  obtain ⟨pred, hpredMem, hpredId, -⟩ := project.exists_of_mem_ids hpred
  obtain ⟨succ, hsuccMem, hsuccId, -⟩ := project.exists_of_mem_ids hsucc
  rw [← hpredId] at hdated
  obtain ⟨start, hstart⟩ := forwardDates_of_dated hsorted hplanned hpredMem hdated
  rw [hpredId] at hstart
  obtain ⟨bound, hbound⟩ : ∃ bound, linkDate calendar
      (forwardDates project graph (computeTaskDates calendar)) dep = some bound := by
    simp only [linkDate, hstart]
    split <;> exact ⟨_, rfl⟩
  have heq := forwardDates_planned calendar hsorted hplanned hsuccMem
  have hlink := linkRespected_of_eq heq (List.mem_filter.mpr ⟨hdep, by simpa using hsuccId.symm⟩)
    hsuccId.symm bound hbound
  rw [← hsuccId, heq] at hlink ⊢
  generalize delayToActualStart _ _ = start at hlink ⊢
  cases start with
  | some => rfl
  | none =>
      split at hlink
      all_goals
        obtain ⟨d, hd, -⟩ := hlink
        cases hd

end

/-! ## Feasible latest dates -/

section

variable (calendar : WorkCalendarEngine) (project : TasksById) (deps : List TaskDependency)

/-- The latest dates of the dated tasks are a schedule of their own. -/
structure LateFeasible (early late : DateTable) (finish : Date) : Prop where
  dates : ∀ task ∈ project.tasks, (early task.id).Dated →
    ∃ start bound, late task.id = ⟨some start, some bound⟩ ∧ bound ≤ finish ∧
      bound = if task.duration ≥ 1 then calendar.addWorkingDays start task.duration else start
  links : ∀ dep ∈ knownDependencies project deps, (early dep.predecessorTaskId).Dated →
    LinkRespected calendar late dep

/-- Dates of a successor that keep what the link passes on from dates of its predecessor. -/
def TaskDependency.Keeps (dep : TaskDependency) (pred succ : TaskDates) : Prop :=
  ∀ bound, linkDate calendar (fun _ => pred) dep = some bound →
    match dep.dependencyType with
    | .finishToStart | .startToStart => ∃ start, succ.start = some start ∧ bound ≤ start
    | .finishToFinish | .startToFinish => ∃ finish, succ.finish = some finish ∧ bound ≤ finish

/-- No lag is negative, and the links out of dated tasks lead to dated ones. -/
structure DatedLinks (early : DateTable) : Prop where
  lags : ∀ dep ∈ knownDependencies project deps, 0 ≤ dep.lagDays
  closed : ∀ dep ∈ knownDependencies project deps,
    (early dep.predecessorTaskId).Dated → (early dep.successorTaskId).Dated

/-! ## Chains of links -/

/-- What a chain of links leaves a task: the finish of the project is walked back from its last
task over one link after the other, finish-side links where a task has any. -/
inductive ChainDates (finish : Date) : Task → TaskDates → Prop
  | last {task : Task} (hend : outgoingDependencies project deps task.id = []) :
      ChainDates finish task (fromLateFinish calendar task.duration finish)
  | finishSide {task succ : Task} {dep : TaskDependency} {dates : TaskDates} {bound : Date}
      (hdep : dep ∈ outgoingDependencies project deps task.id)
      (hsucc : succ ∈ project.tasks ∧ dep.successorTaskId = succ.id)
      (hchain : ChainDates finish succ dates)
      (hbound : lateFinishCandidate calendar (fun _ => dates) dep = some bound) :
      ChainDates finish task (fromLateFinish calendar task.duration bound)
  | startSide {task succ : Task} {dep : TaskDependency} {dates : TaskDates} {bound : Date}
      (hdep : dep ∈ outgoingDependencies project deps task.id)
      (hsides : ∀ other ∈ outgoingDependencies project deps task.id, ¬ other.FinishSide)
      (hsucc : succ ∈ project.tasks ∧ dep.successorTaskId = succ.id)
      (hchain : ChainDates finish succ dates)
      (hbound : lateStartCandidate calendar (fun _ => dates) dep = some bound) :
      ChainDates finish task (fromLateStart calendar task.duration bound)

/-- The pass drops the bound of a start-side link beside a finish-side link, and an FS link bounds
its predecessor by a day too many where no chain starts the successor on a working day. -/
def BoundMissed (finish : Date) (dep : TaskDependency) (pred succ : Task) : Prop :=
  (¬ dep.FinishSide ∧ ∃ other ∈ outgoingDependencies project deps pred.id, other.FinishSide) ∨
    dep.dependencyType = .finishToStart ∧ ∀ dates, ChainDates calendar project deps finish succ
      dates → ∀ start ∈ dates.start, calendar.isWorkingDay start = false

/-- Start-side links alone leave no dated task of two days or more. -/
def StartOnlyShort (early : DateTable) : Prop :=
  ∀ task ∈ project.tasks, (early task.id).Dated →
    outgoingDependencies project deps task.id ≠ [] →
      (∀ dep ∈ outgoingDependencies project deps task.id, ¬ dep.FinishSide) → task.duration ≤ 1

/-- A bound that the pass misses is not needed: to every chain behind it there is one from the
predecessor that asks for no less. -/
structure LinksSafe (early : DateTable) (finish : Date) : Prop where
  startOnly : StartOnlyShort project deps early
  missed : ∀ pred ∈ project.tasks, (early pred.id).Dated → ∀ succ ∈ project.tasks,
    ∀ dep ∈ outgoingDependencies project deps pred.id, dep.successorTaskId = succ.id →
      BoundMissed calendar project deps finish dep pred succ →
        ∀ later, ChainDates calendar project deps finish succ later →
          ∃ sooner, ChainDates calendar project deps finish pred sooner ∧
            dep.Keeps calendar sooner later

/-- Moreover some chain walks every duration back from a working day. -/
structure BackwardSafe (early : DateTable) (finish : Date) : Prop
    extends LinksSafe calendar project deps early finish where
  durations : ∀ task ∈ project.tasks, (early task.id).Dated → 1 ≤ task.duration →
    ∃ dates, ChainDates calendar project deps finish task dates ∧
      ∃ last ∈ dates.finish, calendar.isWorkingDay last = true

end

/-! ## Candidates -/

section

variable {calendar : WorkCalendarEngine} {project : TasksById} {deps : List TaskDependency}
  {graph : DependencyGraph} {early : DateTable} {finish : Date}

/-- Both dates are set, and no later than those of the other. -/
def TaskDates.Sooner (dates other : TaskDates) : Prop :=
  ∃ start last laterStart laterLast, dates = ⟨some start, some last⟩ ∧
    other = ⟨some laterStart, some laterLast⟩ ∧ start ≤ laterStart ∧ last ≤ laterLast

theorem fromLateFinish_sooner (duration : ℤ) {bound later : Date} (hle : bound ≤ later) :
    (fromLateFinish calendar duration bound).Sooner (fromLateFinish calendar duration later) := by
  refine ⟨_, _, _, _, rfl, rfl, ?_, hle⟩
  split
  · exact calendar.addWorkingDays_mono hle _
  · exact hle

theorem fromLateStart_sooner (duration : ℤ) {bound later : Date} (hle : bound ≤ later) :
    (fromLateStart calendar duration bound).Sooner (fromLateStart calendar duration later) := by
  refine ⟨_, _, _, _, rfl, rfl, hle, ?_⟩
  split
  · exact calendar.addWorkingDays_mono hle _
  · exact hle

theorem ChainDates.exists_dates {task : Task} {dates : TaskDates}
    (h : ChainDates calendar project deps finish task dates) :
    ∃ start last, dates = ⟨some start, some last⟩ := by
  cases h <;> exact ⟨_, _, rfl⟩

/-- Sooner dates of a successor leave an earlier candidate. -/
theorem exists_lateFinishCandidate_le {late : DateTable} {dep : TaskDependency} {other : TaskDates}
    (hsooner : (late dep.successorTaskId).Sooner other) {bound : Date}
    (hbound : lateFinishCandidate calendar (fun _ => other) dep = some bound) :
    ∃ c, lateFinishCandidate calendar late dep = some c ∧ c ≤ bound := by
  obtain ⟨start, last, laterStart, laterLast, hlate, rfl, hstart, hlast⟩ := hsooner
  unfold lateFinishCandidate at hbound ⊢
  cases htype : dep.dependencyType <;> simp only [htype, hlate, Option.map_some] at hbound ⊢ <;>
    cases hbound
  · exact ⟨_, rfl, calendar.addWorkingDays_mono hstart _⟩
  · exact ⟨_, rfl, calendar.addWorkingDays_mono hlast _⟩

theorem exists_lateStartCandidate_le {late : DateTable} {dep : TaskDependency} {other : TaskDates}
    (hsooner : (late dep.successorTaskId).Sooner other) {bound : Date}
    (hbound : lateStartCandidate calendar (fun _ => other) dep = some bound) :
    ∃ c, lateStartCandidate calendar late dep = some c ∧ c ≤ bound := by
  obtain ⟨start, last, laterStart, laterLast, hlate, rfl, hstart, hlast⟩ := hsooner
  unfold lateStartCandidate at hbound ⊢
  cases htype : dep.dependencyType <;> simp only [htype, hlate, Option.map_some] at hbound ⊢ <;>
    cases hbound
  · exact ⟨_, rfl, calendar.addWorkingDays_mono hstart _⟩
  · exact ⟨_, rfl, calendar.addWorkingDays_mono hlast _⟩

theorem lateFinishCandidate_eq_none {late : DateTable} {dep : TaskDependency}
    (hside : ¬ dep.FinishSide) : lateFinishCandidate calendar late dep = none := by
  cases htype : dep.dependencyType with
  | finishToStart => exact absurd (Or.inl htype) hside
  | finishToFinish => exact absurd (Or.inr htype) hside
  | startToStart => simp [lateFinishCandidate, htype]
  | startToFinish => simp [lateFinishCandidate, htype]

/-- Some candidate is the least, and no link asks for less. -/
theorem exists_min_candidate {candidate : TaskDependency → Option Date}
    {links : List TaskDependency} {dep : TaskDependency} {c : Date} (hdep : dep ∈ links)
    (hc : candidate dep = some c) :
    ∃ bound, (links.filterMap candidate).min? = some bound ∧
      (∃ least ∈ links, candidate least = some bound) ∧
      ∀ other ∈ links, ∀ d, candidate other = some d → bound ≤ d := by
  have hmem : c ∈ links.filterMap candidate := List.mem_filterMap.mpr ⟨dep, hdep, hc⟩
  obtain ⟨bound, hbound⟩ := Option.isSome_iff_exists.mp (List.isSome_min?_of_mem hmem)
  obtain ⟨hleast, hle⟩ := List.min?_eq_some_iff.mp hbound
  refine ⟨bound, hbound, List.mem_filterMap.mp hleast, ?_⟩
  intro other hother d hd
  exact hle d (List.mem_filterMap.mpr ⟨other, hother, hd⟩)

theorem exists_lateFinishCandidate {late : DateTable} {dep : TaskDependency} (hside : dep.FinishSide)
    {start last : Date} (hdates : late dep.successorTaskId = ⟨some start, some last⟩) :
    ∃ bound, lateFinishCandidate calendar late dep = some bound := by
  rcases hside with htype | htype <;> simp [lateFinishCandidate, htype, hdates]

theorem exists_lateStartCandidate {late : DateTable} {dep : TaskDependency}
    (hside : ¬ dep.FinishSide) {start last : Date}
    (hdates : late dep.successorTaskId = ⟨some start, some last⟩) :
    ∃ bound, lateStartCandidate calendar late dep = some bound := by
  cases htype : dep.dependencyType with
  | finishToStart => exact absurd (Or.inl htype) hside
  | finishToFinish => exact absurd (Or.inr htype) hside
  | startToStart => simp [lateStartCandidate, htype, hdates]
  | startToFinish => simp [lateStartCandidate, htype, hdates]

/-! ## The least of all chains -/

/-- No chain asks for less than the backward pass. -/
theorem ChainDates.sooner (early : DateTable) (hsorted : graph.Sorted project deps) {task : Task}
    {dates : TaskDates} (h : ChainDates calendar project deps finish task dates)
    (hmem : task ∈ project.tasks) :
    (runBackwardPass calendar project graph early finish task.id).Sooner dates := by
  induction h with
  | last hend =>
      rw [runBackwardPass_of_end hsorted hmem hend]
      exact fromLateFinish_sooner _ le_rfl
  | finishSide hdep hsucc _ hbound ih =>
      have hsooner := ih hsucc.1
      rw [← hsucc.2] at hsooner
      obtain ⟨c, hc, hle⟩ := exists_lateFinishCandidate_le hsooner hbound
      obtain ⟨least, hleast, -, hall⟩ := exists_min_candidate hdep hc
      rw [runBackwardPass_of_finishSide hsorted hmem hleast]
      exact fromLateFinish_sooner _ ((hall _ hdep c hc).trans hle)
  | startSide hdep hsides hsucc _ hbound ih =>
      have hsooner := ih hsucc.1
      rw [← hsucc.2] at hsooner
      obtain ⟨c, hc, hle⟩ := exists_lateStartCandidate_le hsooner hbound
      obtain ⟨least, hleast, -, hall⟩ := exists_min_candidate hdep hc
      rw [runBackwardPass_of_startSide hsorted hmem (List.filterMap_eq_nil_iff.mpr fun other hother =>
        lateFinishCandidate_eq_none (hsides other hother)) hleast]
      exact fromLateStart_sooner _ ((hall _ hdep c hc).trans hle)

theorem exists_successor {task : Task} {dep : TaskDependency}
    (hdep : dep ∈ outgoingDependencies project deps task.id) :
    ∃ succ ∈ project.tasks, dep.successorTaskId = succ.id ∧ Precedes project deps task.id succ.id := by
  obtain ⟨hknown, hpred⟩ := mem_outgoingDependencies.mp hdep
  obtain ⟨-, -, hsuccId⟩ := mem_knownDependencies.mp hknown
  obtain ⟨succ, hmem, hid, -⟩ := project.exists_of_mem_ids hsuccId
  exact ⟨succ, hmem, hid.symm, dep, hknown, hpred, hid.symm⟩

/-- One step of the backward pass: the dates of a task come from a chain when those of its
successors do. -/
theorem runBackwardPass_step (hsorted : graph.Sorted project deps) {task : Task}
    (hmem : task ∈ project.tasks)
    (hsucc : ∀ succ ∈ project.tasks, Precedes project deps task.id succ.id →
      ChainDates calendar project deps finish succ
        (runBackwardPass calendar project graph early finish succ.id)) :
    ChainDates calendar project deps finish task
      (runBackwardPass calendar project graph early finish task.id) := by
  have hdates (dep) (hdep : dep ∈ outgoingDependencies project deps task.id) :
      ∃ start last, runBackwardPass calendar project graph early finish dep.successorTaskId =
        ⟨some start, some last⟩ := by
    obtain ⟨succ, hsuccMem, hid, hprecedes⟩ := exists_successor hdep
    rw [hid]
    exact (hsucc succ hsuccMem hprecedes).exists_dates
  by_cases hside : ∃ dep ∈ outgoingDependencies project deps task.id, dep.FinishSide
  · obtain ⟨dep, hdep, hside⟩ := hside
    obtain ⟨_, _, hlate⟩ := hdates dep hdep
    obtain ⟨c, hc⟩ := exists_lateFinishCandidate hside hlate
    obtain ⟨bound, hbound, ⟨least, hleast, hcandidate⟩, -⟩ := exists_min_candidate hdep hc
    obtain ⟨succ, hsuccMem, hid, hprecedes⟩ := exists_successor hleast
    rw [runBackwardPass_of_finishSide hsorted hmem hbound]
    exact .finishSide hleast ⟨hsuccMem, hid⟩ (hid ▸ hsucc succ hsuccMem hprecedes) hcandidate
  · push Not at hside
    cases hout : outgoingDependencies project deps task.id with
    | nil =>
        rw [runBackwardPass_of_end hsorted hmem hout]
        exact .last hout
    | cons dep rest =>
        have hdep : dep ∈ outgoingDependencies project deps task.id := by simp [hout]
        obtain ⟨_, _, hlate⟩ := hdates dep hdep
        obtain ⟨c, hc⟩ := exists_lateStartCandidate (hside dep hdep) hlate
        obtain ⟨bound, hbound, ⟨least, hleast, hcandidate⟩, -⟩ := exists_min_candidate hdep hc
        obtain ⟨succ, hsuccMem, hid, hprecedes⟩ := exists_successor hleast
        rw [runBackwardPass_of_startSide hsorted hmem (List.filterMap_eq_nil_iff.mpr
          fun other hother => lateFinishCandidate_eq_none (hside other hother)) hbound]
        exact .startSide hleast hside ⟨hsuccMem, hid⟩ (hid ▸ hsucc succ hsuccMem hprecedes)
          hcandidate

/-- The latest dates of every task come from a chain, which by `ChainDates.sooner` is the least. -/
theorem runBackwardPass_chain (hsorted : graph.Sorted project deps) :
    ∀ task ∈ project.tasks, ChainDates calendar project deps finish task
      (runBackwardPass calendar project graph early finish task.id) := by
  have hall := (hsorted.predecessorsEarlier.reverse hsorted.nodup).induction
    (fun id => ∀ task ∈ project.tasks, task.id = id → ChainDates calendar project deps finish task
      (runBackwardPass calendar project graph early finish task.id)) (by
      rintro - - ih task hmem rfl
      apply runBackwardPass_step hsorted hmem
      intro succ hsuccMem hprecedes
      exact ih succ.id (List.mem_reverse.mpr (hsorted.mem_topoOrder hsuccMem)) hprecedes succ
        hsuccMem rfl)
  intro task hmem
  exact hall task.id (List.mem_reverse.mpr (hsorted.mem_topoOrder hmem)) task hmem rfl

/-! ## Chains end with the project -/

/-- No later than the project finish, and a working day if it is another day. -/
def NearFinish (calendar : WorkCalendarEngine) (finish d : Date) : Prop :=
  d ≤ finish ∧ (d = finish ∨ calendar.isWorkingDay d = true)

theorem NearFinish.walkedBack {d : Date} (h : NearFinish calendar finish d) {n : ℤ} (hn : 0 ≤ n) :
    NearFinish calendar finish (calendar.addWorkingDays d (-n)) := by
  obtain rfl | hpos := hn.eq_or_lt
  · exact h
  · exact ⟨(calendar.addWorkingDays_le_self d (by omega)).trans h.1,
      Or.inr (calendar.isWorkingDay_addWorkingDays d (by omega))⟩

/-- What a chain leaves a dated task is near the project finish, and it spans the duration of the
task where that is walked back from a working day. -/
structure TaskDates.Spans (calendar : WorkCalendarEngine) (finish : Date) (task : Task)
    (dates : TaskDates) (start last : Date) : Prop where
  eq : dates = ⟨some start, some last⟩
  le : start ≤ last
  nearStart : NearFinish calendar finish start
  nearLast : NearFinish calendar finish last
  short : task.duration ≤ 1 → start = last
  span : task.duration ≤ 0 ∨ calendar.isWorkingDay last = true →
    last = finishFrom calendar task.duration start

theorem fromLateFinish_spans (task : Task) {bound : Date}
    (hbound : NearFinish calendar finish bound) : ∃ start last,
      (fromLateFinish calendar task.duration bound).Spans calendar finish task start last := by
  by_cases hduration : task.duration ≤ 0
  · refine ⟨bound, bound, ?_, le_rfl, hbound, hbound, fun _ => rfl, fun _ => ?_⟩
    · rw [fromLateFinish, if_neg (by omega)]
    · rw [finishFrom, if_pos hduration]
  · refine ⟨calendar.addWorkingDays bound (-(task.duration - 1)), bound, ?_,
      calendar.addWorkingDays_le_self bound (by omega), hbound.walkedBack (by omega), hbound, ?_, ?_⟩
    · rw [fromLateFinish, if_pos (by omega)]
    · intro hshort
      rw [show task.duration = 1 by omega]
      rfl
    · rintro (hno | hworking)
      · exact absurd hno hduration
      · rw [finishFrom, if_neg hduration, calendar.addWorkingDays_neg_pred_add bound (by omega),
          calendar.workingDay_position_eq_iff.mpr hworking]

theorem fromLateStart_spans (task : Task) {bound : Date} (hduration : task.duration ≤ 1)
    (hbound : NearFinish calendar finish bound) : ∃ start last,
      (fromLateStart calendar task.duration bound).Spans calendar finish task start last := by
  refine ⟨bound, bound, ?_, le_rfl, hbound, hbound, fun _ => rfl, ?_⟩
  · unfold fromLateStart
    split
    · rw [show task.duration = 1 by omega]
      rfl
    · rfl
  · rintro (hmilestone | hworking)
    · rw [finishFrom, if_pos hmilestone]
    · unfold finishFrom
      split_ifs with hmilestone
      · rfl
      · rw [show task.duration = 1 by omega, calendar.addWorkingDays_of_pos bound one_pos,
          add_sub_cancel_right, calendar.workingDay_position_eq_iff.mpr hworking]

theorem ChainDates.spans (hlinks : DatedLinks project deps early)
    (hshort : StartOnlyShort project deps early) {task : Task} {dates : TaskDates} (h : ChainDates calendar project deps finish task dates)
    (hmem : task ∈ project.tasks) (hdated : (early task.id).Dated) :
    ∃ start last, dates.Spans calendar finish task start last := by
  induction h with
  | last hend => exact fromLateFinish_spans _ ⟨le_rfl, Or.inl rfl⟩
  | @finishSide task succ dep dates bound hdep hsucc _ hbound ih =>
      obtain ⟨hknown, hpred⟩ := mem_outgoingDependencies.mp hdep
      obtain ⟨start, last, rfl, -, hstart, hlast, -, -⟩ :=
        ih hsucc.1 (hsucc.2 ▸ hlinks.closed dep hknown (hpred ▸ hdated))
      have hlag := hlinks.lags dep hknown
      apply fromLateFinish_spans
      unfold lateFinishCandidate at hbound
      cases htype : dep.dependencyType <;> simp only [htype, Option.map_some] at hbound <;>
        cases hbound
      · exact hstart.walkedBack (by omega)
      · exact hlast.walkedBack hlag
  | @startSide task succ dep dates bound hdep hsides hsucc _ hbound ih =>
      obtain ⟨hknown, hpred⟩ := mem_outgoingDependencies.mp hdep
      obtain ⟨start, last, rfl, -, hstart, hlast, -, -⟩ :=
        ih hsucc.1 (hsucc.2 ▸ hlinks.closed dep hknown (hpred ▸ hdated))
      have hlag := hlinks.lags dep hknown
      apply fromLateStart_spans _ (hshort task hmem hdated (List.ne_nil_of_mem hdep) hsides)
      unfold lateStartCandidate at hbound
      cases htype : dep.dependencyType <;> simp only [htype, Option.map_some] at hbound <;>
        cases hbound
      · exact hstart.walkedBack hlag
      · exact hlast.walkedBack hlag

/-! ## The links at the latest dates -/

/-- Sooner dates of the predecessor and later ones of the successor keep a link. -/
theorem TaskDependency.Keeps.mono {dep : TaskDependency} {pred succ sooner later : TaskDates}
    (h : dep.Keeps calendar pred succ) (hsooner : sooner.Sooner pred)
    (hlater : succ.Sooner later) : dep.Keeps calendar sooner later := by
  obtain ⟨_, _, _, _, rfl, rfl, hstart, hlast⟩ := hsooner
  obtain ⟨_, _, _, _, rfl, rfl, hlaterStart, hlaterLast⟩ := hlater
  unfold Keeps linkDate at h ⊢
  cases htype : dep.dependencyType <;>
    simp only [htype, Option.map_some, Option.some.injEq, forall_eq', exists_eq_left'] at h ⊢
  · exact (calendar.addWorkingDays_mono hlast _).trans (h.trans hlaterStart)
  · exact (calendar.addWorkingDays_mono hlast _).trans (h.trans hlaterLast)
  · exact (calendar.addWorkingDays_mono hstart _).trans (h.trans hlaterStart)
  · exact (calendar.addWorkingDays_mono hstart _).trans (h.trans hlaterLast)

theorem runBackwardPass_finish_le (hsorted : graph.Sorted project deps) {task : Task}
    (hmem : task ∈ project.tasks) {dep : TaskDependency}
    (hdep : dep ∈ outgoingDependencies project deps task.id) {c : Date}
    (hc : lateFinishCandidate calendar
      (runBackwardPass calendar project graph early finish) dep = some c) :
    ∃ bound, (runBackwardPass calendar project graph early finish task.id).finish = some bound ∧
      bound ≤ c := by
  obtain ⟨bound, hbound, -, hle⟩ := exists_min_candidate hdep hc
  rw [runBackwardPass_of_finishSide hsorted hmem hbound]
  exact ⟨bound, rfl, hle dep hdep c hc⟩

theorem runBackwardPass_start_le (hsorted : graph.Sorted project deps) {task : Task}
    (hmem : task ∈ project.tasks)
    (hsides : ∀ other ∈ outgoingDependencies project deps task.id, ¬ other.FinishSide)
    {dep : TaskDependency} (hdep : dep ∈ outgoingDependencies project deps task.id) {c : Date}
    (hc : lateStartCandidate calendar
      (runBackwardPass calendar project graph early finish) dep = some c) :
    ∃ bound, (runBackwardPass calendar project graph early finish task.id).start = some bound ∧
      bound ≤ c := by
  obtain ⟨bound, hbound, -, hle⟩ := exists_min_candidate hdep hc
  have hnone : (outgoingDependencies project deps task.id).filterMap (lateFinishCandidate calendar
      (runBackwardPass calendar project graph early finish)) = [] :=
    List.filterMap_eq_nil_iff.mpr fun other hother =>
      lateFinishCandidate_eq_none (hsides other hother)
  rw [runBackwardPass_of_startSide hsorted hmem hnone hbound]
  exact ⟨bound, rfl, hle dep hdep c hc⟩

/-- The latest dates respect every link out of a dated task, those with a missed bound included. -/
theorem runBackwardPass_linkRespected (hsorted : graph.Sorted project deps)
    (hlinks : DatedLinks project deps early)
    (hsafe : LinksSafe calendar project deps early finish) {dep : TaskDependency}
    (hdep : dep ∈ knownDependencies project deps) (hdated : (early dep.predecessorTaskId).Dated) :
    LinkRespected calendar (runBackwardPass calendar project graph early finish) dep := by
  obtain ⟨-, hpredId, hsuccId⟩ := mem_knownDependencies.mp hdep
  obtain ⟨pred, hpredMem, hpred, -⟩ := project.exists_of_mem_ids hpredId
  obtain ⟨succ, hsuccMem, hsucc, -⟩ := project.exists_of_mem_ids hsuccId
  have hout : dep ∈ outgoingDependencies project deps pred.id :=
    mem_outgoingDependencies.mpr ⟨hdep, hpred.symm⟩
  have hpredDated : (early pred.id).Dated := hpred ▸ hdated
  have hsuccDated : (early succ.id).Dated := hsucc ▸ hlinks.closed dep hdep hdated
  have hchain := @runBackwardPass_chain calendar _ _ _ early finish hsorted succ hsuccMem
  by_cases hmissed : BoundMissed calendar project deps finish dep pred succ
  · obtain ⟨sooner, hsooner, hkeeps⟩ :=
      hsafe.missed pred hpredMem hpredDated succ hsuccMem dep hout hsucc.symm hmissed _ hchain
    have hlast := hkeeps.mono (hsooner.sooner early hsorted hpredMem)
      (hchain.sooner early hsorted hsuccMem)
    rw [hpred, hsucc] at hlast
    exact hlast
  obtain ⟨lateStart, lateFinish, hlate, -, hstart, -, -, -⟩ :=
    hchain.spans hlinks hsafe.startOnly hsuccMem hsuccDated
  have hlag := hlinks.lags dep hdep
  unfold BoundMissed at hmissed
  push Not at hmissed
  obtain ⟨hsides, hworking⟩ := hmissed
  rw [hsucc] at hlate
  intro bound hbound
  rw [linkDate, ← hpred] at hbound
  cases htype : dep.dependencyType with
  | finishToStart =>
      have hc : lateFinishCandidate calendar (runBackwardPass calendar project graph early finish)
          dep = some (calendar.addWorkingDays lateStart (-(dep.lagDays + 1))) := by
        simp only [lateFinishCandidate, htype, hlate, Option.map_some]
      obtain ⟨f, hf, hle⟩ := runBackwardPass_finish_le hsorted hpredMem hout hc
      -- Some chain starts the successor on a working day, which is then the latest start or later.
      have hday : calendar.isWorkingDay lateStart = true := by
        obtain ⟨dates, hdates, other, hother, hotherDay⟩ := hworking htype
        have hle := hdates.sooner early hsorted hsuccMem
        obtain ⟨_, _, rfl, -, hnear, -, -, -⟩ := hdates.spans hlinks hsafe.startOnly hsuccMem hsuccDated
        rw [hsucc, hlate] at hle
        obtain ⟨_, _, _, _, hfirst, hsecond, hle, -⟩ := hle
        cases hfirst
        cases hsecond
        cases hother
        rcases hstart.2 with rfl | hday
        · rw [le_antisymm hle hnear.1]
          simpa using hotherDay
        · exact hday
      simp only [htype, hf, Option.map_some, Option.some.injEq] at hbound
      refine ⟨lateStart, by rw [hlate], ?_⟩
      calc bound = calendar.addWorkingDays f (dep.lagDays + 2) := hbound.symm
        _ ≤ calendar.addWorkingDays (calendar.addWorkingDays lateStart (-(dep.lagDays + 1)))
              (dep.lagDays + 2) := calendar.addWorkingDays_mono hle _
        _ = lateStart := calendar.addWorkingDays_neg_succ_add hday hlag
  | finishToFinish =>
      have hc : lateFinishCandidate calendar (runBackwardPass calendar project graph early finish)
          dep = some (calendar.addWorkingDays lateFinish (-dep.lagDays)) := by
        simp only [lateFinishCandidate, htype, hlate, Option.map_some]
      obtain ⟨f, hf, hle⟩ := runBackwardPass_finish_le hsorted hpredMem hout hc
      simp only [htype, hf, Option.map_some, Option.some.injEq] at hbound
      refine ⟨lateFinish, by rw [hlate], ?_⟩
      calc bound = calendar.addWorkingDays f dep.lagDays := hbound.symm
        _ ≤ _ := calendar.addWorkingDays_mono hle _
        _ ≤ lateFinish := calendar.addWorkingDays_neg_add_le lateFinish hlag
  | startToStart =>
      have hc : lateStartCandidate calendar (runBackwardPass calendar project graph early finish)
          dep = some (calendar.addWorkingDays lateStart (-dep.lagDays)) := by
        simp only [lateStartCandidate, htype, hlate, Option.map_some]
      have hside : ¬ dep.FinishSide := by simp [TaskDependency.FinishSide, htype]
      obtain ⟨d, hd, hle⟩ := runBackwardPass_start_le hsorted hpredMem (hsides hside) hout hc
      simp only [htype, hd, Option.map_some, Option.some.injEq] at hbound
      refine ⟨lateStart, by rw [hlate], ?_⟩
      calc bound = calendar.addWorkingDays d dep.lagDays := hbound.symm
        _ ≤ _ := calendar.addWorkingDays_mono hle _
        _ ≤ lateStart := calendar.addWorkingDays_neg_add_le lateStart hlag
  | startToFinish =>
      have hc : lateStartCandidate calendar (runBackwardPass calendar project graph early finish)
          dep = some (calendar.addWorkingDays lateFinish (-dep.lagDays)) := by
        simp only [lateStartCandidate, htype, hlate, Option.map_some]
      have hside : ¬ dep.FinishSide := by simp [TaskDependency.FinishSide, htype]
      obtain ⟨d, hd, hle⟩ := runBackwardPass_start_le hsorted hpredMem (hsides hside) hout hc
      simp only [htype, hd, Option.map_some, Option.some.injEq] at hbound
      refine ⟨lateFinish, by rw [hlate], ?_⟩
      calc bound = calendar.addWorkingDays d dep.lagDays := hbound.symm
        _ ≤ _ := calendar.addWorkingDays_mono hle _
        _ ≤ lateFinish := calendar.addWorkingDays_neg_add_le lateFinish hlag

theorem lateFeasible_of_backwardSafe (hsorted : graph.Sorted project deps)
    (hlinks : DatedLinks project deps early)
    (hsafe : BackwardSafe calendar project deps early finish) :
    LateFeasible calendar project deps early
      (runBackwardPass calendar project graph early finish) finish where
  dates task hmem hdated := by
    have hchain := @runBackwardPass_chain calendar _ _ _ early finish hsorted task hmem
    obtain ⟨start, bound, hdates, -, -, hbound, -, hspan⟩ :=
      hchain.spans hlinks hsafe.startOnly hmem hdated
    refine ⟨start, bound, hdates, hbound.1, (hspan ?_).trans ?_⟩
    · by_cases hduration : task.duration ≤ 0
      · exact Or.inl hduration
      · obtain ⟨dates, hother, day, hday, hworking⟩ :=
          hsafe.durations task hmem hdated (by omega)
        have hle := hother.sooner early hsorted hmem
        obtain ⟨_, _, rfl, -, -, hnear, -, -⟩ :=
          hother.spans hlinks hsafe.startOnly hmem hdated
        rw [hdates] at hle
        obtain ⟨_, _, _, _, hfirst, hsecond, -, hle⟩ := hle
        cases hfirst
        cases hsecond
        cases hday
        refine Or.inr (hbound.2.elim ?_ id)
        rintro rfl
        rwa [le_antisymm hle hnear.1]
    · by_cases hduration : task.duration ≤ 0
      · rw [finishFrom, if_pos hduration, if_neg (by omega)]
      · rw [finishFrom, if_neg hduration, if_pos (by omega)]
  links _ hdep hdated :=
    runBackwardPass_linkRespected hsorted hlinks hsafe.toLinksSafe hdep hdated

/-! ## What feasible dates say about the project -/

/-- The start-only branch counts one working day less than the forward pass. -/
theorem startOnly_of_lateFeasible (hsorted : graph.Sorted project deps)
    (hfeasible : LateFeasible calendar project deps early
      (runBackwardPass calendar project graph early finish) finish) {task : Task}
    (hmem : task ∈ project.tasks) (hdated : (early task.id).Dated)
    (hout : outgoingDependencies project deps task.id ≠ [])
    (hsides : ∀ dep ∈ outgoingDependencies project deps task.id, ¬ dep.FinishSide) :
    task.duration ≤ 1 := by
  by_contra hduration
  obtain ⟨dep, hdep⟩ := List.exists_mem_of_ne_nil _ hout
  obtain ⟨succ, hsuccMem, hid, -⟩ := exists_successor hdep
  obtain ⟨_, _, hlate⟩ :=
    (@runBackwardPass_chain calendar _ _ _ early finish hsorted succ hsuccMem).exists_dates
  rw [← hid] at hlate
  obtain ⟨c, hc⟩ := exists_lateStartCandidate (hsides dep hdep) hlate
  obtain ⟨bound, hbound, -⟩ := exists_min_candidate hdep hc
  have hnone : (outgoingDependencies project deps task.id).filterMap (lateFinishCandidate calendar
      (runBackwardPass calendar project graph early finish)) = [] :=
    List.filterMap_eq_nil_iff.mpr fun other hother =>
      lateFinishCandidate_eq_none (hsides other hother)
  obtain ⟨start, last, hdates, -, hspan⟩ := hfeasible.dates task hmem hdated
  rw [runBackwardPass_of_startSide hsorted hmem hnone hbound] at hdates
  obtain rfl : bound = start := Option.some.inj (congrArg TaskDates.start hdates)
  have hlast := Option.some.inj (congrArg TaskDates.finish hdates)
  rw [hspan, if_pos (by omega), if_pos (by omega),
    calendar.addWorkingDays_of_pos bound (by omega),
    calendar.addWorkingDays_of_pos bound (by omega)] at hlast
  -- The two spans end on neighbouring working days.
  have hlt : calendar.workingDay (calendar.position bound + (task.duration - 1) - 1) <
      calendar.workingDay (calendar.position bound + task.duration - 1) :=
    calendar.workingDay_lt_workingDay.mpr (by omega)
  exact hlt.ne hlast

theorem backwardSafe_of_lateFeasible (hsorted : graph.Sorted project deps)
    (hfeasible : LateFeasible calendar project deps early
      (runBackwardPass calendar project graph early finish) finish) :
    BackwardSafe calendar project deps early finish where
  startOnly task hmem hdated := startOnly_of_lateFeasible hsorted hfeasible hmem hdated
  durations task hmem hdated hduration := by
    obtain ⟨start, bound, hdates, -, hspan⟩ := hfeasible.dates task hmem hdated
    refine ⟨_, runBackwardPass_chain hsorted task hmem, bound, by rw [hdates]; rfl, ?_⟩
    rw [hspan, if_pos hduration]
    exact calendar.isWorkingDay_addWorkingDays start (by omega)
  missed pred hpred hdated succ hsucc dep hdep hid _ later hlater := by
    obtain ⟨hknown, hpredId⟩ := mem_outgoingDependencies.mp hdep
    have hchain := @runBackwardPass_chain calendar _ _ _ early finish hsorted pred hpred
    refine ⟨_, hchain, ?_⟩
    have hkeeps : dep.Keeps calendar
        (runBackwardPass calendar project graph early finish dep.predecessorTaskId)
        (runBackwardPass calendar project graph early finish dep.successorTaskId) :=
      hfeasible.links dep hknown (hpredId ▸ hdated)
    rw [hpredId, hid] at hkeeps
    exact hkeeps.mono (hchain.sooner early hsorted hpred) (hlater.sooner early hsorted hsucc)

/-! ## Late feasibility -/

theorem datedLinks_forwardDates (hsorted : graph.Sorted project deps)
    (hplanned : PlannedProject project deps) :
    DatedLinks project deps (forwardDates project graph (computeTaskDates calendar)) :=
  ⟨hplanned.lags, fun _ => dated_successor hsorted hplanned⟩

/-- The latest dates are a schedule of their own exactly when no bound that counts is missed or
misplaced. -/
theorem backwardPass_lateFeasible_iff (calendar : WorkCalendarEngine) (project : TasksById)
    (deps : List TaskDependency) (priority : Task → ℤ) (graph : DependencyGraph)
    (early : DateTable) (finish : Date) (hplanned : PlannedProject project deps)
    (hgraph : buildProjectDependencyGraph project priority deps = .ok graph)
    (hrun : runForwardPass project graph (computeTaskDates calendar) = .ok (early, finish)) :
    LateFeasible calendar project deps early
        (runBackwardPass calendar project graph early finish) finish ↔
      BackwardSafe calendar project deps early finish := by
  have hsorted := buildProjectDependencyGraph_sorted hgraph
  obtain ⟨rfl, -, -⟩ := runForwardPass_ok hrun
  exact ⟨backwardSafe_of_lateFeasible hsorted, lateFeasible_of_backwardSafe hsorted
    (datedLinks_forwardDates hsorted hplanned)⟩

theorem backwardPass_lateFeasible_iff_designAndReview : ∃ graph early finish,
    buildProjectDependencyGraph designAndReview priorityValue reviewAfterDesign = .ok graph ∧
    runForwardPass designAndReview graph (computeTaskDates weekdayCalendar) =
      .ok (early, finish) ∧
    BackwardSafe weekdayCalendar designAndReview reviewAfterDesign early finish := by
  refine ⟨_, _, _, rfl, rfl, ?_⟩
  refine (backwardPass_lateFeasible_iff weekdayCalendar designAndReview reviewAfterDesign
    priorityValue _ _ _ ⟨by decide, by decide, by decide⟩ rfl rfl).mp ⟨?_, ?_⟩
  · intro task hmem _
    rcases List.mem_cons.mp hmem with rfl | hmem
    · exact ⟨8, 10, by decide, by decide, by decide⟩
    · cases List.mem_singleton.mp hmem
      exact ⟨11, 11, by decide, by decide, by decide⟩
  · intro dep hdep _ bound hbound
    obtain rfl : dep = _ := List.mem_singleton.mp (List.mem_of_mem_filter hdep)
    obtain rfl : bound = 11 := Option.some.inj (hbound.symm.trans (by decide))
    exact ⟨11, by decide, le_rfl⟩

/-- The review may run alongside the design once that has started. -/
def reviewAlongsideDesign : List TaskDependency :=
  [{ id := "d", predecessorTaskId := "design", successorTaskId := "review",
     dependencyType := .startToStart }]

/-- The design ends on its third day, a Wednesday, but its latest finish is the
Thursday after. -/
theorem not_lateFeasible_reviewAlongsideDesign : ∃ graph early finish,
    PlannedProject designAndReview reviewAlongsideDesign ∧
    buildProjectDependencyGraph designAndReview priorityValue reviewAlongsideDesign =
      .ok graph ∧
    runForwardPass designAndReview graph (computeTaskDates weekdayCalendar) =
      .ok (early, finish) ∧
    finish = 10 ∧
    runBackwardPass weekdayCalendar designAndReview graph early finish "design" =
      ⟨some 10, some 11⟩ ∧
    ¬ LateFeasible weekdayCalendar designAndReview reviewAlongsideDesign early
      (runBackwardPass weekdayCalendar designAndReview graph early finish) finish := by
  refine ⟨_, _, _, ⟨by decide, by decide, by decide⟩, rfl, rfl, rfl, by decide, ?_⟩
  intro hfeasible
  obtain ⟨start, bound, hdates, hle, -⟩ := hfeasible.dates
    { id := "design", projectId := "p", name := "Design", startDate := some 8,
      durationDays := some 3 } (by decide) (by decide)
  obtain rfl : bound = 11 :=
    Option.some.inj ((congrArg TaskDates.finish hdates).symm.trans (by decide))
  exact absurd hle (by decide)

end

end ProjectManager
