import ProjectManager.Foundation.Calls
import ProjectManager.Scheduling.BackwardPass

/-! # Schedules that agree

The earliest and the latest dates of a project are the only solutions of their
equations, so they depend neither on the order of the links nor on their ids.
They stay the same where a task starts from the date that was computed for it.
-/

namespace ProjectManager

open Foundation

/-- A link without its id. -/
def TaskDependency.bare (dep : TaskDependency) : TaskDependency := { dep with id := "" }

/-- A maximum depends on the members of a list only. -/
theorem max?_congr {first second : List Date} (h : ∀ d, d ∈ first ↔ d ∈ second) :
    first.max? = second.max? := by
  cases hmax : second.max? with
  | none =>
      rw [List.max?_eq_none_iff] at hmax
      rw [List.max?_eq_none_iff, List.eq_nil_iff_forall_not_mem]
      intro d hd
      exact List.not_mem_nil (hmax ▸ (h d).mp hd)
  | some latest =>
      obtain ⟨hmem, hle⟩ := List.max?_eq_some_iff.mp hmax
      exact List.max?_eq_some_iff.mpr ⟨(h latest).mpr hmem, fun d hd => hle d ((h d).mp hd)⟩

theorem min?_congr {first second : List Date} (h : ∀ d, d ∈ first ↔ d ∈ second) :
    first.min? = second.min? := by
  cases hmin : second.min? with
  | none =>
      rw [List.min?_eq_none_iff] at hmin
      rw [List.min?_eq_none_iff, List.eq_nil_iff_forall_not_mem]
      intro d hd
      exact List.not_mem_nil (hmin ▸ (h d).mp hd)
  | some earliest =>
      obtain ⟨hmem, hle⟩ := List.min?_eq_some_iff.mp hmin
      exact List.min?_eq_some_iff.mpr ⟨(h earliest).mpr hmem, fun d hd => hle d ((h d).mp hd)⟩

theorem mem_filterMap_bare {first second : List TaskDependency}
    {candidate otherCandidate : TaskDependency → Option Date}
    (hbare : ∀ dep, otherCandidate dep.bare = otherCandidate dep)
    (hbare' : ∀ dep, candidate dep.bare = candidate dep)
    (hlinks : ∀ link, link ∈ second.map TaskDependency.bare ↔ link ∈ first.map TaskDependency.bare)
    (hagree : ∀ dep ∈ first, otherCandidate dep = candidate dep) (d : Date) :
    d ∈ second.filterMap otherCandidate ↔ d ∈ first.filterMap candidate := by
  have hmem : ∀ (deps : List TaskDependency) (f : TaskDependency → Option Date),
      (∀ dep, f dep.bare = f dep) →
      (d ∈ deps.filterMap f ↔ ∃ link ∈ deps.map TaskDependency.bare, f link = some d) := by
    intro deps f hf
    simp [hf]
  rw [hmem second _ hbare, hmem first _ hbare']
  refine exists_congr fun link => ?_
  rw [hlinks]
  refine and_congr_right fun hlink => ?_
  obtain ⟨dep, hdep, rfl⟩ := List.mem_map.mp hlink
  rw [hbare, hbare', hagree dep hdep]

section

variable (calendar : WorkCalendarEngine)

theorem inducedStart_congr {task other : Task} (hduration : other.duration = task.duration)
    {first second : DateTable} {dep : TaskDependency}
    (hagree : first dep.predecessorTaskId = second dep.predecessorTaskId) :
    inducedStart calendar other first dep = inducedStart calendar task second dep := by
  simp only [inducedStart, startCandidate, linkDate, hagree, hduration]

theorem latestInducedStart_congr {task other : Task} (hduration : other.duration = task.duration)
    {first second : List TaskDependency} {dates otherDates : DateTable}
    (hlinks : ∀ link, link ∈ second.map TaskDependency.bare ↔ link ∈ first.map TaskDependency.bare)
    (hagree : ∀ dep ∈ first, otherDates dep.predecessorTaskId = dates dep.predecessorTaskId) :
    latestInducedStart calendar other second otherDates =
      latestInducedStart calendar task first dates := by
  apply max?_congr
  apply mem_filterMap_bare (fun _ => rfl) (fun _ => rfl) hlinks
  intro dep hdep
  exact inducedStart_congr calendar hduration (hagree dep hdep)

end

/-- A task as it was, or started from the date that was computed for it. -/
structure Rescheduled (task other : Task) (start : Option Date) : Prop where
  id : other.id = task.id
  durationDays : other.durationDays = task.durationDays
  actualStart : other.actualStart = task.actualStart
  actualEnd : other.actualEnd = task.actualEnd
  startDate : other.startDate = task.startDate ∨
    (task.actualStart = none ∧ other.startDate = start)

theorem Rescheduled.duration {task other : Task} {start : Option Date}
    (h : Rescheduled task other start) : other.duration = task.duration := by
  unfold Task.duration
  rw [h.durationDays]

/-- An actual end fixes both dates, whatever the links ask. -/
theorem computeTaskDates_of_actualEnd (calendar : WorkCalendarEngine) {task other : Task}
    {start : Option Date} {finish : Date} (hsame : Rescheduled task other start)
    (hend : task.actualEnd = some finish) (incoming otherIncoming : List TaskDependency)
    (dates otherDates : DateTable) :
    computeTaskDates calendar other otherIncoming otherDates =
      computeTaskDates calendar task incoming dates := by
  simp only [computeTaskDates, applyActualConstraints, hsame.actualEnd, hsame.actualStart, hend,
    hsame.duration]

theorem computeTaskDates_rescheduled (calendar : WorkCalendarEngine) {task other : Task}
    {incoming otherIncoming : List TaskDependency} {dates otherDates : DateTable}
    (hend : task.actualEnd = none)
    (hsame : Rescheduled task other (computeTaskDates calendar task incoming dates).start)
    (hlatest : latestInducedStart calendar other otherIncoming otherDates =
      latestInducedStart calendar task incoming dates) :
    computeTaskDates calendar other otherIncoming otherDates =
      computeTaskDates calendar task incoming dates := by
  have hstart := hsame.startDate
  rw [computeTaskDates_eq calendar hend] at hstart ⊢
  rw [computeTaskDates_eq calendar (hsame.actualEnd.trans hend), hlatest, hsame.actualStart,
    hsame.duration]
  rcases hstart with hkept | ⟨hactual, hcomputed⟩
  · rw [hkept]
  · rw [hactual] at hcomputed ⊢
    rw [hcomputed]
    change datesFrom calendar task.duration (Option.or _ (Option.or _ _)) = datesFrom _ _ _
    rw [← Option.or_assoc, Option.or_self]
    rfl

/-- The same links between known tasks, whatever their ids and their order. -/
def SameLinks (project other : TasksById) (deps otherDeps : List TaskDependency) : Prop :=
  ∀ link, link ∈ (knownDependencies other otherDeps).map TaskDependency.bare ↔
    link ∈ (knownDependencies project deps).map TaskDependency.bare

/-- A choice that does not look at ids. -/
theorem mem_bare_filter {deps : List TaskDependency} {chosen : TaskDependency → Bool}
    (hbare : ∀ dep, chosen dep.bare = chosen dep) {link : TaskDependency} :
    link ∈ (deps.filter chosen).map TaskDependency.bare ↔
      link ∈ deps.map TaskDependency.bare ∧ chosen link = true := by
  constructor
  · intro hlink
    obtain ⟨dep, hdep, rfl⟩ := List.mem_map.mp hlink
    obtain ⟨hmem, hchosen⟩ := List.mem_filter.mp hdep
    exact ⟨List.mem_map_of_mem hmem, (hbare dep).trans hchosen⟩
  · rintro ⟨hlink, hchosen⟩
    obtain ⟨dep, hdep, rfl⟩ := List.mem_map.mp hlink
    exact List.mem_map_of_mem (List.mem_filter.mpr ⟨hdep, (hbare dep).symm.trans hchosen⟩)

theorem SameLinks.filter {project other : TasksById} {deps otherDeps : List TaskDependency}
    (h : SameLinks project other deps otherDeps) {chosen : TaskDependency → Bool}
    (hbare : ∀ dep, chosen dep.bare = chosen dep) (link : TaskDependency) :
    link ∈ ((knownDependencies other otherDeps).filter chosen).map TaskDependency.bare ↔
      link ∈ ((knownDependencies project deps).filter chosen).map TaskDependency.bare := by
  rw [mem_bare_filter hbare, mem_bare_filter hbare, h]

theorem isEmpty_of_same_bare {first second : List TaskDependency}
    (h : ∀ link, link ∈ second.map TaskDependency.bare ↔ link ∈ first.map TaskDependency.bare) :
    second.isEmpty = first.isEmpty := by
  have hempty : ∀ deps : List TaskDependency,
      deps.isEmpty = true ↔ ∀ link, link ∉ deps.map TaskDependency.bare := by
    intro deps
    rw [List.isEmpty_iff, ← List.eq_nil_iff_forall_not_mem, List.map_eq_nil_iff]
  rw [Bool.eq_iff_iff, hempty, hempty]
  exact forall_congr' fun link => not_congr (h link)

section

variable {calendar : WorkCalendarEngine} {project other : TasksById}
  {deps otherDeps : List TaskDependency} {graph otherGraph : DependencyGraph}

theorem forwardDates_agree (hsorted : graph.Sorted project deps)
    (hother : otherGraph.Sorted other otherDeps)
    (hlinks : SameLinks project other deps otherDeps)
    (htasks : ∀ task ∈ project.tasks, ∃ rescheduled ∈ other.tasks, Rescheduled task rescheduled
      (forwardDates project graph (computeTaskDates calendar) task.id).start) :
    ∀ id ∈ project.ids,
      forwardDates other otherGraph (computeTaskDates calendar) id =
        forwardDates project graph (computeTaskDates calendar) id := by
  have hall := hsorted.predecessorsEarlier.induction
    (fun id => forwardDates other otherGraph (computeTaskDates calendar) id =
      forwardDates project graph (computeTaskDates calendar) id) ?_
  · intro id hid
    exact hall id (hsorted.perm.mem_iff.mpr hid)
  intro id hid hearlier
  obtain ⟨task, htask, rfl, -⟩ := project.exists_of_mem_ids (hsorted.perm.mem_iff.mp hid)
  obtain ⟨rescheduled, hmem, hsame⟩ := htasks task htask
  have hdates := forwardDates_eq hsorted (computeTaskDates_predecessorsOnly calendar) htask
  have hotherDates := forwardDates_eq hother (computeTaskDates_predecessorsOnly calendar) hmem
  rw [hsame.id] at hotherDates
  rw [hotherDates, hdates]
  rw [hdates] at hsame
  cases hend : task.actualEnd with
  | some finish => exact computeTaskDates_of_actualEnd calendar hsame hend _ _ _ _
  | none =>
      apply computeTaskDates_rescheduled calendar hend hsame
      rw [hsorted.depsBySuccessor, hother.depsBySuccessor]
      apply latestInducedStart_congr calendar hsame.duration
      · exact hlinks.filter fun _ => rfl
      · intro dep hdep
        obtain ⟨hknown, hsucc⟩ := List.mem_filter.mp hdep
        have hpred := (mem_knownDependencies.mp hknown).2.1
        exact hearlier _ (hsorted.perm.mem_iff.mpr hpred)
          ⟨dep, hknown, rfl, of_decide_eq_true hsucc⟩

section

variable {task rescheduled : Task} {start : Option Date}

theorem backwardRule_congr {early otherEarly late otherLate : DateTable} {own : TaskDates}
    (htask : task ∈ project.tasks) (hrescheduled : rescheduled ∈ other.tasks)
    (hsame : Rescheduled task rescheduled start)
    (hlinks : ∀ link, link ∈ (otherGraph.depsByPredecessor task.id).map TaskDependency.bare ↔
      link ∈ (graph.depsByPredecessor task.id).map TaskDependency.bare)
    (hearly : otherEarly task.id = early task.id)
    (hlate : ∀ dep ∈ graph.depsByPredecessor task.id,
      otherLate dep.successorTaskId = late dep.successorTaskId) :
    backwardRule calendar other otherGraph otherEarly task.id own otherLate =
      backwardRule calendar project graph early task.id own late := by
  have hget : other.get? task.id = some rescheduled := by
    rw [← hsame.id]
    exact other.get?_of_mem hrescheduled
  have hfinish : ((otherGraph.depsByPredecessor task.id).filterMap
      (lateFinishCandidate calendar otherLate)).min? =
      ((graph.depsByPredecessor task.id).filterMap (lateFinishCandidate calendar late)).min? := by
    apply min?_congr
    apply mem_filterMap_bare (fun _ => rfl) (fun _ => rfl) hlinks
    intro dep hdep
    simp only [lateFinishCandidate, hlate dep hdep]
  have hstart : ((otherGraph.depsByPredecessor task.id).filterMap
      (lateStartCandidate calendar otherLate)).min? =
      ((graph.depsByPredecessor task.id).filterMap (lateStartCandidate calendar late)).min? := by
    apply min?_congr
    apply mem_filterMap_bare (fun _ => rfl) (fun _ => rfl) hlinks
    intro dep hdep
    simp only [lateStartCandidate, hlate dep hdep]
  unfold backwardRule
  rw [hget, project.get?_of_mem htask]
  simp only [isEmpty_of_same_bare hlinks, hfinish, hstart, hearly, hsame.duration]

theorem endTaskDates_congr {finish : Date} (htask : task ∈ project.tasks)
    (hrescheduled : rescheduled ∈ other.tasks) (hsame : Rescheduled task rescheduled start)
    (hlinks : ∀ link, link ∈ (otherGraph.depsByPredecessor task.id).map TaskDependency.bare ↔
      link ∈ (graph.depsByPredecessor task.id).map TaskDependency.bare) :
    endTaskDates calendar other otherGraph finish task.id =
      endTaskDates calendar project graph finish task.id := by
  have hget : other.get? task.id = some rescheduled := by
    rw [← hsame.id]
    exact other.get?_of_mem hrescheduled
  unfold endTaskDates
  rw [hget, project.get?_of_mem htask]
  simp only [isEmpty_of_same_bare hlinks, hsame.duration]

end

variable (calendar) in
/-- With the same earliest dates they get the same latest dates. -/
theorem backwardDates_agree {early otherEarly : DateTable} (finish : Date)
    (hsorted : graph.Sorted project deps) (hother : otherGraph.Sorted other otherDeps)
    (hlinks : SameLinks project other deps otherDeps)
    (htasks : ∀ task ∈ project.tasks, ∃ rescheduled ∈ other.tasks, Rescheduled task rescheduled
      (early task.id).start)
    (hearly : ∀ id ∈ project.ids, otherEarly id = early id) :
    ∀ id ∈ project.ids, runBackwardPass calendar other otherGraph otherEarly finish id =
      runBackwardPass calendar project graph early finish id := by
  have hall := (hsorted.predecessorsEarlier.reverse hsorted.nodup).induction
    (fun id => runBackwardPass calendar other otherGraph otherEarly finish id =
      runBackwardPass calendar project graph early finish id) ?_
  · intro id hid
    exact hall id (List.mem_reverse.mpr (hsorted.perm.mem_iff.mpr hid))
  intro id hid hlater
  obtain ⟨task, htask, rfl, -⟩ :=
    project.exists_of_mem_ids (hsorted.perm.mem_iff.mp (List.mem_reverse.mp hid))
  obtain ⟨rescheduled, hmem, hsame⟩ := htasks task htask
  have hsameLinks : ∀ link,
      link ∈ (otherGraph.depsByPredecessor task.id).map TaskDependency.bare ↔
        link ∈ (graph.depsByPredecessor task.id).map TaskDependency.bare := by
    rw [hsorted.depsByPredecessor, hother.depsByPredecessor]
    exact hlinks.filter fun _ => rfl
  rw [runBackwardPass_eq hsorted htask, ← hsame.id, runBackwardPass_eq hother hmem, hsame.id,
    endTaskDates_congr htask hmem hsame hsameLinks]
  apply backwardRule_congr htask hmem hsame hsameLinks (hearly _ (project.mem_ids htask))
  intro dep hdep
  rw [hsorted.depsByPredecessor] at hdep
  obtain ⟨hknown, hpred⟩ := mem_outgoingDependencies.mp hdep
  have hsucc := (mem_knownDependencies.mp hknown).2.2
  exact hlater _ (List.mem_reverse.mpr (hsorted.perm.mem_iff.mpr hsucc))
    ⟨dep, hknown, hpred, rfl⟩

theorem SameLinks.acyclic (hlinks : SameLinks project other deps otherDeps)
    (hacyclic : AcyclicDependencies project deps) : AcyclicDependencies other otherDeps := by
  have hprecedes : ∀ (project : TasksById) deps pred succ, Precedes project deps pred succ ↔
      ∃ link ∈ (knownDependencies project deps).map TaskDependency.bare,
        link.predecessorTaskId = pred ∧ link.successorTaskId = succ := by
    intro project deps pred succ
    simp [Precedes, TaskDependency.bare]
  have hsame : Precedes other otherDeps = Precedes project deps := by
    funext pred succ
    rw [eq_iff_iff, hprecedes, hprecedes]
    exact exists_congr fun link => and_congr_left' (hlinks link)
  unfold AcyclicDependencies at hacyclic ⊢
  rw [hsame]
  exact hacyclic

end

/-! ## The schedules -/

theorem Rescheduled.refl (task : Task) (start : Option Date) : Rescheduled task task start :=
  ⟨rfl, rfl, rfl, rfl, Or.inl rfl⟩

section

variable {calendar : WorkCalendarEngine} {project other : TasksById}
  {deps otherDeps : List TaskDependency}

theorem exists_forwardPass_of_schedule {infos : List CPMTaskInfo}
    (h : recalculateProjectSchedule calendar project deps = .ok infos)
    (htasks : project.tasks ≠ []) :
    ∃ graph finish late, graph.Sorted project deps ∧
      runForwardPass project graph (computeTaskDates calendar) =
        .ok (forwardDates project graph (computeTaskDates calendar), finish) ∧
      late = runBackwardPass calendar project graph
        (forwardDates project graph (computeTaskDates calendar)) finish ∧
      infos = buildScheduleResult calendar project
        (forwardDates project graph (computeTaskDates calendar)) late := by
  unfold recalculateProjectSchedule at h
  rw [if_neg (by rw [List.isEmpty_iff]; exact htasks)] at h
  obtain ⟨graph, hgraph, h⟩ := bind_ok h
  obtain ⟨⟨early, finish⟩, hforward, h⟩ := bind_ok h
  obtain ⟨rfl, -, -⟩ := runForwardPass_ok hforward
  exact ⟨graph, finish, _, buildProjectDependencyGraph_sorted hgraph, hforward, rfl,
    (Except.ok.inj h).symm⟩

/-- Tasks that are rescheduled to their computed dates can be scheduled again, with the same
dates. -/
theorem recalculateProjectSchedule_agree {early late : DateTable}
    (h : recalculateProjectSchedule calendar project deps =
      .ok (buildScheduleResult calendar project early late))
    (htasks : project.tasks ≠ []) (hids : ∀ id, id ∈ other.ids ↔ id ∈ project.ids)
    (hlinks : SameLinks project other deps otherDeps)
    (hrescheduled : ∀ task ∈ project.tasks, ∃ rescheduled ∈ other.tasks,
      Rescheduled task rescheduled (early task.id).start) :
    ∃ otherEarly otherLate, recalculateProjectSchedule calendar other otherDeps =
        .ok (buildScheduleResult calendar other otherEarly otherLate) ∧
      ∀ id ∈ project.ids, otherEarly id = early id ∧ otherLate id = late id := by
  obtain ⟨graph, finish, _, hsorted, hforward, rfl, hinfos⟩ :=
    exists_forwardPass_of_schedule h htasks
  have hearly : ∀ task ∈ project.tasks,
      early task.id = forwardDates project graph (computeTaskDates calendar) task.id := by
    intro task htask
    have hinfo := List.map_inj_left.mp hinfos task htask
    have hstart := congrArg CPMTaskInfo.earliestStart hinfo
    have hfinish := congrArg CPMTaskInfo.earliestFinish hinfo
    exact congrArg₂ TaskDates.mk hstart hfinish
  have hlate : ∀ task ∈ project.tasks, late task.id = runBackwardPass calendar project graph
      (forwardDates project graph (computeTaskDates calendar)) finish task.id := by
    intro task htask
    have hinfo := List.map_inj_left.mp hinfos task htask
    have hstart := congrArg CPMTaskInfo.latestStart hinfo
    have hfinish := congrArg CPMTaskInfo.latestFinish hinfo
    exact congrArg₂ TaskDates.mk hstart hfinish
  obtain ⟨otherGraph, hotherGraph⟩ :
      ∃ graph, buildProjectDependencyGraph other priorityValue otherDeps = .ok graph :=
    exists_buildProjectDependencyGraph priorityValue (hlinks.acyclic hsorted.acyclic)
  have hother := buildProjectDependencyGraph_sorted hotherGraph
  have htasks' : ∀ task ∈ project.tasks, ∃ rescheduled ∈ other.tasks, Rescheduled task rescheduled
      (forwardDates project graph (computeTaskDates calendar) task.id).start :=
    fun task htask => hearly task htask ▸ hrescheduled task htask
  have hagree := forwardDates_agree hsorted hother hlinks htasks'
  have hlateAgree := backwardDates_agree calendar finish hsorted hother hlinks htasks' hagree
  obtain ⟨-, ⟨task, htask, hfinish⟩, hlatest⟩ := runForwardPass_ok hforward
  -- The other project has the ids of this one, so it finishes on the same day.
  have hmem : ∀ otherTask ∈ other.tasks, ∃ task ∈ project.tasks, task.id = otherTask.id ∧
      forwardDates other otherGraph (computeTaskDates calendar) otherTask.id =
        forwardDates project graph (computeTaskDates calendar) task.id := by
    intro otherTask hotherTask
    have hid : otherTask.id ∈ project.ids := (hids _).mp (other.mem_ids hotherTask)
    obtain ⟨task, htask, heq⟩ := List.mem_map.mp hid
    exact ⟨task, htask, heq, (hagree _ hid).trans (by rw [heq])⟩
  have hotherForward : runForwardPass other otherGraph (computeTaskDates calendar) =
      .ok (forwardDates other otherGraph (computeTaskDates calendar), finish) := by
    apply runForwardPass_eq_ok
    · have hid : task.id ∈ other.ids := (hids _).mpr (project.mem_ids htask)
      obtain ⟨otherTask, hotherTask, heq⟩ := List.mem_map.mp hid
      refine ⟨otherTask, hotherTask, ?_⟩
      rw [heq, hagree _ (project.mem_ids htask)]
      exact hfinish
    · intro otherTask hotherTask d hd
      obtain ⟨task, htask, -, heq⟩ := hmem otherTask hotherTask
      exact hlatest task htask d (heq ▸ hd)
  have hotherTasks : ¬ other.tasks.isEmpty = true := by
    rw [List.isEmpty_iff]
    obtain ⟨otherTask, hotherTask, -⟩ :=
      other.exists_of_mem_ids ((hids _).mpr (project.mem_ids htask))
    exact List.ne_nil_of_mem hotherTask
  refine ⟨forwardDates other otherGraph (computeTaskDates calendar),
    runBackwardPass calendar other otherGraph
      (forwardDates other otherGraph (computeTaskDates calendar)) finish, ?_, ?_⟩
  · unfold recalculateProjectSchedule
    rw [if_neg hotherTasks, hotherGraph]
    change (runForwardPass other otherGraph (computeTaskDates calendar) >>= _) = _
    rw [hotherForward]
    rfl
  · intro id hid
    obtain ⟨task, htask, rfl⟩ := List.mem_map.mp hid
    rw [hagree _ hid, hearly task htask, hlateAgree _ hid, hlate task htask]
    exact ⟨rfl, rfl⟩

end

end ProjectManager
