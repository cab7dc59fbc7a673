import ProjectManager.Tasks.StoredSchedules

/-! # Dates that chains of links force

A chain of links carries a date of its first task to its last. The earliest
dates of a task are the latest that any chain gives it.
-/

namespace ProjectManager

open Foundation Relation

def endedDates (calendar : WorkCalendarEngine) (task : Task) (finish : Date) : TaskDates where
  start := some (task.actualStart.getD (if task.duration > 0 then
    calendar.addWorkingDays finish (-(task.duration - 1)) else finish))
  finish := some finish

/-- A chain of links leads to the task from one that has a date. -/
def DatedBefore (project : TasksById) (deps : List TaskDependency) (id : String) : Prop :=
  ∃ task ∈ project.tasks, task.HasDate ∧ ReflTransGen (Precedes project deps) task.id id

/-- What a chain of links gives a task as its dates. The start date of a task counts where no
chain leads to its predecessors. -/
inductive Forces (calendar : WorkCalendarEngine) (project : TasksById)
    (deps : List TaskDependency) : String → TaskDates → Prop
  | ended {task : Task} {finish : Date} (htask : task ∈ project.tasks)
      (hend : task.actualEnd = some finish) :
      Forces calendar project deps task.id (endedDates calendar task finish)
  | started {task : Task} {start : Date} (htask : task ∈ project.tasks)
      (hend : task.actualEnd = none) (hstart : task.actualStart = some start) :
      Forces calendar project deps task.id (datesFrom calendar task.duration (some start))
  | planned {task : Task} {start : Date} (htask : task ∈ project.tasks)
      (hend : task.actualEnd = none) (hstart : task.startDate = some start)
      (hfree : ∀ dep ∈ knownDependencies project deps, dep.successorTaskId = task.id →
        ¬ DatedBefore project deps dep.predecessorTaskId) :
      Forces calendar project deps task.id (datesFrom calendar task.duration (some start))
  | linked {task : Task} {dep : TaskDependency} {dates : TaskDates} {start : Date}
      (htask : task ∈ project.tasks) (hend : task.actualEnd = none)
      (hdep : dep ∈ knownDependencies project deps) (hsucc : dep.successorTaskId = task.id)
      (hpred : Forces calendar project deps dep.predecessorTaskId dates)
      (hinduced : inducedStart calendar task (fun _ => dates) dep = some start) :
      Forces calendar project deps task.id (datesFrom calendar task.duration (some start))

/-! ## The order of dates -/

/-- Every date that is given has one that is not earlier. -/
def NotAfter (first second : Option Date) : Prop := ∀ d ∈ first, ∃ e ∈ second, d ≤ e

structure TaskDates.NotAfter (first second : TaskDates) : Prop where
  start : ProjectManager.NotAfter first.start second.start
  finish : ProjectManager.NotAfter first.finish second.finish

theorem NotAfter.refl (date : Option Date) : NotAfter date date :=
  fun d hd => ⟨d, hd, le_rfl⟩

theorem TaskDates.NotAfter.refl (dates : TaskDates) : dates.NotAfter dates :=
  ⟨.refl _, .refl _⟩

theorem NotAfter.trans {first second third : Option Date} (h : NotAfter first second)
    (hnext : NotAfter second third) : NotAfter first third := by
  intro d hd
  obtain ⟨e, he, hle⟩ := h d hd
  obtain ⟨last, hlast, hle'⟩ := hnext e he
  exact ⟨last, hlast, hle.trans hle'⟩

theorem NotAfter.map {first second : Option Date} (h : NotAfter first second) {f : Date → Date}
    (hf : ∀ d e, d ≤ e → f d ≤ f e) : NotAfter (first.map f) (second.map f) := by
  intro d hd
  obtain ⟨source, hsource, rfl⟩ := Option.map_eq_some_iff.mp hd
  obtain ⟨e, he, hle⟩ := h source hsource
  exact ⟨f e, Option.map_eq_some_iff.mpr ⟨e, he, rfl⟩, hf _ _ hle⟩

section

variable {calendar : WorkCalendarEngine}

theorem datesFrom_notAfter {duration : ℤ} {first second : Option Date}
    (h : NotAfter first second) :
    (datesFrom calendar duration first).NotAfter (datesFrom calendar duration second) :=
  ⟨h, h.map fun _ _ hle => finishFrom_mono hle⟩

theorem linkDate_notAfter {dates later : DateTable} {dep : TaskDependency}
    (h : (dates dep.predecessorTaskId).NotAfter (later dep.predecessorTaskId)) :
    NotAfter (linkDate calendar dates dep) (linkDate calendar later dep) := by
  have hmono : ∀ n : ℤ, ∀ d e : Date, d ≤ e →
      calendar.addWorkingDays d n ≤ calendar.addWorkingDays e n :=
    fun n _ _ hle => calendar.addWorkingDays_mono hle n
  unfold linkDate
  cases dep.dependencyType with
  | finishToStart => exact h.finish.map (hmono _)
  | startToStart => exact h.start.map (hmono _)
  | finishToFinish => exact h.finish.map (hmono _)
  | startToFinish => exact h.start.map (hmono _)

theorem inducedStart_notAfter {task : Task} {dates later : DateTable} {dep : TaskDependency}
    (h : (dates dep.predecessorTaskId).NotAfter (later dep.predecessorTaskId)) :
    NotAfter (inducedStart calendar task dates dep) (inducedStart calendar task later dep) := by
  have hlink : NotAfter (linkDate calendar dates dep) (linkDate calendar later dep) :=
    linkDate_notAfter h
  have hback : NotAfter ((linkDate calendar dates dep).map fun finish =>
      if task.duration > 0 then calendar.addWorkingDays finish (-(task.duration - 1)) else finish)
      ((linkDate calendar later dep).map fun finish =>
        if task.duration > 0 then calendar.addWorkingDays finish (-(task.duration - 1))
        else finish) := by
    apply hlink.map
    intro d e hle
    split
    · exact calendar.addWorkingDays_mono hle _
    · exact hle
  unfold inducedStart startCandidate
  split
  · exact hlink
  · cases dep.dependencyType with
    | finishToStart => exact hlink
    | startToStart => exact hlink
    | finishToFinish => exact hback
    | startToFinish => exact hback

theorem inducedStart_isSome {task : Task} {dates : DateTable} {dep : TaskDependency}
    (hstart : (dates dep.predecessorTaskId).start.isSome)
    (hfinish : (dates dep.predecessorTaskId).finish.isSome) :
    (inducedStart calendar task dates dep).isSome := by
  have hlink : (linkDate calendar dates dep).isSome := by
    unfold linkDate
    cases dep.dependencyType <;> simp [hstart, hfinish]
  unfold inducedStart startCandidate
  split
  · exact hlink
  · cases dep.dependencyType <;> simp [hlink]

theorem inducedStart_of_undated {task : Task} {dates : DateTable} {dep : TaskDependency}
    (h : dates dep.predecessorTaskId = .undated) : inducedStart calendar task dates dep = none := by
  have hlink : linkDate calendar dates dep = none := by
    unfold linkDate
    rw [h]
    cases dep.dependencyType <;> rfl
  unfold inducedStart startCandidate
  rw [hlink]
  cases dep.dependencyType <;> simp

theorem le_latestInducedStart {task : Task} {incoming : List TaskDependency} {dates : DateTable}
    {dep : TaskDependency} (hdep : dep ∈ incoming) :
    NotAfter (inducedStart calendar task dates dep)
      (latestInducedStart calendar task incoming dates) := by
  intro d hd
  have hmem : d ∈ incoming.filterMap (inducedStart calendar task dates) :=
    List.mem_filterMap.mpr ⟨dep, hdep, hd⟩
  obtain ⟨latest, hlatest⟩ := Option.isSome_iff_exists.mp (List.isSome_max?_of_mem hmem)
  exact ⟨latest, hlatest, (List.max?_eq_some_iff.mp hlatest).2 d hmem⟩

theorem notAfter_delayToActualStart (actualStart start : Option Date) :
    NotAfter start (delayToActualStart actualStart start) :=
  fun _ hd => le_delayToActualStart actualStart hd

theorem actualStart_notAfter (actualStart start : Option Date) :
    NotAfter actualStart (delayToActualStart actualStart start) := by
  rintro actual rfl
  unfold delayToActualStart
  dsimp only
  split
  · exact ⟨actual, rfl, le_rfl⟩
  next hlater =>
    cases start with
    | none => simp at hlater
    | some computed => exact ⟨computed, rfl, by simpa using hlater⟩

theorem delayToActualStart_eq_some {actualStart start : Option Date} {d : Date}
    (h : delayToActualStart actualStart start = some d) : actualStart = some d ∨ start = some d := by
  unfold delayToActualStart at h
  split at h
  · exact Or.inr h
  · split at h
    · exact Or.inl h
    · exact Or.inr h

theorem notAfter_of_link {task : Task} {incoming : List TaskDependency} {dates : DateTable}
    {dep : TaskDependency} {start : Option Date} (hend : task.actualEnd = none)
    (hdep : dep ∈ incoming) (hstart : NotAfter start (inducedStart calendar task dates dep)) :
    (datesFrom calendar task.duration start).NotAfter
      (computeTaskDates calendar task incoming dates) := by
  rw [computeTaskDates_eq calendar hend]
  apply datesFrom_notAfter
  refine NotAfter.trans ?_ (notAfter_delayToActualStart _ _)
  refine (hstart.trans (le_latestInducedStart hdep)).trans ?_
  rintro latest hlatest
  exact ⟨latest, by rw [Option.or_of_isSome (Option.isSome_of_eq_some hlatest)]; exact hlatest,
    le_rfl⟩

theorem computeTaskDates_ended {task : Task} {finish : Date} (hend : task.actualEnd = some finish)
    (incoming : List TaskDependency) (dates : DateTable) :
    computeTaskDates calendar task incoming dates = endedDates calendar task finish := by
  cases hstart : task.actualStart <;>
    simp [computeTaskDates, applyActualConstraints, endedDates, hend, hstart]

end

/-! ## The earliest dates are the latest forced ones -/

section

variable {calendar : WorkCalendarEngine} {project : TasksById} {deps : List TaskDependency}
  {graph : DependencyGraph}

theorem DependencyGraph.Sorted.mem_depsBySuccessor (hsorted : graph.Sorted project deps)
    {id : String} {dep : TaskDependency} : dep ∈ graph.depsBySuccessor id ↔
      dep ∈ knownDependencies project deps ∧ dep.successorTaskId = id := by
  rw [hsorted.depsBySuccessor]
  simp

/-- No chain of links gives a date to a task without one before it. -/
theorem forwardDates_undated (hsorted : graph.Sorted project deps) {id : String}
    (hid : id ∈ project.ids) (hundated : ¬ DatedBefore project deps id) :
    forwardDates project graph (computeTaskDates calendar) id = .undated := by
  have hall := hsorted.predecessorsEarlier.induction (fun id => ¬ DatedBefore project deps id →
    forwardDates project graph (computeTaskDates calendar) id = .undated) ?_
  · exact hall id (hsorted.perm.mem_iff.mpr hid) hundated
  intro id hid hearlier hundated
  obtain ⟨task, htask, rfl, -⟩ := project.exists_of_mem_ids (hsorted.perm.mem_iff.mp hid)
  have hnone : ¬ task.HasDate := fun hdate => hundated ⟨task, htask, hdate, .refl⟩
  rw [forwardDates_eq hsorted (computeTaskDates_predecessorsOnly calendar) htask]
  have hpreds : computeTaskDates calendar task (graph.depsBySuccessor task.id)
      (forwardDates project graph (computeTaskDates calendar)) =
      computeTaskDates calendar task (graph.depsBySuccessor task.id) fun _ => .undated := by
    apply computeTaskDates_predecessorsOnly
    intro dep hdep
    obtain ⟨hknown, hsucc⟩ := hsorted.mem_depsBySuccessor.mp hdep
    have hedge : Precedes project deps dep.predecessorTaskId task.id := ⟨dep, hknown, rfl, hsucc⟩
    have hpred := (mem_knownDependencies.mp hknown).2.1
    apply hearlier _ (hsorted.perm.mem_iff.mpr hpred) hedge
    rintro ⟨source, hsource, hdate, hpath⟩
    exact hundated ⟨source, hsource, hdate, hpath.tail hedge⟩
  rw [hpreds]
  exact computeTaskDates_undated calendar hnone _

variable (calendar) in
theorem forwardDates_dated (hsorted : graph.Sorted project deps) {id : String}
    (hdated : DatedBefore project deps id) :
    (forwardDates project graph (computeTaskDates calendar) id).start.isSome ∧
      (forwardDates project graph (computeTaskDates calendar) id).finish.isSome := by
  -- Of a task in the project either both dates are set or none.
  have hboth : ∀ task ∈ project.tasks,
      (forwardDates project graph (computeTaskDates calendar) task.id).start.isSome =
        (forwardDates project graph (computeTaskDates calendar) task.id).finish.isSome := by
    intro task htask
    rw [forwardDates_eq hsorted (computeTaskDates_predecessorsOnly calendar) htask]
    cases hend : task.actualEnd with
    | some finish =>
        rw [computeTaskDates_ended hend]
        rfl
    | none =>
        rw [computeTaskDates_eq calendar hend]
        exact (Option.isSome_map).symm
  obtain ⟨source, hsource, hdate, hpath⟩ := hdated
  induction hpath with
  | refl =>
      have hfinish := computeTaskDates_finish calendar hdate (graph.depsBySuccessor source.id)
        (forwardDates project graph (computeTaskDates calendar))
      rw [← forwardDates_eq hsorted (computeTaskDates_predecessorsOnly calendar) hsource] at hfinish
      exact ⟨(hboth source hsource).trans hfinish, hfinish⟩
  | tail hpath hedge ih =>
      obtain ⟨dep, hknown, rfl, rfl⟩ := hedge
      obtain ⟨task, htask, hid, -⟩ :=
        project.exists_of_mem_ids (mem_knownDependencies.mp hknown).2.2
      have hstart : (forwardDates project graph (computeTaskDates calendar)
          task.id).start.isSome := by
        rw [forwardDates_eq hsorted (computeTaskDates_predecessorsOnly calendar) htask]
        cases hend : task.actualEnd with
        | some finish =>
            rw [computeTaskDates_ended hend]
            rfl
        | none =>
            have hdep : dep ∈ graph.depsBySuccessor task.id :=
              hsorted.mem_depsBySuccessor.mpr ⟨hknown, hid.symm⟩
            obtain ⟨induced, hinduced⟩ : ∃ induced, inducedStart calendar task
                (forwardDates project graph (computeTaskDates calendar)) dep = some induced :=
              Option.isSome_iff_exists.mp (inducedStart_isSome ih.1 ih.2)
            obtain ⟨start, hstart, -⟩ :=
              (notAfter_of_link hend hdep (.refl _)).start induced hinduced
            exact Option.isSome_of_eq_some hstart
      rw [← hid]
      exact ⟨hstart, (hboth task htask) ▸ hstart⟩

/-- What a chain gives a task is not after its earliest dates. -/
theorem Forces.notAfter (hsorted : graph.Sorted project deps) {id : String} {dates : TaskDates}
    (h : Forces calendar project deps id dates) :
    dates.NotAfter (forwardDates project graph (computeTaskDates calendar) id) := by
  induction h with
  | ended htask hend =>
      rw [forwardDates_eq hsorted (computeTaskDates_predecessorsOnly calendar) htask,
        computeTaskDates_ended hend]
      exact .refl _
  | started htask hend hstart =>
      rw [forwardDates_eq hsorted (computeTaskDates_predecessorsOnly calendar) htask,
        computeTaskDates_eq calendar hend, ← hstart]
      exact datesFrom_notAfter (actualStart_notAfter _ _)
  | @planned task start htask hend hstart hfree =>
      have hlatest : latestInducedStart calendar task (graph.depsBySuccessor task.id)
          (forwardDates project graph (computeTaskDates calendar)) = none := by
        unfold latestInducedStart
        rw [List.max?_eq_none_iff, List.filterMap_eq_nil_iff]
        intro dep hdep
        obtain ⟨hknown, hsucc⟩ := hsorted.mem_depsBySuccessor.mp hdep
        apply inducedStart_of_undated
        exact forwardDates_undated hsorted (mem_knownDependencies.mp hknown).2.1
          (hfree dep hknown hsucc)
      rw [forwardDates_eq hsorted (computeTaskDates_predecessorsOnly calendar) htask,
        computeTaskDates_eq calendar hend, hlatest, Option.none_or, hstart]
      exact datesFrom_notAfter (notAfter_delayToActualStart _ _)
  | @linked task dep dates start htask hend hdep hsucc hpred hinduced ih =>
      rw [forwardDates_eq hsorted (computeTaskDates_predecessorsOnly calendar) htask]
      apply notAfter_of_link hend (hsorted.mem_depsBySuccessor.mpr ⟨hdep, hsucc⟩)
      rw [← hinduced]
      exact inducedStart_notAfter ih

/-- A chain of links gives a task its earliest dates. -/
theorem forces_forwardDates (hsorted : graph.Sorted project deps) {id : String}
    (hid : id ∈ project.ids)
    (hdated : (forwardDates project graph (computeTaskDates calendar) id).start.isSome) :
    Forces calendar project deps id
      (forwardDates project graph (computeTaskDates calendar) id) := by
  have hall := hsorted.predecessorsEarlier.induction (fun id =>
    (forwardDates project graph (computeTaskDates calendar) id).start.isSome →
      Forces calendar project deps id
        (forwardDates project graph (computeTaskDates calendar) id)) ?_
  · exact hall id (hsorted.perm.mem_iff.mpr hid) hdated
  intro id hid hearlier hdated
  obtain ⟨task, htask, rfl, -⟩ := project.exists_of_mem_ids (hsorted.perm.mem_iff.mp hid)
  have heq := forwardDates_eq hsorted (computeTaskDates_predecessorsOnly calendar) htask
  cases hend : task.actualEnd with
  | some finish =>
      rw [heq, computeTaskDates_ended hend]
      exact .ended htask hend
  | none =>
      rw [computeTaskDates_eq calendar hend] at heq
      obtain ⟨start, hstart⟩ : ∃ start, delayToActualStart task.actualStart
          ((latestInducedStart calendar task (graph.depsBySuccessor task.id)
            (forwardDates project graph (computeTaskDates calendar))).or task.startDate) =
          some start := by
        rw [heq] at hdated
        exact Option.isSome_iff_exists.mp hdated
      rw [heq, hstart]
      rcases delayToActualStart_eq_some hstart with hactual | hcomputed
      · exact .started htask hend hactual
      rcases Option.or_eq_some_iff.mp hcomputed with hlatest | ⟨hnone, hown⟩
      · obtain ⟨dep, hdep, hinduced⟩ :=
          List.mem_filterMap.mp (List.max?_eq_some_iff.mp hlatest).1
        obtain ⟨hknown, hsucc⟩ := hsorted.mem_depsBySuccessor.mp hdep
        have hpred := (mem_knownDependencies.mp hknown).2.1
        have hpredDated : (forwardDates project graph (computeTaskDates calendar)
            dep.predecessorTaskId).start.isSome := by
          by_contra hundated
          have hnot : ¬ DatedBefore project deps dep.predecessorTaskId :=
            fun hbefore => hundated (forwardDates_dated calendar hsorted hbefore).1
          rw [inducedStart_of_undated (forwardDates_undated hsorted hpred hnot)] at hinduced
          cases hinduced
        exact .linked htask hend hknown hsucc (hearlier _ (hsorted.perm.mem_iff.mpr hpred)
          ⟨dep, hknown, rfl, hsucc⟩ hpredDated) hinduced
      · refine .planned htask hend hown ?_
        intro dep hknown hsucc hbefore
        obtain ⟨hstartSome, hfinishSome⟩ := forwardDates_dated calendar hsorted hbefore
        obtain ⟨induced, hinduced⟩ : ∃ induced, inducedStart calendar task
            (forwardDates project graph (computeTaskDates calendar)) dep = some induced :=
          Option.isSome_iff_exists.mp (inducedStart_isSome hstartSome hfinishSome)
        obtain ⟨latest, hlatest, -⟩ := le_latestInducedStart
          (hsorted.mem_depsBySuccessor.mpr ⟨hknown, hsucc⟩) induced hinduced
        rw [hnone] at hlatest
        cases hlatest

end

end ProjectManager
