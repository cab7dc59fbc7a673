import ProjectManager.Foundation.Calls
import ProjectManager.Scheduling.BackwardPass

/-! # Soundness of the critical path

A delay of one task within its float is followed through a second forward pass.
Every date of the second pass lies between the earliest date of the first pass
and the larger of the earliest and the latest date, the latter taken back to a working day.
-/

namespace ProjectManager

open Foundation

/-! ## Dates within their float -/

/-- A date of the second pass is no earlier than the earliest date, and no later
than the earliest and the latest date together allow. -/
def WithinFloat (early late later : Option Date) : Prop :=
  match early, later with
  | none, none => True
  | some e, some d => e ≤ d ∧ (d ≤ e ∨ ∃ l, late = some l ∧ d ≤ l)
  | _, _ => False

namespace WithinFloat

variable {early late later : Option Date}

theorem refl (date late : Option Date) : WithinFloat date late date := by
  cases date with
  | none => trivial
  | some d => exact ⟨le_rfl, Or.inl le_rfl⟩

theorem isSome_eq (h : WithinFloat early late later) : later.isSome = early.isSome := by
  cases early <;> cases later <;> first | rfl | exact h.elim

theorem of_some {d : Date} (h : WithinFloat early late (some d)) :
    ∃ e, early = some e ∧ e ≤ d ∧ (d ≤ e ∨ ∃ l, late = some l ∧ d ≤ l) := by
  cases early with
  | none => exact h.elim
  | some e => exact ⟨e, rfl, h⟩

theorem map {f : Date → Date} (hf : ∀ {first second}, first ≤ second → f first ≤ f second)
    (h : WithinFloat early late later) :
    WithinFloat (early.map f) (late.map f) (later.map f) := by
  cases later with
  | none =>
      cases early with
      | none => trivial
      | some e => exact h.elim
  | some d =>
      obtain ⟨e, rfl, hle, hupper⟩ := h.of_some
      refine ⟨hf hle, hupper.imp (fun h => hf h) ?_⟩
      rintro ⟨l, rfl, hl⟩
      exact ⟨f l, rfl, hf hl⟩

theorem mono_late {wider : Option Date} (h : WithinFloat early late later)
    (hlate : later.isSome = true → ∀ l, late = some l → ∃ w, wider = some w ∧ l ≤ w) :
    WithinFloat early wider later := by
  cases later with
  | none => cases early <;> exact h
  | some d =>
      obtain ⟨e, rfl, hle, hupper⟩ := h.of_some
      refine ⟨hle, hupper.imp_right ?_⟩
      rintro ⟨l, hl, hdl⟩
      obtain ⟨w, hw, hlw⟩ := hlate rfl l hl
      exact ⟨w, hw, hdl.trans hlw⟩

theorem or (h : WithinFloat early late later) (own : Option Date) :
    WithinFloat (early.or own) late (later.or own) := by
  cases later with
  | none =>
      cases early with
      | none => exact refl own late
      | some e => exact h.elim
  | some d =>
      obtain ⟨e, rfl, h⟩ := h.of_some
      exact h

/-- The latest of several dates stays within the float when each of them does. -/
theorem max_filterMap {ι : Type*} {links : List ι} {early later : ι → Option Date}
    (h : ∀ link ∈ links, WithinFloat (early link) late (later link)) :
    WithinFloat (links.filterMap early).max? late (links.filterMap later).max? := by
  cases hmax : (links.filterMap later).max? with
  | none =>
      have hempty : links.filterMap early = [] := by
        rw [List.filterMap_eq_nil_iff]
        intro link hlink
        have hnone : later link = none :=
          List.filterMap_eq_nil_iff.mp (List.max?_eq_none_iff.mp hmax) link hlink
        have hsome := (h link hlink).isSome_eq
        rw [hnone] at hsome
        exact Option.isSome_eq_false_iff.mp hsome.symm |> Option.isNone_iff_eq_none.mp
      rw [hempty]
      trivial
  | some d =>
      obtain ⟨hmem, hle⟩ := List.max?_eq_some_iff.mp hmax
      obtain ⟨link, hlink, hd⟩ := List.mem_filterMap.mp hmem
      have hlinkWithin := h link hlink
      rw [hd] at hlinkWithin
      obtain ⟨e, he, hed, hupper⟩ := hlinkWithin.of_some
      have hearlyMem : e ∈ links.filterMap early := List.mem_filterMap.mpr ⟨link, hlink, he⟩
      obtain ⟨latest, hlatest⟩ :=
        Option.isSome_iff_exists.mp (List.isSome_max?_of_mem hearlyMem)
      obtain ⟨hlatestMem, hlatestLe⟩ := List.max?_eq_some_iff.mp hlatest
      rw [hlatest]
      constructor
      · obtain ⟨other, hother, hotherLatest⟩ := List.mem_filterMap.mp hlatestMem
        have hotherWithin := h other hother
        cases hlater : later other with
        | none =>
            have hsome := hotherWithin.isSome_eq
            rw [hlater, hotherLatest] at hsome
            cases hsome
        | some x =>
            rw [hlater] at hotherWithin
            obtain ⟨y, hy, hyx, -⟩ := hotherWithin.of_some
            obtain rfl : y = latest := Option.some.inj (hy.symm.trans hotherLatest)
            exact hyx.trans (hle x (List.mem_filterMap.mpr ⟨other, hother, hlater⟩))
      · exact hupper.imp_left fun hde => hde.trans (hlatestLe e hearlyMem)

end WithinFloat

/-! ## Induced starts -/

section

variable (calendar : WorkCalendarEngine)

/-- The date of the predecessor that a link builds on. -/
def sourceDate (dates : DateTable) (dep : TaskDependency) : Option Date :=
  match dep.dependencyType with
  | .finishToStart | .finishToFinish => (dates dep.predecessorTaskId).finish
  | .startToStart | .startToFinish => (dates dep.predecessorTaskId).start

def linkShift (dep : TaskDependency) (d : Date) : Date :=
  match dep.dependencyType with
  | .finishToStart => calendar.addWorkingDays d (dep.lagDays + 2)
  | .startToStart | .finishToFinish | .startToFinish => calendar.addWorkingDays d dep.lagDays

/-- The start that a bound leaves a task: a bound on the finish is walked back. -/
def startFromBound (duration : ℤ) (dep : TaskDependency) (bound : Date) : Date :=
  match dep.dependencyType with
  | .finishToStart | .startToStart => bound
  | .finishToFinish | .startToFinish =>
      if duration ≤ 0 then bound else calendar.addWorkingDays bound (-(duration - 1))

theorem linkDate_eq (dates : DateTable) (dep : TaskDependency) :
    linkDate calendar dates dep = (sourceDate dates dep).map (linkShift calendar dep) := by
  unfold linkDate sourceDate linkShift
  cases dep.dependencyType <;> rfl

theorem inducedStart_eq (task : Task) (dates : DateTable) (dep : TaskDependency) :
    inducedStart calendar task dates dep = ((sourceDate dates dep).map (linkShift calendar dep)).map
      (startFromBound calendar task.duration dep) := by
  unfold inducedStart startCandidate startFromBound
  simp only [linkDate_eq]
  generalize (sourceDate dates dep).map (linkShift calendar dep) = bound
  by_cases hduration : task.duration ≤ 0
  · cases dep.dependencyType <;> cases bound <;> simp [hduration]
  · have hpos : task.duration > 0 := by omega
    cases dep.dependencyType <;> cases bound <;> simp [hduration, hpos]

theorem linkShift_mono (dep : TaskDependency) {first second : Date} (hle : first ≤ second) :
    linkShift calendar dep first ≤ linkShift calendar dep second := by
  simp only [linkShift]
  split <;> exact calendar.addWorkingDays_mono hle _

theorem startFromBound_mono (duration : ℤ) (dep : TaskDependency) {first second : Date}
    (hle : first ≤ second) :
    startFromBound calendar duration dep first ≤ startFromBound calendar duration dep second := by
  simp only [startFromBound]
  split
  · exact hle
  · exact hle
  all_goals
    split
    · exact hle
    · exact calendar.addWorkingDays_mono hle _

end

section

variable {calendar : WorkCalendarEngine} {project : TasksById} {deps : List TaskDependency}
  {graph : DependencyGraph} {early : DateTable} {finish : Date}

/-! ## Latest dates on working days -/

/-- The last working day up to a day. -/
noncomputable def lastWorkingDay (calendar : WorkCalendarEngine) (d : Date) : Date :=
  calendar.workingDay (calendar.position (d + 1) - 1)

theorem lastWorkingDay_le (d : Date) : lastWorkingDay calendar d ≤ d :=
  Int.lt_add_one_iff.mp (calendar.workingDay_position_sub_one_lt (d + 1))

theorem le_lastWorkingDay {d other : Date} (hworking : calendar.isWorkingDay d = true)
    (hle : d ≤ other) : d ≤ lastWorkingDay calendar other := by
  have hday := calendar.workingDay_position_eq_iff.mpr hworking
  have hlt : calendar.position d < calendar.position (other + 1) := by
    by_contra hno
    have hbeyond := (calendar.le_workingDay_position (other + 1)).trans
      (calendar.workingDay_le_workingDay.mpr (not_lt.mp hno))
    rw [hday] at hbeyond
    exact absurd (hbeyond.trans hle) (not_le.mpr (Int.lt_succ other))
  rw [← hday]
  exact calendar.workingDay_le_workingDay.mpr (by omega)

theorem isWorkingDay_lastWorkingDay (d : Date) :
    calendar.isWorkingDay (lastWorkingDay calendar d) = true :=
  calendar.isWorkingDay_workingDay _

theorem lastWorkingDay_of_working {d : Date} (h : calendar.isWorkingDay d = true) :
    lastWorkingDay calendar d = d :=
  le_antisymm (lastWorkingDay_le d) (le_lastWorkingDay h le_rfl)

noncomputable def TaskDates.lastWorkingDays (calendar : WorkCalendarEngine) (dates : TaskDates) : TaskDates :=
  ⟨dates.start.map (lastWorkingDay calendar), dates.finish.map (lastWorkingDay calendar)⟩

/-- Dates that are taken back to working days still respect a link. -/
theorem LinkRespected.lastWorkingDays {dates : DateTable} {dep : TaskDependency}
    (h : LinkRespected calendar dates dep) : LinkRespected calendar (fun id => (dates id).lastWorkingDays calendar)
      dep := by
  intro bound hbound
  rw [linkDate_eq, Option.map_eq_some_iff] at hbound
  obtain ⟨source, hsource, rfl⟩ := hbound
  obtain ⟨last, hlast, rfl⟩ : ∃ last, sourceDate dates dep = some last ∧
      lastWorkingDay calendar last = source := by
    unfold sourceDate TaskDates.lastWorkingDays at hsource
    unfold sourceDate
    split at hsource <;> exact Option.map_eq_some_iff.mp hsource
  have hworking : calendar.isWorkingDay
      (linkShift calendar dep (lastWorkingDay calendar last)) = true := by
    have hshift (n : ℤ) : calendar.isWorkingDay
        (calendar.addWorkingDays (lastWorkingDay calendar last) n) = true := by
      obtain rfl | hn := eq_or_ne n 0
      · exact isWorkingDay_lastWorkingDay last
      · exact calendar.isWorkingDay_addWorkingDays _ hn
    unfold linkShift
    split <;> exact hshift _
  have hbefore : lastWorkingDay calendar last ≤ last := lastWorkingDay_le last
  have hle := linkShift_mono calendar dep hbefore
  have hkeeps := h _ ((linkDate_eq calendar dates dep).trans (by rw [hlast]; rfl))
  split at hkeeps
  all_goals
    obtain ⟨d, hd, hbound⟩ := hkeeps
    exact ⟨_, congrArg (Option.map _) hd, le_lastWorkingDay hworking (hle.trans hbound)⟩

/-- The latest dates of a task are set, span its duration from a working day and end with the
project at the latest. -/
def FitsProject (calendar : WorkCalendarEngine) (finish : Date) (task : Task)
    (dates : TaskDates) : Prop :=
  ∃ start bound, dates = ⟨some start, some bound⟩ ∧ bound ≤ finish ∧
    bound = finishFrom calendar task.duration start ∧ calendar.isWorkingDay start = true

/-- What a respected link induces at the latest dates is no later than the latest
start. -/
theorem inducedStart_late_le {late : DateTable} {task : Task} {dep : TaskDependency}
    (hsucc : dep.successorTaskId = task.id) (hfits : FitsProject calendar finish task (late task.id))
    (hlink : LinkRespected calendar late dep) {induced : Date}
    (hinduced : inducedStart calendar task late dep = some induced) :
    ∃ start, (late task.id).start = some start ∧ induced ≤ start := by
  obtain ⟨start, bound, hdates, -, hspan, hstart⟩ := hfits
  rw [inducedStart_eq, ← linkDate_eq, Option.map_eq_some_iff] at hinduced
  obtain ⟨link, hlinkDate, rfl⟩ := hinduced
  have hrespected := hlink link hlinkDate
  rw [hsucc, hdates] at hrespected
  simp only [Option.some.injEq, exists_eq_left'] at hrespected
  refine ⟨start, by rw [hdates], ?_⟩
  have hback : link ≤ bound →
      (if task.duration ≤ 0 then link
        else calendar.addWorkingDays link (-(task.duration - 1))) ≤ start := by
    intro hle
    by_cases hduration : task.duration ≤ 0
    · rw [if_pos hduration]
      simpa [hspan, finishFrom, hduration] using hle
    · rw [if_neg hduration]
      refine (calendar.addWorkingDays_mono hle _).trans ?_
      rw [hspan, finishFrom, if_neg hduration,
        calendar.addWorkingDays_add_neg_pred hstart (by omega)]
  simp only [startFromBound]
  cases htype : dep.dependencyType <;> simp only [htype] at hrespected ⊢
  · exact hrespected
  · exact hback hrespected
  · exact hrespected
  · exact hback hrespected

/-! ## The forward pass after a delay -/

/-- The computation of dates with one task held at a start. -/
def delayTask (calendar : WorkCalendarEngine) (id : String) (start : Date) (task : Task)
    (incoming : List TaskDependency) (dates : DateTable) : TaskDates :=
  if task.id = id then datesFrom calendar task.duration (some start)
  else computeTaskDates calendar task incoming dates

/-- A start moved by working days; the shift counts its first day. -/
def delayedStart (calendar : WorkCalendarEngine) (start : Date) (days : ℕ) : Date :=
  if days = 0 then start else calendar.addWorkingDays start (days + 1)

theorem delayTask_predecessorsOnly (id : String) (start : Date) :
    PredecessorsOnly (delayTask calendar id start) := by
  intro task incoming first second hagree
  unfold delayTask
  split
  · rfl
  · exact computeTaskDates_predecessorsOnly calendar task incoming first second hagree

theorem dated_of_sourceDate (hsorted : graph.Sorted project deps)
    (hplanned : PlannedProject project deps) {dep : TaskDependency}
    (hdep : dep ∈ knownDependencies project deps)
    (hsource : (sourceDate (forwardDates project graph (computeTaskDates calendar)) dep).isSome) :
    (forwardDates project graph (computeTaskDates calendar) dep.predecessorTaskId).Dated := by
  obtain ⟨-, hpredId, -⟩ := mem_knownDependencies.mp hdep
  obtain ⟨pred, hpredMem, hpred, -⟩ := project.exists_of_mem_ids hpredId
  unfold sourceDate at hsource
  rw [← hpred, forwardDates_planned calendar hsorted hplanned hpredMem] at hsource ⊢
  unfold TaskDates.Dated datesFrom at *
  split at hsource <;> simpa using hsource

/-- One step of the second pass: a task that is not delayed itself stays within
its float when its predecessors do. -/
theorem withinFloat_step (late later : DateTable) (hsorted : graph.Sorted project deps)
    (hplanned : PlannedProject project deps)
    (hfits : ∀ task ∈ project.tasks,
      (forwardDates project graph (computeTaskDates calendar) task.id).Dated →
        FitsProject calendar finish task (late task.id))
    (hlinks : ∀ dep ∈ knownDependencies project deps,
      (forwardDates project graph (computeTaskDates calendar) dep.predecessorTaskId).Dated →
        LinkRespected calendar late dep) {task : Task} (hmem : task ∈ project.tasks)
    (hsource : ∀ dep ∈ knownDependencies project deps, dep.successorTaskId = task.id →
      WithinFloat (sourceDate (forwardDates project graph (computeTaskDates calendar)) dep)
        (sourceDate late dep) (sourceDate later dep)) :
    let incoming := (knownDependencies project deps).filter fun dep => dep.successorTaskId = task.id
    WithinFloat
      ((latestInducedStart calendar task incoming
        (forwardDates project graph (computeTaskDates calendar))).or task.startDate)
      (late task.id).start
      ((latestInducedStart calendar task incoming later).or task.startDate) := by
  intro incoming
  apply WithinFloat.or
  apply WithinFloat.max_filterMap
  intro dep hdep
  obtain ⟨hknown, hsucc⟩ : dep ∈ knownDependencies project deps ∧
      dep.successorTaskId = task.id := by simpa [incoming] using hdep
  have hsourceWithin := hsource dep hknown hsucc
  rw [inducedStart_eq, inducedStart_eq]
  refine ((hsourceWithin.map (linkShift_mono calendar dep)).map
    (startFromBound_mono calendar task.duration dep)).mono_late ?_
  intro hsome induced hinduced
  rw [← inducedStart_eq] at hinduced
  rw [Option.isSome_map, Option.isSome_map, hsourceWithin.isSome_eq] at hsome
  have hpredDated := dated_of_sourceDate hsorted hplanned hknown hsome
  have hdated := dated_successor hsorted hplanned hknown hpredDated
  rw [hsucc] at hdated
  exact inducedStart_late_le hsucc (hfits task hmem hdated) (hlinks dep hknown hpredDated) hinduced

/-- Every date of the second pass stays within its float. -/
theorem delayTask_within (late : DateTable) (hsorted : graph.Sorted project deps)
    (hplanned : PlannedProject project deps)
    (hfits : ∀ task ∈ project.tasks,
      (forwardDates project graph (computeTaskDates calendar) task.id).Dated →
        FitsProject calendar finish task (late task.id))
    (hlinks : ∀ dep ∈ knownDependencies project deps,
      (forwardDates project graph (computeTaskDates calendar) dep.predecessorTaskId).Dated →
        LinkRespected calendar late dep)
    {id : String} {start : Date}
    (hdelay : WithinFloat (forwardDates project graph (computeTaskDates calendar) id).start
      (late id).start (some start)) :
    let early := forwardDates project graph (computeTaskDates calendar)
    let later := forwardDates project graph (delayTask calendar id start)
    ∀ task ∈ project.tasks,
      WithinFloat (early task.id).start (late task.id).start (later task.id).start ∧
      WithinFloat (early task.id).finish (late task.id).finish (later task.id).finish := by
  intro early later
  have hall := hsorted.predecessorsEarlier.induction
    (fun node => ∀ task ∈ project.tasks, task.id = node →
      WithinFloat (early task.id).start (late task.id).start (later task.id).start ∧
      WithinFloat (early task.id).finish (late task.id).finish (later task.id).finish) (by
      rintro - - ih task hmem rfl
      have hearly : early task.id = _ := forwardDates_planned calendar hsorted hplanned hmem
      rw [hplanned.noActualStart task hmem] at hearly
      have hlater : later task.id = _ :=
        forwardDates_eq hsorted (delayTask_predecessorsOnly id start) hmem
      obtain ⟨first, second, hfirst, hsecond, hwithin⟩ : ∃ first second,
          early task.id = datesFrom calendar task.duration first ∧
          later task.id = datesFrom calendar task.duration second ∧
          WithinFloat first (late task.id).start second := by
        by_cases hid : task.id = id
        · subst hid
          refine ⟨_, some start, hearly, by rw [hlater, delayTask, if_pos rfl], ?_⟩
          change WithinFloat (early task.id).start _ _ at hdelay
          rw [hearly] at hdelay
          exact hdelay
        · refine ⟨_, _, hearly, ?_, withinFloat_step late later hsorted hplanned hfits hlinks
            hmem ?_⟩
          · rw [hlater, delayTask, if_neg hid,
              computeTaskDates_eq calendar (hplanned.noActualEnd task hmem),
              hplanned.noActualStart task hmem, hsorted.depsBySuccessor]
            rfl
          · intro dep hdep hsucc
            obtain ⟨-, hpredId, -⟩ := mem_knownDependencies.mp hdep
            obtain ⟨pred, hpredMem, hpred, -⟩ := project.exists_of_mem_ids hpredId
            have hpredWithin := ih pred.id (hsorted.mem_topoOrder hpredMem)
              ⟨dep, hdep, hpred.symm, hsucc⟩ pred hpredMem rfl
            rw [hpred] at hpredWithin
            unfold sourceDate
            cases dep.dependencyType <;> first | exact hpredWithin.1 | exact hpredWithin.2
      refine ⟨by rw [hfirst, hsecond]; exact hwithin, ?_⟩
      rw [hfirst, hsecond]
      refine (hwithin.map finishFrom_mono).mono_late ?_
      intro hsome bound hbound
      have hdated : (early task.id).Dated := by
        rw [Option.isSome_map, hwithin.isSome_eq] at hsome
        rw [TaskDates.Dated, hfirst]
        exact hsome
      obtain ⟨lateStart, lateFinish, hdates, -, hspan, -⟩ := hfits task hmem hdated
      refine ⟨lateFinish, by rw [hdates], ?_⟩
      rw [hdates] at hbound
      exact (Option.some.inj hbound).symm.le.trans hspan.symm.le)
  intro task hmem
  exact hall task.id (hsorted.mem_topoOrder hmem) task hmem rfl

/-! ## Floats -/

theorem totalFloat_eq_zero {earlyStart lateStart : Date}
    (h : calendar.position lateStart ≤ calendar.position earlyStart) :
    totalFloat calendar (some earlyStart) (some lateStart) = some 0 := by
  simp only [totalFloat]
  split
  · rfl
  next hle =>
    have hnext := calendar.position_add_one_le lateStart
    rw [calendar.workingDaysBetween_eq (not_lt.mp hle), max_eq_left (by omega)]

theorem position_le_of_finishFrom_le {duration : ℤ} {first second : Date}
    (h : finishFrom calendar duration first ≤ finishFrom calendar duration second) :
    calendar.position first ≤ calendar.position second := by
  unfold finishFrom at h
  split at h
  · exact calendar.position_mono h
  next hduration =>
    rw [calendar.addWorkingDays_of_pos first (by omega),
      calendar.addWorkingDays_of_pos second (by omega), calendar.workingDay_le_workingDay] at h
    omega

/-- A delay within the float ends at the last working day up to the latest start. -/
theorem delayedStart_within {earlyStart lateStart : Date} {float : ℤ} {days : ℕ}
    (hfloat : totalFloat calendar (some earlyStart) (some lateStart) = some float)
    (hdays : (days : ℤ) ≤ float) :
    WithinFloat (some earlyStart) (some (lastWorkingDay calendar lateStart))
      (some (delayedStart calendar earlyStart days)) := by
  unfold delayedStart
  by_cases hzero : days = 0
  · rw [if_pos hzero]
    exact WithinFloat.refl _ _
  · rw [if_neg hzero, calendar.addWorkingDays_of_pos earlyStart (by omega)]
    simp only [totalFloat] at hfloat
    split at hfloat
    · obtain rfl := Option.some.inj hfloat
      omega
    next hle =>
      rw [calendar.workingDaysBetween_eq (not_lt.mp hle), Option.some.injEq] at hfloat
      constructor
      · exact (calendar.le_workingDay_position earlyStart).trans
          (calendar.workingDay_le_workingDay.mpr (by omega))
      · exact Or.inr ⟨_, rfl, calendar.workingDay_le_workingDay.mpr (by omega)⟩

theorem recalculateProjectSchedule_ok {schedule : List CPMTaskInfo}
    (hgraph : buildProjectDependencyGraph project priorityValue deps = .ok graph)
    (hrun : runForwardPass project graph (computeTaskDates calendar) = .ok (early, finish))
    (hschedule : recalculateProjectSchedule calendar project deps = .ok schedule) :
    schedule = buildScheduleResult calendar project early
      (runBackwardPass calendar project graph early finish) := by
  obtain ⟨-, ⟨task, hmem, -⟩, -⟩ := runForwardPass_ok hrun
  have hne : project.tasks.isEmpty = false := by
    cases hlist : project.tasks with
    | nil => simp [hlist] at hmem
    | cons => rfl
  unfold recalculateProjectSchedule at hschedule
  rw [hne, if_neg Bool.false_ne_true] at hschedule
  obtain ⟨_, hsame, hschedule⟩ := bind_ok hschedule
  obtain rfl := Except.ok.inj (hgraph.symm.trans hsame)
  obtain ⟨_, hsame, hschedule⟩ := bind_ok hschedule
  obtain rfl := Except.ok.inj (hrun.symm.trans hsame)
  exact (Except.ok.inj hschedule).symm

/-! ## The critical path -/

theorem dated_of_finish (hsorted : graph.Sorted project deps)
    (hplanned : PlannedProject project deps) {task : Task} (hmem : task ∈ project.tasks) {d : Date}
    (hd : (forwardDates project graph (computeTaskDates calendar) task.id).finish = some d) :
    (forwardDates project graph (computeTaskDates calendar) task.id).Dated := by
  rw [forwardDates_planned calendar hsorted hplanned hmem, datesFrom] at hd ⊢
  obtain ⟨start, hstart, -⟩ := Option.map_eq_some_iff.mp hd
  rw [TaskDates.Dated, hstart]
  rfl

/-! ## What the stored rows tell -/

section

variable (calendar : WorkCalendarEngine) (project : TasksById) (deps : List TaskDependency)

/-- A task with a start date of its own, or one that links lead to from such a task. -/
inductive Datable : Task → Prop
  | own {task : Task} (hstart : task.startDate.isSome) : Datable task
  | linked {pred task : Task} {dep : TaskDependency} (hmem : pred ∈ project.tasks)
      (hdep : dep ∈ outgoingDependencies project deps pred.id)
      (hsucc : dep.successorTaskId = task.id) (hpred : Datable pred) : Datable task

/-- All links out of the task lead without lag to such tasks, and none waits for its finish. -/
inductive EndsWithProject : Task → Prop
  | intro {task : Task}
      (hlinks : ∀ dep ∈ outgoingDependencies project deps task.id,
        dep.lagDays = 0 ∧ dep.dependencyType ≠ .finishToStart)
      (hsucc : ∀ dep ∈ outgoingDependencies project deps task.id, ∀ succ ∈ project.tasks,
        dep.successorTaskId = succ.id → EndsWithProject succ) : EndsWithProject task

/-- The task is stored to start on the day, and no link from a datable task moves it. -/
def FirstOn (day : Date) (task : Task) : Prop :=
  task.startDate = some day ∧ ∀ pred ∈ project.tasks, Datable project deps pred →
    ∀ dep ∈ outgoingDependencies project deps pred.id, dep.successorTaskId ≠ task.id

/-- The project ends on a day that is no working day: on that day starts a milestone that no
datable task leads to, and planned as early as possible no task finishes later. -/
structure RestsAt (day : Date) : Prop where
  rest : calendar.isWorkingDay day = false
  milestone : ∃ task ∈ project.tasks, task.duration ≤ 0 ∧ FirstOn project deps day task
  plan : ∃ dates : DateTable, ∀ task ∈ project.tasks,
    EarliestDates calendar project deps dates task ∧ ∀ last ∈ (dates task.id).finish, last ≤ day

/-- Start-side links leave only tasks of at most one day without finish-side links; and where the
project ends on a day that is no working day, no duration of two days or more and no FS link is
walked back from it. -/
structure CriticalSafe : Prop where
  startSide : ∀ task ∈ project.tasks, Datable project deps task →
    ∀ dep ∈ outgoingDependencies project deps task.id, ¬ dep.FinishSide →
      task.duration ≤ 1 ∧
        ∀ other ∈ outgoingDependencies project deps task.id, ¬ other.FinishSide
  durations : ∀ day, RestsAt calendar project deps day → ∀ task ∈ project.tasks,
    Datable project deps task → EndsWithProject project deps task → task.duration ≤ 1
  finishToStart : ∀ day, RestsAt calendar project deps day → ∀ pred ∈ project.tasks,
    Datable project deps pred → ∀ dep ∈ outgoingDependencies project deps pred.id,
      dep.dependencyType = .finishToStart → ∀ succ ∈ project.tasks,
        dep.successorTaskId = succ.id → ¬ EndsWithProject project deps succ

end

theorem dated_iff_datable (hsorted : graph.Sorted project deps)
    (hplanned : PlannedProject project deps) {task : Task} (hmem : task ∈ project.tasks) :
    (forwardDates project graph (computeTaskDates calendar) task.id).Dated ↔
      Datable project deps task := by
  constructor
  · have hall := hsorted.predecessorsEarlier.induction
      (fun id => ∀ task ∈ project.tasks, task.id = id →
        (forwardDates project graph (computeTaskDates calendar) task.id).Dated →
          Datable project deps task) (by
        rintro - - ih task hmem rfl hdated
        rw [TaskDates.Dated, forwardDates_planned calendar hsorted hplanned hmem,
          hplanned.noActualStart task hmem] at hdated
        cases hown : task.startDate with
        | some start => exact .own (hown ▸ rfl)
        | none =>
            obtain ⟨start, hstart⟩ := Option.isSome_iff_exists.mp hdated
            rw [hown] at hstart
            have hlatest := (Option.or_none).symm.trans hstart
            obtain ⟨hinduced, -⟩ := List.max?_eq_some_iff.mp hlatest
            obtain ⟨dep, hdep, hinduced⟩ := List.mem_filterMap.mp hinduced
            obtain ⟨hknown, hsucc⟩ := List.mem_filter.mp hdep
            have hsucc := of_decide_eq_true hsucc
            obtain ⟨-, hpredId, -⟩ := mem_knownDependencies.mp hknown
            obtain ⟨pred, hpredMem, hpred, -⟩ := project.exists_of_mem_ids hpredId
            have hsource := dated_of_sourceDate hsorted hplanned hknown (by
              rw [inducedStart_eq] at hinduced
              cases hsome : sourceDate (forwardDates project graph (computeTaskDates calendar)) dep
              · rw [hsome] at hinduced
                cases hinduced
              · rfl)
            refine .linked hpredMem (mem_outgoingDependencies.mpr ⟨hknown, hpred.symm⟩) hsucc ?_
            exact ih pred.id (hsorted.mem_topoOrder hpredMem) ⟨dep, hknown, hpred.symm, hsucc⟩ pred
              hpredMem rfl (hpred ▸ hsource))
    exact hall task.id (hsorted.mem_topoOrder hmem) task hmem rfl
  · intro h
    induction h with
    | own hstart =>
        rw [TaskDates.Dated, forwardDates_planned calendar hsorted hplanned hmem,
          hplanned.noActualStart _ hmem]
        exact Option.isSome_or.trans (by rw [hstart, Bool.or_true])
    | linked hpredMem hdep hsucc _ ih =>
        obtain ⟨hknown, hpred⟩ := mem_outgoingDependencies.mp hdep
        exact hsucc ▸ dated_successor hsorted hplanned hknown (hpred ▸ ih hpredMem)

/-- A start on a day that is no working day is the stored one of a task, passed on without lag. -/
theorem exists_restingStart (hsorted : graph.Sorted project deps)
    (hplanned : PlannedProject project deps) {day : Date}
    (hrest : calendar.isWorkingDay day = false) {task : Task} (hmem : task ∈ project.tasks)
    (hstart : (forwardDates project graph (computeTaskDates calendar) task.id).start = some day) :
    ∃ first ∈ project.tasks, FirstOn project deps day first ∧
      (forwardDates project graph (computeTaskDates calendar) first.id).start = some day := by
  have hadd {d : Date} {n : ℤ} (h : calendar.addWorkingDays d n = day) : n = 0 ∧ d = day := by
    obtain rfl | hn := eq_or_ne n 0
    · exact ⟨rfl, h⟩
    · rw [← h, calendar.isWorkingDay_addWorkingDays d hn] at hrest
      cases hrest
  have hall := hsorted.predecessorsEarlier.induction
    (fun id => ∀ task ∈ project.tasks, task.id = id →
      (forwardDates project graph (computeTaskDates calendar) task.id).start = some day →
        ∃ first ∈ project.tasks, FirstOn project deps day first ∧
          (forwardDates project graph (computeTaskDates calendar) first.id).start = some day) (by
      rintro - - ih task hmem rfl hstart
      have heq := forwardDates_planned calendar hsorted hplanned hmem
      rw [hplanned.noActualStart task hmem] at heq
      have hstart' := hstart
      rw [heq] at hstart'
      cases hlatest : latestInducedStart calendar task ((knownDependencies project deps).filter
          fun dep => dep.successorTaskId = task.id)
          (forwardDates project graph (computeTaskDates calendar)) with
      | none =>
          refine ⟨task, hmem, ⟨?_, fun pred hpred hdatable dep hdep hsucc => ?_⟩, hstart⟩
          · rw [hlatest] at hstart'
            exact hstart'
          · obtain ⟨hknown, hid⟩ := mem_outgoingDependencies.mp hdep
            have hdated : (forwardDates project graph (computeTaskDates calendar) pred.id).Dated :=
              (dated_iff_datable hsorted hplanned hpred).mpr hdatable
            obtain ⟨start, hdates⟩ := forwardDates_of_dated hsorted hplanned hpred hdated
            have hnone := List.filterMap_eq_nil_iff.mp (List.max?_eq_none_iff.mp hlatest) dep
              (List.mem_filter.mpr ⟨hknown, decide_eq_true hsucc⟩)
            rw [inducedStart_eq, sourceDate, hid, hdates] at hnone
            split at hnone <;> cases hnone
      | some start =>
          rw [hlatest] at hstart'
          obtain rfl : start = day := Option.some.inj hstart'
          obtain ⟨hinduced, -⟩ := List.max?_eq_some_iff.mp hlatest
          obtain ⟨dep, hdep, hinduced⟩ := List.mem_filterMap.mp hinduced
          obtain ⟨hknown, hsucc⟩ := List.mem_filter.mp hdep
          have hsucc := of_decide_eq_true hsucc
          obtain ⟨-, hpredId, -⟩ := mem_knownDependencies.mp hknown
          obtain ⟨pred, hpredMem, hpred, -⟩ := project.exists_of_mem_ids hpredId
          rw [inducedStart_eq, Option.map_map, Option.map_eq_some_iff] at hinduced
          obtain ⟨source, hsource, hday⟩ := hinduced
          have hsame : source = start := by
            have hbound : linkShift calendar dep source = start := by
              dsimp only [Function.comp_apply] at hday
              unfold startFromBound at hday
              split at hday
              · exact hday
              · exact hday
              all_goals
                split at hday
                · exact hday
                · exact (hadd hday).2
            unfold linkShift at hbound
            split at hbound <;> exact (hadd hbound).2
          rw [hsame] at hsource
          apply ih pred.id (hsorted.mem_topoOrder hpredMem) ⟨dep, hknown, hpred.symm, hsucc⟩ pred
            hpredMem rfl
          have hdated := dated_of_sourceDate hsorted hplanned hknown (by rw [hsource]; rfl)
          obtain ⟨first, hdates⟩ := forwardDates_of_dated hsorted hplanned hpredMem
            (hpred ▸ hdated)
          rw [sourceDate, ← hpred, hdates] at hsource
          rw [hdates]
          split at hsource
          case h_3 | h_4 => exact hsource
          all_goals
            have hlast := Option.some.inj hsource
            unfold finishFrom at hlast
            split at hlast
            · exact congrArg some hlast
            · exact congrArg some (hadd hlast).2)
  exact hall task.id (hsorted.mem_topoOrder hmem) task hmem rfl hstart

/-- A finish on a day that is no working day tells that the project rests then. -/
theorem restsAt_of_finish (hsorted : graph.Sorted project deps)
    (hplanned : PlannedProject project deps) (hrest : calendar.isWorkingDay finish = false)
    (hlast : ∃ task ∈ project.tasks,
      (forwardDates project graph (computeTaskDates calendar) task.id).finish = some finish)
    (hbound : ∀ task ∈ project.tasks, ∀ d,
      (forwardDates project graph (computeTaskDates calendar) task.id).finish = some d →
        d ≤ finish) : RestsAt calendar project deps finish := by
  have hspan {duration : ℤ} {start : Date} (h : finishFrom calendar duration start = finish) :
      start = finish := by
    unfold finishFrom at h
    split at h
    · exact h
    · rw [← h, calendar.isWorkingDay_addWorkingDays start (by omega)] at hrest
      cases hrest
  obtain ⟨task, hmem, hfinish⟩ := hlast
  obtain ⟨start, hdates⟩ := forwardDates_of_dated hsorted hplanned hmem
    (dated_of_finish hsorted hplanned hmem hfinish)
  rw [hdates] at hfinish
  obtain rfl := hspan (Option.some.inj hfinish)
  obtain ⟨first, hfirst, hon, hstart⟩ :=
    exists_restingStart hsorted hplanned hrest hmem (by rw [hdates])
  refine ⟨hrest, ⟨first, hfirst, ?_, hon⟩, _, fun task hmem =>
    ⟨earliestDates_forwardDates hsorted hmem (hplanned.noActualEnd task hmem),
      fun last hlast => hbound task hmem last hlast⟩⟩
  obtain ⟨other, hother⟩ := forwardDates_of_dated hsorted hplanned hfirst (by
    rw [TaskDates.Dated, hstart]
    rfl)
  rw [hother] at hstart
  obtain rfl := Option.some.inj hstart
  have hle := hbound first hfirst _ (by rw [hother])
  by_contra hduration
  have heq := le_antisymm hle (le_finishFrom other)
  rw [finishFrom, if_neg hduration] at heq
  rw [← heq, calendar.isWorkingDay_addWorkingDays other (by omega)] at hrest
  cases hrest

/-! ## From the condition to the latest dates -/

/-- A day walked back to a finish that is no working day has not been moved. -/
theorem eq_of_walkedBack (hrest : calendar.isWorkingDay finish = false) {d : Date} {n : ℤ}
    (h : calendar.addWorkingDays d (-n) = finish) : n = 0 ∧ d = finish := by
  obtain rfl | hn := eq_or_ne n 0
  · exact ⟨rfl, h⟩
  · rw [← h, calendar.isWorkingDay_addWorkingDays d (neg_ne_zero.mpr hn)] at hrest
    cases hrest

theorem startOnlyShort_of_safe (hsafe : CriticalSafe calendar project deps)
    (hdatable : ∀ task ∈ project.tasks, (early task.id).Dated → Datable project deps task) :
    StartOnlyShort project deps early := by
  intro task hmem hdated hout hsides
  obtain ⟨dep, hdep⟩ := List.exists_mem_of_ne_nil _ hout
  exact (hsafe.startSide task hmem (hdatable task hmem hdated) dep hdep (hsides dep hdep)).1

/-- A link out of a task whose latest finish is a day on which the project rests has no lag, and
leads to such a task. -/
theorem restingLink_of_late (hsorted : graph.Sorted project deps)
    (hlinks : DatedLinks project deps early)
    (hdatable : ∀ task ∈ project.tasks, (early task.id).Dated → Datable project deps task)
    (hsafe : CriticalSafe calendar project deps) (hrest : calendar.isWorkingDay finish = false)
    {task succ : Task} (hmem : task ∈ project.tasks) (hdated : (early task.id).Dated)
    (hlate : (runBackwardPass calendar project graph early finish task.id).finish = some finish)
    {dep : TaskDependency} (hdep : dep ∈ outgoingDependencies project deps task.id)
    (hsucc : succ ∈ project.tasks ∧ dep.successorTaskId = succ.id) :
    (dep.lagDays = 0 ∧ dep.dependencyType ≠ .finishToStart) ∧
      (runBackwardPass calendar project graph early finish succ.id).finish = some finish := by
  have hshort := startOnlyShort_of_safe hsafe hdatable
  obtain ⟨hknown, hpred⟩ := mem_outgoingDependencies.mp hdep
  have hchain := @runBackwardPass_chain calendar _ _ _ early finish hsorted succ hsucc.1
  obtain ⟨start, last, hdates, hle, hstart, hlast, -, -⟩ := hchain.spans hlinks hshort
    hsucc.1 (hsucc.2 ▸ hlinks.closed dep hknown (hpred ▸ hdated))
  -- No chain asks the task to finish before the project.
  have hnot {dates : TaskDates} (h : ChainDates calendar project deps finish task dates)
      {last : Date} (hlast : dates.finish = some last) : last = finish := by
    obtain ⟨_, _, hspans⟩ := h.spans hlinks hshort hmem hdated
    have hsooner := h.sooner early hsorted hmem
    rw [hspans.eq] at hlast hsooner
    obtain ⟨_, _, _, _, hfirst, hsecond, -, hle⟩ := hsooner
    rw [hfirst] at hlate
    cases hsecond
    cases hlate
    cases hlast
    exact le_antisymm hspans.nearLast.1 hle
  rw [hdates]
  by_cases hside : dep.FinishSide
  · obtain ⟨bound, hbound⟩ := exists_lateFinishCandidate hside (hsucc.2 ▸ hdates)
    rw [← hsucc.2] at hchain
    obtain rfl := hnot (.finishSide hdep hsucc (hsucc.2 ▸ hchain) hbound) rfl
    rw [lateFinishCandidate, hsucc.2, hdates] at hbound
    rcases hside with htype | htype <;> simp only [htype, Option.map_some] at hbound
    · obtain ⟨hlag, -⟩ := eq_of_walkedBack hrest (Option.some.inj hbound)
      have := hlinks.lags dep hknown
      omega
    · obtain ⟨hlag, rfl⟩ := eq_of_walkedBack hrest (Option.some.inj hbound)
      exact ⟨⟨hlag, by simp [htype]⟩, rfl⟩
  · obtain ⟨hduration, hsides⟩ :=
      hsafe.startSide task hmem (hdatable task hmem hdated) dep hdep hside
    obtain ⟨bound, hbound⟩ := exists_lateStartCandidate hside (hsucc.2 ▸ hdates)
    obtain rfl : bound = finish := by
      have hdate := hnot (.startSide hdep hsides hsucc (hsucc.2 ▸ hchain) hbound) rfl
      split at hdate
      · rw [show task.duration = 1 by omega] at hdate
        exact hdate
      · exact hdate
    rw [lateStartCandidate, hsucc.2, hdates] at hbound
    cases htype : dep.dependencyType <;> simp only [htype, Option.map_some] at hbound
    · cases hbound
    · cases hbound
    · obtain ⟨hlag, rfl⟩ := eq_of_walkedBack hrest (Option.some.inj hbound)
      exact ⟨⟨hlag, by simp⟩, congrArg some (le_antisymm hlast.1 hle)⟩
    · obtain ⟨hlag, rfl⟩ := eq_of_walkedBack hrest (Option.some.inj hbound)
      exact ⟨⟨hlag, by simp⟩, rfl⟩

theorem endsWithProject_of_late (hsorted : graph.Sorted project deps)
    (hlinks : DatedLinks project deps early)
    (hdatable : ∀ task ∈ project.tasks, (early task.id).Dated → Datable project deps task)
    (hsafe : CriticalSafe calendar project deps) (hrest : calendar.isWorkingDay finish = false)
    {task : Task} (hmem : task ∈ project.tasks) (hdated : (early task.id).Dated)
    (hlate : (runBackwardPass calendar project graph early finish task.id).finish = some finish) :
    EndsWithProject project deps task := by
  have hall := (hsorted.predecessorsEarlier.reverse hsorted.nodup).induction
    (fun id => ∀ task ∈ project.tasks, task.id = id → (early task.id).Dated →
      (runBackwardPass calendar project graph early finish task.id).finish = some finish →
        EndsWithProject project deps task) (by
      rintro - - ih task hmem rfl hdated hlate
      have hlink {dep} (hdep : dep ∈ outgoingDependencies project deps task.id) {succ}
          (hsucc : succ ∈ project.tasks ∧ dep.successorTaskId = succ.id) :=
        restingLink_of_late hsorted hlinks hdatable hsafe hrest hmem hdated hlate hdep hsucc
      constructor
      · intro dep hdep
        obtain ⟨succ, hsuccMem, hid, -⟩ := exists_successor hdep
        exact (hlink hdep ⟨hsuccMem, hid⟩).1
      · intro dep hdep succ hsuccMem hid
        obtain ⟨hknown, hpred⟩ := mem_outgoingDependencies.mp hdep
        exact ih succ.id (List.mem_reverse.mpr (hsorted.mem_topoOrder hsuccMem))
          ⟨dep, hknown, hpred, hid⟩ succ hsuccMem rfl
          (hid ▸ hlinks.closed dep hknown (hpred ▸ hdated)) (hlink hdep ⟨hsuccMem, hid⟩).2)
  exact hall task.id (List.mem_reverse.mpr (hsorted.mem_topoOrder hmem)) task hmem rfl hdated hlate

/-- The latest dates of a safe project: each is a chain's, and a finish that is no working day is
that of a task of at most one day that no FS link bounds. -/
structure SafeLate (calendar : WorkCalendarEngine) (project : TasksById)
    (deps : List TaskDependency) (early late : DateTable) (finish : Date) : Prop where
  spans : ∀ task ∈ project.tasks, (early task.id).Dated →
    ∃ start last, (late task.id).Spans calendar finish task start last ∧
      (calendar.isWorkingDay last = false → task.duration ≤ 1)
  links : ∀ dep ∈ knownDependencies project deps, (early dep.predecessorTaskId).Dated →
    LinkRespected calendar late dep

theorem runBackwardPass_safe (hsorted : graph.Sorted project deps)
    (hlinks : DatedLinks project deps early)
    (hdatable : ∀ task ∈ project.tasks, (early task.id).Dated → Datable project deps task)
    (hsafe : CriticalSafe calendar project deps)
    (hrests : calendar.isWorkingDay finish = false → RestsAt calendar project deps finish) :
    SafeLate calendar project deps early
      (runBackwardPass calendar project graph early finish) finish := by
  have hshort := startOnlyShort_of_safe hsafe hdatable
  have hchain := @runBackwardPass_chain calendar _ _ _ early finish hsorted
  have hends {task : Task} (hmem : task ∈ project.tasks) (hdated : (early task.id).Dated)
      (hrest : calendar.isWorkingDay finish = false)
      (hlate : (runBackwardPass calendar project graph early finish task.id).finish = some finish) :
      EndsWithProject project deps task :=
    endsWithProject_of_late hsorted hlinks hdatable hsafe hrest hmem hdated hlate
  constructor
  · intro task hmem hdated
    obtain ⟨start, last, hspans⟩ := (hchain task hmem).spans hlinks hshort hmem hdated
    refine ⟨start, last, hspans, fun hrest => ?_⟩
    obtain rfl := hspans.nearLast.2.resolve_right (by simp [hrest])
    exact hsafe.durations _ (hrests hrest) task hmem (hdatable task hmem hdated)
      (hends hmem hdated hrest (by rw [hspans.eq]))
  · intro dep hdep hdated
    refine runBackwardPass_linkRespected hsorted hlinks ⟨hshort, ?_⟩ hdep hdated
    intro pred hpred hpredDated succ hsucc dep hdep hid hmissed
    have hstored := hdatable pred hpred hpredDated
    exfalso
    rcases hmissed with ⟨hside, other, hother, hotherSide⟩ | ⟨htype, hrest⟩
    · exact (hsafe.startSide pred hpred hstored dep hdep hside).2 other hother hotherSide
    · obtain ⟨hknown, hpredId⟩ := mem_outgoingDependencies.mp hdep
      have hsuccDated : (early succ.id).Dated := hid ▸ hlinks.closed dep hknown (hpredId ▸ hpredDated)
      obtain ⟨start, last, hspans⟩ := (hchain succ hsucc).spans hlinks hshort hsucc hsuccDated
      have hstart := hrest _ (hchain succ hsucc) start (by rw [hspans.eq]; rfl)
      obtain rfl := hspans.nearStart.2.resolve_right (by simp [hstart])
      have hlast := le_antisymm hspans.nearLast.1 hspans.le
      exact hsafe.finishToStart _ (hrests hstart) pred hpred hstored dep hdep htype succ hsucc hid
        (hends hsucc hsuccDated hstart (by rw [hspans.eq, hlast]))

/-- Taken back to working days, the latest dates of a safe project fit it. -/
theorem SafeLate.fits {late : DateTable} (h : SafeLate calendar project deps early late finish)
    {task : Task} (hmem : task ∈ project.tasks) (hdated : (early task.id).Dated) :
    FitsProject calendar (lastWorkingDay calendar finish) task
      ((late task.id).lastWorkingDays calendar) := by
  obtain ⟨start, last, hspans, hduration⟩ := h.spans task hmem hdated
  have hmono : lastWorkingDay calendar last ≤ lastWorkingDay calendar finish :=
    le_lastWorkingDay (isWorkingDay_lastWorkingDay last)
      ((lastWorkingDay_le last).trans hspans.nearLast.1)
  rw [hspans.eq]
  refine ⟨_, _, rfl, hmono, ?_, isWorkingDay_lastWorkingDay start⟩
  by_cases hworking : calendar.isWorkingDay last = true
  · have hstart : calendar.isWorkingDay start = true := by
      rcases hspans.nearStart.2 with rfl | hstart
      · exact le_antisymm hspans.nearLast.1 hspans.le ▸ hworking
      · exact hstart
    rw [lastWorkingDay_of_working hworking, lastWorkingDay_of_working hstart]
    exact hspans.span (Or.inr hworking)
  · obtain hduration := hduration (Bool.eq_false_iff.mpr hworking)
    obtain rfl := hspans.short hduration
    unfold finishFrom
    split
    · rfl
    · rw [show task.duration = 1 by omega, calendar.addWorkingDays_of_pos _ one_pos,
        add_sub_cancel_right, calendar.workingDay_position_eq_iff.mpr
          (isWorkingDay_lastWorkingDay start)]

/-! ## The critical path -/

theorem totalFloat_of_finishes_last {late : DateTable} {task : Task} {start last : Date}
    (hearly : ∃ start, early task.id =
      ⟨some start, some (finishFrom calendar task.duration start)⟩)
    (hlast : (early task.id).finish = some finish)
    (hspans : (late task.id).Spans calendar finish task start last) :
    totalFloat calendar (early task.id).start (late task.id).start = some 0 := by
  obtain ⟨first, hdates⟩ := hearly
  rw [hdates] at hlast ⊢
  rw [hspans.eq]
  apply totalFloat_eq_zero
  have hfinish := Option.some.inj hlast
  have hspan := hspans.span (by
    by_cases hduration : task.duration ≤ 0
    · exact Or.inl hduration
    · refine Or.inr (hspans.nearLast.2.elim ?_ id)
      rintro rfl
      rw [← hfinish, finishFrom, if_neg hduration]
      exact calendar.isWorkingDay_addWorkingDays first (by omega))
  have hle : finishFrom calendar task.duration start ≤ finishFrom calendar task.duration first := by
    rw [← hspan, hfinish]
    exact hspans.nearLast.1
  exact position_le_of_finishFrom_le hle

/-- A delay within the float leaves the project finish where it is. -/
theorem runForwardPass_delayTask {late : DateTable} (hsorted : graph.Sorted project deps)
    (hplanned : PlannedProject project deps)
    (hrun : runForwardPass project graph (computeTaskDates calendar) = .ok (early, finish))
    (hsafe : SafeLate calendar project deps early late finish) {id : String} {start : Date}
    (hdelay : WithinFloat (early id).start ((late id).lastWorkingDays calendar).start
      (some start)) :
    ∃ dates, runForwardPass project graph (delayTask calendar id start) = .ok (dates, finish) := by
  obtain ⟨rfl, ⟨last, hlastMem, hlast⟩, hbound⟩ := runForwardPass_ok hrun
  have hwithin := delayTask_within (fun id => (late id).lastWorkingDays calendar) hsorted hplanned
    (fun _ hmem => hsafe.fits hmem)
    (fun dep hdep hdated => (hsafe.links dep hdep hdated).lastWorkingDays) hdelay
  have hle : ∀ task ∈ project.tasks, ∀ d,
      (forwardDates project graph (delayTask calendar id start) task.id).finish = some d →
        d ≤ finish := by
    intro task hmem d hd
    have htask := (hwithin task hmem).2
    rw [hd] at htask
    obtain ⟨e, he, -, hupper⟩ := htask.of_some
    rcases hupper with hde | ⟨l, hl, hdl⟩
    · exact hde.trans (hbound task hmem e he)
    · obtain ⟨_, lateFinish, hdates, hle, -⟩ :=
        hsafe.fits hmem (dated_of_finish hsorted hplanned hmem he)
      rw [hdates] at hl
      obtain rfl := Option.some.inj hl
      exact hdl.trans (hle.trans (lastWorkingDay_le finish))
  refine ⟨_, runForwardPass_eq_ok ⟨last, hlastMem, ?_⟩ hle⟩
  have hlater := (hwithin last hlastMem).2
  rw [hlast] at hlater
  cases hd : (forwardDates project graph (delayTask calendar id start) last.id).finish with
  | none =>
      rw [hd] at hlater
      exact hlater.elim
  | some d =>
      rw [hd] at hlater
      exact congrArg some (le_antisymm (hle last hlastMem d hd) hlater.1)

/-- Soundness of floats and of the critical flag, from what is stored of the project. -/
theorem criticalPath_sound (calendar : WorkCalendarEngine) (project : TasksById)
    (deps : List TaskDependency) (graph : DependencyGraph) (early : DateTable) (finish : Date)
    (schedule : List CPMTaskInfo) (hplanned : PlannedProject project deps)
    (hgraph : buildProjectDependencyGraph project priorityValue deps = .ok graph)
    (hrun : runForwardPass project graph (computeTaskDates calendar) = .ok (early, finish))
    (hschedule : recalculateProjectSchedule calendar project deps = .ok schedule)
    (hsafe : CriticalSafe calendar project deps) :
    (∃ info ∈ schedule, info.isCritical = true) ∧
    (∀ info ∈ schedule, info.earliestFinish = some finish → info.totalFloatDays = some 0) ∧
    (∀ info ∈ schedule, ∀ float, info.totalFloatDays = some float →
      ∃ start, info.earliestStart = some start ∧ ∀ days : ℕ, (days : ℤ) ≤ float →
        ∃ dates, runForwardPass project graph
          (delayTask calendar info.task.id (delayedStart calendar start days)) =
            .ok (dates, finish)) := by
  have hsorted := buildProjectDependencyGraph_sorted hgraph
  obtain rfl := recalculateProjectSchedule_ok hgraph hrun hschedule
  obtain ⟨hearly, ⟨last, hlastMem, hlast⟩, hbound⟩ := runForwardPass_ok hrun
  have hlate : SafeLate calendar project deps early
      (runBackwardPass calendar project graph early finish) finish := by
    subst hearly
    exact runBackwardPass_safe hsorted (datedLinks_forwardDates hsorted hplanned)
      (fun _ hmem => (dated_iff_datable hsorted hplanned hmem).mp) hsafe
      fun hrest => restsAt_of_finish hsorted hplanned hrest ⟨last, hlastMem, hlast⟩ hbound
  have hzero : ∀ task ∈ project.tasks, (early task.id).finish = some finish →
      totalFloat calendar (early task.id).start
        (runBackwardPass calendar project graph early finish task.id).start = some 0 := by
    intro task hmem hfinish
    have hdated : (early task.id).Dated := by
      rw [hearly] at hfinish ⊢
      exact dated_of_finish hsorted hplanned hmem hfinish
    obtain ⟨_, _, hspans, -⟩ := hlate.spans task hmem hdated
    refine totalFloat_of_finishes_last ?_ hfinish hspans
    rw [hearly] at hdated ⊢
    exact forwardDates_of_dated hsorted hplanned hmem hdated
  refine ⟨?_, ?_, ?_⟩
  · refine ⟨_, List.mem_map_of_mem hlastMem, ?_⟩
    simp [scheduleInfo, hzero last hlastMem hlast]
  · intro info hinfo hfinish
    obtain ⟨task, hmem, rfl⟩ := List.mem_map.mp hinfo
    exact hzero task hmem hfinish
  · intro info hinfo float hfloat
    obtain ⟨task, hmem, rfl⟩ := List.mem_map.mp hinfo
    change totalFloat calendar (early task.id).start _ = _ at hfloat
    cases hstart : (early task.id).start with
    | none =>
        rw [hstart] at hfloat
        cases hfloat
    | some start =>
        refine ⟨start, hstart, ?_⟩
        intro days hdays
        have hdated : (early task.id).Dated := by
          rw [TaskDates.Dated, hstart]
          rfl
        obtain ⟨lateStart, _, hspans, -⟩ := hlate.spans task hmem hdated
        apply runForwardPass_delayTask hsorted hplanned hrun hlate
        change WithinFloat (early task.id).start ((runBackwardPass calendar project graph early
          finish task.id).lastWorkingDays calendar).start _
        rw [hstart, hspans.eq] at hfloat ⊢
        exact delayedStart_within hfloat hdays

/-- The gate opens on a Saturday, two days after the day on which concrete is poured. -/
def gateAndPour : TasksById where
  rows := [
    { id := "gate", projectId := "p", name := "Gate", startDate := some 13
      durationDays := some 0 },
    { id := "pour", projectId := "p", name := "Pour", startDate := some 11
      durationDays := some 1 }]
  nodup := by decide

theorem criticalPath_sound_gateAndPour : ∃ graph early schedule,
    buildProjectDependencyGraph gateAndPour priorityValue [] = .ok graph ∧
    runForwardPass gateAndPour graph (computeTaskDates weekdayCalendar) = .ok (early, 13) ∧
    recalculateProjectSchedule weekdayCalendar gateAndPour [] = .ok schedule ∧
    (schedule.map fun info => (info.task.id, info.totalFloatDays)) =
      [("gate", some 0), ("pour", some 1)] ∧
    ∀ info ∈ schedule, ∀ float, info.totalFloatDays = some float →
      ∃ start, info.earliestStart = some start ∧ ∀ days : ℕ, (days : ℤ) ≤ float →
        ∃ dates, runForwardPass gateAndPour graph
          (delayTask weekdayCalendar info.task.id (delayedStart weekdayCalendar start days)) =
            .ok (dates, 13) := by
  refine ⟨_, _, _, rfl, rfl, rfl, by decide, ?_⟩
  have hduration : ∀ task ∈ gateAndPour.tasks, task.duration ≤ 1 := by decide
  exact (criticalPath_sound weekdayCalendar gateAndPour [] _ _ _ _
    ⟨by decide, by decide, by decide⟩ rfl rfl rfl
    ⟨fun _ _ _ _ hdep => absurd hdep List.not_mem_nil, fun _ _ task hmem _ _ => hduration task hmem,
      fun _ _ _ _ _ _ hdep => absurd hdep List.not_mem_nil⟩).2.2

/-- No task is critical, although the design finishes last: both latest starts are
the Wednesday on which the design finishes. -/
theorem no_critical_reviewAlongsideDesign :
    PlannedProject designAndReview reviewAlongsideDesign ∧
    AcyclicDependencies designAndReview reviewAlongsideDesign ∧ ∃ schedule,
      recalculateProjectSchedule weekdayCalendar designAndReview reviewAlongsideDesign =
        .ok schedule ∧
      (schedule.map fun info => (info.task.id, info.earliestFinish, info.totalFloatDays)) =
        [("design", some 10, some 2), ("review", some 8, some 2)] ∧
      ∀ info ∈ schedule, info.isCritical = false := by
  exact ⟨⟨by decide, by decide, by decide⟩,
    acyclic_of_rank (fun id => if id = "design" then 0 else 1) (by decide),
    _, rfl, by decide, by decide⟩

end

end ProjectManager
