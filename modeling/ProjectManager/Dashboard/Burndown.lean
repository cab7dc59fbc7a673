import Mathlib.Order.Interval.Set.Basic
import ProjectManager.Dashboard.Portfolio

/-! # The burndown of a project

The dashboard draws one point for each day between the dates of a project. A
point counts the incomplete tasks that are under way on its day, so that the
series rises when a task starts after the first day.
-/

namespace ProjectManager

open Foundation

structure BurndownPoint where
  day : Date
  remainingTasks : ℕ
  deriving DecidableEq

/-- The condition of the loop: a task without both dates counts on every day. -/
def Task.countedOn (task : Task) (current : Date) : Bool :=
  task.percentComplete < 100 ∧
    ∀ start ∈ task.startDate, ∀ finish ∈ task.endDate, start ≤ current ∧ current ≤ finish

def burndownLoop (tasks : List Task) (finish : Date) : ℕ → Date → List BurndownPoint
  | 0, _ => []
  | iterations + 1, current =>
      if current ≤ finish then
        { day := current, remainingTasks := tasks.countP fun task => task.countedOn current } ::
          burndownLoop tasks finish iterations (current + 1)
      else []

/-- The points between two dates, whichever comes first. -/
def burndownPoints (tasks : List Task) (start finish : Date) : List BurndownPoint :=
  let (first, last) := if finish < start then (finish, start) else (start, finish)
  burndownLoop tasks last (last - first + 1).toNat first

section

variable (service : DashboardService) (store : ProjectStore) (projectId : String)

/-- `list_tasks_for_project` of the task service. -/
def listDashboardTasks : Except DomainError (List Task) := do
  let engine := sessionAuthorizationEngine service.userSession
  engine.requirePermission "task.read" "list project tasks"
  engine.requireProjectPermission projectId "task.read" "list project tasks"
  return (store.tasksOf projectId).tasks

def buildBurndown : Except DomainError (List BurndownPoint) := do
  let kpi ← getProjectKpis service.reporting store projectId
  let tasks ← listDashboardTasks service store projectId
  return match kpi.startDate, kpi.endDate with
    | some start, some finish => if tasks = [] then [] else burndownPoints tasks start finish
    | _, _ => []

end

/-! ## A series that burns down -/

/-- The task is incomplete and has not ended before the day. -/
def Task.remainsOn (task : Task) (day : Date) : Bool :=
  task.percentComplete < 100 ∧ ∀ finish ∈ task.endDate, day ≤ finish

structure BurnsDown (tasks : List Task) (start finish : Date) (points : List BurndownPoint) :
    Prop where
  sorted : (points.map BurndownPoint.day).Pairwise (· < ·)
  days : ∀ day, day ∈ points.map BurndownPoint.day ↔ day ∈ Set.uIcc start finish
  counts : ∀ point ∈ points, point.remainingTasks = tasks.countP fun task =>
    task.remainsOn point.day
  falling : points.Pairwise fun first second => second.remainingTasks ≤ first.remainingTasks
  first : ∀ point ∈ points.head?, point.remainingTasks = tasks.countP fun task =>
    task.remainsOn (min start finish)

/-- An incomplete task that is still to start, and not over before the day. -/
def Task.startsAfter (task : Task) (day : Date) : Bool :=
  task.percentComplete < 100 ∧
    ∃ start ∈ task.startDate, ∃ finish ∈ task.endDate, day < start ∧ day ≤ finish

/-- An incomplete task with nothing but an end date, which is before the day. -/
def Task.endedUnstarted (task : Task) (day : Date) : Bool :=
  task.percentComplete < 100 ∧ task.startDate = none ∧ ∃ finish ∈ task.endDate, finish < day

section

variable {tasks : List Task} {start finish current : Date} {iterations : ℕ}

theorem remainsOn_antitone (task : Task) {first second : Date} (hle : first ≤ second)
    (h : task.remainsOn second = true) : task.remainsOn first = true := by
  simp only [Task.remainsOn, decide_eq_true_eq] at h ⊢
  exact ⟨h.1, fun finish hfinish => hle.trans (h.2 finish hfinish)⟩

theorem countedOn_add_startsAfter (task : Task) (day : Date) :
    (task.countedOn day).toNat + (task.startsAfter day).toNat =
      (task.remainsOn day).toNat + (task.endedUnstarted day).toNat := by
  by_cases hopen : task.percentComplete < 100
  · cases hstart : task.startDate with
    | none =>
        -- Without a start date the task counts on every day.
        cases hfinish : task.endDate with
        | none =>
            simp [Task.countedOn, Task.startsAfter, Task.remainsOn, Task.endedUnstarted, hopen,
              hstart, hfinish]
        | some finish =>
            by_cases hended : finish < day <;>
              simp [Task.countedOn, Task.startsAfter, Task.remainsOn, Task.endedUnstarted, hopen,
                hstart, hfinish, hended, not_le.mpr, not_lt.mp]
    | some start =>
        cases hfinish : task.endDate with
        | none =>
            simp [Task.countedOn, Task.startsAfter, Task.remainsOn, Task.endedUnstarted, hopen,
              hstart, hfinish]
        | some finish =>
            by_cases hle : start ≤ day <;> by_cases hended : day ≤ finish <;>
              simp [Task.countedOn, Task.startsAfter, Task.remainsOn, Task.endedUnstarted, hopen,
                hstart, hfinish, hle, hended, not_le.mp, not_lt.mpr]
  · simp [Task.countedOn, Task.startsAfter, Task.remainsOn, Task.endedUnstarted, hopen]

theorem countP_countedOn (tasks : List Task) (day : Date) :
    (tasks.countP fun task => task.countedOn day) + (tasks.countP fun task => task.startsAfter day) =
      (tasks.countP fun task => task.remainsOn day) +
        tasks.countP fun task => task.endedUnstarted day := by
  induction tasks with
  | nil => rfl
  | cons task rest ih =>
      have htask := countedOn_add_startsAfter task day
      simp only [List.countP_cons, Bool.cond_eq_ite, Bool.toNat] at htask ⊢
      omega

theorem countP_countedOn_eq_iff (tasks : List Task) (day : Date) :
    (tasks.countP fun task => task.countedOn day) = (tasks.countP fun task => task.remainsOn day) ↔
      (tasks.countP fun task => task.startsAfter day) =
        tasks.countP fun task => task.endedUnstarted day := by
  have h := countP_countedOn tasks day
  omega

/-! ## The loop -/

/-- The loop has enough iterations for the days that are left. -/
theorem day_mem_burndownLoop (h : finish < current + iterations) (day : Date) :
    day ∈ (burndownLoop tasks finish iterations current).map BurndownPoint.day ↔
      current ≤ day ∧ day ≤ finish := by
  induction iterations generalizing current with
  | zero =>
      rw [Nat.cast_zero, add_zero] at h
      simpa [burndownLoop] using h.trans_le
  | succ iterations ih =>
      unfold burndownLoop
      split_ifs with hle
      · rw [List.map_cons, List.mem_cons,
          ih (by rwa [add_assoc, add_comm (1 : Date), ← Nat.cast_succ]), Int.add_one_le_iff]
        constructor
        · rintro (rfl | ⟨hlt, hday⟩)
          · exact ⟨le_rfl, hle⟩
          · exact ⟨hlt.le, hday⟩
        · rintro ⟨hday, hfinish⟩
          exact hday.eq_or_lt.imp Eq.symm fun hlt => ⟨hlt, hfinish⟩
      · simpa using (not_le.mp hle).trans_le

theorem le_of_mem_burndownLoop {day : Date}
    (h : day ∈ (burndownLoop tasks finish iterations current).map BurndownPoint.day) :
    current ≤ day := by
  induction iterations generalizing current with
  | zero => simp [burndownLoop] at h
  | succ iterations ih =>
      unfold burndownLoop at h
      split_ifs at h
      · rcases List.mem_cons.mp h with rfl | h
        · exact le_rfl
        · exact (Int.le_add_one le_rfl).trans (ih h)
      · simp at h

theorem burndownLoop_sorted :
    ((burndownLoop tasks finish iterations current).map BurndownPoint.day).Pairwise (· < ·) := by
  induction iterations generalizing current with
  | zero => exact .nil
  | succ iterations ih =>
      unfold burndownLoop
      split_ifs
      · rw [List.map_cons, List.pairwise_cons]
        exact ⟨fun day hday => Int.add_one_le_iff.mp (le_of_mem_burndownLoop hday), ih⟩
      · exact .nil

theorem burndownLoop_head {point : BurndownPoint}
    (h : point ∈ (burndownLoop tasks finish iterations current).head?) : point.day = current := by
  cases iterations with
  | zero => simp [burndownLoop] at h
  | succ iterations =>
      unfold burndownLoop at h
      split_ifs at h
      · cases h
        rfl
      · cases h

theorem burndownLoop_counts {point : BurndownPoint}
    (h : point ∈ burndownLoop tasks finish iterations current) :
    point.remainingTasks = tasks.countP fun task => task.countedOn point.day := by
  induction iterations generalizing current with
  | zero => simp [burndownLoop] at h
  | succ iterations ih =>
      unfold burndownLoop at h
      split_ifs at h
      · rcases List.mem_cons.mp h with rfl | h
        · rfl
        · exact ih h
      · simp at h

/-! ## The series -/

theorem burndownPoints_eq (tasks : List Task) (start finish : Date) :
    burndownPoints tasks start finish = burndownLoop tasks (max start finish)
      (max start finish - min start finish + 1).toNat (min start finish) := by
  unfold burndownPoints
  split
  next first last h =>
    split_ifs at h with hlt
    · obtain ⟨rfl, rfl⟩ := Prod.mk.inj h
      rw [max_eq_left hlt.le, min_eq_right hlt.le]
    · obtain ⟨rfl, rfl⟩ := Prod.mk.inj h
      rw [max_eq_right (not_lt.mp hlt), min_eq_left (not_lt.mp hlt)]

theorem day_mem_burndownPoints (day : Date) :
    day ∈ (burndownPoints tasks start finish).map BurndownPoint.day ↔
      day ∈ Set.uIcc start finish := by
  have hle : (min start finish : ℤ) ≤ max start finish := min_le_max
  have hlast : (max start finish : ℤ) < min start finish +
      ((max start finish - min start finish + 1).toNat : ℤ) := by
    omega
  rw [burndownPoints_eq, day_mem_burndownLoop hlast]
  rfl

/-- The points count what they should exactly when the tasks to come balance those that ended
unstarted on every day. -/
theorem burndownPoints_burnsDown_iff :
    BurnsDown tasks start finish (burndownPoints tasks start finish) ↔
      ∀ day ∈ Set.uIcc start finish, (tasks.countP fun task => task.startsAfter day) =
        tasks.countP fun task => task.endedUnstarted day := by
  have hpoint : ∀ point ∈ burndownPoints tasks start finish,
      point.remainingTasks = tasks.countP fun task => task.countedOn point.day := by
    intro point hpoint
    rw [burndownPoints_eq] at hpoint
    exact burndownLoop_counts hpoint
  have hsorted : ((burndownPoints tasks start finish).map BurndownPoint.day).Pairwise (· < ·) := by
    rw [burndownPoints_eq]
    exact burndownLoop_sorted
  constructor
  · intro h day hday
    obtain ⟨point, hmem, rfl⟩ := List.mem_map.mp ((day_mem_burndownPoints day).mpr hday)
    rw [← countP_countedOn_eq_iff, ← hpoint point hmem]
    exact h.counts point hmem
  · intro h
    have hcounts : ∀ point ∈ burndownPoints tasks start finish, point.remainingTasks =
        tasks.countP fun task => task.remainsOn point.day := by
      intro point hmem
      rw [hpoint point hmem, countP_countedOn_eq_iff]
      exact h point.day ((day_mem_burndownPoints _).mp (List.mem_map_of_mem hmem))
    refine ⟨hsorted, day_mem_burndownPoints, hcounts, ?_, ?_⟩
    · apply (List.pairwise_map.mp hsorted).imp_of_mem
      intro first second hfirst hsecond hlt
      rw [hcounts first hfirst, hcounts second hsecond]
      exact List.countP_mono_left fun task _ => remainsOn_antitone task hlt.le
    · intro point hhead
      rw [hcounts point (List.mem_of_head? hhead)]
      rw [burndownPoints_eq] at hhead
      rw [burndownLoop_head hhead]

end

/-- The burndown of a project with tasks and dates burns down exactly when, on each of its days,
the incomplete tasks still to start are as many as those that ended without a start. -/
theorem buildBurndown_burnsDown_iff {service : DashboardService} {store : ProjectStore}
    {projectId : String} {kpi : ProjectKPI} {tasks : List Task} {start finish : Date}
    (hkpi : getProjectKpis service.reporting store projectId = .ok kpi)
    (hlisted : listDashboardTasks service store projectId = .ok tasks) (htasks : tasks ≠ [])
    (hstart : kpi.startDate = some start) (hfinish : kpi.endDate = some finish) :
    (∃ points, buildBurndown service store projectId = .ok points ∧
        BurnsDown tasks start finish points) ↔
      ∀ day ∈ Set.uIcc start finish, (tasks.countP fun task => task.startsAfter day) =
        tasks.countP fun task => task.endedUnstarted day := by
  have hbuilt : buildBurndown service store projectId =
      .ok (burndownPoints tasks start finish) := by
    unfold buildBurndown
    rw [hkpi, hlisted]
    change Except.ok _ = _
    rw [hstart, hfinish]
    dsimp only
    rw [if_neg htasks]
  rw [hbuilt, ← burndownPoints_burnsDown_iff]
  constructor
  · rintro ⟨points, hpoints, h⟩
    obtain rfl := Except.ok.inj hpoints
    exact h
  · intro h
    exact ⟨_, rfl, h⟩

/-- A project of two days with a task on the given one. -/
def weldProject (day : Date) : ProjectStore where
  projects := ⟨[{ id := "P1", name := "North", startDate := some 1, endDate := some 2 }],
    by decide⟩
  tasks := ⟨[{ id := "T1", projectId := "P1", name := "Weld", startDate := some day
               endDate := some 2, durationDays := some 1 }], show ["T1"].Nodup by simp⟩

def scheduler : UserSessionPrincipal where
  userId := "S1"
  userId_ne := by decide
  username := "scheduler"
  permissions := ["project.read", "task.read", "report.view"]

def schedulerService : DashboardService where
  userSession := some scheduler
  calendar := weekdayCalendar
  today := 1

/-- Both tasks are under way from the first day, and the painting ends with it. -/
def paintedProject : ProjectStore :=
  { weldProject 1 with
    tasks := ⟨{ id := "T2", projectId := "P1", name := "Paint", startDate := some 1
                endDate := some 1, durationDays := some 1 } :: (weldProject 1).tasks.rows,
      show ["T2", "T1"].Nodup by simp⟩ }

theorem buildBurndown_burnsDown_firstDay :
    ∃ points, buildBurndown schedulerService paintedProject "P1" = .ok points ∧
      BurnsDown paintedProject.tasks.rows 1 2 points := by
  have hok : (getProjectKpis schedulerService.reporting paintedProject "P1").toOption.map
      (fun kpi => (kpi.startDate, kpi.endDate)) = some (some 1, some 2) := by
    decide +kernel
  obtain ⟨kpi, hkpi, hdates⟩ := Option.map_eq_some_iff.mp hok
  obtain ⟨hstart, hfinish⟩ := Prod.mk.inj hdates
  have hlisted : listDashboardTasks schedulerService paintedProject "P1" =
      .ok paintedProject.tasks.rows := by
    decide +kernel
  refine (buildBurndown_burnsDown_iff (toOption_eq_some.mp hkpi) hlisted (by decide)
    hstart hfinish).mpr ?_
  intro day hday
  have hday : (1 : ℤ) ≤ day := hday.1
  simp [paintedProject, weldProject, Task.startsAfter, Task.endedUnstarted, not_lt.mpr hday]

/-- A task that starts on the second day makes the series rise. -/
theorem not_burnsDown_secondDay :
    buildBurndown schedulerService (weldProject 2) "P1" = .ok [⟨1, 0⟩, ⟨2, 1⟩] ∧
      ¬ BurnsDown (weldProject 2).tasks.rows 1 2 [⟨1, 0⟩, ⟨2, 1⟩] := by
  refine ⟨by decide +kernel, fun h => ?_⟩
  have hfirst := h.counts ⟨1, 0⟩ (by decide)
  revert hfirst
  decide +kernel

end ProjectManager
