import ProjectManager.Calendar.Months
import ProjectManager.Reporting.EarnedValue

/-! # The series of earned values

Planned value, earned value and actual cost at the end of every month, from the
first start in the baseline to the day of the report.
-/

namespace ProjectManager

open Foundation

structure EvmSeriesPoint where
  periodEnd : Date
  pv : ℚ
  ev : ℚ
  ac : ℚ
  bac : ℚ
  cpi : ℚ
  spi : ℚ
  deriving DecidableEq

/-- The loop over the months; `none` while it has not ended. -/
def seriesLoop : ℕ → Date → Date → List Date → Option (List Date)
  | 0, cur, last, points => if cur ≤ last then none else some points
  | iterations + 1, cur, last, points =>
      if cur ≤ last then
        seriesLoop iterations (cur.addMonths 1).monthEnd last (points ++ [cur])
      else some points

/-- The ends of the months of a series. An iteration takes the loop at least a day further. -/
def seriesPoints (start asOf : Date) : Option (List Date) :=
  seriesLoop (asOf.monthEnd - start.monthEnd + 1).toNat start.monthEnd asOf.monthEnd []

section

variable (service : ReportingService) (store : ProjectStore) (projectId : String)
  (baselineId : Option String)

/-- The tasks of the baseline asked for, or else of the latest one. -/
def seriesTasks : List BaselineTask :=
  match givenText baselineId with
  | some id => store.baselineTasksOf id
  | none => (store.latestBaselineOf projectId).elim [] fun baseline =>
      store.baselineTasksOf baseline.id

/-- The earliest start in the baseline, else the start of the project, else the day itself. -/
def seriesStart (project : Project) (asOf : Date) : Date :=
  ((seriesTasks store projectId baselineId).filterMap BaselineTask.baselineStart).min?.getD
    (project.startDate.getD asOf)

def evmSeriesPoint (periodEnd : Date) : Except DomainError EvmSeriesPoint := do
  let evm ← getEarnedValue service store projectId (some periodEnd) baselineId
  return {
    periodEnd := periodEnd
    pv := evm.pv
    ev := evm.ev
    ac := evm.ac
    bac := evm.bac
    cpi := evm.cpi.getD 0
    spi := evm.spi.getD 0 }

def getEvmSeries (asOf : Option Date) : Except DomainError (List EvmSeriesPoint) := do
  service.requireView "view earned value trend" projectId
  match store.projects.get? projectId with
  | none => return []
  | some project =>
      let day := asOf.getD service.today
      let points ← require
        (seriesPoints (seriesStart store projectId baselineId project day) day) interrupted
      points.mapM (evmSeriesPoint service store projectId baselineId)

end

/-! ## The points of a series -/

/-- The ends of the months from one date to another, each once and in order. -/
structure MonthEnds (start asOf : Date) (points : List Date) : Prop where
  mem_iff : ∀ d : Date, d ∈ points ↔
    d.IsMonthEnd ∧ start.monthIndex ≤ d.monthIndex ∧ d.monthIndex ≤ asOf.monthIndex
  increasing : points.Pairwise (· < ·)

/-- The last days of some consecutive months. -/
def lastDays (first : ℤ) (count : ℕ) : List Date :=
  (List.range count).map fun k : ℕ => months.lastPoint (first + k)

theorem lastDays_succ (first : ℤ) (count : ℕ) :
    lastDays first (count + 1) = months.lastPoint first :: lastDays (first + 1) count := by
  unfold lastDays
  rw [List.range_succ_eq_map, List.map_cons, List.map_map]
  congr 1
  · rw [Nat.cast_zero, add_zero]
  · apply List.map_congr_left
    intro k _
    rw [Function.comp_apply, Nat.cast_succ, add_comm (k : ℤ) 1, add_assoc]

theorem monthEnd_addMonths_lastPoint (i : ℤ) :
    (Date.addMonths (months.lastPoint i) 1).monthEnd = months.lastPoint (i + 1) := by
  rw [Date.monthEnd_eq, Date.monthIndex_addMonths, Date.monthIndex_lastPoint]

/-- From the end of one month the loop goes on to that of the next. -/
theorem seriesLoop_eq {iterations : ℕ} {first last : ℤ}
    (h : (last - first + 1).toNat ≤ iterations) (points : List Date) :
    seriesLoop iterations (months.lastPoint first) (months.lastPoint last) points =
      some (points ++ lastDays first (last - first + 1).toNat) := by
  induction iterations generalizing first points with
  | zero =>
      have hlt : last < first := by omega
      rw [seriesLoop, if_neg (not_le.mpr (Periods.lastPoint_lt_lastPoint.mpr hlt)),
        Nat.le_zero.mp h]
      exact congrArg some (List.append_nil points).symm
  | succ iterations ih =>
      rw [seriesLoop]
      by_cases hle : first ≤ last
      · have hcount : (last - first + 1).toNat = (last - (first + 1) + 1).toNat + 1 := by omega
        rw [if_pos (Periods.lastPoint_le_lastPoint hle), monthEnd_addMonths_lastPoint,
          ih (by omega), hcount, lastDays_succ, List.append_assoc]
        rfl
      · rw [if_neg (not_le.mpr (Periods.lastPoint_lt_lastPoint.mpr (not_le.mp hle))),
          show (last - first + 1).toNat = 0 by omega]
        exact congrArg some (List.append_nil points).symm

/-- A month is no shorter than a day. -/
theorem months_le_days (first last : ℤ) (h : first ≤ last) :
    last - first ≤ months.lastPoint last - months.lastPoint first := by
  obtain ⟨n, rfl⟩ := Int.le.dest h
  induction n with
  | zero => simp
  | succ n ih =>
      have hstep : months.lastPoint (first + n) < months.lastPoint (first + (n + 1 : ℕ)) :=
        Periods.lastPoint_lt_lastPoint.mpr (by omega)
      have hprevious := ih (by omega)
      omega

theorem seriesPoints_eq (start asOf : Date) :
    seriesPoints start asOf =
      some (lastDays start.monthIndex (asOf.monthIndex - start.monthIndex + 1).toNat) := by
  unfold seriesPoints
  rw [Date.monthEnd_eq, Date.monthEnd_eq, seriesLoop_eq, List.nil_append]
  by_cases hle : start.monthIndex ≤ asOf.monthIndex
  · have hdays := months_le_days _ _ hle
    omega
  · omega

theorem monthEnds_lastDays (start asOf : Date) :
    MonthEnds start asOf
      (lastDays start.monthIndex (asOf.monthIndex - start.monthIndex + 1).toNat) := by
  constructor
  · intro d
    rw [Date.isMonthEnd_iff, lastDays, List.mem_map]
    constructor
    · rintro ⟨k, hk, rfl⟩
      have hk := List.mem_range.mp hk
      rw [Date.monthIndex_lastPoint]
      exact ⟨rfl, by omega, by omega⟩
    · rintro ⟨hend, hfirst, hlast⟩
      refine ⟨(d.monthIndex - start.monthIndex).toNat, List.mem_range.mpr (by omega), ?_⟩
      rw [Int.toNat_of_nonneg (by omega), add_sub_cancel]
      exact hend.symm
  · rw [lastDays, List.pairwise_map]
    apply List.pairwise_lt_range.imp
    intro j k hlt
    exact Periods.lastPoint_lt_lastPoint.mpr (by omega)

/-- Every point of the series is about the day that it was computed for. -/
theorem periodEnds_mapM {service : ReportingService} {store : ProjectStore} {projectId : String}
    {baselineId : Option String} {points : List Date} {series : List EvmSeriesPoint}
    (h : List.Forall₂ (fun point row =>
      evmSeriesPoint service store projectId baselineId point = .ok row) points series) :
    series.map EvmSeriesPoint.periodEnd = points := by
  induction h with
  | nil => rfl
  | cons hhead _ ih =>
      obtain ⟨evm, -, hhead⟩ := bind_ok hhead
      obtain rfl := Except.ok.inj hhead
      rw [List.map_cons, ih]

/-- The loop ends, at the ends of the months from the first one to that of the report, and the
series has a point for each of them. -/
theorem getEvmSeries_monthEnds {service : ReportingService} {store : ProjectStore}
    {projectId : String} {baselineId : Option String} {asOf : Option Date} {project : Project}
    {series : List EvmSeriesPoint} (hproject : store.projects.get? projectId = some project)
    (h : getEvmSeries service store projectId baselineId asOf = .ok series) :
    (∀ start day, ∃ points, seriesPoints start day = some points ∧ MonthEnds start day points) ∧
      MonthEnds (seriesStart store projectId baselineId project (asOf.getD service.today))
        (asOf.getD service.today) (series.map EvmSeriesPoint.periodEnd) := by
  have hpoints : ∀ start day : Date, ∃ points,
      seriesPoints start day = some points ∧ MonthEnds start day points :=
    fun start day => ⟨_, seriesPoints_eq start day, monthEnds_lastDays start day⟩
  refine ⟨hpoints, ?_⟩
  obtain ⟨_, -, h⟩ := bind_ok h
  rw [hproject] at h
  obtain ⟨found, hloop, h⟩ := bind_ok h
  obtain ⟨points, hpoints, hends⟩ := hpoints
    (seriesStart store projectId baselineId project (asOf.getD service.today))
    (asOf.getD service.today)
  obtain rfl := Option.some.inj (hpoints.symm.trans (require_eq_ok.mp hloop))
  rwa [periodEnds_mapM (mapM_eq_ok.mp h)]

/-- The series of the week of work has its two points at the ends of January and February. -/
theorem getEvmSeries_monthEnds_week :
    ∃ series, getEvmSeries reportViewer (weekStore 500) "p" (some "b") (some 40) = .ok series ∧
      series.map EvmSeriesPoint.periodEnd = [31, 59] ∧ MonthEnds 1 40 [31, 59] := by
  have hseries : (getEvmSeries reportViewer (weekStore 500) "p" (some "b") (some 40)).toOption.map
      (fun series => series.map EvmSeriesPoint.periodEnd) = some [31, 59] := by
    decide +kernel
  obtain ⟨series, hok, hends⟩ := Option.map_eq_some_iff.mp hseries
  have hok := toOption_eq_some.mp hok
  refine ⟨series, hok, hends, ?_⟩
  have hpoints := (getEvmSeries_monthEnds rfl hok).2
  rw [hends] at hpoints
  exact hpoints

end ProjectManager
