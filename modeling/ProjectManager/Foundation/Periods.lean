import Mathlib.Algebra.Order.Group.Int
import Mathlib.Data.Int.ConditionallyCompleteOrder
import Mathlib.Order.Monotone.Basic
import Mathlib.Order.SuccPred.IntervalSucc
import Mathlib.Tactic.Ring

/-! # Consecutive periods

The integers fall into consecutive periods, such as the months of a calendar. A
point is the place that it has within its period. A shift by whole periods keeps
the offset, but in a shorter period it stops at the last point.
-/

namespace Foundation

/-- The points of a period come after `start`. -/
structure Periods where
  start : ℤ → ℤ
  length : ℤ → ℤ
  length_pos : ∀ i, 0 < length i
  start_succ : ∀ i, start (i + 1) = start i + length i

/-- The offset counts from one. -/
structure Place where
  period : ℤ
  offset : ℤ
  deriving DecidableEq

namespace Periods

variable (periods : Periods)

def Contains (place : Place) : Prop := 1 ≤ place.offset ∧ place.offset ≤ periods.length place.period

def point (place : Place) : ℤ := periods.start place.period + place.offset

def lastPoint (i : ℤ) : ℤ := periods.start (i + 1)

def shift (place : Place) (count : ℤ) : Place where
  period := place.period + count
  offset := min place.offset (periods.length (place.period + count))

variable {periods}

theorem start_le_start {i j : ℤ} (h : i ≤ j) : periods.start i ≤ periods.start j := by
  refine monotone_int_of_le_succ (fun k => ?_) h
  have hpos := periods.length_pos k
  rw [periods.start_succ]
  omega

theorem start_strictMono : StrictMono periods.start := by
  refine strictMono_int_of_lt_succ fun i => ?_
  have hpos := periods.length_pos i
  rw [periods.start_succ]
  omega

theorem point_le_start {place : Place} (h : periods.Contains place) :
    periods.point place ≤ periods.start (place.period + 1) := by
  rw [periods.start_succ]
  exact Int.add_le_add_left h.2 _

theorem start_lt_point {place : Place} (h : periods.Contains place) :
    periods.start place.period < periods.point place :=
  Int.lt_add_of_pos_right _ (by have := h.1; omega)

theorem point_last (i : ℤ) : periods.point ⟨i, periods.length i⟩ = periods.lastPoint i :=
  (periods.start_succ i).symm

theorem contains_last (i : ℤ) : periods.Contains ⟨i, periods.length i⟩ :=
  ⟨periods.length_pos i, le_rfl⟩

theorem start_lt_lastPoint (i : ℤ) : periods.start i < periods.lastPoint i := by
  have hpos := periods.length_pos i
  rw [lastPoint, periods.start_succ]
  omega

theorem lastPoint_le_lastPoint {i j : ℤ} (h : i ≤ j) : periods.lastPoint i ≤ periods.lastPoint j :=
  start_le_start (Int.add_le_add_right h 1)

/-- A period ends before the points of a later one. -/
theorem lastPoint_le_start {i j : ℤ} (h : i < j) : periods.lastPoint i ≤ periods.start j :=
  start_le_start h

theorem lastPoint_lt_lastPoint {i j : ℤ} : periods.lastPoint i < periods.lastPoint j ↔ i < j := by
  constructor
  · intro h
    by_contra hle
    exact not_le.mpr h (lastPoint_le_lastPoint (not_lt.mp hle))
  · exact fun h => (lastPoint_le_start h).trans_lt (start_lt_lastPoint j)

theorem point_lt_point {first second : Place} (hfirst : periods.Contains first)
    (hsecond : periods.Contains second) (h : first.period < second.period) :
    periods.point first < periods.point second :=
  calc periods.point first
    _ ≤ periods.start (first.period + 1) := point_le_start hfirst
    _ ≤ periods.start second.period := start_le_start h
    _ < periods.point second := start_lt_point hsecond

theorem period_le_period {first second : Place} (hfirst : periods.Contains first)
    (hsecond : periods.Contains second) (h : periods.point first ≤ periods.point second) :
    first.period ≤ second.period := by
  by_contra hlt
  have hpoint := point_lt_point hsecond hfirst (by omega)
  omega

theorem mem_period_iff {place : Place} (h : periods.Contains place) {i : ℤ} :
    periods.start i < periods.point place ∧ periods.point place ≤ periods.lastPoint i ↔
      place.period = i := by
  constructor
  · rintro ⟨hstart, hlast⟩
    rcases lt_trichotomy place.period i with hlt | heq | hgt
    · have hbefore := (point_le_start h).trans (lastPoint_le_start hlt)
      omega
    · exact heq
    · have hafter := (lastPoint_le_start hgt).trans_lt (start_lt_point h)
      omega
  · rintro rfl
    exact ⟨start_lt_point h, point_le_start h⟩

theorem eq_of_point_eq {first second : Place} (hfirst : periods.Contains first)
    (hsecond : periods.Contains second) (h : periods.point first = periods.point second) :
    first = second := by
  have hperiod : first.period = second.period := le_antisymm
    (period_le_period hfirst hsecond h.le) (period_le_period hsecond hfirst h.ge)
  cases first
  cases second
  simp only at hperiod
  subst hperiod
  simpa [point] using h

theorem Contains.shift {place : Place} (h : periods.Contains place) (count : ℤ) :
    periods.Contains (periods.shift place count) := by
  have hpos := periods.length_pos (place.period + count)
  refine ⟨le_min h.1 ?_, min_le_right _ _⟩
  omega

/-- A shift keeps the order of points. -/
theorem shift_mono {first second : Place} (hfirst : periods.Contains first)
    (hsecond : periods.Contains second) (h : periods.point first ≤ periods.point second)
    (count : ℤ) : periods.point (periods.shift first count) ≤ periods.point (periods.shift second count) := by
  rcases (period_le_period hfirst hsecond h).lt_or_eq with hlt | heq
  · exact (point_lt_point (hfirst.shift count) (hsecond.shift count)
      (Int.add_lt_add_right hlt count)).le
  · have hoffset : first.offset ≤ second.offset := by
      unfold point at h
      rw [heq] at h
      omega
    unfold point Periods.shift
    rw [heq]
    exact Int.add_le_add_left (min_le_min_right _ hoffset) _

theorem lt_shift {place : Place} (h : periods.Contains place) {count : ℤ} (hcount : 0 < count) :
    periods.point place < periods.point (periods.shift place count) :=
  point_lt_point h (h.shift count) (Int.lt_add_of_pos_right _ hcount)

theorem shift_lt {place : Place} (h : periods.Contains place) {count : ℤ} (hcount : count < 0) :
    periods.point (periods.shift place count) < periods.point place :=
  point_lt_point (h.shift count) h (show place.period + count < place.period by omega)

theorem shift_zero {place : Place} (h : periods.Contains place) : periods.shift place 0 = place := by
  unfold Periods.shift
  rw [add_zero, min_eq_left h.2]

/-- Two shifts are one shift when the offset is not cut in the middle to less than what the last
period has room for. -/
theorem shift_shift_eq_iff {place : Place} {middle count : ℤ} :
    periods.shift (periods.shift place middle) count = periods.shift place (middle + count) ↔
      min place.offset (periods.length (place.period + (middle + count))) ≤
        periods.length (place.period + middle) := by
  unfold Periods.shift
  simp only [Place.mk.injEq, add_assoc, true_and]
  omega

end Periods

end Foundation
