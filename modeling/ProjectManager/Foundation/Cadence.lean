import Mathlib.Data.List.Chain
import Mathlib.Data.List.Iterate
import Mathlib.Data.List.Sort
import Mathlib.Order.Iterate
import Mathlib.Order.Monotone.Basic

/-! # Cadences

A cadence repeats a step that moves forward. Its points increase, and they are the
only list of increasing points with the same members.
-/

namespace Foundation

variable {α β : Type*}

def IsCadence (step : α → α) (points : List α) : Prop :=
  points.IsChain fun first second => second = step first

theorem isCadence_cons {step : α → α} {first : α} {rest : List α} :
    IsCadence step (first :: rest) ↔
      (∀ second ∈ rest.head?, second = step first) ∧ IsCadence step rest :=
  List.isChain_cons

/-- Repeated steps lead to given points when each point leads to the next one. -/
theorem iterate_eq_iff {step : α → α} {points : ℕ → α} {count : ℕ} :
    (∀ k < count, step^[k] (points 0) = points k) ↔
      ∀ k, k + 1 < count → step (points k) = points (k + 1) := by
  constructor
  · intro h k hk
    rw [← h (k + 1) hk, Function.iterate_succ_apply', h k (by omega)]
  · intro h k hk
    induction k with
    | zero => rfl
    | succ k ih => rw [Function.iterate_succ_apply', ih (by omega), h k hk]

variable [LinearOrder α]

/-- Sorted by a value in which they differ, the members of a list increase in it. -/
theorem insertionSort_pairwise_lt {f : β → α} {members : List β} (h : (members.map f).Nodup) :
    (members.insertionSort fun first second => f first ≤ f second).Pairwise
      fun first second => f first < f second := by
  have htotal : Std.Total fun first second => f first ≤ f second :=
    ⟨fun first second => le_total (f first) (f second)⟩
  have htrans : IsTrans β fun first second => f first ≤ f second :=
    ⟨fun _ _ _ hfirst hsecond => hfirst.trans hsecond⟩
  have hsorted := List.pairwise_insertionSort (fun first second => f first ≤ f second) members
  have hdistinct : (members.insertionSort fun first second => f first ≤ f second).Pairwise
      fun first second => f first ≠ f second := by
    apply List.pairwise_map.mp
    exact ((List.perm_insertionSort _ members).map f).nodup_iff.mpr h
  exact hsorted.imp₂ (fun _ _ => lt_of_le_of_ne) hdistinct

section

variable {step : α → α} (hstep : ∀ point, point < step point)

include hstep

theorem iterate_strictMono (start : α) : StrictMono fun count => step^[count] start := by
  apply strictMono_nat_of_lt_succ
  intro count
  rw [Function.iterate_succ_apply']
  exact hstep _

theorem iterate_pairwise_lt (start : α) (count : ℕ) :
    (List.iterate step start count).Pairwise (· < ·) := by
  rw [← List.range_map_iterate, List.pairwise_map]
  exact List.pairwise_lt_range.imp fun h => iterate_strictMono hstep start h

theorem lt_of_mem_iterate {start point : α} {count : ℕ}
    (h : point ∈ List.iterate step start count) : point < step^[count] start := by
  obtain ⟨index, hindex, rfl⟩ := List.mem_iterate.mp h
  exact iterate_strictMono hstep start hindex

/-- A further step leads to a new point. -/
theorem filter_iterate_succ (start : α) (count : ℕ) :
    (List.iterate step start (count + 1)).filter
        (fun point => point ∉ List.iterate step start count) = [step^[count] start] := by
  have hnew : step^[count] start ∉ List.iterate step start count :=
    fun hmem => lt_irrefl _ (lt_of_mem_iterate hstep hmem)
  have hold : (List.iterate step start count).filter
      (fun point => decide (point ∉ List.iterate step start count)) = [] :=
    List.filter_eq_nil_iff.mpr fun point hpoint => by simpa using hpoint
  rw [List.iterate_add, List.filter_append, hold]
  apply List.filter_eq_self.mpr
  intro point hpoint
  obtain rfl := List.mem_singleton.mp hpoint
  exact decide_eq_true hnew

end

end Foundation
