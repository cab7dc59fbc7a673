import Mathlib.Data.Int.Interval
import Mathlib.Data.Int.LeastGreatest
import Mathlib.Order.SuccPred.LinearLocallyFinite
import Mathlib.Tactic.Linarith

/-! # Integer sets with bounded gaps

A set of integers that meets every window of a fixed length has no first and no
last member, so its members are enumerated by the integers themselves. The
enumeration and the counting function on the other side form a Galois
connection, which replaces every search for the next or the `n`-th member by
arithmetic on positions.
-/

noncomputable section

namespace Foundation

/-- Every window of `gap` consecutive integers meets the set. -/
def BoundedGaps (W : ℤ → Prop) (gap : ℕ) : Prop :=
  ∀ d : ℤ, ∃ k : ℕ, k < gap ∧ W (d + k)

namespace BoundedGaps

variable {W : ℤ → Prop} {gap : ℕ}

theorem exists_ge (h : BoundedGaps W gap) (d : ℤ) : ∃ w, d ≤ w ∧ w < d + gap ∧ W w := by
  obtain ⟨k, hk, hw⟩ := h d
  exact ⟨d + k, by omega, by omega, hw⟩

theorem exists_lt (h : BoundedGaps W gap) (d : ℤ) : ∃ w, w < d ∧ d - gap ≤ w ∧ W w := by
  obtain ⟨w, hle, hlt, hw⟩ := h.exists_ge (d - gap)
  exact ⟨w, by omega, hle, hw⟩

/-- The members in increasing order, indexed by the integers. -/
def enumeration (h : BoundedGaps W gap) : {w : ℤ // W w} ≃o ℤ := by
  classical
  letI : SuccOrder {w : ℤ // W w} := LinearLocallyFiniteOrder.succOrder _
  letI : PredOrder {w : ℤ // W w} := LinearLocallyFiniteOrder.predOrder _
  haveI : NoMaxOrder {w : ℤ // W w} := ⟨fun w => by
    obtain ⟨v, hle, _, hv⟩ := h.exists_ge (w.1 + 1)
    exact ⟨⟨v, hv⟩, show w.1 < v by omega⟩⟩
  haveI : NoMinOrder {w : ℤ // W w} := ⟨fun w => by
    obtain ⟨v, hlt, _, hv⟩ := h.exists_lt w.1
    exact ⟨⟨v, hv⟩, hlt⟩⟩
  haveI : Nonempty {w : ℤ // W w} := by
    obtain ⟨v, _, _, hv⟩ := h.exists_ge 0
    exact ⟨⟨v, hv⟩⟩
  exact orderIsoIntOfLinearSuccPredArch

/-- The member at position `k` of the enumeration. -/
def nth (h : BoundedGaps W gap) (k : ℤ) : ℤ := (h.enumeration.symm k).1

theorem nth_mem (h : BoundedGaps W gap) (k : ℤ) : W (h.nth k) := (h.enumeration.symm k).2

theorem nth_lt_nth (h : BoundedGaps W gap) {j k : ℤ} : h.nth j < h.nth k ↔ j < k :=
  h.enumeration.symm.lt_iff_lt

theorem nth_le_nth (h : BoundedGaps W gap) {j k : ℤ} : h.nth j ≤ h.nth k ↔ j ≤ k :=
  h.enumeration.symm.le_iff_le

theorem exists_nth_eq (h : BoundedGaps W gap) {d : ℤ} (hd : W d) : ∃ k, h.nth k = d :=
  ⟨h.enumeration ⟨d, hd⟩, by simp [nth]⟩

theorem exists_least_ge (h : BoundedGaps W gap) (d : ℤ) :
    ∃ k, d ≤ h.nth k ∧ ∀ j, d ≤ h.nth j → k ≤ j := by
  classical
  obtain ⟨v, hle, _, hv⟩ := h.exists_ge d
  obtain ⟨u, hlt, _, hu⟩ := h.exists_lt d
  obtain ⟨m, hm⟩ := h.exists_nth_eq hv
  obtain ⟨l, hl⟩ := h.exists_nth_eq hu
  have hbelow : ∀ j, d ≤ h.nth j → l ≤ j := fun j hj =>
    le_of_lt (h.nth_lt_nth.mp (by omega))
  exact Int.exists_least_of_bdd ⟨l, hbelow⟩ ⟨m, by omega⟩

/-- The number of members before `d`, counted from position zero. -/
def rank (h : BoundedGaps W gap) (d : ℤ) : ℤ := Classical.choose (h.exists_least_ge d)

/-- Positions and dates form a Galois connection. -/
theorem rank_le_iff (h : BoundedGaps W gap) {d k : ℤ} : h.rank d ≤ k ↔ d ≤ h.nth k := by
  obtain ⟨hge, hleast⟩ := Classical.choose_spec (h.exists_least_ge d)
  exact ⟨fun hk => hge.trans (h.nth_le_nth.mpr hk), hleast k⟩

theorem lt_rank_iff (h : BoundedGaps W gap) {d k : ℤ} : k < h.rank d ↔ h.nth k < d := by
  rw [← not_le, h.rank_le_iff, not_le]

@[simp]
theorem rank_nth (h : BoundedGaps W gap) (k : ℤ) : h.rank (h.nth k) = k :=
  le_antisymm (h.rank_le_iff.mpr le_rfl)
    (h.nth_le_nth.mp (h.rank_le_iff.mp le_rfl))

theorem rank_mono (h : BoundedGaps W gap) {d e : ℤ} (hle : d ≤ e) : h.rank d ≤ h.rank e :=
  h.rank_le_iff.mpr (hle.trans (h.rank_le_iff.mp le_rfl))

theorem le_nth_rank (h : BoundedGaps W gap) (d : ℤ) : d ≤ h.nth (h.rank d) :=
  h.rank_le_iff.mp le_rfl

/-- A date is a member exactly when it is the member at its own rank. -/
theorem nth_rank_eq_iff (h : BoundedGaps W gap) {d : ℤ} : h.nth (h.rank d) = d ↔ W d := by
  constructor
  · intro heq
    exact heq ▸ h.nth_mem _
  · intro hd
    obtain ⟨k, rfl⟩ := h.exists_nth_eq hd
    rw [rank_nth]

/-- The member at the rank of `d` is the least member from `d` on. -/
theorem nth_rank_le (h : BoundedGaps W gap) {d w : ℤ} (hle : d ≤ w) (hw : W w) :
    h.nth (h.rank d) ≤ w := by
  obtain ⟨k, rfl⟩ := h.exists_nth_eq hw
  exact h.nth_le_nth.mpr (h.rank_le_iff.mpr hle)

/-- Passing a member raises the rank by one. -/
theorem rank_succ_of_mem (h : BoundedGaps W gap) {d : ℤ} (hd : W d) :
    h.rank (d + 1) = h.rank d + 1 := by
  obtain ⟨k, rfl⟩ := h.exists_nth_eq hd
  apply le_antisymm
  · rw [h.rank_le_iff, rank_nth]
    have := h.nth_lt_nth.mpr (show k < k + 1 by omega)
    omega
  · have : k < h.rank (h.nth k + 1) := h.lt_rank_iff.mpr (by omega)
    rw [rank_nth]
    omega

/-- Passing an integer that is no member keeps the rank. -/
theorem rank_succ_of_not_mem (h : BoundedGaps W gap) {d : ℤ} (hd : ¬ W d) :
    h.rank (d + 1) = h.rank d := by
  apply le_antisymm
  · rw [h.rank_le_iff]
    have hne : h.nth (h.rank d) ≠ d := fun heq => hd (h.nth_rank_eq_iff.mp heq)
    have := h.le_nth_rank d
    omega
  · exact h.rank_mono (by omega)

theorem nth_rank_lt_add_gap (h : BoundedGaps W gap) (d : ℤ) :
    h.nth (h.rank d) < d + gap := by
  obtain ⟨w, hle, hlt, hw⟩ := h.exists_ge d
  exact lt_of_le_of_lt (h.nth_rank_le hle hw) hlt

theorem nth_rank_sub_one_lt (h : BoundedGaps W gap) (d : ℤ) : h.nth (h.rank d - 1) < d :=
  h.lt_rank_iff.mp (by omega)

theorem nth_succ_le (h : BoundedGaps W gap) (k : ℤ) : h.nth (k + 1) ≤ h.nth k + gap := by
  have hlt := h.nth_rank_lt_add_gap (h.nth k + 1)
  rw [h.rank_succ_of_mem (h.nth_mem k), rank_nth] at hlt
  omega

theorem nth_add_le (h : BoundedGaps W gap) (k : ℤ) (n : ℕ) :
    h.nth (k + n) ≤ h.nth k + gap * n := by
  induction n with
  | zero => simp
  | succ n ih =>
      have hstep := h.nth_succ_le (k + n)
      push_cast
      rw [← add_assoc]
      linarith

/-- Members in a half-open window are counted by the difference of the ranks. -/
theorem countP_range (h : BoundedGaps W gap) [DecidablePred W] (d : ℤ) (n : ℕ) :
    (((List.range n).countP fun i : ℕ => W (d + i) : ℕ) : ℤ) = h.rank (d + n) - h.rank d := by
  induction n with
  | zero => simp
  | succ n ih =>
      rw [List.range_succ, List.countP_append]
      push_cast
      rw [ih, ← add_assoc]
      by_cases hw : W (d + n)
      · simp [hw, h.rank_succ_of_mem hw]
        omega
      · simp [hw, h.rank_succ_of_not_mem hw]

end BoundedGaps

end Foundation

end
