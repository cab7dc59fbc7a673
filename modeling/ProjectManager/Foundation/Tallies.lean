import Mathlib.Algebra.BigOperators.Ring.Finset
import Mathlib.Algebra.BigOperators.Ring.List
import Mathlib.Algebra.Order.BigOperators.Group.List
import Mathlib.Algebra.Order.Field.Basic
import Mathlib.Data.Nat.Cast.Order.Field
import Mathlib.Tactic.Positivity
import ProjectManager.Foundation.Buckets

/-! # Tallies

Amounts that are added up entry by entry. Two tallies of the same entries, of which
one counts no more than the other, come to the same amount exactly when they count
every entry alike.
-/

namespace Foundation

variable {α β M : Type*}

section

variable [AddCommMonoid M] (items : List α) (amount : β → M)

theorem sum_map_flatMap (entries : α → List β) :
    ((items.flatMap entries).map amount).sum =
      (items.map fun item => ((entries item).map amount).sum).sum := by
  induction items with
  | nil => rfl
  | cons item rest ih =>
      rw [List.flatMap_cons, List.map_append, List.sum_append, ih, List.map_cons, List.sum_cons]

theorem sum_map_filterMap (entry : α → Option β) :
    ((items.filterMap entry).map amount).sum =
      (items.map fun item => ((entry item).map amount).getD 0).sum := by
  induction items with
  | nil => rfl
  | cons item rest ih =>
      rw [List.map_cons, List.sum_cons, ← ih]
      cases hentry : entry item with
      | none => rw [List.filterMap_cons_none hentry, Option.map_none, Option.getD_none, zero_add]
      | some row => rw [List.filterMap_cons_some hentry]; rfl

theorem sum_map_filter (entries : List β) (keep : β → Bool) :
    ((entries.filter keep).map amount).sum =
      (entries.map fun entry => if keep entry = true then amount entry else 0).sum := by
  induction entries with
  | nil => rfl
  | cons entry rest ih =>
      rw [List.map_cons, List.sum_cons, ← ih]
      by_cases hkeep : keep entry = true
      · rw [List.filter_cons_of_pos hkeep, if_pos hkeep, List.map_cons, List.sum_cons]
      · rw [List.filter_cons_of_neg hkeep, if_neg hkeep, zero_add]

end

section

variable [AddCommMonoid M] [LinearOrder M] [IsOrderedCancelAddMonoid M] {items : List α}
  {first second : α → M}

theorem sum_map_eq_iff (hle : ∀ item ∈ items, first item ≤ second item) :
    (items.map first).sum = (items.map second).sum ↔
      ∀ item ∈ items, first item = second item := by
  constructor
  · intro hsum
    by_contra hne
    push Not at hne
    obtain ⟨item, hitem, hmiss⟩ := hne
    have hlt : (items.map first).sum < (items.map second).sum :=
      List.sum_lt_sum first second hle ⟨item, hitem, lt_of_le_of_ne (hle item hitem) hmiss⟩
    exact hlt.ne hsum
  · intro hsame
    rw [List.map_congr_left hsame]

/-- What is left out of positive amounts shows. -/
theorem sum_filter_eq_iff {amount : α → M} (hpos : ∀ item ∈ items, 0 < amount item)
    {keep : α → Bool} : ((items.filter keep).map amount).sum = (items.map amount).sum ↔
      ∀ item ∈ items, keep item = true := by
  rw [sum_map_filter, sum_map_eq_iff]
  · apply forall₂_congr
    intro item hitem
    by_cases hkeep : keep item = true
    · simp [hkeep]
    · simp [hkeep, (hpos item hitem).ne]
  · intro item hitem
    split_ifs
    · exact le_rfl
    · exact (hpos item hitem).le

end

/-! ## Shares -/

section

variable {K : Type*} [Field K] [LinearOrder K] [IsStrictOrderedRing K]

/-- What falls to a weight: its part of the total weight, or an equal part of what has none. -/
def share (amount : K) (weights : List ℕ) (weight : ℕ) : K :=
  if 0 < weights.sum then amount * (weight / weights.sum) else amount / weights.length

variable {amount : K} {weights : List ℕ}

/-- Nothing is lost of an amount that is shared out. -/
theorem sum_share (h : weights ≠ []) : (weights.map (share amount weights)).sum = amount := by
  by_cases hpos : 0 < weights.sum
  · have hne : (weights.sum : K) ≠ 0 := Nat.cast_ne_zero.mpr hpos.ne'
    have hparts : weights.map (share amount weights) =
        weights.map fun weight : ℕ => amount / weights.sum * (weight : K) := by
      apply List.map_congr_left
      intro weight _
      rw [share, if_pos hpos, mul_div_assoc', mul_div_right_comm]
    rw [hparts, List.sum_map_mul_left, ← Nat.cast_list_sum, div_mul_cancel₀ _ hne]
  · have hne : (weights.length : K) ≠ 0 := by
      simpa using h
    have hparts : weights.map (share amount weights) =
        weights.map fun _ => amount / weights.length := by
      apply List.map_congr_left
      intro weight _
      rw [share, if_neg hpos]
    rw [hparts, List.map_const', List.sum_replicate, nsmul_eq_mul, mul_div_cancel₀ _ hne]

theorem share_nonneg (hamount : 0 ≤ amount) (weight : ℕ) : 0 ≤ share amount weights weight := by
  unfold share
  split <;> positivity

end

namespace Buckets

variable {κ : Type*} [DecidableEq κ]

theorem sum_addAll [AddCommGroup M] (items : List (κ × M)) :
    (addAll .empty items).sum Prod.snd = (items.map Prod.snd).sum := by
  have htotal := total_addAll .empty items fun _ => True
  simp only [total, if_true] at htotal
  exact htotal.trans (zero_add _)

theorem sum_map_amount [AddCommGroup M] (buckets : Buckets κ M) {keys : List κ}
    (hkeys : keys.Nodup) :
    (keys.map buckets.amount).sum = buckets.total fun key => key ∈ keys := by
  have hall : (keys ++ buckets.ids.filter fun key => key ∉ keys).Nodup := by
    refine List.nodup_append.mpr ⟨hkeys, buckets.nodup.filter _, ?_⟩
    rintro key hkey _ hother rfl
    exact of_decide_eq_true (List.mem_filter.mp hother).2 hkey
  rw [← buckets.sum_amount hall (fun key hkey => ?_) fun key => key ∈ keys, List.map_append,
    List.sum_append]
  · have hfirst : (keys.map fun key => if key ∈ keys then buckets.amount key else 0) =
        keys.map buckets.amount := List.map_congr_left fun key hkey => if_pos hkey
    have hrest : ((buckets.ids.filter fun key => key ∉ keys).map fun key =>
        if key ∈ keys then buckets.amount key else 0).sum = 0 := by
      refine List.sum_eq_zero (List.forall_mem_map.mpr fun key hkey => if_neg ?_)
      exact of_decide_eq_true (List.mem_filter.mp hkey).2
    rw [hfirst, hrest, add_zero]
  · by_cases hmem : key ∈ keys
    · exact List.mem_append_left _ hmem
    · exact List.mem_append_right _ (List.mem_filter.mpr ⟨hkey, decide_eq_true hmem⟩)

/-- Positive amounts come to nothing only when there are none. -/
theorem sum_addAll_le_iff [AddCommGroup M] [LinearOrder M] [IsOrderedAddMonoid M]
    {items : List (κ × M)} (hpos : ∀ item ∈ items, 0 < item.2) :
    (addAll .empty items).sum Prod.snd ≤ 0 ↔ items = [] := by
  rw [sum_addAll]
  constructor
  · intro hle
    by_contra hne
    refine not_le.mpr (List.sum_pos _ ?_ (mt List.map_eq_nil_iff.mp hne)) hle
    exact List.forall_mem_map.mpr hpos
  · rintro rfl
    exact le_rfl

end Buckets

end Foundation
