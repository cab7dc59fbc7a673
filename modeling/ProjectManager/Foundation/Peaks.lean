import Mathlib.Algebra.Order.BigOperators.Group.List
import Mathlib.Data.Finset.Card
import Mathlib.Data.List.MinMax
import ProjectManager.Foundation.Buckets

/-! # Peaks

The peak of a load is the largest amount that it reaches on some days, and
nothing where it never reaches more. The peaks of several loads add up to at
least the peak of the loads taken together, and to no more exactly when there is
a day on which every load is at its peak.
-/

namespace Foundation

variable {δ ι M : Type*}

structure IsPeak [Zero M] [LE M] (days : Set δ) (load : δ → M) (peak : M) : Prop where
  nonneg : 0 ≤ peak
  le : ∀ day ∈ days, load day ≤ peak
  reached : peak = 0 ∨ ∃ day ∈ days, load day = peak

/-- Several loads taken together. -/
def combined [Zero M] [Add M] (members : List ι) (load : ι → δ → M) (day : δ) : M :=
  (members.map fun member => load member day).sum

def PeaksMeet [Zero M] (days : Set δ) (members : List ι) (load : ι → δ → M) (peak : ι → M) :
    Prop :=
  (∀ member ∈ members, peak member = 0) ∨
    ∃ day ∈ days, ∀ member ∈ members, load member day = peak member

namespace IsPeak

variable {days : Set δ}

theorem congr [Zero M] [LE M] {load next : δ → M} {peak : M} (h : IsPeak days load peak)
    (hload : ∀ day ∈ days, next day = load day) : IsPeak days next peak where
  nonneg := h.nonneg
  le day hday := hload day hday ▸ h.le day hday
  reached := by
    apply h.reached.imp_right
    rintro ⟨day, hday, hreached⟩
    exact ⟨day, hday, (hload day hday).trans hreached⟩

section

variable [Zero M] [LinearOrder M] {load : δ → M} {peak : M}

theorem le_of_bound (h : IsPeak days load peak) {bound : M} (hnonneg : 0 ≤ bound)
    (hbound : ∀ day ∈ days, load day ≤ bound) : peak ≤ bound := by
  rcases h.reached with hzero | ⟨day, hday, hreached⟩
  · exact hzero.trans_le hnonneg
  · exact hreached ▸ hbound day hday

theorem lt_iff (h : IsPeak days load peak) (hdays : days.Nonempty)
    (hload : ∀ day ∈ days, 0 ≤ load day) {bound : M} :
    bound < peak ↔ ∃ day ∈ days, bound < load day := by
  constructor
  · intro hlt
    rcases h.reached with hzero | ⟨day, hday, hreached⟩
    · obtain ⟨day, hday⟩ := hdays
      exact ⟨day, hday, (hzero ▸ hlt).trans_le (hload day hday)⟩
    · exact ⟨day, hday, hreached ▸ hlt⟩
  · rintro ⟨day, hday, hlt⟩
    exact hlt.trans_le (h.le day hday)

end

section

variable [AddCommGroup M] [LinearOrder M] [IsOrderedAddMonoid M] {members : List ι}
  {load : ι → δ → M} {peak : ι → M} {total : M}

theorem sum_nonneg (h : ∀ member ∈ members, IsPeak days (load member) (peak member)) :
    0 ≤ (members.map peak).sum := by
  apply List.sum_nonneg
  intro amount hamount
  obtain ⟨member, hmember, rfl⟩ := List.mem_map.mp hamount
  exact (h member hmember).nonneg

theorem le_sum (h : ∀ member ∈ members, IsPeak days (load member) (peak member))
    (htotal : IsPeak days (combined members load) total) : total ≤ (members.map peak).sum := by
  apply htotal.le_of_bound (sum_nonneg h)
  intro day hday
  exact List.sum_le_sum fun member hmember => (h member hmember).le day hday

/-- Amounts that add up to as much as their bounds are at their bounds. -/
theorem eq_of_sum_eq {amount : ι → M} (hle : ∀ member ∈ members, amount member ≤ peak member)
    (hsum : (members.map amount).sum = (members.map peak).sum) :
    ∀ member ∈ members, amount member = peak member := by
  by_contra hne
  push Not at hne
  obtain ⟨member, hmember, hmiss⟩ := hne
  have hlt : (members.map amount).sum < (members.map peak).sum :=
    List.sum_lt_sum amount peak hle ⟨member, hmember, lt_of_le_of_ne (hle member hmember) hmiss⟩
  exact hlt.ne hsum

theorem eq_sum_iff (h : ∀ member ∈ members, IsPeak days (load member) (peak member))
    (htotal : IsPeak days (combined members load) total) :
    total = (members.map peak).sum ↔ PeaksMeet days members load peak := by
  constructor
  · intro hsum
    rcases htotal.reached with hzero | ⟨day, hday, hreached⟩
    · left
      intro member hmember
      have hnone : (members.map fun _ => (0 : M)).sum = (members.map peak).sum := by
        rw [← hsum, hzero, List.map_const', List.sum_replicate, nsmul_zero]
      exact (eq_of_sum_eq (fun other hother => (h other hother).nonneg) hnone member hmember).symm
    · right
      exact ⟨day, hday, eq_of_sum_eq (fun member hmember => (h member hmember).le day hday)
        (hreached.trans hsum)⟩
  · intro hmeet
    apply le_antisymm (le_sum h htotal)
    rcases hmeet with hzero | ⟨day, hday, hmeet⟩
    · rw [List.map_congr_left hzero, List.map_const', List.sum_replicate, nsmul_zero]
      exact htotal.nonneg
    · rw [← List.map_congr_left hmeet]
      exact htotal.le day hday

end

end IsPeak

/-! ## The largest bucket -/

namespace Buckets

variable {κ : Type*}

/-- The largest amount in the buckets, none when there are no buckets. -/
def maxValue [Zero M] [Max M] (buckets : Buckets κ M) : M :=
  (buckets.rows.map Prod.snd).max?.getD 0

/-- The buckets are for some of the days, and none holds less than nothing. -/
def Within [Zero M] [LE M] (days : Set κ) (buckets : Buckets κ M) : Prop :=
  ∀ bucket ∈ buckets.rows, bucket.1 ∈ days ∧ 0 ≤ bucket.2

variable [DecidableEq κ] {buckets : Buckets κ M} {days : Set κ}

theorem amount_eq_zero_or_mem [Zero M] (buckets : Buckets κ M) (day : κ) :
    buckets.amount day = 0 ∨ (day, buckets.amount day) ∈ buckets.rows := by
  unfold amount
  cases hbucket : buckets.get? day with
  | none => exact Or.inl rfl
  | some bucket =>
      obtain ⟨hmem, rfl⟩ := buckets.get?_eq_some hbucket
      exact Or.inr hmem

theorem amount_nonneg [Zero M] [Preorder M] (h : buckets.Within days) (day : κ) :
    0 ≤ buckets.amount day := by
  rcases amount_eq_zero_or_mem buckets day with hzero | hmem
  · exact hzero.ge
  · exact (h _ hmem).2

theorem within_addAll [AddCommGroup M] [PartialOrder M] [IsOrderedAddMonoid M]
    (h : buckets.Within days) {items : List (κ × M)}
    (hitems : ∀ item ∈ items, item.1 ∈ days ∧ 0 ≤ item.2) :
    (buckets.addAll items).Within days := by
  induction items generalizing buckets with
  | nil => exact h
  | cons item rest ih =>
      obtain ⟨hday, hamount⟩ := hitems item List.mem_cons_self
      apply ih _ fun other hother => hitems other (List.mem_cons_of_mem _ hother)
      intro bucket hbucket
      rcases buckets.mem_add hbucket with hold | rfl
      · exact h bucket hold
      · exact ⟨hday, add_nonneg (amount_nonneg h item.1) hamount⟩

theorem isPeak_maxValue [Zero M] [LinearOrder M] (h : buckets.Within days) :
    IsPeak days buckets.amount buckets.maxValue := by
  unfold maxValue
  cases hmax : (buckets.rows.map Prod.snd).max? with
  | none =>
      have hrows : buckets.rows = [] := List.map_eq_nil_iff.mp (List.max?_eq_none_iff.mp hmax)
      constructor
      · exact le_rfl
      · intro day _
        rcases amount_eq_zero_or_mem buckets day with hzero | hmem
        · exact hzero.le
        · rw [hrows] at hmem
          cases hmem
      · exact Or.inl rfl
  | some peak =>
      obtain ⟨hmem, hle⟩ := List.max?_eq_some_iff.mp hmax
      obtain ⟨⟨top, amount⟩, hbucket, rfl⟩ := List.mem_map.mp hmem
      constructor
      · exact (h _ hbucket).2
      · intro day _
        rcases amount_eq_zero_or_mem buckets day with hzero | hday
        · exact hzero.trans_le (h _ hbucket).2
        · exact hle _ (List.mem_map_of_mem hday)
      · refine Or.inr ⟨top, (h _ hbucket).1, ?_⟩
        unfold Buckets.amount
        rw [buckets.get?_of_mem hbucket]
        rfl

end Buckets

/-! ## Moved shares -/

def Tips [Add M] [LE M] [LT M] (amount limit share : M) : Prop :=
  amount ≤ limit ∧ limit < amount + share

instance [Add M] [LE M] [LT M] [DecidableLE M] [DecidableLT M] (amount limit share : M) :
    Decidable (Tips amount limit share) :=
  inferInstanceAs (Decidable (_ ∧ _))

/-- When a share moves from some days to others, the days over the limit change by those that it
tips where it comes and those that it tipped where it goes. -/
theorem card_over_of_moved [DecidableEq δ] [AddZeroClass M] [LinearOrder M] [AddLeftMono M]
    (amount limit share : δ → M) {before after left reached : Finset δ} (old new : δ → Prop)
    [DecidablePred old] [DecidablePred new] (hshare : ∀ day, 0 ≤ share day)
    (hbefore : ∀ day, day ∈ before ↔ limit day < amount day + if old day then share day else 0)
    (hafter : ∀ day, day ∈ after ↔ limit day < amount day + if new day then share day else 0)
    (hleft : ∀ day, day ∈ left ↔
      (old day ∧ ¬new day) ∧ Tips (amount day) (limit day) (share day))
    (hreached : ∀ day, day ∈ reached ↔
      (new day ∧ ¬old day) ∧ Tips (amount day) (limit day) (share day)) :
    after.card + left.card = before.card + reached.card := by
  have hsplit : ∀ {full tipped : Finset δ} {kept other : δ → Prop} [DecidablePred kept],
      (∀ day, day ∈ full ↔ limit day < amount day + if kept day then share day else 0) →
      (∀ day, day ∈ tipped ↔
        (other day ∧ ¬kept day) ∧ Tips (amount day) (limit day) (share day)) →
      Disjoint full tipped := by
    intro full tipped kept other _ hfull htipped
    rw [Finset.disjoint_left]
    intro day hday htips
    obtain ⟨⟨-, hnot⟩, hwithin, -⟩ := (htipped day).mp htips
    have hexceeds := (hfull day).mp hday
    rw [if_neg hnot, add_zero] at hexceeds
    exact hwithin.not_gt hexceeds
  rw [← Finset.card_union_of_disjoint (hsplit hafter hleft),
    ← Finset.card_union_of_disjoint (hsplit hbefore hreached)]
  congr 1
  ext day
  have hmore : amount day ≤ amount day + share day := le_add_of_nonneg_right (hshare day)
  rw [Finset.mem_union, Finset.mem_union, hafter, hleft, hbefore, hreached, Tips]
  by_cases hold : old day <;> by_cases hnew : new day <;>
    simp only [hold, hnew, if_true, if_false, not_true, not_false_iff, true_and, false_and,
      and_true, and_false, or_false, add_zero]
  -- The share has left the day, or it has come to it.
  · grind
  · grind

end Foundation
