import Mathlib.Algebra.BigOperators.Group.Finset.Basic
import ProjectManager.Foundation.Tables

/-! # Amounts by key

A dictionary that collects amounts: an amount goes to the bucket of its key. A
total over buckets is a total over the amounts that went in.
-/

namespace Foundation

abbrev Buckets (κ M : Type*) := Table (Prod.fst : κ × M → κ)

namespace Buckets

variable {κ M : Type*}

def total [Zero M] [Add M] (buckets : Buckets κ M) (keep : κ → Prop) [DecidablePred keep] : M :=
  buckets.sum fun bucket => if keep bucket.1 then bucket.2 else 0

/-- A total splits into those with a property and those without. -/
theorem total_split [AddCommMonoid M] (buckets : Buckets κ M) (keep p : κ → Prop)
    [DecidablePred keep] [DecidablePred p] :
    buckets.total keep = buckets.total (fun key => keep key ∧ ¬ p key) +
      buckets.total fun key => keep key ∧ p key := by
  unfold total Table.sum
  rw [← List.sum_map_add]
  refine congrArg List.sum (List.map_congr_left fun bucket _ => ?_)
  by_cases hkeep : keep bucket.1 <;> by_cases hp : p bucket.1 <;> simp [hkeep, hp]

variable [DecidableEq κ]

def amount [Zero M] (buckets : Buckets κ M) (key : κ) : M :=
  ((buckets.get? key).map Prod.snd).getD 0

variable [AddCommGroup M] (buckets : Buckets κ M)

def add (key : κ) (amount : M) : Buckets κ M :=
  if key ∈ buckets.ids then buckets.update (key, buckets.amount key + amount)
  else buckets.insert (key, amount)

/-- Add amounts one after the other. -/
def addAll (items : List (κ × M)) : Buckets κ M :=
  items.foldl (fun current item => current.add item.1 item.2) buckets

theorem total_add (key : κ) (amount : M) (keep : κ → Prop) [DecidablePred keep] :
    (buckets.add key amount).total keep =
      buckets.total keep + if keep key then amount else 0 := by
  unfold add
  split
  next hmem =>
    obtain ⟨⟨_, old⟩, -, rfl, hbucket⟩ := buckets.exists_of_mem_ids hmem
    rw [Buckets.amount, hbucket, total, Table.sum_update (by exact hbucket), ← total]
    dsimp only [Option.map_some, Option.getD_some]
    split
    next => rw [sub_add, sub_add_cancel_left, sub_neg_eq_add]
    next => rw [sub_zero]
  next hmem =>
    rw [total, Table.sum_insert hmem, ← total, add_comm]

theorem total_addAll (items : List (κ × M)) (keep : κ → Prop) [DecidablePred keep] :
    (buckets.addAll items).total keep =
      buckets.total keep + (items.map fun item => if keep item.1 then item.2 else 0).sum := by
  induction items generalizing buckets with
  | nil => exact (add_zero _).symm
  | cons item rest ih =>
      rw [List.map_cons, List.sum_cons, ← add_assoc, ← total_add]
      exact ih (buckets.add item.1 item.2)

theorem sum_amount {keys : List κ} (hkeys : keys.Nodup) (hsub : ∀ key ∈ buckets.ids, key ∈ keys)
    (keep : κ → Prop) [DecidablePred keep] :
    (keys.map fun key => if keep key then buckets.amount key else 0).sum =
      buckets.total keep := by
  have hrows : (buckets.rows.map fun bucket => if keep bucket.1 then bucket.2 else 0) =
      buckets.ids.map fun key => if keep key then buckets.amount key else 0 := by
    rw [Table.ids, List.map_map]
    refine List.map_congr_left fun bucket hbucket => ?_
    rw [Function.comp_apply, Buckets.amount, buckets.get?_of_mem hbucket]
    rfl
  have hids : buckets.ids.Nodup := buckets.nodup
  rw [total, Table.sum, hrows, ← List.sum_toFinset _ hkeys, ← List.sum_toFinset _ hids]
  symm
  apply Finset.sum_subset
  · intro key hkey
    exact List.mem_toFinset.mpr (hsub key (List.mem_toFinset.mp hkey))
  · intro key _ hnot
    have hnone : buckets.get? key = none :=
      Table.get?_eq_none.mpr fun hmem => hnot (List.mem_toFinset.mpr hmem)
    rw [Buckets.amount, hnone]
    exact ite_self 0

theorem rows_add_ne_nil (key : κ) (amount : M) : (buckets.add key amount).rows ≠ [] := by
  unfold add
  split
  next hmem =>
    rw [← Table.ids_update (key, buckets.amount key + amount)] at hmem
    obtain ⟨row, hrow, -⟩ := Table.exists_of_mem_ids _ hmem
    exact List.ne_nil_of_mem hrow
  next hmem =>
    rw [Table.rows_insert hmem]
    exact List.cons_ne_nil _ _

theorem amount_add (key : κ) (amount : M) (other : κ) :
    (buckets.add key amount).amount other =
      buckets.amount other + if other = key then amount else 0 := by
  unfold add
  split
  next hmem =>
    obtain ⟨⟨_, old⟩, -, rfl, hbucket⟩ := buckets.exists_of_mem_ids hmem
    split
    next hkey =>
      subst hkey
      rw [Buckets.amount, Table.get?_update_self (by exact hbucket)]
      rfl
    next hkey =>
      rw [Buckets.amount, Table.get?_update_of_ne (by exact hkey), ← Buckets.amount, add_zero]
  next hmem =>
    split
    next hkey =>
      subst hkey
      have hnone : buckets.amount other = 0 := by
        rw [Buckets.amount, Table.get?_eq_none.mpr hmem]
        rfl
      rw [hnone, zero_add, Buckets.amount, Table.get?_insert_self (by exact hmem)]
      rfl
    next hkey =>
      rw [Buckets.amount, Table.get?_insert_of_ne (by exact hkey), ← Buckets.amount, add_zero]

theorem amount_addAll (items : List (κ × M)) (key : κ) :
    (buckets.addAll items).amount key =
      buckets.amount key + (items.map fun item => if key = item.1 then item.2 else 0).sum := by
  induction items generalizing buckets with
  | nil => exact (add_zero _).symm
  | cons item rest ih =>
      rw [List.map_cons, List.sum_cons, ← add_assoc, ← amount_add]
      exact ih (buckets.add item.1 item.2)

/-- A bucket after an addition is an old one, or that of the key. -/
theorem mem_add {key : κ} {amount : M} {bucket : κ × M}
    (h : bucket ∈ (buckets.add key amount).rows) :
    bucket ∈ buckets.rows ∨ bucket = (key, buckets.amount key + amount) := by
  unfold add at h
  split at h
  next =>
    rcases Table.mem_update_iff.mp h with ⟨rfl, -⟩ | ⟨hmem, -⟩
    · exact Or.inr rfl
    · exact Or.inl hmem
  next hmem =>
    have hnone : buckets.amount key = 0 := by
      rw [Buckets.amount, Table.get?_eq_none.mpr hmem]
      rfl
    rw [hnone, zero_add]
    exact (Table.mem_insert h).symm

end Buckets

end Foundation
