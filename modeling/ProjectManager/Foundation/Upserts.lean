import Mathlib.Data.List.Nodup
import Mathlib.Data.List.ReduceOption

/-! # What upserts do and what is forecast of them

A list of rows is upserted by key, where a row without a key is rejected. A
forecast judges every row by the keys that were known before the first one. The
forecast is right exactly when no new key comes twice.
-/

namespace Foundation

inductive UpsertAction
  | created
  | updated
  | rejected
  deriving DecidableEq

variable {κ : Type*} [DecidableEq κ]

namespace UpsertAction

/-- What becomes of a row while the given keys are known. -/
def of (known : List κ) : Option κ → UpsertAction
  | none => .rejected
  | some key => if key ∈ known then .updated else .created

/-- The keys that are known after a row. -/
def learn (known : List κ) (key : Option κ) : List κ :=
  match key with
  | none => known
  | some key => if key ∈ known then known else key :: known

end UpsertAction

open UpsertAction

/-- What becomes of the rows that are upserted in turn. -/
def upsertActions (known : List κ) : List (Option κ) → List UpsertAction
  | [] => []
  | key :: rest => of known key :: upsertActions (learn known key) rest

def newKeys (known : List κ) (keys : List (Option κ)) : List κ :=
  keys.reduceOption.filter fun key => key ∉ known

theorem mem_newKeys {known : List κ} {keys : List (Option κ)} {key : κ} :
    key ∈ newKeys known keys ↔ some key ∈ keys ∧ key ∉ known := by
  unfold newKeys
  rw [List.mem_filter, List.reduceOption_mem_iff, decide_eq_true_iff]

theorem mem_learn {known : List κ} {key : κ} {other : κ} :
    other ∈ learn known (some key) ↔ other = key ∨ other ∈ known := by
  change other ∈ (if key ∈ known then known else key :: known) ↔ _
  split
  next hknown => exact ⟨Or.inr, fun h => h.elim (fun heq => heq ▸ hknown) id⟩
  next => exact List.mem_cons

theorem of_eq_iff {known current : List κ} {key : κ} (hsub : known ⊆ current) :
    of current (some key) = of known (some key) ↔ (key ∈ current → key ∈ known) := by
  unfold of
  by_cases hknown : key ∈ known
  · simp [hknown, hsub hknown]
  · by_cases hcurrent : key ∈ current <;> simp [hknown, hcurrent]

/-- While more keys are known than at first, the forecast is right for the rows that are left when
their new keys come once and have not come yet. -/
theorem upsertActions_eq_iff_of_subset {known current : List κ} (hsub : known ⊆ current)
    (keys : List (Option κ)) :
    upsertActions current keys = keys.map (of known) ↔
      (newKeys known keys).Nodup ∧ ∀ key ∈ newKeys known keys, key ∉ current := by
  induction keys generalizing current with
  | nil => simp [upsertActions, newKeys]
  | cons first rest ih =>
      rw [upsertActions, List.map_cons, List.cons.injEq]
      cases first with
      | none => exact (and_iff_right rfl).trans (ih hsub)
      | some key =>
          have hlearn : known ⊆ learn current (some key) :=
            fun other hother => mem_learn.mpr (.inr (hsub hother))
          rw [of_eq_iff hsub, ih hlearn]
          by_cases hknown : key ∈ known
          · have hsame : newKeys known (some key :: rest) = newKeys known rest := by
              simp [newKeys, List.reduceOption_cons_of_some, hknown]
            rw [hsame, and_iff_right fun _ => hknown]
            refine and_congr_right fun _ => forall₂_congr fun other hother => not_congr ?_
            rw [mem_learn, or_iff_right]
            rintro rfl
            exact (mem_newKeys.mp hother).2 hknown
          · have hnew : newKeys known (some key :: rest) = key :: newKeys known rest := by
              simp [newKeys, List.reduceOption_cons_of_some, hknown]
            rw [hnew, List.nodup_cons, List.forall_mem_cons]
            constructor
            · rintro ⟨hcurrent, hnodup, hrest⟩
              refine ⟨⟨fun hkey => hrest key hkey (mem_learn.mpr (.inl rfl)), hnodup⟩,
                fun hkey => hknown (hcurrent hkey), fun other hother hmem => ?_⟩
              exact hrest other hother (mem_learn.mpr (.inr hmem))
            · rintro ⟨⟨hkey, hnodup⟩, hcurrent, hrest⟩
              refine ⟨fun hmem => absurd hmem hcurrent, hnodup, fun other hother hmem => ?_⟩
              rcases mem_learn.mp hmem with rfl | hmem
              · exact hkey hother
              · exact hrest other hother hmem

/-- The forecast of all rows is right exactly when no new key comes twice. -/
theorem upsertActions_eq_iff (known : List κ) (keys : List (Option κ)) :
    upsertActions known keys = keys.map (of known) ↔ (newKeys known keys).Nodup := by
  rw [upsertActions_eq_iff_of_subset (List.Subset.refl known), and_iff_left]
  exact fun key hkey => (mem_newKeys.mp hkey).2

end Foundation
