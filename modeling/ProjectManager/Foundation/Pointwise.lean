import Mathlib.Data.List.Forall2
import Mathlib.Data.List.MinMax
import Mathlib.Order.Lattice

/-! # Lists and optional values related entry by entry

Computations that keep a relation between the entries of two lists, or between two
values that are there or missing together.
-/

namespace Foundation

variable {α β γ δ : Type*}

section

variable {R : α → β → Prop}

theorem exists_of_mem_forall₂ {first : List α} {second : List β}
    (h : List.Forall₂ R first second) {x : α} (hx : x ∈ first) : ∃ y ∈ second, R x y := by
  induction h with
  | nil => cases hx
  | cons hentry hrest ih =>
      rcases List.mem_cons.mp hx with rfl | hx
      · exact ⟨_, List.mem_cons_self, hentry⟩
      · obtain ⟨y, hy, hxy⟩ := ih hx
        exact ⟨y, List.mem_cons_of_mem _ hy, hxy⟩

/-- What is equal for related entries is the same list. -/
theorem map_eq_of_forall₂ {f : α → γ} {g : β → γ} (hfg : ∀ x y, R x y → g y = f x)
    {first : List α} {second : List β} (h : List.Forall₂ R first second) :
    second.map g = first.map f := by
  induction h with
  | nil => rfl
  | cons hentry hrest ih => rw [List.map_cons, List.map_cons, ih, hfg _ _ hentry]

/-- Lists with the same keys are related entry by entry where entries with one key are. -/
theorem forall₂_of_map_eq {f : α → γ} {g : β → γ} {first : List α} {second : List β}
    (hkeys : second.map g = first.map f)
    (h : ∀ x ∈ first, ∀ y ∈ second, g y = f x → R x y) : List.Forall₂ R first second := by
  induction first generalizing second with
  | nil => rw [List.map_eq_nil_iff.mp hkeys]; exact .nil
  | cons x rest ih =>
      obtain ⟨y, others, rfl, hkey, hrest⟩ := List.map_eq_cons_iff.mp hkeys
      refine .cons (h x List.mem_cons_self y List.mem_cons_self hkey) (ih hrest ?_)
      intro x hx y hy
      exact h x (List.mem_cons_of_mem _ hx) y (List.mem_cons_of_mem _ hy)

theorem forall₂_map {S : γ → δ → Prop} {f : α → γ} {g : β → δ}
    {first : List α} {second : List β} (h : List.Forall₂ R first second)
    (hfg : ∀ x ∈ first, ∀ y ∈ second, R x y → S (f x) (g y)) :
    List.Forall₂ S (first.map f) (second.map g) := by
  induction h with
  | nil => exact .nil
  | cons hentry hrest ih =>
      refine .cons (hfg _ List.mem_cons_self _ List.mem_cons_self hentry) (ih ?_)
      intro x hx y hy
      exact hfg x (List.mem_cons_of_mem _ hx) y (List.mem_cons_of_mem _ hy)

theorem forall₂_trans {S : β → γ → Prop} {T : α → γ → Prop}
    (hRS : ∀ x y z, R x y → S y z → T x z) {first : List α} {second : List β} {third : List γ}
    (h : List.Forall₂ R first second) (h' : List.Forall₂ S second third) :
    List.Forall₂ T first third := by
  induction h generalizing third with
  | nil =>
      cases h' with
      | nil => exact .nil
  | cons hentry hrest ih =>
      cases h' with
      | cons hentry' hrest' => exact .cons (hRS _ _ _ hentry hentry') (ih hrest')

theorem rel_optionMap {S : γ → δ → Prop} {f : α → γ} {g : β → δ}
    (hfg : ∀ x y, R x y → S (f x) (g y)) {first : Option α} {second : Option β}
    (h : Option.Rel R first second) : Option.Rel S (first.map f) (second.map g) := by
  cases h with
  | none => exact .none
  | some hentry => exact .some (hfg _ _ hentry)

theorem rel_or {first first' : Option α} {second second' : Option β}
    (h : Option.Rel R first second) (h' : Option.Rel R first' second') :
    Option.Rel R (first.or first') (second.or second') := by
  cases h with
  | none => exact h'
  | some hentry => exact .some hentry

end

/-! ## Orders -/

theorem rel_le_refl [Preorder α] (value : Option α) : Option.Rel (· ≤ ·) value value := by
  cases value with
  | none => exact .none
  | some _ => exact .some le_rfl

theorem rel_le_trans [Preorder α] {first second third : Option α}
    (h : Option.Rel (· ≤ ·) first second) (h' : Option.Rel (· ≤ ·) second third) :
    Option.Rel (· ≤ ·) first third := by
  cases h with
  | none => exact h'
  | some hle =>
      cases h' with
      | some hle' => exact .some (hle.trans hle')

/-- Of two lists the one with larger entries has the larger maximum. -/
theorem rel_max? [LinearOrder α] {first second : List α}
    (h : List.Forall₂ (· ≤ ·) first second) :
    Option.Rel (· ≤ ·) first.max? second.max? := by
  induction h with
  | nil => exact .none
  | @cons _ _ first second hentry hrest ih =>
      rw [List.max?_cons, List.max?_cons]
      generalize first.max? = largest at ih ⊢
      generalize second.max? = other at ih ⊢
      cases ih with
      | none => exact .some hentry
      | some hle => exact .some (max_le_max hentry hle)

end Foundation
