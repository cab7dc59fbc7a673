import ProjectManager.Foundation.Tables

/-! # Sums over rows that refer to rows

The rows of one table refer to rows of another by key. A sum over the referring
rows, each counted together with the row that it refers to, changes by exactly
what is written to either table.
-/

namespace Foundation

namespace Table

variable {α β κ κ' M : Type*} {key : α → κ} {key' : β → κ'}

section

variable [DecidableEq κ] {table next : Table key} {f : α → α}

/-- Replacing a rewritten row by another rewriting of the same row. -/
theorem rows_update_of_rows_map {g : α → α} {stored : α}
    (h : next.rows = table.rows.map f) (hkey : ∀ row, key (f row) = key row)
    (hstored : stored ∈ table.rows) (hg : ∀ row, key row ≠ key stored → g row = f row)
    (hgkey : key (g stored) = key stored) :
    (next.update (g stored)).rows = table.rows.map g := by
  change next.rows.map _ = _
  rw [h, List.map_map]
  apply List.map_congr_left
  intro row hrow
  simp only [Function.comp_apply, hkey, hgkey]
  by_cases hsame : key row = key stored
  · rw [if_pos hsame, table.eq_of_key_eq hrow hstored hsame]
  · rw [if_neg hsame, hg row hsame]

end

/-! ## Sums over references -/

variable [AddCommGroup M]

section

variable [DecidableEq κ']

/-- The sum over the referring rows; a row that refers to nothing does not count. -/
def sumRefs (children : Table key) (parents : Table key') (ref : α → κ') (f : β → α → M) : M :=
  children.sum fun child => ((parents.get? (ref child)).map fun parent => f parent child).getD 0

variable {children : Table key} {parents : Table key'} {ref : α → κ'} {f g : β → α → M}

theorem sumRefs_congr
    (h : ∀ child ∈ children.rows, ∀ parent, parents.get? (ref child) = some parent →
      f parent child = g parent child) :
    children.sumRefs parents ref f = children.sumRefs parents ref g := by
  apply sum_congr
  intro child hchild
  cases hparent : parents.get? (ref child) with
  | none => rfl
  | some parent => exact h child hchild parent hparent

/-- A new row that nothing is counted with does not change the sum. -/
theorem sumRefs_insert_parent {row : β} (hfresh : key' row ∉ parents.ids)
    (h : ∀ child ∈ children.rows, ref child = key' row → f row child = 0) :
    children.sumRefs (parents.insert row) ref f = children.sumRefs parents ref f := by
  apply sum_congr
  intro child hchild
  by_cases href : ref child = key' row
  · rw [href, get?_insert_self hfresh, get?_eq_none.mpr hfresh]
    exact h child hchild href
  · rw [get?_insert_of_ne href]

/-- Replacing a row changes the sum by what the rows that refer to it count differently. -/
theorem sumRefs_update_parent {row stored : β} (hstored : parents.get? (key' row) = some stored) :
    children.sumRefs (parents.update row) ref f = children.sumRefs parents ref f +
      ((children.rows.filter fun child => ref child = key' row).map fun child =>
        f row child - f stored child).sum := by
  unfold sumRefs sum
  induction children.rows with
  | nil => simp
  | cons child rest ih =>
      by_cases href : ref child = key' row
      · simp only [List.map_cons, List.sum_cons, List.filter_cons, href, decide_true, if_true,
          get?_update_self hstored, hstored, Option.map_some, Option.getD_some, ih]
        abel
      · simp only [List.map_cons, List.sum_cons, List.filter_cons, href, decide_false,
          get?_update_of_ne href, ih, Bool.false_eq_true, if_false]
        abel

theorem sumRefs_update_parent_of_eq {row stored : β}
    (hstored : parents.get? (key' row) = some stored)
    (h : ∀ child ∈ children.rows, ref child = key' row → f row child = f stored child) :
    children.sumRefs (parents.update row) ref f = children.sumRefs parents ref f := by
  rw [sumRefs_update_parent hstored, add_eq_left]
  apply List.sum_eq_zero
  intro value hvalue
  obtain ⟨child, hchild, rfl⟩ := List.mem_map.mp hvalue
  obtain ⟨hmem, href⟩ := List.mem_filter.mp hchild
  exact sub_eq_zero.mpr (h child hmem (of_decide_eq_true href))

variable [DecidableEq κ]

theorem sumRefs_insert_child {row : α} (hfresh : key row ∉ children.ids)
    (h : ∀ parent, parents.get? (ref row) = some parent → f parent row = 0) :
    (children.insert row).sumRefs parents ref f = children.sumRefs parents ref f := by
  rw [sumRefs, sum_insert hfresh, sumRefs, add_eq_right]
  cases hparent : parents.get? (ref row) with
  | none => rfl
  | some parent => exact h parent hparent

theorem sumRefs_update_child {row stored : α} {parent : β}
    (hstored : children.get? (key row) = some stored) (href : ref row = ref stored)
    (hparent : parents.get? (ref stored) = some parent) :
    (children.update row).sumRefs parents ref f =
      children.sumRefs parents ref f - f parent stored + f parent row := by
  rw [sumRefs, sum_update hstored, href, hparent]
  rfl

end

end Table

end Foundation
