import ProjectManager.Foundation.Tables

/-! # Collecting items by key

A dictionary that collects items: an item joins the row of its key, or starts a
new one. The row of a key is what the items of that key alone make of it.
-/

namespace Foundation

variable {α β κ : Type*}

theorem Table.filter_key [DecidableEq κ] {key : α → κ} (table : Table key) (id : κ) :
    (table.rows.filter fun row => key row = id) = (table.get? id).toList := by
  unfold get?
  have hnodup := table.nodup
  generalize table.rows = rows at hnodup ⊢
  induction rows with
  | nil => rfl
  | cons head rest ih =>
      obtain ⟨hhead, hrest⟩ := List.nodup_cons.mp hnodup
      by_cases hid : key head = id
      · have hnone : (rest.filter fun row => key row = id) = [] := by
          apply List.filter_eq_nil_iff.mpr
          intro row hrow hkey
          apply hhead
          rw [hid, ← of_decide_eq_true hkey]
          exact List.mem_map_of_mem hrow
        rw [List.filter_cons_of_pos (by simpa using hid), hnone,
          List.find?_cons_of_pos (by simpa using hid)]
        rfl
      · rw [List.filter_cons_of_neg (by simpa using hid),
          List.find?_cons_of_neg (by simpa using hid)]
        exact ih hrest

/-- How an item joins the row of its key; without a row it starts one. -/
structure Grouping (keyOf : β → κ) (key : α → κ) where
  join : Option α → β → α
  key_join : ∀ row item, (∀ old ∈ row, key old = keyOf item) → key (join row item) = keyOf item

namespace Grouping

variable {keyOf : β → κ} {key : α → κ} (grouping : Grouping keyOf key)

/-- What items of one key make of the row. -/
def joinAll (row : Option α) (items : List β) : Option α :=
  items.foldl (fun current item => some (grouping.join current item)) row

variable [DecidableEq κ]

def collectOne (table : Table key) (item : β) : Table key :=
  table.upsert (grouping.join (table.get? (keyOf item)) item)

def collect (table : Table key) (items : List β) : Table key :=
  items.foldl grouping.collectOne table

theorem key_join_get? (table : Table key) (item : β) :
    key (grouping.join (table.get? (keyOf item)) item) = keyOf item := by
  apply grouping.key_join
  intro old hold
  exact (table.get?_eq_some hold).2

theorem get?_collectOne (table : Table key) (item : β) (id : κ) :
    (grouping.collectOne table item).get? id =
      if keyOf item = id then some (grouping.join (table.get? id) item) else table.get? id := by
  have hkey := grouping.key_join_get? table item
  unfold collectOne Table.upsert
  by_cases hid : keyOf item = id
  · subst hid
    rw [if_pos rfl]
    generalize grouping.join (table.get? (keyOf item)) item = row at hkey ⊢
    rw [← hkey]
    split
    next hmem =>
      obtain ⟨stored, -, -, hstored⟩ := table.exists_of_mem_ids hmem
      exact Table.get?_update_self hstored
    next hmem => exact Table.get?_insert_self hmem
  · rw [if_neg hid]
    have hne : id ≠ key (grouping.join (table.get? (keyOf item)) item) := by
      rw [hkey]
      exact Ne.symm hid
    split
    next => exact Table.get?_update_of_ne hne
    next => exact Table.get?_insert_of_ne hne

/-- Only the items of its key make the row of a key. -/
theorem get?_collect (table : Table key) (items : List β) (id : κ) :
    (grouping.collect table items).get? id =
      grouping.joinAll (table.get? id) (items.filter fun item => keyOf item = id) := by
  induction items generalizing table with
  | nil => rfl
  | cons item rest ih =>
      change (grouping.collect (grouping.collectOne table item) rest).get? id = _
      rw [ih, get?_collectOne, List.filter_cons]
      by_cases hid : keyOf item = id
      · rw [if_pos hid, if_pos (decide_eq_true hid)]
        rfl
      · rw [if_neg hid, if_neg (by simpa using hid)]

omit [DecidableEq κ] in
theorem joinAll_induction {P : List β → α → Prop} {items : List β} {row : α}
    (start : ∀ item ∈ items, P [item] (grouping.join none item))
    (next : ∀ before item row, item ∈ items → P before row →
      P (before ++ [item]) (grouping.join (some row) item))
    (hrow : grouping.joinAll none items = some row) : P items row := by
  have hrest : ∀ (rest before : List β) (current : α), (∀ item ∈ rest, item ∈ items) →
      P before current → grouping.joinAll (some current) rest = some row →
      P (before ++ rest) row := by
    intro rest
    induction rest with
    | nil =>
        intro before current _ hcurrent hjoined
        cases hjoined
        rwa [List.append_nil]
    | cons item rest ih =>
        intro before current hmem hcurrent hjoined
        rw [List.append_cons]
        apply ih (before ++ [item]) (grouping.join (some current) item)
        · exact fun other hother => hmem other (List.mem_cons_of_mem _ hother)
        · exact next before item current (hmem item List.mem_cons_self) hcurrent
        · exact hjoined
  cases items with
  | nil => cases hrow
  | cons item rest =>
      exact hrest rest [item] _ (fun other hother => List.mem_cons_of_mem _ hother)
        (start item List.mem_cons_self) hrow

omit [DecidableEq κ] in
theorem joinAll_eq_none {items : List β} : grouping.joinAll none items = none ↔ items = [] := by
  have hsome : ∀ (items : List β) (row : α), (grouping.joinAll (some row) items).isSome := by
    intro items
    induction items with
    | nil => intro row; rfl
    | cons item rest ih => exact fun row => ih (grouping.join (some row) item)
  cases items with
  | nil => exact ⟨fun _ => rfl, fun _ => rfl⟩
  | cons item rest =>
      have hrow := hsome rest (grouping.join none item)
      constructor
      · intro hnone
        change grouping.joinAll (some (grouping.join none item)) rest = none at hnone
        rw [hnone] at hrow
        cases hrow
      · intro hnil
        cases hnil

/-- The keys of the rows are those that some item has. -/
theorem mem_ids_collect {items : List β} {id : κ} :
    id ∈ (grouping.collect .empty items).ids ↔ ∃ item ∈ items, keyOf item = id := by
  have hget := grouping.get?_collect .empty items id
  have hempty : (Table.empty : Table key).get? id = none := rfl
  rw [← not_iff_not, ← Table.get?_eq_none, hget, hempty, joinAll_eq_none]
  simp [List.filter_eq_nil_iff]

section

variable {M : Type*} (measure : α → M) (weight : β → M)

theorem measure_of_mem [AddMonoid M]
    (hjoin : ∀ row item, measure (grouping.join row item) =
      (row.map measure).getD 0 + weight item)
    {items : List β} {row : α} (h : row ∈ (grouping.collect .empty items).rows) :
    measure row = ((items.filter fun item => keyOf item = key row).map weight).sum := by
  have hget := grouping.get?_collect .empty items (key row)
  rw [Table.get?_of_mem _ h] at hget
  generalize items.filter (fun item => keyOf item = key row) = same at hget ⊢
  apply joinAll_induction grouping (P := fun before row => measure row = (before.map weight).sum)
    ?_ ?_ hget.symm
  · intro item _
    rw [hjoin, List.map_singleton, List.sum_singleton]
    exact zero_add _
  · intro before item row _ hrow
    rw [hjoin, List.map_append, List.sum_append, ← hrow]
    simp

theorem sum_collect [AddCommGroup M]
    (hjoin : ∀ row item, measure (grouping.join row item) =
      (row.map measure).getD 0 + weight item)
    (table : Table key) (items : List β) :
    (grouping.collect table items).sum measure = table.sum measure + (items.map weight).sum := by
  induction items generalizing table with
  | nil => exact (add_zero _).symm
  | cons item rest ih =>
      have hkey := grouping.key_join_get? table item
      have hone : (grouping.collectOne table item).sum measure =
          table.sum measure + weight item := by
        unfold collectOne Table.upsert
        split
        next hmem =>
          obtain ⟨stored, -, -, hstored⟩ := table.exists_of_mem_ids hmem
          rw [Table.sum_update hstored, hjoin]
          rw [hkey] at hstored
          rw [hstored, Option.map_some, Option.getD_some, ← add_assoc, sub_add_cancel]
        next hnew =>
          rw [Table.sum_insert hnew, hjoin]
          rw [hkey] at hnew
          rw [Table.get?_eq_none.mpr hnew, Option.map_none, Option.getD_none, zero_add, add_comm]
      change (grouping.collect (grouping.collectOne table item) rest).sum measure = _
      rw [ih, hone, List.map_cons, List.sum_cons, add_assoc]

end

/-! ## Listing -/

/-- The items of each key, in the order in which they come. -/
def listed (keyOf : β → κ) : Grouping keyOf (Prod.fst : κ × List β → κ) where
  join row item := (keyOf item, (row.map Prod.snd).getD [] ++ [item])
  key_join _ _ _ := rfl

omit [DecidableEq κ] in
theorem joinAll_listed {items : List β} {group : κ × List β}
    (h : (listed keyOf).joinAll none items = some group) : group.2 = items := by
  apply joinAll_induction (listed keyOf) _ _ h
  · intro item _
    rfl
  · intro before item row _ hrow
    exact congrArg (· ++ [item]) hrow

theorem mem_listed {items : List β} {group : κ × List β} :
    group ∈ ((listed keyOf).collect .empty items).rows ↔
      group.2 ≠ [] ∧ group.2 = items.filter fun item => keyOf item = group.1 := by
  have hget := (listed keyOf).get?_collect .empty items group.1
  constructor
  · intro h
    rw [Table.get?_of_mem _ h] at hget
    have hitems := joinAll_listed hget.symm
    refine ⟨?_, hitems⟩
    intro hnil
    rw [← hitems, hnil] at hget
    cases hget
  · rintro ⟨hne, hitems⟩
    rw [← hitems] at hget
    cases hjoined : (listed keyOf).joinAll none group.2 with
    | none => exact absurd ((joinAll_eq_none _).mp hjoined) hne
    | some row =>
        obtain ⟨hmem, hkey⟩ := Table.get?_eq_some _ (hget.trans hjoined)
        rwa [Prod.ext hkey (joinAll_listed hjoined)] at hmem

end Grouping

end Foundation
