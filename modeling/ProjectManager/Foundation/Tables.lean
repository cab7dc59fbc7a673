import Mathlib.Algebra.BigOperators.Group.List.Basic
import Mathlib.Algebra.Group.Basic
import Mathlib.Data.List.Nodup
import Mathlib.Tactic.Abel
import Mathlib.Tactic.Tauto

/-! # Tables with a primary key

A table is a list of rows with distinct keys. Rows are looked up, inserted,
replaced and deleted by key, and a sum over the rows changes by exactly the
row that was written.
-/

namespace Foundation

@[ext]
structure Table {α κ : Type*} (key : α → κ) where
  rows : List α
  nodup : (rows.map key).Nodup

namespace Table

variable {α κ : Type*} {key : α → κ}

def empty : Table key := ⟨[], List.nodup_nil⟩

def ids (table : Table key) : List κ := table.rows.map key

theorem mem_ids (table : Table key) {row : α} (h : row ∈ table.rows) : key row ∈ table.ids :=
  List.mem_map_of_mem h

theorem eq_of_key_eq (table : Table key) {first second : α} (hfirst : first ∈ table.rows)
    (hsecond : second ∈ table.rows) (h : key first = key second) : first = second :=
  List.inj_on_of_nodup_map table.nodup hfirst hsecond h

/-- Keep the rows that satisfy a condition. -/
def filter (table : Table key) (keep : α → Bool) : Table key where
  rows := table.rows.filter keep
  nodup := table.nodup.sublist (List.filter_sublist.map key)

theorem mem_filter {table : Table key} {keep : α → Bool} {row : α} :
    row ∈ (table.filter keep).rows ↔ row ∈ table.rows ∧ keep row = true :=
  List.mem_filter

theorem filter_eq_self {table : Table key} {keep : α → Bool}
    (h : ∀ row ∈ table.rows, keep row = true) : table.filter keep = table := by
  ext1
  exact List.filter_eq_self.mpr h

theorem filter_filter (table : Table key) (first second : α → Bool) :
    (table.filter first).filter second = table.filter fun row => second row && first row := by
  ext1
  exact List.filter_filter

/-- Rewrite every row, but not its key. -/
def mapRows (table : Table key) (f : α → α) (hkey : ∀ row, key (f row) = key row) :
    Table key where
  rows := table.rows.map f
  nodup := by
    rw [List.map_map, show key ∘ f = key from funext hkey]
    exact table.nodup

theorem map_rows_mapRows {β : Type*} {g : α → β} {f : α → α} (table : Table key)
    (hkey : ∀ row, key (f row) = key row) (hg : ∀ row, g (f row) = g row) :
    (table.mapRows f hkey).rows.map g = table.rows.map g := by
  change (table.rows.map f).map g = _
  rw [List.map_map]
  exact List.map_congr_left fun row _ => hg row

/-- What a rewriting of the rows does not touch holds of both tables or of none. -/
theorem forall_of_map_eq {table next : Table key} {g : α → α} {P : α → Prop}
    (h : next.rows.map g = table.rows.map g) (hP : ∀ row, P (g row) ↔ P row)
    (hrows : ∀ row ∈ table.rows, P row) : ∀ row ∈ next.rows, P row := by
  intro row hrow
  have hmem : g row ∈ table.rows.map g := h ▸ List.mem_map_of_mem hrow
  obtain ⟨stored, hstored, heq⟩ := List.mem_map.mp hmem
  rw [← hP, ← heq, hP]
  exact hrows stored hstored

variable [DecidableEq κ] (table : Table key)

def get? (id : κ) : Option α := table.rows.find? fun row => key row = id

theorem get?_eq_some {id : κ} {row : α} (h : table.get? id = some row) :
    row ∈ table.rows ∧ key row = id :=
  ⟨List.mem_of_find?_eq_some h, by simpa using List.find?_some h⟩

theorem get?_of_mem {row : α} (h : row ∈ table.rows) : table.get? (key row) = some row := by
  obtain ⟨found, hfound⟩ : ∃ found, table.get? (key row) = some found := by
    rw [get?, ← Option.isSome_iff_exists, List.find?_isSome]
    exact ⟨row, h, by simp⟩
  obtain ⟨hmem, hid⟩ := table.get?_eq_some hfound
  rw [hfound, table.eq_of_key_eq hmem h hid]

variable {table} in
theorem get?_eq_some_iff {id : κ} {row : α} :
    table.get? id = some row ↔ row ∈ table.rows ∧ key row = id := by
  constructor
  · exact table.get?_eq_some
  · rintro ⟨hmem, rfl⟩
    exact table.get?_of_mem hmem

variable {table} in
theorem get?_eq_none {id : κ} : table.get? id = none ↔ id ∉ table.ids := by
  simp [get?, ids]

theorem exists_of_mem_ids {id : κ} (h : id ∈ table.ids) :
    ∃ row ∈ table.rows, key row = id ∧ table.get? id = some row := by
  obtain ⟨row, hmem, rfl⟩ := List.mem_map.mp h
  exact ⟨row, hmem, rfl, table.get?_of_mem hmem⟩

/-- Insert a row; a taken key is refused. -/
def insert (row : α) : Table key :=
  if h : key row ∈ table.ids then table
  else ⟨row :: table.rows, List.nodup_cons.mpr ⟨h, table.nodup⟩⟩

/-- Replace the row with the same key. -/
def update (row : α) : Table key where
  rows := table.rows.map fun old => if key old = key row then row else old
  nodup := by
    have hkeys : (table.rows.map fun old => if key old = key row then row else old).map key =
        table.rows.map key := by
      rw [List.map_map]
      apply List.map_congr_left
      intro old _
      by_cases h : key old = key row <;> simp [h]
    rw [hkeys]
    exact table.nodup

/-- Replace the row with the same key, or insert the row. -/
def upsert (row : α) : Table key :=
  if key row ∈ table.ids then table.update row else table.insert row

variable {table}

theorem rows_insert {row : α} (h : key row ∉ table.ids) :
    (table.insert row).rows = row :: table.rows := by
  rw [insert, dif_neg h]

theorem suffix_insert (row : α) : table.rows <:+ (table.insert row).rows := by
  unfold insert
  split
  next => exact List.suffix_rfl
  next => exact List.suffix_cons _ _

theorem mem_insert {row other : α} (h : other ∈ (table.insert row).rows) :
    other = row ∨ other ∈ table.rows := by
  unfold insert at h
  split at h
  · exact Or.inr h
  · exact List.mem_cons.mp h

theorem mem_foldl_insert {rows : List α} {other : α}
    (h : other ∈ (rows.foldl insert table).rows) : other ∈ rows ∨ other ∈ table.rows := by
  induction rows generalizing table with
  | nil => exact Or.inr h
  | cons row rest ih =>
      rcases ih h with hmem | hmem
      · exact Or.inl (List.mem_cons_of_mem _ hmem)
      · rcases mem_insert hmem with rfl | hmem
        · exact Or.inl List.mem_cons_self
        · exact Or.inr hmem

theorem mem_foldl_insert_id [DecidableEq α] {table : Table (id : α → α)} {rows : List α}
    {other : α} : other ∈ (rows.foldl insert table).rows ↔ other ∈ rows ∨ other ∈ table.rows := by
  induction rows generalizing table with
  | nil => simp
  | cons row rest ih =>
      have hinsert : other ∈ (table.insert row).rows ↔ other = row ∨ other ∈ table.rows := by
        unfold insert
        split
        next htaken =>
          have hmem : row ∈ table.rows := by simpa [ids] using htaken
          exact ⟨Or.inr, fun h => h.elim (fun heq => heq ▸ hmem) id⟩
        next => exact List.mem_cons
      rw [List.foldl_cons, ih, hinsert, List.mem_cons]
      tauto

theorem ids_update (row : α) : (table.update row).ids = table.ids := by
  unfold ids update
  rw [List.map_map]
  apply List.map_congr_left
  intro old _
  by_cases h : key old = key row <;> simp [h]

theorem mem_update_iff {row other : α} : other ∈ (table.update row).rows ↔
    (other = row ∧ key row ∈ table.ids) ∨ (other ∈ table.rows ∧ key other ≠ key row) := by
  constructor
  · intro h
    obtain ⟨old, hold, rfl⟩ := List.mem_map.mp h
    by_cases hkey : key old = key row
    · rw [if_pos hkey]
      exact Or.inl ⟨rfl, hkey ▸ table.mem_ids hold⟩
    · rw [if_neg hkey]
      exact Or.inr ⟨hold, hkey⟩
  · rintro (⟨rfl, hid⟩ | ⟨hold, hkey⟩)
    · obtain ⟨stored, hstored, hkey, -⟩ := table.exists_of_mem_ids hid
      exact List.mem_map.mpr ⟨stored, hstored, if_pos hkey⟩
    · exact List.mem_map.mpr ⟨other, hold, if_neg hkey⟩

theorem mem_upsert_iff {row other : α} : other ∈ (table.upsert row).rows ↔
    other = row ∨ (other ∈ table.rows ∧ key other ≠ key row) := by
  unfold upsert
  split
  next hid => simp [mem_update_iff, hid]
  next hid =>
    have hne : other ∈ table.rows → key other ≠ key row := by
      intro hother hkey
      exact hid (hkey ▸ table.mem_ids hother)
    rw [rows_insert hid, List.mem_cons]
    exact or_congr_right ⟨fun hother => ⟨hother, hne hother⟩, And.left⟩

/-- The row written is in the table afterwards. -/
theorem mem_update_self {row stored : α} (hstored : stored ∈ table.rows)
    (hkey : key row = key stored) : row ∈ (table.update row).rows :=
  mem_update_iff.mpr (Or.inl ⟨rfl, hkey ▸ table.mem_ids hstored⟩)

theorem get?_update_self {row stored : α} (hstored : table.get? (key row) = some stored) :
    (table.update row).get? (key row) = some row := by
  obtain ⟨hmem, hkey⟩ := get?_eq_some_iff.mp hstored
  exact (table.update row).get?_of_mem (mem_update_self hmem hkey.symm)

/-- Replacing a row by itself. -/
theorem update_stored {row : α} (h : row ∈ table.rows) : table.update row = table := by
  ext1
  change table.rows.map _ = _
  conv_rhs => rw [← List.map_id table.rows]
  apply List.map_congr_left
  intro old hold
  split
  next hkey => exact (table.eq_of_key_eq hold h hkey).symm
  next => rfl

/-- Of two replacements of one row the second counts. -/
theorem update_update {first second : α} (h : key first = key second) :
    (table.update first).update second = table.update second := by
  ext1
  change (table.rows.map _).map _ = table.rows.map _
  rw [List.map_map]
  apply List.map_congr_left
  intro old _
  by_cases hkey : key old = key second
  · simp [hkey, h]
  · simp [hkey, h]

theorem get?_update_of_ne {row : α} {id : κ} (h : id ≠ key row) :
    (table.update row).get? id = table.get? id := by
  ext other
  rw [get?_eq_some_iff, get?_eq_some_iff, mem_update_iff]
  constructor
  · rintro ⟨⟨rfl, -⟩ | ⟨hmem, -⟩, rfl⟩
    · exact absurd rfl h
    · exact ⟨hmem, rfl⟩
  · rintro ⟨hmem, rfl⟩
    exact ⟨Or.inr ⟨hmem, h⟩, rfl⟩

/-- Replacing a row does not show through what both rows have in common. -/
theorem map_rows_update {β : Type*} {g : α → β} {row stored : α}
    (hstored : table.get? (key row) = some stored) (h : g row = g stored) :
    (table.update row).rows.map g = table.rows.map g := by
  obtain ⟨hmem, hkey⟩ := get?_eq_some_iff.mp hstored
  change (table.rows.map _).map g = _
  rw [List.map_map]
  apply List.map_congr_left
  intro old hold
  by_cases hsame : key old = key row
  · rw [table.eq_of_key_eq hold hmem (hsame.trans hkey.symm)]
    simp only [Function.comp_apply, hkey, if_true, h]
  · simp only [Function.comp_apply, if_neg hsame]

/-- Replacing a row by one that looks like a stored row does not show. The view of a row tells its
key. -/
theorem map_rows_update_of_mem {β : Type*} {g : α → β} {k : β → κ}
    (hkey : ∀ row, k (g row) = key row) {row : α} (h : g row ∈ table.rows.map g) :
    (table.update row).rows.map g = table.rows.map g := by
  obtain ⟨stored, hstored, hsame⟩ := List.mem_map.mp h
  have hid : key stored = key row := by rw [← hkey, hsame, hkey]
  exact map_rows_update (hid ▸ table.get?_of_mem hstored) hsame.symm

/-- Rows with distinct keys that are replaced in turn. -/
theorem rows_foldl_update {rows : List α} (hrows : (rows.map key).Nodup) (table : Table key) :
    (rows.foldl update table).rows = table.rows.map fun old =>
      (rows.find? fun row => key row = key old).getD old := by
  induction rows generalizing table with
  | nil => exact (List.map_id _).symm
  | cons row rest ih =>
      obtain ⟨hrow, hrest⟩ := List.nodup_cons.mp hrows
      rw [List.foldl_cons, ih hrest]
      change (table.rows.map _).map _ = _
      rw [List.map_map]
      apply List.map_congr_left
      intro old _
      rw [Function.comp_apply, List.find?_cons]
      by_cases hkey : key old = key row
      · have hnone : (rest.find? fun other => key other = key row) = none := by
          rw [List.find?_eq_none]
          intro other hother
          simpa using fun heq : key other = key row => hrow (heq ▸ List.mem_map_of_mem hother)
        simp [hkey, hnone]
      · simp [hkey, Ne.symm hkey]

theorem get?_insert_self {row : α} (h : key row ∉ table.ids) :
    (table.insert row).get? (key row) = some row := by
  apply get?_of_mem
  rw [rows_insert h]
  exact List.mem_cons_self

theorem get?_insert_of_ne {row : α} {id : κ} (h : id ≠ key row) :
    (table.insert row).get? id = table.get? id := by
  by_cases hid : key row ∈ table.ids
  · rw [insert, dif_pos hid]
  · rw [get?, rows_insert hid, List.find?_cons_of_neg (by simpa using h.symm), get?]

/-- A row that was inserted and then replaced. -/
theorem update_insert {row next : α} (hkey : key row = key next) (h : key row ∉ table.ids) :
    (table.insert row).update next = table.insert next := by
  ext1
  rw [rows_insert (hkey ▸ h)]
  change (table.insert row).rows.map _ = _
  rw [rows_insert h, List.map_cons, if_pos hkey]
  congr 1
  conv_rhs => rw [← List.map_id table.rows]
  apply List.map_congr_left
  intro old hold
  apply if_neg
  intro hsame
  exact h (hkey ▸ hsame ▸ table.mem_ids hold)

omit [DecidableEq κ] in
theorem mapRows_eq_self {f : α → α} {hkey : ∀ row, key (f row) = key row}
    (h : ∀ row ∈ table.rows, f row = row) : table.mapRows f hkey = table := by
  ext1
  change table.rows.map f = table.rows
  conv_rhs => rw [← List.map_id table.rows]
  exact List.map_congr_left h

/-- Rewriting rows without their keys rewrites what is found. -/
theorem get?_of_rows_map {next : Table key} {f : α → α} (hkey : ∀ row, key (f row) = key row)
    (h : next.rows = table.rows.map f) (id : κ) : next.get? id = (table.get? id).map f := by
  unfold get?
  rw [h, List.find?_map]
  simp only [Function.comp_def, hkey]

theorem get?_mapRows {f : α → α} (hkey : ∀ row, key (f row) = key row) (id : κ) :
    (table.mapRows f hkey).get? id = (table.get? id).map f :=
  get?_of_rows_map hkey rfl id

/-! ## Sums over the rows -/

section

variable {M : Type*}

def sum [Zero M] [Add M] (table : Table key) (f : α → M) : M := (table.rows.map f).sum

theorem sum_insert [AddMonoid M] {row : α} (h : key row ∉ table.ids) (f : α → M) :
    (table.insert row).sum f = f row + table.sum f := by
  rw [sum, rows_insert h, List.map_cons, List.sum_cons, sum]

omit [DecidableEq κ] in
theorem sum_congr [AddMonoid M] {f g : α → M} (h : ∀ row ∈ table.rows, f row = g row) :
    table.sum f = table.sum g :=
  congrArg List.sum (List.map_congr_left h)

omit [DecidableEq κ] in
/-- What adds nothing may be left out of a sum. -/
theorem sum_filter_of_eq_zero [AddMonoid M] {rows : List α} {p : α → Prop} [DecidablePred p]
    {f : α → M} (h : ∀ row ∈ rows, ¬ p row → f row = 0) :
    ((rows.filter fun row => p row).map f).sum = (rows.map f).sum := by
  induction rows with
  | nil => rfl
  | cons head rest ih =>
      have hrest := ih fun row hrow => h row (List.mem_cons_of_mem _ hrow)
      by_cases hhead : p head
      · simp only [List.filter_cons, hhead, decide_true, if_true, List.map_cons, List.sum_cons,
          hrest]
      · have hzero := h head List.mem_cons_self hhead
        simp only [List.filter_cons, hhead, decide_false, Bool.false_eq_true, if_false,
          List.map_cons, List.sum_cons, hrest, hzero, zero_add]

omit [DecidableEq κ] in
/-- A sum that does not see what distinguishes two tables. -/
theorem sum_eq_of_map_eq [AddMonoid M] {next : Table key} {g : α → α} {f : α → M}
    (h : next.rows.map g = table.rows.map g) (hf : ∀ row, f (g row) = f row) :
    next.sum f = table.sum f := by
  have hrows : ∀ rows : List α, rows.map f = (rows.map g).map f := by
    intro rows
    rw [List.map_map]
    exact List.map_congr_left fun row _ => (hf row).symm
  rw [sum, sum, hrows next.rows, h, ← hrows]

omit [DecidableEq κ] in
theorem sum_eq_zero [AddMonoid M] {f : α → M} (h : ∀ row ∈ table.rows, f row = 0) :
    table.sum f = 0 := by
  rw [sum, List.map_eq_map_iff.mpr h, List.map_const', List.sum_replicate, nsmul_zero]

/-- Replacing a row changes a sum by the difference of its two values. -/
theorem sum_update [AddCommGroup M] {row stored : α} (hstored : table.get? (key row) = some stored)
    (f : α → M) : (table.update row).sum f = table.sum f - f stored + f row := by
  obtain ⟨hmem, hkey⟩ := get?_eq_some_iff.mp hstored
  have hlist : ∀ rows : List α, (rows.map key).Nodup → stored ∈ rows →
      ((rows.map fun old => if key old = key row then row else old).map f).sum =
        (rows.map f).sum - f stored + f row := by
    intro rows hnodup hmem
    induction rows with
    | nil => cases hmem
    | cons head rest ih =>
        obtain ⟨hhead, hrest⟩ := List.nodup_cons.mp hnodup
        rcases List.mem_cons.mp hmem with rfl | hmem
        · -- No later row has the key, so the rest of the sum stays.
          have hsame : rest.map (fun old => if key old = key row then row else old) = rest := by
            conv_rhs => rw [← List.map_id rest]
            apply List.map_congr_left
            intro old hold
            have hne : key old ≠ key row := by
              intro h
              exact hhead (hkey.trans h.symm ▸ List.mem_map_of_mem hold)
            rw [if_neg hne]
            rfl
          simp only [List.map_cons, hkey, if_true, List.sum_cons, hsame]
          abel
        · have hne : key head ≠ key row := by
            intro h
            exact hhead (h.trans hkey.symm ▸ List.mem_map_of_mem hmem)
          simp only [List.map_cons, hne, if_false, List.sum_cons, ih hrest hmem]
          abel
  exact hlist table.rows table.nodup hmem

/-- Deleting a row takes its value out of a sum. -/
theorem sum_delete [AddCommGroup M] {stored : α} (hmem : stored ∈ table.rows) (f : α → M) :
    (table.filter fun row => key row ≠ key stored).sum f = table.sum f - f stored := by
  classical
  have herase : table.rows.filter (fun row => key row ≠ key stored) =
      table.rows.erase stored := by
    rw [(List.Nodup.of_map key table.nodup).erase_eq_filter]
    apply List.filter_congr
    intro row hrow
    by_cases h : row = stored
    · simp [h]
    · have hkey : key row ≠ key stored := fun hkey => h (table.eq_of_key_eq hrow hmem hkey)
      simp [h, hkey]
  have hsum := List.sum_map_erase f hmem
  rw [← herase] at hsum
  exact eq_sub_of_add_eq' hsum

end

end Table

end Foundation
