import ProjectManager.Foundation.Calls
import ProjectManager.Foundation.Tables

/-! # Tables with a unique column

A table in which not only the keys of the rows are distinct, but also their
values in a further column.
-/

namespace Foundation

@[ext]
structure UniqueTable {α κ υ : Type*} (key : α → κ) (column : α → υ) extends Table key where
  column_nodup : (rows.map column).Nodup

namespace UniqueTable

variable {α κ υ : Type*} {key : α → κ} {column : α → υ}

def empty : UniqueTable key column := ⟨.empty, List.nodup_nil⟩

def columns (table : UniqueTable key column) : List υ := table.rows.map column

theorem eq_of_column_eq (table : UniqueTable key column) {first second : α}
    (hfirst : first ∈ table.rows) (hsecond : second ∈ table.rows)
    (h : column first = column second) : first = second :=
  List.inj_on_of_nodup_map table.column_nodup hfirst hsecond h

/-- Keep the rows that satisfy a condition. -/
def filter (table : UniqueTable key column) (keep : α → Bool) : UniqueTable key column where
  toTable := table.toTable.filter keep
  column_nodup := table.column_nodup.sublist (List.filter_sublist.map column)

theorem filter_eq_self {table : UniqueTable key column} {keep : α → Bool}
    (h : ∀ row ∈ table.rows, keep row = true) : table.filter keep = table := by
  ext1
  exact List.filter_eq_self.mpr h

/-- Rewrite every row, but neither its key nor its column. -/
def mapRows (table : UniqueTable key column) (f : α → α) (hkey : ∀ row, key (f row) = key row)
    (hcolumn : ∀ row, column (f row) = column row) : UniqueTable key column where
  toTable := table.toTable.mapRows f hkey
  column_nodup := by
    change ((table.rows.map f).map column).Nodup
    rw [List.map_map, show column ∘ f = column from funext hcolumn]
    exact table.column_nodup

variable [DecidableEq κ]

/-- Rewrite the row of a key. -/
def modify (table : UniqueTable key column) (id : κ) (f : α → α)
    (hkey : ∀ row, key (f row) = key row) (hcolumn : ∀ row, column (f row) = column row) :
    UniqueTable key column :=
  table.mapRows (fun row => if key row = id then f row else row)
    (fun row => by split; exacts [hkey row, rfl]) (fun row => by split; exacts [hcolumn row, rfl])

variable [DecidableEq υ] {ε : Type*}

/-- Insert a row, unless its key or its column is taken. -/
def insert (table : UniqueTable key column) (row : α) (error : ε) :
    Except ε (UniqueTable key column) :=
  if h : key row ∉ table.ids ∧ column row ∉ table.columns then
    .ok {
      rows := row :: table.rows
      nodup := List.nodup_cons.mpr ⟨h.1, table.nodup⟩
      column_nodup := List.nodup_cons.mpr ⟨h.2, table.column_nodup⟩ }
  else .error error

def insertAll (table : UniqueTable key column) (rows : List α) (error : ε) :
    Except ε (UniqueTable key column) :=
  rows.foldlM (fun current row => current.insert row error) table

variable {table next : UniqueTable key column}

theorem insert_eq_ok {row : α} {error : ε} : table.insert row error = .ok next ↔
    key row ∉ table.ids ∧ column row ∉ table.columns ∧ next.rows = row :: table.rows := by
  unfold insert
  split
  next h =>
    constructor
    · intro heq
      obtain rfl := Except.ok.inj heq
      exact ⟨h.1, h.2, rfl⟩
    · rintro ⟨-, -, hrows⟩
      congr 1
      ext1
      exact hrows.symm
  next h =>
    constructor
    · intro heq
      cases heq
    · rintro ⟨hkey, hcolumn, -⟩
      exact absurd ⟨hkey, hcolumn⟩ h

theorem insertAll_eq_ok {rows : List α} {error : ε} : table.insertAll rows error = .ok next ↔
    (rows.map key ++ table.ids).Nodup ∧ (rows.map column ++ table.columns).Nodup ∧
      next.rows = rows.reverse ++ table.rows := by
  induction rows generalizing table with
  | nil =>
      constructor
      · intro h
        obtain rfl := Except.ok.inj h
        exact ⟨table.nodup, table.column_nodup, rfl⟩
      · rintro ⟨-, -, hrows⟩
        refine congrArg Except.ok ?_
        ext1
        exact hrows.symm
  | cons row rest ih =>
      change (table.insert row error >>= fun current => current.insertAll rest error) = _ ↔ _
      rw [bind_eq_ok]
      -- The rest is inserted into the table with the row.
      constructor
      · rintro ⟨middle, hinsert, hrest⟩
        obtain ⟨-, -, hmiddle⟩ := insert_eq_ok.mp hinsert
        obtain ⟨hkeys, hcolumns, hrows⟩ := ih.mp hrest
        unfold Table.ids at hkeys ⊢
        unfold columns at hcolumns ⊢
        rw [hmiddle] at hkeys hcolumns hrows
        exact ⟨List.perm_middle.nodup_iff.mp hkeys, List.perm_middle.nodup_iff.mp hcolumns, by simpa using hrows⟩
      · rintro ⟨hkeys, hcolumns, hrows⟩
        have hkey : key row ∉ table.ids := fun h =>
          (List.nodup_cons.mp hkeys).1 (List.mem_append_right _ h)
        have hcolumn : column row ∉ table.columns := fun h =>
          (List.nodup_cons.mp hcolumns).1 (List.mem_append_right _ h)
        obtain ⟨middle, hinsert⟩ : ∃ middle, table.insert row error = .ok middle :=
          ⟨_, dif_pos ⟨hkey, hcolumn⟩⟩
        obtain ⟨-, -, hmiddle⟩ := insert_eq_ok.mp hinsert
        refine ⟨middle, hinsert, ih.mpr ?_⟩
        unfold Table.ids columns
        rw [hmiddle]
        exact ⟨List.perm_middle.nodup_iff.mpr hkeys, List.perm_middle.nodup_iff.mpr hcolumns, by simpa using hrows⟩

omit [DecidableEq κ] [DecidableEq υ] in
theorem nodup_reverse_append {f : α → υ} {rows others : List α}
    (h : (rows.map f ++ others.map f).Nodup) : ((rows.reverse ++ others).map f).Nodup := by
  rw [List.map_append, List.map_reverse]
  exact ((List.reverse_perm _).append_right _).nodup_iff.mpr h

theorem exists_insertAll {rows : List α} (error : ε) (hkeys : (rows.map key ++ table.ids).Nodup)
    (hcolumns : (rows.map column ++ table.columns).Nodup) :
    ∃ next, table.insertAll rows error = .ok next :=
  ⟨⟨⟨rows.reverse ++ table.rows, nodup_reverse_append hkeys⟩, nodup_reverse_append hcolumns⟩,
    insertAll_eq_ok.mpr ⟨hkeys, hcolumns, rfl⟩⟩

omit [DecidableEq υ] in
theorem mem_modify {id : κ} {f : α → α} {hkey : ∀ row, key (f row) = key row}
    {hcolumn : ∀ row, column (f row) = column row} {row : α} :
    row ∈ (table.modify id f hkey hcolumn).rows ↔
      (∃ old ∈ table.rows, key old = id ∧ row = f old) ∨ (row ∈ table.rows ∧ key row ≠ id) := by
  change row ∈ table.rows.map _ ↔ _
  rw [List.mem_map]
  constructor
  · rintro ⟨old, hold, rfl⟩
    by_cases h : key old = id
    · exact Or.inl ⟨old, hold, h, if_pos h⟩
    · rw [if_neg h]
      exact Or.inr ⟨hold, h⟩
  · rintro (⟨old, hold, h, rfl⟩ | ⟨hrow, h⟩)
    · exact ⟨old, hold, if_pos h⟩
    · exact ⟨row, hrow, if_neg h⟩

end UniqueTable

end Foundation
