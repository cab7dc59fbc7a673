import ProjectManager.Foundation.Tables

/-! # How a table evolves

Rows of a table are made, and later replaced by rows that they may move to; none is
deleted. What is made by one call and moved by another is still a row that was made
and moved.
-/

namespace Foundation

namespace Table

variable {α κ : Type*} {key : α → κ}

/-- Every row of the next table was moved from a stored row, or from a row that was made. -/
structure Evolves (made : α → Prop) (moved : α → α → Prop) (table next : Table key) : Prop where
  origin : ∀ row ∈ next.rows,
    (∃ old ∈ table.rows, key old = key row ∧ moved old row) ∨
      (key row ∉ table.ids ∧ ∃ first, made first ∧ moved first row)
  kept : ∀ id ∈ table.ids, id ∈ next.ids

namespace Evolves

variable {made : α → Prop} {moved : α → α → Prop} {table middle next : Table key}

theorem refl (hrefl : ∀ row, moved row row) (table : Table key) :
    table.Evolves made moved table where
  origin row hrow := Or.inl ⟨row, hrow, rfl, hrefl row⟩
  kept _ := id

theorem trans (htrans : ∀ first second third, moved first second → moved second third →
      moved first third)
    (hfirst : table.Evolves made moved middle) (hsecond : middle.Evolves made moved next) :
    table.Evolves made moved next where
  origin row hrow := by
    rcases hsecond.origin row hrow with ⟨old, hold, hkey, hmoved⟩ | ⟨hnew, hmade⟩
    · rcases hfirst.origin old hold with
        ⟨stored, hstored, hsame, hbefore⟩ | ⟨hnew, start, hmade, hbefore⟩
      · exact Or.inl ⟨stored, hstored, hsame.trans hkey, htrans _ _ _ hbefore hmoved⟩
      · exact Or.inr ⟨hkey ▸ hnew, start, hmade, htrans _ _ _ hbefore hmoved⟩
    · exact Or.inr ⟨fun hstored => hnew (hfirst.kept _ hstored), hmade⟩
  kept id hid := hsecond.kept id (hfirst.kept id hid)

theorem mono {made' : α → Prop} {moved' : α → α → Prop} (h : table.Evolves made moved next)
    (hmade : ∀ row, made row → made' row) (hmoved : ∀ old row, moved old row → moved' old row) :
    table.Evolves made' moved' next where
  origin row hrow := by
    rcases h.origin row hrow with ⟨old, hold, hkey, hrow⟩ | ⟨hnew, first, hfirst, hrow⟩
    · exact Or.inl ⟨old, hold, hkey, hmoved old row hrow⟩
    · exact Or.inr ⟨hnew, first, hmade first hfirst, hmoved first row hrow⟩
  kept := h.kept

theorem forall_rows {P : α → Prop} (h : table.Evolves made moved next)
    (hmade : ∀ row, made row → P row) (hmoved : ∀ old row, moved old row → P old → P row)
    (hrows : ∀ row ∈ table.rows, P row) : ∀ row ∈ next.rows, P row := by
  intro row hrow
  rcases h.origin row hrow with ⟨old, hold, -, hstep⟩ | ⟨-, first, hfirst, hstep⟩
  · exact hmoved old row hstep (hrows old hold)
  · exact hmoved first row hstep (hmade first hfirst)

theorem moved_of_key_eq (h : table.Evolves made moved next) {old row : α} (hold : old ∈ table.rows)
    (hrow : row ∈ next.rows) (hkey : key old = key row) : moved old row := by
  rcases h.origin row hrow with ⟨stored, hstored, hsame, hmoved⟩ | ⟨hnew, -⟩
  · rwa [table.eq_of_key_eq hold hstored (hkey.trans hsame.symm)]
  · exact absurd (hkey ▸ table.mem_ids hold) hnew

/-- A table that only differs in what a view of the rows leaves out. -/
theorem of_map_eq {β : Type*} {g : α → β} (hrows : next.rows.map g = table.rows.map g)
    (hg : ∀ old row, g old = g row → key old = key row ∧ moved old row) :
    table.Evolves made moved next where
  origin row hrow := by
    have hmem : g row ∈ table.rows.map g := hrows ▸ List.mem_map_of_mem hrow
    obtain ⟨old, hold, hsame⟩ := List.mem_map.mp hmem
    exact Or.inl ⟨old, hold, hg old row hsame⟩
  kept id hid := by
    obtain ⟨old, hold, rfl⟩ := List.mem_map.mp hid
    have hmem : g old ∈ next.rows.map g := hrows ▸ List.mem_map_of_mem hold
    obtain ⟨row, hrow, hsame⟩ := List.mem_map.mp hmem
    rw [(hg old row hsame.symm).1]
    exact next.mem_ids hrow

variable [DecidableEq κ]

theorem insert (hrefl : ∀ row, moved row row) {row : α} (hrow : made row) :
    table.Evolves made moved (table.insert row) where
  origin other hother := by
    by_cases hid : key row ∈ table.ids
    · rw [Table.insert, dif_pos hid] at hother
      exact Or.inl ⟨other, hother, rfl, hrefl other⟩
    · rw [rows_insert hid, List.mem_cons] at hother
      rcases hother with rfl | hstored
      · exact Or.inr ⟨hid, other, hrow, hrefl other⟩
      · exact Or.inl ⟨other, hstored, rfl, hrefl other⟩
  kept id hid := ((suffix_insert row).map key).subset hid

/-- Where no row is moved, one more is made. -/
theorem append (h : table.Evolves made Eq next) {row : α} (hrow : made row) :
    table.Evolves made Eq (next.insert row) :=
  .trans (fun _ _ _ => Eq.trans) h (.insert (fun _ => rfl) hrow)

theorem moved_of_get? (h : table.Evolves made moved next) {id : κ} {old row : α}
    (hold : table.get? id = some old) (hrow : next.get? id = some row) : moved old row := by
  obtain ⟨holdMem, holdId⟩ := get?_eq_some_iff.mp hold
  obtain ⟨hrowMem, hrowId⟩ := get?_eq_some_iff.mp hrow
  exact h.moved_of_key_eq holdMem hrowMem (holdId.trans hrowId.symm)

theorem update (hrefl : ∀ row, moved row row) {stored row : α} (hstored : stored ∈ table.rows)
    (hkey : key stored = key row) (hmoved : moved stored row) :
    table.Evolves made moved (table.update row) where
  origin other hother := by
    rcases mem_update_iff.mp hother with ⟨rfl, -⟩ | ⟨hold, -⟩
    · exact Or.inl ⟨stored, hstored, hkey, hmoved⟩
    · exact Or.inl ⟨other, hold, rfl, hrefl other⟩
  kept id hid := by rwa [ids_update]

end Evolves

end Table

end Foundation
