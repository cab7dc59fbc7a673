import Mathlib.Data.List.Find
import ProjectManager.Foundation.Tables

/-! # Tables with spelled keys

The rows of a group are stored under keys that may be spelled in older ways. A row is
found under the canonical spelling first. Writing a row replaces all spellings of its
key, so that what is found is a map from groups and canonical keys.
-/

namespace Foundation

theorem findSome?_congr {α β : Type*} {f g : α → Option β} {items : List α}
    (h : ∀ item ∈ items, f item = g item) : items.findSome? f = items.findSome? g := by
  induction items with
  | nil => rfl
  | cons item rest ih =>
      rw [List.findSome?_cons, List.findSome?_cons, h item List.mem_cons_self,
        ih fun other hother => h other (List.mem_cons_of_mem _ hother)]

/-- The only item that satisfies a condition is the first one that does. -/
theorem find?_eq_of_unique {α : Type*} {p : α → Prop} [DecidablePred p] {items : List α} {found : α}
    (hmem : found ∈ items) (hfound : p found) (h : ∀ item ∈ items, p item → item = found) :
    items.find? (fun item => p item) = some found := by
  obtain ⟨first, hfirst⟩ : ∃ first, items.find? (fun item => p item) = some first := by
    rw [← Option.isSome_iff_exists, List.find?_isSome]
    exact ⟨found, hmem, decide_eq_true hfound⟩
  rw [hfirst, h first (List.mem_of_find?_eq_some hfirst) (by simpa using List.find?_some hfirst)]

theorem Table.get?_upsert {α κ : Type*} [DecidableEq κ] {key : α → κ} (table : Table key) (row : α)
    (id : κ) : (table.upsert row).get? id = if id = key row then some row else table.get? id := by
  ext other
  rw [get?_eq_some_iff, mem_upsert_iff]
  by_cases hid : id = key row
  · subst hid
    simp only [if_true, Option.some.injEq]
    exact ⟨fun h => h.1.elim Eq.symm fun hold => absurd h.2 hold.2, fun h => h ▸ ⟨Or.inl rfl, rfl⟩⟩
  · rw [if_neg hid, get?_eq_some_iff]
    constructor
    · rintro ⟨rfl | hold, rfl⟩
      · exact absurd rfl hid
      · exact ⟨hold.1, rfl⟩
    · rintro ⟨hold, rfl⟩
      exact ⟨Or.inr ⟨hold, hid⟩, rfl⟩

/-- The rows of a table, in any order, are searched by their keys. -/
theorem Table.find?_eq_get? {α κ : Type*} [DecidableEq κ] {key : α → κ} {table : Table key}
    {items : List α} (h : ∀ row, row ∈ items ↔ row ∈ table.rows) (id : κ) :
    items.find? (fun row => key row = id) = table.get? id := by
  cases hfound : table.get? id with
  | none =>
      rw [List.find?_eq_none]
      intro row hrow hid
      exact Table.get?_eq_none.mp hfound (of_decide_eq_true hid ▸ table.mem_ids ((h row).mp hrow))
  | some row =>
      obtain ⟨hmem, rfl⟩ := table.get?_eq_some hfound
      exact find?_eq_of_unique ((h row).mpr hmem) rfl fun other hother hid =>
        table.eq_of_key_eq ((h other).mp hother) hmem hid

/-- The canonical form of every spelling, and the older spellings of a canonical key. -/
structure Spellings (κ : Type*) where
  canonical : κ → κ
  older : κ → List κ
  canonical_older : ∀ key, ∀ old ∈ older key, canonical old = key ∧ canonical key = key

namespace Spellings

variable {κ γ α : Type*} (spellings : Spellings κ)

/-- The canonical spelling of a key comes first. -/
def all (key : κ) : List κ := key :: spellings.older key

/-- A spelling that is found again from its canonical form. -/
def Known (spelling : κ) : Prop := spelling ∈ spellings.all (spellings.canonical spelling)

variable {spellings} {key other spelling : κ}

theorem canonical_of_mem_all (hkey : spellings.canonical key = key)
    (h : spelling ∈ spellings.all key) : spellings.canonical spelling = key := by
  rcases List.mem_cons.mp h with rfl | hold
  · exact hkey
  · exact (spellings.canonical_older key spelling hold).1

theorem Known.canonical_canonical (h : spellings.Known spelling) :
    spellings.canonical (spellings.canonical spelling) = spellings.canonical spelling := by
  rcases List.mem_cons.mp h with hsame | hold
  · exact congrArg spellings.canonical hsame.symm
  · exact (spellings.canonical_older _ _ hold).2

theorem known_of_canonical (h : spellings.canonical key = key) : spellings.Known key := by
  unfold Known
  rw [h]
  exact List.mem_cons_self

/-- Two keys have no spelling in common. -/
theorem eq_of_mem_all (hkey : spellings.canonical key = key)
    (hother : spellings.canonical other = other) (h : spelling ∈ spellings.all key)
    (h' : spelling ∈ spellings.all other) : key = other :=
  (canonical_of_mem_all hkey h).symm.trans (canonical_of_mem_all hother h')

/-! ## What is stored under a key -/

variable [DecidableEq γ] [DecidableEq κ] {id : α → γ × κ} {table : Table id} {group : γ} {row : α}

/-- The row of the canonical spelling, or of the first older one. -/
def stored (spellings : Spellings κ) (table : Table id) (group : γ) (key : κ) : Option α :=
  (spellings.all key).findSome? fun spelling => table.get? (group, spelling)

/-- Replace all spellings of the key of the row. -/
def put (spellings : Spellings κ) (table : Table id) (row : α) : Table id :=
  let others := table.filter fun old =>
    ¬ ((id old).1 = (id row).1 ∧ (id old).2 ∈ spellings.all (id row).2)
  others.insert row

theorem id_not_mem_filter_put : id row ∉ (table.filter fun old =>
    ¬ ((id old).1 = (id row).1 ∧ (id old).2 ∈ spellings.all (id row).2)).ids := by
  intro h
  obtain ⟨old, hold, hid, -⟩ := Table.exists_of_mem_ids _ h
  have hkeep := (Table.mem_filter.mp hold).2
  simp [hid, all] at hkeep

theorem mem_put {old : α} : old ∈ (spellings.put table row).rows ↔ old = row ∨
    (old ∈ table.rows ∧ ¬ ((id old).1 = (id row).1 ∧ (id old).2 ∈ spellings.all (id row).2)) := by
  unfold put
  rw [Table.rows_insert id_not_mem_filter_put, List.mem_cons, Table.mem_filter, decide_eq_true_iff]

/-- The rows of other groups stay as they are listed. -/
theorem filter_rows_put {p : α → Bool} (hp : ∀ old, p old = true → (id old).1 ≠ (id row).1) :
    (spellings.put table row).rows.filter p = table.rows.filter p := by
  have hrow : ¬ p row = true := fun h => hp row h rfl
  have hkept : ∀ old ∈ table.rows, (p old && decide
      (¬ ((id old).1 = (id row).1 ∧ (id old).2 ∈ spellings.all (id row).2))) = p old := by
    intro old _
    by_cases hold : p old = true
    · simp [hold, hp old hold]
    · simp [hold]
  unfold put
  rw [Table.rows_insert id_not_mem_filter_put, List.filter_cons_of_neg hrow]
  change (table.rows.filter _).filter p = _
  rw [List.filter_filter]
  exact List.filter_congr hkept

theorem stored_put_self (spellings : Spellings κ) (table : Table id) (row : α) :
    spellings.stored (spellings.put table row) (id row).1 (id row).2 = some row := by
  have hfound : (spellings.put table row).get? (id row) = some row :=
    Table.get?_insert_self id_not_mem_filter_put
  unfold stored all
  rw [List.findSome?_cons, Prod.mk.eta, hfound]

/-- The rows of other groups and keys are found as before. -/
theorem stored_put_of_ne (hrow : spellings.canonical (id row).2 = (id row).2)
    (hkey : spellings.canonical key = key) (hne : (group, key) ≠ id row) :
    spellings.stored (spellings.put table row) group key = spellings.stored table group key := by
  unfold stored
  apply findSome?_congr
  intro spelling hspelling
  have hapart : ¬ (group = (id row).1 ∧ spelling ∈ spellings.all (id row).2) := by
    rintro ⟨hgroup, hmem⟩
    exact hne (Prod.ext hgroup (eq_of_mem_all hkey hrow hspelling hmem))
  ext old
  rw [Table.get?_eq_some_iff, Table.get?_eq_some_iff, mem_put]
  constructor
  · rintro ⟨rfl | ⟨hold, -⟩, hid⟩
    · refine absurd ⟨?_, ?_⟩ hapart
      · rw [hid]
      · rw [hid]
        exact List.mem_cons_self
    · exact ⟨hold, hid⟩
  · rintro ⟨hold, hid⟩
    refine ⟨Or.inr ⟨hold, ?_⟩, hid⟩
    rwa [hid]

theorem stored_put (hrow : spellings.canonical (id row).2 = (id row).2)
    (hkey : spellings.canonical key = key) : spellings.stored (spellings.put table row) group key =
      if (group, key) = id row then some row else spellings.stored table group key := by
  split
  next h =>
    have hfound := spellings.stored_put_self table row
    rwa [← h] at hfound
  next h => exact stored_put_of_ne hrow hkey h

/-! ## Listing -/

section

variable {β : Type*} {name : β → κ} {code : α → κ} {make : α → β}

/-- Enter a row into a dictionary by canonical keys; an older spelling gives way. -/
def enter (spellings : Spellings κ) (code : α → κ) (make : α → β) (dictionary : Table name)
    (row : α) : Table name :=
  let key := spellings.canonical (code row)
  if key ∈ dictionary.ids ∧ code row ≠ key then dictionary else dictionary.upsert (make row)

theorem mem_foldl_enter {rows : List α} {dictionary : Table name} {entry : β}
    (h : entry ∈ (rows.foldl (spellings.enter code make) dictionary).rows) :
    entry ∈ dictionary.rows ∨ ∃ row ∈ rows, entry = make row := by
  induction rows generalizing dictionary with
  | nil => exact Or.inl h
  | cons row rest ih =>
      rcases ih h with hentered | ⟨other, hother, hentry⟩
      · unfold enter at hentered
        dsimp only at hentered
        split at hentered
        · exact Or.inl hentered
        · rcases Table.mem_upsert_iff.mp hentered with hentry | ⟨hold, -⟩
          · exact Or.inr ⟨row, List.mem_cons_self, hentry⟩
          · exact Or.inl hold
      · exact Or.inr ⟨other, List.mem_cons_of_mem _ hother, hentry⟩

variable (hname : ∀ row, name (make row) = spellings.canonical (code row))

include hname

/-- What a dictionary shows under a key: the canonical row, else what it showed before, else the
first row with an older spelling. -/
theorem get?_foldl_enter (hkey : spellings.canonical key = key) {rows : List α}
    (hdistinct : (rows.map code).Nodup) (dictionary : Table name) :
    (rows.foldl (spellings.enter code make) dictionary).get? key =
      (((rows.find? fun row => code row = key).map make).or (dictionary.get? key)).or
        ((rows.find? fun row => spellings.canonical (code row) = key).map make) := by
  induction rows generalizing dictionary with
  | nil => simp
  | cons row rest ih =>
      obtain ⟨hnot, hrest⟩ := List.nodup_cons.mp hdistinct
      rw [List.foldl_cons, ih hrest]
      unfold enter
      by_cases hcode : code row = key
      · -- The canonical row is entered in any case, and no later row replaces it.
        have hnone : (rest.find? fun other => code other = key) = none := by
          simpa using fun other hother (heq : code other = key) =>
            hnot (List.mem_map.mpr ⟨other, hother, heq.trans hcode.symm⟩)
        have hfound : key = name (make row) := by rw [hname, hcode, hkey]
        simp [hcode, hkey, hnone, Table.get?_upsert, ← hfound]
      · by_cases hcanonical : spellings.canonical (code row) = key
        · by_cases hshown : key ∈ dictionary.ids
          · obtain ⟨entry, -, -, hentry⟩ := dictionary.exists_of_mem_ids hshown
            simp [hcanonical, hcode, hshown, hentry]
          · have hfound : key = name (make row) := by rw [hname, hcanonical]
            simp [hcanonical, hcode, hshown, Table.get?_upsert, ← hfound,
              Table.get?_eq_none.mpr hshown]
        · have hother : key ≠ name (make row) := by
            rw [hname]
            exact Ne.symm hcanonical
          have hsame : (spellings.enter code make dictionary row).get? key =
              dictionary.get? key := by
            unfold enter
            dsimp only
            split
            · rfl
            · rw [Table.get?_upsert, if_neg hother]
          change ((_ : Option β).or ((spellings.enter code make dictionary row).get? key)).or _ = _
          simp [hsame, hcode, hcanonical]

omit hname in
theorem find?_spelling_eq_get? {rows : List α}
    (hrows : ∀ row, row ∈ rows ↔ row ∈ table.rows ∧ (id row).1 = group) (spelling : κ) :
    rows.find? (fun row => (id row).2 = spelling) = table.get? (group, spelling) := by
  cases hfound : table.get? (group, spelling) with
  | none =>
      rw [List.find?_eq_none]
      intro row hrow hcode
      obtain ⟨hmem, hgroup⟩ := (hrows row).mp hrow
      have hid : id row = (group, spelling) := Prod.ext hgroup (of_decide_eq_true hcode)
      exact Table.get?_eq_none.mp hfound (hid ▸ table.mem_ids hmem)
  | some row =>
      obtain ⟨hmem, hid⟩ := table.get?_eq_some hfound
      refine find?_eq_of_unique ((hrows row).mpr ⟨hmem, by rw [hid]⟩) (by rw [hid]) ?_
      intro other hother hcode
      obtain ⟨hstored, hgroup⟩ := (hrows other).mp hother
      exact table.eq_of_key_eq hstored hmem ((Prod.ext hgroup hcode).trans hid.symm)

omit hname in
/-- Where a key has no more than one older spelling, the first row that comes to the key when there
is no canonical one is the stored one. -/
theorem find?_eq_stored {rows : List α} (hone : (spellings.older key).length ≤ 1)
    (hrows : ∀ row, row ∈ rows ↔ row ∈ table.rows ∧ (id row).1 = group)
    (hknown : ∀ row ∈ rows, spellings.Known (id row).2) :
    ((rows.find? fun row => (id row).2 = key).or
        (rows.find? fun row => spellings.canonical (id row).2 = key)) =
      spellings.stored table group key := by
  unfold stored all
  rw [List.findSome?_cons, find?_spelling_eq_get? hrows]
  cases hcanonical : table.get? (group, key) with
  | some row => rfl
  | none =>
      -- A row that comes to the key is spelled in the older way.
      have holder : ∀ row ∈ rows, decide (spellings.canonical (id row).2 = key) =
          decide ((id row).2 ∈ spellings.older key) := by
        intro row hrow
        rw [decide_eq_decide]
        refine ⟨fun hcomes => ?_, fun hold => (spellings.canonical_older key _ hold).1⟩
        have hmem := hknown row hrow
        rw [Known, hcomes] at hmem
        refine (List.mem_cons.mp hmem).resolve_left fun hcode => ?_
        have hmiss := find?_spelling_eq_get? hrows key
        rw [hcanonical, List.find?_eq_none] at hmiss
        exact hmiss row hrow (decide_eq_true hcode)
      rw [Option.none_or, List.find?_congr holder]
      match hspelled : spellings.older key, hone with
      | [], _ => simp
      | [old], _ =>
          simp only [List.mem_singleton, find?_spelling_eq_get? hrows, List.findSome?_cons,
            List.findSome?_nil]
          cases table.get? (group, old) <;> rfl

end

end Spellings

end Foundation
