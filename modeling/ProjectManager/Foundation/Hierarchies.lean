import Mathlib.Logic.Relation
import ProjectManager.Foundation.Tables

/-! # Rows with parents

The rows of a table may name a parent in the same table. A new row comes below rows
that are there, so that only a row that moves can close a cycle: by moving below
itself.
-/

namespace Foundation

open Relation

variable {κ : Type*}

/-- Where `n` links lead from a node. -/
def climb (parent : κ → Option κ) : ℕ → κ → Option κ
  | 0, node => some node
  | n + 1, node => (parent node).bind (climb parent n)

/-- No way along the links comes back to where it started. -/
def NeverReturns (parent : κ → Option κ) : Prop :=
  ∀ node n, climb parent (n + 1) node ≠ some node

section

variable {parent moved : κ → Option κ} {node start target : κ}

theorem exists_climb_iff : (∃ n, climb parent n start = some target) ↔
    ReflTransGen (fun a b => parent a = some b) start target := by
  constructor
  · rintro ⟨n, h⟩
    induction n generalizing start with
    | zero =>
        obtain rfl := Option.some.inj h
        exact .refl
    | succ n ih =>
        obtain ⟨next, hnext, hrest⟩ := Option.bind_eq_some_iff.mp h
        exact (ih hrest).head hnext
  · intro h
    induction h using ReflTransGen.head_induction_on with
    | refl => exact ⟨0, rfl⟩
    | head hnext _ ih =>
        obtain ⟨n, hrest⟩ := ih
        exact ⟨n + 1, Option.bind_eq_some_iff.mpr ⟨_, hnext, hrest⟩⟩

theorem exists_climb_succ_iff : (∃ n, climb parent (n + 1) start = some target) ↔
    TransGen (fun a b => parent a = some b) start target := by
  rw [TransGen.head'_iff]
  constructor
  · rintro ⟨n, h⟩
    obtain ⟨next, hnext, hrest⟩ := Option.bind_eq_some_iff.mp h
    exact ⟨next, hnext, exists_climb_iff.mp ⟨n, hrest⟩⟩
  · rintro ⟨next, hnext, hrest⟩
    obtain ⟨n, hrest⟩ := exists_climb_iff.mpr hrest
    exact ⟨n, Option.bind_eq_some_iff.mpr ⟨next, hnext, hrest⟩⟩

theorem neverReturns_iff :
    NeverReturns parent ↔ ∀ node, ¬ TransGen (fun a b => parent a = some b) node node := by
  simp only [NeverReturns, ← exists_climb_succ_iff, not_exists, ne_eq]

/-- A way to a node uses no link from it. -/
theorem reaches_of_agree (hagree : ∀ other, other ≠ node → moved other = parent other)
    (h : ReflTransGen (fun a b => moved a = some b) start node) :
    ReflTransGen (fun a b => parent a = some b) start node := by
  induction h using ReflTransGen.head_induction_on with
  | refl => exact .refl
  | @head first next hnext _ ih =>
      by_cases hfirst : first = node
      · rw [hfirst]
      · exact ih.head ((hagree first hfirst).symm.trans hnext)

/-- A way uses old links alone, or comes through the node. -/
theorem transGen_of_agree (hagree : ∀ other, other ≠ node → moved other = parent other)
    (h : TransGen (fun a b => moved a = some b) start target) :
    TransGen (fun a b => parent a = some b) start target ∨
      (ReflTransGen (fun a b => moved a = some b) start node ∧
        TransGen (fun a b => moved a = some b) node target) := by
  induction h using TransGen.head_induction_on with
  | @single first hlast =>
      by_cases hfirst : first = node
      · subst hfirst
        exact Or.inr ⟨.refl, .single hlast⟩
      · exact Or.inl (.single ((hagree first hfirst).symm.trans hlast))
  | @head first next hnext hrest ih =>
      by_cases hfirst : first = node
      · subst hfirst
        exact Or.inr ⟨.refl, hrest.head hnext⟩
      · rcases ih with hold | ⟨hto, hfrom⟩
        · exact Or.inl (hold.head ((hagree first hfirst).symm.trans hnext))
        · exact Or.inr ⟨hto.head hnext, hfrom⟩

/-- Moving one node closes a cycle exactly when its new parent lies below it. -/
theorem NeverReturns.moved_iff (h : NeverReturns parent)
    (hagree : ∀ other, other ≠ node → moved other = parent other) :
    NeverReturns moved ↔
      ∀ above, moved node = some above → ∀ n, climb parent n above ≠ some node := by
  rw [neverReturns_iff] at h ⊢
  constructor
  · intro hmoved above habove n hbelow
    have hway := exists_climb_iff.mp ⟨n, hbelow⟩
    have hback := reaches_of_agree (fun other hother => (hagree other hother).symm) hway
    exact hmoved node (TransGen.head' habove hback)
  · intro hbelow other hcycle
    rcases transGen_of_agree hagree hcycle with hold | ⟨hto, hfrom⟩
    · exact h other hold
    · obtain ⟨above, habove, hway⟩ := TransGen.head'_iff.mp (hfrom.trans_left hto)
      obtain ⟨n, hn⟩ := exists_climb_iff.mpr (reaches_of_agree hagree hway)
      exact hbelow above habove n hn

end

namespace Table

variable {α : Type*} {key : α → κ} [DecidableEq κ] (parent : α → Option κ)

def parentOf (table : Table key) (id : κ) : Option κ := (table.get? id).bind parent

/-- Every parent is stored, and no row lies below itself. -/
structure Hierarchy (table : Table key) : Prop where
  parent_stored : ∀ row ∈ table.rows, ∀ above ∈ parent row, above ∈ table.ids
  neverReturns : NeverReturns (table.parentOf parent)

variable {parent} {table : Table key} {row stored : α}

theorem hierarchy_empty : Hierarchy parent (empty : Table key) where
  parent_stored _ h := nomatch h
  neverReturns _ _ h := nomatch h

theorem parentOf_eq_some {id above : κ} : table.parentOf parent id = some above ↔
    ∃ row ∈ table.rows, key row = id ∧ parent row = some above := by
  unfold parentOf
  rw [Option.bind_eq_some_iff]
  constructor
  · rintro ⟨row, hrow, habove⟩
    obtain ⟨hmem, hkey⟩ := get?_eq_some_iff.mp hrow
    exact ⟨row, hmem, hkey, habove⟩
  · rintro ⟨row, hmem, rfl, habove⟩
    exact ⟨row, table.get?_of_mem hmem, habove⟩

theorem Hierarchy.parent_ne (h : Hierarchy parent table) (hrow : row ∈ table.rows) :
    parent row ≠ some (key row) := by
  intro hself
  refine h.neverReturns (key row) 0 (Option.bind_eq_some_iff.mpr ⟨key row, ?_, rfl⟩)
  exact parentOf_eq_some.mpr ⟨row, hrow, rfl, hself⟩

/-- A row that no row names is reached from itself only. -/
theorem climb_of_unnamed {id start : κ} (h : ∀ row ∈ table.rows, parent row ≠ some id) {n : ℕ}
    (hclimb : climb (table.parentOf parent) n start = some id) : start = id := by
  rcases ReflTransGen.cases_tail (exists_climb_iff.mp ⟨n, hclimb⟩) with heq | ⟨_, _, hlast⟩
  · exact heq.symm
  · obtain ⟨row, hmem, -, hnamed⟩ := parentOf_eq_some.mp hlast
    exact absurd hnamed (h row hmem)

theorem Hierarchy.insert (h : Hierarchy parent table) (hfresh : key row ∉ table.ids)
    (hparent : ∀ above ∈ parent row, above ∈ table.ids) :
    Hierarchy parent (table.insert row) where
  parent_stored := by
    intro other hother above habove
    have hids : (table.insert row).ids = key row :: table.ids := congrArg _ (rows_insert hfresh)
    rw [hids]
    apply List.mem_cons_of_mem
    rcases mem_insert hother with rfl | hother
    · exact hparent above habove
    · exact h.parent_stored other hother above habove
  neverReturns := by
    have hagree : ∀ other, other ≠ key row →
        (table.insert row).parentOf parent other = table.parentOf parent other := by
      intro other hother
      unfold parentOf
      rw [get?_insert_of_ne hother]
    refine (h.neverReturns.moved_iff hagree).mpr fun above habove n hbelow => ?_
    unfold parentOf at habove
    rw [get?_insert_self hfresh, Option.bind_some] at habove
    have hunnamed : ∀ other ∈ table.rows, parent other ≠ some (key row) :=
      fun other hother hnamed => hfresh (h.parent_stored other hother _ hnamed)
    exact hfresh (climb_of_unnamed hunnamed hbelow ▸ hparent above habove)

theorem Hierarchy.update_iff (h : Hierarchy parent table)
    (hstored : table.get? (key row) = some stored)
    (hparent : ∀ above ∈ parent row, above ∈ table.ids) :
    Hierarchy parent (table.update row) ↔
      ∀ above ∈ parent row, ∀ n, climb (table.parentOf parent) n above ≠ some (key row) := by
  have hagree : ∀ other, other ≠ key row →
      (table.update row).parentOf parent other = table.parentOf parent other := by
    intro other hother
    unfold parentOf
    rw [get?_update_of_ne hother]
  have hrow : (table.update row).parentOf parent (key row) = parent row := by
    unfold parentOf
    rw [get?_update_self hstored, Option.bind_some]
  constructor
  · intro hnext above habove
    exact (h.neverReturns.moved_iff hagree).mp hnext.neverReturns above (hrow.trans habove)
  · intro hbelow
    refine ⟨fun other hother above habove => ?_, (h.neverReturns.moved_iff hagree).mpr ?_⟩
    · rw [ids_update]
      rcases mem_update_iff.mp hother with ⟨rfl, -⟩ | ⟨hother, -⟩
      · exact hparent above habove
      · exact h.parent_stored other hother above habove
    · exact fun above habove => hbelow above (hrow.symm.trans habove)

/-- A row that stays where it is closes no cycle. -/
theorem Hierarchy.update_of_eq (h : Hierarchy parent table)
    (hstored : table.get? (key row) = some stored) (hsame : parent row = parent stored) :
    Hierarchy parent (table.update row) := by
  obtain ⟨hmem, -⟩ := get?_eq_some_iff.mp hstored
  refine (h.update_iff hstored fun above habove => ?_).mpr fun above habove n hbelow => ?_
  · exact h.parent_stored stored hmem above (hsame ▸ habove)
  · refine h.neverReturns (key row) n (Option.bind_eq_some_iff.mpr ⟨above, ?_, hbelow⟩)
    exact Option.bind_eq_some_iff.mpr ⟨stored, hstored, hsame.symm.trans habove⟩

variable (parent table) in
def NotBelow (id : κ) (given : Option (Option κ)) : Prop :=
  ∀ above, given = some (some above) → ∀ n, climb (table.parentOf parent) n above ≠ some id

/-- A row that is moved below a stored row, made a root or left where it is. -/
theorem Hierarchy.update_given_iff (h : Hierarchy parent table)
    (hstored : table.get? (key row) = some stored) {given : Option (Option κ)}
    (hrow : parent row = given.getD (parent stored))
    (hgiven : ∀ above, given = some (some above) → above ∈ table.ids) :
    Hierarchy parent (table.update row) ↔ NotBelow parent table (key row) given := by
  cases given with
  | none => exact iff_of_true (h.update_of_eq hstored hrow) fun _ heq => nomatch heq
  | some moved =>
      have hrow : parent row = moved := hrow
      subst hrow
      refine (h.update_iff hstored fun above habove => hgiven above (congrArg some habove)).trans ?_
      exact forall_congr' fun above => imp_congr_left (Option.some_inj (b := some above)).symm

end Table

end Foundation
