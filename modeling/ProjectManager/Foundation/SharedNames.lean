import Mathlib.Data.List.Induction
import Mathlib.Data.Set.Defs
import Mathlib.Logic.Function.Basic

/-! # Names that several members go by

A dictionary is filled with the names of the members of a list, and a later
member takes a name over from an earlier one. A name has the same owner in every
order exactly when one member goes by it.
-/

namespace Foundation

variable {κ α β : Type*} [DecidableEq κ] {names : α → List κ} {members : List α} {name : κ}
  {owner : α}

def enterNames (names : α → List κ) (entries : κ → Option α) (member : α) : κ → Option α :=
  (names member).foldl (fun entries name => Function.update entries name (some member)) entries

def nameOwners (names : α → List κ) (members : List α) : κ → Option α :=
  members.foldl (enterNames names) fun _ => none

theorem enterNames_apply (entries : κ → Option α) (member : α) (name : κ) :
    enterNames names entries member name =
      if name ∈ names member then some member else entries name := by
  unfold enterNames
  induction names member generalizing entries with
  | nil => rfl
  | cons first rest ih =>
      rw [List.foldl_cons, ih, Function.update_apply]
      by_cases hrest : name ∈ rest <;> by_cases hfirst : name = first <;> simp [hrest, hfirst]

theorem nameOwners_concat (members : List α) (last : α) (name : κ) :
    nameOwners names (members ++ [last]) name =
      if name ∈ names last then some last else nameOwners names members name := by
  unfold nameOwners
  rw [List.foldl_append]
  exact enterNames_apply _ _ _

theorem mem_of_nameOwners (h : nameOwners names members name = some owner) :
    owner ∈ members ∧ name ∈ names owner := by
  induction members using List.reverseRecOn with
  | nil => cases h
  | append_singleton members last ih =>
      rw [nameOwners_concat] at h
      split_ifs at h with hlast
      · obtain rfl := Option.some.inj h
        exact ⟨by simp, hlast⟩
      · exact ⟨List.mem_append_left _ (ih h).1, (ih h).2⟩

theorem exists_nameOwner (hmember : owner ∈ members) (hname : name ∈ names owner) :
    ∃ other, nameOwners names members name = some other := by
  induction members using List.reverseRecOn with
  | nil => simp at hmember
  | append_singleton members last ih =>
      rw [nameOwners_concat]
      split_ifs with hlast
      · exact ⟨last, rfl⟩
      · rcases List.mem_append.mp hmember with hmember | hmember
        · exact ih hmember
        · obtain rfl := List.mem_singleton.mp hmember
          exact absurd hname hlast

/-- The last members decide, if any of them goes by the name. -/
theorem nameOwners_append (first last : List α) (name : κ) :
    nameOwners names (first ++ last) name =
      (nameOwners names last name).or (nameOwners names first name) := by
  induction last using List.reverseRecOn with
  | nil => rw [List.append_nil]; rfl
  | append_singleton rest member ih =>
      rw [← List.append_assoc, nameOwners_concat, nameOwners_concat, ih]
      split_ifs <;> rfl

theorem exists_perm_owner (hmember : owner ∈ members) (hname : name ∈ names owner) :
    ∃ order : List α, order.Perm members ∧ nameOwners names order name = some owner := by
  obtain ⟨before, after, rfl⟩ := List.append_of_mem hmember
  have hfront : (owner :: (before ++ after)).Perm (before ++ owner :: after) :=
    List.perm_middle.symm
  refine ⟨(before ++ after) ++ [owner], ?_, ?_⟩
  · exact List.perm_append_comm.trans hfront
  · rw [nameOwners_concat, if_pos hname]

theorem forall_perm_owner_iff (hmember : owner ∈ members) :
    (∀ order : List α, order.Perm members → nameOwners names order name = some owner) ↔
      ∀ other ∈ members, name ∈ names other ↔ other = owner := by
  constructor
  · intro h other hother
    constructor
    · intro hname
      obtain ⟨order, hperm, howner⟩ := exists_perm_owner hother hname
      rw [h order hperm] at howner
      exact (Option.some.inj howner).symm
    · rintro rfl
      exact (mem_of_nameOwners (h members (.refl _))).2
  · intro h order hperm
    obtain ⟨other, hother⟩ := exists_nameOwner (hperm.mem_iff.mpr hmember)
      ((h owner hmember).mpr rfl)
    obtain ⟨hmem, hname⟩ := mem_of_nameOwners hother
    rw [hother, (h other (hperm.mem_iff.mp hmem)).mp hname]

/-! ## What a list of names finds -/

def valuesOf (names : α → List κ) (value : α → β) (members : List α) (tokens : List κ) : Set β :=
  {v | ∃ token ∈ tokens, ∃ owner, nameOwners names members token = some owner ∧ value owner = v}

def CertainValue (names : α → List κ) (value : α → β) (members : List α) (tokens : List κ)
    (v : β) : Prop :=
  ∃ token ∈ tokens, (∃ owner ∈ members, token ∈ names owner) ∧
    ∀ owner ∈ members, token ∈ names owner → value owner = v

variable {value : α → β} {tokens : List κ} {v : β}

theorem CertainValue.mem_valuesOf {order : List α} (h : CertainValue names value members tokens v)
    (hperm : order.Perm members) : v ∈ valuesOf names value order tokens := by
  obtain ⟨token, htoken, ⟨owner, hmember, hname⟩, hall⟩ := h
  obtain ⟨other, hother⟩ := exists_nameOwner (hperm.mem_iff.mpr hmember) hname
  obtain ⟨hmem, hname⟩ := mem_of_nameOwners hother
  exact ⟨token, htoken, other, hother, hall other (hperm.mem_iff.mp hmem) hname⟩

theorem certain_of_mem_front [DecidableEq β] (h : v ∈ valuesOf names value
    (members.filter (fun member => decide (value member = v)) ++
      members.filter fun member => !decide (value member = v)) tokens) :
    CertainValue names value members tokens v := by
  obtain ⟨token, htoken, owner, howner, rfl⟩ := h
  obtain ⟨hmem, hname⟩ := mem_of_nameOwners howner
  have hmember : owner ∈ members := by
    rcases List.mem_append.mp hmem with hmem | hmem
    · exact (List.mem_filter.mp hmem).1
    · exact (List.mem_filter.mp hmem).1
  refine ⟨token, htoken, ⟨owner, hmember, hname⟩, fun other hother hothername => ?_⟩
  by_contra hne
  have hlater : other ∈ members.filter fun member => !decide (value member = value owner) :=
    List.mem_filter.mpr ⟨hother, by simpa using hne⟩
  obtain ⟨last, hlast⟩ := exists_nameOwner hlater hothername
  rw [nameOwners_append, hlast] at howner
  obtain rfl := Option.some.inj howner
  simpa using (List.mem_filter.mp (mem_of_nameOwners hlast).1).2

/-- The values found are the same in every order exactly when all values that may be found are
certain. -/
theorem forall_perm_valuesOf_iff [DecidableEq β] :
    (∀ order : List α, order.Perm members →
        valuesOf names value order tokens = valuesOf names value members tokens) ↔
      ∀ token ∈ tokens, ∀ owner ∈ members, token ∈ names owner →
        CertainValue names value members tokens (value owner) := by
  constructor
  · intro h token htoken owner hmember hname
    obtain ⟨order, hperm, howner⟩ := exists_perm_owner hmember hname
    have hfound : value owner ∈ valuesOf names value order tokens :=
      ⟨token, htoken, owner, howner, rfl⟩
    apply certain_of_mem_front
    rw [h _ (List.filter_append_perm _ members), ← h order hperm]
    exact hfound
  · intro h
    have hcertain : ∀ order : List α, order.Perm members → ∀ v,
        v ∈ valuesOf names value order tokens ↔ CertainValue names value members tokens v := by
      intro order hperm v
      constructor
      · rintro ⟨token, htoken, owner, howner, rfl⟩
        obtain ⟨hmem, hname⟩ := mem_of_nameOwners howner
        exact h token htoken owner (hperm.mem_iff.mp hmem) hname
      · intro hv
        exact hv.mem_valuesOf hperm
    intro order hperm
    ext v
    rw [hcertain order hperm, hcertain members (.refl _)]

end Foundation
