import Mathlib.Data.Set.Lattice

/-! # Separation of duties

Roles grant permissions. Some sets of permissions must not come together, unless an
exempt role is held.
-/

namespace Foundation

variable {ρ π : Type*}

/-- What is granted to somebody who holds the roles. -/
def grantedBy (grants : ρ → Set π) (roles : Set ρ) : Set π := ⋃ role ∈ roles, grants role

theorem mem_grantedBy {grants : ρ → Set π} {roles : Set ρ} {permission : π} :
    permission ∈ grantedBy grants roles ↔ ∃ role ∈ roles, permission ∈ grants role := by
  simp [grantedBy]

theorem grantedBy_mono {grants : ρ → Set π} {roles fewer : Set ρ} (h : fewer ⊆ roles) :
    grantedBy grants fewer ⊆ grantedBy grants roles :=
  Set.biUnion_subset_biUnion_left h

/-- One of the sets is granted as a whole. -/
def Combines (conflicts : Set (Set π)) (granted : Set π) : Prop :=
  ∃ conflict ∈ conflicts, conflict ⊆ granted

theorem Combines.mono {conflicts : Set (Set π)} {granted more : Set π}
    (h : Combines conflicts granted) (hmore : granted ⊆ more) : Combines conflicts more := by
  obtain ⟨conflict, hmem, hsub⟩ := h
  exact ⟨conflict, hmem, hsub.trans hmore⟩

def Separated (grants : ρ → Set π) (conflicts : Set (Set π)) (exempt : ρ) (roles : Set ρ) : Prop :=
  exempt ∈ roles ∨ ¬ Combines conflicts (grantedBy grants roles)

section

variable {grants : ρ → Set π} {conflicts : Set (Set π)} {exempt : ρ} {roles fewer : Set ρ}

/-- Roles other than the exempt one may be taken away. -/
theorem Separated.subset (h : Separated grants conflicts exempt roles) (hfewer : fewer ⊆ roles)
    (hexempt : exempt ∈ roles → exempt ∈ fewer) : Separated grants conflicts exempt fewer := by
  rcases h with hmem | hsep
  · exact Or.inl (hexempt hmem)
  · exact Or.inr fun hcombines => hsep (hcombines.mono (grantedBy_mono hfewer))

/-- Nobody holds the roles and, without the exempt one, no more than they grant that combines a
conflict. -/
theorem Separated.not_combines (h : Separated grants conflicts exempt roles)
    (hexempt : exempt ∉ roles) {granted : Set π} (hgranted : granted ⊆ grantedBy grants roles) :
    ¬ Combines conflicts granted := by
  rcases h with hmem | hsep
  · exact absurd hmem hexempt
  · exact fun hcombines => hsep (hcombines.mono hgranted)

end

end Foundation
