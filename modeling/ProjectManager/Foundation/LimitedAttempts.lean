import Mathlib.Data.List.Infix
import Mathlib.Data.Nat.Notation

/-! # Limited attempts

Failures are counted by key, and a key is closed when its count reaches the limit.
Whoever counts every failure, and lets none happen at a closed key, keeps the failures
between two resets within the limit.
-/

namespace Foundation

inductive AttemptEvent (κ : Type*)
  | failed (key : κ)
  | reset (key : κ)
  deriving DecidableEq

section

variable {κ : Type*} [DecidableEq κ]

/-- The failures of a key since its last reset. The latest event comes first. -/
def failuresSince (key : κ) : List (AttemptEvent κ) → ℕ
  | [] => 0
  | .failed other :: earlier => failuresSince key earlier + if other = key then 1 else 0
  | .reset other :: earlier => if other = key then 0 else failuresSince key earlier

/-- At no time were there more failures since the last reset. -/
def AttemptsWithin (limit : ℕ) (log : List (AttemptEvent κ)) : Prop :=
  ∀ past, past <:+ log → ∀ key, failuresSince key past ≤ limit

theorem attemptsWithin_nil (limit : ℕ) : AttemptsWithin limit ([] : List (AttemptEvent κ)) := by
  intro past hpast key
  rw [List.suffix_nil.mp hpast]
  exact Nat.zero_le limit

theorem attemptsWithin_cons {limit : ℕ} {event : AttemptEvent κ} {log : List (AttemptEvent κ)}
    (h : AttemptsWithin limit log) (hevent : ∀ key, failuresSince key (event :: log) ≤ limit) :
    AttemptsWithin limit (event :: log) := by
  intro past hpast key
  rcases List.suffix_cons_iff.mp hpast with rfl | hpast
  · exact hevent key
  · exact h past hpast key

/-- A counter that has seen the failures since the last reset, unless the key is closed. -/
def CountedBy (limit : ℕ) (log : List (AttemptEvent κ)) (key : κ) (count : ℕ) (closed : Prop) :
    Prop :=
  ¬ closed → failuresSince key log = 0 ∨ failuresSince key log ≤ count ∧ count < limit

variable {limit count : ℕ} {key other : κ} {log : List (AttemptEvent κ)} {closed next : Prop}

theorem failuresSince_failed_of_ne (h : other ≠ key) :
    failuresSince key (.failed other :: log) = failuresSince key log := by
  simp [failuresSince, h]

theorem failuresSince_reset_of_ne (h : other ≠ key) :
    failuresSince key (.reset other :: log) = failuresSince key log := by
  simp [failuresSince, h]

@[simp] theorem failuresSince_failed_self :
    failuresSince key (.failed key :: log) = failuresSince key log + 1 := by
  simp [failuresSince]

@[simp] theorem failuresSince_reset_self : failuresSince key (.reset key :: log) = 0 := by
  simp [failuresSince]

theorem AttemptsWithin.reset (h : AttemptsWithin limit log) (key : κ) :
    AttemptsWithin limit (.reset key :: log) := by
  refine attemptsWithin_cons h fun other => ?_
  by_cases hsame : key = other
  · subst hsame
    simp
  · rw [failuresSince_reset_of_ne hsame]
    exact h log List.suffix_rfl other

theorem AttemptsWithin.failed (h : AttemptsWithin limit log) (hlimit : 0 < limit)
    (hcounted : CountedBy limit log key count closed) (hopen : ¬ closed) :
    AttemptsWithin limit (.failed key :: log) := by
  refine attemptsWithin_cons h fun other => ?_
  by_cases hsame : key = other
  · subst hsame
    have hcount := hcounted hopen
    rw [failuresSince_failed_self]
    omega
  · rw [failuresSince_failed_of_ne hsame]
    exact h log List.suffix_rfl other

theorem CountedBy.reset : CountedBy limit (.reset key :: log) key count closed :=
  fun _ => Or.inl failuresSince_reset_self

theorem CountedBy.failed (h : CountedBy limit log key count closed) (hopen : ¬ closed)
    (hnext : limit ≤ count + 1 → next) :
    CountedBy limit (.failed key :: log) key (count + 1) next := by
  intro hstill
  have hbelow : ¬ limit ≤ count + 1 := fun hlimit => hstill (hnext hlimit)
  have hcount := h hopen
  rw [failuresSince_failed_self]
  omega

theorem CountedBy.other_failed (h : CountedBy limit log key count closed) (hne : other ≠ key) :
    CountedBy limit (.failed other :: log) key count closed := by
  unfold CountedBy
  rw [failuresSince_failed_of_ne hne]
  exact h

theorem CountedBy.other_reset (h : CountedBy limit log key count closed) (hne : other ≠ key) :
    CountedBy limit (.reset other :: log) key count closed := by
  unfold CountedBy
  rw [failuresSince_reset_of_ne hne]
  exact h

end

end Foundation
