import ProjectManager.Foundation.SavingPrograms

/-! # Calls on a part of the state

A guarded call of one component runs in the session of a larger state, and commits
or rolls back all of it.
-/

namespace Foundation

/-- A part of a state that can be replaced. -/
structure Part (σ τ : Type) where
  get : σ → τ
  set : σ → τ → σ
  get_set : ∀ state value, get (set state value) = value
  set_set : ∀ state first second, set (set state first) second = set state second

variable {ε σ τ α : Type}

def GuardedCall.within (call : GuardedCall ε τ) (part : Part σ τ) : GuardedCall ε σ where
  Plan := call.Plan
  checks state := call.checks (part.get state)
  body plan state := (call.body plan (part.get state)).map (part.set state)

theorem GuardedCall.within_effect (call : GuardedCall ε τ) (part : Part σ τ) (state : σ) :
    (call.within part).effect state = (call.effect (part.get state)).map (part.set state) := by
  unfold GuardedCall.effect
  change (call.checks (part.get state) >>= fun plan =>
    (call.body plan (part.get state)).map (part.set state)) = _
  cases call.checks (part.get state) <;> rfl

/-- Run on one part of a state whose other parts have no open changes. -/
def Part.run (part : Part σ τ) (run : Session τ → Outcome ε τ) (session : Session σ) :
    Outcome ε σ :=
  let (raised, next) := run ⟨part.get session.committed, part.get session.pending⟩
  (raised, ⟨part.set session.committed next.committed, part.set session.pending next.pending⟩)

theorem Part.run_clean {part : Part σ τ} {run : Session τ → Outcome ε τ} {state : σ} {last : τ}
    (h : (run (.clean (part.get state))).2 = .clean last) :
    (part.run run (.clean state)).2 = .clean (part.set state last) := by
  change Session.mk (part.set state (run (.clean (part.get state))).2.committed)
    (part.set state (run (.clean (part.get state))).2.pending) = _
  rw [h]
  rfl

namespace Program

variable {state : σ} {raises : ε → σ → Prop}

theorem settles_call {guarded : GuardedCall ε σ} {returns : Unit → σ → Prop} :
    (call guarded).Settles state returns raises ↔
      (∀ next, guarded.effect state = .ok next → returns () next) ∧
        ∀ e, guarded.effect state = .error e → raises e state := by
  unfold Settles
  rw [spec_call]
  cases guarded.effect state <;> simp [exists_clean_eq]

theorem settles_call_within {guarded : GuardedCall ε τ} {part : Part σ τ}
    {returns : Unit → σ → Prop} :
    (call (guarded.within part)).Settles state returns raises ↔
      (∀ next, guarded.effect (part.get state) = .ok next →
          returns () (part.set state next)) ∧
        ∀ e, guarded.effect (part.get state) = .error e → raises e state := by
  rw [settles_call, GuardedCall.within_effect]
  cases guarded.effect (part.get state) <;> simp [Except.map]

end Program

end Foundation
