import ProjectManager.Foundation.Calls

/-! # Sessions with a transaction

A session holds what is committed and what its open transaction sees. A guarded
call checks first and then writes under a handler that rolls back, so on a
session without open changes it is all or nothing.
-/

namespace Foundation

structure Session (σ : Type*) where
  committed : σ
  pending : σ

namespace Session

variable {σ : Type*}

/-- No open changes. -/
def clean (state : σ) : Session σ := ⟨state, state⟩

@[simp] theorem clean_committed (state : σ) : (clean state).committed = state := rfl

@[simp] theorem clean_pending (state : σ) : (clean state).pending = state := rfl

def commit (session : Session σ) : Session σ := clean session.pending

def rollback (session : Session σ) : Session σ := clean session.committed

end Session

/-- The error that a call raised, if any, and the session that it leaves. -/
abbrev Outcome (ε σ : Type*) := Option ε × Session σ

/-- Checks that raise without writing, and writes that are committed at the end and
rolled back when one of them raises. -/
structure GuardedCall (ε σ : Type) where
  Plan : Type
  checks : σ → Except ε Plan
  body : Plan → σ → Except ε σ

namespace GuardedCall

variable {ε σ : Type}

/-- What the call does to the state it sees, before anything is committed. -/
def effect (call : GuardedCall ε σ) (state : σ) : Except ε σ := do
  let plan ← call.checks state
  call.body plan state

def run (call : GuardedCall ε σ) (session : Session σ) : Outcome ε σ :=
  match call.checks session.pending with
  | .error e => (some e, session)
  | .ok plan =>
      match call.body plan session.pending with
      | .error e => (some e, session.rollback)
      | .ok next => (none, .clean next)

theorem effect_eq_ok {call : GuardedCall ε σ} {state next : σ} :
    call.effect state = .ok next ↔
      ∃ plan, call.checks state = .ok plan ∧ call.body plan state = .ok next :=
  bind_eq_ok

/-- Without open changes a guarded call commits its effect or leaves the session alone. -/
theorem run_clean (call : GuardedCall ε σ) (state : σ) :
    call.run (.clean state) =
      match call.effect state with
      | .ok next => (none, .clean next)
      | .error e => (some e, .clean state) := by
  unfold run effect Session.clean
  cases hchecks : call.checks state with
  | error e => rfl
  | ok plan =>
      cases hbody : call.body plan state with
      | error e =>
          simp only [bind, Except.bind, hbody]
          rfl
      | ok next => simp only [bind, Except.bind, hbody]

end GuardedCall

/-! ## Runs -/

variable {ε σ κ : Type*}

def sessionAfter (run : κ → Session σ → Outcome ε σ) (session : Session σ) (calls : List κ) :
    Session σ :=
  calls.foldl (fun current call => (run call current).2) session

/-- A run after a first call that leaves no open changes. -/
theorem sessionAfter_cons {run : κ → Session σ → Outcome ε σ} {state middle : σ} {call : κ}
    (h : (run call (.clean state)).2 = .clean middle) (rest : List κ) :
    sessionAfter run (.clean state) (call :: rest) = sessionAfter run (.clean middle) rest := by
  unfold sessionAfter
  rw [List.foldl_cons, h]

/-- Every call of the run meets the condition on the session that it is made on. -/
def EachCall (run : κ → Session σ → Outcome ε σ) (condition : Session σ → κ → Prop) :
    Session σ → List κ → Prop
  | _, [] => True
  | session, call :: rest =>
      condition session call ∧ EachCall run condition (run call session).2 rest

instance decidableEachCall {run : κ → Session σ → Outcome ε σ} {condition : Session σ → κ → Prop}
    [∀ session call, Decidable (condition session call)] :
    (session : Session σ) → (calls : List κ) → Decidable (EachCall run condition session calls)
  | _, [] => isTrue trivial
  | session, call :: rest =>
      @instDecidableAnd _ _ inferInstance (decidableEachCall (run call session).2 rest)

/-- What every call of a run keeps holds at its end. -/
theorem sessionAfter_invariant {run : κ → Session σ → Outcome ε σ}
    {condition : Session σ → κ → Prop} {invariant : Session σ → Prop}
    (hstep : ∀ session call, condition session call → invariant session →
      invariant (run call session).2)
    (calls : List κ) {session : Session σ} (hcalls : EachCall run condition session calls)
    (h : invariant session) : invariant (sessionAfter run session calls) := by
  induction calls generalizing session with
  | nil => exact h
  | cons call rest ih => exact ih hcalls.2 (hstep session call hcalls.1 h)

theorem EachCall.conclude {run : κ → Session σ → Outcome ε σ}
    {condition conclusion : Session σ → κ → Prop} {invariant : Session σ → Prop}
    (hstep : ∀ session call, condition session call → invariant session →
      invariant (run call session).2)
    (hconclude : ∀ session call, condition session call → invariant session →
      conclusion session call)
    {calls : List κ} {session : Session σ} (hcalls : EachCall run condition session calls)
    (h : invariant session) : EachCall run conclusion session calls := by
  induction calls generalizing session with
  | nil => trivial
  | cons call rest ih =>
      exact ⟨hconclude session call hcalls.1 h, ih hcalls.2 (hstep session call hcalls.1 h)⟩

theorem eachCall_of_forall {run : κ → Session σ → Outcome ε σ}
    {condition : Session σ → κ → Prop} (h : ∀ session call, condition session call)
    (calls : List κ) (session : Session σ) : EachCall run condition session calls := by
  induction calls generalizing session with
  | nil => trivial
  | cons call rest ih => exact ⟨h session call, ih _⟩

end Foundation
