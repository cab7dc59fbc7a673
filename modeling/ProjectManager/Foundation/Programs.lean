import ProjectManager.Foundation.Session

/-! # Programs on a session

A program reads and writes the open transaction of a session, commits it or
rolls it back, and may raise. What it wrote before a raise stays in the open
transaction. A program is specified by what holds where it returns and where it
raises.
-/

namespace Foundation

def Program (ε σ α : Type) := Session σ → Except ε α × Session σ

namespace Program

variable {ε σ α β κ : Type}

def pure (value : α) : Program ε σ α := fun session => (.ok value, session)

def bind (program : Program ε σ α) (rest : α → Program ε σ β) : Program ε σ β := fun session =>
  match program session with
  | (.ok value, next) => rest value next
  | (.error e, next) => (.error e, next)

instance : Monad (Program ε σ) where
  pure := pure
  bind := bind

/-- Read the open transaction, and raise when the check does. -/
def check (f : σ → Except ε α) : Program ε σ α := fun session => (f session.pending, session)

/-- Write the open transaction; a step that raises writes nothing. -/
def step (f : σ → Except ε σ) : Program ε σ Unit := fun session =>
  match f session.pending with
  | .ok next => (.ok (), { session with pending := next })
  | .error e => (.error e, session)

/-- Commit what is left after the flush. A flush that is refused rolls the transaction
back. -/
def commit (flush : σ → Except ε σ) : Program ε σ Unit := fun session =>
  match flush session.pending with
  | .ok next => (.ok (), .clean next)
  | .error e => (.error e, session.rollback)

/-- Run a program under a handler that rolls back and raises again. -/
def rollingBack (program : Program ε σ α) : Program ε σ α := fun session =>
  match program session with
  | (.ok value, next) => (.ok value, next)
  | (.error e, next) => (.error e, next.rollback)

def call (guarded : GuardedCall ε σ) : Program ε σ Unit := fun session =>
  match guarded.run session with
  | (none, next) => (.ok (), next)
  | (some e, next) => (.error e, next)

def outcome (program : Program ε σ α) (session : Session σ) : Outcome ε σ :=
  match program session with
  | (.ok _, next) => (none, next)
  | (.error e, next) => (some e, next)

@[simp] theorem outcome_call (guarded : GuardedCall ε σ) (session : Session σ) :
    (call guarded).outcome session = guarded.run session := by
  unfold outcome call
  generalize guarded.run session = result
  obtain ⟨_ | e, next⟩ := result <;> rfl

/-! ## Executions -/

section

variable {program : Program ε σ α} {rest : α → Program ε σ β} {session next : Session σ}

theorem bind_of_ok {value : α} (h : program session = (.ok value, next)) :
    (program >>= rest) session = rest value next := by
  change bind program rest session = _
  unfold bind
  rw [h]

theorem bind_of_error {e : ε} (h : program session = (.error e, next)) :
    (program >>= rest) session = (.error e, next) := by
  change bind program rest session = _
  unfold bind
  rw [h]

/-- A program that goes on to return something else. -/
theorem bind_pure_run (g : α → β) {result : Except ε α} (h : program session = (result, next)) :
    (program >>= fun value => Pure.pure (g value)) session = (result.map g, next) := by
  cases result with
  | error e => exact bind_of_error h
  | ok value => exact bind_of_ok h

theorem step_of_ok {f : σ → Except ε σ} {state : σ} (h : f session.pending = .ok state) :
    step f session = (.ok (), { session with pending := state }) := by
  unfold step
  rw [h]

theorem step_of_error {f : σ → Except ε σ} {e : ε} (h : f session.pending = .error e) :
    step f session = (.error e, session) := by
  unfold step
  rw [h]

theorem rollingBack_of_ok {value : α} (h : program session = (.ok value, next)) :
    rollingBack program session = (.ok value, next) := by
  unfold rollingBack
  rw [h]

theorem rollingBack_of_error {e : ε} (h : program session = (.error e, next)) :
    rollingBack program session = (.error e, next.rollback) := by
  unfold rollingBack
  rw [h]

end

/-! ## Specifications -/

def Spec (program : Program ε σ α) (session : Session σ) (returns : α → Session σ → Prop)
    (raises : ε → Session σ → Prop) : Prop :=
  match program session with
  | (.ok value, next) => returns value next
  | (.error e, next) => raises e next

variable {program : Program ε σ α} {session : Session σ} {returns returns' : α → Session σ → Prop}
  {raises raises' : ε → Session σ → Prop}

theorem Spec.mono (h : program.Spec session returns raises)
    (hreturns : ∀ value next, returns value next → returns' value next)
    (hraises : ∀ e next, raises e next → raises' e next) :
    program.Spec session returns' raises' := by
  unfold Spec at h ⊢
  generalize program session = result at h ⊢
  obtain ⟨value | value, next⟩ := result
  · exact hraises _ _ h
  · exact hreturns _ _ h

theorem Spec.of_forall (hreturns : ∀ value next, returns value next)
    (hraises : ∀ e next, raises e next) : program.Spec session returns raises := by
  unfold Spec
  generalize program session = result
  obtain ⟨value | value, next⟩ := result
  · exact hraises _ _
  · exact hreturns _ _

theorem Spec.of_ok {value : α} {next : Session σ} (h : program.Spec session returns raises)
    (hrun : program session = (.ok value, next)) : returns value next := by
  unfold Spec at h
  rw [hrun] at h
  exact h

theorem Spec.of_error {e : ε} {next : Session σ} (h : program.Spec session returns raises)
    (hrun : program session = (.error e, next)) : raises e next := by
  unfold Spec at h
  rw [hrun] at h
  exact h

theorem Spec.outcome (h : program.Spec session returns raises) :
    match program.outcome session with
    | (none, next) => ∃ value, returns value next
    | (some e, next) => raises e next := by
  unfold Spec at h
  unfold Program.outcome
  generalize program session = result at h ⊢
  obtain ⟨value | value, next⟩ := result
  · exact h
  · exact ⟨value, h⟩

@[simp] theorem spec_pure {value : α} :
    (Pure.pure value : Program ε σ α).Spec session returns raises ↔ returns value session :=
  Iff.rfl

@[simp] theorem spec_bind {rest : α → Program ε σ β} {returns : β → Session σ → Prop} :
    (program >>= rest).Spec session returns raises ↔
      program.Spec session (fun value next => (rest value).Spec next returns raises) raises := by
  change (bind program rest).Spec session returns raises ↔ _
  unfold Spec bind
  generalize program session = result
  obtain ⟨value | value, next⟩ := result <;> rfl

theorem spec_check {f : σ → Except ε α} :
    (check f).Spec session returns raises ↔
      match f session.pending with
      | .ok value => returns value session
      | .error e => raises e session := by
  unfold Spec check
  cases f session.pending <;> rfl

theorem spec_step {f : σ → Except ε σ} {returns : Unit → Session σ → Prop} :
    (step f).Spec session returns raises ↔
      match f session.pending with
      | .ok next => returns () { session with pending := next }
      | .error e => raises e session := by
  unfold Spec step
  cases f session.pending <;> rfl

theorem spec_commit {flush : σ → Except ε σ} {returns : Unit → Session σ → Prop} :
    (commit flush).Spec session returns raises ↔
      match flush session.pending with
      | .ok next => returns () (.clean next)
      | .error e => raises e session.rollback := by
  unfold Spec commit
  cases flush session.pending <;> rfl

theorem spec_rollingBack :
    (rollingBack program).Spec session returns raises ↔
      program.Spec session returns fun e next => raises e next.rollback := by
  unfold Spec rollingBack
  generalize program session = result
  obtain ⟨value | value, next⟩ := result <;> rfl

/-- Without open changes a guarded call commits its effect or leaves the session alone. -/
theorem spec_call {guarded : GuardedCall ε σ} {state : σ} {returns : Unit → Session σ → Prop} :
    (call guarded).Spec (.clean state) returns raises ↔
      match guarded.effect state with
      | .ok next => returns () (.clean next)
      | .error e => raises e (.clean state) := by
  unfold Spec call
  rw [guarded.run_clean]
  cases guarded.effect state <;> rfl

/-- A loop keeps an invariant of the items that it has been through. -/
theorem spec_foldlM {body : β → κ → Program ε σ β} (invariant : List κ → β → Session σ → Prop)
    (items : List κ) {start : β}
    (hstep : ∀ before item after value current, items = before ++ item :: after →
      invariant before value current →
        (body value item).Spec current (invariant (before ++ [item])) raises)
    (h : invariant [] start session) :
    (items.foldlM body start).Spec session (invariant items) raises := by
  have hfrom : ∀ after before value current, items = before ++ after →
      invariant before value current →
        (after.foldlM body value).Spec current (invariant items) raises := by
    intro after
    induction after with
    | nil =>
        intro before value current hitems hinvariant
        rw [List.append_nil] at hitems
        exact hitems ▸ hinvariant
    | cons item after ih =>
        intro before value current hitems hinvariant
        rw [List.foldlM_cons, spec_bind]
        refine (hstep before item after value current hitems hinvariant).mono ?_ fun _ _ => id
        intro next last hnext
        exact ih (before ++ [item]) next last (by simpa using hitems) hnext
  exact hfrom items [] start session rfl h

theorem spec_forM {body : κ → Program ε σ PUnit} (invariant : List κ → Session σ → Prop)
    (items : List κ)
    (hstep : ∀ before item after current, items = before ++ item :: after →
      invariant before current →
        (body item).Spec current (fun _ => invariant (before ++ [item])) raises)
    (h : invariant [] session) :
    (items.forM body).Spec session (fun _ => invariant items) raises := by
  have hfrom : ∀ after before current, items = before ++ after → invariant before current →
      (after.forM body).Spec current (fun _ => invariant items) raises := by
    intro after
    induction after with
    | nil =>
        intro before current hitems hinvariant
        rw [List.append_nil] at hitems
        exact hitems ▸ hinvariant
    | cons item after ih =>
        intro before current hitems hinvariant
        change (body item >>= fun _ => after.forM body).Spec _ _ _
        rw [spec_bind]
        refine (hstep before item after current hitems hinvariant).mono ?_ fun _ _ => id
        intro _ last hnext
        exact ih (before ++ [item]) last (by simpa using hitems) hnext
  exact hfrom items [] session rfl h

end Program

end Foundation
