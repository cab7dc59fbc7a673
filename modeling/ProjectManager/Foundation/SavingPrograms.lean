import ProjectManager.Foundation.Programs

/-! # Programs that save what they write

Most programs commit each of their writes at once, and roll back what could not be
written. Started on a session without open changes such a program ends on one, so
that it is specified by the states alone.
-/

namespace Foundation

namespace Program

variable {ε σ α β κ : Type}

/-- Read the open transaction. -/
def read (f : σ → α) : Program ε σ α := check fun state => .ok (f state)

/-- Write and commit. -/
def save (f : σ → Except ε σ) : Program ε σ Unit := bind (step f) fun _ => commit Except.ok

/-- Check what the call plans, and save it under a handler that rolls back. -/
def transact (checks : σ → Except ε α) (write : α → σ → Except ε σ) : Program ε σ α :=
  bind (check checks) fun plan => bind (rollingBack (save (write plan))) fun _ => pure plan

/-- Started without open changes, the program ends without them, as specified. -/
def Settles (program : Program ε σ α) (state : σ) (returns : α → σ → Prop)
    (raises : ε → σ → Prop) : Prop :=
  program.Spec (.clean state) (fun value next => ∃ last, next = .clean last ∧ returns value last)
    fun e next => ∃ last, next = .clean last ∧ raises e last

variable {program : Program ε σ α} {state : σ} {returns returns' : α → σ → Prop}
  {raises raises' : ε → σ → Prop}

theorem Settles.mono (h : program.Settles state returns raises)
    (hreturns : ∀ value next, returns value next → returns' value next)
    (hraises : ∀ e next, raises e next → raises' e next) :
    program.Settles state returns' raises' := by
  refine Spec.mono h ?_ ?_
  · rintro value next ⟨last, hlast, hreturned⟩
    exact ⟨last, hlast, hreturns value last hreturned⟩
  · rintro e next ⟨last, hlast, hraised⟩
    exact ⟨last, hlast, hraises e last hraised⟩

/-- What holds however the program ends. -/
theorem Settles.outcome {P : σ → Prop} (h : program.Settles state (fun _ => P) fun _ => P) :
    ∃ last, (program.outcome (.clean state)).2 = .clean last ∧ P last := by
  have houtcome := Spec.outcome h
  generalize program.outcome (.clean state) = result at houtcome
  obtain ⟨_ | e, next⟩ := result
  · obtain ⟨_, last, hlast, hP⟩ := houtcome
    exact ⟨last, hlast, hP⟩
  · exact houtcome

/-- The run that the specification is about. -/
theorem Settles.run (h : program.Settles state returns raises) :
    program.Settles state
      (fun value next => program (.clean state) = (.ok value, .clean next) ∧ returns value next)
      fun e next => program (.clean state) = (.error e, .clean next) ∧ raises e next := by
  unfold Settles Spec at h ⊢
  generalize program (.clean state) = result at h ⊢
  obtain ⟨_ | _, next⟩ := result
  · obtain ⟨last, rfl, hraised⟩ := h
    exact ⟨last, rfl, rfl, hraised⟩
  · obtain ⟨last, rfl, hreturned⟩ := h
    exact ⟨last, rfl, rfl, hreturned⟩

theorem Settles.cases (h : program.Settles state returns raises) :
    (∃ value next, program (.clean state) = (.ok value, .clean next) ∧ returns value next) ∨
      ∃ e next, program (.clean state) = (.error e, .clean next) ∧ raises e next := by
  unfold Settles Spec at h
  generalize program (.clean state) = result at h ⊢
  obtain ⟨e | value, next⟩ := result
  · obtain ⟨last, rfl, hraised⟩ := h
    exact Or.inr ⟨e, last, rfl, hraised⟩
  · obtain ⟨last, rfl, hreturned⟩ := h
    exact Or.inl ⟨value, last, rfl, hreturned⟩

/-- What is specified holds of what the program returned. -/
theorem Settles.returned {value : α} {next : σ} (h : program.Settles state returns raises)
    (hrun : program (.clean state) = (.ok value, .clean next)) : returns value next := by
  unfold Settles Spec at h
  rw [hrun] at h
  obtain ⟨last, hlast, hreturned⟩ := h
  obtain rfl : next = last := congrArg Session.pending hlast
  exact hreturned

/-- A write that is accepted is saved. -/
theorem save_of_ok {f : σ → Except ε σ} {next : σ} (h : f state = .ok next) :
    save f (.clean state) = (.ok (), .clean next) := by
  have hstep : step f (.clean state) = (.ok (), { Session.clean state with pending := next }) :=
    step_of_ok h
  change (step f >>= fun _ => commit Except.ok) _ = _
  rw [bind_of_ok hstep]
  rfl

theorem outcome_of_ok {session next : Session σ} {value : α}
    (h : program session = (.ok value, next)) : program.outcome session = (none, next) := by
  unfold Program.outcome
  rw [h]

theorem outcome_of_error {session next : Session σ} {e : ε}
    (h : program session = (.error e, next)) : program.outcome session = (some e, next) := by
  unfold Program.outcome
  rw [h]

/-! ## Rules -/

theorem exists_clean_eq {P : σ → Prop} :
    (∃ last, Session.clean state = .clean last ∧ P last) ↔ P state := by
  constructor
  · rintro ⟨last, hlast, h⟩
    obtain rfl : state = last := congrArg Session.pending hlast
    exact h
  · exact fun h => ⟨state, rfl, h⟩

@[simp] theorem settles_pure {value : α} :
    (Pure.pure value : Program ε σ α).Settles state returns raises ↔ returns value state :=
  exists_clean_eq

theorem Settles.bind {rest : α → Program ε σ β} {returns : β → σ → Prop}
    (h : program.Settles state (fun value next => (rest value).Settles next returns raises)
      raises) : (program >>= rest).Settles state returns raises := by
  unfold Settles
  rw [spec_bind]
  refine Spec.mono h ?_ fun _ _ => id
  rintro value next ⟨last, rfl, hrest⟩
  exact hrest

theorem settles_check {f : σ → Except ε α} :
    (check f).Settles state returns raises ↔
      (∀ value, f state = .ok value → returns value state) ∧
        ∀ e, f state = .error e → raises e state := by
  unfold Settles
  rw [spec_check, Session.clean_pending]
  cases f state <;> simp [exists_clean_eq]

theorem settles_check_of_ok {f : σ → Except ε α} {value : α} (hvalue : f state = .ok value)
    (h : returns value state) : (check f).Settles state returns raises := by
  rw [settles_check]
  simp [hvalue, h]

@[simp] theorem settles_read {f : σ → α} :
    (read f).Settles state returns raises ↔ returns (f state) state := by
  rw [read, settles_check]
  simp

theorem settles_save {f : σ → Except ε σ} {returns : Unit → σ → Prop} :
    (save f).Settles state returns raises ↔
      (∀ next, f state = .ok next → returns () next) ∧
        ∀ e, f state = .error e → raises e state := by
  unfold Settles
  change (step f >>= fun _ => commit Except.ok).Spec _ _ _ ↔ _
  rw [spec_bind, spec_step, Session.clean_pending]
  cases f state <;> simp [spec_commit, exists_clean_eq]

theorem settles_save_of_ok {f : σ → Except ε σ} {returns : Unit → σ → Prop} {next : σ}
    (hnext : f state = .ok next) (h : returns () next) :
    (save f).Settles state returns raises := by
  rw [settles_save]
  simp [hnext, h]

/-- A call that is refused leaves the session alone, and one that cannot be written rolls back. -/
theorem spec_transact {checks : σ → Except ε α} {write : α → σ → Except ε σ} {session : Session σ}
    {returns : α → Session σ → Prop} {raises : ε → Session σ → Prop} :
    (transact checks write).Spec session returns raises ↔
      (∀ plan, checks session.pending = .ok plan →
        (∀ next, write plan session.pending = .ok next → returns plan (.clean next)) ∧
          ∀ e, write plan session.pending = .error e → raises e session.rollback) ∧
        ∀ e, checks session.pending = .error e → raises e session := by
  change (check checks >>= fun plan =>
    rollingBack (step (write plan) >>= fun _ => commit Except.ok) >>= fun _ =>
      Pure.pure plan).Spec _ _ _ ↔ _
  rw [spec_bind, spec_check]
  cases checks session.pending with
  | error e => simp
  | ok plan =>
      simp only [spec_bind, spec_rollingBack, spec_step, spec_pure]
      cases hwrite : write plan session.pending <;> simp [spec_commit, hwrite]

/-- A call that is refused, or cannot be written, changes nothing. -/
theorem settles_transact {checks : σ → Except ε α} {write : α → σ → Except ε σ} :
    (transact checks write).Settles state returns raises ↔
      (∀ plan, checks state = .ok plan →
        (∀ next, write plan state = .ok next → returns plan next) ∧
          ∀ e, write plan state = .error e → raises e state) ∧
        ∀ e, checks state = .error e → raises e state := by
  unfold Settles
  rw [spec_transact]
  simp [exists_clean_eq, Session.rollback]

theorem settles_transact_of_ok {checks : σ → Except ε α} {write : α → σ → Except ε σ} {plan : α}
    {next : σ} (hchecks : checks state = .ok plan) (hwrite : write plan state = .ok next)
    (h : returns plan next) : (transact checks write).Settles state returns raises := by
  rw [settles_transact]
  simp [hchecks, hwrite, h]

/-- A loop keeps an invariant of the items that it has been through. -/
theorem settles_foldlM {body : β → κ → Program ε σ β} (invariant : List κ → β → σ → Prop)
    (items : List κ) {start : β}
    (hstep : ∀ before item after value current, items = before ++ item :: after →
      invariant before value current →
        (body value item).Settles current (invariant (before ++ [item])) raises)
    (h : invariant [] start state) :
    (items.foldlM body start).Settles state (invariant items) raises := by
  refine spec_foldlM (fun before value next => ∃ last, next = .clean last ∧
    invariant before value last) items ?_ ⟨state, rfl, h⟩
  rintro before item after value _ hitems ⟨current, rfl, hinvariant⟩
  exact hstep before item after value current hitems hinvariant

/-- The items of a list, one after another, lead from one state to another. -/
inductive Through (step : κ → σ → σ → Prop) : σ → List κ → σ → Prop
  | nil (state : σ) : Through step state [] state
  | cons {state middle last : σ} {item : κ} {rest : List κ} (hstep : step item state middle)
      (hrest : Through step middle rest last) : Through step state (item :: rest) last

theorem Through.append {step : κ → σ → σ → Prop} {state middle last : σ} {before after : List κ}
    (hbefore : Through step state before middle) (hafter : Through step middle after last) :
    Through step state (before ++ after) last := by
  induction hbefore with
  | nil => exact hafter
  | cons hstep _ ih => exact .cons hstep (ih hafter)

theorem Through.concat {step : κ → σ → σ → Prop} {state middle last : σ} {before : List κ}
    {item : κ} (hbefore : Through step state before middle) (hitem : step item middle last) :
    Through step state (before ++ [item]) last :=
  hbefore.append (.cons hitem (.nil last))

theorem Through.exists_split {step : κ → σ → σ → Prop} {before after : List κ} {item : κ}
    {state last : σ} (h : Through step state (before ++ item :: after) last) :
    ∃ middle next, Through step state before middle ∧ step item middle next ∧
      Through step next after last := by
  induction before generalizing state with
  | nil =>
      cases h with
      | cons hstep hrest => exact ⟨state, _, .nil state, hstep, hrest⟩
  | cons first before ih =>
      cases h with
      | cons hstep hrest =>
          obtain ⟨middle, next, hbefore, hitem, hafter⟩ := ih hrest
          exact ⟨middle, next, .cons hstep hbefore, hitem, hafter⟩

/-- What every step keeps is kept. -/
theorem Through.invariant {step : κ → σ → σ → Prop} {invariant : σ → Prop}
    {items : List κ} (hstep : ∀ item ∈ items, ∀ state next, step item state next →
      invariant state → invariant next) {state last : σ}
    (h : Through step state items last) (hinvariant : invariant state) : invariant last := by
  induction h with
  | nil => exact hinvariant
  | cons hitem _ ih =>
      exact ih (fun item hmem => hstep item (List.mem_cons_of_mem _ hmem))
        (hstep _ List.mem_cons_self _ _ hitem hinvariant)

theorem settles_forM {body : κ → Program ε σ PUnit} (invariant : List κ → σ → Prop)
    (items : List κ)
    (hstep : ∀ before item after current, items = before ++ item :: after →
      invariant before current →
        (body item).Settles current (fun _ => invariant (before ++ [item])) raises)
    (h : invariant [] state) :
    (items.forM body).Settles state (fun _ => invariant items) raises := by
  refine spec_forM (fun before next => ∃ last, next = .clean last ∧ invariant before last) items ?_
    ⟨state, rfl, h⟩
  rintro before item after _ hitems ⟨current, rfl, hinvariant⟩
  exact hstep before item after current hitems hinvariant

end Program

end Foundation
