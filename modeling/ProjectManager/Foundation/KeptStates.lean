import ProjectManager.Foundation.SavingPrograms

/-! # What a program keeps

A program keeps a property of states when the property holds of what is committed
and of what the open transaction sees, wherever the program returns or raises.
-/

namespace Foundation

namespace Session

variable {σ : Type*} {P : σ → Prop} {session : Session σ}

def Both (P : σ → Prop) (session : Session σ) : Prop := P session.committed ∧ P session.pending

@[simp] theorem both_clean {state : σ} : (clean state).Both P ↔ P state := and_self_iff

theorem Both.rollback (h : session.Both P) : session.rollback.Both P := both_clean.mpr h.1

theorem Both.write {next : σ} (h : session.Both P) (hnext : P next) :
    Both P { session with pending := next } :=
  ⟨h.1, hnext⟩

end Session

/-- A guarded call keeps what its writes keep. -/
theorem GuardedCall.both_run {ε σ : Type} {call : GuardedCall ε σ} {P : σ → Prop}
    {session : Session σ}
    (hbody : ∀ plan next, call.checks session.pending = .ok plan →
      call.body plan session.pending = .ok next → P next)
    (h : session.Both P) : (call.run session).2.Both P := by
  unfold GuardedCall.run
  cases hchecks : call.checks session.pending with
  | error e => exact h
  | ok plan =>
      simp only
      cases hwritten : call.body plan session.pending with
      | error e => exact h.rollback
      | ok next => exact Session.both_clean.mpr (hbody plan next hchecks hwritten)

namespace Program

variable {ε σ α β κ : Type} {P : σ → Prop}

def Keeps (program : Program ε σ α) (P : σ → Prop) : Prop :=
  ∀ session : Session σ, session.Both P →
    program.Spec session (fun _ next => next.Both P) fun _ next => next.Both P

/-- What holds of the session in either case holds after the program. -/
theorem Spec.outcome_snd {program : Program ε σ α} {session : Session σ} {Q : Session σ → Prop}
    (h : program.Spec session (fun _ => Q) fun _ => Q) : Q (program.outcome session).2 := by
  have houtcome := h.outcome
  generalize program.outcome session = result at houtcome
  obtain ⟨_ | e, next⟩ := result
  · obtain ⟨-, hnext⟩ := houtcome
    exact hnext
  · exact houtcome

theorem Keeps.outcome {program : Program ε σ α} (h : program.Keeps P) {session : Session σ}
    (hsession : session.Both P) : (program.outcome session).2.Both P :=
  (h session hsession).outcome_snd

theorem keeps_pure {value : α} : (Pure.pure value : Program ε σ α).Keeps P :=
  fun _ h => h

theorem Keeps.bind {program : Program ε σ α} {rest : α → Program ε σ β} (h : program.Keeps P)
    (hrest : ∀ value, (rest value).Keeps P) : (program >>= rest).Keeps P := by
  intro session hsession
  rw [spec_bind]
  exact (h session hsession).mono (fun value next hnext => hrest value next hnext) fun _ _ => id

theorem keeps_check {f : σ → Except ε α} : (check f).Keeps P := by
  intro session h
  rw [spec_check]
  cases f session.pending <;> exact h

theorem keeps_check_bind {f : σ → Except ε α} {rest : α → Program ε σ β}
    (hrest : ∀ value state, P state → f state = .ok value → (rest value).Keeps P) :
    (check f >>= rest).Keeps P := by
  intro session h
  rw [spec_bind, spec_check]
  cases hf : f session.pending with
  | error e => exact h
  | ok value => exact hrest value session.pending h.2 hf session h

theorem keeps_step {f : σ → Except ε σ}
    (hf : ∀ state next, P state → f state = .ok next → P next) : (step f).Keeps P := by
  intro session h
  rw [spec_step]
  cases hstep : f session.pending with
  | error e => exact h
  | ok next => exact h.write (hf _ _ h.2 hstep)

theorem keeps_commit {flush : σ → Except ε σ}
    (hflush : ∀ state next, P state → flush state = .ok next → P next) :
    (commit flush).Keeps P := by
  intro session h
  rw [spec_commit]
  cases hflushed : flush session.pending with
  | error e => exact h.rollback
  | ok next => exact Session.both_clean.mpr (hflush _ _ h.2 hflushed)

theorem keeps_save {f : σ → Except ε σ}
    (hf : ∀ state next, P state → f state = .ok next → P next) : (save f).Keeps P :=
  (keeps_step hf).bind fun _ => keeps_commit fun _ _ h hsame => Except.ok.inj hsame ▸ h

theorem keeps_transact {checks : σ → Except ε α} {write : α → σ → Except ε σ}
    (h : ∀ state plan next, P state → checks state = .ok plan → write plan state = .ok next →
      P next) : (transact checks write).Keeps P := by
  intro session hsession
  rw [spec_transact]
  refine ⟨fun plan hplan => ⟨?_, fun _ _ => hsession.rollback⟩, fun _ _ => hsession⟩
  intro next hnext
  exact Session.both_clean.mpr (h session.pending plan next hsession.2 hplan hnext)

theorem Keeps.rollingBack {program : Program ε σ α} (h : program.Keeps P) :
    (rollingBack program).Keeps P := by
  intro session hsession
  rw [spec_rollingBack]
  exact (h session hsession).mono (fun _ _ => id) fun _ _ hnext => hnext.rollback

theorem keeps_foldlM {body : β → κ → Program ε σ β} (items : List κ) (start : β)
    (hbody : ∀ value, ∀ item ∈ items, (body value item).Keeps P) :
    (items.foldlM body start).Keeps P := by
  induction items generalizing start with
  | nil => exact keeps_pure
  | cons item rest ih =>
      rw [List.foldlM_cons]
      exact (hbody start item List.mem_cons_self).bind fun value =>
        ih value fun other later hmem => hbody other later (List.mem_cons_of_mem _ hmem)

theorem keeps_forM {body : κ → Program ε σ PUnit} (items : List κ)
    (hbody : ∀ item ∈ items, (body item).Keeps P) : (items.forM body).Keeps P := by
  induction items with
  | nil => exact keeps_pure
  | cons item rest ih =>
      change (body item >>= fun _ => rest.forM body).Keeps P
      exact (hbody item List.mem_cons_self).bind fun _ =>
        ih fun later hmem => hbody later (List.mem_cons_of_mem _ hmem)

end Program

end Foundation
