import Mathlib.Data.List.Nodup
import Mathlib.Logic.Function.Basic
import Mathlib.Logic.Relation
import ProjectManager.Foundation.Calls

/-! # Optimistic locking

Any number of sessions read a row with its version, prepare a write from it, let
the database check the version and lock the row, and commit. However their steps
interleave, the state is the one that the committed requests lead to when they
run one after another in commit order: a row with an unchanged version is the row
that was read, and a lock keeps it so until the commit.
-/

namespace Foundation

/-- Rows with versions, and what requests do to them. -/
structure VersionedRows (σ κ ρ δ μ π ε : Type) where
  row : σ → κ → Option (ρ × ℕ)
  ident : ρ → δ
  /-- The row that a request reads and writes. -/
  key : μ → κ
  prepare : μ → σ → Except ε π
  /-- The check of an update against the version that was read. -/
  check : σ → π → ℕ → Except ε Unit
  /-- The write, over the version that was read or as a new row; it checks no version. -/
  commit : σ → π → Option ℕ → Except ε σ

namespace VersionedRows

variable {σ κ ρ δ μ π ε : Type} (rows : VersionedRows σ κ ρ δ μ π ε)

def read (state : σ) (request : μ) : Option (ρ × ℕ) := rows.row state (rows.key request)

/-- A request that nothing comes in between. -/
def serial (state : σ) (request : μ) : Except ε σ := do
  let prepared ← rows.prepare request state
  rows.commit state prepared ((rows.read state request).map Prod.snd)

/-- What the rows must do for the locking to work. -/
structure Lawful : Prop where
  /-- A request sees its own row only. -/
  prepare_congr : ∀ {request : μ} {state other : σ},
    rows.read state request = rows.read other request →
      rows.prepare request state = rows.prepare request other
  /-- The check passes when the row that was read still has the version. -/
  check_version : ∀ {request : μ} {snapshot state : σ} {prepared : π} {old current : ρ}
    {oldVersion version expected : ℕ}, rows.prepare request snapshot = .ok prepared →
      rows.read snapshot request = some (old, oldVersion) →
      rows.read state request = some (current, version) → rows.ident current = rows.ident old →
      rows.check state prepared expected = .ok () → version = expected
  /-- There is one row for a key. -/
  insert_unique : ∀ {request : μ} {snapshot state next : σ} {prepared : π},
    rows.prepare request snapshot = .ok prepared → rows.read snapshot request = none →
      rows.commit state prepared none = .ok next → rows.read state request = none
  /-- A write counts the version up and leaves the row what it is. -/
  version_succ : ∀ {request : μ} {state next : σ}, rows.serial state request = .ok next →
    ∃ current version, rows.read next request = some (current, version) ∧
      ∀ old oldVersion, rows.read state request = some (old, oldVersion) →
        rows.ident current = rows.ident old ∧ oldVersion < version
  frame : ∀ {request : μ} {state next : σ}, rows.serial state request = .ok next →
    ∀ key, key ≠ rows.key request → rows.row next key = rows.row state key

/-! ## Sessions -/

/-- How far a session has come. -/
inductive Phase (ρ π ε : Type)
  | begun
  | read (seen : Option (ρ × ℕ)) (prepared : π)
  | written (seen : Option (ρ × ℕ)) (prepared : π)
  | committed
  | failed (error : ε)

/-- The committed state, the sessions, and the order in which sessions have committed. -/
structure Cluster (σ ρ π ε ι : Type) where
  state : σ
  phase : ι → Phase ρ π ε
  order : List ι

namespace Cluster

variable {ι : Type}

def initial (state : σ) : Cluster σ ρ π ε ι := ⟨state, fun _ => .begun, []⟩

variable [DecidableEq ι] (cluster : Cluster σ ρ π ε ι)

def move (i : ι) (phase : Phase ρ π ε) : Cluster σ ρ π ε ι :=
  { cluster with phase := Function.update cluster.phase i phase }

/-- The session has led to this state. -/
def commit (i : ι) (state : σ) : Cluster σ ρ π ε ι where
  state := state
  phase := Function.update cluster.phase i .committed
  order := cluster.order ++ [i]

@[simp] theorem move_phase_self (i : ι) (phase : Phase ρ π ε) :
    (cluster.move i phase).phase i = phase := by
  simp [move]

@[simp] theorem move_phase_of_ne {i j : ι} (hj : j ≠ i) (phase : Phase ρ π ε) :
    (cluster.move i phase).phase j = cluster.phase j := by
  simp [move, hj]

@[simp] theorem commit_phase_self (i : ι) (state : σ) :
    (cluster.commit i state).phase i = .committed := by
  simp [commit]

@[simp] theorem commit_phase_of_ne {i j : ι} (hj : j ≠ i) (state : σ) :
    (cluster.commit i state).phase j = cluster.phase j := by
  simp [commit, hj]

end Cluster

variable {ι : Type} [DecidableEq ι]

/-- The row of a session is locked by an update that is not committed. -/
def Locked (requests : ι → μ) (cluster : Cluster σ ρ π ε ι) (i : ι) : Prop :=
  ∃ j, j ≠ i ∧ rows.key (requests j) = rows.key (requests i) ∧
    ∃ seen prepared, cluster.phase j = .written (some seen) prepared

/-- One step of one session. A session that fails rolls back: what it wrote was never committed. -/
inductive Step (requests : ι → μ) : Cluster σ ρ π ε ι → Cluster σ ρ π ε ι → Prop
  | read {cluster : Cluster σ ρ π ε ι} {prepared : π} (i : ι) (hphase : cluster.phase i = .begun)
      (hprepared : rows.prepare (requests i) cluster.state = .ok prepared) :
      Step requests cluster
        (cluster.move i (.read (rows.read cluster.state (requests i)) prepared))
  | refuse {cluster : Cluster σ ρ π ε ι} {error : ε} (i : ι) (hphase : cluster.phase i = .begun)
      (herror : rows.prepare (requests i) cluster.state = .error error) :
      Step requests cluster (cluster.move i (.failed error))
  | insert {cluster : Cluster σ ρ π ε ι} {prepared : π} (i : ι)
      (hphase : cluster.phase i = .read none prepared) :
      Step requests cluster (cluster.move i (.written none prepared))
  | update {cluster : Cluster σ ρ π ε ι} {seen : ρ × ℕ} {prepared : π} (i : ι)
      (hphase : cluster.phase i = .read (some seen) prepared)
      (hfree : ¬ rows.Locked requests cluster i)
      (hcheck : rows.check cluster.state prepared seen.2 = .ok ()) :
      Step requests cluster (cluster.move i (.written (some seen) prepared))
  | stale {cluster : Cluster σ ρ π ε ι} {seen : ρ × ℕ} {prepared : π} {error : ε} (i : ι)
      (hphase : cluster.phase i = .read (some seen) prepared)
      (herror : rows.check cluster.state prepared seen.2 = .error error) :
      Step requests cluster (cluster.move i (.failed error))
  | commit {cluster : Cluster σ ρ π ε ι} {seen : Option (ρ × ℕ)} {prepared : π} {next : σ} (i : ι)
      (hphase : cluster.phase i = .written seen prepared)
      (hcommit : rows.commit cluster.state prepared (seen.map Prod.snd) = .ok next) :
      Step requests cluster (cluster.commit i next)
  | conflict {cluster : Cluster σ ρ π ε ι} {seen : Option (ρ × ℕ)} {prepared : π} {error : ε}
      (i : ι) (hphase : cluster.phase i = .written seen prepared)
      (herror : rows.commit cluster.state prepared (seen.map Prod.snd) = .error error) :
      Step requests cluster (cluster.move i (.failed error))
  | abort {cluster : Cluster σ ρ π ε ι} {error : ε} (i : ι)
      (hphase : cluster.phase i ≠ .committed) :
      Step requests cluster (cluster.move i (.failed error))

/-! ## Versions tell whether a row has changed -/

/-- What a session has read is the row of an earlier state: the row is still there, and with the
same version it is the same. -/
structure Seen (state : σ) (request : μ) (seen : Option (ρ × ℕ)) (prepared : π) : Prop where
  snapshot : ∃ earlier, rows.prepare request earlier = .ok prepared ∧
    rows.read earlier request = seen
  follows : ∀ old oldVersion, seen = some (old, oldVersion) →
    ∃ current version, rows.read state request = some (current, version) ∧
      rows.ident current = rows.ident old ∧ oldVersion ≤ version ∧
      (version = oldVersion → current = old)

structure Coherent (requests : ι → μ) (start : σ) (cluster : Cluster σ ρ π ε ι) : Prop where
  serial : (cluster.order.map requests).foldlM rows.serial start = .ok cluster.state
  seen : ∀ i seen prepared,
    cluster.phase i = .read seen prepared ∨ cluster.phase i = .written seen prepared →
      rows.Seen cluster.state (requests i) seen prepared
  held : ∀ i seen prepared, cluster.phase i = .written (some seen) prepared →
    rows.read cluster.state (requests i) = some seen ∧ ¬ rows.Locked requests cluster i
  nodup : cluster.order.Nodup
  committed : ∀ i, i ∈ cluster.order ↔ cluster.phase i = .committed

variable {rows} {requests : ι → μ} {start : σ} {cluster next : Cluster σ ρ π ε ι}

omit [DecidableEq ι] in
theorem coherent_initial (state : σ) :
    rows.Coherent requests state (.initial state : Cluster σ ρ π ε ι) where
  serial := rfl
  seen i seen prepared hphase := by
    rcases hphase with hphase | hphase <;> cases hphase
  held i seen prepared hphase := by cases hphase
  nodup := List.nodup_nil
  committed i := ⟨fun h => (nomatch h), fun h => (nomatch h)⟩

/-- A session may take any step that commits nothing, if what it holds is what it has seen. -/
theorem Coherent.move (h : rows.Coherent requests start cluster) {i : ι} {phase : Phase ρ π ε}
    (hbefore : cluster.phase i ≠ .committed) (hafter : phase ≠ .committed)
    (hseen : ∀ seen prepared, phase = .read seen prepared ∨ phase = .written seen prepared →
      rows.Seen cluster.state (requests i) seen prepared)
    (hheld : ∀ seen prepared, phase = .written (some seen) prepared →
      rows.read cluster.state (requests i) = some seen ∧ ¬ rows.Locked requests cluster i) :
    rows.Coherent requests start (cluster.move i phase) := by
  have hself := cluster.move_phase_self i phase
  have hother : ∀ j, j ≠ i → (cluster.move i phase).phase j = cluster.phase j := fun j hj =>
    cluster.move_phase_of_ne hj phase
  refine ⟨h.serial, ?_, ?_, h.nodup, ?_⟩
  · intro j seen prepared hphase
    by_cases hj : j = i
    · subst hj
      rw [hself] at hphase
      exact hseen seen prepared hphase
    · rw [hother j hj] at hphase
      exact h.seen j seen prepared hphase
  · intro j seen prepared hphase
    by_cases hj : j = i
    · subst hj
      rw [hself] at hphase
      obtain ⟨hread, hfree⟩ := hheld seen prepared hphase
      refine ⟨hread, ?_⟩
      rintro ⟨k, hk, hkey, seen', prepared', hlocking⟩
      rw [hother k hk] at hlocking
      exact hfree ⟨k, hk, hkey, seen', prepared', hlocking⟩
    · rw [hother j hj] at hphase
      obtain ⟨hread, hfree⟩ := h.held j seen prepared hphase
      refine ⟨hread, ?_⟩
      rintro ⟨k, hk, hkey, seen', prepared', hlocking⟩
      by_cases hki : k = i
      · subst hki
        rw [hself] at hlocking
        exact (hheld seen' prepared' hlocking).2 ⟨j, hj, hkey.symm, seen, prepared, hphase⟩
      · rw [hother k hki] at hlocking
        exact hfree ⟨k, hk, hkey, seen', prepared', hlocking⟩
  · intro j
    by_cases hj : j = i
    · subst hj
      rw [hself]
      exact ⟨fun hmem => absurd ((h.committed j).mp hmem) hbefore, fun heq => absurd heq hafter⟩
    · rw [hother j hj]
      exact h.committed j

/-- A session that fails leaves everything to the others. -/
theorem Coherent.fail (h : rows.Coherent requests start cluster) {i : ι}
    (hbefore : cluster.phase i ≠ .committed) (error : ε) :
    rows.Coherent requests start (cluster.move i (.failed error)) := by
  refine h.move hbefore (fun heq => (nomatch heq)) ?_ (fun _ _ heq => (nomatch heq))
  rintro seen prepared (heq | heq) <;> cases heq

variable (hlawful : rows.Lawful)
include hlawful

omit [DecidableEq ι] in
theorem Coherent.serial_commit (h : rows.Coherent requests start cluster) {i : ι}
    {seen : Option (ρ × ℕ)} {prepared : π} {state : σ}
    (hphase : cluster.phase i = .written seen prepared)
    (hcommit : rows.commit cluster.state prepared (seen.map Prod.snd) = .ok state) :
    rows.read cluster.state (requests i) = seen ∧
      rows.serial cluster.state (requests i) = .ok state := by
  obtain ⟨earlier, hprepared, hearlier⟩ := (h.seen i seen prepared (Or.inr hphase)).snapshot
  have hread : rows.read cluster.state (requests i) = seen := by
    cases seen with
    | none => exact hlawful.insert_unique hprepared hearlier hcommit
    | some seen => exact (h.held i seen prepared hphase).1
  have hnow : rows.prepare (requests i) cluster.state = .ok prepared := by
    rw [← hprepared]
    exact hlawful.prepare_congr (hread.trans hearlier.symm)
  refine ⟨hread, ?_⟩
  unfold VersionedRows.serial
  rw [hnow, hread]
  exact hcommit

/-- A commit counts the version of its row up, so that no other session takes the row for
unchanged. -/
theorem Seen.commit {request other : μ} {state next : σ} {seen : Option (ρ × ℕ)} {prepared : π}
    (h : rows.Seen state other seen prepared) (hserial : rows.serial state request = .ok next) :
    rows.Seen next other seen prepared := by
  refine ⟨h.snapshot, ?_⟩
  intro old oldVersion hseen
  obtain ⟨current, version, hread, hident, hle, hsame⟩ := h.follows old oldVersion hseen
  by_cases hkey : rows.key other = rows.key request
  · obtain ⟨written, newer, hwritten, hnewer⟩ := hlawful.version_succ hserial
    have hother : ∀ state, rows.read state other = rows.read state request := fun state =>
      congrArg (rows.row state) hkey
    rw [hother] at hread
    obtain ⟨hidentWritten, hlt⟩ := hnewer current version hread
    refine ⟨written, newer, (hother next).trans hwritten, hidentWritten.trans hident,
      Nat.le_trans hle (Nat.le_of_lt hlt), ?_⟩
    intro heq
    omega
  · exact ⟨current, version, (hlawful.frame hserial _ hkey).trans hread, hident, hle, hsame⟩

theorem Coherent.commit (h : rows.Coherent requests start cluster) {i : ι}
    {seen : Option (ρ × ℕ)} {prepared : π} {state : σ}
    (hphase : cluster.phase i = .written seen prepared)
    (hcommit : rows.commit cluster.state prepared (seen.map Prod.snd) = .ok state) :
    rows.Coherent requests start (cluster.commit i state) := by
  obtain ⟨hread, hserial⟩ := h.serial_commit hlawful hphase hcommit
  have hself := cluster.commit_phase_self i state
  have hother : ∀ j, j ≠ i → (cluster.commit i state).phase j = cluster.phase j := fun j hj =>
    cluster.commit_phase_of_ne hj state
  refine ⟨?_, ?_, ?_, ?_, ?_⟩
  · change ((cluster.order ++ [i]).map requests).foldlM rows.serial start = _
    rw [List.map_append, List.foldlM_append, h.serial]
    change (rows.serial cluster.state (requests i) >>= fun state => pure state) = _
    rw [hserial]
    rfl
  · intro j seen' prepared' hphase'
    by_cases hj : j = i
    · subst hj
      rw [hself] at hphase'
      rcases hphase' with heq | heq <;> cases heq
    · rw [hother j hj] at hphase'
      exact (h.seen j seen' prepared' hphase').commit hlawful hserial
  · intro j seen' prepared' hphase'
    by_cases hj : j = i
    · subst hj
      rw [hself] at hphase'
      cases hphase'
    · rw [hother j hj] at hphase'
      obtain ⟨hread', hfree⟩ := h.held j seen' prepared' hphase'
      -- The committed row is another one: it was locked, or there was none.
      have hkey : rows.key (requests j) ≠ rows.key (requests i) := by
        intro hkey
        have hsame : rows.read cluster.state (requests j) = rows.read cluster.state (requests i) :=
          congrArg (rows.row cluster.state) hkey
        rw [hread', hread] at hsame
        subst hsame
        exact hfree ⟨i, Ne.symm hj, hkey.symm, seen', prepared, hphase⟩
      refine ⟨(hlawful.frame hserial _ hkey).trans hread', ?_⟩
      rintro ⟨k, hk, hkeys, seen'', prepared'', hlocking⟩
      by_cases hki : k = i
      · subst hki
        rw [hself] at hlocking
        cases hlocking
      · rw [hother k hki] at hlocking
        exact hfree ⟨k, hk, hkeys, seen'', prepared'', hlocking⟩
  · have hfresh : i ∉ cluster.order := by
      rw [h.committed, hphase]
      exact fun heq => (nomatch heq)
    exact List.nodup_append.mpr ⟨h.nodup, List.nodup_singleton i, by
      intro a ha b hb heq
      rw [List.mem_singleton.mp hb] at heq
      exact hfresh (heq ▸ ha)⟩
  · intro j
    change j ∈ cluster.order ++ [i] ↔ _
    rw [List.mem_append, List.mem_singleton, h.committed]
    by_cases hj : j = i
    · subst hj
      rw [hself]
      exact ⟨fun _ => rfl, fun _ => Or.inr rfl⟩
    · rw [hother j hj]
      exact ⟨fun heq => heq.resolve_right hj, Or.inl⟩

theorem Coherent.step (h : rows.Coherent requests start cluster)
    (hstep : rows.Step requests cluster next) : rows.Coherent requests start next := by
  cases hstep with
  | @read prepared i hphase hprepared =>
      refine h.move (by rw [hphase]; exact fun heq => (nomatch heq)) (fun heq => (nomatch heq)) ?_
        (fun _ _ heq => (nomatch heq))
      rintro seen prepared' (heq | heq) <;> cases heq
      refine ⟨⟨cluster.state, hprepared, rfl⟩, ?_⟩
      intro old oldVersion hread
      exact ⟨old, oldVersion, hread, rfl, Nat.le_refl _, fun _ => rfl⟩
  | refuse i hphase => exact h.fail (by rw [hphase]; exact fun heq => (nomatch heq)) _
  | @insert prepared i hphase =>
      refine h.move (by rw [hphase]; exact fun heq => (nomatch heq)) (fun heq => (nomatch heq)) ?_
        (fun _ _ heq => (nomatch heq))
      rintro seen prepared' (heq | heq) <;> cases heq
      exact h.seen i none prepared (Or.inl hphase)
  | @update seen prepared i hphase hfree hcheck =>
      have hseen := h.seen i (some seen) prepared (Or.inl hphase)
      refine h.move (by rw [hphase]; exact fun heq => (nomatch heq)) (fun heq => (nomatch heq)) ?_ ?_
      · rintro seen' prepared' (heq | heq) <;> cases heq
        exact hseen
      · intro seen' prepared' heq
        cases heq
        obtain ⟨earlier, hprepared, hearlier⟩ := hseen.snapshot
        obtain ⟨current, version, hread, hident, -, hsame⟩ := hseen.follows seen.1 seen.2 rfl
        have hversion := hlawful.check_version hprepared hearlier hread hident hcheck
        rw [hsame hversion, hversion] at hread
        exact ⟨hread, hfree⟩
  | stale i hphase => exact h.fail (by rw [hphase]; exact fun heq => (nomatch heq)) _
  | commit i hphase hcommit => exact h.commit hlawful hphase hcommit
  | conflict i hphase => exact h.fail (by rw [hphase]; exact fun heq => (nomatch heq)) _
  | abort i hphase => exact h.fail hphase _

omit hlawful in
/-- A session that fails changes nothing. -/
theorem Step.state_of_failed (hstep : rows.Step requests cluster next) {i : ι} {error : ε}
    (hbefore : cluster.phase i ≠ .failed error) (hafter : next.phase i = .failed error) :
    next.state = cluster.state := by
  cases hstep with
  | @commit _ _ state j =>
      exfalso
      by_cases hj : i = j
      · subst hj
        rw [cluster.commit_phase_self] at hafter
        cases hafter
      · rw [cluster.commit_phase_of_ne hj] at hafter
        exact hbefore hafter
  | _ => rfl

/-- Whatever the sessions do, they are coherent. -/
theorem coherent_of_run {state : σ} {last : Cluster σ ρ π ε ι}
    (hrun : Relation.ReflTransGen (rows.Step requests) (.initial state) last) :
    rows.Coherent requests state last := by
  induction hrun with
  | refl => exact coherent_initial state
  | tail _ hstep ih => exact ih.step hlawful hstep

end VersionedRows

end Foundation
