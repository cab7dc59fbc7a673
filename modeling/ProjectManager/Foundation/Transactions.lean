import Mathlib.Data.List.Basic
import Mathlib.Data.Nat.Notation
import Mathlib.Logic.Function.Basic
import Mathlib.Logic.Relation
import ProjectManager.Foundation.Calls

/-! # Interleaved transactions

A transaction reads the database, as often as it likes, and writes rows. Clients run
their transactions at the same time: each read sees what is committed by then, with the
writes of the transaction itself; each update compares the version of its row and locks
it; a commit applies all writes. What a transaction keeps, as long as the rows that it
updates are those that it has read, is kept by every interleaving.
-/

namespace Foundation

/-! ## Transactions -/

/-- A unit of work over a database `σ` with the writes `ω`. -/
inductive Transaction (σ ω ε α : Type)
  | done (value : α)
  | fail (error : ε)
  | read (next : σ → Transaction σ ω ε α)
  | write (written : ω) (next : Transaction σ ω ε α)

namespace Transaction

variable {σ ω ε α β : Type}

def bind (rest : α → Transaction σ ω ε β) : Transaction σ ω ε α → Transaction σ ω ε β
  | done value => rest value
  | fail error => fail error
  | read next => read fun state => (next state).bind rest
  | write written next => write written (next.bind rest)

instance : Monad (Transaction σ ω ε) where
  pure := done
  bind transaction rest := transaction.bind rest

/-- A check that does not look at the database. -/
def lift : Except ε α → Transaction σ ω ε α
  | .ok value => done value
  | .error error => fail error

def query (f : σ → Except ε α) : Transaction σ ω ε α := read fun state => lift (f state)

def issue (written : ω) : Transaction σ ω ε Unit := write written (done ())

end Transaction

/-! ## Rows with versions -/

/-- A database of rows with versions. An update expects a version, an insert does not. -/
structure VersionedStore (σ κ ρ ω ε : Type) where
  row : σ → κ → Option ρ
  version : ρ → ℕ
  key : ω → κ
  expected : ω → Option ℕ
  /-- The row that is stored. -/
  written : ω → ρ
  /-- The comparison of the version when a write is issued. -/
  check : σ → ω → Except ε Unit
  /-- The write itself. -/
  apply : σ → ω → Except ε σ

namespace VersionedStore

variable {σ κ ρ ω ε α β ι : Type} (store : VersionedStore σ κ ρ ω ε)

structure Lawful : Prop where
  check_version : ∀ {state : σ} {write : ω} {version : ℕ}, store.check state write = .ok () →
    store.expected write = some version →
      ∃ row, store.row state (store.key write) = some row ∧ store.version row = version
  apply_row : ∀ {state next : σ} {write : ω}, store.apply state write = .ok next →
    store.row next (store.key write) = some (store.written write)
  apply_frame : ∀ {state next : σ} {write : ω}, store.apply state write = .ok next →
    ∀ key, key ≠ store.key write → store.row next key = store.row state key
  insert_fresh : ∀ {state next : σ} {write : ω}, store.apply state write = .ok next →
    store.expected write = none → store.row state (store.key write) = none
  version_written : ∀ {write : ω} {version : ℕ}, store.expected write = some version →
    store.version (store.written write) = version + 1

/-- The database with the writes of a transaction. -/
def view (state : σ) (own : List ω) : Except ε σ := own.foldlM store.apply state

/-- Rows stay, their versions do not go down, and a row with an unchanged version is the same. -/
def Later (earlier later : σ) : Prop :=
  ∀ key old, store.row earlier key = some old → ∃ row, store.row later key = some row ∧
    store.version old ≤ store.version row ∧ (store.version row = store.version old → row = old)

variable {store}

theorem Later.refl (state : σ) : store.Later state state :=
  fun _ old hold => ⟨old, hold, Nat.le_refl _, fun _ => rfl⟩

theorem Later.trans {first second third : σ} (h : store.Later first second)
    (hnext : store.Later second third) : store.Later first third := by
  intro key old hold
  obtain ⟨middle, hmiddle, hle, hsame⟩ := h key old hold
  obtain ⟨row, hrow, hleNext, hsameNext⟩ := hnext key middle hmiddle
  refine ⟨row, hrow, Nat.le_trans hle hleNext, fun heq => ?_⟩
  have hmiddleOld := hsame (by omega)
  subst hmiddleOld
  exact hsameNext heq

/-- A row of an earlier database that still has its version is still the same, and was all the
time. -/
theorem Later.row_between {first second third : σ} {key : κ} {old row : ρ}
    (h : store.Later first second) (hnext : store.Later second third)
    (hold : store.row first key = some old) (hrow : store.row third key = some row)
    (hversion : store.version row = store.version old) :
    store.row second key = some old ∧ row = old := by
  obtain ⟨middle, hmiddle, hle, hsame⟩ := h key old hold
  obtain ⟨last, hlast, hleNext, hsameNext⟩ := hnext key middle hmiddle
  obtain rfl := Option.some.inj (hrow.symm.trans hlast)
  have hmiddleOld := hsame (by omega)
  subst hmiddleOld
  exact ⟨hmiddle, hsameNext hversion⟩

variable [DecidableEq κ]

variable (store) in
def Unchanged : (κ → Option ρ) → List ω → Prop
  | _, [] => True
  | rows, write :: rest =>
      (∀ version, store.expected write = some version →
        ∃ row, rows (store.key write) = some row ∧ store.version row = version) ∧
      Unchanged (Function.update rows (store.key write) (some (store.written write))) rest

section

variable (hlawful : store.Lawful)
include hlawful

theorem Lawful.row_apply {state next : σ} {write : ω} (h : store.apply state write = .ok next) :
    store.row next =
      Function.update (store.row state) (store.key write) (some (store.written write)) := by
  funext key
  by_cases hkey : key = store.key write
  · rw [hkey, Function.update_self]
    exact hlawful.apply_row h
  · rw [Function.update_of_ne hkey]
    exact hlawful.apply_frame h key hkey

theorem Lawful.later_apply {state next : σ} {write : ω} (h : store.apply state write = .ok next)
    (hversion : ∀ version, store.expected write = some version →
      ∃ row, store.row state (store.key write) = some row ∧ store.version row = version) :
    store.Later state next := by
  intro key old hold
  by_cases hkey : key = store.key write
  · subst hkey
    refine ⟨_, hlawful.apply_row h, ?_⟩
    cases hexpected : store.expected write with
    | none =>
        rw [hlawful.insert_fresh h hexpected] at hold
        cases hold
    | some version =>
        obtain ⟨row, hrow, hsame⟩ := hversion version hexpected
        obtain rfl := Option.some.inj (hold.symm.trans hrow)
        have hwritten := hlawful.version_written hexpected
        exact ⟨by omega, fun heq => by omega⟩
  · exact ⟨old, (hlawful.apply_frame h key hkey).trans hold, Nat.le_refl _, fun _ => rfl⟩

theorem Lawful.later_view {state next : σ} {own : List ω} (h : store.view state own = .ok next)
    (hown : store.Unchanged (store.row state) own) : store.Later state next := by
  induction own generalizing state with
  | nil =>
      obtain rfl := Except.ok.inj h
      exact Later.refl state
  | cons write rest ih =>
      obtain ⟨middle, hmiddle, hrest⟩ := bind_ok h
      refine (hlawful.later_apply hmiddle hown.1).trans (ih hrest ?_)
      rw [hlawful.row_apply hmiddle]
      exact hown.2

/-- A row is the one that a write left, or the one that was there. -/
theorem Lawful.row_view {state next : σ} {own : List ω} (h : store.view state own = .ok next)
    (key : κ) : (∃ write ∈ own, store.key write = key ∧
        store.row next key = some (store.written write)) ∨
      ((∀ write ∈ own, store.key write ≠ key) ∧ store.row next key = store.row state key) := by
  induction own generalizing state with
  | nil =>
      cases h
      exact Or.inr ⟨fun _ hmem => (nomatch hmem), rfl⟩
  | cons write rest ih =>
      obtain ⟨middle, hmiddle, hrest⟩ := bind_ok h
      rcases ih hrest with ⟨last, hlast, hkey, hrow⟩ | ⟨hnone, hrow⟩
      · exact Or.inl ⟨last, List.mem_cons_of_mem _ hlast, hkey, hrow⟩
      · by_cases hkey : store.key write = key
        · subst hkey
          exact Or.inl ⟨write, List.mem_cons_self, rfl, hrow.trans (hlawful.apply_row hmiddle)⟩
        · refine Or.inr ⟨?_, hrow.trans (hlawful.apply_frame hmiddle key (Ne.symm hkey))⟩
          intro other hother
          rcases List.mem_cons.mp hother with rfl | hother
          · exact hkey
          · exact hnone other hother

theorem Lawful.row_of_inserted {state next : σ} {own : List ω} {write : ω}
    (h : store.view state own = .ok next) (hwrite : write ∈ own)
    (hinsert : store.expected write = none) : store.row state (store.key write) = none := by
  induction own generalizing state with
  | nil => cases hwrite
  | cons first rest ih =>
      obtain ⟨middle, hmiddle, hrest⟩ := bind_ok h
      rcases List.mem_cons.mp hwrite with rfl | hlater
      · exact hlawful.insert_fresh hmiddle hinsert
      · have hnone := ih hrest hlater
        by_cases hkey : store.key write = store.key first
        · rw [hkey, hlawful.apply_row hmiddle] at hnone
          cases hnone
        · rwa [hlawful.apply_frame hmiddle _ hkey] at hnone

omit hlawful in
theorem Unchanged.version {rows : κ → Option ρ} {before after : List ω} {write : ω} {version : ℕ}
    (h : store.Unchanged rows (before ++ write :: after))
    (hfirst : ∀ other ∈ before, store.key other ≠ store.key write)
    (hexpected : store.expected write = some version) :
    ∃ row, rows (store.key write) = some row ∧ store.version row = version := by
  induction before generalizing rows with
  | nil => exact h.1 version hexpected
  | cons other rest ih =>
      obtain ⟨row, hrow, hversion⟩ :=
        ih h.2 fun later hlater => hfirst later (List.mem_cons_of_mem _ hlater)
      rw [Function.update_of_ne (Ne.symm (hfirst other List.mem_cons_self))] at hrow
      exact ⟨row, hrow, hversion⟩

omit hlawful in
theorem Unchanged.congr {rows others : κ → Option ρ} {own : List ω} (h : store.Unchanged rows own)
    (hsame : ∀ write ∈ own, store.expected write ≠ none →
      rows (store.key write) = none ∨ others (store.key write) = rows (store.key write)) :
    store.Unchanged others own := by
  induction own generalizing rows others with
  | nil => trivial
  | cons write rest ih =>
      refine ⟨fun version hexpected => ?_, ih h.2 fun later hlater hupdate => ?_⟩
      · obtain ⟨row, hrow, hversion⟩ := h.1 version hexpected
        rcases hsame write List.mem_cons_self (hexpected ▸ Option.some_ne_none _) with hnone | heq
        · rw [hnone] at hrow
          cases hrow
        · exact ⟨row, heq.trans hrow, hversion⟩
      · by_cases hkey : store.key later = store.key write
        · rw [hkey, Function.update_self, Function.update_self]
          exact Or.inr rfl
        · rw [Function.update_of_ne hkey, Function.update_of_ne hkey]
          exact hsame later (List.mem_cons_of_mem _ hlater) hupdate

omit hlawful in
theorem Unchanged.append {rows : κ → Option ρ} {own : List ω} {write : ω}
    (h : store.Unchanged rows own)
    (hlast : ∀ version, store.expected write = some version → ∃ row,
      (own.foldl (fun rows write => Function.update rows (store.key write)
        (some (store.written write))) rows) (store.key write) = some row ∧
        store.version row = version) : store.Unchanged rows (own ++ [write]) := by
  induction own generalizing rows with
  | nil => exact ⟨hlast, trivial⟩
  | cons first rest ih => exact ⟨h.1, ih h.2 hlast⟩

theorem Lawful.row_view_eq {state next : σ} {own : List ω} (h : store.view state own = .ok next) :
    store.row next = own.foldl (fun rows write =>
      Function.update rows (store.key write) (some (store.written write))) (store.row state) := by
  induction own generalizing state with
  | nil =>
      cases h
      rfl
  | cons write rest ih =>
      obtain ⟨middle, hmiddle, hrest⟩ := bind_ok h
      rw [ih hrest, hlawful.row_apply hmiddle]
      rfl

/-- An update that is checked in the view of the transaction finds its version there. -/
theorem Lawful.unchanged_append {state viewed : σ} {own : List ω} {write : ω}
    (h : store.Unchanged (store.row state) own) (hview : store.view state own = .ok viewed)
    (hcheck : store.check viewed write = .ok ()) :
    store.Unchanged (store.row state) (own ++ [write]) := by
  refine h.append fun version hexpected => ?_
  rw [← hlawful.row_view_eq hview]
  exact hlawful.check_version hcheck hexpected

end

/-! ## What a transaction does -/

section

omit [DecidableEq κ]

variable (store) in
/-- The transaction returns the value, with these writes, when its reads find these databases. -/
def Completes : Transaction σ ω ε α → List σ → List ω → α → List ω → Prop
  | .done value, reads, own, result, final => reads = [] ∧ value = result ∧ own = final
  | .fail _, _, _, _, _ => False
  | .read next, reads, own, result, final =>
      ∃ state rest view, reads = state :: rest ∧ store.view state own = .ok view ∧
        Completes (next view) rest own result final
  | .write write next, reads, own, result, final => Completes next reads (own ++ [write]) result final

theorem completes_bind {transaction : Transaction σ ω ε α} {rest : α → Transaction σ ω ε β}
    {reads : List σ} {own final : List ω} {result : β} :
    store.Completes (transaction >>= rest) reads own result final ↔
      ∃ first second value middle, reads = first ++ second ∧
        store.Completes transaction first own value middle ∧
        store.Completes (rest value) second middle result final := by
  change store.Completes (transaction.bind rest) reads own result final ↔ _
  induction transaction generalizing reads own with
  | done value =>
      constructor
      · exact fun h => ⟨[], reads, value, own, rfl, ⟨rfl, rfl, rfl⟩, h⟩
      · rintro ⟨_, _, _, _, rfl, ⟨rfl, rfl, rfl⟩, h⟩
        exact h
  | fail error => exact ⟨fun h => h.elim, fun ⟨_, _, _, _, _, h, _⟩ => h.elim⟩
  | read next ih =>
      constructor
      · rintro ⟨state, left, view, rfl, hview, h⟩
        obtain ⟨first, second, value, middle, rfl, hfirst, hsecond⟩ := (ih view).mp h
        exact ⟨state :: first, second, value, middle, rfl, ⟨state, first, view, rfl, hview, hfirst⟩,
          hsecond⟩
      · rintro ⟨_, second, value, middle, rfl, ⟨state, first, view, rfl, hview, hfirst⟩, hsecond⟩
        exact ⟨state, first ++ second, view, rfl, hview,
          (ih view).mpr ⟨first, second, value, middle, rfl, hfirst, hsecond⟩⟩
  | write write next ih => exact ih

theorem completes_pure {value result : α} {reads : List σ} {own final : List ω} :
    store.Completes (pure value : Transaction σ ω ε α) reads own result final ↔
      reads = [] ∧ value = result ∧ own = final := Iff.rfl

theorem completes_lift {checked : Except ε α} {reads : List σ} {own final : List ω} {result : α} :
    store.Completes (.lift checked) reads own result final ↔
      reads = [] ∧ checked = .ok result ∧ own = final := by
  cases checked with
  | error error => exact ⟨fun h => h.elim, fun h => nomatch h.2.1⟩
  | ok value =>
      exact and_congr_right fun _ => and_congr_left fun _ => ⟨congrArg _, Except.ok.inj⟩

theorem completes_query {f : σ → Except ε α} {reads : List σ} {own final : List ω} {result : α} :
    store.Completes (.query f) reads own result final ↔
      ∃ state view, reads = [state] ∧ store.view state own = .ok view ∧ f view = .ok result ∧
        own = final := by
  constructor
  · rintro ⟨state, rest, view, rfl, hview, h⟩
    obtain ⟨rfl, hresult, rfl⟩ := completes_lift.mp h
    exact ⟨state, view, rfl, hview, hresult, rfl⟩
  · rintro ⟨state, view, rfl, hview, hresult, rfl⟩
    exact ⟨state, [], view, rfl, hview, completes_lift.mpr ⟨rfl, hresult, rfl⟩⟩

theorem completes_issue {write : ω} {reads : List σ} {own final : List ω} {result : Unit} :
    store.Completes (.issue write : Transaction σ ω ε Unit) reads own result final ↔
      reads = [] ∧ own ++ [write] = final :=
  and_congr_right fun _ => and_iff_right rfl

end

/-! ## Clients at one database -/

/-- What is left of the transaction of a client, its writes, and the databases that its reads have
found. -/
structure Client (σ ω ε α : Type) where
  left : Transaction σ ω ε α
  own : List ω := []
  reads : List σ := []

/-- What is committed, and the clients that have neither committed nor given up. -/
structure Server (σ ω ε α ι : Type) where
  committed : σ
  client : ι → Option (Client σ ω ε α)

section

omit [DecidableEq κ]

variable [DecidableEq ι]

def Server.initial (state : σ) (requests : ι → Transaction σ ω ε α) : Server σ ω ε α ι where
  committed := state
  client i := some { left := requests i }

def Server.move (server : Server σ ω ε α ι) (i : ι) (client : Option (Client σ ω ε α)) :
    Server σ ω ε α ι :=
  { server with client := Function.update server.client i client }

variable (store) in
/-- Another client has updated the row and not committed. -/
def Locked (server : Server σ ω ε α ι) (i : ι) (key : κ) : Prop :=
  ∃ j, j ≠ i ∧ ∃ client ∈ server.client j, ∃ write ∈ client.own,
    store.expected write ≠ none ∧ store.key write = key

variable (store) in
/-- One step of one client. A client that gives up leaves nothing, whatever the reason. -/
inductive Step : Server σ ω ε α ι → Server σ ω ε α ι → Prop
  | read {server : Server σ ω ε α ι} {next : σ → Transaction σ ω ε α} {own : List ω}
      {reads : List σ} {view : σ} (i : ι) (hclient : server.client i = some ⟨.read next, own, reads⟩)
      (hview : store.view server.committed own = .ok view) :
      Step server (server.move i (some ⟨next view, own, reads ++ [server.committed]⟩))
  | write {server : Server σ ω ε α ι} {write : ω} {next : Transaction σ ω ε α} {own : List ω}
      {reads : List σ} {view : σ} (i : ι)
      (hclient : server.client i = some ⟨.write write next, own, reads⟩)
      (hfree : store.expected write ≠ none → ¬ store.Locked server i (store.key write))
      (hview : store.view server.committed own = .ok view)
      (hcheck : store.check view write = .ok ()) :
      Step server (server.move i (some ⟨next, own ++ [write], reads⟩))
  | commit {server : Server σ ω ε α ι} {value : α} {own : List ω} {reads : List σ} {next : σ}
      (i : ι) (hclient : server.client i = some ⟨.done value, own, reads⟩)
      (hcommit : store.view server.committed own = .ok next) :
      Step server { server.move i none with committed := next }
  | abort {server : Server σ ω ε α ι} (i : ι) : Step server (server.move i none)

end

variable [DecidableEq ι]

/-! ## The invariant -/

/-- What a transaction must keep to be kept by every interleaving: its reads found earlier
databases, its updates find the versions that they expect, and its writes are applied. -/
def KeepsCommitted (store : VersionedStore σ κ ρ ω ε) (P : σ → Prop)
    (request : Transaction σ ω ε α) : Prop :=
  ∀ reads own value now next, store.Completes request reads [] value own →
    (reads ++ [now]).Pairwise store.Later → (∀ state ∈ reads, P state) → P now →
    store.Unchanged (store.row now) own → store.view now own = .ok next → P next

/-- What holds of a client while it works. -/
structure SoundClient (store : VersionedStore σ κ ρ ω ε) (P : σ → Prop) (committed : σ)
    (request : Transaction σ ω ε α) (client : Client σ ω ε α) : Prop where
  follows : ∀ more value final, store.Completes client.left more client.own value final →
    store.Completes request (client.reads ++ more) [] value final
  found : ∀ state ∈ client.reads, P state
  ordered : (client.reads ++ [committed]).Pairwise store.Later
  unchanged : store.Unchanged (store.row committed) client.own

/-- No two clients have updated the same row. -/
def Apart (store : VersionedStore σ κ ρ ω ε) (client other : Client σ ω ε α) : Prop :=
  ∀ write ∈ client.own, ∀ locking ∈ other.own, store.expected write ≠ none →
    store.expected locking ≠ none → store.key write ≠ store.key locking

structure Coherent (store : VersionedStore σ κ ρ ω ε) (requests : ι → Transaction σ ω ε α)
    (P : σ → Prop) (server : Server σ ω ε α ι) : Prop where
  holds : P server.committed
  sound : ∀ i, ∀ client ∈ server.client i, store.SoundClient P server.committed (requests i) client
  locks : ∀ i j, i ≠ j → ∀ client ∈ server.client i, ∀ other ∈ server.client j,
    store.Apart client other

variable {requests : ι → Transaction σ ω ε α} {P : σ → Prop} {server next : Server σ ω ε α ι}

omit [DecidableEq ι] in
theorem coherent_initial {state : σ} (hstart : P state) :
    store.Coherent requests P (.initial state requests) where
  holds := hstart
  sound i client hclient := by
    cases hclient
    exact ⟨fun _ _ _ h => h, fun _ hmem => (nomatch hmem), List.pairwise_singleton _ _, trivial⟩
  locks i j _ client hclient := by
    cases hclient
    exact fun _ _ _ hmem => (nomatch hmem)

omit [DecidableEq κ] in
theorem Apart.symm {client other : Client σ ω ε α} (h : store.Apart client other) :
    store.Apart other client :=
  fun write hwrite locking hlocking hupdate hlocked heq =>
    h locking hlocking write hwrite hlocked hupdate heq.symm

/-- A client may take any step that commits nothing. -/
theorem Coherent.move (h : store.Coherent requests P server) {i : ι}
    {client : Option (Client σ ω ε α)}
    (hsound : ∀ moved ∈ client, store.SoundClient P server.committed (requests i) moved)
    (hapart : ∀ moved ∈ client, ∀ j, j ≠ i → ∀ other ∈ server.client j, store.Apart moved other) :
    store.Coherent requests P (server.move i client) := by
  have hself : (server.move i client).client i = client := Function.update_self ..
  have hother : ∀ j, j ≠ i → (server.move i client).client j = server.client j := fun j hj =>
    Function.update_of_ne hj ..
  refine ⟨h.holds, fun j moved hmoved => ?_, fun j k hjk first hfirst second hsecond => ?_⟩
  · by_cases hj : j = i
    · subst hj
      rw [hself] at hmoved
      exact hsound moved hmoved
    · rw [hother j hj] at hmoved
      exact h.sound j moved hmoved
  · by_cases hj : j = i
    · subst hj
      rw [hself] at hfirst
      rw [hother k (Ne.symm hjk)] at hsecond
      exact hapart first hfirst k (Ne.symm hjk) second hsecond
    · rw [hother j hj] at hfirst
      by_cases hk : k = i
      · subst hk
        rw [hself] at hsecond
        exact (hapart second hsecond j hj first hfirst).symm
      · rw [hother k hk] at hsecond
        exact h.locks j k hjk first hfirst second hsecond

omit [DecidableEq ι] in
/-- The updates of the others are of rows that a commit does not touch. -/
theorem Coherent.unchanged_commit (hlawful : store.Lawful) (h : store.Coherent requests P server)
    {i j : ι} {client other : Client σ ω ε α} {state : σ} (hij : i ≠ j)
    (hclient : client ∈ server.client i) (hother : other ∈ server.client j)
    (hcommit : store.view server.committed client.own = .ok state) :
    store.Unchanged (store.row state) other.own := by
  refine (h.sound j other hother).unchanged.congr fun write hwrite hupdate => ?_
  rcases hlawful.row_view hcommit (store.key write) with ⟨touching, htouching, hkey, hrow⟩ | hframe
  · cases hinsert : store.expected touching with
    | some version =>
        exact absurd hkey.symm (h.locks j i (Ne.symm hij) other hother client hclient write hwrite
          touching htouching hupdate (hinsert ▸ Option.some_ne_none _))
    | none =>
        left
        rw [← hkey]
        exact hlawful.row_of_inserted hcommit htouching hinsert
  · exact Or.inr hframe.2

theorem Coherent.commit (hlawful : store.Lawful)
    (hkeeps : ∀ i, store.KeepsCommitted P (requests i)) (h : store.Coherent requests P server)
    {i : ι} {value : α} {own : List ω} {reads : List σ} {state : σ}
    (hclient : server.client i = some ⟨.done value, own, reads⟩)
    (hcommit : store.view server.committed own = .ok state) :
    store.Coherent requests P { server.move i none with committed := state } := by
  have hsound := h.sound i _ hclient
  have hlater : store.Later server.committed state :=
    hlawful.later_view hcommit hsound.unchanged
  have hothers : ∀ j client, (server.move i none).client j = some client →
      j ≠ i ∧ server.client j = some client := by
    intro j client hj
    by_cases hsame : j = i
    · subst hsame
      have hnone : (server.move j none).client j = none := Function.update_self ..
      rw [hnone] at hj
      cases hj
    · have hframe : (server.move i none).client j = server.client j :=
        Function.update_of_ne hsame ..
      exact ⟨hsame, hframe ▸ hj⟩
  refine ⟨?_, fun j client hj => ?_, fun j k hjk first hfirst second hsecond => ?_⟩
  · have hcompletes := hsound.follows [] value own ⟨rfl, rfl, rfl⟩
    rw [List.append_nil] at hcompletes
    exact hkeeps i reads own value server.committed state hcompletes hsound.ordered hsound.found
      h.holds hsound.unchanged hcommit
  · obtain ⟨hne, hworking⟩ := hothers j client hj
    obtain ⟨hfollows, hfound, hordered, -⟩ := h.sound j client hworking
    refine ⟨hfollows, hfound, ?_, h.unchanged_commit hlawful (Ne.symm hne) hclient hworking hcommit⟩
    obtain ⟨hreads, -, hlast⟩ := List.pairwise_append.mp hordered
    refine List.pairwise_append.mpr ⟨hreads, List.pairwise_singleton _ _, fun found hfound last hmem => ?_⟩
    rw [List.mem_singleton.mp hmem]
    exact (hlast found hfound _ List.mem_cons_self).trans hlater
  · exact h.locks j k hjk first (hothers j first hfirst).2 second (hothers k second hsecond).2

theorem Coherent.step (hlawful : store.Lawful)
    (hkeeps : ∀ i, store.KeepsCommitted P (requests i)) (h : store.Coherent requests P server)
    (hstep : store.Step server next) : store.Coherent requests P next := by
  cases hstep with
  | @read rest own reads view i hclient hview =>
      obtain ⟨hfollows, hfound, hordered, hunchanged⟩ := h.sound i _ hclient
      refine h.move (fun moved hmoved => ?_) (fun moved hmoved j hj other hother => ?_)
      · obtain rfl := Option.some.inj hmoved
        refine ⟨fun more value final hmore => ?_, fun state hstate => ?_, ?_, hunchanged⟩
        · rw [List.append_assoc]
          exact hfollows _ value final ⟨_, more, view, rfl, hview, hmore⟩
        · rcases List.mem_append.mp hstate with hold | hnew
          · exact hfound state hold
          · rw [List.mem_singleton.mp hnew]
            exact h.holds
        · refine List.pairwise_append.mpr ⟨hordered, List.pairwise_singleton _ _,
            fun found hmem last hlast => ?_⟩
          rw [List.mem_singleton.mp hlast]
          rcases List.mem_append.mp hmem with hold | hnew
          · exact (List.pairwise_append.mp hordered).2.2 found hold _ List.mem_cons_self
          · rw [List.mem_singleton.mp hnew]
            exact Later.refl _
      · obtain rfl := Option.some.inj hmoved
        exact h.locks i j (Ne.symm hj) _ hclient other hother
  | @write write rest own reads view i hclient hfree hview hcheck =>
      obtain ⟨hfollows, hfound, hordered, hunchanged⟩ := h.sound i _ hclient
      refine h.move (fun moved hmoved => ?_) (fun moved hmoved j hj other hother => ?_)
      · obtain rfl := Option.some.inj hmoved
        exact ⟨hfollows, hfound, hordered, hlawful.unchanged_append hunchanged hview hcheck⟩
      · obtain rfl := Option.some.inj hmoved
        intro updating hupdating locking hlocking hupdate hlocked heq
        rcases List.mem_append.mp hupdating with hold | hnew
        · exact h.locks i j (Ne.symm hj) _ hclient other hother updating hold locking hlocking
            hupdate hlocked heq
        · obtain rfl := List.mem_singleton.mp hnew
          exact hfree hupdate ⟨j, hj, other, hother, locking, hlocking, hlocked, heq.symm⟩
  | commit i hclient hcommit => exact h.commit hlawful hkeeps hclient hcommit
  | abort i =>
      exact h.move (fun moved hmoved => (nomatch hmoved)) fun moved hmoved => (nomatch hmoved)

/-- What every transaction keeps by itself holds of whatever is committed, in every interleaving. -/
theorem committed_of_run (hlawful : store.Lawful)
    (hkeeps : ∀ i, store.KeepsCommitted P (requests i)) {start : σ} (hstart : P start)
    (hrun : Relation.ReflTransGen store.Step (.initial start requests) server) :
    P server.committed := by
  have hcoherent : store.Coherent requests P server := by
    induction hrun with
    | refl => exact coherent_initial hstart
    | tail _ hstep ih => exact ih.step hlawful hkeeps hstep
  exact hcoherent.holds

/-! ## One after another -/

section

omit [DecidableEq ι] [DecidableEq κ]

variable (store) in
/-- The value and the writes of a transaction that nothing comes in between. -/
def execute (state : σ) : Transaction σ ω ε α → List ω → Except ε (α × List ω)
  | .done value, own => .ok (value, own)
  | .fail error, _ => .error error
  | .read next, own => do
      let view ← store.view state own
      execute state (next view) own
  | .write write next, own => do
      let view ← store.view state own
      store.check view write
      execute state next (own ++ [write])

variable (store) in
def serial (state : σ) (request : Transaction σ ω ε α) : Except ε σ := do
  let executed ← store.execute state request []
  store.view state executed.2

variable (store) in
/-- A request that raises is rolled back. -/
def stateAfter (state : σ) (request : Transaction σ ω ε α) : σ :=
  match store.serial state request with
  | .ok next => next
  | .error _ => state

end

omit [DecidableEq ι]

theorem Lawful.completes_execute (hlawful : store.Lawful) {state : σ}
    {request : Transaction σ ω ε α} {own : List ω} {value : α} {final : List ω}
    (h : store.execute state request own = .ok (value, final))
    (hown : store.Unchanged (store.row state) own) :
    ∃ reads, (∀ found ∈ reads, found = state) ∧ store.Completes request reads own value final ∧
      store.Unchanged (store.row state) final := by
  induction request generalizing own with
  | done result =>
      obtain ⟨rfl, rfl⟩ := Prod.mk.inj (Except.ok.inj h)
      exact ⟨[], fun _ hmem => (nomatch hmem), ⟨rfl, rfl, rfl⟩, hown⟩
  | fail error => cases h
  | read next ih =>
      obtain ⟨view, hview, h⟩ := bind_ok h
      obtain ⟨reads, hreads, hcompletes, hfinal⟩ := ih view h hown
      refine ⟨state :: reads, fun found hmem => ?_, ⟨state, reads, view, rfl, hview, hcompletes⟩,
        hfinal⟩
      rcases List.mem_cons.mp hmem with rfl | hmem
      · rfl
      · exact hreads found hmem
  | write write next ih =>
      obtain ⟨view, hview, h⟩ := bind_ok h
      obtain ⟨_, hcheck, h⟩ := bind_ok h
      exact ih h (hlawful.unchanged_append hown hview hcheck)

/-- A transaction on its own is a special case. -/
theorem KeepsCommitted.stateAfter (hlawful : store.Lawful) {request : Transaction σ ω ε α}
    (hkeeps : store.KeepsCommitted P request) {state : σ} (hstate : P state) :
    P (store.stateAfter state request) := by
  unfold VersionedStore.stateAfter
  split
  next next hserial =>
    obtain ⟨⟨value, own⟩, hexecute, hview⟩ := bind_ok hserial
    obtain ⟨reads, hreads, hcompletes, hown⟩ := hlawful.completes_execute hexecute trivial
    have hall : ∀ found ∈ reads ++ [state], found = state := by
      intro found hmem
      rcases List.mem_append.mp hmem with hread | hlast
      · exact hreads found hread
      · exact List.mem_singleton.mp hlast
    refine hkeeps reads own value state next hcompletes ?_ ?_ hstate hown hview
    · refine List.Pairwise.imp_of_mem (fun hfirst hsecond _ => ?_)
        (List.pairwise_of_forall (R := fun _ _ => True) fun _ _ => trivial)
      rw [hall _ hfirst, hall _ hsecond]
      exact Later.refl state
    · exact fun found hfound => hreads found hfound ▸ hstate
  next => exact hstate

-- What a transaction does is found out by the lemmas, bind by bind.
attribute [irreducible] Completes

end VersionedStore

end Foundation
