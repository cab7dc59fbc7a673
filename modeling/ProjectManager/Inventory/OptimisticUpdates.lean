import ProjectManager.Foundation.OptimisticLocking
import ProjectManager.Inventory.StockValue

/-! # Stock updates under optimistic locking

Sessions post on stock at the same time. Each reads the balance of its position,
computes the new balance, and updates the row if it still has the version that
was read; the transaction row is inserted in the same unit of work. Whatever
the order of their steps, the stored stock is the one that the committed
postings lead to one after the other, and of the others nothing is left.
-/

namespace ProjectManager

open Foundation StockControlService

/-- The store, with the version of each balance by its id. -/
structure StockDatabase where
  store : InventoryStore
  version : String → ℕ
  ids_nodup : (store.balances.rows.map StockBalance.id).Nodup

/-- What a session asks for: one of the three posting routines. -/
inductive PostingRequest
  | transaction (service : InventoryService) (arguments : PostingArguments) (unitCost : ℚ)
  | reservation (service : InventoryService) (arguments : PostingArguments)
  | movement (service : InventoryService) (arguments : PostingArguments) (unitCost : Option ℚ)
      (releaseReservedQty : ℚ)

namespace PostingRequest

def arguments : PostingRequest → PostingArguments
  | .transaction _ arguments _ => arguments
  | .reservation _ arguments => arguments
  | .movement _ arguments _ _ => arguments

def position (request : PostingRequest) : StockPosition := request.arguments.position

def prepare : PostingRequest → InventoryStore → Except DomainError StockPosting
  | .transaction service arguments unitCost => fun store =>
      postTransaction service store arguments unitCost
  | .reservation service arguments => fun store => postReservationTransaction service store arguments
  | .movement service arguments unitCost releaseReservedQty => fun store =>
      postMovementTransaction service store arguments unitCost releaseReservedQty

end PostingRequest

namespace StockDatabase

variable (database : StockDatabase)

def read (position : StockPosition) : Option (StockBalance × ℕ) :=
  (database.store.balances.get? position).map fun balance => (balance, database.version balance.id)

/-- `update_with_version_check`, as far as it decides whether to write. -/
def checkVersion (posting : StockPosting) (expectedVersion : ℕ) : Except DomainError Unit := do
  let stored ← require
    (database.store.balances.rows.find? fun row => row.id = posting.balance.id)
    (notFoundError "Stock balance not found.")
  ensure (database.version stored.id = expectedVersion)
    (concurrencyError "Stock balance was updated by another user." "STALE_WRITE")

/-- The columns that an update writes. -/
def setBalance (balance row : StockBalance) : StockBalance :=
  if row.id = balance.id then
    { row with
      uom := balance.uom
      onHandQty := balance.onHandQty
      reservedQty := balance.reservedQty
      availableQty := balance.availableQty
      onOrderQty := balance.onOrderQty
      averageCost := balance.averageCost
      reorderRequired := balance.reorderRequired }
  else row

@[simp] theorem setBalance_id (balance row : StockBalance) : (setBalance balance row).id = row.id := by
  unfold setBalance
  split <;> rfl

@[simp] theorem setBalance_position (balance row : StockBalance) :
    (setBalance balance row).position = row.position := by
  unfold setBalance
  split <;> rfl

/-- `UPDATE` of the balance with the id; the row is known to be there. -/
def updateBalance (balance : StockBalance) (expectedVersion : ℕ) : StockDatabase where
  store :=
    { database.store with
      balances := database.store.balances.mapRows (setBalance balance)
        (setBalance_position balance) }
  version := Function.update database.version balance.id (expectedVersion + 1)
  ids_nodup := by
    change ((database.store.balances.rows.map (setBalance balance)).map StockBalance.id).Nodup
    have hids : StockBalance.id ∘ setBalance balance = StockBalance.id :=
      funext (setBalance_id balance)
    rw [List.map_map, hids]
    exact database.ids_nodup

def FreeBalance (balance : StockBalance) : Prop :=
  balance.position ∉ database.store.balances.ids ∧
    ∀ other ∈ database.store.balances.rows, other.id ≠ balance.id

def FreeTransaction (transaction : StockTransaction) : Prop :=
  transaction.id ∉ database.store.transactions.ids ∧
    ∀ other ∈ database.store.transactions.rows,
      other.organizationId = transaction.organizationId →
        other.transactionNumber ≠ transaction.transactionNumber

instance (balance : StockBalance) : Decidable (database.FreeBalance balance) :=
  inferInstanceAs (Decidable (_ ∧ _))

instance (transaction : StockTransaction) : Decidable (database.FreeTransaction transaction) :=
  inferInstanceAs (Decidable (_ ∧ _))

def insertBalance (balance : StockBalance) (h : database.FreeBalance balance) : StockDatabase where
  store := { database.store with balances := database.store.balances.insert balance }
  version := Function.update database.version balance.id 1
  ids_nodup := by
    change ((database.store.balances.insert balance).rows.map StockBalance.id).Nodup
    rw [Table.rows_insert h.1, List.map_cons, List.nodup_cons]
    refine ⟨?_, database.ids_nodup⟩
    intro hmem
    obtain ⟨other, hother, hid⟩ := List.mem_map.mp hmem
    exact h.2 other hother hid

def insertTransaction (transaction : StockTransaction) : StockDatabase where
  store :=
    { database.store with transactions := database.store.transactions.insert transaction }
  version := database.version
  ids_nodup := database.ids_nodup

/-- Flush and commit what a session has written: the balance, over the version that it has read or
as a new row, and the transaction. -/
def commit (posting : StockPosting) (expectedVersion : Option ℕ) :
    Except DomainError StockDatabase :=
  let duplicate :=
    validationError "Stock transaction number already exists." "INVENTORY_TRANSACTION_EXISTS"
  if database.FreeTransaction posting.transaction then
    match expectedVersion with
    | some expected =>
        .ok ((database.updateBalance posting.balance expected).insertTransaction
          posting.transaction)
    | none =>
        if h : database.FreeBalance posting.balance then
          .ok ((database.insertBalance posting.balance h).insertTransaction posting.transaction)
        else .error duplicate
  else .error duplicate

end StockDatabase

def stockRows :
    VersionedRows StockDatabase StockPosition StockBalance String PostingRequest StockPosting
      DomainError where
  row := StockDatabase.read
  ident := StockBalance.id
  key := PostingRequest.position
  prepare request database := request.prepare database.store
  check := StockDatabase.checkVersion
  commit := StockDatabase.commit

/-! ## What a session prepares -/

/-- A posting is about the row that it was computed from, or about a new one. -/
structure PostingRequest.Prepared (request : PostingRequest) (store : InventoryStore)
    (posting : StockPosting) : Prop where
  position : posting.balance.position = request.position
  id : ∀ balance, store.balances.get? request.position = some balance →
    posting.balance.id = balance.id
  isNewBalance : posting.isNewBalance = (store.balances.get? request.position).isNone
  transaction_id : posting.transaction.id = request.arguments.ids.transactionId

theorem startBalance_id {store : InventoryStore} {position : StockPosition} {id uom : String}
    {balance : StockBalance} (h : store.balances.get? position = some balance) :
    ((store.balances.get? position).getD (createBalance id position uom)).id = balance.id := by
  rw [h]
  rfl

namespace PostingRequest

variable {request : PostingRequest} {store other : InventoryStore} {posting : StockPosting}

theorem prepare_prepared (h : request.prepare store = .ok posting) :
    request.Prepared store posting := by
  cases request with
  | transaction service arguments unitCost =>
      obtain ⟨quantity, -, h⟩ := bind_ok h
      obtain ⟨uom, -, h⟩ := bind_ok h
      obtain ⟨converted, -, h⟩ := bind_ok h
      obtain ⟨cost, -, h⟩ := bind_ok h
      obtain ⟨stockCost, -, h⟩ := bind_ok h
      iterate 2 obtain ⟨_, -, h⟩ := bind_ok h
      cases h
      exact ⟨(startBalance store _ _ _).1, fun _ => startBalance_id, rfl, rfl⟩
  | reservation service arguments =>
      obtain ⟨quantity, -, h⟩ := bind_ok h
      obtain ⟨uom, -, h⟩ := bind_ok h
      obtain ⟨converted, -, h⟩ := bind_ok h
      obtain ⟨balance, hbalance, h⟩ := bind_ok h
      iterate 2 obtain ⟨_, -, h⟩ := bind_ok h
      cases h
      have hfound : store.balances.get? arguments.position = some balance :=
        require_eq_ok.mp hbalance
      refine ⟨(Table.get?_eq_some_iff.mp hfound).2, ?_, ?_, rfl⟩
      · intro stored hstored
        have hsame : balance = stored := Option.some.inj (hfound.symm.trans hstored)
        rw [← hsame]
      · exact (congrArg Option.isNone hfound).symm
  | movement service arguments unitCost releaseReservedQty =>
      obtain ⟨quantity, -, h⟩ := bind_ok h
      obtain ⟨release, -, h⟩ := bind_ok h
      obtain ⟨uom, -, h⟩ := bind_ok h
      obtain ⟨converted, -, h⟩ := bind_ok h
      obtain ⟨released, -, h⟩ := bind_ok h
      iterate 5 obtain ⟨_, -, h⟩ := bind_ok h
      obtain ⟨costs, -, h⟩ := bind_ok h
      cases h
      exact ⟨(startBalance store _ _ _).1, fun _ => startBalance_id, rfl, rfl⟩

/-- A routine sees one balance of the store. -/
theorem prepare_congr
    (h : store.balances.get? request.position = other.balances.get? request.position) :
    request.prepare store = request.prepare other := by
  cases request with
  | transaction service arguments unitCost =>
      have hbalance : store.balances.get? arguments.position =
        other.balances.get? arguments.position := h
      simp only [prepare, postTransaction, hbalance]
  | reservation service arguments =>
      have hbalance : store.balances.get? arguments.position =
        other.balances.get? arguments.position := h
      simp only [prepare, postReservationTransaction, hbalance]
  | movement service arguments unitCost releaseReservedQty =>
      have hbalance : store.balances.get? arguments.position =
        other.balances.get? arguments.position := h
      simp only [prepare, postMovementTransaction, hbalance]

end PostingRequest

/-! ## What a commit writes -/

namespace StockDatabase

variable {database next : StockDatabase} {posting : StockPosting} {expected : Option ℕ}

theorem read_eq_some {position : StockPosition} {balance : StockBalance} {version : ℕ} :
    database.read position = some (balance, version) ↔
      database.store.balances.get? position = some balance ∧
        database.version balance.id = version := by
  unfold read
  rw [Option.map_eq_some_iff]
  constructor
  · rintro ⟨found, hfound, heq⟩
    obtain ⟨rfl, hversion⟩ := Prod.mk.inj heq
    exact ⟨hfound, hversion⟩
  · rintro ⟨hfound, hversion⟩
    exact ⟨balance, hfound, Prod.ext rfl hversion⟩

theorem read_eq_none {position : StockPosition} :
    database.read position = none ↔ database.store.balances.get? position = none :=
  Option.map_eq_none_iff

theorem get?_of_read_eq {other : StockDatabase} {position : StockPosition}
    (h : database.read position = other.read position) :
    database.store.balances.get? position = other.store.balances.get? position := by
  cases hother : other.store.balances.get? position with
  | none => exact read_eq_none.mp (h.trans (read_eq_none.mpr hother))
  | some balance => exact (read_eq_some.mp (h.trans (read_eq_some.mpr ⟨hother, rfl⟩))).1

theorem eq_of_id_eq {first second : StockBalance} (hfirst : first ∈ database.store.balances.rows)
    (hsecond : second ∈ database.store.balances.rows) (h : first.id = second.id) :
    first = second :=
  List.inj_on_of_nodup_map database.ids_nodup hfirst hsecond h

/-- The columns written are all that a balance has beside its keys. -/
theorem setBalance_eq {balance row : StockBalance} (hid : row.id = balance.id)
    (hposition : row.position = balance.position) : setBalance balance row = balance := by
  unfold setBalance
  rw [if_pos hid]
  cases row
  cases balance
  cases hid
  cases hposition
  rfl

/-- `UPDATE` by the id replaces the balance of the position. -/
theorem updateBalance_balances {balance stored : StockBalance}
    (hstored : database.store.balances.get? balance.position = some stored)
    (hid : balance.id = stored.id) (version : ℕ) :
    (database.updateBalance balance version).store.balances =
      database.store.balances.update balance := by
  obtain ⟨hmem, hposition⟩ := Table.get?_eq_some_iff.mp hstored
  ext1
  apply List.map_congr_left
  intro old hold
  by_cases hsame : old = stored
  · subst hsame
    rw [setBalance_eq hid.symm hposition, if_pos hposition]
  · have hidOld : old.id ≠ balance.id := fun h => hsame (eq_of_id_eq hold hmem (h.trans hid))
    have hpositionOld : old.position ≠ balance.position := fun h =>
      hsame (database.store.balances.eq_of_key_eq hold hmem (h.trans hposition.symm))
    rw [setBalance, if_neg hidOld, if_neg hpositionOld]

/-- What a commit leaves, over the version that was read or as a new row. -/
structure Committed (database next : StockDatabase) (posting : StockPosting)
    (expected : Option ℕ) : Prop where
  free : database.FreeTransaction posting.transaction
  freeBalance : expected = none → database.FreeBalance posting.balance
  balances : next.store.balances =
    if expected = none then database.store.balances.insert posting.balance
    else database.store.balances.update posting.balance
  store : next.store =
    { database.store with
      balances := next.store.balances
      transactions := database.store.transactions.insert posting.transaction }
  version : next.version =
    Function.update database.version posting.balance.id (expected.elim 1 fun version => version + 1)

theorem committed_of_insert (h : database.commit posting none = .ok next) :
    database.Committed next posting none := by
  unfold commit at h
  split at h
  next hfree =>
    dsimp only at h
    split at h
    next hbalance =>
      cases h
      exact ⟨hfree, fun _ => hbalance, (if_pos rfl).symm, rfl, rfl⟩
    next => cases h
  next => cases h

theorem committed_of_update {stored : StockBalance} {version : ℕ}
    (hstored : database.store.balances.get? posting.balance.position = some stored)
    (hid : posting.balance.id = stored.id)
    (h : database.commit posting (some version) = .ok next) :
    database.Committed next posting (some version) := by
  unfold commit at h
  split at h
  next hfree =>
    cases h
    refine ⟨hfree, fun hnone => (nomatch hnone), ?_, rfl, rfl⟩
    rw [if_neg (fun hnone => (nomatch hnone))]
    exact updateBalance_balances hstored hid version
  next => cases h

end StockDatabase

/-! ## The rows are lawful -/

section

variable {database next : StockDatabase} {request : PostingRequest}

/-- A request that nothing comes in between commits what it has prepared. -/
theorem serial_committed (h : stockRows.serial database request = .ok next) :
    ∃ posting, request.prepare database.store = .ok posting ∧
      database.Committed next posting ((database.read request.position).map Prod.snd) := by
  obtain ⟨posting, hprepared, h⟩ := bind_ok h
  refine ⟨posting, hprepared, ?_⟩
  have hposting := PostingRequest.prepare_prepared hprepared
  change database.commit posting ((database.read request.position).map Prod.snd) = .ok next at h
  cases hread : database.read request.position with
  | none =>
      rw [hread] at h
      exact StockDatabase.committed_of_insert h
  | some row =>
      have hstored := (StockDatabase.read_eq_some.mp hread).1
      rw [hread] at h
      exact StockDatabase.committed_of_update (hposting.position ▸ hstored)
        (hposting.id row.1 hstored) h

theorem effect_of_serial (h : stockRows.serial database request = .ok next) :
    (postingCall request.prepare).effect database.store = .ok next.store := by
  obtain ⟨posting, hprepared, hcommitted⟩ := serial_committed h
  have hposting := PostingRequest.prepare_prepared hprepared
  have hnew : posting.isNewBalance = true ↔
      (database.read request.position).map Prod.snd = none := by
    rw [hposting.isNewBalance, Option.isNone_iff_eq_none, Option.map_eq_none_iff,
      StockDatabase.read_eq_none]
  refine GuardedCall.effect_eq_ok.mpr ⟨posting, hprepared, ?_⟩
  refine bind_eq_ok.mpr ⟨(), ensure_eq_ok.mpr ⟨hcommitted.free.1, hcommitted.free.2, ?_⟩, ?_⟩
  · intro hisNew
    exact (hcommitted.freeBalance (hnew.mp hisNew)).2
  · have hbalances := hcommitted.balances
    rw [hcommitted.store, hbalances]
    simp only [← hnew]
    rfl

/-- The row of the request afterwards. -/
theorem read_of_serial (h : stockRows.serial database request = .ok next) :
    ∃ posting, request.prepare database.store = .ok posting ∧
      next.read request.position = some (posting.balance,
        ((database.read request.position).map Prod.snd).elim 1 fun version => version + 1) := by
  obtain ⟨posting, hprepared, hcommitted⟩ := serial_committed h
  have hposting := PostingRequest.prepare_prepared hprepared
  rw [← hposting.position] at hcommitted ⊢
  refine ⟨posting, hprepared, StockDatabase.read_eq_some.mpr ⟨?_, ?_⟩⟩
  · rw [hcommitted.balances]
    split
    next hnone => exact Table.get?_insert_self (hcommitted.freeBalance hnone).1
    next hsome =>
      obtain ⟨version, hversion⟩ := Option.ne_none_iff_exists'.mp hsome
      obtain ⟨row, hread, -⟩ := Option.map_eq_some_iff.mp hversion
      exact Table.get?_update_self (StockDatabase.read_eq_some.mp hread).1
  · rw [hcommitted.version]
    exact Function.update_self _ _ _

theorem read_of_serial_of_ne (h : stockRows.serial database request = .ok next)
    {position : StockPosition} (hposition : position ≠ request.position) :
    next.read position = database.read position := by
  obtain ⟨posting, hprepared, hcommitted⟩ := serial_committed h
  have hposting := PostingRequest.prepare_prepared hprepared
  rw [← hposting.position] at hposition
  have hbalances : next.store.balances.get? position = database.store.balances.get? position := by
    rw [hcommitted.balances]
    split
    next => exact Table.get?_insert_of_ne hposition
    next => exact Table.get?_update_of_ne hposition
  unfold StockDatabase.read
  rw [hbalances]
  apply Option.map_congr
  intro balance hbalance
  obtain ⟨hmem, hkey⟩ := Table.get?_eq_some_iff.mp hbalance
  -- Another balance has another id, so its version stays.
  have hid : balance.id ≠ posting.balance.id := by
    cases hread : database.read request.position with
    | none =>
        rw [hread] at hcommitted
        exact (hcommitted.freeBalance rfl).2 balance hmem
    | some row =>
        obtain ⟨hstored, -⟩ := StockDatabase.read_eq_some.mp hread
        obtain ⟨hrow, hrowKey⟩ := Table.get?_eq_some_iff.mp hstored
        rw [hposting.id row.1 hstored]
        intro hsame
        have heq := StockDatabase.eq_of_id_eq hmem hrow hsame
        rw [heq] at hkey
        exact hposition (hkey.symm.trans (hrowKey.trans hposting.position.symm))
  rw [hcommitted.version, Function.update_of_ne hid]

theorem stockRows_lawful : stockRows.Lawful where
  prepare_congr {request state other} hread :=
    PostingRequest.prepare_congr (StockDatabase.get?_of_read_eq hread)
  check_version {request snapshot state prepared old current oldVersion version expected}
      hprepared hsnapshot hread hident hcheck := by
    obtain ⟨stored, hstored, hversion⟩ := bind_ok hcheck
    have hid : stored.id = prepared.balance.id := by
      simpa using List.find?_some (require_eq_ok.mp hstored)
    have hposting := PostingRequest.prepare_prepared hprepared
    have hold := hposting.id old (StockDatabase.read_eq_some.mp hsnapshot).1
    have hcurrent := (StockDatabase.read_eq_some.mp hread).2
    change current.id = old.id at hident
    rw [← hcurrent, hident, ← hold, ← hid]
    exact ensure_eq_ok.mp hversion
  insert_unique {request snapshot state next prepared} hprepared hsnapshot hcommit := by
    have hfree := (StockDatabase.committed_of_insert hcommit).freeBalance rfl
    have hposition := hfree.1
    rw [(PostingRequest.prepare_prepared hprepared).position] at hposition
    exact StockDatabase.read_eq_none.mpr (Table.get?_eq_none.mpr hposition)
  version_succ {request state next} hserial := by
    obtain ⟨posting, hprepared, hread⟩ := read_of_serial hserial
    refine ⟨_, _, hread, ?_⟩
    intro old oldVersion hold
    have hstored : state.read request.position = some (old, oldVersion) := hold
    refine ⟨(PostingRequest.prepare_prepared hprepared).id old
      (StockDatabase.read_eq_some.mp hstored).1, ?_⟩
    rw [hstored]
    exact Nat.lt_succ_self oldVersion
  frame hserial _ hkey := read_of_serial_of_ne hserial hkey

/-! ## Runs -/

/-- The store and the transactions after requests that nothing comes in between. -/
theorem effects_of_serials {requests : List PostingRequest}
    (h : requests.foldlM stockRows.serial database = .ok next) :
    requests.foldlM (fun store request => (postingCall request.prepare).effect store)
        database.store = .ok next.store ∧
      next.store.transactions.ids =
        (requests.map fun request => request.arguments.ids.transactionId).reverse ++
          database.store.transactions.ids := by
  induction requests generalizing database with
  | nil =>
      cases h
      exact ⟨rfl, rfl⟩
  | cons request rest ih =>
      obtain ⟨current, hserial, hrest⟩ := bind_ok h
      obtain ⟨heffects, hids⟩ := ih hrest
      obtain ⟨posting, hprepared, hcommitted⟩ := serial_committed hserial
      refine ⟨bind_eq_ok.mpr ⟨current.store, effect_of_serial hserial, heffects⟩, ?_⟩
      have hcurrent : current.store.transactions.ids =
          request.arguments.ids.transactionId :: database.store.transactions.ids := by
        rw [hcommitted.store, Table.ids, Table.rows_insert hcommitted.free.1, List.map_cons,
          (PostingRequest.prepare_prepared hprepared).transaction_id]
        rfl
      rw [hids, hcurrent, List.map_cons, List.reverse_cons, List.append_assoc]
      rfl

end

/-- Sessions that post on one database. -/
abbrev StockCluster (ι : Type) : Type :=
  VersionedRows.Cluster StockDatabase StockBalance StockPosting DomainError ι

/-- However the sessions interleave, the stored stock is what the committed postings lead to one
after the other in commit order, each of them once; the transactions are theirs, and a session
that fails changes nothing. -/
theorem stockSessions_serial {ι : Type} [DecidableEq ι] {requests : ι → PostingRequest}
    {database : StockDatabase} {last : StockCluster ι}
    (hrun : Relation.ReflTransGen (stockRows.Step requests) (.initial database) last) :
    (last.order.map requests).foldlM
          (fun store request => (postingCall request.prepare).effect store) database.store =
        .ok last.state.store ∧
      last.order.Nodup ∧ (∀ i, i ∈ last.order ↔ last.phase i = .committed) ∧
      last.state.store.transactions.ids =
        (last.order.map fun i => (requests i).arguments.ids.transactionId).reverse ++
          database.store.transactions.ids ∧
      ∀ i error next, stockRows.Step requests last next → last.phase i ≠ .failed error →
        next.phase i = .failed error → next.state = last.state := by
  have hcoherent := VersionedRows.coherent_of_run stockRows_lawful hrun
  obtain ⟨heffects, hids⟩ := effects_of_serials hcoherent.serial
  rw [List.map_map] at hids
  refine ⟨heffects, hcoherent.nodup, hcoherent.committed, hids, ?_⟩
  intro i error next hstep hbefore hafter
  exact hstep.state_of_failed hbefore hafter

/-! ## Two issues of the same bolts -/

def boltDatabase : StockDatabase where
  store := boltsOpened
  version _ := 1
  ids_nodup := by decide +kernel

/-- Fifteen of the twenty bolts. -/
def issueBolts (number : String) : PostingRequest :=
  .movement inventoryAdmin
    { organizationId := "org"
      item := { id := "bolt", organizationId := "org", name := "Bolt", stockUom := "EA" }
      storeroom := { id := "main", organizationId := "org" }
      transactionType := .issue
      quantity := 15
      ids := boltIds number } none 0

/-- Two clerks issue at the same time. -/
def boltClerks (second : Bool) : PostingRequest := issueBolts (if second then "3" else "2")

/-- Both read the twenty bolts; the first commits, and the second finds the version changed. -/
def secondClerk : Except DomainError (Except DomainError Unit) := do
  let first ← (boltClerks false).prepare boltDatabase.store
  let second ← (boltClerks true).prepare boltDatabase.store
  boltDatabase.checkVersion first 1
  let next ← boltDatabase.commit first (some 1)
  return next.checkVersion second 1

def staleBalance : DomainError :=
  concurrencyError "Stock balance was updated by another user." "STALE_WRITE"

theorem stockSessions_serial_clerks :
    ∃ last : StockCluster Bool,
      Relation.ReflTransGen (stockRows.Step boltClerks) (.initial boltDatabase) last ∧
        last.order = [false] ∧ last.phase true = .failed staleBalance ∧
        ([false].map boltClerks).foldlM
            (fun store request => (postingCall request.prepare).effect store) boltsOpened =
          .ok last.state.store ∧
        last.state.store.transactions.ids = "transaction2" :: boltsOpened.transactions.ids := by
  have hcomputed : secondClerk = .ok (.error staleBalance) := by decide +kernel
  obtain ⟨first, hfirst, hcomputed⟩ := bind_ok hcomputed
  obtain ⟨second, hsecond, hcomputed⟩ := bind_ok hcomputed
  obtain ⟨_, hcheck, hcomputed⟩ := bind_ok hcomputed
  obtain ⟨next, hcommit, hcomputed⟩ := bind_ok hcomputed
  have hstale : next.checkVersion second 1 = .error staleBalance := Except.ok.inj hcomputed
  obtain ⟨⟨balance, version⟩, hread⟩ :
      ∃ seen, boltDatabase.read ⟨"org", "bolt", "main"⟩ = some seen :=
    Option.isSome_iff_exists.mp (by decide +kernel)
  obtain rfl : 1 = version := (StockDatabase.read_eq_some.mp hread).2
  have hreads : ∀ i posting,
      (.read (stockRows.read boltDatabase (boltClerks i)) posting :
        VersionedRows.Phase StockBalance StockPosting DomainError) =
        .read (some (balance, 1)) posting := by
    intro i posting
    cases i <;> exact congrArg (VersionedRows.Phase.read · posting) hread
  have hstart : stockRows.Step boltClerks (.initial boltDatabase) _ := .read false rfl hfirst
  have hfirstRead := Relation.ReflTransGen.single hstart
  have hbothRead := hfirstRead.tail (.read true rfl hsecond)
  have hwritten := hbothRead.tail (.update false (hreads false first)
    (by rintro ⟨j, -, -, _, _, hphase⟩; cases j <;> cases hphase) hcheck)
  have hcommitted := hwritten.tail (.commit false rfl hcommit)
  have hlast := hcommitted.tail (.stale true (hreads true second) hstale)
  exact ⟨_, hlast, rfl, rfl, (stockSessions_serial hlast).1,
    (stockSessions_serial hlast).2.2.2.1⟩

end ProjectManager
