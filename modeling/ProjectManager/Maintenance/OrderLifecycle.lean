import ProjectManager.Maintenance.DowntimeTotals

/-! # The lifecycle of orders

Whatever calls are made on work requests, orders and downtime events, an order moves
along the transitions of its status and carries the times that its status stands for.
A time that is written once stays. On a clock that does not run back the times are in
order.
-/

namespace ProjectManager.Maintenance

open Foundation

def WorkOrderStatus.HasStarted (status : WorkOrderStatus) : Prop :=
  status ∈ [WorkOrderStatus.inProgress, .paused, .completed, .verified, .closed]

def WorkOrderStatus.HasEnded (status : WorkOrderStatus) : Prop :=
  status ∈ [WorkOrderStatus.completed, .verified, .closed, .cancelled]

instance (status : WorkOrderStatus) : Decidable status.HasStarted :=
  inferInstanceAs (Decidable (_ ∈ _))

instance (status : WorkOrderStatus) : Decidable status.HasEnded :=
  inferInstanceAs (Decidable (_ ∈ _))

/-- The times of an order are those that its status stands for. -/
structure Stamped (order : WorkOrder) : Prop where
  started : order.status.HasStarted → order.actualStart.isSome = true
  only : order.actualStart.isSome = true → order.status.HasStarted ∨ order.status = .cancelled
  ended : order.actualEnd.isSome = true ↔ order.status.HasEnded
  closed : order.closedAt.isSome = true ↔ order.status = .closed

/-- An order at a later time. -/
structure Later (old order : WorkOrder) : Prop where
  status : Relation.ReflTransGen (fun before after => after ∈ workOrderTransitions before)
    old.status order.status
  actualStart : ∀ moment ∈ old.actualStart, order.actualStart = some moment
  actualEnd : ∀ moment ∈ old.actualEnd, order.actualEnd = some moment
  closedAt : ∀ moment ∈ old.closedAt, order.closedAt = some moment
  version : old.version ≤ order.version

theorem Later.refl (order : WorkOrder) : Later order order :=
  ⟨.refl, fun _ => id, fun _ => id, fun _ => id, le_rfl⟩

theorem Later.trans (first second third : WorkOrder) (hfirst : Later first second)
    (hsecond : Later second third) : Later first third where
  status := hfirst.status.trans hsecond.status
  actualStart moment h := hsecond.actualStart moment (hfirst.actualStart moment h)
  actualEnd moment h := hsecond.actualEnd moment (hfirst.actualEnd moment h)
  closedAt moment h := hsecond.closedAt moment (hfirst.closedAt moment h)
  version := hfirst.version.trans hsecond.version

/-- A closed or cancelled order stays as it is. -/
theorem Later.status_eq {old order : WorkOrder} (h : Later old order)
    (hfinal : workOrderTransitions old.status = []) : order.status = old.status := by
  rcases h.status.cases_head with hsame | ⟨next, hnext, -⟩
  · exact hsame.symm
  · rw [hfinal] at hnext
    cases hnext

/-! ## Transitions -/

section

variable {before after : WorkOrderStatus} (h : after ∈ workOrderTransitions before)

include h

theorem hasStarted_of_transition :
    (after.HasStarted → before.HasStarted ∨ after = .inProgress) ∧
      (before.HasStarted → after.HasStarted ∨ after = .cancelled) := by
  revert h
  cases before <;> cases after <;> decide

theorem hasEnded_of_transition :
    (after.HasEnded ↔ before.HasEnded ∨ after ∈ [WorkOrderStatus.completed, .cancelled]) ∧
      (after ∈ [WorkOrderStatus.inProgress, .completed, .cancelled] → ¬ before.HasEnded) := by
  revert h
  cases before <;> cases after <;> decide

theorem transition_closed : before ≠ .closed ∧ before ≠ .cancelled := by
  revert h
  cases before <;> cases after <;> decide

end

/-! ## Stamps -/

/-- A time that is there already is not written again. -/
def stampWhen (condition : Prop) [Decidable condition] (now : Moment) (stored : Option Moment) :
    Option Moment :=
  stored.or (if condition then some now else none)

theorem isSome_stampWhen {condition : Prop} [Decidable condition] {now : Moment}
    {stored : Option Moment} :
    (stampWhen condition now stored).isSome = true ↔ stored.isSome = true ∨ condition := by
  by_cases h : condition <;> simp [stampWhen, h]

theorem mem_stampWhen {condition : Prop} [Decidable condition] {now moment : Moment}
    {stored : Option Moment} (h : moment ∈ stampWhen condition now stored) :
    moment ∈ stored ∨ (condition ∧ moment = now) := by
  cases stored with
  | some stamp => exact Or.inl (by simpa [stampWhen] using h)
  | none =>
      by_cases hcondition : condition
      · exact Or.inr ⟨hcondition, by simpa [stampWhen, hcondition, eq_comm] using h⟩
      · simp [stampWhen, hcondition] at h

/-- Nothing is stamped after now where nothing was. -/
theorem le_of_mem_stampWhen {condition : Prop} [Decidable condition] {now : Moment}
    {stored : Option Moment} (hstored : ∀ moment ∈ stored, moment ≤ now) :
    ∀ moment ∈ stampWhen condition now stored, moment ≤ now := by
  intro moment hmoment
  rcases mem_stampWhen hmoment with hold | ⟨-, rfl⟩
  · exact hstored moment hold
  · exact le_rfl

theorem stampWhen_of_mem {condition : Prop} [Decidable condition] {now moment : Moment}
    {stored : Option Moment} (h : moment ∈ stored) :
    stampWhen condition now stored = some moment := by
  simp [stampWhen, Option.mem_def.mp h]

structure StampedAt (now : Moment) (row updated : WorkOrder) : Prop where
  allowed : updated.status ∈ workOrderTransitions row.status
  actualStart : updated.actualStart =
    stampWhen (updated.status = .inProgress) now row.actualStart
  actualEnd : updated.actualEnd =
    stampWhen (updated.status ∈ [WorkOrderStatus.completed, .cancelled]) now row.actualEnd
  closedAt : updated.closedAt = stampWhen (updated.status = .closed) now row.closedAt

/-- What an order may become at a time: it gets a new status, or keeps its status and its times. -/
structure MovedAt (now : Moment) (row updated : WorkOrder) : Prop where
  version : row.version ≤ updated.version
  stamps : StampedAt now row updated ∨
    (updated.status = row.status ∧ updated.actualStart = row.actualStart ∧
      updated.actualEnd = row.actualEnd ∧ updated.closedAt = row.closedAt)

section

variable {services : MaintenanceServices} {row updated : WorkOrder} {now : Moment}

theorem stampStatus_stamps (services : MaintenanceServices) (row : WorkOrder)
    (newStatus : WorkOrderStatus) :
    (stampStatus services row newStatus).status = newStatus ∧
      (stampStatus services row newStatus).actualStart =
        stampWhen (newStatus = .inProgress) services.now row.actualStart ∧
      (stampStatus services row newStatus).actualEnd =
        stampWhen (newStatus ∈ [WorkOrderStatus.completed, .cancelled]) services.now
          row.actualEnd ∧
      (stampStatus services row newStatus).closedAt =
        stampWhen (newStatus = .closed) services.now row.closedAt := by
  -- Each status stamps at most one of the three times, and only when it is missing.
  cases newStatus with
  | inProgress => cases h : row.actualStart <;> simp [stampStatus, stampWhen, h]
  | completed | cancelled => cases h : row.actualEnd <;> simp [stampStatus, stampWhen, h]
  | closed => cases h : row.closedAt <;> simp [stampStatus, stampWhen, h]
  | _ => simp [stampStatus, stampWhen]

theorem OrderUpdated.movedAt {arguments : UpdateWorkOrderArguments}
    (h : OrderUpdated services arguments row updated) : MovedAt services.now row updated := by
  refine ⟨h.version ▸ Nat.le_succ row.version, ?_⟩
  obtain ⟨changed, hchanged, hstatus, hstart, hend, hclosed⟩ := h.stamped
  cases hgiven : arguments.status with
  | none =>
      rw [hgiven] at hchanged
      cases hchanged
      exact Or.inr ⟨hstatus, hstart, hend, hclosed⟩
  | some given =>
      rw [hgiven] at hchanged
      obtain ⟨newStatus, -, hchanged⟩ := bind_ok hchanged
      obtain ⟨_, hallowed, hchanged⟩ := bind_ok hchanged
      cases hchanged
      obtain ⟨hnew, hnewStart, hnewEnd, hnewClosed⟩ := stampStatus_stamps services row newStatus
      have hupdated : updated.status = newStatus := hstatus.trans hnew
      refine Or.inl ⟨?_, ?_, ?_, ?_⟩
      · exact hupdated ▸ ensure_eq_ok.mp hallowed
      · rw [hstart, hnewStart, hupdated]
      · rw [hend, hnewEnd, hupdated]
      · rw [hclosed, hnewClosed, hupdated]

theorem MinutesWritten.movedAt (h : MinutesWritten row updated) : MovedAt now row updated := by
  refine ⟨h.2, Or.inr ?_⟩
  rw [h.1]
  exact ⟨rfl, rfl, rfl, rfl⟩

theorem MovedAt.refl (now : Moment) (row : WorkOrder) : MovedAt now row row :=
  ⟨le_rfl, Or.inr ⟨rfl, rfl, rfl, rfl⟩⟩

theorem MovedAt.later (h : MovedAt now row updated) : Later row updated := by
  rcases h.stamps with hstamps | ⟨hstatus, hstart, hend, hclosed⟩
  · refine ⟨.single hstamps.allowed, ?_, ?_, ?_, h.version⟩
    · exact fun _ hmoment => hstamps.actualStart.trans (stampWhen_of_mem hmoment)
    · exact fun _ hmoment => hstamps.actualEnd.trans (stampWhen_of_mem hmoment)
    · exact fun _ hmoment => hstamps.closedAt.trans (stampWhen_of_mem hmoment)
  · exact ⟨hstatus ▸ .refl, fun _ => hstart.trans, fun _ => hend.trans, fun _ => hclosed.trans,
      h.version⟩

/-- A transition stamps what the new status stands for. -/
theorem MovedAt.stamped (h : MovedAt now row updated) (hrow : Stamped row) : Stamped updated := by
  rcases h.stamps with hstamps | ⟨hstatus, hstart, hend, hclosed⟩
  · obtain ⟨hafter, hbefore⟩ := hasStarted_of_transition hstamps.allowed
    obtain ⟨hends, -⟩ := hasEnded_of_transition hstamps.allowed
    obtain ⟨hopen, halive⟩ := transition_closed hstamps.allowed
    constructor
    · intro hstarted
      rw [hstamps.actualStart, isSome_stampWhen]
      exact (hafter hstarted).imp_left hrow.started
    · rw [hstamps.actualStart, isSome_stampWhen]
      rintro (hsome | hnew)
      · exact (hrow.only hsome).elim hbefore fun hcancelled => absurd hcancelled halive
      · exact Or.inl (hnew ▸ by decide)
    · rw [hstamps.actualEnd, isSome_stampWhen, hends, hrow.ended]
    · rw [hstamps.closedAt, isSome_stampWhen, hrow.closed, or_iff_right hopen]
  · constructor
    · rw [hstatus, hstart]
      exact hrow.started
    · rw [hstatus, hstart]
      exact hrow.only
    · rw [hstatus, hend]
      exact hrow.ended
    · rw [hstatus, hclosed]
      exact hrow.closed

/-- Work begins before it ends, and is over before the order is closed. -/
structure InOrder (now : Moment) (order : WorkOrder) : Prop where
  actualStart : ∀ moment ∈ order.actualStart,
    moment ≤ now ∧ ∀ ended ∈ order.actualEnd, moment ≤ ended
  actualEnd : ∀ moment ∈ order.actualEnd,
    moment ≤ now ∧ ∀ closed ∈ order.closedAt, moment ≤ closed
  closedAt : ∀ moment ∈ order.closedAt, moment ≤ now

theorem InOrder.mono {before : Moment} (h : InOrder before row) (hclock : before ≤ now) :
    InOrder now row where
  actualStart moment hmoment := (h.actualStart moment hmoment).imp_left hclock.trans'
  actualEnd moment hmoment := (h.actualEnd moment hmoment).imp_left hclock.trans'
  closedAt moment hmoment := (h.closedAt moment hmoment).trans hclock

/-- What is stamped now comes after all that was stamped. The status tells what was: nothing is
begun that is over, and nothing changes that is closed. -/
theorem MovedAt.inOrder (h : MovedAt now row updated) (hrow : Stamped row)
    (hordered : InOrder now row) : InOrder now updated := by
  rcases h.stamps with hstamps | ⟨-, hstart, hend, hclosed⟩
  · have halive := (hasEnded_of_transition hstamps.allowed).2
    have hopen := (transition_closed hstamps.allowed).1
    have hmember : ∀ {moment : Moment} {stored : Option Moment}, moment ∈ stored →
        stored.isSome = true := fun hmoment => Option.isSome_iff_exists.mpr ⟨_, hmoment⟩
    constructor
    · rw [hstamps.actualStart, hstamps.actualEnd]
      intro moment hmoment
      rcases mem_stampWhen hmoment with hstored | ⟨hnew, rfl⟩
      · obtain ⟨hbefore, hends⟩ := hordered.actualStart moment hstored
        refine ⟨hbefore, fun ended hended => ?_⟩
        rcases mem_stampWhen hended with hold | ⟨-, rfl⟩
        · exact hends ended hold
        · exact hbefore
      · refine ⟨le_rfl, fun ended hended => ?_⟩
        rcases mem_stampWhen hended with hold | ⟨-, rfl⟩
        · exact absurd (hrow.ended.mp (hmember hold)) (halive (by simp [hnew]))
        · exact le_rfl
    · rw [hstamps.actualEnd, hstamps.closedAt]
      intro moment hmoment
      have hbefore := le_of_mem_stampWhen (fun old hold => (hordered.actualEnd old hold).1) moment
        hmoment
      refine ⟨hbefore, fun closed hclosed => ?_⟩
      rcases mem_stampWhen hclosed with hold | ⟨-, rfl⟩
      · exact absurd (hrow.closed.mp (hmember hold)) hopen
      · exact hbefore
    · rw [hstamps.closedAt]
      exact le_of_mem_stampWhen hordered.closedAt
  · constructor
    · rw [hstart, hend]
      exact hordered.actualStart
    · rw [hend, hclosed]
      exact hordered.actualEnd
    · rw [hclosed]
      exact hordered.closedAt

end

theorem Drafted.stamped {order : WorkOrder} (h : Drafted order) : Stamped order := by
  constructor <;> simp [h.status, h.actualStart, h.actualEnd, h.closedAt,
    WorkOrderStatus.HasStarted, WorkOrderStatus.HasEnded]

theorem Drafted.inOrder {order : WorkOrder} (h : Drafted order) (now : Moment) :
    InOrder now order := by
  constructor <;> simp [h.actualStart, h.actualEnd, h.closedAt]

/-! ## Runs -/

namespace DowntimeCall

/-- The time at which a call is made. -/
def now : DowntimeCall → Moment
  | .work (.createRequest services _) => services.now
  | .work (.updateRequest services _) => services.now
  | .work (.createOrder services _) => services.now
  | .work (.updateOrder services _) => services.now
  | .work (.generate call) => call.services.now
  | .createEvent services _ => services.now
  | .updateEvent services _ => services.now

theorem eventCall_orders
    {checks : DowntimeStore → Except DomainError (DowntimeEvent × List WorkOrder)}
    {write : DowntimeEvent × List WorkOrder → DowntimeStore → Except DomainError DowntimeStore}
    {store : DowntimeStore} (now : Moment)
    (h : ∀ plan next, checks store = .ok plan → write plan store = .ok next →
      store.orders.Evolves Drafted MinutesWritten next.orders) :
    ∃ last, ((Program.transact checks write).outcome (.clean store)).2 = .clean last ∧
      store.orders.Evolves Drafted (MovedAt now) last.orders := by
  have hkept : store.orders.Evolves Drafted (MovedAt now) store.orders :=
    .refl (MovedAt.refl now) store.orders
  apply Program.Settles.outcome
  refine Program.settles_transact.mpr ⟨fun plan hplan => ⟨?_, fun _ _ => hkept⟩, fun _ _ => hkept⟩
  intro next hnext
  exact (h plan next hplan hnext).mono (fun _ => id) fun _ _ => MinutesWritten.movedAt

theorem orders_move (call : DowntimeCall) (store : DowntimeStore) :
    ∃ last, (call.run (.clean store)).2 = .clean last ∧
      store.orders.Evolves Drafted (MovedAt call.now) last.orders := by
  cases call with
  | work call =>
      obtain ⟨last, hlast, horders⟩ := call.orders_evolve store.toMaintenanceStore
      refine ⟨_, Part.run_clean hlast, horders.mono (fun _ => id) ?_⟩
      intro row updated hmoved
      cases call with
      | updateOrder services arguments =>
          rcases hmoved with rfl | hupdated
          · exact .refl _ _
          · exact hupdated.movedAt
      | createRequest | updateRequest | createOrder | generate =>
          obtain rfl : row = updated := hmoved
          exact .refl _ _
  | createEvent services arguments =>
      apply eventCall_orders
      rintro ⟨row, affected⟩ next hprepared hinserted
      iterate 2 obtain ⟨_, -, hinserted⟩ := bind_ok hinserted
      cases hinserted
      have hplanned := prepareDowntimeEvent_planned hprepared
      exact syncAll_evolves { store with downtimeEvents := store.downtimeEvents.insert row }
        hplanned.stored hplanned.distinct
  | updateEvent services arguments =>
      apply eventCall_orders
      rintro ⟨row, affected⟩ next hprepared hsaved
      cases hsaved
      obtain ⟨stored, -, -, hplanned⟩ := prepareUpdatedDowntimeEvent_planned hprepared
      exact syncAll_evolves { store with downtimeEvents := store.downtimeEvents.update row }
        hplanned.stored hplanned.distinct

end DowntimeCall

theorem orders_evolve_run (calls : List DowntimeCall) {start : DowntimeStore}
    (hstamped : ∀ order ∈ start.orders.rows, Stamped order) :
    ∃ last, sessionAfter DowntimeCall.run (.clean start) calls = .clean last ∧
      start.orders.Evolves Drafted Later last.orders ∧
        ∀ order ∈ last.orders.rows, Stamped order := by
  induction calls generalizing start with
  | nil => exact ⟨start, rfl, .refl Later.refl start.orders, hstamped⟩
  | cons call rest ih =>
      obtain ⟨middle, hmiddle, horders⟩ := call.orders_move start
      have hnext : ∀ order ∈ middle.orders.rows, Stamped order :=
        horders.forall_rows (fun _ => Drafted.stamped) (fun _ _ => MovedAt.stamped) hstamped
      obtain ⟨last, hlast, hlater, hresult⟩ := ih hnext
      refine ⟨last, (sessionAfter_cons hmiddle rest).trans hlast, ?_, hresult⟩
      exact .trans Later.trans (horders.mono (fun _ => id) fun _ _ => MovedAt.later) hlater

/-- Along every run orders move along their transitions and carry the times of their status, and
none leaves a status that leads nowhere. -/
theorem orders_follow_lifecycle (calls : List DowntimeCall) {start : DowntimeStore}
    (hstamped : ∀ order ∈ start.orders.rows, Stamped order) :
    ∃ last, sessionAfter DowntimeCall.run (.clean start) calls = .clean last ∧
      start.orders.Evolves Drafted Later last.orders ∧
      (∀ order ∈ last.orders.rows, Stamped order) ∧
      ∀ old ∈ start.orders.rows, workOrderTransitions old.status = [] →
        ∀ order ∈ last.orders.rows, order.id = old.id → order.status = old.status := by
  obtain ⟨last, hlast, hlater, hresult⟩ := orders_evolve_run calls hstamped
  refine ⟨last, hlast, hlater, hresult, ?_⟩
  intro old hold hfinal order horder hid
  exact (hlater.moved_of_key_eq hold horder hid.symm).status_eq hfinal

def pressMoves (now : Moment) (status : WorkOrderStatus) : DowntimeCall :=
  .work (.updateOrder (pressServices now)
    { workOrderId := "press", status := some (.member status) })

/-- The press is repaired, with a stop while the work goes on. -/
def pressRepair : List DowntimeCall :=
  [pressMoves 3 .planned, pressMoves 4 .released, pressMoves 5 .inProgress, pressStop,
    pressMoves 4500000009 .completed, pressMoves 4500000012 .closed]

def orderTimes (order : WorkOrder) :
    String × WorkOrderStatus × Option Moment × Option Moment × Option Moment :=
  (order.id, order.status, order.actualStart, order.actualEnd, order.closedAt)

theorem pressRepair_times :
    (sessionAfter DowntimeCall.run (.clean pressHall) pressRepair).committed.orders.rows.map
        orderTimes =
      [("lathe", .draft, none, none, none),
        ("press", .closed, some 5, some 4500000009, some 4500000012)] := by
  decide +kernel

theorem stamped_pressHall : ∀ order ∈ pressHall.orders.rows, Stamped order := by
  intro order horder
  rcases List.mem_pair.mp horder with rfl | rfl
  all_goals constructor <;> decide

theorem orders_follow_lifecycle_press :
    ∃ last, sessionAfter DowntimeCall.run (.clean pressHall) pressRepair = .clean last ∧
      pressHall.orders.Evolves Drafted Later last.orders ∧
      (∀ order ∈ last.orders.rows, Stamped order) ∧
      last.orders.rows.map orderTimes = [("lathe", .draft, none, none, none),
        ("press", .closed, some 5, some 4500000009, some 4500000012)] := by
  obtain ⟨last, hlast, hlater, hstamped, -⟩ := orders_follow_lifecycle pressRepair stamped_pressHall
  have htimes := pressRepair_times
  rw [hlast] at htimes
  exact ⟨last, hlast, hlater, hstamped, htimes⟩

def clockAfter (clock : Moment) (calls : List DowntimeCall) : Moment :=
  calls.foldl (fun _ call => call.now) clock

/-- On a clock that does not run back the times of every order are in order. -/
theorem orders_in_order (calls : List DowntimeCall) {start : DowntimeStore} {clock : Moment}
    (hclock : (clock :: calls.map DowntimeCall.now).IsChain (· ≤ ·))
    (hstamped : ∀ order ∈ start.orders.rows, Stamped order)
    (hordered : ∀ order ∈ start.orders.rows, InOrder clock order) :
    ∃ last, sessionAfter DowntimeCall.run (.clean start) calls = .clean last ∧
      ∀ order ∈ last.orders.rows, InOrder (clockAfter clock calls) order := by
  induction calls generalizing start clock with
  | nil => exact ⟨start, rfl, hordered⟩
  | cons call rest ih =>
      obtain ⟨middle, hmiddle, horders⟩ := call.orders_move start
      obtain ⟨hnow, hrest⟩ := List.isChain_cons_cons.mp hclock
      have hnext : ∀ order ∈ middle.orders.rows, Stamped order ∧ InOrder call.now order := by
        refine horders.forall_rows (fun order hmade => ⟨hmade.stamped, hmade.inOrder _⟩) ?_ ?_
        · exact fun _ _ hmoved hrow => ⟨hmoved.stamped hrow.1, hmoved.inOrder hrow.1 hrow.2⟩
        · exact fun order horder => ⟨hstamped order horder, (hordered order horder).mono hnow⟩
      obtain ⟨last, hlast, hresult⟩ := ih hrest (fun order h => (hnext order h).1)
        fun order h => (hnext order h).2
      exact ⟨last, (sessionAfter_cons hmiddle rest).trans hlast, hresult⟩

theorem orders_in_order_press :
    ∃ last, sessionAfter DowntimeCall.run (.clean pressHall) pressRepair = .clean last ∧
      (∀ order ∈ last.orders.rows, InOrder 4500000012 order) ∧
      last.orders.rows.map orderTimes = [("lathe", .draft, none, none, none),
        ("press", .closed, some 5, some 4500000009, some 4500000012)] := by
  have hordered : ∀ order ∈ pressHall.orders.rows, InOrder 0 order := by
    intro order horder
    rcases List.mem_pair.mp horder with rfl | rfl
    all_goals constructor <;> decide
  obtain ⟨last, hlast, hinorder⟩ := @orders_in_order pressRepair pressHall 0 (by decide)
    stamped_pressHall hordered
  have htimes := pressRepair_times
  rw [hlast] at htimes
  exact ⟨last, hlast, hinorder, htimes⟩

end ProjectManager.Maintenance
