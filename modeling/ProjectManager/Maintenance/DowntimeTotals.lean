import ProjectManager.Foundation.Tallies
import ProjectManager.Maintenance.Downtime

/-! # The downtime of orders

The minutes of an order are those of its events, along every run in which nobody
writes others to it. After that they are right again with the next event that is
accepted on the order, or moved away from it.
-/

namespace ProjectManager.Maintenance

open Foundation

/-- The order shows the minutes of its events. -/
def DowntimeAgrees (store : DowntimeStore) (orderId : String) : Prop :=
  ∀ order ∈ store.orders.rows, order.id = orderId →
    order.downtimeMinutes = downtimeOfOrder store order

/-- Events name orders that are stored. -/
def EventsRefer (store : DowntimeStore) : Prop :=
  ∀ event ∈ store.downtimeEvents.rows, ∀ id ∈ event.workOrderId, id ≠ "" ∧ id ∈ store.orders.ids

section

variable {services : MaintenanceServices} {store next : DowntimeStore} {organization : String}
  {order : WorkOrder} {orderId : String} {affected : List WorkOrder} {row : DowntimeEvent}

/-! ## Minutes -/

def minutesFor (organization orderId : String) (event : DowntimeEvent) : ℤ :=
  if event.organizationId = organization ∧ event.workOrderId = some orderId then
    event.durationMinutes.getD 0
  else 0

theorem downtimeOfOrder_eq_sum (store : DowntimeStore) (order : WorkOrder) :
    downtimeOfOrder store order =
      (some (store.downtimeEvents.sum (minutesFor order.organizationId order.id))).filter
        (· ≠ 0) := by
  unfold downtimeOfOrder eventsOfOrder
  rw [sum_map_filter]
  simp only [decide_eq_true_eq]
  rfl

theorem minutesFor_eq_zero (h : row.workOrderId ≠ some orderId) :
    minutesFor organization orderId row = 0 :=
  if_neg fun hboth => h hboth.2

theorem downtimeOfOrder_congr {other : WorkOrder}
    (hevents : next.downtimeEvents = store.downtimeEvents)
    (horganization : other.organizationId = order.organizationId) (hid : other.id = order.id) :
    downtimeOfOrder next other = downtimeOfOrder store order := by
  rw [downtimeOfOrder_eq_sum, downtimeOfOrder_eq_sum, hevents, horganization, hid]

theorem agrees_of_sum (horders : next.orders = store.orders)
    (hsum : ∀ organization, next.downtimeEvents.sum (minutesFor organization orderId) =
      store.downtimeEvents.sum (minutesFor organization orderId))
    (h : DowntimeAgrees store orderId) : DowntimeAgrees next orderId := by
  intro order horder hid
  rw [h order (horders ▸ horder) hid, downtimeOfOrder_eq_sum, downtimeOfOrder_eq_sum, hid, hsum]

/-! ## Writing the minutes -/

theorem sync_agrees (h : orderId ≠ order.id → DowntimeAgrees store orderId) :
    DowntimeAgrees (syncWorkOrderDowntimeMinutes store order) orderId := by
  intro other hother hid
  rcases Table.mem_update_iff.mp hother with ⟨rfl, -⟩ | ⟨hstored, hne⟩
  · exact (downtimeOfOrder_congr rfl rfl rfl).symm
  · exact h (hid ▸ hne) other hstored hid

/-- Once the minutes of some orders are written, only the others may be wrong. -/
theorem syncAll_agrees (h : orderId ∉ affected.map WorkOrder.id → DowntimeAgrees store orderId) :
    DowntimeAgrees (syncWorkOrders store affected) orderId := by
  induction affected generalizing store with
  | nil => exact h List.not_mem_nil
  | cons order rest ih =>
      apply ih
      intro hrest
      apply sync_agrees
      intro hne
      apply h
      simp [hne, hrest]

theorem syncAll_frame (store : DowntimeStore) (affected : List WorkOrder) :
    (syncWorkOrders store affected).downtimeEvents = store.downtimeEvents ∧
      (syncWorkOrders store affected).orders.ids = store.orders.ids := by
  induction affected generalizing store with
  | nil => exact ⟨rfl, rfl⟩
  | cons order rest ih =>
      obtain ⟨hevents, hids⟩ := ih (syncWorkOrderDowntimeMinutes store order)
      exact ⟨hevents, hids.trans (Table.ids_update _)⟩

/-- The minutes of an order are written with a new version, and nothing else. -/
def MinutesWritten (order written : WorkOrder) : Prop :=
  written = { order with
    downtimeMinutes := written.downtimeMinutes
    version := written.version } ∧ order.version ≤ written.version

theorem minutesWritten_self (order : WorkOrder) : MinutesWritten order order :=
  ⟨rfl, le_rfl⟩

theorem MinutesWritten.trans (first second third : WorkOrder)
    (hfirst : MinutesWritten first second) (hsecond : MinutesWritten second third) :
    MinutesWritten first third := by
  refine ⟨?_, hfirst.2.trans hsecond.2⟩
  rw [hsecond.1, hfirst.1]

theorem syncAll_evolves (store : DowntimeStore)
    (hstored : ∀ order ∈ affected, order ∈ store.orders.rows)
    (hdistinct : (affected.map WorkOrder.id).Nodup) :
    store.orders.Evolves Drafted MinutesWritten (syncWorkOrders store affected).orders := by
  induction affected generalizing store with
  | nil => exact .refl minutesWritten_self store.orders
  | cons order rest ih =>
      obtain ⟨hnot, hrest⟩ := List.nodup_cons.mp hdistinct
      have hwritten : store.orders.Evolves Drafted MinutesWritten
          (syncWorkOrderDowntimeMinutes store order).orders :=
        .update minutesWritten_self (hstored order List.mem_cons_self) rfl
          ⟨rfl, Nat.le_succ order.version⟩
      refine .trans MinutesWritten.trans hwritten (ih _ ?_ hrest)
      -- The orders still to come are not the one just written.
      intro other hother
      refine Table.mem_update_iff.mpr (Or.inr ⟨hstored other (List.mem_cons_of_mem _ hother), ?_⟩)
      exact fun hsame => hnot (hsame ▸ List.mem_map_of_mem hother)

/-! ## What a call plans -/

/-- The orders that a call writes minutes to are stored, and include the one that the event names
and the one that it named before. -/
structure EventPlanned (store : DowntimeStore) (before : Option String) (row : DowntimeEvent)
    (affected : List WorkOrder) : Prop where
  stored : ∀ order ∈ affected, order ∈ store.orders.rows
  distinct : (affected.map WorkOrder.id).Nodup
  named : ∀ id ∈ row.workOrderId, id ≠ "" ∧ id ∈ affected.map WorkOrder.id
  left : ∀ id ∈ before, id ≠ "" → id ∈ affected.map WorkOrder.id

theorem lookupNamed_requireWorkOrder {base : MaintenanceStore} {reference : Option String}
    {workOrder : Option WorkOrder}
    (h : lookupNamed (requireWorkOrder base organization) reference = .ok workOrder) :
    ∀ order ∈ workOrder, order ∈ base.orders.rows ∧ order.id ≠ "" := by
  intro order horder
  unfold lookupNamed at h
  split at h
  next id hid =>
    obtain ⟨found, hfound, hsome⟩ := map_some_eq_ok.mp h
    obtain ⟨hmem, rfl, -⟩ := requireWorkOrder_mem hfound
    obtain rfl : order = found := Option.some.inj (horder.symm.trans hsome)
    refine ⟨hmem, fun hblank => ?_⟩
    have hstrip := (Option.filter_eq_some_iff.mp hid).2
    rw [hblank] at hstrip
    exact absurd hstrip (by decide)
  next =>
    cases h
    cases horder

theorem resolveDowntimeContext_order {workOrderId assetId systemId : Option String}
    {operationLabel : String} {context : DowntimeContext}
    (h : resolveDowntimeContext services store organization workOrderId assetId systemId
      operationLabel = .ok context) :
    ∀ order ∈ context.workOrder, order ∈ store.orders.rows ∧ order.id ≠ "" := by
  obtain ⟨workOrder, hworkOrder, h⟩ := bind_ok h
  -- The asset and the system of the context are not orders.
  iterate 6 obtain ⟨_, -, h⟩ := bind_ok h
  cases h
  exact lookupNamed_requireWorkOrder hworkOrder

theorem lookup_requireWorkOrder {base : MaintenanceStore} {reference : Option String}
    {workOrder : Option WorkOrder}
    (h : lookup (requireWorkOrder base organization) reference = .ok workOrder) :
    workOrder.map WorkOrder.id = givenReference reference ∧
      ∀ order ∈ workOrder, order ∈ base.orders.rows := by
  unfold lookup at h
  split at h
  next id hid =>
    obtain ⟨found, hfound, rfl⟩ := map_some_eq_ok.mp h
    obtain ⟨hmem, rfl, -⟩ := requireWorkOrder_mem hfound
    exact ⟨hid.symm, by simpa using hmem⟩
  next hnone =>
    cases h
    exact ⟨hnone.symm, fun _ hsome => (nomatch hsome)⟩

theorem mem_affectedWorkOrders {previous current : Option WorkOrder}
    (h : order ∈ affectedWorkOrders previous current) : order ∈ previous ∨ order ∈ current := by
  rcases List.mem_append.mp h with hprevious | hcurrent
  · exact Or.inl (Option.mem_toList.mp hprevious)
  · exact Or.inr (Option.filter_eq_some_iff.mp (Option.mem_toList.mp hcurrent)).1

/-- Both orders are written, each once: one that is left out is the one that was there already. -/
theorem ids_affectedWorkOrders (previous current : Option WorkOrder) :
    (∀ order ∈ previous, order.id ∈ (affectedWorkOrders previous current).map WorkOrder.id) ∧
      (∀ order ∈ current, order.id ∈ (affectedWorkOrders previous current).map WorkOrder.id) ∧
        ((affectedWorkOrders previous current).map WorkOrder.id).Nodup := by
  cases previous with
  | none => cases current <;> simp [affectedWorkOrders, Option.filter]
  | some first =>
      cases current with
      | none => simp [affectedWorkOrders]
      | some second =>
          by_cases hsame : first.id = second.id
          · simp [affectedWorkOrders, Option.filter, hsame]
          · simp [affectedWorkOrders, Option.filter, hsame]

theorem prepareDowntimeEvent_planned {arguments : CreateDowntimeArguments}
    (h : prepareDowntimeEvent services store arguments = .ok (row, affected)) :
    EventPlanned store none row affected := by
  iterate 2 obtain ⟨_, -, h⟩ := bind_ok h
  obtain ⟨context, hcontext, h⟩ := bind_ok h
  iterate 4 obtain ⟨_, -, h⟩ := bind_ok h
  obtain ⟨rfl, rfl⟩ := Prod.mk.inj (Except.ok.inj h)
  have horder := resolveDowntimeContext_order hcontext
  constructor
  · intro order hmem
    exact (horder order (Option.mem_toList.mp hmem)).1
  · cases context.workOrder <;> simp
  · intro id hid
    obtain ⟨order, hmem, rfl⟩ := Option.map_eq_some_iff.mp hid
    exact ⟨(horder order hmem).2, List.mem_map_of_mem (Option.mem_toList.mpr hmem)⟩
  · exact fun _ hnone => (nomatch hnone)

theorem getDowntimeEvent_mem {downtimeEventId : String} {stored : DowntimeEvent}
    (h : getDowntimeEvent services store downtimeEventId = .ok stored) :
    stored ∈ store.downtimeEvents.rows ∧ stored.id = downtimeEventId := by
  iterate 2 obtain ⟨_, -, h⟩ := bind_ok h
  obtain ⟨found, hfound, h⟩ := bind_ok h
  obtain ⟨_, -, h⟩ := bind_ok h
  cases h
  exact store.downtimeEvents.get?_eq_some
    (Option.filter_eq_some_iff.mp (require_eq_ok.mp hfound)).1

theorem prepareUpdatedDowntimeEvent_planned {arguments : UpdateDowntimeArguments}
    (h : prepareUpdatedDowntimeEvent services store arguments = .ok (row, affected)) :
    ∃ stored ∈ store.downtimeEvents.rows, stored.id = row.id ∧
      EventPlanned store stored.workOrderId row affected := by
  obtain ⟨_, -, h⟩ := bind_ok h
  obtain ⟨organization, -, h⟩ := bind_ok h
  obtain ⟨stored, hstored, h⟩ := bind_ok h
  obtain ⟨_, -, h⟩ := bind_ok h
  obtain ⟨previous, hprevious, h⟩ := bind_ok h
  obtain ⟨context, hcontext, h⟩ := bind_ok h
  iterate 4 obtain ⟨_, -, h⟩ := bind_ok h
  obtain ⟨rfl, rfl⟩ := Prod.mk.inj (Except.ok.inj h)
  have horder := resolveDowntimeContext_order hcontext
  obtain ⟨hnamed, hprevious⟩ := lookup_requireWorkOrder hprevious
  obtain ⟨hleft, hcurrent, hdistinct⟩ := ids_affectedWorkOrders previous context.workOrder
  refine ⟨stored, (getDowntimeEvent_mem hstored).1, rfl, ?_, hdistinct, ?_, ?_⟩
  · intro order hmem
    rcases mem_affectedWorkOrders hmem with hold | hnew
    · exact hprevious order hold
    · exact (horder order hnew).1
  · intro id hid
    obtain ⟨order, hmem, rfl⟩ := Option.map_eq_some_iff.mp hid
    exact ⟨(horder order hmem).2, hcurrent order hmem⟩
  · intro id hid hne
    have hgiven : givenReference stored.workOrderId = some id :=
      Option.filter_eq_some_iff.mpr ⟨hid, by simpa using hne⟩
    obtain ⟨order, hmem, rfl⟩ := Option.map_eq_some_iff.mp (hnamed.trans hgiven)
    exact hleft order hmem

/-! ## Calls -/

/-- What the rows of the events become, and that the minutes of no other order change by it. -/
structure EventWritten (before : Option String) (row : DowntimeEvent)
    (table next : Table DowntimeEvent.id) : Prop where
  mem : ∀ event ∈ next.rows, event = row ∨ event ∈ table.rows
  sum : ∀ organization orderId, row.workOrderId ≠ some orderId → before ≠ some orderId →
    next.sum (minutesFor organization orderId) = table.sum (minutesFor organization orderId)

theorem eventWritten_insert {table : Table DowntimeEvent.id} (hfresh : row.id ∉ table.ids) :
    EventWritten none row table (table.insert row) where
  mem _ hevent := Table.mem_insert hevent
  sum organization orderId hother _ := by
    rw [Table.sum_insert hfresh, minutesFor_eq_zero hother, zero_add]

theorem eventWritten_update {table : Table DowntimeEvent.id} {stored : DowntimeEvent}
    (hstored : stored ∈ table.rows) (hid : stored.id = row.id) :
    EventWritten stored.workOrderId row table (table.update row) where
  mem event hevent := (Table.mem_update_iff.mp hevent).imp And.left And.left
  sum organization orderId hother hbefore := by
    have hfound : table.get? row.id = some stored := hid ▸ table.get?_of_mem hstored
    rw [Table.sum_update hfound, minutesFor_eq_zero hother, minutesFor_eq_zero hbefore, sub_zero,
      add_zero]

/-- An accepted call on an event writes the minutes of its order, and of the one that it left. -/
structure EventStep (before : Option String) (row : DowntimeEvent) (store next : DowntimeStore) :
    Prop where
  refer : EventsRefer next
  kept : ∀ orderId, DowntimeAgrees store orderId → DowntimeAgrees next orderId
  synced : ∀ orderId, row.workOrderId = some orderId ∨ before = some orderId →
    DowntimeAgrees next orderId

theorem eventStep {before : Option String} {events : Table DowntimeEvent.id}
    (hrefer : EventsRefer store) (hbefore : ∀ id ∈ before, id ≠ "")
    (hplanned : EventPlanned store before row affected)
    (hwritten : EventWritten before row store.downtimeEvents events) :
    EventStep before row store
      (syncWorkOrders { store with downtimeEvents := events } affected) := by
  obtain ⟨hevents, hids⟩ := syncAll_frame { store with downtimeEvents := events } affected
  -- An order whose minutes are not written is neither named by the event nor left by it.
  have hothers : ∀ orderId, orderId ∉ affected.map WorkOrder.id →
      row.workOrderId ≠ some orderId ∧ before ≠ some orderId := by
    intro orderId hnot
    constructor
    · exact fun hnamed => hnot (hplanned.named orderId hnamed).2
    · exact fun hleft => hnot (hplanned.left orderId hleft (hbefore orderId hleft))
  constructor
  · intro event hevent id hid
    rw [hevents] at hevent
    rw [hids]
    rcases hwritten.mem event hevent with rfl | hstored
    · obtain ⟨hne, hmem⟩ := hplanned.named id hid
      obtain ⟨order, horder, rfl⟩ := List.mem_map.mp hmem
      exact ⟨hne, store.orders.mem_ids (hplanned.stored order horder)⟩
    · exact hrefer event hstored id hid
  · intro orderId hagrees
    apply syncAll_agrees
    intro hnot
    obtain ⟨hrow, hold⟩ := hothers orderId hnot
    refine agrees_of_sum ?_ ?_ hagrees
    · rfl
    · exact fun organization => hwritten.sum organization orderId hrow hold
  · intro orderId hnamed
    apply syncAll_agrees
    intro hnot
    obtain ⟨hrow, hold⟩ := hothers orderId hnot
    exact absurd hnamed (not_or_intro hrow hold)

/-- What a call on an event does when it is accepted: the event that it writes is new, or replaces
one that named another order. -/
def EventSaved (store : DowntimeStore) (row : DowntimeEvent) (next : DowntimeStore) : Prop :=
  ∃ before, (∀ stored ∈ store.downtimeEvents.rows, stored.id = row.id →
    stored.workOrderId = before) ∧ EventStep before row store next

theorem createDowntimeEvent_saved (services : MaintenanceServices)
    (arguments : CreateDowntimeArguments) (hrefer : EventsRefer store) :
    (createDowntimeEvent services arguments).Settles store
      (fun plan next => EventSaved store plan.1 next) fun _ next => next = store := by
  refine Program.settles_transact.mpr ⟨?_, fun _ _ => rfl⟩
  rintro ⟨row, affected⟩ hprepared
  refine ⟨?_, fun _ _ => rfl⟩
  intro next hinserted
  obtain ⟨_, hfresh, hinserted⟩ := bind_ok hinserted
  obtain ⟨_, -, hinserted⟩ := bind_ok hinserted
  cases hinserted
  have hnew := ensure_eq_ok.mp hfresh
  refine ⟨none, ?_, eventStep hrefer (fun _ hnone => (nomatch hnone))
    (prepareDowntimeEvent_planned hprepared) (eventWritten_insert hnew)⟩
  exact fun stored hstored hid => absurd (hid ▸ store.downtimeEvents.mem_ids hstored) hnew

theorem updateDowntimeEvent_saved (services : MaintenanceServices)
    (arguments : UpdateDowntimeArguments) (hrefer : EventsRefer store) :
    (updateDowntimeEvent services arguments).Settles store
      (fun plan next => EventSaved store plan.1 next) fun _ next => next = store := by
  refine Program.settles_transact.mpr ⟨?_, fun _ _ => rfl⟩
  rintro ⟨row, affected⟩ hprepared
  refine ⟨?_, fun _ _ => rfl⟩
  intro next hsaved
  cases hsaved
  obtain ⟨stored, hstored, hid, hplanned⟩ := prepareUpdatedDowntimeEvent_planned hprepared
  refine ⟨stored.workOrderId, ?_, eventStep hrefer (fun id h => (hrefer stored hstored id h).1)
    hplanned (eventWritten_update hstored hid)⟩
  intro other hother hsame
  rw [store.downtimeEvents.eq_of_key_eq hother hstored (hsame.trans hid.symm)]

/-! ## Work beside the events -/

theorem work_refer (hrefer : EventsRefer store) {last : MaintenanceStore}
    (hkept : ∀ id ∈ store.orders.ids, id ∈ last.orders.ids) :
    EventsRefer { store with toMaintenanceStore := last } :=
  fun event hevent id hid => (hrefer event hevent id hid).imp_right (hkept id)

/-- An order that is made has no events yet, and one that is moved keeps its minutes unless the
call sets them. -/
theorem work_agrees (hrefer : EventsRefer store) {moved : WorkOrder → WorkOrder → Prop}
    {last : MaintenanceStore} (horders : store.orders.Evolves Drafted moved last.orders)
    (hmoved : ∀ old order, moved old order → order.id = orderId → old.id = orderId ∧
      order.organizationId = old.organizationId ∧ order.downtimeMinutes = old.downtimeMinutes)
    (h : DowntimeAgrees store orderId) :
    DowntimeAgrees { store with toMaintenanceStore := last } orderId := by
  intro order horder hid
  rcases horders.origin order horder with ⟨old, hold, hkey, hstep⟩ | ⟨hnew, first, hfirst, hstep⟩
  · obtain ⟨hsame, horganization, hminutes⟩ := hmoved old order hstep hid
    rw [hminutes, h old hold hsame]
    exact downtimeOfOrder_congr rfl horganization.symm hkey
  · obtain ⟨-, -, hminutes⟩ := hmoved first order hstep hid
    rw [hminutes, hfirst.downtimeMinutes, downtimeOfOrder_eq_sum]
    have hzero : store.downtimeEvents.sum (minutesFor order.organizationId order.id) = 0 := by
      apply List.sum_eq_zero
      intro minutes hmem
      obtain ⟨event, hevent, rfl⟩ := List.mem_map.mp hmem
      exact minutesFor_eq_zero fun hnamed => hnew (hrefer event hevent order.id hnamed).2
    change none = (some (store.downtimeEvents.sum _)).filter _
    rw [hzero]
    rfl

end

namespace DowntimeCall

/-- The call writes minutes to the order by hand. -/
def SetsMinutes (orderId : String) : DowntimeCall → Prop
  | .work (.updateOrder _ arguments) =>
      arguments.workOrderId = orderId ∧ arguments.downtimeMinutes.isSome = true
  | _ => False

/-- The call is accepted, and its event names the order or named it before. -/
def Writes (program : Program DomainError DowntimeStore (DowntimeEvent × List WorkOrder))
    (session : Session DowntimeStore) (orderId : String) : Prop :=
  ∃ plan next, program session = (.ok plan, next) ∧
    (plan.1.workOrderId = some orderId ∨ ∃ stored ∈ session.pending.downtimeEvents.rows,
      stored.id = plan.1.id ∧ stored.workOrderId = some orderId)

def WritesEvent (session : Session DowntimeStore) (orderId : String) : DowntimeCall → Prop
  | .work _ => False
  | .createEvent services arguments =>
      Writes (createDowntimeEvent services arguments) session orderId
  | .updateEvent services arguments =>
      Writes (updateDowntimeEvent services arguments) session orderId

theorem moves_minutes {call : WorkCall} {orderId : String} {old order : WorkOrder}
    (hhand : ¬ (DowntimeCall.work call).SetsMinutes orderId) (h : call.Moves old order)
    (hid : order.id = orderId) :
    old.id = orderId ∧ order.organizationId = old.organizationId ∧
      order.downtimeMinutes = old.downtimeMinutes := by
  have hsame : order = old → old.id = orderId ∧ order.organizationId = old.organizationId ∧
      order.downtimeMinutes = old.downtimeMinutes := by
    rintro rfl
    exact ⟨hid, rfl, rfl⟩
  cases call with
  | updateOrder services arguments =>
      rcases h with hkept | hupdated
      · exact hsame hkept
      · have hold : old.id = orderId := hupdated.id.symm.trans hid
        refine ⟨hold, hupdated.organizationId, ?_⟩
        have hnone : arguments.downtimeMinutes = none := by
          rw [← Option.not_isSome_iff_eq_none]
          exact fun hsome => hhand ⟨hupdated.named.symm.trans hold, hsome⟩
        rw [hupdated.downtimeMinutes, hnone]
        rfl
  | createRequest | updateRequest | createOrder | generate => exact hsame h.symm

theorem event_step {store : DowntimeStore} (hrefer : EventsRefer store)
    {program : Program DomainError DowntimeStore (DowntimeEvent × List WorkOrder)}
    (h : program.Settles store (fun plan next => EventSaved store plan.1 next)
      fun _ next => next = store) :
    ∃ last, (program.outcome (.clean store)).2 = .clean last ∧ EventsRefer last ∧
      (∀ orderId, DowntimeAgrees store orderId ∨ Writes program (.clean store) orderId →
        DowntimeAgrees last orderId) := by
  rcases h.cases with ⟨plan, last, hrun, before, hstored, hstep⟩ | ⟨e, last, hrun, rfl⟩
  · refine ⟨last, congrArg Prod.snd (Program.outcome_of_ok hrun), hstep.refer, ?_⟩
    rintro orderId (hagrees | ⟨accepted, next, haccepted, hnamed⟩)
    · exact hstep.kept orderId hagrees
    · obtain ⟨hplan, -⟩ := Prod.mk.inj (hrun.symm.trans haccepted)
      cases hplan
      refine hstep.synced orderId (hnamed.imp_right ?_)
      rintro ⟨stored, hmem, hid, hleft⟩
      exact (hstored stored hmem hid).symm.trans hleft
  · refine ⟨last, congrArg Prod.snd (Program.outcome_of_error hrun), hrefer, ?_⟩
    rintro orderId (hagrees | ⟨accepted, next, haccepted, -⟩)
    · exact hagrees
    · rw [hrun] at haccepted
      cases haccepted

theorem step (call : DowntimeCall) {store : DowntimeStore} (hrefer : EventsRefer store) :
    ∃ last, (call.run (.clean store)).2 = .clean last ∧ EventsRefer last ∧
      (∀ orderId, (DowntimeAgrees store orderId ∧ ¬ call.SetsMinutes orderId) ∨
        call.WritesEvent (.clean store) orderId → DowntimeAgrees last orderId) := by
  cases call with
  | work call =>
      obtain ⟨last, hlast, horders⟩ := call.orders_evolve store.toMaintenanceStore
      refine ⟨_, Part.run_clean hlast, work_refer hrefer horders.kept, ?_⟩
      rintro orderId (⟨hagrees, hhand⟩ | hnone)
      · exact work_agrees hrefer horders (fun old order => moves_minutes hhand) hagrees
      · exact hnone.elim
  | createEvent services arguments =>
      obtain ⟨last, hlast, hrefers, hagree⟩ :=
        event_step hrefer (createDowntimeEvent_saved services arguments hrefer)
      exact ⟨last, hlast, hrefers, fun orderId h => hagree orderId (h.imp_left And.left)⟩
  | updateEvent services arguments =>
      obtain ⟨last, hlast, hrefers, hagree⟩ :=
        event_step hrefer (updateDowntimeEvent_saved services arguments hrefer)
      exact ⟨last, hlast, hrefers, fun orderId h => hagree orderId (h.imp_left And.left)⟩

/-- At the end of the run the minutes of the order follow its events: they did so before and no
call set them by hand, or a call on an event came after the last one that did. -/
def FollowEvents (orderId : String) : Prop → Session DowntimeStore → List DowntimeCall → Prop
  | agrees, _, [] => agrees
  | agrees, session, call :: rest =>
      FollowEvents orderId
        ((agrees ∧ ¬ call.SetsMinutes orderId) ∨ call.WritesEvent session orderId)
        (call.run session).2 rest

end DowntimeCall

/-- An order shows the minutes of its events at the end of every run in which they follow them. -/
theorem downtimeCalls_agree (calls : List DowntimeCall) {start : DowntimeStore}
    (hrefer : EventsRefer start) {orderId : String}
    (h : DowntimeCall.FollowEvents orderId (DowntimeAgrees start orderId) (.clean start) calls) :
    ∃ last, sessionAfter DowntimeCall.run (.clean start) calls = .clean last ∧
      DowntimeAgrees last orderId := by
  have hrun : ∀ (agrees : Prop), (agrees → DowntimeAgrees start orderId) →
      DowntimeCall.FollowEvents orderId agrees (.clean start) calls →
        ∃ last, sessionAfter DowntimeCall.run (.clean start) calls = .clean last ∧
          DowntimeAgrees last orderId := by
    clear h
    induction calls generalizing start with
    | nil => exact fun agrees hagrees h => ⟨start, rfl, hagrees h⟩
    | cons call rest ih =>
        intro agrees hagrees h
        obtain ⟨middle, hmiddle, hrefers, hstep⟩ := call.step hrefer
        rw [DowntimeCall.FollowEvents, hmiddle] at h
        obtain ⟨last, hlast, hresult⟩ := ih hrefers _
          (fun hnext => hstep orderId (hnext.imp_left (And.imp_left hagrees))) h
        exact ⟨last, (sessionAfter_cons hmiddle rest).trans hlast, hresult⟩
  exact hrun _ id h

/-! A press whose downtime was typed in is stopped for an hour and a quarter; the event turns out
to be one of the lathe. -/

def press : WorkOrder where
  id := "press"
  organizationId := "plant"
  siteId := "hall"
  workOrderCode := "WO-1"
  workOrderType := .corrective
  sourceType := "MANUAL"
  downtimeMinutes := some 10

def pressHall : DowntimeStore where
  sites := ⟨[{ id := "hall", organizationId := "plant" }], by decide⟩
  orders := ⟨[{ press with id := "lathe", workOrderCode := "WO-2" }, press], by decide⟩

def pressServices (now : Moment) : MaintenanceServices where
  userSession := { AuthorizationEngine.admin with
    isScopeRestricted := fun _ => false
    scopeIdsFor := fun _ _ => [] }
  activeOrganization := some "plant"
  now := now

def pressStop : DowntimeCall :=
  .createEvent (pressServices 4500000000)
    { startedAt := some (.moment 0)
      endedAt := some (.moment 4500000000)
      downtimeType := "unplanned"
      workOrderId := some "press"
      eventId := "stop" }

def latheStop : DowntimeCall :=
  .updateEvent (pressServices 5500000000) { downtimeEventId := "stop", workOrderId := some "lathe" }

theorem pressStop_agrees : ¬ DowntimeAgrees pressHall "press" ∧
    ∃ last, sessionAfter DowntimeCall.run (.clean pressHall) [pressStop, latheStop] = .clean last ∧
      DowntimeAgrees last "press" ∧
      last.orders.rows.map (fun order => (order.id, order.downtimeMinutes)) =
        [("lathe", some 75), ("press", none)] := by
  constructor
  · unfold DowntimeAgrees
    decide
  · obtain ⟨last, hlast, hagrees⟩ := @downtimeCalls_agree [pressStop, latheStop]
      pressHall (fun event hevent => absurd hevent List.not_mem_nil) "press"
      (Or.inr ⟨_, _, rfl, Or.inr ⟨_, List.mem_singleton_self _, rfl, rfl⟩⟩)
    have hminutes : (sessionAfter DowntimeCall.run (.clean pressHall)
        [pressStop, latheStop]).committed.orders.rows.map (fun order =>
          (order.id, order.downtimeMinutes)) = [("lathe", some 75), ("press", none)] := by
      decide +kernel
    rw [hlast] at hminutes
    exact ⟨last, hlast, hagrees, hminutes⟩

end ProjectManager.Maintenance
