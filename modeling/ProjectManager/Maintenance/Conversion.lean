import ProjectManager.Maintenance.AtomicGeneration

/-! # Conversion of requests

A request is converted by an order that is created from it, or by hand. What a call
may do to requests, to the orders created from them and to the instances linked to both
is one step, which every operation of the module takes.
-/

namespace ProjectManager.Maintenance

open Foundation

def Converted (store : MaintenanceStore) (requestId : String) : Prop :=
  ∃ row ∈ store.requests.rows, row.id = requestId ∧ row.status = .converted

def CreatedFrom (store next : MaintenanceStore) (orderId requestId : String) : Prop :=
  ∃ row ∈ next.orders.rows, row.id = orderId ∧ orderId ∉ store.orders.ids ∧
    row.sourceType = "WORK_REQUEST" ∧ row.sourceId = some requestId

/-- The instance was generated through the request, and is linked to the order. -/
def LinkedTo (store : MaintenanceStore) (instanceId requestId orderId : String) : Prop :=
  ∃ row ∈ store.instances.rows, row.id = instanceId ∧
    row.generatedWorkRequestId = some requestId ∧ row.generatedWorkOrderId = some orderId

structure ConversionStep (byHand : String → Prop) (again : Prop) (store next : MaintenanceStore) :
    Prop where
  kept : ∀ requestId, Converted store requestId → Converted next requestId
  created : ∀ orderId requestId, CreatedFrom store next orderId requestId → Converted next requestId
  once : ∀ requestId first second, CreatedFrom store next first requestId →
    CreatedFrom store next second requestId → first = second
  fresh : ¬ again → ∀ orderId requestId, CreatedFrom store next orderId requestId →
    ¬ Converted store requestId
  converted : ∀ requestId, Converted next requestId → Converted store requestId ∨
    (∃ orderId, CreatedFrom store next orderId requestId) ∨ byHand requestId
  linked : ∀ instanceId requestId orderId, LinkedTo next instanceId requestId orderId →
    LinkedTo store instanceId requestId orderId ∨ CreatedFrom store next orderId requestId

variable {services : MaintenanceServices} {store middle worked next : MaintenanceStore}
  {plan synced : PreventivePlan} {ids : TurnIds} {asOf : Moment} {byHand : String → Prop}
  {again : Prop}

/-! ## Generation -/

/-- Requests are added as new ones, and orders without a request. No instance is linked to both. -/
structure GenerationFrame (store next : MaintenanceStore) : Prop where
  orders : ∀ row ∈ next.orders.rows, row ∈ store.orders.rows ∨ row.sourceType = "PREVENTIVE_PLAN"
  requests : ∀ row ∈ next.requests.rows, row ∈ store.requests.rows ∨ row.status = .new
  requestsKept : ∀ row ∈ store.requests.rows, row ∈ next.requests.rows
  instances : ∀ row ∈ next.instances.rows, row ∈ store.instances.rows ∨ row.LinkedOnce

namespace GenerationFrame

theorem of_instances (horders : next.orders = store.orders)
    (hrequests : next.requests = store.requests)
    (hinstances : ∀ row ∈ next.instances.rows, row ∈ store.instances.rows ∨ row.LinkedOnce) :
    GenerationFrame store next := by
  refine ⟨?_, ?_, ?_, hinstances⟩
  · rw [horders]
    exact fun _ => Or.inl
  · rw [hrequests]
    exact fun _ => Or.inl
  · rw [hrequests]
    exact fun _ => id

theorem refl (store : MaintenanceStore) : GenerationFrame store store :=
  of_instances rfl rfl fun _ => Or.inl

theorem trans (hfirst : GenerationFrame store middle) (hsecond : GenerationFrame middle next) :
    GenerationFrame store next where
  orders row hrow := (hsecond.orders row hrow).elim (hfirst.orders row) Or.inr
  requests row hrow := (hsecond.requests row hrow).elim (hfirst.requests row) Or.inr
  requestsKept row hrow := hsecond.requestsKept row (hfirst.requestsKept row hrow)
  instances row hrow := (hsecond.instances row hrow).elim (hfirst.instances row) Or.inr

/-- Such a step neither converts a request nor creates an order from one. -/
theorem conversionStep (h : GenerationFrame store next) : ConversionStep byHand again store next := by
  have hnone : ∀ orderId requestId, ¬ CreatedFrom store next orderId requestId := by
    rintro orderId requestId ⟨row, hrow, rfl, hnew, hsource, -⟩
    rcases h.orders row hrow with hstored | hplan
    · exact hnew (store.orders.mem_ids hstored)
    · rw [hplan] at hsource
      exact absurd hsource (by decide)
  refine ⟨?_, fun orderId requestId hcreated => absurd hcreated (hnone orderId requestId),
    fun requestId first _ hcreated => absurd hcreated (hnone first requestId),
    fun _ orderId requestId hcreated => absurd hcreated (hnone orderId requestId), ?_, ?_⟩
  · rintro requestId ⟨row, hrow, hid, hstatus⟩
    exact ⟨row, h.requestsKept row hrow, hid, hstatus⟩
  · rintro requestId ⟨row, hrow, hid, hstatus⟩
    rcases h.requests row hrow with hstored | hnew
    · exact Or.inl ⟨row, hstored, hid, hstatus⟩
    · rw [hnew] at hstatus
      cases hstatus
  · rintro instanceId requestId orderId ⟨row, hrow, hid, hrequest, horder⟩
    rcases h.instances row hrow with hstored | hrequestNone | horderNone
    · exact Or.inl ⟨row, hstored, hid, hrequest, horder⟩
    · rw [hrequestNone] at hrequest
      cases hrequest
    · rw [horderNone] at horder
      cases horder

end GenerationFrame

theorem SyncedTo.generationFrame {newId : Moment → String}
    (h : SyncedTo plan asOf newId store synced next) : GenerationFrame store next := by
  apply GenerationFrame.of_instances
  · rw [h.frame.2]
  · rw [h.frame.2]
  · intro row hrow
    cases h with
    | unscheduled => exact Or.inl hrow
    | scheduled _ hrun =>
        refine (((synced_of_ok hrun).members row).mp hrow).1.imp_right ?_
        rintro ⟨due, -, rfl⟩
        exact Or.inl rfl

theorem WorkMade.generationFrame (h : WorkMade plan ids store next) : GenerationFrame store next := by
  obtain ⟨orders, horders, -, hsource⟩ := h.orders
  obtain ⟨requests, hrequests, -, hstatus⟩ := h.requests
  constructor
  · intro row hrow
    rw [horders, List.mem_append] at hrow
    exact hrow.symm.imp_right (hsource row)
  · intro row hrow
    rw [hrequests, List.mem_append] at hrow
    exact hrow.symm.imp_right (hstatus row)
  · intro row hrow
    rw [hrequests]
    exact List.mem_append_right _ hrow
  · rw [h.frame]
    exact fun _ => Or.inl

theorem linkedOnce_generated (row : PreventivePlanInstance) :
    (generatedInstance asOf (requestLink plan ids) (orderLink plan ids) row).LinkedOnce := by
  change requestLink plan ids = none ∨ orderLink plan ids = none
  unfold requestLink orderLink
  split
  · exact Or.inl rfl
  · exact Or.inr rfl

theorem StateSaved.generationFrame {updated : PreventivePlan} {saved : MaintenanceStore}
    (hsynced : SyncedTo plan asOf ids.plannedId store synced middle)
    (h : StateSaved synced asOf ids middle worked updated saved) :
    GenerationFrame middle saved := by
  refine h.made.generationFrame.trans ?_
  obtain ⟨horders, hrequests⟩ := h.work_eq
  refine .of_instances horders hrequests ?_
  intro other hother
  by_cases hdue : (selectDueInstance middle synced asOf).isSome = true
  · obtain ⟨given, row, rest, -, hdueSaved⟩ := h.exists_dueSaved hsynced hdue
    rcases hdueSaved.mem_saved hother with ⟨hmiddle, -⟩ | rfl
    · rw [h.made.frame]
      exact Or.inl hmiddle
    · exact Or.inr (linkedOnce_generated row)
  · rw [h.saved_eq, Option.not_isSome_iff_eq_none.mp hdue] at hother
    exact Or.inl hother

theorem partsKeep_generationFrame (plan : PreventivePlan) (asOf : Moment) (ids : TurnIds) :
    PartsKeep plan asOf ids GenerationFrame where
  refl := .refl
  trans := .trans
  synced := SyncedTo.generationFrame
  made _ := WorkMade.generationFrame
  saved := StateSaved.generationFrame
  replanned _ _ := SyncedTo.generationFrame
  tasks htasks := by
    apply GenerationFrame.of_instances
    · rw [htasks]
    · rw [htasks]
    · rw [htasks]
      exact fun _ => Or.inl

theorem GenerationCall.generationFrame (call : GenerationCall) (store : MaintenanceStore) :
    (generateDueWork call.services call.arguments call.ids).Settles store
      (fun _ => GenerationFrame store) fun _ => GenerationFrame store := by
  have hthrough : ∀ {done middle}, Program.Through call.Completed store done middle →
      GenerationFrame store middle := by
    intro done middle hthrough
    exact hthrough.invariant (fun plan _ _ _ hstep hframe =>
      hframe.trans (hstep.2.kept (partsKeep_generationFrame plan _ _))) (.refl store)
  refine (generateDueWork_settles call store).mono (fun _ _ => hthrough) ?_
  rintro e last (⟨-, rfl⟩ | ⟨done, failed, rest, middle, -, hdone, -, hraises⟩)
  · exact .refl last
  · exact (hthrough hdone).trans (hraises.kept (partsKeep_generationFrame failed _ _))

/-! ## Requests -/

theorem prepareWorkRequest_status {arguments : CreateWorkRequestArguments} {row : WorkRequest}
    (h : prepareWorkRequest services store arguments = .ok row) : row.status = .new := by
  iterate 11 obtain ⟨_, -, h⟩ := bind_ok h
  cases h
  rfl

/-- A request that is made by hand is a new one. -/
theorem createWorkRequest_generationFrame (services : MaintenanceServices)
    (arguments : CreateWorkRequestArguments) (store : MaintenanceStore) :
    (createWorkRequest services arguments).Settles store (fun _ => GenerationFrame store)
      fun _ => GenerationFrame store := by
  unfold createWorkRequest
  rw [Program.settles_transact]
  refine ⟨fun row hprepared => ⟨?_, fun _ _ => .refl store⟩, fun _ _ => .refl store⟩
  intro next hsaved
  obtain ⟨_, hsave, hnext⟩ := bind_ok hsaved
  cases hnext
  have hrows := Table.rows_insert (save_eq_ok.mp hsave).1
  refine ⟨fun _ => Or.inl, ?_, ?_, fun _ => Or.inl⟩
  · intro other hother
    change other ∈ (store.requests.insert row).rows at hother
    rw [hrows, List.mem_cons] at hother
    rcases hother with rfl | hstored
    · exact Or.inr (prepareWorkRequest_status hprepared)
    · exact Or.inl hstored
  · intro other hother
    change other ∈ (store.requests.insert row).rows
    rw [hrows]
    exact List.mem_cons_of_mem _ hother

/-- An update that asks for the status. -/
def UpdateWorkRequestArguments.Converts (arguments : UpdateWorkRequestArguments)
    (requestId : String) : Prop :=
  arguments.workRequestId = requestId ∧
    ∃ status, arguments.status = some status ∧
      coerceWorkRequestStatus (some status) = .ok .converted

theorem requireWorkRequest_mem {organization requestId : String} {row : WorkRequest}
    (h : requireWorkRequest store organization requestId = .ok row) :
    row ∈ store.requests.rows ∧ row.id = requestId := by
  obtain ⟨hfound, -⟩ := Option.filter_eq_some_iff.mp (require_eq_ok.mp h)
  exact store.requests.get?_eq_some hfound

theorem changeRequestStatus_eq_ok {row changed : WorkRequest}
    {status : Option (Choice WorkRequestStatus)}
    (h : changeRequestStatus services row status = .ok changed) :
    changed.id = row.id ∧ ((status = none ∧ changed.status = row.status) ∨
      ∃ given, status = some given ∧ coerceWorkRequestStatus (some given) = .ok changed.status ∧
        changed.status ∈ workRequestTransitions row.status) := by
  cases status with
  | none =>
      cases h
      exact ⟨rfl, Or.inl ⟨rfl, rfl⟩⟩
  | some given =>
      obtain ⟨newStatus, hstatus, h⟩ := bind_ok h
      obtain ⟨_, hallowed, h⟩ := bind_ok h
      have hkept : changed.id = row.id ∧ changed.status = newStatus := by
        cases h
        unfold triaged
        split
        · split <;> exact ⟨rfl, rfl⟩
        · exact ⟨rfl, rfl⟩
      refine ⟨hkept.1, Or.inr ⟨given, rfl, ?_⟩⟩
      rw [hkept.2]
      exact ⟨hstatus, ensure_eq_ok.mp hallowed⟩

/-- An update changes the status of its row as it is asked to, when the table of transitions
allows it. -/
theorem prepareUpdatedWorkRequest_eq_ok {arguments : UpdateWorkRequestArguments}
    {updated : WorkRequest}
    (h : prepareUpdatedWorkRequest services store arguments = .ok updated) :
    ∃ row ∈ store.requests.rows, row.id = arguments.workRequestId ∧ updated.id = row.id ∧
      (updated.status = row.status ∨
        (∃ given, arguments.status = some given ∧
          coerceWorkRequestStatus (some given) = .ok updated.status) ∧
            updated.status ∈ workRequestTransitions row.status) := by
  obtain ⟨_, -, h⟩ := bind_ok h
  obtain ⟨row, hrow, h⟩ := bind_ok h
  obtain ⟨_, -, h⟩ := bind_ok h
  obtain ⟨changed, hchanged, h⟩ := bind_ok h
  iterate 7 obtain ⟨_, -, h⟩ := bind_ok h
  obtain rfl := Except.ok.inj h
  iterate 2 obtain ⟨_, -, hrow⟩ := bind_ok hrow
  obtain ⟨found, hfound, hrow⟩ := bind_ok hrow
  obtain ⟨_, -, hrow⟩ := bind_ok hrow
  obtain rfl := Except.ok.inj hrow
  obtain ⟨hmem, hid⟩ := requireWorkRequest_mem hfound
  obtain ⟨hchangedId, hstatus⟩ := changeRequestStatus_eq_ok hchanged
  refine ⟨found, hmem, hid, hchangedId, ?_⟩
  rcases hstatus with ⟨-, hsame⟩ | ⟨given, hgiven, hcoerced, hallowed⟩
  · exact Or.inl hsame
  · exact Or.inr ⟨⟨given, hgiven, hcoerced⟩, hallowed⟩

/-- Updating a row that keeps its id. -/
theorem converted_updateRequestRow {row updated : WorkRequest} (requestId : String)
    (hrow : row ∈ store.requests.rows) (hid : updated.id = row.id) :
    Converted (updateRequestRow updated store) requestId ↔
      if requestId = row.id then updated.status = .converted else Converted store requestId := by
  have hmem : ∀ other : WorkRequest, other ∈ (updateRequestRow updated store).requests.rows ↔
      (other = updated ∧ updated.id ∈ store.requests.ids) ∨
        (other ∈ store.requests.rows ∧ other.id ≠ updated.id) := fun _ => Table.mem_update_iff
  have hids : updated.id ∈ store.requests.ids := hid ▸ store.requests.mem_ids hrow
  unfold Converted
  by_cases hsame : requestId = row.id
  · rw [if_pos hsame]
    constructor
    · rintro ⟨other, hother, hotherId, hstatus⟩
      rcases (hmem other).mp hother with ⟨rfl, -⟩ | ⟨-, hne⟩
      · exact hstatus
      · exact absurd (hotherId.trans (hsame.trans hid.symm)) hne
    · intro hstatus
      exact ⟨updated, (hmem updated).mpr (Or.inl ⟨rfl, hids⟩), hid.trans hsame.symm, hstatus⟩
  · rw [if_neg hsame]
    constructor
    · rintro ⟨other, hother, rfl, hstatus⟩
      rcases (hmem other).mp hother with ⟨rfl, -⟩ | ⟨hstored, -⟩
      · exact absurd hid hsame
      · exact ⟨other, hstored, rfl, hstatus⟩
    · rintro ⟨other, hother, rfl, hstatus⟩
      exact ⟨other, (hmem other).mpr (Or.inr ⟨hother, fun h => hsame (h.trans hid)⟩), rfl, hstatus⟩

theorem ConversionStep.refl (store : MaintenanceStore) : ConversionStep byHand again store store :=
  (GenerationFrame.refl store).conversionStep

theorem not_createdFrom_of_ids {orderId requestId : String}
    (h : next.orders.ids = store.orders.ids) : ¬ CreatedFrom store next orderId requestId := by
  rintro ⟨row, hrow, rfl, hnew, -⟩
  exact hnew (h ▸ next.orders.mem_ids hrow)

/-- An update by hand converts a request only when it is asked to, and never takes it back. -/
theorem updateWorkRequest_step (services : MaintenanceServices)
    (arguments : UpdateWorkRequestArguments) (store : MaintenanceStore) :
    (updateWorkRequest services arguments).Settles store
      (fun _ => ConversionStep arguments.Converts again store)
      fun _ => ConversionStep arguments.Converts again store := by
  unfold updateWorkRequest
  rw [Program.settles_transact]
  refine ⟨fun updated hprepared => ⟨?_, fun _ _ => .refl store⟩, fun _ _ => .refl store⟩
  intro next hsaved
  cases hsaved
  obtain ⟨row, hrow, hgiven, hid, hstatus⟩ := prepareUpdatedWorkRequest_eq_ok hprepared
  have hconverted := fun requestId => converted_updateRequestRow requestId hrow hid
  refine ⟨?_, fun _ _ hcreated => absurd hcreated (not_createdFrom_of_ids rfl),
    fun _ _ _ hcreated => absurd hcreated (not_createdFrom_of_ids rfl),
    fun _ _ _ hcreated => absurd hcreated (not_createdFrom_of_ids rfl), ?_, fun _ _ _ => Or.inl⟩
  · intro requestId hstored
    rw [hconverted]
    split
    next hsame =>
      obtain ⟨other, hother, hotherId, hotherStatus⟩ := hstored
      obtain rfl : other = row :=
        store.requests.eq_of_key_eq hother hrow (hotherId.trans hsame)
      rcases hstatus with hkept | ⟨-, hallowed⟩
      · rw [hkept, hotherStatus]
      · rw [hotherStatus] at hallowed
        cases hallowed
    next => exact hstored
  · intro requestId hnext
    rw [hconverted] at hnext
    split at hnext
    next hsame =>
      rcases hstatus with hkept | ⟨⟨given, hasked, hcoerced⟩, -⟩
      · exact Or.inl ⟨row, hrow, hsame.symm, hkept ▸ hnext⟩
      · rw [hnext] at hcoerced
        exact Or.inr (Or.inr ⟨hgiven.symm.trans hsame.symm, given, hasked, hcoerced⟩)
    next => exact Or.inl hnext

/-! ## Orders -/

/-- The request that an order names as its source, and none for an order of another source. -/
structure IsSource (store : MaintenanceStore) (order : WorkOrder) (request : Option WorkRequest) :
    Prop where
  named : ∀ source ∈ request, source ∈ store.requests.rows ∧ order.sourceType = "WORK_REQUEST" ∧
    order.sourceId = some source.id
  other : request = none → order.sourceType ≠ "WORK_REQUEST"

theorem sourceRequest_eq_ok {organization siteId sourceType : String} {sourceId : Option String}
    {request : Option WorkRequest}
    (h : sourceRequest store organization siteId sourceType sourceId = .ok request) :
    (∀ source ∈ request, source ∈ store.requests.rows ∧ sourceType = "WORK_REQUEST" ∧
      sourceId = some source.id) ∧ (request = none → sourceType ≠ "WORK_REQUEST") := by
  unfold sourceRequest at h
  split at h
  next htype =>
    obtain ⟨requestId, hgiven, h⟩ := bind_ok h
    obtain ⟨found, hfound, h⟩ := bind_ok h
    obtain ⟨_, -, h⟩ := bind_ok h
    cases h
    obtain ⟨hmem, hid⟩ := requireWorkRequest_mem hfound
    obtain ⟨hsource, -⟩ := Option.filter_eq_some_iff.mp (require_eq_ok.mp hgiven)
    refine ⟨?_, (nomatch ·)⟩
    rintro source hsame
    cases hsame
    exact ⟨hmem, htype, hid ▸ hsource⟩
  next htype =>
    cases h
    exact ⟨fun _ hnone => (nomatch hnone), fun _ => htype⟩

theorem prepareWorkOrder_isSource {arguments : CreateWorkOrderArguments} {order : WorkOrder}
    {request : Option WorkRequest}
    (h : prepareWorkOrder services store arguments = .ok (order, request)) :
    IsSource store order request := by
  iterate 7 obtain ⟨_, -, h⟩ := bind_ok h
  obtain ⟨source, hsource, h⟩ := bind_ok h
  iterate 2 obtain ⟨_, -, h⟩ := bind_ok h
  obtain ⟨rfl, rfl⟩ := Prod.mk.inj (Except.ok.inj h)
  obtain ⟨hnamed, hother⟩ := sourceRequest_eq_ok hsource
  exact ⟨hnamed, hother⟩

/-- The order is saved with the conversion of its request; instances are linked to it only when
they were generated through the request. -/
structure OrderMade (store : MaintenanceStore) (order : WorkOrder) (request : Option WorkRequest)
    (next : MaintenanceStore) : Prop where
  new : order.id ∉ store.orders.ids
  orders : next.orders.rows = order :: store.orders.rows
  converts : ∀ source ∈ request, Converted next source.id
  requests : ∀ requestId, (∀ source ∈ request, requestId ≠ source.id) →
    (Converted next requestId ↔ Converted store requestId)
  linked : ∀ instanceId requestId orderId, LinkedTo next instanceId requestId orderId →
    LinkedTo store instanceId requestId orderId ∨
      orderId = order.id ∧ ∃ source ∈ request, requestId = source.id

variable {order : WorkOrder} {request : Option WorkRequest}

theorem convertSourceRequest_eq_ok {source : WorkRequest}
    (hsource : source ∈ store.requests.rows)
    (h : convertSourceRequest services store source = .ok next) :
    next = { store with requests := next.requests } ∧ Converted next source.id ∧
      ∀ requestId, requestId ≠ source.id →
        (Converted next requestId ↔ Converted store requestId) := by
  unfold convertSourceRequest at h
  split at h
  · cases h
  · split at h
    next hconverted =>
      cases h
      exact ⟨rfl, ⟨source, hsource, rfl, hconverted⟩, fun _ _ => Iff.rfl⟩
    next =>
      cases h
      have hid : ∀ row : WorkRequest, (triaged services row).id = row.id ∧
          (triaged services row).status = row.status := by
        intro row
        unfold triaged
        split <;> exact ⟨rfl, rfl⟩
      obtain ⟨hkept, hstatus⟩ := hid { source with status := .converted }
      have hconverted := fun requestId => @converted_updateRequestRow _ source
        { triaged services { source with status := .converted } with
          version := source.version + 1 } requestId hsource hkept
      refine ⟨rfl, ?_, ?_⟩
      · rw [hconverted, if_pos rfl]
        exact hstatus
      · intro requestId hne
        rw [hconverted, if_neg hne]

theorem insertWorkOrder_orderMade (hsource : IsSource store order request)
    (h : insertWorkOrder services store order request = .ok next) :
    OrderMade store order request next := by
  obtain ⟨converted, hconverted, h⟩ := bind_ok h
  obtain ⟨_, hsave, h⟩ := bind_ok h
  cases h
  have hnew := (save_eq_ok.mp hsave).1
  cases request with
  | none =>
      cases hconverted
      exact ⟨hnew, Table.rows_insert hnew, fun _ hnone => (nomatch hnone), fun _ _ => Iff.rfl,
        fun _ _ _ => Or.inl⟩
  | some source =>
      obtain ⟨hframe, hdone, hothers⟩ :=
        convertSourceRequest_eq_ok (hsource.named source rfl).1 hconverted
      have horders : converted.orders = store.orders := by rw [hframe]
      have hinstances : converted.instances = store.instances := by rw [hframe]
      refine ⟨hnew, ?_, ?_, ?_, ?_⟩
      · change (converted.orders.insert order).rows = _
        rw [horders]
        exact Table.rows_insert hnew
      · rintro _ hsame
        cases hsame
        exact hdone
      · exact fun requestId hne => hothers requestId (hne source rfl)
      · rintro instanceId requestId orderId ⟨row, hrow, hlinks⟩
        exact Or.inl ⟨row, hinstances ▸ hrow, hlinks⟩

theorem mem_linkInstance {instanceId workOrderId : String} {row : PreventivePlanInstance} :
    row ∈ (linkInstance store instanceId workOrderId).instances.rows ↔
      (∃ old ∈ store.instances.rows, old.id = instanceId ∧
        row = { old with generatedWorkOrderId := some workOrderId }) ∨
          row ∈ store.instances.rows ∧ row.id ≠ instanceId :=
  @UniqueTable.mem_modify _ _ _ _ _ _ store.instances instanceId
    (fun old => { old with generatedWorkOrderId := some workOrderId }) (fun _ => rfl)
    (fun _ => rfl) row

namespace OrderMade

/-- Filling the order with tasks changes nothing of this. -/
theorem packageFrame (h : OrderMade store order request middle) (hframe : PackageFrame middle next) :
    OrderMade store order request next := by
  rw [hframe]
  exact ⟨h.new, h.orders, h.converts, h.requests, h.linked⟩

theorem instanceLink {source : WorkRequest} (h : OrderMade store order (some source) middle)
    (organization : String) :
    OrderMade store order (some source)
      (syncPreventiveRequestInstanceLink middle organization source.id order.id) := by
  unfold syncPreventiveRequestInstanceLink
  split
  next row hrow =>
    have hfound : row ∈ middle.instances.rows ∧ row.generatedWorkRequestId = some source.id := by
      have hmem := List.mem_of_head? hrow
      rw [List.mem_insertionSort, List.mem_filter, decide_eq_true_eq] at hmem
      exact ⟨hmem.1, hmem.2.2⟩
    refine ⟨h.new, h.orders, h.converts, h.requests, ?_⟩
    rintro instanceId requestId orderId ⟨other, hother, hid, hrequest, horder⟩
    rcases mem_linkInstance.mp hother with ⟨old, hold, hsame, rfl⟩ | ⟨hmiddle, -⟩
    · obtain rfl := middle.instances.eq_of_key_eq hold hfound.1 hsame
      refine Or.inr ⟨(Option.some.inj horder).symm, source, rfl, ?_⟩
      exact Option.some.inj (hrequest.symm.trans hfound.2)
    · exact h.linked instanceId requestId orderId ⟨other, hmiddle, hid, hrequest, horder⟩
  next => exact h

theorem createdFrom_iff (hsource : IsSource store order request)
    (h : OrderMade store order request next) (orderId requestId : String) :
    CreatedFrom store next orderId requestId ↔
      orderId = order.id ∧ ∃ source ∈ request, requestId = source.id := by
  constructor
  · rintro ⟨row, hrow, rfl, hnew, htype, hnamed⟩
    rw [h.orders, List.mem_cons] at hrow
    rcases hrow with rfl | hstored
    · refine ⟨rfl, ?_⟩
      cases request with
      | none => exact absurd htype (hsource.other rfl)
      | some source =>
          have hid := (hsource.named source rfl).2.2
          exact ⟨source, rfl, Option.some.inj (hnamed.symm.trans hid)⟩
    · exact absurd (store.orders.mem_ids hstored) hnew
  · rintro ⟨rfl, source, hsome, rfl⟩
    obtain ⟨-, htype, hnamed⟩ := hsource.named source hsome
    refine ⟨order, ?_, rfl, h.new, htype, hnamed⟩
    rw [h.orders]
    exact List.mem_cons_self

theorem conversionStep (hsource : IsSource store order request)
    (hfresh : ¬ again → ∀ source ∈ request, source.status ≠ .converted)
    (h : OrderMade store order request next) : ConversionStep byHand again store next := by
  have hcreated := h.createdFrom_iff hsource
  have hcase : ∀ requestId, (∃ source ∈ request, requestId = source.id) ∨
      ∀ source ∈ request, requestId ≠ source.id := by
    intro requestId
    by_cases hnamed : ∃ source ∈ request, requestId = source.id
    · exact Or.inl hnamed
    · exact Or.inr fun source hsome hsame => hnamed ⟨source, hsome, hsame⟩
  refine ⟨?_, ?_, fun requestId first second hfirst hsecond =>
    ((hcreated _ _).mp hfirst).1.trans ((hcreated _ _).mp hsecond).1.symm, ?_, ?_, ?_⟩
  · intro requestId hconverted
    rcases hcase requestId with ⟨source, hsome, rfl⟩ | hother
    · exact h.converts source hsome
    · exact (h.requests requestId hother).mpr hconverted
  · intro orderId requestId hfrom
    obtain ⟨-, source, hsome, rfl⟩ := (hcreated _ _).mp hfrom
    exact h.converts source hsome
  · rintro hagain orderId requestId hfrom ⟨row, hrow, hid, hstatus⟩
    obtain ⟨-, source, hsome, rfl⟩ := (hcreated _ _).mp hfrom
    obtain rfl := store.requests.eq_of_key_eq hrow (hsource.named source hsome).1 hid
    exact hfresh hagain row hsome hstatus
  · intro requestId hconverted
    rcases hcase requestId with hnamed | hother
    · exact Or.inr (Or.inl ⟨order.id, (hcreated _ _).mpr ⟨rfl, hnamed⟩⟩)
    · exact Or.inl ((h.requests requestId hother).mp hconverted)
  · intro instanceId requestId orderId hlinked
    exact (h.linked instanceId requestId orderId hlinked).imp_right (hcreated _ _).mpr

end OrderMade

/-- The first instance that was generated through the request of an order is linked to it, when the
request was made for a plan that is there. -/
def LinksInstance (store : MaintenanceStore) (order : WorkOrder) (request : Option WorkRequest)
    (next : MaintenanceStore) : Prop :=
  ∀ source ∈ request, (planOfRequest store order.organizationId source).isSome = true →
    ∀ row ∈ instanceOfRequest store order.organizationId source.id,
      { row with generatedWorkOrderId := some order.id } ∈ next.instances.rows

theorem insertWorkOrder_frame (hsource : IsSource store order request)
    (h : insertWorkOrder services store order request = .ok next) :
    next = { store with orders := next.orders, requests := next.requests } := by
  obtain ⟨converted, hconverted, h⟩ := bind_ok h
  obtain ⟨_, -, h⟩ := bind_ok h
  cases h
  cases request with
  | none =>
      cases hconverted
      rfl
  | some source =>
      rw [(convertSourceRequest_eq_ok (hsource.named source rfl).1 hconverted).1]

theorem applyPlanPackage_settles {source : WorkRequest} {package : PackageIds}
    (h : OrderMade store order (some source) middle) :
    (applyPlanPackage services order source package plan).Settles middle
      (fun _ next => OrderMade store order (some source) next ∧
        ∀ row ∈ instanceOfRequest middle order.organizationId source.id,
          { row with generatedWorkOrderId := some order.id } ∈ next.instances.rows)
      fun _ next => OrderMade store order (some source) next := by
  apply Program.Settles.bind
  rw [Program.settles_read]
  apply Program.Settles.bind
  refine populateWorkOrder_frame.mono ?_ fun _ _ hframe => h.packageFrame hframe
  intro _ filled hframe
  have hfilled := h.packageFrame hframe
  refine Program.settles_save_of_ok rfl ⟨hfilled.instanceLink _, ?_⟩
  intro row hrow
  have hsame : instanceOfRequest filled order.organizationId source.id = some row := by
    rw [hframe]
    exact hrow
  unfold syncPreventiveRequestInstanceLink
  rw [hsame]
  refine mem_linkInstance.mpr (Or.inl ⟨row, ?_, rfl, rfl⟩)
  have hmem := List.mem_of_head? hsame
  rw [List.mem_insertionSort, List.mem_filter] at hmem
  exact hmem.1

/-- What a call that stores an order has prepared, and what it stores. -/
structure OrderStored (services : MaintenanceServices) (arguments : CreateWorkOrderArguments)
    (store : MaintenanceStore) (order : WorkOrder) (request : Option WorkRequest)
    (next : MaintenanceStore) : Prop where
  prepared : prepareWorkOrder services store arguments = .ok (order, request)
  source : IsSource store order request
  made : OrderMade store order request next

/-- An order is created with its request, and it may be left there without its tasks. -/
theorem createWorkOrder_made (services : MaintenanceServices) (arguments : CreateWorkOrderArguments)
    (store : MaintenanceStore) :
    (createWorkOrder services arguments).Settles store
      (fun order next => ∃ request, OrderStored services arguments store order request next ∧
        LinksInstance store order request next)
      fun _ next => next = store ∨
        ∃ order request, OrderStored services arguments store order request next := by
  apply Program.Settles.bind
  rw [Program.settles_transact]
  refine ⟨?_, fun _ _ => Or.inl rfl⟩
  rintro ⟨order, request⟩ hprepared
  have hsource := prepareWorkOrder_isSource hprepared
  refine ⟨?_, fun _ _ => Or.inl rfl⟩
  intro middle hinserted
  have hmade := insertWorkOrder_orderMade hsource hinserted
  have hframe := insertWorkOrder_frame hsource hinserted
  unfold applyRequestSourceWorkPackage
  apply Program.Settles.bind
  apply Program.Settles.bind
  rw [Program.settles_read]
  cases request with
  | none =>
      refine Program.settles_pure.mpr (Program.settles_pure.mpr
        ⟨none, ⟨hprepared, hsource, hmade⟩, ?_⟩)
      exact fun _ hnone => (nomatch hnone)
  | some source =>
      have hplanned : planOfRequest middle order.organizationId source =
          planOfRequest store order.organizationId source := by
        rw [hframe]
        rfl
      have hinstance : instanceOfRequest middle order.organizationId source.id =
          instanceOfRequest store order.organizationId source.id := by
        rw [hframe]
        rfl
      rw [Option.bind_some, hplanned]
      cases hplan : planOfRequest store order.organizationId source with
      | none =>
          refine Program.settles_pure.mpr
            (Program.settles_pure.mpr ⟨some source, ⟨hprepared, hsource, hmade⟩, ?_⟩)
          rintro _ hsame hsome
          cases hsame
          rw [hplan] at hsome
          cases hsome
      | some plan =>
          refine (applyPlanPackage_settles hmade).mono ?_ ?_
          · rintro _ next ⟨hnext, hlinks⟩
            refine Program.settles_pure.mpr ⟨some source, ⟨hprepared, hsource, hnext⟩, ?_⟩
            rintro _ hsame -
            cases hsame
            rw [hinstance] at hlinks
            exact hlinks
          · exact fun _ next hnext => Or.inr ⟨order, some source, hprepared, hsource, hnext⟩

/-! ## Updates of orders -/

theorem linkedTo_completeInstance {instanceId requestId orderId completed : String}
    {completedAt : Moment}
    (h : LinkedTo (completeInstance store completed completedAt) instanceId requestId orderId) :
    LinkedTo store instanceId requestId orderId := by
  obtain ⟨row, hrow, hid, hrequest, horder⟩ := h
  change row ∈ store.instances.rows.map _ at hrow
  obtain ⟨old, hold, rfl⟩ := List.mem_map.mp hrow
  refine ⟨old, hold, ?_⟩
  by_cases hsame : old.id = completed
  · rw [if_pos hsame] at hid hrequest horder
    exact ⟨hid, hrequest, horder⟩
  · rw [if_neg hsame] at hid hrequest horder
    exact ⟨hid, hrequest, horder⟩

theorem linkedTo_floatPlan {instanceId requestId orderId organization : String}
    {completedAt : Moment}
    (h : LinkedTo (floatPlan store organization plan completedAt) instanceId requestId orderId) :
    LinkedTo store instanceId requestId orderId := by
  unfold floatPlan at h
  split at h
  · obtain ⟨row, hrow, hlinks⟩ := h
    exact ⟨row, (Table.mem_filter.mp hrow).1, hlinks⟩
  · exact h

/-- Completing an order changes neither requests nor orders nor links. -/
theorem applyPreventiveCompletion_frame (services : MaintenanceServices) (store : MaintenanceStore)
    (organization : String) (order : WorkOrder) :
    let completed := applyPreventiveCompletion services store organization order
    (completed.requests = store.requests ∧ completed.orders = store.orders) ∧
      ∀ instanceId requestId orderId, LinkedTo completed instanceId requestId orderId →
        LinkedTo store instanceId requestId orderId := by
  intro completed
  have hcompleted : completed = applyPreventiveCompletion services store organization order := rfl
  unfold applyPreventiveCompletion at hcompleted
  split at hcompleted
  · rw [hcompleted]
    exact ⟨⟨rfl, rfl⟩, fun _ _ _ => id⟩
  · split at hcompleted
    · rw [hcompleted]
      exact ⟨⟨rfl, rfl⟩, fun _ _ _ => id⟩
    · dsimp only at hcompleted
      split at hcompleted
      · rw [hcompleted]
        exact ⟨⟨rfl, rfl⟩, fun _ _ _ => linkedTo_completeInstance⟩
      next row _ _ plan _ =>
        rw [hcompleted]
        refine ⟨?_, fun _ _ _ h => linkedTo_completeInstance (linkedTo_floatPlan h)⟩
        unfold floatPlan
        split <;> exact ⟨rfl, rfl⟩

theorem updateWorkOrder_step (services : MaintenanceServices) (arguments : UpdateWorkOrderArguments)
    (store : MaintenanceStore) :
    (updateWorkOrder services arguments).Settles store
      (fun _ => ConversionStep byHand again store) fun _ => ConversionStep byHand again store := by
  unfold updateWorkOrder
  rw [Program.settles_transact]
  refine ⟨fun rows _ => ⟨?_, fun _ _ => .refl store⟩, fun _ _ => .refl store⟩
  intro next hsaved
  cases hsaved
  have hframe : ((saveUpdatedWorkOrder services store rows.1 rows.2).requests = store.requests ∧
      (saveUpdatedWorkOrder services store rows.1 rows.2).orders =
        store.orders.update rows.2) ∧ ∀ instanceId requestId orderId,
      LinkedTo (saveUpdatedWorkOrder services store rows.1 rows.2) instanceId requestId orderId →
        LinkedTo store instanceId requestId orderId := by
    obtain ⟨⟨hrequests, horders⟩, hlinked⟩ :=
      applyPreventiveCompletion_frame services store rows.2.organizationId rows.2
    unfold saveUpdatedWorkOrder
    split
    · exact ⟨⟨hrequests, by dsimp only; rw [horders]⟩, hlinked⟩
    · exact ⟨⟨rfl, rfl⟩, fun _ _ _ => id⟩
  obtain ⟨⟨hrequests, horders⟩, hlinked⟩ := hframe
  have hconverted : ∀ requestId, Converted
      (saveUpdatedWorkOrder services store rows.1 rows.2) requestId ↔ Converted store requestId := by
    intro requestId
    unfold Converted
    rw [hrequests]
  have hids : (saveUpdatedWorkOrder services store rows.1 rows.2).orders.ids = store.orders.ids := by
    rw [horders, Table.ids_update]
  exact ⟨fun requestId => (hconverted requestId).mpr,
    fun _ _ hcreated => absurd hcreated (not_createdFrom_of_ids hids),
    fun _ _ _ hcreated => absurd hcreated (not_createdFrom_of_ids hids),
    fun _ _ _ hcreated => absurd hcreated (not_createdFrom_of_ids hids),
    fun requestId h => Or.inl ((hconverted requestId).mp h),
    fun _ _ _ h => Or.inl (hlinked _ _ _ h)⟩

end ProjectManager.Maintenance
