import ProjectManager.Maintenance.Conversion

/-! # Converted requests over runs

In every run of calls on requests, on orders and of the generation, a request from which an
order was created is converted for good, and it is converted only by such an order or by
hand. An instance that was generated through a request is linked to no other orders. As long
as no order is asked for from a converted request, one order at most comes from each.
-/

namespace ProjectManager.Maintenance

open Foundation

inductive WorkCall
  | createRequest (services : MaintenanceServices) (arguments : CreateWorkRequestArguments)
  | updateRequest (services : MaintenanceServices) (arguments : UpdateWorkRequestArguments)
  | createOrder (services : MaintenanceServices) (arguments : CreateWorkOrderArguments)
  | updateOrder (services : MaintenanceServices) (arguments : UpdateWorkOrderArguments)
  | generate (call : GenerationCall)

namespace WorkCall

def run : WorkCall → Session MaintenanceStore → Outcome DomainError MaintenanceStore
  | .createRequest services arguments => (createWorkRequest services arguments).outcome
  | .updateRequest services arguments => (updateWorkRequest services arguments).outcome
  | .createOrder services arguments => (createWorkOrder services arguments).outcome
  | .updateOrder services arguments => (updateWorkOrder services arguments).outcome
  | .generate call => call.run

/-- The call asks for the status of the request. -/
def ByHand : WorkCall → String → Prop
  | .updateRequest _ arguments, requestId => arguments.Converts requestId
  | _, _ => False

/-- The call asks for an order from a request that is converted already. -/
def ConvertsAgain (store : MaintenanceStore) : WorkCall → Prop
  | .createOrder services arguments => ∃ order source,
      prepareWorkOrder services store arguments = .ok (order, some source) ∧
        source.status = .converted
  | _ => False

/-- An order that is created from the request of a plan is linked to the first instance that was
generated through the request. -/
def LinksOrder (store : MaintenanceStore) : WorkCall → Prop
  | .createOrder services arguments =>
      ∀ order next, createWorkOrder services arguments (.clean store) = (.ok order, next) →
        ∀ source ∈ store.requests.rows, order.sourceType = "WORK_REQUEST" →
          order.sourceId = some source.id → LinksInstance store order (some source) next.pending
  | _ => True

end WorkCall

def CreatedInRun : Session MaintenanceStore → List WorkCall → String → String → Prop
  | _, [], _, _ => False
  | session, call :: rest, orderId, requestId =>
      CreatedFrom session.pending (call.run session).2.pending orderId requestId ∨
        CreatedInRun (call.run session).2 rest orderId requestId

structure ConversionRun (start : MaintenanceStore) (calls : List WorkCall)
    (last : MaintenanceStore) : Prop where
  kept : ∀ requestId, Converted start requestId → Converted last requestId
  created : ∀ orderId requestId, CreatedInRun (.clean start) calls orderId requestId →
    Converted last requestId
  converted : ∀ requestId, Converted last requestId → Converted start requestId ∨
    (∃ orderId, CreatedInRun (.clean start) calls orderId requestId) ∨
      ∃ call ∈ calls, call.ByHand requestId
  linked : ∀ instanceId requestId orderId, LinkedTo last instanceId requestId orderId →
    LinkedTo start instanceId requestId orderId ∨
      CreatedInRun (.clean start) calls orderId requestId
  once : EachCall WorkCall.run (fun session call => ¬ call.ConvertsAgain session.pending)
      (.clean start) calls → ∀ requestId first second,
    CreatedInRun (.clean start) calls first requestId →
      CreatedInRun (.clean start) calls second requestId →
        first = second ∧ ¬ Converted start requestId

theorem WorkCall.step (call : WorkCall) (store : MaintenanceStore) :
    ∃ last, (call.run (.clean store)).2 = .clean last ∧
      ConversionStep call.ByHand (call.ConvertsAgain store) store last := by
  cases call with
  | createRequest services arguments =>
      obtain ⟨last, hlast, hframe⟩ :=
        (createWorkRequest_generationFrame services arguments store).outcome
      exact ⟨last, hlast, hframe.conversionStep⟩
  | updateRequest services arguments =>
      exact (updateWorkRequest_step services arguments store).outcome
  | createOrder services arguments =>
      apply Program.Settles.outcome
      have hfresh {order request} (h : prepareWorkOrder services store arguments = .ok
          (order, request)) (hagain : ¬ (createOrder services arguments).ConvertsAgain store)
          (source) (hsome : source ∈ request) : source.status ≠ .converted := by
        obtain rfl := Option.mem_def.mp hsome
        exact fun hconverted => hagain ⟨order, source, h, hconverted⟩
      refine (createWorkOrder_made services arguments store).mono ?_ ?_
      · rintro order next ⟨request, hstored, -⟩
        exact hstored.made.conversionStep hstored.source (hfresh hstored.prepared)
      · rintro e next (rfl | ⟨order, request, hstored⟩)
        · exact .refl next
        · exact hstored.made.conversionStep hstored.source (hfresh hstored.prepared)
  | updateOrder services arguments =>
      exact (updateWorkOrder_step services arguments store).outcome
  | generate call =>
      obtain ⟨last, hlast, hframe⟩ := (call.generationFrame store).outcome
      exact ⟨last, hlast, hframe.conversionStep⟩

theorem WorkCall.linksOrder (call : WorkCall) (store : MaintenanceStore) : call.LinksOrder store := by
  cases call with
  | createOrder services arguments =>
      intro order next hrun source hsource htype hnamed
      rcases (createWorkOrder_made services arguments store).cases with
        ⟨made, last, hmade, request, ⟨-, hrequest, -⟩, hlinks⟩ | ⟨e, last, hraised, -⟩
      · obtain ⟨hok, rfl⟩ := Prod.mk.inj (hmade.symm.trans hrun)
        obtain rfl := Except.ok.inj hok
        cases request with
        | none => exact absurd htype (hrequest.other rfl)
        | some found =>
            obtain ⟨hstored, -, hfound⟩ := hrequest.named found rfl
            obtain rfl : found = source := store.requests.eq_of_key_eq hstored hsource
              (Option.some.inj (hfound.symm.trans hnamed))
            exact hlinks
      · rw [hraised] at hrun
        cases hrun
  | createRequest | updateRequest | updateOrder | generate => trivial

/-! ## Runs -/

theorem conversionRun_cons {call : WorkCall} {rest : List WorkCall}
    {start middle last : MaintenanceStore} (hcall : (call.run (.clean start)).2 = .clean middle)
    (hstep : ConversionStep call.ByHand (call.ConvertsAgain start) start middle) (hrest : ConversionRun middle rest last) :
    ConversionRun start (call :: rest) last := by
  have hcreated : ∀ orderId requestId,
      CreatedInRun (.clean start) (call :: rest) orderId requestId ↔
        CreatedFrom start middle orderId requestId ∨
          CreatedInRun (.clean middle) rest orderId requestId := by
    intro orderId requestId
    rw [CreatedInRun, hcall, Session.clean_pending, Session.clean_pending]
  refine ⟨fun requestId h => hrest.kept requestId (hstep.kept requestId h), ?_, ?_, ?_, ?_⟩
  · intro orderId requestId h
    rcases (hcreated orderId requestId).mp h with hfirst | hlater
    · exact hrest.kept requestId (hstep.created orderId requestId hfirst)
    · exact hrest.created orderId requestId hlater
  · intro requestId h
    rcases hrest.converted requestId h with hmiddle | ⟨orderId, hlater⟩ | ⟨other, hmem, hhand⟩
    · rcases hstep.converted requestId hmiddle with hstart | ⟨orderId, hfirst⟩ | hhand
      · exact Or.inl hstart
      · exact Or.inr (Or.inl ⟨orderId, (hcreated orderId requestId).mpr (Or.inl hfirst)⟩)
      · exact Or.inr (Or.inr ⟨call, List.mem_cons_self, hhand⟩)
    · exact Or.inr (Or.inl ⟨orderId, (hcreated orderId requestId).mpr (Or.inr hlater)⟩)
    · exact Or.inr (Or.inr ⟨other, List.mem_cons_of_mem _ hmem, hhand⟩)
  · intro instanceId requestId orderId h
    rcases hrest.linked instanceId requestId orderId h with hmiddle | hlater
    · exact (hstep.linked instanceId requestId orderId hmiddle).imp_right fun hfirst =>
        (hcreated orderId requestId).mpr (Or.inl hfirst)
    · exact Or.inr ((hcreated orderId requestId).mpr (Or.inr hlater))
  · intro heach requestId first second hfirst hsecond
    obtain ⟨hagain, heach⟩ := heach
    rw [hcall] at heach
    rw [Session.clean_pending] at hagain
    rcases (hcreated _ _).mp hfirst with hfirst | hfirst
    · refine ⟨?_, hstep.fresh hagain _ _ hfirst⟩
      rcases (hcreated _ _).mp hsecond with hsecond | hsecond
      · exact hstep.once _ _ _ hfirst hsecond
      · exact absurd (hstep.created _ _ hfirst) (hrest.once heach _ _ _ hsecond hsecond).2
    · have hlater := (hrest.once heach _ _ _ hfirst hfirst).2
      refine ⟨?_, fun hstart => hlater (hstep.kept _ hstart)⟩
      rcases (hcreated _ _).mp hsecond with hsecond | hsecond
      · exact absurd (hstep.created _ _ hsecond) hlater
      · exact (hrest.once heach _ _ _ hfirst hsecond).1

/-- The requests, orders and links of every run. -/
theorem workCalls_convert (calls : List WorkCall) (start : MaintenanceStore) :
    (∃ last, sessionAfter WorkCall.run (.clean start) calls = .clean last ∧
      ConversionRun start calls last) ∧
    EachCall WorkCall.run
      (fun session call => ∃ store, session = .clean store ∧ call.LinksOrder store)
      (.clean start) calls := by
  induction calls generalizing start with
  | nil =>
      refine ⟨⟨start, rfl, fun _ => id, ?_, fun _ => Or.inl, fun _ _ _ => Or.inl, ?_⟩, trivial⟩
      · exact fun _ _ hnone => hnone.elim
      · exact fun _ _ _ _ hnone => hnone.elim
  | cons call rest ih =>
      obtain ⟨middle, hcall, hstep⟩ := call.step start
      obtain ⟨⟨last, hlast, hrun⟩, hlinks⟩ := ih middle
      refine ⟨⟨last, ?_, conversionRun_cons hcall hstep hrun⟩,
        ⟨⟨start, rfl, call.linksOrder start⟩, ?_⟩⟩
      · unfold sessionAfter at hlast ⊢
        rw [List.foldl_cons, hcall, hlast]
      · rw [hcall]
        exact hlinks

/-- A request may be converted without an order. -/
theorem convertedByHand_pumpYard :
    let last := (sessionAfter WorkCall.run (.clean (pumpYard 1))
      [.createRequest maintenanceAdmin
        { siteId := "yard", workRequestCode := "WR1", sourceType := none, requestType := "repair"
          requestId := "request1" },
      .updateRequest maintenanceAdmin
        { workRequestId := "request1", status := some (.member .converted) }]).pending
    (∃ row ∈ last.requests.rows, row.id = "request1" ∧ row.status = .converted) ∧
      ¬ ∃ order ∈ last.orders.rows,
        order.sourceType = "WORK_REQUEST" ∧ order.sourceId = some "request1" := by
  decide +kernel

end ProjectManager.Maintenance
