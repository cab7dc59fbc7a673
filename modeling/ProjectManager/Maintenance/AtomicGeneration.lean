import ProjectManager.Maintenance.Links
import ProjectManager.Maintenance.OtherPlans

/-! # All or nothing

The turn of a plan commits several times. It is all or nothing when, once its work is
accepted, nothing after that can be refused, and when a plan whose work is not
accepted was in step with its schedule. A call whose turns all fit leaves behind
exactly its completed turns.
-/

namespace ProjectManager.Maintenance

open Foundation

/-- What the turn of a plan needs, to be all or nothing. -/
def TurnFits (services : MaintenanceServices) (store : MaintenanceStore) (plan : PreventivePlan)
    (asOf : Moment) (ids : TurnIds) : Prop :=
  GeneratesWork store plan asOf →
    (¬ WorkAllowed services store plan.organizationId plan ids →
      plan.usesCalendarInstances → InStep store plan asOf) ∧
    (WorkAllowed services store plan.organizationId plan ids →
      (plan.autoGenerateWorkOrder = true →
        PackageFits services store plan.organizationId ids.package (dueTasks store plan asOf)
          ids.workId) ∧
      (plan.CounterEnds store ∧
        ∀ planTask ∈ dueTasks store plan asOf, planTask.CounterEnds store) ∧
      ReplanFits store plan asOf ids)

instance (services : MaintenanceServices) (store : MaintenanceStore) (plan : PreventivePlan)
    (asOf : Moment) (ids : TurnIds) : Decidable (TurnFits services store plan asOf ids) :=
  inferInstanceAs (Decidable (_ → (_ → _ → _) ∧ (_ → (_ → _) ∧ (_ ∧ ∀ _ ∈ _, _) ∧ _)))

structure GenerationCall where
  services : MaintenanceServices
  arguments : GenerationArguments
  ids : String → TurnIds

namespace GenerationCall

variable (call : GenerationCall)

def run : Session MaintenanceStore → Outcome DomainError MaintenanceStore :=
  (generateDueWork call.services call.arguments call.ids).outcome

/-- The plans that have their turn, unless the call is refused. -/
def plans (store : MaintenanceStore) : List PreventivePlan :=
  match plansOfCall call.services store call.arguments "generate maintenance preventive work" with
  | .ok (_, plans) => plans
  | .error _ => []

def turn (plan : PreventivePlan) : MaintenanceProgram GenerationResult :=
  planTurn call.services plan.organizationId call.arguments.asOf plan (call.ids plan.id)

/-- The condition holds at every turn that begins, of the store that it begins with. -/
def EachTurn (condition : MaintenanceStore → PreventivePlan → Prop) :
    List PreventivePlan → MaintenanceStore → Prop
  | [], _ => True
  | plan :: rest, store =>
      condition store plan ∧
        match call.turn plan (.clean store) with
        | (.ok _, next) => EachTurn condition rest next.pending
        | (.error _, _) => True

instance decidableEachTurn {condition : MaintenanceStore → PreventivePlan → Prop}
    [∀ store plan, Decidable (condition store plan)] :
    (plans : List PreventivePlan) → (store : MaintenanceStore) →
      Decidable (call.EachTurn condition plans store)
  | [], _ => isTrue trivial
  | plan :: rest, store =>
      @instDecidableAnd _ _ inferInstance
        (match call.turn plan (.clean store) with
        | (.ok _, next) => decidableEachTurn rest next.pending
        | (.error _, _) => isTrue trivial)

def Fits (store : MaintenanceStore) : Prop :=
  call.EachTurn
    (fun current plan => TurnFits call.services current plan call.arguments.asOf (call.ids plan.id))
    (call.plans store) store

instance (store : MaintenanceStore) : Decidable (call.Fits store) :=
  inferInstanceAs (Decidable (call.EachTurn _ _ _))

/-- A turn that returned, and what it did. -/
def Completed (plan : PreventivePlan) (store next : MaintenanceStore) : Prop :=
  (∃ result, call.turn plan (.clean store) = (.ok result, .clean next)) ∧
    TurnReturns call.services store plan call.arguments.asOf (call.ids plan.id) next

/-- The plan, its instances and the work are there as before, but for the work of others. -/
structure LeavesAlone (done : List PreventivePlan) (store last : MaintenanceStore)
    (plan : PreventivePlan) : Prop where
  stored : plan ∈ last.plans.rows
  instances : ∀ row : PreventivePlanInstance, row.IsOf plan →
    (row ∈ last.instances.rows ↔ row ∈ store.instances.rows)
  orders : ∀ id ∈ last.orders.ids, id ∈ store.orders.ids ∨
    ∃ other ∈ done, orderLink other (call.ids other.id) = some id
  requests : ∀ id ∈ last.requests.ids, id ∈ store.requests.ids ∨
    ∃ other ∈ done, requestLink other (call.ids other.id) = some id

/-- A call leaves behind its completed turns and nothing else. When it raises, it does not touch
the plan that failed, nor those after it, and a retry for one of them makes the turn that is
missing. A call for one plan changes nothing then, so that any retry is as good as a first
call. -/
def AllOrNothing (store : MaintenanceStore) : Prop :=
  ∃ done rest last, call.plans store = done ++ rest ∧
    Program.Through call.Completed store done last ∧
    (call.run (.clean store)).2 = .clean last ∧
    ((call.run (.clean store)).1 = none → rest = []) ∧
    (∀ plan ∈ rest, call.LeavesAlone done store last plan ∧
      ∀ again : GenerationCall, again.plans last = [plan] → (again.run (.clean last)).1 = none →
        ∃ final, (again.run (.clean last)).2 = .clean final ∧ again.Completed plan last final) ∧
    ((call.run (.clean store)).1 ≠ none → (call.plans store).length ≤ 1 →
      ∀ again : GenerationCall, again.run (call.run (.clean store)).2 = again.run (.clean store))

end GenerationCall

variable {services : MaintenanceServices} {store next last : MaintenanceStore}
  {plan : PreventivePlan} {ids : TurnIds} {asOf : Moment}

theorem TurnRaises.eq_of_fits (hstored : plan ∈ store.plans.rows)
    (hfits : TurnFits services store plan asOf ids)
    (h : TurnRaises services store plan asOf ids next) : next = store := by
  cases h with
  | refused => rfl
  | denied hsynced hgenerates hdenied =>
      exact (hsynced.eq_of_inStep hstored ((hfits hgenerates).1 hdenied)).2
  | incomplete hsynced hgenerates hallowed hmade hunfit =>
      obtain ⟨hpackage, ⟨hcounter, -⟩, -⟩ := (hfits hgenerates).2 hallowed
      exact hunfit.elim (absurd hpackage) (absurd hcounter)
  | unplanned hsynced hgenerates hallowed hsaved hdue hrefused =>
      obtain ⟨-, -, hreplan⟩ := (hfits hgenerates).2 hallowed
      obtain ⟨given, row, rest, -, hdueSaved⟩ := hsaved.exists_dueSaved hsynced hdue
      obtain ⟨replanned, hreplanned⟩ := hdueSaved.exists_replanned hreplan
      obtain ⟨e, he⟩ := hrefused
      rw [hreplanned] at he
      cases he
  | uncounted hsynced hgenerates hallowed hsaved hreplanned htasks hmem hends =>
      obtain ⟨-, ⟨-, hcounters⟩, -⟩ := (hfits hgenerates).2 hallowed
      exact absurd (hcounters _ hmem) hends

/-! ## Calls -/

namespace GenerationCall

variable {call : GenerationCall} {store : MaintenanceStore}

theorem plans_of_ok {organization : String} {plans : List PreventivePlan}
    (h : plansOfCall call.services store call.arguments "generate maintenance preventive work" =
      .ok (organization, plans)) : call.plans store = plans := by
  unfold GenerationCall.plans
  rw [h]

theorem plans_of_error {e : DomainError}
    (h : plansOfCall call.services store call.arguments "generate maintenance preventive work" =
      .error e) : call.plans store = [] := by
  unfold GenerationCall.plans
  rw [h]

theorem plansOfCall_eq_ok {services : MaintenanceServices} {arguments : GenerationArguments}
    {operationLabel organization : String} {plans : List PreventivePlan}
    (h : plansOfCall services store arguments operationLabel = .ok (organization, plans)) :
    Manages services organization ∧
      plans = listVisibleActivePlans services store organization arguments.siteId
        arguments.planId := by
  obtain ⟨_, hmanage, h⟩ := bind_ok h
  obtain ⟨active, hactive, h⟩ := bind_ok h
  have hmanages : Manages services active := ⟨ensure_eq_ok.mp hmanage, require_eq_ok.mp hactive⟩
  cases hsite : arguments.siteId with
  | none =>
      rw [hsite] at h
      obtain ⟨rfl, rfl⟩ := Prod.mk.inj (Except.ok.inj h)
      exact ⟨hmanages, rfl⟩
  | some siteId =>
      rw [hsite] at h
      obtain ⟨_, -, h⟩ := bind_ok h
      obtain ⟨rfl, rfl⟩ := Prod.mk.inj (Except.ok.inj h)
      exact ⟨hmanages, rfl⟩

theorem filterScopeRows_sublist {α : Type} (services : MaintenanceServices) (rows : List α)
    (scopeId : α → String) : (services.filterScopeRows rows scopeId).Sublist rows := by
  unfold MaintenanceServices.filterScopeRows
  split
  · split
    · exact List.filter_sublist
    · exact List.Sublist.refl rows
  · exact List.nil_sublist rows

theorem mem_listVisibleActivePlans {services : MaintenanceServices} {organization : String}
    {siteId planId : Option String} {plan : PreventivePlan}
    (h : plan ∈ listVisibleActivePlans services store organization siteId planId) :
    plan ∈ store.plans.rows ∧ plan.organizationId = organization ∧ plan.status = .active := by
  have hmem := (filterScopeRows_sublist _ _ _).subset h
  rw [List.mem_filter, List.mem_insertionSort, List.mem_filter, decide_eq_true_eq] at hmem
  exact ⟨hmem.1.1, hmem.1.2.1, hmem.1.2.2.2.1⟩

theorem nodup_listVisibleActivePlans (services : MaintenanceServices) (store : MaintenanceStore)
    (organization : String) (siteId planId : Option String) :
    ((listVisibleActivePlans services store organization siteId planId).map
      PreventivePlan.id).Nodup := by
  apply List.Nodup.sublist ((filterScopeRows_sublist _ _ _).map _)
  apply List.Nodup.sublist (List.filter_sublist.map _)
  rw [((List.perm_insertionSort _ _).map _).nodup_iff]
  exact store.plans.nodup.sublist (List.filter_sublist.map _)

theorem mem_plans {plan : PreventivePlan} (h : plan ∈ call.plans store) :
    plan ∈ store.plans.rows ∧ Manages call.services plan.organizationId ∧
      plan.status = .active := by
  cases hplans : plansOfCall call.services store call.arguments
      "generate maintenance preventive work" with
  | error e =>
      rw [plans_of_error hplans] at h
      cases h
  | ok result =>
      rw [plans_of_ok hplans] at h
      obtain ⟨hmanages, hlist⟩ := plansOfCall_eq_ok hplans
      rw [hlist] at h
      obtain ⟨hstored, horganization, hactive⟩ := mem_listVisibleActivePlans h
      exact ⟨hstored, horganization ▸ hmanages, hactive⟩

theorem nodup_plans (call : GenerationCall) (store : MaintenanceStore) :
    ((call.plans store).map PreventivePlan.id).Nodup := by
  cases hplans : plansOfCall call.services store call.arguments
      "generate maintenance preventive work" with
  | error e =>
      rw [plans_of_error hplans]
      exact List.nodup_nil
  | ok result =>
      rw [plans_of_ok hplans, (plansOfCall_eq_ok hplans).2]
      exact nodup_listVisibleActivePlans _ _ _ _ _

theorem generateDueWork_settles (call : GenerationCall) (store : MaintenanceStore) :
    (generateDueWork call.services call.arguments call.ids).Settles store
      (fun _ last => Program.Through call.Completed store (call.plans store) last)
      fun e last => (call.plans store = [] ∧ last = store) ∨
        ∃ done failed rest middle, call.plans store = done ++ failed :: rest ∧
          Program.Through call.Completed store done middle ∧
            call.turn failed (.clean middle) = (.error e, .clean last) ∧
              TurnRaises call.services middle failed call.arguments.asOf (call.ids failed.id)
                last := by
  apply Program.Settles.bind
  rw [Program.settles_check]
  constructor
  · rintro ⟨organization, plans⟩ hplans
    obtain ⟨hmanages, hlist⟩ := plansOfCall_eq_ok hplans
    rw [plans_of_ok hplans]
    refine Program.settles_foldlM
      (fun before _ current => Program.Through call.Completed store before current) plans ?_
      (.nil store)
    intro before plan after results current hsplit hthrough
    have hmem : plan ∈ plans := hsplit ▸ List.mem_append_right _ List.mem_cons_self
    rw [hlist] at hmem
    obtain ⟨-, rfl, -⟩ := mem_listVisibleActivePlans hmem
    apply Program.Settles.bind
    refine (planTurn_settles hmanages).run.mono ?_ ?_
    · rintro result next ⟨hrun, hreturns⟩
      exact Program.settles_pure.mpr (hthrough.concat ⟨⟨result, hrun⟩, hreturns⟩)
    · rintro e next ⟨hrun, hraises⟩
      exact Or.inr ⟨before, plan, after, current, hsplit, hthrough, hrun, hraises⟩
  · intro e hrefused
    exact Or.inl ⟨plans_of_error hrefused, rfl⟩

/-! ## Calls that fit -/

theorem EachTurn.of_through {condition : MaintenanceStore → PreventivePlan → Prop}
    {done rest : List PreventivePlan} {middle : MaintenanceStore}
    (hthrough : Program.Through call.Completed store done middle)
    (hfits : call.EachTurn condition (done ++ rest) store) :
    call.EachTurn condition rest middle := by
  induction hthrough with
  | nil => exact hfits
  | cons hstep _ ih =>
      obtain ⟨⟨result, hrun⟩, -⟩ := hstep
      obtain ⟨-, hnext⟩ := hfits
      rw [hrun] at hnext
      exact ih hnext

theorem leavesAlone {done : List PreventivePlan} {last : MaintenanceStore} {plan : PreventivePlan}
    (hthrough : Program.Through call.Completed store done last) (hstored : plan ∈ store.plans.rows)
    (hother : plan.id ∉ done.map PreventivePlan.id) : call.LeavesAlone done store last plan := by
  induction hthrough with
  | nil => exact ⟨hstored, fun _ _ => Iff.rfl, fun _ => Or.inl, fun _ => Or.inl⟩
  | @cons store middle last turned rest hstep _ ih =>
      obtain ⟨-, hreturns⟩ := hstep
      have hkept := hreturns.otherPlansKept
      have hwork := hreturns.workFrame
      rw [List.map_cons, List.mem_cons, not_or] at hother
      obtain ⟨hstoredLater, hinstances, horders, hrequests⟩ :=
        ih ((hkept.plans plan hother.1).mpr hstored) hother.2
      refine ⟨hstoredLater, ?_, ?_, ?_⟩
      · intro row hrow
        rw [hinstances row hrow]
        exact hkept.instances row fun hof => hother.1 (hrow.2.symm.trans hof.2)
      · intro id hid
        rcases horders id hid with hmiddle | ⟨other, hmem, hlink⟩
        · exact (hwork.orders id hmiddle).imp_right fun hlink =>
            ⟨turned, List.mem_cons_self, hlink⟩
        · exact Or.inr ⟨other, List.mem_cons_of_mem _ hmem, hlink⟩
      · intro id hid
        rcases hrequests id hid with hmiddle | ⟨other, hmem, hlink⟩
        · exact (hwork.requests id hmiddle).imp_right fun hlink =>
            ⟨turned, List.mem_cons_self, hlink⟩
        · exact Or.inr ⟨other, List.mem_cons_of_mem _ hmem, hlink⟩

theorem linkedSince_through {start last : MaintenanceStore} {done : List PreventivePlan}
    (hthrough : Program.Through call.Completed store done last) (h : LinkedSince start store) :
    LinkedSince start last :=
  hthrough.invariant (fun _ _ _ _ hstep hlinked => hlinked.turnReturns hstep.2) h

/-- Whatever a call raises, its links are sound. -/
theorem linkedSince_run {start : MaintenanceStore} (h : LinkedSince start store) :
    ∃ last, (call.run (.clean store)).2 = .clean last ∧ LinkedSince start last := by
  apply Program.Settles.outcome
  refine (generateDueWork_settles call store).mono ?_ ?_
  · exact fun _ last hthrough => linkedSince_through hthrough h
  · rintro e last (⟨-, rfl⟩ | ⟨done, failed, rest, middle, -, hthrough, -, hraises⟩)
    · exact h
    · exact (linkedSince_through hthrough h).turnRaises hraises

/-- A call for one plan makes its turn, unless it raises. -/
theorem completed_of_plans {plan : PreventivePlan} (hplans : call.plans store = [plan])
    (hreturned : (call.run (.clean store)).1 = none) :
    ∃ final, (call.run (.clean store)).2 = .clean final ∧ call.Completed plan store final := by
  rcases (generateDueWork_settles call store).cases with
    ⟨results, final, hrun, hthrough⟩ | ⟨e, last, hrun, -⟩
  · have hrun' : call.run (.clean store) = (none, .clean final) := Program.outcome_of_ok hrun
    rw [hplans] at hthrough
    cases hthrough with
    | cons hstep hrest =>
        cases hrest
        exact ⟨final, by rw [hrun'], hstep⟩
  · have hrun' : call.run (.clean store) = (some e, .clean last) := Program.outcome_of_error hrun
    rw [hrun'] at hreturned
    cases hreturned

theorem allOrNothing_of_fits (hfits : call.Fits store) : call.AllOrNothing store := by
  have hnodup := nodup_plans call store
  rcases (generateDueWork_settles call store).cases with
    ⟨results, last, hrun, hthrough⟩ | ⟨e, last, hrun, hraised⟩
  · have hrun' : call.run (.clean store) = (none, .clean last) := Program.outcome_of_ok hrun
    refine ⟨call.plans store, [], last, (List.append_nil _).symm, hthrough, ?_, fun _ => rfl, ?_, ?_⟩
    · rw [hrun']
    · intro plan hplan
      cases hplan
    · intro hraises
      rw [hrun'] at hraises
      exact absurd rfl hraises
  · have hrun' : call.run (.clean store) = (some e, .clean last) := Program.outcome_of_error hrun
    rcases hraised with ⟨hnone, rfl⟩ | ⟨done, failed, rest, middle, hsplit, hthrough, -, hraises⟩
    · refine ⟨[], [], last, hnone, .nil last, by rw [hrun'], fun _ => rfl, ?_, ?_⟩
      · intro plan hplan
        cases hplan
      · intro _ _ again
        rw [hrun']
    · have halone : ∀ plan ∈ failed :: rest, call.LeavesAlone done store middle plan := by
        intro plan hplan
        have hmem : plan ∈ call.plans store := hsplit ▸ List.mem_append_right _ hplan
        refine leavesAlone hthrough (mem_plans hmem).1 fun hdone => ?_
        rw [hsplit, List.map_append, List.nodup_append] at hnodup
        exact hnodup.2.2 _ hdone _ (List.mem_map_of_mem hplan) rfl
      unfold Fits at hfits
      rw [hsplit] at hfits
      obtain ⟨hfailed, -⟩ := EachTurn.of_through hthrough hfits
      obtain rfl : last = middle :=
        hraises.eq_of_fits (halone failed List.mem_cons_self).stored hfailed
      refine ⟨done, failed :: rest, last, hsplit, hthrough, by rw [hrun'], ?_, ?_, ?_⟩
      · intro hreturned
        rw [hrun'] at hreturned
        cases hreturned
      · exact fun plan hplan => ⟨halone plan hplan, fun _ => completed_of_plans⟩
      · intro _ hone again
        -- Nothing was done before the only plan.
        rw [hsplit, List.length_append, List.length_cons] at hone
        obtain rfl : done = [] := List.length_eq_zero_iff.mp (by omega)
        cases hthrough
        rw [hrun']

end GenerationCall

/-- In every run of calls whose turns all fit, links are sound and every call leaves behind exactly
its completed turns. -/
theorem generationCalls_allOrNothing {start : MaintenanceStore} (hstart : WellLinked start)
    (calls : List GenerationCall)
    (hcalls : EachCall GenerationCall.run (fun session call => call.Fits session.pending)
      (.clean start) calls) :
    EachCall GenerationCall.run
        (fun session call => ∃ store, session = .clean store ∧ LinkedSince start store ∧
          call.AllOrNothing store) (.clean start) calls ∧
      ∃ last, sessionAfter GenerationCall.run (.clean start) calls = .clean last ∧
        LinkedSince start last := by
  have hstep : ∀ session call, GenerationCall.Fits call session.pending →
      (∃ store, session = .clean store ∧ LinkedSince start store) →
        ∃ store, (GenerationCall.run call session).2 = .clean store ∧ LinkedSince start store := by
    rintro _ call - ⟨store, rfl, hlinked⟩
    exact GenerationCall.linkedSince_run hlinked
  have hlinked : ∃ store, Session.clean start = .clean store ∧ LinkedSince start store :=
    ⟨start, rfl, .refl hstart⟩
  constructor
  · refine hcalls.conclude hstep ?_ hlinked
    rintro _ call hfits ⟨store, rfl, hstore⟩
    exact ⟨store, rfl, hstore, GenerationCall.allOrNothing_of_fits hfits⟩
  · exact sessionAfter_invariant hstep calls hcalls hlinked

/-! ## A pump that is greased every day -/

def maintenanceAdmin : MaintenanceServices where
  userSession :=
    { AuthorizationEngine.admin with
      isScopeRestricted := fun _ => false
      scopeIdsFor := fun _ _ => [] }
  activeOrganization := some "org"
  now := 0

def pumpPlan (horizonCount : ℕ) : PreventivePlan where
  id := "pump"
  organizationId := "org"
  siteId := "yard"
  planCode := "PUMP"
  name := "Pump"
  status := .active
  calendarFrequencyUnit := some .daily
  calendarFrequencyValue := some 1
  generationHorizonCount := horizonCount
  nextDueAt := some 0
  autoGenerateWorkOrder := true

/-- The plan has one task, and it is due on the first day. -/
def pumpYard (horizonCount : ℕ) : MaintenanceStore where
  sites := ⟨[{ id := "yard", organizationId := "org" }], by decide⟩
  taskTemplates := ⟨[{ id := "grease", organizationId := "org", taskTemplateCode := "GREASE"
                       name := "Grease the pump" }], by decide⟩
  plans := ⟨[pumpPlan horizonCount], List.nodup_singleton _⟩
  planTasks := ⟨[{ id := "greasing", organizationId := "org", planId := "pump"
                   taskTemplateId := "grease" }], by decide⟩
  instances :=
    { rows := [{ id := "first", organizationId := "org", planId := "pump", dueAt := 0 }]
      nodup := by decide
      column_nodup := by decide }

def pumpIds (number : String) : TurnIds where
  workId := "order" ++ number
  token := number
  package := ⟨fun planTask => planTask ++ number, fun planTask step => planTask ++ step ++ number⟩
  plannedId due := "planned" ++ number ++ toString due
  replannedId due := "replanned" ++ number ++ toString due

/-- Generate what is due, while the database refuses one id. -/
def pumpCall (number refused : String) (asOf : Moment) : GenerationCall where
  services :=
    { maintenanceAdmin with
      refuses := fun id => if id = refused then some (takenPrimaryKey "maintenance") else none }
  arguments := { asOf := asOf }
  ids _ := pumpIds number

theorem wellLinked_pumpYard : WellLinked (pumpYard 1) where
  requests := by decide
  orders := by decide
  requestOnce := by decide
  orderOnce := by decide

/-- An order that is refused is generated by the next call. -/
theorem generationCalls_allOrNothing_pumpYard :
    (sessionAfter GenerationCall.run (.clean (pumpYard 1))
      [pumpCall "1" "order1" 0, pumpCall "2" "" 0]).pending.orders.ids = ["order2"] ∧
    EachCall GenerationCall.run
      (fun session call => ∃ store, session = .clean store ∧ LinkedSince (pumpYard 1) store ∧
        call.AllOrNothing store) (.clean (pumpYard 1))
      [pumpCall "1" "order1" 0, pumpCall "2" "" 0] :=
  ⟨by decide +kernel,
    (generationCalls_allOrNothing wellLinked_pumpYard
      [pumpCall "1" "order1" 0, pumpCall "2" "" 0] (by decide +kernel)).1⟩

/-- A call that cannot save the task leaves its order behind, and the retry makes a second one. -/
theorem halfGenerated_pumpYard :
    ((pumpCall "1" "greasing1" 0).run (.clean (pumpYard 1))).1 ≠ none ∧
      ((pumpCall "1" "greasing1" 0).run (.clean (pumpYard 1))).2.pending.orders.ids = ["order1"] ∧
      ((pumpCall "2" "" 0).run
        ((pumpCall "1" "greasing1" 0).run (.clean (pumpYard 1))).2).2.pending.orders.ids =
          ["order2", "order1"] ∧
      ¬ (pumpCall "1" "greasing1" 0).AllOrNothing (pumpYard 1) := by
  have hraises : ((pumpCall "1" "greasing1" 0).run (.clean (pumpYard 1))).1 ≠ none := by
    decide +kernel
  have hretry : ((pumpCall "2" "" 0).run
      ((pumpCall "1" "greasing1" 0).run (.clean (pumpYard 1))).2).2.pending.orders.ids =
        ["order2", "order1"] := by
    decide +kernel
  refine ⟨hraises, by decide +kernel, hretry, ?_⟩
  rintro ⟨-, -, -, -, -, -, -, -, hagain⟩
  have hfirst : ((pumpCall "2" "" 0).run (.clean (pumpYard 1))).2.pending.orders.ids = ["order2"] := by
    decide +kernel
  rw [hagain hraises (by decide +kernel) (pumpCall "2" "" 0), hfirst] at hretry
  cases hretry

end ProjectManager.Maintenance
