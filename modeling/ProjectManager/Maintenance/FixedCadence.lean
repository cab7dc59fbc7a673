import ProjectManager.Maintenance.AtomicGeneration
import ProjectManager.Maintenance.GeneratedDates

/-! # The cadence of a plan

Along a run of calls the dates that are generated for a calendar plan follow each
other in its frequency, as long as no turn starts the schedule anew at another date.
-/

namespace ProjectManager.Maintenance

open Foundation

namespace GenerationCall

/-- The turn of the plan keeps its cadence, if the call comes to it. -/
def KeepsCadence (call : GenerationCall) (planId : String) (store : MaintenanceStore) : Prop :=
  call.EachTurn
    (fun current plan => plan.id = planId → Maintenance.KeepsCadence call.services current plan
      call.arguments.asOf (call.ids plan.id))
    (call.plans store) store

instance (call : GenerationCall) (planId : String) (store : MaintenanceStore) :
    Decidable (call.KeepsCadence planId store) :=
  inferInstanceAs (Decidable (call.EachTurn _ _ _))

end GenerationCall

def generatedHistory (plan : PreventivePlan) :
    Session MaintenanceStore → List GenerationCall → List Moment
  | _, [] => []
  | session, call :: rest =>
      newDates session.pending (call.run session).2.pending plan ++
        generatedHistory plan (call.run session).2 rest

variable {call : GenerationCall} {store middle next : MaintenanceStore}
  {plan updated other : PreventivePlan} {given : CalendarFrequencyUnit × ℕ}

theorem generatedHistory_plan (hid : updated.id = plan.id)
    (horganization : updated.organizationId = plan.organizationId)
    (session : Session MaintenanceStore) (calls : List GenerationCall) :
    generatedHistory updated session calls = generatedHistory plan session calls := by
  induction calls generalizing session with
  | nil => rfl
  | cons call rest ih =>
      unfold generatedHistory newDates
      rw [ih, generatedDates_plan hid horganization, generatedDates_plan hid horganization]

/-! ## Calls -/

/-- The turns of other plans leave the schedule of a plan alone. -/
theorem Scheduled.otherPlansKept (h : Scheduled given store middle plan)
    (hkept : OtherPlansKept other middle next) (hother : plan.id ≠ other.id) :
    Scheduled given store next plan := by
  obtain ⟨updated, hmem, hplan, hstep⟩ := h
  have hdates : generatedDates next plan = generatedDates middle plan :=
    generatedDates_congr fun row hrow _ =>
      hkept.instances row fun hof => hother (hrow.2.symm.trans hof.2)
  refine ⟨updated, (hkept.plans updated (hplan.1 ▸ hother)).mpr hmem, hplan, ?_⟩
  cases hstep with
  | kept hsame hdue => exact .kept (hdates.trans hsame) hdue
  | advanced date hdate hnew hnext =>
      refine .advanced date hdate ?_ hnext
      unfold newDates at hnew ⊢
      rwa [hdates]

theorem Scheduled.of_dates_eq (hdates : generatedDates middle plan = generatedDates store plan)
    (h : Scheduled given middle next plan) : Scheduled given store next plan := by
  obtain ⟨updated, hmem, hplan, hstep⟩ := h
  refine ⟨updated, hmem, hplan, ?_⟩
  cases hstep with
  | kept hsame hdue => exact .kept (hsame.trans hdates) hdue
  | advanced date hdate hnew hnext =>
      refine .advanced date hdate ?_ hnext
      unfold newDates at hnew ⊢
      rwa [← hdates]

namespace GenerationCall

theorem LeavesAlone.generatedDates_eq {done : List PreventivePlan}
    (h : call.LeavesAlone done store next plan) :
    generatedDates next plan = generatedDates store plan :=
  generatedDates_congr fun row hrow _ => h.instances row hrow

theorem scheduled_through {done rest : List PreventivePlan} (hstored : plan ∈ store.plans.rows)
    (hgiven : plan.instanceFrequency = some given) (hplans : call.plans store = done ++ rest)
    (hkeeps : call.KeepsCadence plan.id store)
    (hthrough : Program.Through call.Completed store done middle) :
    Scheduled given store middle plan := by
  by_cases hturn : plan.id ∈ done.map PreventivePlan.id
  · obtain ⟨turned, hturned, hid⟩ := List.mem_map.mp hturn
    have hlisted : turned ∈ call.plans store := hplans ▸ List.mem_append_left _ hturned
    obtain rfl : turned = plan :=
      store.plans.eq_of_key_eq (mem_plans hlisted).1 hstored hid
    obtain ⟨before, after, rfl⟩ := List.append_of_mem hturned
    obtain ⟨first, second, hbefore, ⟨-, hreturns⟩, hafter⟩ := hthrough.exists_split
    have hnodup := nodup_plans call store
    unfold KeepsCadence at hkeeps
    rw [hplans, List.append_assoc] at hkeeps
    rw [hplans, List.append_assoc, List.map_append, List.cons_append, List.map_cons,
      List.nodup_append, List.nodup_cons] at hnodup
    obtain ⟨-, ⟨hlater, -⟩, hearlier⟩ := hnodup
    have halone := leavesAlone hbefore hstored fun hmem =>
      hearlier _ hmem _ List.mem_cons_self rfl
    obtain ⟨hturnKeeps, -⟩ := EachTurn.of_through hbefore hkeeps
    have hscheduled : Scheduled given store second turned :=
      (hreturns.toScheduled halone.stored hgiven (hturnKeeps rfl)).of_dates_eq
        halone.generatedDates_eq
    have hothers : ∀ item ∈ after, ∀ first second, call.Completed item first second →
        Scheduled given store first turned → Scheduled given store second turned := by
      intro item hitem _ _ hcompleted hstep
      refine hstep.otherPlansKept hcompleted.2.otherPlansKept fun hsame => hlater ?_
      exact List.mem_map.mpr ⟨item, List.mem_append_left _ hitem, hsame.symm⟩
    exact hafter.invariant hothers hscheduled
  · have halone := leavesAlone hthrough hstored hturn
    exact ⟨plan, halone.stored, ⟨rfl, rfl, hgiven⟩, .kept halone.generatedDates_eq fun _ hdue => hdue⟩

theorem scheduled_run (hstored : plan ∈ store.plans.rows)
    (hgiven : plan.instanceFrequency = some given) (hkeeps : call.KeepsCadence plan.id store) :
    ∃ last, (call.run (.clean store)).2 = .clean last ∧ Scheduled given store last plan := by
  apply Program.Settles.outcome
  refine (generateDueWork_settles call store).mono ?_ ?_
  · intro _ last hthrough
    exact scheduled_through hstored hgiven (List.append_nil _).symm hkeeps hthrough
  · rintro e last (⟨-, rfl⟩ | ⟨done, failed, rest, middle, hsplit, hthrough, -, hraises⟩)
    · exact .refl hstored hgiven
    · by_cases hfailed : plan.id = failed.id
      · have hnodup := nodup_plans call store
        rw [hsplit, List.map_append, List.map_cons, List.nodup_append] at hnodup
        have hlisted : failed ∈ call.plans store :=
          hsplit ▸ List.mem_append_right _ List.mem_cons_self
        obtain rfl : plan = failed :=
          store.plans.eq_of_key_eq hstored (mem_plans hlisted).1 hfailed
        have halone := leavesAlone hthrough hstored fun hmem =>
          hnodup.2.2 _ hmem _ List.mem_cons_self rfl
        unfold KeepsCadence at hkeeps
        rw [hsplit] at hkeeps
        obtain ⟨hturnKeeps, -⟩ := EachTurn.of_through hthrough hkeeps
        exact (hraises.toScheduled halone.stored hgiven (hturnKeeps rfl)).of_dates_eq
          halone.generatedDates_eq
      · exact (scheduled_through hstored hgiven hsplit hkeeps hthrough).otherPlansKept
          hraises.otherPlansKept hfailed

end GenerationCall

/-! ## Runs -/

/-- The dates of a run form a cadence, which starts with the due date of the plan. -/
theorem generatedHistory_cadence (calls : List GenerationCall) (hstored : plan ∈ store.plans.rows)
    (hgiven : plan.instanceFrequency = some given)
    (hcalls : EachCall GenerationCall.run
      (fun session call => call.KeepsCadence plan.id session.pending) (.clean store) calls) :
    IsCadence (dueAfter given) (generatedHistory plan (.clean store) calls) ∧
      ∀ due ∈ plan.nextDueAt,
        ∀ first ∈ (generatedHistory plan (.clean store) calls).head?, first = due := by
  induction calls generalizing plan store with
  | nil => exact ⟨.nil, fun _ _ first hfirst => (nomatch hfirst)⟩
  | cons call rest ih =>
      obtain ⟨hcall, hrest⟩ := hcalls
      obtain ⟨last, hlast, updated, hmem, ⟨hid, horganization, hupdatedGiven⟩, hstep⟩ :=
        GenerationCall.scheduled_run hstored hgiven hcall
      rw [hlast] at hrest
      obtain ⟨hcadence, hfirst⟩ := ih hmem hupdatedGiven (by rw [hid]; exact hrest)
      rw [generatedHistory_plan hid horganization] at hcadence hfirst
      unfold generatedHistory
      rw [hlast]
      change IsCadence _ (newDates store last plan ++ _) ∧
        ∀ due ∈ plan.nextDueAt, ∀ first ∈ (newDates store last plan ++ _).head?, first = due
      cases hstep with
      | kept hdates hdue =>
          have hnone : newDates store last plan = [] := by
            apply List.filter_eq_nil_iff.mpr
            intro due hmemDue
            simpa [← hdates] using hmemDue
          rw [hnone, List.nil_append]
          exact ⟨hcadence, fun due hplan => hfirst due (hdue due hplan)⟩
      | advanced date hdate hnew hnext =>
          rw [hnew, List.singleton_append, isCadence_cons, List.head?_cons]
          refine ⟨⟨hfirst _ hnext, hcadence⟩, ?_⟩
          rintro due hplan first hsame
          obtain rfl := Option.some.inj hsame
          exact hdate due hplan

/-- Whenever its calls run, and whether they fail, a run generates the dates of a plan one frequency
period apart, when the turns of the plan keep its cadence. -/
theorem generationCalls_keepCadence (calls : List GenerationCall)
    (hstored : plan ∈ store.plans.rows) (hgiven : plan.instanceFrequency = some given)
    (hcalls : EachCall GenerationCall.run
      (fun session call => call.KeepsCadence plan.id session.pending) (.clean store) calls) :
    IsCadence (dueAfter given) (generatedHistory plan (.clean store) calls) :=
  (generatedHistory_cadence calls hstored hgiven hcalls).1

/-- Two greasings, each of them twelve hours late. -/
def lateCalls : List GenerationCall :=
  [pumpCall "1" "" 43200000000, pumpCall "2" "" 129600000000]

/-- With two dates planned at a time, late calls keep the daily cadence. -/
theorem generationCalls_keepCadence_pumpYard :
    generatedHistory (pumpPlan 2) (.clean (pumpYard 2)) lateCalls = [0, Moment.day] ∧
      IsCadence (dueAfter (.daily, 1))
        (generatedHistory (pumpPlan 2) (.clean (pumpYard 2)) lateCalls) :=
  ⟨by decide +kernel,
    generationCalls_keepCadence lateCalls List.mem_cons_self rfl (by decide +kernel)⟩

/-- With one date planned at a time, the second greasing is due a day after the first call. -/
theorem drifted_pumpYard :
    generatedHistory (pumpPlan 1) (.clean (pumpYard 1)) lateCalls = [0, 129600000000] ∧
      ¬ IsCadence (dueAfter (.daily, 1))
        (generatedHistory (pumpPlan 1) (.clean (pumpYard 1)) lateCalls) := by
  have hdates : generatedHistory (pumpPlan 1) (.clean (pumpYard 1)) lateCalls =
      [0, 129600000000] := by
    decide +kernel
  refine ⟨hdates, fun hcadence => ?_⟩
  rw [hdates, isCadence_cons] at hcadence
  have hsecond : (129600000000 : Moment) = dueAfter (.daily, 1) 0 := hcadence.1 _ rfl
  exact absurd hsecond (by decide +kernel)

end ProjectManager.Maintenance
