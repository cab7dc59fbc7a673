import ProjectManager.Maintenance.Replanning

/-! # Links of instances

An instance is linked to the order or the request that was generated for it. Links
lead to work that exists, and no two instances share one: a turn links the work
that it has just made, and a planned instance has no link.
-/

namespace ProjectManager.Maintenance

open Foundation

structure WellLinked (store : MaintenanceStore) : Prop where
  requests : ∀ row ∈ store.instances.rows, ∀ id ∈ row.generatedWorkRequestId,
    id ∈ store.requests.ids
  orders : ∀ row ∈ store.instances.rows, ∀ id ∈ row.generatedWorkOrderId, id ∈ store.orders.ids
  requestOnce : ∀ first ∈ store.instances.rows, ∀ second ∈ store.instances.rows,
    ∀ id ∈ first.generatedWorkRequestId, id ∈ second.generatedWorkRequestId → first = second
  orderOnce : ∀ first ∈ store.instances.rows, ∀ second ∈ store.instances.rows,
    ∀ id ∈ first.generatedWorkOrderId, id ∈ second.generatedWorkOrderId → first = second

/-- An instance is linked to an order or to a request, but not to both. -/
def PreventivePlanInstance.LinkedOnce (row : PreventivePlanInstance) : Prop :=
  row.generatedWorkRequestId = none ∨ row.generatedWorkOrderId = none

/-- Links are sound, and every instance that is not as it was at the start has at most one. -/
structure LinkedSince (start store : MaintenanceStore) : Prop extends WellLinked store where
  once : ∀ row ∈ store.instances.rows, row ∈ start.instances.rows ∨ row.LinkedOnce

variable {start store middle worked saved next : MaintenanceStore} {plan updated : PreventivePlan}
  {ids : TurnIds} {asOf : Moment} {given : CalendarFrequencyUnit × ℕ}
  {services : MaintenanceServices}

theorem LinkedSince.refl (h : WellLinked store) : LinkedSince store store :=
  ⟨h, fun _ hrow => Or.inl hrow⟩

/-- Instances may be deleted, and unlinked ones added, while work is added. -/
theorem LinkedSince.mono (h : LinkedSince start store)
    (hinstances : ∀ row ∈ next.instances.rows, row ∈ store.instances.rows ∨
      row.generatedWorkRequestId = none ∧ row.generatedWorkOrderId = none)
    (hrequests : ∀ id ∈ store.requests.ids, id ∈ next.requests.ids)
    (horders : ∀ id ∈ store.orders.ids, id ∈ next.orders.ids) : LinkedSince start next := by
  have hrequest : ∀ row ∈ next.instances.rows, ∀ id ∈ row.generatedWorkRequestId,
      row ∈ store.instances.rows := by
    intro row hrow id hid
    refine (hinstances row hrow).resolve_right fun hnone => ?_
    rw [hnone.1] at hid
    cases hid
  have horder : ∀ row ∈ next.instances.rows, ∀ id ∈ row.generatedWorkOrderId,
      row ∈ store.instances.rows := by
    intro row hrow id hid
    refine (hinstances row hrow).resolve_right fun hnone => ?_
    rw [hnone.2] at hid
    cases hid
  refine ⟨⟨?_, ?_, ?_, ?_⟩, ?_⟩
  · exact fun row hrow id hid => hrequests id (h.requests row (hrequest row hrow id hid) id hid)
  · exact fun row hrow id hid => horders id (h.orders row (horder row hrow id hid) id hid)
  · exact fun first hfirst second hsecond id hid hsame => h.requestOnce first
      (hrequest first hfirst id hid) second (hrequest second hsecond id hsame) id hid hsame
  · exact fun first hfirst second hsecond id hid hsame => h.orderOnce first
      (horder first hfirst id hid) second (horder second hsecond id hsame) id hid hsame
  · intro row hrow
    rcases hinstances row hrow with hstored | hnone
    · exact h.once row hstored
    · exact Or.inr (Or.inl hnone.1)

theorem LinkedSince.synced {newId : Moment → String} {synced : PreventivePlan}
    (h : LinkedSince start store) (hsynced : SyncedTo plan asOf newId store synced next) :
    LinkedSince start next := by
  have hframe := hsynced.frame.2
  apply h.mono
  · intro row hrow
    cases hsynced with
    | unscheduled => exact Or.inl hrow
    | scheduled _ hrun =>
        rcases (((synced_of_ok hrun).members row).mp hrow).1 with hstored | ⟨due, -, rfl⟩
        · exact Or.inl hstored
        · exact Or.inr ⟨rfl, rfl⟩
  · rw [hframe]
    exact fun _ => id
  · rw [hframe]
    exact fun _ => id

theorem LinkedSince.made (h : LinkedSince start store) (hmade : WorkMade plan ids store next) :
    LinkedSince start next := by
  obtain ⟨orders, horders, -⟩ := hmade.orders
  obtain ⟨requests, hrequests, -⟩ := hmade.requests
  apply h.mono
  · rw [hmade.frame]
    exact fun _ => Or.inl
  · intro id hid
    rw [Table.ids, hrequests, List.map_append]
    exact List.mem_append_right _ hid
  · intro id hid
    rw [Table.ids, horders, List.map_append]
    exact List.mem_append_right _ hid

theorem WorkMade.orderLink_new (hmade : WorkMade plan ids store next) {id : String}
    (hid : id ∈ orderLink plan ids) : id ∉ store.orders.ids ∧ id ∈ next.orders.ids := by
  obtain ⟨orders, horders, hlink, -⟩ := hmade.orders
  have hmem : id ∈ orders.map WorkOrder.id := hlink ▸ Option.mem_toList.mpr hid
  have hnodup := next.orders.nodup
  rw [horders, List.map_append, List.nodup_append] at hnodup
  rw [Table.ids, Table.ids, horders, List.map_append]
  exact ⟨fun hstored => hnodup.2.2 id hmem id hstored rfl, List.mem_append_left _ hmem⟩

theorem WorkMade.requestLink_new (hmade : WorkMade plan ids store next) {id : String}
    (hid : id ∈ requestLink plan ids) : id ∉ store.requests.ids ∧ id ∈ next.requests.ids := by
  obtain ⟨requests, hrequests, hlink, -⟩ := hmade.requests
  have hmem : id ∈ requests.map WorkRequest.id := hlink ▸ Option.mem_toList.mpr hid
  have hnodup := next.requests.nodup
  rw [hrequests, List.map_append, List.nodup_append] at hnodup
  rw [Table.ids, Table.ids, hrequests, List.map_append]
  exact ⟨fun hstored => hnodup.2.2 id hmem id hstored rfl, List.mem_append_left _ hmem⟩

theorem LinkedSince.dueSaved {row : PreventivePlanInstance} {rest : List PreventivePlanInstance}
    (h : LinkedSince start middle)
    (hsaved : DueSaved plan given asOf ids store middle worked updated saved row rest) :
    LinkedSince start saved := by
  have hworked := h.made hsaved.made
  have hsame : worked.instances = middle.instances := by rw [hsaved.made.frame]
  have hrequests : saved.requests = worked.requests := by
    rw [hsaved.saved_eq]
    rfl
  have horders : saved.orders = worked.orders := by
    rw [hsaved.saved_eq]
    rfl
  refine ⟨⟨?_, ?_, ?_, ?_⟩, ?_⟩
  · intro other hother id hid
    rw [hrequests]
    rcases hsaved.mem_saved hother with ⟨hmiddle, -⟩ | rfl
    · exact hworked.requests other (hsame ▸ hmiddle) id hid
    · exact (hsaved.made.requestLink_new hid).2
  · intro other hother id hid
    rw [horders]
    rcases hsaved.mem_saved hother with ⟨hmiddle, -⟩ | rfl
    · exact hworked.orders other (hsame ▸ hmiddle) id hid
    · exact (hsaved.made.orderLink_new hid).2
  · intro first hfirst second hsecond id hid hshared
    rcases hsaved.mem_saved hfirst with ⟨hfirst, -⟩ | rfl
    · rcases hsaved.mem_saved hsecond with ⟨hsecond, -⟩ | rfl
      · exact h.requestOnce first hfirst second hsecond id hid hshared
      · exact absurd (h.requests first hfirst id hid) (hsaved.made.requestLink_new hshared).1
    · rcases hsaved.mem_saved hsecond with ⟨hsecond, -⟩ | rfl
      · exact absurd (h.requests second hsecond id hshared) (hsaved.made.requestLink_new hid).1
      · rfl
  · intro first hfirst second hsecond id hid hshared
    rcases hsaved.mem_saved hfirst with ⟨hfirst, -⟩ | rfl
    · rcases hsaved.mem_saved hsecond with ⟨hsecond, -⟩ | rfl
      · exact h.orderOnce first hfirst second hsecond id hid hshared
      · exact absurd (h.orders first hfirst id hid) (hsaved.made.orderLink_new hshared).1
    · rcases hsaved.mem_saved hsecond with ⟨hsecond, -⟩ | rfl
      · exact absurd (h.orders second hsecond id hshared) (hsaved.made.orderLink_new hid).1
      · rfl
  · intro other hother
    rcases hsaved.mem_saved hother with ⟨hmiddle, -⟩ | rfl
    · exact h.once other hmiddle
    · refine Or.inr ?_
      change requestLink plan ids = none ∨ orderLink plan ids = none
      unfold requestLink orderLink
      split
      · exact Or.inl rfl
      · exact Or.inr rfl

/-- Saving the state of a plan keeps links sound. -/
theorem LinkedSince.stateSaved {synced : PreventivePlan}
    (hsynced : SyncedTo plan asOf ids.plannedId store synced middle)
    (hsaved : StateSaved synced asOf ids middle worked updated saved)
    (h : LinkedSince start middle) : LinkedSince start saved := by
  by_cases hdue : (selectDueInstance middle synced asOf).isSome = true
  · obtain ⟨given, row, rest, -, hdueSaved⟩ := hsaved.exists_dueSaved hsynced hdue
    exact h.dueSaved hdueSaved
  · have hnone := Option.not_isSome_iff_eq_none.mp hdue
    have hframe : saved = { worked with plans := saved.plans } := by
      rw [hsaved.saved_eq, hnone]
      rfl
    have hworked := h.made hsaved.made
    apply hworked.mono
    · rw [hframe]
      exact fun _ => Or.inl
    · rw [hframe]
      exact fun _ => id
    · rw [hframe]
      exact fun _ => id

theorem LinkedSince.tasks (h : LinkedSince start store)
    (htasks : next = { store with planTasks := next.planTasks }) : LinkedSince start next := by
  apply h.mono
  · rw [htasks]
    exact fun _ => Or.inl
  · rw [htasks]
    exact fun _ => id
  · rw [htasks]
    exact fun _ => id

theorem partsKeep_linkedSince (start : MaintenanceStore) (plan : PreventivePlan) (asOf : Moment)
    (ids : TurnIds) :
    PartsKeep plan asOf ids fun store next => LinkedSince start store → LinkedSince start next where
  refl _ h := h
  trans hfirst hsecond h := hsecond (hfirst h)
  synced hsynced h := h.synced hsynced
  made _ hmade h := h.made hmade
  saved hsynced hsaved h := LinkedSince.stateSaved hsynced hsaved h
  replanned _ _ hagain h := h.synced hagain
  tasks htasks h := h.tasks htasks

theorem LinkedSince.turnReturns (h : LinkedSince start store)
    (hturn : TurnReturns services store plan asOf ids next) : LinkedSince start next :=
  hturn.kept (partsKeep_linkedSince start plan asOf ids) h

theorem LinkedSince.turnRaises (h : LinkedSince start store)
    (hturn : TurnRaises services store plan asOf ids next) : LinkedSince start next :=
  hturn.kept (partsKeep_linkedSince start plan asOf ids) h

/-! ## New work -/

/-- Orders and requests are those from before and the linked one. -/
structure WorkFrame (plan : PreventivePlan) (ids : TurnIds) (store next : MaintenanceStore) :
    Prop where
  orders : ∀ id ∈ next.orders.ids, id ∈ store.orders.ids ∨ orderLink plan ids = some id
  requests : ∀ id ∈ next.requests.ids, id ∈ store.requests.ids ∨ requestLink plan ids = some id

theorem WorkFrame.of_eq (horders : next.orders = store.orders)
    (hrequests : next.requests = store.requests) : WorkFrame plan ids store next := by
  constructor
  · rw [horders]
    exact fun _ => Or.inl
  · rw [hrequests]
    exact fun _ => Or.inl

theorem WorkMade.workFrame (hmade : WorkMade plan ids store next) : WorkFrame plan ids store next := by
  obtain ⟨orders, horders, horderLink, -⟩ := hmade.orders
  obtain ⟨requests, hrequests, hrequestLink, -⟩ := hmade.requests
  constructor
  · intro id hid
    rw [Table.ids, horders, List.map_append, List.mem_append, horderLink, Option.mem_toList] at hid
    exact hid.symm
  · intro id hid
    rw [Table.ids, hrequests, List.map_append, List.mem_append, hrequestLink,
      Option.mem_toList] at hid
    exact hid.symm

theorem WorkFrame.trans (hfirst : WorkFrame plan ids store middle)
    (hsecond : WorkFrame plan ids middle next) : WorkFrame plan ids store next := by
  constructor
  · exact fun id hid => (hsecond.orders id hid).elim (hfirst.orders id) Or.inr
  · exact fun id hid => (hsecond.requests id hid).elim (hfirst.requests id) Or.inr

theorem SyncedTo.workFrame {newId : Moment → String} {from_ synced : PreventivePlan}
    (h : SyncedTo from_ asOf newId store synced next) : WorkFrame plan ids store next := by
  apply WorkFrame.of_eq
  · rw [h.frame.2]
  · rw [h.frame.2]

theorem StateSaved.work_eq {synced : PreventivePlan}
    (h : StateSaved synced asOf ids middle worked updated saved) :
    saved.orders = worked.orders ∧ saved.requests = worked.requests := by
  rw [h.saved_eq]
  unfold saveGeneration
  cases selectDueInstance middle synced asOf <;> exact ⟨rfl, rfl⟩

theorem partsKeep_workFrame (plan : PreventivePlan) (asOf : Moment) (ids : TurnIds) :
    PartsKeep plan asOf ids (WorkFrame plan ids) := by
  have hmade : ∀ {store synced middle worked}, SyncedTo plan asOf ids.plannedId store synced middle →
      WorkMade synced ids middle worked → WorkFrame plan ids middle worked := by
    intro store synced middle worked hsynced hmade
    have hframe := hmade.workFrame
    obtain ⟨⟨_, rfl⟩, -⟩ := hsynced.frame
    exact ⟨hframe.orders, hframe.requests⟩
  refine ⟨fun _ => .of_eq rfl rfl, .trans, SyncedTo.workFrame, hmade, ?_,
    fun _ _ => SyncedTo.workFrame, ?_⟩
  · intro store synced middle worked updated saved hsynced hsaved
    have hstate := hsaved.work_eq
    exact (hmade hsynced hsaved.made).trans (.of_eq hstate.1 hstate.2)
  · intro store next htasks
    apply WorkFrame.of_eq
    · rw [htasks]
    · rw [htasks]

theorem TurnReturns.workFrame (h : TurnReturns services store plan asOf ids next) :
    WorkFrame plan ids store next :=
  h.kept (partsKeep_workFrame plan asOf ids)

end ProjectManager.Maintenance
