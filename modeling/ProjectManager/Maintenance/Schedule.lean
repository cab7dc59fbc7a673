import Mathlib.Data.List.Sort
import ProjectManager.Maintenance.Support
import ProjectManager.Maintenance.Triggers

/-! # Planned instances and due candidates

A calendar plan keeps planned instances for its next due dates. Synchronisation
brings them in line with the next due date of the plan; a candidate tells whether
the plan or some of its tasks are due.
-/

namespace ProjectManager.Maintenance

open Foundation

abbrev MaintenanceProgram := Program DomainError MaintenanceStore

namespace PreventivePlan

variable (plan : PreventivePlan)

def frequency : Option (CalendarFrequencyUnit × ℕ) :=
  Maintenance.frequency plan.calendarFrequencyUnit plan.calendarFrequencyValue

/-- The frequency of a plan that keeps planned instances. -/
def instanceFrequency : Option (CalendarFrequencyUnit × ℕ) :=
  if plan.triggerMode = .calendar then plan.frequency else none

def usesCalendarInstances : Prop := plan.instanceFrequency.isSome = true

instance : Decidable plan.usesCalendarInstances := inferInstanceAs (Decidable (_ = true))

/-- The due date that a synchronisation starts from. -/
def startDue (given : CalendarFrequencyUnit × ℕ) (asOf : Moment) : Moment :=
  plan.nextDueAt.getD (advanceCalendarDue asOf given.1 given.2)

end PreventivePlan

/-! ## Listings -/

section

variable (store : MaintenanceStore)

/-- The instances of a plan by due date, no two of which have one. -/
def listInstances (plan : PreventivePlan) : List PreventivePlanInstance :=
  (store.instances.rows.filter fun row =>
    row.organizationId = plan.organizationId ∧ row.planId = plan.id).insertionSort
      fun first second => first.dueAt ≤ second.dueAt

def listPlanned (plan : PreventivePlan) : List PreventivePlanInstance :=
  (listInstances store plan).filter fun row => row.status = .planned

/-- The tasks of a plan by sequence number, older ones first. -/
def listPlanTasks (organizationId planId : String) : List PreventivePlanTask :=
  (store.planTasks.rows.reverse.filter fun row =>
    row.organizationId = organizationId ∧ row.planId = planId).insertionSort
      fun first second => first.sequenceNo ≤ second.sequenceNo

end

/-! ## Synchronisation -/

/-- A due date and those that follow it. -/
def dueDatesFrom (given : CalendarFrequencyUnit × ℕ) : ℕ → Moment → List Moment
  | 0, _ => []
  | count + 1, due => due :: dueDatesFrom given count (advanceCalendarDue due given.1 given.2)

def buildPlannedDueDates (plan : PreventivePlan) (asOf : Moment) : List Moment :=
  match plan.frequency with
  | none => []
  | some given => dueDatesFrom given (max plan.generationHorizonCount 1) (plan.startDue given asOf)

def plannedInstance (plan : PreventivePlan) (newId : Moment → String) (dueAt : Moment) :
    PreventivePlanInstance where
  id := newId dueAt
  organizationId := plan.organizationId
  planId := plan.id
  dueAt := dueAt
  notes := "Planned schedule instance for preventive plan " ++ plan.planCode ++ "."

/-- The database refuses a second instance of a plan for one due date, of whatever status. -/
def takenSlot : DomainError where
  errorClass := .integrityError
  message := "UNIQUE constraint failed: maintenance_preventive_plan_instances"

/-- Add an instance for every date that none is planned for. -/
def addPlannedInstances (plan : PreventivePlan) (newId : Moment → String) (desired : List Moment)
    (store : MaintenanceStore) : Except DomainError MaintenanceStore := do
  let missing := desired.filter fun dueAt =>
    dueAt ∉ (listPlanned store plan).map PreventivePlanInstance.dueAt
  let instances ← store.instances.insertAll (missing.map (plannedInstance plan newId)) takenSlot
  return { store with instances := instances }

def PreventivePlanInstance.IsPlannedOf (row : PreventivePlanInstance) (plan : PreventivePlan) :
    Prop :=
  row.organizationId = plan.organizationId ∧ row.planId = plan.id ∧ row.status = .planned

instance (row : PreventivePlanInstance) (plan : PreventivePlan) :
    Decidable (row.IsPlannedOf plan) :=
  inferInstanceAs (Decidable (_ ∧ _ ∧ _))

/-- Delete the planned instances for other dates. -/
def deleteOrphans (plan : PreventivePlan) (desired : List Moment) (store : MaintenanceStore) :
    MaintenanceStore :=
  { store with
    instances := store.instances.filter fun row =>
      ¬ (row.IsPlannedOf plan ∧ row.dueAt ∉ desired) }

/-- The plan and the store after a synchronisation. -/
def syncedPlan (plan : PreventivePlan) (asOf : Moment) : PreventivePlan :=
  { plan with nextDueAt := (buildPlannedDueDates plan asOf).head? }

def syncInstances (plan : PreventivePlan) (asOf : Moment) (newId : Moment → String)
    (store : MaintenanceStore) : Except DomainError MaintenanceStore := do
  let desired := buildPlannedDueDates plan asOf
  let added ← addPlannedInstances plan newId desired store
  let kept := deleteOrphans plan desired added
  return { kept with plans := kept.plans.update (syncedPlan plan asOf) }

/-- Synchronise a plan, and return it with its next due date. -/
def syncCalendarPlanInstances (plan : PreventivePlan) (asOf : Moment) (newId : Moment → String) :
    MaintenanceProgram PreventivePlan :=
  if plan.usesCalendarInstances then do
    Program.save (syncInstances plan asOf newId)
    return syncedPlan plan asOf
  else return plan

/-! ## Candidates -/

def selectDueInstance (store : MaintenanceStore) (plan : PreventivePlan) (asOf : Moment) :
    Option PreventivePlanInstance :=
  if plan.usesCalendarInstances then
    (listPlanned store plan).find? fun row => leadWindowStartsAt plan row.dueAt ≤ asOf
  else none

def evaluateCalendarInstanceWindow (store : MaintenanceStore) (plan : PreventivePlan)
    (asOf : Moment) : TriggerEvaluation :=
  match (listPlanned store plan).head? with
  | none =>
      ⟨false, true, "Preventive plan has no planned schedule instances to generate from."⟩
  | some nextInstance =>
      let dueAt := nextInstance.dueAt
      let windowOpensAt := leadWindowStartsAt plan dueAt
      if dueAt ≤ asOf then
        ⟨true, false, "Preventive plan reached its scheduled due date on " ++ dueAt.isoformat ++ "."⟩
      else if windowOpensAt ≤ asOf then
        if windowOpensAt = dueAt then
          ⟨true, false, "Preventive plan reached its generation window on the due date."⟩
        else
          ⟨true, false, "Preventive plan entered its lead generation window on " ++
            windowOpensAt.isoformat ++ " for scheduled due date " ++ dueAt.isoformat ++ "."⟩
      else
        ⟨false, false, "Preventive plan is scheduled for " ++ dueAt.isoformat ++
          "; generation window opens at " ++ windowOpensAt.isoformat ++ "."⟩

def evaluatePlan (store : MaintenanceStore) (plan : PreventivePlan) (asOf : Moment) :
    TriggerEvaluation :=
  if plan.usesCalendarInstances then evaluateCalendarInstanceWindow store plan asOf
  else evaluateTriggerState store plan.trigger asOf

inductive DueState
  | due
  | notDue
  | blocked
  deriving DecidableEq, Repr

inductive GenerationTarget
  | workOrder
  | workRequest
  deriving DecidableEq, Repr

def PreventivePlan.generationTarget (plan : PreventivePlan) : GenerationTarget :=
  if plan.autoGenerateWorkOrder then .workOrder else .workRequest

structure DueCandidate where
  planId : String
  planCode : String
  planName : String
  dueState : DueState
  dueReason : String
  generationTarget : GenerationTarget
  selectedPlanTaskIds : List String := []
  blockedPlanTaskIds : List String := []

def isSelected (store : MaintenanceStore) (planDue : Bool) (asOf : Moment)
    (planTask : PreventivePlanTask) : Bool :=
  if planTask.triggerScope = .inheritPlan then planDue
  else (evaluateTriggerState store planTask.trigger asOf).due

def isBlocked (store : MaintenanceStore) (asOf : Moment) (planTask : PreventivePlanTask) : Bool :=
  let evaluation := evaluateTriggerState store planTask.trigger asOf
  planTask.triggerScope ≠ .inheritPlan ∧ evaluation.due = false ∧ evaluation.blocked = true

/-- The state of a candidate and its reason, from the evaluation of the plan, whether it has tasks
and whether some of them are selected. -/
def candidateState (evaluation : TriggerEvaluation) (hasTasks hasSelected : Bool) :
    DueState × String :=
  if evaluation.due ∧ hasTasks ∧ ¬ hasSelected then
    (.notDue, "Plan is due, but no plan tasks are currently due.")
  else if evaluation.due ∨ hasSelected then
    (.due, if evaluation.due then evaluation.reason
      else "One or more task-level trigger overrides are due.")
  else if evaluation.blocked then (.blocked, evaluation.reason)
  else (.notDue, orElse evaluation.reason "Preventive plan is not due.")

def buildCandidate (store : MaintenanceStore) (plan : PreventivePlan) (asOf : Moment) :
    DueCandidate :=
  let evaluation := evaluatePlan store plan asOf
  let planTasks := listPlanTasks store plan.organizationId plan.id
  let selected := planTasks.filter (isSelected store evaluation.due asOf)
  let state := candidateState evaluation (!planTasks.isEmpty) (!selected.isEmpty)
  { planId := plan.id
    planCode := plan.planCode
    planName := plan.name
    dueState := state.1
    dueReason := state.2
    generationTarget := plan.generationTarget
    selectedPlanTaskIds :=
      if state.1 = .due then selected.map PreventivePlanTask.id else []
    blockedPlanTaskIds :=
      (planTasks.filter (isBlocked store asOf)).map PreventivePlanTask.id }

end ProjectManager.Maintenance
