import Mathlib.Algebra.Order.Archimedean.Basic
import Mathlib.Data.Rat.Floor
import ProjectManager.Maintenance.Domain

/-! # Triggers

The calendar advances a due date by whole periods of a frequency; a lead opens the
generation window before the due date; a sensor counter advances past the reading in
steps of the threshold. A plan or a plan task is due by its calendar, by its sensor or by
both. A trigger whose configuration or sensor cannot be used is blocked.
-/

namespace ProjectManager.Maintenance

open Foundation

def advanceCalendarDue (anchor : Moment) (unit : CalendarFrequencyUnit) (value : ℕ) : Moment :=
  match unit with
  | .daily => anchor.addDays value
  | .weekly => anchor.addDays (7 * value)
  | .customDays => anchor.addDays value
  | .monthly => anchor.addMonths value
  | .quarterly => anchor.addMonths (value * 3)
  | .yearly => anchor.addMonths (value * 12)

/-- `unit is None or value in (None, 0)` is no frequency. -/
def frequency (unit : Option CalendarFrequencyUnit) (value : Option ℕ) :
    Option (CalendarFrequencyUnit × ℕ) :=
  match unit, value with
  | some unit, some (value + 1) => some (unit, value + 1)
  | _, _ => none

def nextCalendarDueValue (asOf : Moment) (unit : Option CalendarFrequencyUnit)
    (value : Option ℕ) : Option Moment :=
  (frequency unit value).map fun given => advanceCalendarDue asOf given.1 given.2

def leadWindowStartsAt (plan : PreventivePlan) (dueAt : Moment) : Moment :=
  match plan.generationLeadUnit with
  | .days => dueAt.addDays (-plan.generationLeadValue)
  | .weeks => dueAt.addDays (-(7 * plan.generationLeadValue))
  | .months =>
      if plan.generationLeadValue = 0 then dueAt else dueAt.addMonths (-plan.generationLeadValue)

/-! ## Sensor counters -/

/-- `while reading >= base: base += step`, cut off after the given iterations. -/
def passLoop (reading step : ℚ) : ℕ → ℚ → Option ℚ
  | 0, base => if reading < base then some base else none
  | fuel + 1, base => if reading < base then some base else passLoop reading step fuel (base + step)

/-- The loop with as many iterations as it can need. Without a positive step a loop that begins
does not end. -/
def passReading (reading step base : ℚ) : Option ℚ :=
  passLoop reading step (if 0 < step then ⌊(reading - base) / step⌋.toNat + 1 else 0) base

/-- An outer `none` is a loop that does not end. -/
def nextSensorDueCounter (sensor : Option Sensor) (threshold : Option ℚ)
    (direction : Option SensorDirection) (currentDueCounter : Option ℚ) : Option (Option ℚ) :=
  match sensor.bind Sensor.currentValue, threshold, direction with
  | some reading, some threshold, some .greaterOrEqual =>
      (passReading reading threshold (currentDueCounter.getD threshold)).map some
  | some _, some _, some _ => some currentDueCounter
  | _, _, _ => some none

section

variable {reading step : ℚ}

theorem passLoop_isSome {fuel : ℕ} {base : ℚ}
    (h : reading < base + fuel * step) : (passLoop reading step fuel base).isSome = true := by
  induction fuel generalizing base with
  | zero =>
      rw [Nat.cast_zero, zero_mul, add_zero] at h
      rw [passLoop, if_pos h]
      rfl
  | succ fuel ih =>
      unfold passLoop
      split
      · rfl
      · apply ih
        rwa [Nat.cast_succ, add_mul, one_mul, add_comm _ step, ← add_assoc] at h

theorem passLoop_eq_none (hstep : step ≤ 0) (fuel : ℕ) {base : ℚ} (h : base ≤ reading) :
    passLoop reading step fuel base = none := by
  induction fuel generalizing base with
  | zero => rw [passLoop, if_neg (not_lt.mpr h)]
  | succ fuel ih =>
      rw [passLoop, if_neg (not_lt.mpr h)]
      exact ih (by linarith)

/-- The counter passes the reading at once, or by positive steps. -/
theorem passReading_isSome_iff {base : ℚ} :
    (passReading reading step base).isSome = true ↔ reading < base ∨ 0 < step := by
  by_cases hstep : 0 < step
  · refine iff_of_true ?_ (Or.inr hstep)
    rw [passReading, if_pos hstep]
    apply passLoop_isSome
    have hfloor : (reading - base) / step < (⌊(reading - base) / step⌋.toNat + 1 : ℕ) := by
      refine (Int.lt_floor_add_one _).trans_le ?_
      rw [Nat.cast_succ]
      have hle : ⌊(reading - base) / step⌋ ≤ (⌊(reading - base) / step⌋.toNat : ℤ) :=
        Int.self_le_toNat _
      exact_mod_cast Int.add_le_add_right hle 1
    have hpassed := (div_lt_iff₀ hstep).mp hfloor
    linarith
  · rw [passReading, if_neg hstep, passLoop]
    by_cases h : reading < base
    · simp [h]
    · simp [h, hstep]

end

/-! ## The order of due dates -/

section

variable (unit : CalendarFrequencyUnit) {value : ℕ} {first second : Moment}

@[simp] theorem time_advanceCalendarDue (anchor : Moment) (value : ℕ) :
    (advanceCalendarDue anchor unit value).time = anchor.time := by
  cases unit <;> simp only [advanceCalendarDue, Moment.time_addDays, Moment.time_addMonths]

/-- A due date is followed by a later one. -/
theorem lt_advanceCalendarDue (anchor : Moment) (h : 0 < value) :
    anchor < advanceCalendarDue anchor unit value := by
  cases unit
  case daily | weekly | customDays => exact anchor.lt_addDays (by omega)
  case monthly | quarterly | yearly => exact anchor.lt_addMonths (by omega)

/-- At one time of day, an earlier due date has the earlier lead window. -/
theorem leadWindowStartsAt_mono (plan : PreventivePlan) (htime : first.time = second.time)
    (h : first ≤ second) : leadWindowStartsAt plan first ≤ leadWindowStartsAt plan second := by
  unfold leadWindowStartsAt
  split
  · exact Moment.addDays_mono h _
  · exact Moment.addDays_mono h _
  · split
    · exact h
    · exact Moment.addMonths_mono htime h _

/-- The generation window opens no later than on the due date. -/
theorem leadWindowStartsAt_le (plan : PreventivePlan) (due : Moment) :
    leadWindowStartsAt plan due ≤ due := by
  unfold leadWindowStartsAt
  split
  · exact due.addDays_le (by omega)
  · exact due.addDays_le (by omega)
  · split
    next => exact le_rfl
    next h => exact due.addMonths_le (by omega)

theorem frequency_eq_some {unit : Option CalendarFrequencyUnit} {value : Option ℕ}
    {given : CalendarFrequencyUnit × ℕ} (h : frequency unit value = some given) :
    unit = some given.1 ∧ value = some given.2 ∧ 0 < given.2 := by
  unfold frequency at h
  split at h
  · obtain rfl := Option.some.inj h
    exact ⟨rfl, rfl, Nat.succ_pos _⟩
  · cases h

end

end ProjectManager.Maintenance

namespace ProjectManager.Maintenance

open Foundation

structure TriggerEvaluation where
  due : Bool
  blocked : Bool
  reason : String
  deriving DecidableEq

/-- What a plan and a plan task state about their trigger. -/
structure Trigger where
  triggerMode : Option TriggerMode
  calendarFrequencyUnit : Option CalendarFrequencyUnit
  calendarFrequencyValue : Option ℕ
  sensorId : Option String
  sensorThreshold : Option ℚ
  sensorDirection : Option SensorDirection
  lastGeneratedAt : Option Moment
  nextDueAt : Option Moment
  nextDueCounter : Option ℚ

def PreventivePlan.trigger (plan : PreventivePlan) : Trigger where
  triggerMode := plan.triggerMode
  calendarFrequencyUnit := plan.calendarFrequencyUnit
  calendarFrequencyValue := plan.calendarFrequencyValue
  sensorId := plan.sensorId
  sensorThreshold := plan.sensorThreshold
  sensorDirection := plan.sensorDirection
  lastGeneratedAt := plan.lastGeneratedAt
  nextDueAt := plan.nextDueAt
  nextDueCounter := plan.nextDueCounter

def PreventivePlanTask.trigger (planTask : PreventivePlanTask) : Trigger where
  triggerMode := planTask.triggerModeOverride
  calendarFrequencyUnit := planTask.calendarFrequencyUnitOverride
  calendarFrequencyValue := planTask.calendarFrequencyValueOverride
  sensorId := planTask.sensorIdOverride
  sensorThreshold := planTask.sensorThresholdOverride
  sensorDirection := planTask.sensorDirectionOverride
  lastGeneratedAt := planTask.lastGeneratedAt
  nextDueAt := planTask.nextDueAt
  nextDueCounter := planTask.nextDueCounter

/-- The sensor that an id names, when one is given. -/
def linkedSensor (store : MaintenanceStore) (sensorId : Option String) : Option Sensor :=
  (sensorId.filter (· ≠ "")).bind store.sensors.get?

def evaluateCalendarTrigger (trigger : Trigger) (asOf : Moment) : TriggerEvaluation :=
  match frequency trigger.calendarFrequencyUnit trigger.calendarFrequencyValue with
  | none => ⟨false, true, "Calendar trigger configuration is incomplete."⟩
  | some given =>
      match trigger.nextDueAt <|> trigger.lastGeneratedAt.map fun last =>
          advanceCalendarDue last given.1 given.2 with
      | none => ⟨true, false, "Preventive plan is due because no previous generation exists."⟩
      | some effectiveNextDue =>
          if effectiveNextDue ≤ asOf then
            ⟨true, false, "Preventive plan reached its calendar due date."⟩
          else ⟨false, false, "Preventive plan has not reached its calendar due date."⟩

def thresholdEvaluation (due : Bool) : TriggerEvaluation :=
  ⟨due, false, if due then "Sensor threshold reached." else "Sensor threshold not yet reached."⟩

/-- A usable reading against the threshold. A reading above the threshold counts from the next due
counter on; the other directions need a reading since the last generation. -/
def evaluateReading (trigger : Trigger) (threshold : ℚ) (direction : SensorDirection)
    (currentValue : ℚ) (lastReadAt : Moment) : TriggerEvaluation :=
  if direction = .greaterOrEqual then
    thresholdEvaluation (trigger.nextDueCounter.getD threshold ≤ currentValue)
  else if ∃ last ∈ trigger.lastGeneratedAt, lastReadAt ≤ last then
    ⟨false, false, "No newer qualifying sensor reading is available."⟩
  else if direction = .lessOrEqual then thresholdEvaluation (currentValue ≤ threshold)
  else thresholdEvaluation (currentValue = threshold)

def evaluateSensorTrigger (store : MaintenanceStore) (trigger : Trigger) : TriggerEvaluation :=
  match trigger.sensorId.filter (· ≠ ""), trigger.sensorThreshold, trigger.sensorDirection with
  | some sensorId, some threshold, some direction =>
      match store.sensors.get? sensorId with
      | none => ⟨false, true, "Linked preventive sensor was not found."⟩
      | some sensor =>
          match sensor.currentValue, sensor.lastReadAt with
          | some currentValue, some lastReadAt =>
              if sensor.lastQualityState = .valid then
                evaluateReading trigger threshold direction currentValue lastReadAt
              else ⟨false, true, "Linked preventive sensor is not in a valid quality state."⟩
          | _, _ => ⟨false, true, "Linked preventive sensor has no usable reading."⟩
  | _, _, _ => ⟨false, true, "Sensor trigger configuration is incomplete."⟩

/-- A hybrid trigger asks its sensor first. A plan task without a mode of its own is evaluated as
hybrid. -/
def evaluateTriggerState (store : MaintenanceStore) (trigger : Trigger) (asOf : Moment) :
    TriggerEvaluation :=
  match trigger.triggerMode with
  | some .calendar => evaluateCalendarTrigger trigger asOf
  | some .sensor => evaluateSensorTrigger store trigger
  | _ =>
      let sensorEvaluation := evaluateSensorTrigger store trigger
      if sensorEvaluation.blocked then
        ⟨false, true, "Hybrid trigger is blocked because the linked sensor state is not usable."⟩
      else if sensorEvaluation.due then
        ⟨true, false, "Hybrid preventive trigger is due from sensor state."⟩
      else if (evaluateCalendarTrigger trigger asOf).due then
        ⟨true, false, "Hybrid preventive trigger is due from calendar cadence."⟩
      else ⟨false, false, "Hybrid preventive trigger is not due."⟩

end ProjectManager.Maintenance
