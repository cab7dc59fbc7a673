import Mathlib.Order.Bounds.Defs
import ProjectManager.Maintenance.Support
import ProjectManager.Maintenance.Triggers

/-! # Sensor counters

After a generation the counter of a trigger moves past the reading of its sensor. The
checks of a trigger ask for a threshold, but not for a positive one.
-/

namespace ProjectManager.Maintenance

open Foundation

/-! ## Accepted triggers -/

/-- A number that is given may be negative. -/
def coerceDecimalValue (value : Option ℚ) (label : String) : Except DomainError ℚ :=
  require value (validationError (label ++ " is required.") (labelCode label ++ "_REQUIRED"))

def coerceOptionalDecimalValue (value : Option ℚ) (label : String) :
    Except DomainError (Option ℚ) :=
  value.mapM fun given => coerceDecimalValue (some given) label

/-- The texts and codes of a check of triggers. -/
structure TriggerTexts where
  calendarRequired : String
  sensorNotAllowed : String
  sensorRequired : String
  calendarNotAllowed : String
  hybridCalendarRequired : String
  hybridSensorRequired : String
  subject : String

/-- What a plan or an override states about its trigger when it is created or updated. -/
structure TriggerConfiguration where
  triggerMode : TriggerMode
  calendarFrequencyUnit : Option CalendarFrequencyUnit := none
  calendarFrequencyValue : Option ℕ := none
  sensor : Option Sensor := none
  sensorThreshold : Option ℚ := none
  sensorDirection : Option SensorDirection := none

def TriggerConfiguration.hasSensor (configuration : TriggerConfiguration) : Prop :=
  configuration.sensor.isSome = true ∧ configuration.sensorThreshold.isSome = true ∧
    configuration.sensorDirection.isSome = true

instance (configuration : TriggerConfiguration) : Decidable configuration.hasSensor :=
  inferInstanceAs (Decidable (_ ∧ _ ∧ _))

def TriggerConfiguration.hasCalendar (configuration : TriggerConfiguration) : Prop :=
  (frequency configuration.calendarFrequencyUnit configuration.calendarFrequencyValue).isSome =
    true

instance (configuration : TriggerConfiguration) : Decidable configuration.hasCalendar :=
  inferInstanceAs (Decidable (_ = true))

def validateTrigger (texts : TriggerTexts) (configuration : TriggerConfiguration) :
    Except DomainError Unit :=
  let refused := fun (message suffix : String) => validationError message (texts.subject ++ suffix)
  match configuration.triggerMode with
  | .calendar => do
      ensure configuration.hasCalendar (refused texts.calendarRequired "_CALENDAR_REQUIRED")
      ensure (configuration.sensor.isNone = true ∧ configuration.sensorThreshold.isNone = true ∧
          configuration.sensorDirection.isNone = true)
        (refused texts.sensorNotAllowed "_SENSOR_NOT_ALLOWED")
  | .sensor => do
      ensure configuration.hasSensor (refused texts.sensorRequired "_SENSOR_REQUIRED")
      ensure (configuration.calendarFrequencyUnit.isNone = true ∧
          configuration.calendarFrequencyValue.isNone = true)
        (refused texts.calendarNotAllowed "_CALENDAR_NOT_ALLOWED")
  | .hybrid => do
      ensure configuration.hasCalendar (refused texts.hybridCalendarRequired "_CALENDAR_REQUIRED")
      ensure configuration.hasSensor (refused texts.hybridSensorRequired "_SENSOR_REQUIRED")

/-- `_validate_trigger_configuration` of the plans. -/
def validateTriggerConfiguration : TriggerConfiguration → Except DomainError Unit :=
  validateTrigger
    { calendarRequired := "Calendar-triggered preventive plans require frequency unit and value."
      sensorNotAllowed := "Calendar-triggered preventive plans cannot define sensor trigger fields."
      sensorRequired := "Sensor-triggered preventive plans require sensor, threshold, and direction."
      calendarNotAllowed :=
        "Sensor-triggered preventive plans cannot define calendar trigger fields."
      hybridCalendarRequired :=
        "Hybrid preventive plans require calendar frequency unit and value."
      hybridSensorRequired :=
        "Hybrid preventive plans require sensor, threshold, and direction."
      subject := "MAINTENANCE_PREVENTIVE_PLAN" }

/-- `_validate_override_trigger_configuration` of the plan tasks. -/
def validateOverrideTriggerConfiguration : TriggerConfiguration → Except DomainError Unit :=
  validateTrigger
    { calendarRequired := "Calendar-triggered task overrides require frequency unit and value."
      sensorNotAllowed := "Calendar-triggered task overrides cannot define sensor fields."
      sensorRequired := "Sensor-triggered task overrides require sensor, threshold, and direction."
      calendarNotAllowed := "Sensor-triggered task overrides cannot define calendar fields."
      hybridCalendarRequired := "Hybrid task overrides require frequency unit and value."
      hybridSensorRequired := "Hybrid task overrides require sensor, threshold, and direction."
      subject := "MAINTENANCE_PREVENTIVE_PLAN_TASK" }

/-! ## The loop -/

section

variable {reading step base counter : ℚ}

def countersAbove (reading step base : ℚ) : Set ℚ :=
  {counter | reading < counter ∧ ∃ k : ℕ, counter = base + k * step}

theorem passLoop_eq_some {fuel : ℕ} (h : passLoop reading step fuel base = some counter) :
    counter ∈ countersAbove reading step base ∧
      ∀ k : ℕ, base + k * step < counter → 0 < step → base + k * step ≤ reading := by
  induction fuel generalizing base with
  | zero =>
      unfold passLoop at h
      split at h
      next hlt =>
        cases h
        refine ⟨⟨hlt, 0, by simp⟩, fun k hk hstep => ?_⟩
        have : 0 ≤ (k : ℚ) * step := mul_nonneg k.cast_nonneg hstep.le
        linarith
      next => cases h
  | succ fuel ih =>
      unfold passLoop at h
      split at h
      next hlt =>
        cases h
        refine ⟨⟨hlt, 0, by simp⟩, fun k hk hstep => ?_⟩
        have : 0 ≤ (k : ℚ) * step := mul_nonneg k.cast_nonneg hstep.le
        linarith
      next hle =>
        obtain ⟨⟨hlt, k, hk⟩, hbelow⟩ := ih h
        refine ⟨⟨hlt, k + 1, by rw [hk]; push_cast; ring⟩, fun j hj hstep => ?_⟩
        cases j with
        | zero => simpa using not_lt.mp hle
        | succ j =>
            have hshift : base + (j + 1 : ℕ) * step = base + step + j * step := by
              push_cast
              ring
            rw [hshift] at hj ⊢
            exact hbelow j hj hstep

theorem passReading_of_lt (h : reading < base) : passReading reading step base = some base := by
  unfold passReading
  generalize (if 0 < step then _ else 0) = fuel
  cases fuel <;> exact if_pos h

/-- The loop ends at the least counter above the reading when its steps are positive. Without a
loop the base is the least one when it is the only one. -/
theorem passReading_isLeast_iff :
    (∃ counter, passReading reading step base = some counter ∧
        IsLeast (countersAbove reading step base) counter) ↔
      0 < step ∨ reading < base ∧ (step = 0 ∨ base + step ≤ reading) := by
  by_cases hstep : 0 < step
  · refine iff_of_true ?_ (Or.inl hstep)
    obtain ⟨counter, hcounter⟩ := Option.isSome_iff_exists.mp
      (passReading_isSome_iff.mpr (Or.inr hstep) : (passReading reading step base).isSome = true)
    obtain ⟨hmem, hbelow⟩ := passLoop_eq_some hcounter
    refine ⟨counter, hcounter, hmem, ?_⟩
    rintro other ⟨habove, k, rfl⟩
    by_contra hlt
    exact absurd (hbelow k (not_le.mp hlt) hstep) (not_le.mpr habove)
  · rw [or_iff_right hstep]
    constructor
    · rintro ⟨counter, hcounter, hmem, hleast⟩
      have hpassed : (passReading reading step base).isSome = true := by rw [hcounter]; rfl
      have hlt := (passReading_isSome_iff.mp hpassed).resolve_right hstep
      rw [passReading_of_lt hlt] at hcounter
      cases hcounter
      refine ⟨hlt, or_iff_not_imp_left.mpr fun hne => ?_⟩
      -- one step down would be a smaller counter
      by_contra hgt
      have hsmaller : base ≤ base + step := hleast ⟨not_le.mp hgt, 1, by simp⟩
      exact hstep (lt_of_le_of_ne (by linarith) (Ne.symm hne))
    · rintro ⟨hlt, honly⟩
      refine ⟨base, passReading_of_lt hlt, ⟨hlt, 0, by simp⟩, ?_⟩
      rintro other ⟨habove, k, rfl⟩
      cases k with
      | zero => simp
      | succ k =>
          rcases honly with rfl | hle
          · simp
          · have hdown : (k : ℚ) * step ≤ 0 :=
              mul_nonpos_of_nonneg_of_nonpos k.cast_nonneg (not_lt.mp hstep)
            push_cast at habove
            linarith

end

/-! ## Triggers -/

/-- The counter from which a trigger counts. -/
def Trigger.base (trigger : Trigger) (step : ℚ) : ℚ := trigger.nextDueCounter.getD step

/-- The advance of a counter ends, at the least value above the reading, and the trigger is due
again from that value on. -/
def CountsOn (trigger : Trigger) (sensor : Option Sensor) : Prop :=
  ∃ next, nextSensorDueCounter sensor trigger.sensorThreshold trigger.sensorDirection
      trigger.nextDueCounter = some next ∧
    ∀ reading ∈ sensor.bind Sensor.currentValue, ∀ step ∈ trigger.sensorThreshold,
      trigger.sensorDirection = some .greaterOrEqual →
        ∃ counter, next = some counter ∧
          IsLeast (countersAbove reading step (trigger.base step)) counter ∧
          ∀ later readAt, (evaluateReading { trigger with nextDueCounter := next } step
            .greaterOrEqual later readAt).due = true ↔ counter ≤ later

/-- The threshold is positive, or the counter is above the reading and no other counter is. -/
def CounterFits (trigger : Trigger) (sensor : Option Sensor) : Prop :=
  ∀ reading ∈ sensor.bind Sensor.currentValue, ∀ step ∈ trigger.sensorThreshold,
    trigger.sensorDirection = some .greaterOrEqual →
      0 < step ∨ reading < trigger.base step ∧
        (step = 0 ∨ trigger.base step + step ≤ reading)

/-- The counter of a plan or of a plan task is advanced to the least value above the reading
exactly when the step fits. -/
theorem nextSensorDueCounter_countsOn_iff (trigger : Trigger) (sensor : Option Sensor) :
    CountsOn trigger sensor ↔ CounterFits trigger sensor := by
  unfold CountsOn CounterFits nextSensorDueCounter
  cases hreading : sensor.bind Sensor.currentValue with
  | none => simp
  | some reading =>
      cases hthreshold : trigger.sensorThreshold with
      | none => simp
      | some step =>
          cases hdirection : trigger.sensorDirection with
          | none => simp
          | some direction =>
              cases direction with
              | lessOrEqual | equal => simp
              | greaterOrEqual =>
                  simp only [Option.mem_def, Option.some.injEq, forall_eq', forall_const]
                  rw [← passReading_isLeast_iff]
                  constructor
                  · rintro ⟨next, hnext, counter, rfl, hleast, -⟩
                    obtain ⟨found, hfound, heq⟩ := Option.map_eq_some_iff.mp hnext
                    exact ⟨counter, Option.some.inj heq ▸ hfound, hleast⟩
                  · rintro ⟨counter, hcounter, hleast⟩
                    refine ⟨some counter, Option.map_eq_some_iff.mpr ⟨counter, hcounter, rfl⟩,
                      counter, rfl, hleast, fun later readAt => ?_⟩
                    simp [evaluateReading, thresholdEvaluation]

/-- A boiler that is watched for temperatures from -10 degrees on. -/
def boilerConfiguration : TriggerConfiguration where
  triggerMode := .sensor
  sensor := some { id := "boiler", organizationId := "org", currentValue := some 5 }
  sensorThreshold := some (-10)
  sensorDirection := some .greaterOrEqual

def boilerTrigger : Trigger where
  triggerMode := some .sensor
  calendarFrequencyUnit := none
  calendarFrequencyValue := none
  sensorId := some "boiler"
  sensorThreshold := boilerConfiguration.sensorThreshold
  sensorDirection := boilerConfiguration.sensorDirection
  lastGeneratedAt := none
  nextDueAt := none
  nextDueCounter := none

/-- Plans and overrides accept the threshold, and the advance of the counter does not end. -/
theorem not_countsOn_boiler :
    (coerceOptionalDecimalValue (some (-10)) "Sensor threshold").toOption =
        some boilerConfiguration.sensorThreshold ∧
      (validateTriggerConfiguration boilerConfiguration).isOk = true ∧
      (validateOverrideTriggerConfiguration boilerConfiguration).isOk = true ∧
      (∀ fuel, passLoop 5 (-10) fuel (-10) = none) ∧
      ¬ CountsOn boilerTrigger boilerConfiguration.sensor := by
  refine ⟨by decide +kernel, by decide +kernel, by decide +kernel, fun fuel => ?_, ?_⟩
  · exact passLoop_eq_none (by norm_num) fuel (by norm_num)
  · rintro ⟨next, hnext, -⟩
    have hnone : nextSensorDueCounter boilerConfiguration.sensor boilerTrigger.sensorThreshold
        boilerTrigger.sensorDirection boilerTrigger.nextDueCounter = none := by
      decide +kernel
    rw [hnone] at hnext
    cases hnext

end ProjectManager.Maintenance
