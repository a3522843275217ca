import SmartSensorNetwork.Sensor.Sensor

/-!
# The pressure bands

The header documents four thresholds, that is three bands around the normal
pressure. The first test of `collectData` joins the two bounds of the inner
band with "or", and every pressure is above the lower or below the upper one.
-/

namespace SmartSensorNetwork

variable {α : Type} [LinearOrder α] [OfScientific α]

namespace AnySensor

variable [Sub α]

/-- The samples collected one after the other, each with the message built
right after it. -/
def readings (sensor : AnySensor α) : List (α × UInt64) → List (α × TelemetryMessage α)
  | [] => []
  | (sample, now) :: rest =>
      let (_, collected) := sensor.collectData sample
      let (message, sensor) := collected.createTelemetry now
      (sample, message) :: sensor.readings rest

theorem readings_pressure_cons (sensor : PressureSensor α) (p : α) (now : UInt64)
    (rest : List (α × UInt64)) :
    ∃ sensor' : PressureSensor α, (AnySensor.pressure sensor).readings ((p, now) :: rest) =
      (p, {
        header := { type := .telemetry, sensorId := sensor.sensorId, timestampMs := now }
        type := .pressure
        state := (sensor.collectData p).2.currentState
        value := p }) :: (AnySensor.pressure sensor').readings rest :=
  ⟨_, rfl⟩

end AnySensor

namespace PressureSensor

/-- The four literals stand in their usual order. -/
structure ThresholdsOrdered (α : Type) [LinearOrder α] [OfScientific α] : Prop where
  lower : (95.0 : α) ≤ 98.0
  inner : (98.0 : α) ≤ 104.0
  upper : (104.0 : α) ≤ 107.0

theorem thresholdsOrdered_of_field (K : Type) [Field K] [LinearOrder K]
    [IsStrictOrderedRing K] : ThresholdsOrdered K where
  lower := by norm_num
  inner := by norm_num
  upper := by norm_num

/-- A message reports the pressure sampled, in the band it lies in. -/
structure Classified (p : α) (message : TelemetryMessage α) : Prop where
  value : message.value = p
  active : message.state = .active ↔ 98.0 ≤ p ∧ p ≤ 104.0
  warning : message.state = .warning ↔ 95.0 ≤ p ∧ p < 98.0 ∨ 104.0 < p ∧ p ≤ 107.0
  error : message.state = .error ↔ p < 95.0 ∨ 107.0 < p

/-- Every pressure is reported as normal. -/
theorem currentState_collectData (hα : ThresholdsOrdered α) (sensor : PressureSensor α) (p : α) :
    (sensor.collectData p).2.currentState = .active := by
  have hjoined : (98.0 : α) ≤ p ∨ p ≤ 104.0 := by
    rcases le_total (98.0 : α) p with hp | hp
    · exact .inl hp
    · exact .inr (hp.trans hα.inner)
  exact if_pos hjoined

theorem classified_iff_of_active (hα : ThresholdsOrdered α) {p : α}
    {message : TelemetryMessage α} (hvalue : message.value = p) (hstate : message.state = .active) :
    Classified p message ↔ 98.0 ≤ p ∧ p ≤ 104.0 := by
  constructor
  · intro h
    exact h.active.mp hstate
  · rintro ⟨hlower, hupper⟩
    have hwarning : message.state ≠ .warning := by
      rw [hstate]
      decide
    have herror : message.state ≠ .error := by
      rw [hstate]
      decide
    refine ⟨hvalue, iff_of_true hstate ⟨hlower, hupper⟩, iff_of_false hwarning ?_,
      iff_of_false herror ?_⟩
    · rintro (⟨-, hp⟩ | ⟨hp, -⟩)
      · exact absurd hlower (not_le.mpr hp)
      · exact absurd hupper (not_le.mpr hp)
    · rintro (hp | hp)
      · exact absurd (hα.lower.trans hlower) (not_le.mpr hp)
      · exact absurd (hupper.trans hα.upper) (not_le.mpr hp)

/-- The messages of a pressure sensor are classified as documented exactly
when every sample lies in the inner band. -/
theorem readings_classified_iff [Sub α] (hα : ThresholdsOrdered α) (sensor : PressureSensor α)
    (samples : List (α × UInt64)) :
    (∀ r ∈ (AnySensor.pressure sensor).readings samples, Classified r.1 r.2) ↔
      ∀ s ∈ samples, 98.0 ≤ s.1 ∧ s.1 ≤ 104.0 := by
  induction samples generalizing sensor with
  | nil => simp [AnySensor.readings]
  | cons s samples ih =>
      obtain ⟨p, now⟩ := s
      obtain ⟨sensor', hcons⟩ := AnySensor.readings_pressure_cons sensor p now samples
      have hstate := currentState_collectData hα sensor p
      rw [hcons, List.forall_mem_cons, List.forall_mem_cons, ih]
      apply and_congr_left'
      exact classified_iff_of_active hα rfl hstate

/-- Both bounds of the inner band belong to it. -/
theorem readings_classified_iff_edges :
    (∀ r ∈ (AnySensor.pressure (new 6)).readings [((104.0 : ℚ), 1000), (98.0, 1001)],
      Classified r.1 r.2) ↔ ∀ s ∈ [((104.0 : ℚ), (1000 : UInt64)), (98.0, 1001)],
        98.0 ≤ s.1 ∧ s.1 ≤ 104.0 :=
  readings_classified_iff (thresholdsOrdered_of_field ℚ) _ _

/-- A pressure of 90 is reported as normal. -/
theorem low_pressure_active :
    ¬ ∀ r ∈ (AnySensor.pressure (new 6)).readings [((90.0 : ℚ), 1000)],
      Classified r.1 r.2 := by
  intro h
  have hstate := currentState_collectData (thresholdsOrdered_of_field ℚ) (new 6) 90.0
  have hband := (h _ List.mem_cons_self).active.mp hstate
  norm_num at hband

end PressureSensor

end SmartSensorNetwork
