import SmartSensorNetwork.Sensor.Sensor

/-!
# Battery life

Each reading drains the battery by some amount and stops at zero. Over the
rationals the level after a run is one subtraction with one clamp.
-/

namespace SmartSensorNetwork.BatterySensor

/-- A new sensor after one `collectData` for each drain. -/
def drained (id : UInt32) (drains : List ℚ) : BatterySensor ℚ :=
  drains.foldl (fun sensor drain ↦ (sensor.collectData drain).2) (new id)

/-- What the generator of the drains returns. -/
def IsDrain (drain : ℚ) : Prop := 0.2 ≤ drain ∧ drain ≤ 0.5

/-- The state stays, or goes on by one. -/
def Onward (s t : SensorState) : Prop :=
  s = t ∨ s = .active ∧ t = .warning ∨ s = .warning ∧ t = .error

def telemetryAfter (id : UInt32) (drains : List ℚ) (now : UInt64) : TelemetryMessage ℚ :=
  ((AnySensor.battery (drained id drains)).createTelemetry now).1

structure OneWay (id : UInt32) (drains : List ℚ) : Prop where
  level : (drained id drains).batteryLevel = max 0 (100 - drains.sum)
  nonneg : 0 ≤ (drained id drains).batteryLevel
  le_full : (drained id drains).batteryLevel ≤ 100
  antitone : ∀ before, before <+: drains →
    (drained id drains).batteryLevel ≤ (drained id before).batteryLevel
  value : ∀ now, (telemetryAfter id drains now).value = (drained id drains).batteryLevel
  active : ∀ now, (telemetryAfter id drains now).state = .active ↔
    30 < (drained id drains).batteryLevel
  warning : ∀ now, (telemetryAfter id drains now).state = .warning ↔
    10 < (drained id drains).batteryLevel ∧ (drained id drains).batteryLevel ≤ 30
  error : ∀ now, (telemetryAfter id drains now).state = .error ↔
    (drained id drains).batteryLevel ≤ 10
  onward : ∀ before drain, before ++ [drain] <+: drains →
    Onward (drained id before).currentState (drained id (before ++ [drain])).currentState
  neverBack : ∀ before, before <+: drains →
    ((drained id drains).currentState = .active → (drained id before).currentState = .active) ∧
      ((drained id before).currentState = .error → (drained id drains).currentState = .error)
  notError : drains.length < 180 → (drained id drains).currentState ≠ .error
  isError : 450 ≤ drains.length → (drained id drains).currentState = .error

/-! ## The level -/

def stateAt (level : ℚ) : SensorState :=
  if 30 < level then .active else if 10 < level then .warning else .error

theorem collectData_level (sensor : BatterySensor ℚ) (drain : ℚ) :
    (sensor.collectData drain).2.batteryLevel = max 0 (sensor.batteryLevel - drain) := by
  have hzero : (0.0 : ℚ) = 0 := by norm_num
  simp only [collectData, hzero]
  split_ifs with hneg
  · exact (max_eq_left hneg.le).symm
  · exact (max_eq_right (not_lt.mp hneg)).symm

theorem collectData_state (sensor : BatterySensor ℚ) (drain : ℚ) :
    (sensor.collectData drain).2.currentState =
      stateAt (sensor.collectData drain).2.batteryLevel := by
  have hwarning : (warningThreshold : ℚ) = 30 := by norm_num [warningThreshold]
  have herror : (errorThreshold : ℚ) = 10 := by norm_num [errorThreshold]
  simp only [collectData, stateAt, hwarning, herror]

theorem drained_concat (id : UInt32) (drains : List ℚ) (drain : ℚ) :
    drained id (drains ++ [drain]) = ((drained id drains).collectData drain).2 := by
  simp [drained]

theorem drained_nil_level (id : UInt32) : (drained id []).batteryLevel = 100 := by
  norm_num [drained, new, fullBattery]

/-- Clamping at every step comes to clamping once: a drain of a level that is
already zero adds nothing. -/
theorem level_eq (id : UInt32) {drains : List ℚ} (hdrains : ∀ d ∈ drains, IsDrain d) :
    (drained id drains).batteryLevel = max 0 (100 - drains.sum) := by
  induction drains using List.reverseRecOn with
  | nil => rw [drained_nil_level, List.sum_nil, sub_zero, max_eq_right (by norm_num)]
  | append_singleton drains drain ih =>
      have hpos : 0 ≤ drain := by
        have hdrain := (hdrains drain (by simp)).1
        linarith
      have hlevel := ih fun d hd ↦ hdrains d (List.mem_append_left _ hd)
      rw [drained_concat, collectData_level, hlevel, List.sum_append, List.sum_singleton]
      rcases le_total 0 (100 - drains.sum) with hcharged | hempty
      · rw [max_eq_right hcharged, sub_sub]
      · rw [max_eq_left hempty, max_eq_left (by linarith), max_eq_left (by linarith)]

theorem state_eq (id : UInt32) (drains : List ℚ) :
    (drained id drains).currentState = stateAt (drained id drains).batteryLevel := by
  induction drains using List.reverseRecOn with
  | nil =>
      rw [drained_nil_level, stateAt, if_pos (by norm_num)]
      rfl
  | append_singleton drains drain _ => rw [drained_concat, collectData_state]

theorem value_eq (id : UInt32) {drains : List ℚ} (hne : drains ≠ []) :
    (drained id drains).currentValue = (drained id drains).batteryLevel := by
  obtain ⟨before, drain, rfl⟩ := List.eq_nil_or_concat' drains |>.resolve_left hne
  rw [drained_concat]
  rfl

theorem antitone_level (id : UInt32) {before drains : List ℚ} (hbefore : before <+: drains)
    (hdrains : ∀ d ∈ drains, IsDrain d) :
    (drained id drains).batteryLevel ≤ (drained id before).batteryLevel := by
  obtain ⟨after, rfl⟩ := hbefore
  have hafter : 0 ≤ after.sum := by
    apply List.sum_nonneg
    intro d hd
    have hdrain := (hdrains d (List.mem_append_right _ hd)).1
    linarith
  rw [level_eq id hdrains, level_eq id fun d hd ↦ hdrains d (List.mem_append_left _ hd),
    List.sum_append]
  exact max_le_max le_rfl (by linarith)

/-! ## The state -/

structure Bands (level : ℚ) (state : SensorState) : Prop where
  active : state = .active ↔ 30 < level
  warning : state = .warning ↔ 10 < level ∧ level ≤ 30
  error : state = .error ↔ level ≤ 10

theorem bands_stateAt (level : ℚ) : Bands level (stateAt level) := by
  have hwarning : SensorState.active ≠ .warning := by decide
  have herror : SensorState.active ≠ .error := by decide
  have hmiddle : SensorState.warning ≠ .error := by decide
  rw [stateAt]
  split_ifs with hactive hlow
  · exact {
      active := iff_of_true rfl hactive
      warning := iff_of_false hwarning fun h ↦ absurd hactive (not_lt.mpr h.2)
      error := iff_of_false herror (by linarith) }
  · exact {
      active := iff_of_false hwarning.symm hactive
      warning := iff_of_true rfl ⟨hlow, not_lt.mp hactive⟩
      error := iff_of_false hmiddle (not_le.mpr hlow) }
  · exact {
      active := iff_of_false herror.symm hactive
      warning := iff_of_false hmiddle.symm fun h ↦ hlow h.1
      error := iff_of_true rfl (not_lt.mp hlow) }

/-- The band in the middle is wider than any drain. -/
theorem onward_stateAt {before after : ℚ} (hle : after ≤ before) (hdrop : before - 0.5 ≤ after) :
    Onward (stateAt before) (stateAt after) := by
  have hbefore := bands_stateAt before
  have hafter := bands_stateAt after
  by_cases hactive : 30 < before
  · by_cases hstays : 30 < after
    · exact .inl ((hbefore.active.mpr hactive).trans (hafter.active.mpr hstays).symm)
    · have hmiddle : 10 < after := by
        norm_num at hdrop
        linarith
      exact .inr (.inl ⟨hbefore.active.mpr hactive,
        hafter.warning.mpr ⟨hmiddle, not_lt.mp hstays⟩⟩)
  · have hlow : after ≤ 30 := by linarith
    by_cases hwarning : 10 < before
    · have hwas := hbefore.warning.mpr ⟨hwarning, not_lt.mp hactive⟩
      by_cases hstays : 10 < after
      · exact .inl (hwas.trans (hafter.warning.mpr ⟨hstays, hlow⟩).symm)
      · exact .inr (.inr ⟨hwas, hafter.error.mpr (not_lt.mp hstays)⟩)
    · have hempty : after ≤ 10 := by linarith
      exact .inl ((hbefore.error.mpr (not_lt.mp hwarning)).trans (hafter.error.mpr hempty).symm)

theorem bands_drained (id : UInt32) (drains : List ℚ) :
    Bands (drained id drains).batteryLevel (drained id drains).currentState := by
  rw [state_eq]
  exact bands_stateAt _

theorem onward_drained (id : UInt32) {before : List ℚ} {drain : ℚ}
    (hdrains : ∀ d ∈ before ++ [drain], IsDrain d) :
    Onward (drained id before).currentState (drained id (before ++ [drain])).currentState := by
  rw [state_eq, state_eq]
  apply onward_stateAt (antitone_level id (List.prefix_append _ _) hdrains)
  rw [drained_concat, collectData_level]
  have hdrain := (hdrains drain (by simp)).2
  exact le_max_of_le_right (by linarith)

theorem sum_drains {drains : List ℚ} (hdrains : ∀ d ∈ drains, IsDrain d) :
    0.2 * drains.length ≤ drains.sum ∧ drains.sum ≤ 0.5 * drains.length := by
  have hlower := List.card_nsmul_le_sum drains 0.2 fun d hd ↦ (hdrains d hd).1
  have hupper := List.sum_le_card_nsmul drains 0.5 fun d hd ↦ (hdrains d hd).2
  rw [nsmul_eq_mul] at hlower hupper
  constructor <;> linarith

theorem never_back (id : UInt32) {before drains : List ℚ} (hbefore : before <+: drains)
    (hdrains : ∀ d ∈ drains, IsDrain d) :
    ((drained id drains).currentState = .active → (drained id before).currentState = .active) ∧
      ((drained id before).currentState = .error →
        (drained id drains).currentState = .error) := by
  have hfalls := antitone_level id hbefore hdrains
  have hearlier := bands_drained id before
  have hlater := bands_drained id drains
  rw [hlater.active, hearlier.active, hlater.error, hearlier.error]
  exact ⟨hfalls.trans_lt', hfalls.trans⟩

/-- Not even the largest drains empty a battery in 179 readings. -/
theorem not_error_of_length_lt (id : UInt32) {drains : List ℚ}
    (hdrains : ∀ d ∈ drains, IsDrain d) (hlength : drains.length < 180) :
    (drained id drains).currentState ≠ .error := by
  intro herror
  have hlow := (bands_drained id drains).error.mp herror
  rw [level_eq id hdrains] at hlow
  have hupper := (sum_drains hdrains).2
  have hcount : (drains.length : ℚ) ≤ 179 := by exact_mod_cast Nat.le_of_lt_succ hlength
  have hremains : 100 - drains.sum ≤ 10 := (le_max_right _ _).trans hlow
  norm_num at hupper
  linarith

/-- Even the smallest drains empty it in 450. -/
theorem error_of_le_length (id : UInt32) {drains : List ℚ} (hdrains : ∀ d ∈ drains, IsDrain d)
    (hlength : 450 ≤ drains.length) : (drained id drains).currentState = .error := by
  have hlower := (sum_drains hdrains).1
  have hcount : (450 : ℚ) ≤ drains.length := by exact_mod_cast hlength
  apply (bands_drained id drains).error.mpr
  rw [level_eq id hdrains]
  norm_num at hlower
  apply max_le
  · norm_num
  · linarith

/-- Over every run of a new sensor the level only falls, and the state goes
from active through warning to error and never back. -/
theorem one_way (id : UInt32) (drains : List ℚ) (hne : drains ≠ [])
    (hdrains : ∀ d ∈ drains, IsDrain d) : OneWay id drains := by
  have hlevel := level_eq id hdrains
  have hbands := bands_drained id drains
  have hvalue := value_eq id hne
  exact {
    level := hlevel
    nonneg := hlevel ▸ le_max_left _ _
    le_full := by
      rw [← drained_nil_level id]
      exact antitone_level id List.nil_prefix hdrains
    antitone := fun before hbefore ↦ antitone_level id hbefore hdrains
    value := fun _ ↦ hvalue
    active := fun _ ↦ hbands.active
    warning := fun _ ↦ hbands.warning
    error := fun _ ↦ hbands.error
    onward := fun before drain hbefore ↦
      onward_drained id fun d hd ↦ hdrains d (hbefore.mem hd)
    neverBack := fun before hbefore ↦ never_back id hbefore hdrains
    notError := not_error_of_length_lt id hdrains
    isError := error_of_le_length id hdrains }

/-- 450 of the largest drains: the battery is empty after 200 of them, and the
level stays at 0. -/
theorem one_way_until_empty :
    OneWay 7 (List.replicate 450 0.5) ∧
      (drained 7 (List.replicate 140 0.5)).currentState = .warning ∧
      (drained 7 (List.replicate 450 0.5)).currentState = .error ∧
      (drained 7 (List.replicate 450 0.5)).batteryLevel = 0 := by
  have hrun : ∀ n ≠ 0, OneWay 7 (List.replicate n 0.5) ∧
      (drained 7 (List.replicate n 0.5)).batteryLevel = max 0 (100 - (n : ℚ) * 0.5) := by
    intro n hn
    have hdrains : ∀ d ∈ List.replicate n (0.5 : ℚ), IsDrain d := by
      intro d hd
      rw [List.eq_of_mem_replicate hd]
      norm_num [IsDrain]
    have h : OneWay 7 (List.replicate n 0.5) := one_way 7 _ (by simpa using hn) hdrains
    refine ⟨h, ?_⟩
    rw [h.level, List.sum_replicate, nsmul_eq_mul]
  obtain ⟨hlong, hempty⟩ := hrun 450 (by norm_num)
  obtain ⟨-, hlow⟩ := hrun 140 (by norm_num)
  refine ⟨hlong, ?_, ?_, ?_⟩
  · apply (bands_drained 7 _).warning.mpr
    rw [hlow]
    norm_num
  · apply (bands_drained 7 _).error.mpr
    rw [hempty]
    norm_num
  · rw [hempty]
    norm_num

end SmartSensorNetwork.BatterySensor
