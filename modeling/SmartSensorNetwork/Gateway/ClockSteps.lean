import SmartSensorNetwork.Gateway.Watchdog

/-!
# Clock steps

`now()` is documented as a monotonic reference and reads the system clock,
which may be set back. Here every call brings its own reading, in no order,
and the state keeps the largest one taken so far.
-/

namespace SmartSensorNetwork.ClockSteps

open CppStd Gateway

/-- `latest` records the readings; the code has no such variable. -/
structure State where
  gateway : Gateway := {}
  latest : ℕ := 0

/-- Whether the call gets as far as `now()`. -/
def Reads (gateway : Gateway) : Call → Prop
  | .handlePacket b => AcceptsTelemetry b ∨ AcceptsHeartbeat b
  | .detectOfflineSensors => True
  | .getSecondsSinceLastHeartbeat id =>
      ∃ info, gateway.sensors.lookup id = some info ∧ info.lastHeartbeatReceivedTime ≠ 0

instance (gateway : Gateway) : DecidablePred (Reads gateway)
  | .handlePacket _ => inferInstanceAs (Decidable (_ ∨ _))
  | .detectOfflineSensors => inferInstanceAs (Decidable True)
  | .getSecondsSinceLastHeartbeat id =>
      match h : gateway.sensors.lookup id with
      | none => .isFalse (by simp [Reads, h])
      | some info => decidable_of_iff (info.lastHeartbeatReceivedTime ≠ 0) (by simp [Reads, h])

def observe (s : State) (call : Call × UInt64) : ℕ :=
  if Reads s.gateway call.1 then max s.latest call.2.toNat else s.latest

def step (s : State) (call : Call × UInt64) : Option State :=
  some { gateway := s.gateway.perform call.2 call.1, latest := observe s call }

/-- A scan marks no sensor that was heard at a later reading than its own,
and no age exceeds the largest reading. -/
def NoLongSilence (s : State) (call : Call × UInt64) : Prop :=
  match call.1 with
  | .handlePacket _ => True
  | .detectOfflineSensors => ∀ id info, s.gateway.sensors.lookup id = some info →
      call.2 < info.lastHeartbeatReceivedTime → info.health ≠ .offline →
      ((s.gateway.detectOfflineSensors call.2).sensors.lookup id).map SensorInfo.health ≠
        some .offline
  | .getSecondsSinceLastHeartbeat id =>
      (s.gateway.getSecondsSinceLastHeartbeat call.2 id).toNat ≤ observe s call / 1000

/-- The clock was not set back behind the heartbeat of an online sensor that
a scan looks at, or of the sensor whose age is asked for. The right-hand
sides are the far end of the modulus, where the wrapped difference is small
again. -/
def NotSetBack (s : State) (call : Call × UInt64) : Prop :=
  match call.1 with
  | .handlePacket _ => True
  | .detectOfflineSensors => ∀ id info, s.gateway.sensors.lookup id = some info →
      info.health = .online → call.2 < info.lastHeartbeatReceivedTime →
      2 ^ 64 ≤ info.lastHeartbeatReceivedTime.toNat - call.2.toNat + 10000
  | .getSecondsSinceLastHeartbeat id => ∀ info, s.gateway.sensors.lookup id = some info →
      call.2 < info.lastHeartbeatReceivedTime →
      (2 ^ 64 + call.2.toNat - info.lastHeartbeatReceivedTime.toNat) / 1000 ≤ s.latest / 1000

/-! ## Stored times are readings -/

def Invariant (s : State) : Prop := ∀ id, (s.gateway.lastHeard id).toNat ≤ s.latest

theorem latest_le_observe (s : State) (call : Call × UInt64) : s.latest ≤ observe s call := by
  rw [observe]
  split_ifs
  · exact le_max_left _ _
  · exact le_rfl

theorem reads_of_heartbeat {gateway : Gateway} {call : Call} {id : UInt32}
    (h : call.input = .heartbeat id) : Reads gateway call := by
  obtain ⟨b, rfl, hacc, -, hinput⟩ | ⟨b, rfl, -, hacc, -⟩ | ⟨-, hinput⟩ := call_cases call
  · exact .inl hacc
  · exact .inr hacc
  · rcases hinput with hinput | hinput <;> rw [hinput] at h <;> cases h

theorem invariant_step {s s' : State} {call : Call × UInt64} (hs : Invariant s)
    (h : step s call = some s') : Invariant s' := by
  cases h
  intro id
  have hlast : (beat (((s.gateway.perform call.2 call.1).sensors.lookup id).getD {})).last =
      if call.1.input = .heartbeat id then call.2 else s.gateway.lastHeard id := by
    rw [lookup_perform, Watchdog.last_entryStep]
    rfl
  rw [lastHeard, heard, hlast]
  by_cases hheard : call.1.input = .heartbeat id
  · rw [if_pos hheard, observe, if_pos (reads_of_heartbeat hheard)]
    exact le_max_right _ _
  · rw [if_neg hheard]
    exact (hs id).trans (latest_le_observe s call)

/-! ## The two subtractions -/

theorem scan_not_offline_iff {gateway : Gateway} {t : UInt64} {id : UInt32} {info : SensorInfo}
    (hlookup : gateway.sensors.lookup id = some info) (hlt : t < info.lastHeartbeatReceivedTime) :
    (info.health ≠ .offline →
      ((gateway.detectOfflineSensors t).sensors.lookup id).map SensorInfo.health ≠
        some .offline) ↔
    (info.health = .online → 2 ^ 64 ≤ info.lastHeartbeatReceivedTime.toNat - t.toNat + 10000) := by
  have hmarks (hhealth : info.health ≠ .offline) :=
    Watchdog.scan_sets_offline_iff (t := t) hlookup hhealth
  rw [Watchdog.overdue_iff_of_lt hlt] at hmarks
  constructor
  · intro hkept honline
    have hhealth : info.health ≠ .offline := by simp [honline]
    by_contra hnear
    exact hkept hhealth ((hmarks hhealth).mpr ⟨honline, Nat.lt_of_not_le hnear⟩)
  · intro hfar hhealth hoffline
    obtain ⟨honline, hnear⟩ := (hmarks hhealth).mp hoffline
    exact absurd (hfar honline) (Nat.not_le.mpr hnear)

theorem toNat_age {gateway : Gateway} {t : UInt64} {id : UInt32} {info : SensorInfo}
    (hlookup : gateway.sensors.lookup id = some info) (hne : info.lastHeartbeatReceivedTime ≠ 0) :
    (gateway.getSecondsSinceLastHeartbeat t id).toNat =
      if t < info.lastHeartbeatReceivedTime then
        (2 ^ 64 + t.toNat - info.lastHeartbeatReceivedTime.toNat) / 1000
      else (t.toNat - info.lastHeartbeatReceivedTime.toNat) / 1000 := by
  have hbound := info.lastHeartbeatReceivedTime.toNat_lt
  have hbound' := t.toNat_lt
  have hthousand : (1000 : UInt64).toNat = 1000 := rfl
  rw [getSecondsSinceLastHeartbeat, hlookup]
  simp only [hne, if_false, UInt64.toNat_div, UInt64.toNat_sub, hthousand]
  by_cases hlt : t < info.lastHeartbeatReceivedTime
  · have hlt' := UInt64.lt_iff_toNat_lt.mp hlt
    rw [if_pos hlt, Nat.mod_eq_of_lt (by omega)]
    congr 1
    omega
  · have hle := UInt64.le_iff_toNat_le.mp (UInt64.not_lt.mp hlt)
    rw [if_neg hlt]
    congr 1
    omega

theorem age_le_iff {s : State} (hs : Invariant s) {t : UInt64} {id : UInt32} {info : SensorInfo}
    (hlookup : s.gateway.sensors.lookup id = some info) :
    (s.gateway.getSecondsSinceLastHeartbeat t id).toNat ≤
        observe s (.getSecondsSinceLastHeartbeat id, t) / 1000 ↔
      (t < info.lastHeartbeatReceivedTime →
        (2 ^ 64 + t.toNat - info.lastHeartbeatReceivedTime.toNat) / 1000 ≤ s.latest / 1000) := by
  by_cases hzero : info.lastHeartbeatReceivedTime = 0
  · have hage : s.gateway.getSecondsSinceLastHeartbeat t id = 0 := by
      simp [getSecondsSinceLastHeartbeat, hlookup, hzero]
    rw [hage, hzero]
    simp
  · have hreads : Reads s.gateway (.getSecondsSinceLastHeartbeat id) := ⟨info, hlookup, hzero⟩
    rw [observe, if_pos hreads, toNat_age hlookup hzero]
    by_cases hlt : t < info.lastHeartbeatReceivedTime
    · have hlast := hs id
      rw [lastHeard_of_lookup hlookup] at hlast
      have ht : t.toNat ≤ s.latest := (UInt64.lt_iff_toNat_lt.mp hlt).le.trans hlast
      rw [if_pos hlt, max_eq_left ht]
      exact (imp_iff_right hlt).symm
    · have hage : (t.toNat - info.lastHeartbeatReceivedTime.toNat) / 1000 ≤
          max s.latest t.toNat / 1000 :=
        Nat.div_le_div_right ((Nat.sub_le _ _).trans (le_max_right _ _))
      rw [if_neg hlt]
      exact iff_of_true hage fun h ↦ absurd h hlt

theorem noLongSilence_iff_notSetBack (s : State) (call : Call × UInt64) (hs : Invariant s) :
    NoLongSilence s call ↔ NotSetBack s call := by
  obtain ⟨call, t⟩ := call
  cases call with
  | handlePacket b => exact Iff.rfl
  | detectOfflineSensors =>
      apply forall₃_congr
      intro id info hlookup
      constructor
      · intro hkept honline hlt
        exact (scan_not_offline_iff hlookup hlt).mp (hkept hlt) honline
      · intro hfar hlt
        exact (scan_not_offline_iff hlookup hlt).mpr fun honline ↦ hfar honline hlt
  | getSecondsSinceLastHeartbeat id =>
      cases hlookup : s.gateway.sensors.lookup id with
      | none => simp [NoLongSilence, NotSetBack, getSecondsSinceLastHeartbeat, hlookup]
      | some info =>
          refine (age_le_iff hs hlookup).trans ⟨fun h other hother ↦ ?_, fun h ↦ h info hlookup⟩
          cases hlookup.symm.trans hother
          exact h

/-! ## Runs -/

/-- In exactly the runs in which no reading is set back behind a stored
heartbeat time does no call see a long silence. -/
theorem noLongSilence_along_iff (calls : List (Call × UInt64)) :
    Runs.Along step NoLongSilence {} calls ↔ Runs.Along step NotSetBack {} calls :=
  Runs.along_congr (fun _ _ _ hs _ h ↦ invariant_step hs h) noLongSilence_iff_notSetBack
    (fun _ ↦ Nat.zero_le _) calls

/-- With readings as the comment on `now` promises them, every run is one of
these. -/
theorem noLongSilence_of_monotonic {calls : List (Call × UInt64)}
    (h : Runs.Along step (fun s call ↦ s.latest ≤ call.2.toNat) {} calls) :
    Runs.Along step NoLongSilence {} calls := by
  apply Runs.Along.imp (fun _ _ _ hs _ h ↦ invariant_step hs h) _ (fun _ ↦ Nat.zero_le _) h
  intro s call hs hforward
  apply (noLongSilence_iff_notSetBack s call hs).mpr
  have hback {id info} (hlookup : s.gateway.sensors.lookup id = some info) :
      ¬ call.2 < info.lastHeartbeatReceivedTime := by
    intro hlt
    have hlast := hs id
    rw [lastHeard_of_lookup hlookup] at hlast
    exact absurd (UInt64.lt_iff_toNat_lt.mp hlt) (Nat.not_lt.mpr (hlast.trans hforward))
  obtain ⟨call, t⟩ := call
  cases call with
  | handlePacket b => trivial
  | detectOfflineSensors => exact fun id info hlookup _ hlt ↦ absurd hlt (hback hlookup)
  | getSecondsSinceLastHeartbeat id => exact fun info hlookup hlt ↦ absurd hlt (hback hlookup)

/-- A heartbeat at 2000, and the clock is set back to 1000: the next scan
reports the sensor offline, and its age is more than half a billion years. -/
theorem long_silence_after_set_back :
    ¬ Runs.Along step NoLongSilence {}
      [(.handlePacket heartbeatPacket7, 2000), (.detectOfflineSensors, 1000)] ∧
    ¬ Runs.Along step NoLongSilence {}
      [(.handlePacket heartbeatPacket7, 2000), (.getSecondsSinceLastHeartbeat 7, 1000)] := by
  constructor
  · intro h
    have hscan := (h.2 _ rfl).1
    exact hscan 7 ⟨.zero, 0, 2000, .online⟩ (by decide) (by decide) (by decide) (by decide)
  · intro h
    have hage : (_ : UInt64).toNat ≤ _ := (h.2 _ rfl).1
    revert hage
    decide

end SmartSensorNetwork.ClockSteps
