import SmartSensorNetwork.Gateway.Health
import SmartSensorNetwork.Lib.Runs

/-!
# The watchdog and the heartbeats that overtake it

`detectOfflineSensors` reads the clock first and takes the mutex second. Its
two steps are two events here, and packets may be handled between them. The
clock only moves forward, yet a heartbeat that lands in the window carries a
later time than the one the scan compares it with.
-/

namespace SmartSensorNetwork.Watchdog

open CppStd Gateway

/-- A watchdog call between its two steps. `heard` records the sensors whose
heartbeats were handled since `currentTime` was read; the code has no such
variable. -/
structure PendingScan where
  currentTime : UInt64
  heard : List UInt32 := []

structure State where
  gateway : Gateway := {}
  clock : UInt64
  pending : ℕ → Option PendingScan := fun _ ↦ none

/-- The atomic steps of the watchdog calls and of everything that may run
between them. The other members of the Gateway only read its state. -/
inductive Event where
  | advance (t : UInt64)
  | readClock (call : ℕ)
  | scan (call : ℕ)
  | updateSensorInfo (message : TelemetryMessage Double)
  | handleHeartbeat (message : HeartbeatMessage)
  | handlePacket (packet : ByteString)

def State.hear (s : State) (id : UInt32) : ℕ → Option PendingScan :=
  fun call ↦ (s.pending call).map fun p ↦ { p with heard := id :: p.heard }

def step (s : State) : Event → Option State
  | .advance t => if s.clock ≤ t then some { s with clock := t } else none
  | .readClock call =>
      if (s.pending call).isNone then
        some { s with pending := Function.update s.pending call (some { currentTime := s.clock }) }
      else none
  | .scan call =>
      (s.pending call).map fun p ↦
        { s with
          gateway := s.gateway.detectOfflineSensors p.currentTime
          pending := Function.update s.pending call none }
  | .updateSensorInfo message =>
      some { s with gateway := s.gateway.updateSensorInfo s.clock message }
  | .handleHeartbeat message =>
      some { s with
        gateway := s.gateway.handleHeartbeat s.clock message
        pending := s.hear message.header.sensorId }
  | .handlePacket packet =>
      some { s with
        gateway := s.gateway.perform s.clock (.handlePacket packet)
        pending := if Gateway.AcceptsHeartbeat packet then
          s.hear (Wire.header packet).sensorId else s.pending }

def start (clock : UInt64) : State := { clock := clock }

/-- A scan sets a sensor to offline only if the clock is now more than the
timeout past its last heartbeat, and never if that heartbeat was handled
after the scan had read its time. -/
def NoFalseAlarm (s : State) : Event → Prop
  | .scan call => ∀ p, s.pending call = some p → ∀ id info,
      s.gateway.sensors.lookup id = some info → info.health ≠ .offline →
      ((s.gateway.detectOfflineSensors p.currentTime).sensors.lookup id).map SensorInfo.health =
        some .offline →
      info.lastHeartbeatReceivedTime.toNat + 10000 < s.clock.toNat ∧ id ∉ p.heard
  | _ => True

/-- No online sensor has a heartbeat later than the time the scan goes by.
The last clause is the far end of the modulus, where the wrapped difference
is small again. -/
def NotOvertaken (s : State) : Event → Prop
  | .scan call => ∀ p, s.pending call = some p → ∀ id info,
      s.gateway.sensors.lookup id = some info → info.health = .online →
      p.currentTime < info.lastHeartbeatReceivedTime →
      2 ^ 64 ≤ info.lastHeartbeatReceivedTime.toNat - p.currentTime.toNat + 10000
  | _ => True

/-! ## What one step does to heartbeat times -/

theorem last_entryStep (id : UInt32) (t : UInt64) (entry : Option SensorInfo) (input : Input) :
    (beat ((entryStep id t entry input).getD {})).last =
      if input = .heartbeat id then t else (beat (entry.getD {})).last := by
  cases input with
  | telemetry m =>
      by_cases hid : m.header.sensorId = id <;> simp [entryStep, hid, beat]
  | heartbeat i =>
      by_cases hid : i = id <;> simp [entryStep, hid, beat]
  | scan =>
      cases entry with
      | none => rfl
      | some info => simpa [entryStep] using congrArg Beat.last (beat_checkSensor t info)
  | idle => simp [entryStep]

theorem step_cases {s s' : State} {e : Event} (h : step s e = some s') :
    (s.clock ≤ s'.clock ∧ s'.gateway.lastHeard = s.gateway.lastHeard ∧ s'.pending = s.pending) ∨
      (∃ call, s'.clock = s.clock ∧ s'.gateway.lastHeard = s.gateway.lastHeard ∧
        s'.pending = Function.update s.pending call (some { currentTime := s.clock })) ∨
      (∃ call, s'.clock = s.clock ∧ s'.gateway.lastHeard = s.gateway.lastHeard ∧
        s'.pending = Function.update s.pending call none) ∨
      (∃ id, s'.clock = s.clock ∧ s'.gateway.lastHeard = Function.update s.gateway.lastHeard id s.clock ∧
        s'.pending = s.hear id) := by
  have hquiet : ∀ (gateway : Gateway) (t : UInt64) (input : Input),
      (∀ id, input ≠ .heartbeat id) →
      (∀ id, gateway.sensors.lookup id = entryStep id t (s.gateway.sensors.lookup id) input) →
      gateway.lastHeard = s.gateway.lastHeard := by
    intro gateway t input hinput hlookup
    funext id
    simp only [lastHeard, heard, hlookup id, last_entryStep, hinput id, if_false]
  have hheard : ∀ (gateway : Gateway) (id : UInt32),
      (∀ i, gateway.sensors.lookup i =
        entryStep i s.clock (s.gateway.sensors.lookup i) (.heartbeat id)) →
      gateway.lastHeard = Function.update s.gateway.lastHeard id s.clock := by
    intro gateway id hlookup
    funext i
    simp only [lastHeard, heard, hlookup i, last_entryStep, Function.update_apply, Input.heartbeat.injEq,
      eq_comm]
  cases e with
  | advance t =>
      obtain ⟨ht, rfl⟩ := Runs.of_guard h
      exact .inl ⟨ht, rfl, rfl⟩
  | readClock call =>
      obtain ⟨-, rfl⟩ := Runs.of_guard h
      exact .inr (.inl ⟨call, rfl, rfl, rfl⟩)
  | scan call =>
      obtain ⟨p, -, rfl⟩ := Option.map_eq_some_iff.mp h
      exact .inr (.inr (.inl ⟨call, rfl, hquiet _ p.currentTime .scan (by simp)
        (lookup_detectOfflineSensors s.gateway p.currentTime), rfl⟩))
  | updateSensorInfo m =>
      cases h
      exact .inl ⟨UInt64.le_refl _, hquiet _ s.clock (.telemetry m) (by simp)
        (lookup_updateSensorInfo s.gateway s.clock m), rfl⟩
  | handleHeartbeat m =>
      cases h
      exact .inr (.inr (.inr ⟨m.header.sensorId, rfl, hheard _ _
        (lookup_handleHeartbeat s.gateway s.clock m), rfl⟩))
  | handlePacket b =>
      cases h
      have hlookup := lookup_perform s.gateway s.clock (.handlePacket b)
      by_cases hacc : AcceptsHeartbeat b
      · have hnot : ¬ AcceptsTelemetry b := fun ht ↦ not_acceptsHeartbeat ht hacc
        have hinput : (Call.handlePacket b).input = .heartbeat (Wire.header b).sensorId := by
          simp [Call.input, hacc, hnot]
        rw [hinput] at hlookup
        have hpending : (if AcceptsHeartbeat b then s.hear (Wire.header b).sensorId
            else s.pending) = s.hear (Wire.header b).sensorId := if_pos hacc
        rw [hpending]
        exact .inr (.inr (.inr ⟨_, rfl, hheard _ _ hlookup, rfl⟩))
      · have hinput : ∀ id, (Call.handlePacket b).input ≠ .heartbeat id := by
          intro id
          by_cases htelemetry : AcceptsTelemetry b <;> simp [Call.input, htelemetry, hacc]
        have hpending : (if AcceptsHeartbeat b then s.hear (Wire.header b).sensorId
            else s.pending) = s.pending := if_neg hacc
        rw [hpending]
        exact .inl ⟨UInt64.le_refl _, hquiet _ s.clock _ hinput hlookup, rfl⟩

/-! ## The invariant -/

/-- Heartbeat times come from the clock; a pending scan has heard every
sensor whose heartbeat time exceeds its own, and none that is behind it. -/
structure Invariant (s : State) : Prop where
  last_le : ∀ id, s.gateway.lastHeard id ≤ s.clock
  pending_le : ∀ call p, s.pending call = some p → p.currentTime ≤ s.clock
  heard_of_lt : ∀ call p, s.pending call = some p → ∀ id,
    p.currentTime < s.gateway.lastHeard id → id ∈ p.heard
  le_of_heard : ∀ call p, s.pending call = some p → ∀ id ∈ p.heard, p.currentTime ≤ s.gateway.lastHeard id

theorem invariant_start (clock : UInt64) : Invariant (start clock) where
  last_le id := UInt64.le_iff_toNat_le.mpr (Nat.zero_le _)
  pending_le call p h := by simp [start] at h
  heard_of_lt call p h := by simp [start] at h
  le_of_heard call p h := by simp [start] at h

theorem invariant_step {s s' : State} {e : Event} (hs : Invariant s)
    (h : step s e = some s') : Invariant s' := by
  obtain ⟨hclock, hlast, hpending⟩ | ⟨call, hclock, hlast, hpending⟩ |
    ⟨call, hclock, hlast, hpending⟩ | ⟨id, hclock, hlast, hpending⟩ := step_cases h
  · exact {
      last_le := fun id ↦ hlast ▸ UInt64.le_trans (hs.last_le id) hclock
      pending_le := fun c p hp ↦ UInt64.le_trans (hs.pending_le c p (hpending ▸ hp)) hclock
      heard_of_lt := fun c p hp ↦ hlast ▸ hs.heard_of_lt c p (hpending ▸ hp)
      le_of_heard := fun c p hp ↦ hlast ▸ hs.le_of_heard c p (hpending ▸ hp) }
  · -- the new scan goes by the clock itself, so no heartbeat is ahead of it
    have hcases : ∀ c p, s'.pending c = some p →
        p = { currentTime := s.clock } ∨ s.pending c = some p := by
      intro c p hp
      rw [hpending, Function.update_apply] at hp
      split at hp
      · exact .inl (Option.some.inj hp).symm
      · exact .inr hp
    refine ⟨fun id ↦ ?_, fun c p hp ↦ ?_, fun c p hp id ↦ ?_, fun c p hp id ↦ ?_⟩
    · rw [hlast, hclock]
      exact hs.last_le id
    · rw [hclock]
      rcases hcases c p hp with rfl | hp
      · exact UInt64.le_refl _
      · exact hs.pending_le c p hp
    · rw [hlast]
      rcases hcases c p hp with rfl | hp
      · exact fun hlt ↦ absurd (hs.last_le id) (UInt64.not_le.mpr hlt)
      · exact hs.heard_of_lt c p hp id
    · rw [hlast]
      rcases hcases c p hp with rfl | hp
      · intro hid
        cases hid
      · exact hs.le_of_heard c p hp id
  · have hold : ∀ c p, s'.pending c = some p → s.pending c = some p := by
      intro c p hp
      rw [hpending, Function.update_apply] at hp
      split at hp
      · cases hp
      · exact hp
    exact {
      last_le := fun id ↦ hlast ▸ hclock ▸ hs.last_le id
      pending_le := fun c p hp ↦ hclock ▸ hs.pending_le c p (hold c p hp)
      heard_of_lt := fun c p hp ↦ hlast ▸ hs.heard_of_lt c p (hold c p hp)
      le_of_heard := fun c p hp ↦ hlast ▸ hs.le_of_heard c p (hold c p hp) }
  · -- the heartbeat takes the present time, which no pending scan exceeds
    have hheard : ∀ c q, s'.pending c = some q →
        ∃ p, s.pending c = some p ∧ q = { p with heard := id :: p.heard } := by
      intro c q hq
      rw [hpending] at hq
      obtain ⟨p, hp, hq⟩ := Option.map_eq_some_iff.mp hq
      exact ⟨p, hp, hq.symm⟩
    have hself : s'.gateway.lastHeard id = s.clock := by simp [hlast]
    have hother : ∀ i, i ≠ id → s'.gateway.lastHeard i = s.gateway.lastHeard i := by
      intro i hi
      simp [hlast, hi]
    refine ⟨fun i ↦ ?_, fun c q hq ↦ ?_, fun c q hq i hlt ↦ ?_, fun c q hq i hi ↦ ?_⟩
    · rw [hclock]
      rcases eq_or_ne i id with rfl | hi
      · exact hself ▸ UInt64.le_refl _
      · exact hother i hi ▸ hs.last_le i
    all_goals obtain ⟨p, hp, rfl⟩ := hheard c q hq
    · exact hclock ▸ hs.pending_le c p hp
    · rcases eq_or_ne i id with rfl | hne
      · exact List.mem_cons_self
      · rw [hother i hne] at hlt
        exact List.mem_cons_of_mem _ (hs.heard_of_lt c p hp i hlt)
    · rcases eq_or_ne i id with rfl | hne
      · exact hself ▸ hs.pending_le c p hp
      · rw [hother i hne]
        exact hs.le_of_heard c p hp i ((List.mem_cons.mp hi).resolve_left hne)

/-! ## False alarms -/

/-- A sensor heard after the time of the scan looks overdue, because the
difference wraps; only the far end of the modulus escapes. -/
theorem overdue_iff_of_lt {h t : UInt64} (hlt : t < h) :
    Overdue h t ↔ h.toNat - t.toNat + 10000 < 2 ^ 64 := by
  have hne : h ≠ 0 := by
    rintro rfl
    exact absurd hlt (UInt64.not_lt_zero)
  have hlt' : t.toNat < h.toNat := UInt64.lt_iff_toNat_lt.mp hlt
  have hbound : h.toNat < 2 ^ 64 := h.toNat_lt
  have htimeout : sensorHeartbeatTimeoutMs.toNat = 10000 := rfl
  rw [Overdue, and_iff_right hne, UInt64.lt_iff_toNat_lt, UInt64.toNat_sub, htimeout]
  have hwrap : 2 ^ 64 - h.toNat + t.toNat < 2 ^ 64 := by omega
  rw [Nat.mod_eq_of_lt hwrap]
  omega

theorem scan_sets_offline_iff {gateway : Gateway} {t : UInt64} {id : UInt32} {info : SensorInfo}
    (hlookup : gateway.sensors.lookup id = some info) (hhealth : info.health ≠ .offline) :
    ((gateway.detectOfflineSensors t).sensors.lookup id).map SensorInfo.health = some .offline ↔
      info.health = .online ∧ Overdue info.lastHeartbeatReceivedTime t := by
  rw [lookup_detectOfflineSensors, hlookup, ← goesOffline_iff]
  simp only [entryStep, Option.map_some, Option.some.injEq]
  exact checkSensor_eq_offline_iff hhealth

theorem noFalseAlarm_iff_notOvertaken (s : State) (e : Event) (hs : Invariant s) :
    NoFalseAlarm s e ↔ NotOvertaken s e := by
  cases e with
  | scan call =>
      refine forall₂_congr fun p hp ↦ forall₃_congr fun id info hlookup ↦ ?_
      have hlast := lastHeard_of_lookup hlookup
      constructor
      · intro halarm honline hlt
        by_contra hfar
        have hoffline : info.health ≠ .offline := by simp [honline]
        have hoverdue := (overdue_iff_of_lt hlt).mpr (by omega)
        have hlate := halarm hoffline
          ((scan_sets_offline_iff hlookup hoffline).mpr ⟨honline, hoverdue⟩)
        exact hlate.2 (hs.heard_of_lt call p hp id (hlast ▸ hlt))
      · intro hnot hoffline hscan
        obtain ⟨honline, hoverdue⟩ := (scan_sets_offline_iff hlookup hoffline).mp hscan
        have hle : info.lastHeartbeatReceivedTime ≤ p.currentTime := by
          by_contra hlt
          have hlt := UInt64.not_le.mp hlt
          have hfar := hnot honline hlt
          have hnear := (overdue_iff_of_lt hlt).mp hoverdue
          omega
        have hpos : 0 < info.lastHeartbeatReceivedTime := UInt64.pos_iff_ne_zero.mpr hoverdue.1
        have hlate := (overdue_iff hpos hle).mp hoverdue
        have hclock := UInt64.le_iff_toNat_le.mp (hs.pending_le call p hp)
        refine ⟨by omega, fun hheard ↦ ?_⟩
        have hback := UInt64.le_iff_toNat_le.mp (hs.le_of_heard call p hp id hheard)
        rw [hlast] at hback
        omega
  | advance t => exact Iff.rfl
  | readClock call => exact Iff.rfl
  | updateSensorInfo m => exact Iff.rfl
  | handleHeartbeat m => exact Iff.rfl
  | handlePacket b => exact Iff.rfl

/-- The watchdog raises no false alarm in exactly the runs in which no scan
is overtaken by a heartbeat. -/
theorem noFalseAlarm_along_iff (clock : UInt64) (events : List Event) :
    Runs.Along step NoFalseAlarm (start clock) events ↔
      Runs.Along step NotOvertaken (start clock) events :=
  Runs.along_congr (fun _ _ _ hs _ h ↦ invariant_step hs h) noFalseAlarm_iff_notOvertaken
    (invariant_start clock) events

/-- The scan reads 1000, a heartbeat lands at 1001, and the scan then puts
the sensor just heard offline. -/
theorem false_alarm :
    ¬ Runs.Along step NoFalseAlarm (start 1000)
      [.readClock 0, .advance 1001, .handleHeartbeat ⟨⟨.heartbeat, 7, 0⟩⟩, .scan 0] := by
  intro h
  have hscan := (((h.2 _ rfl).2 _ rfl).2 _ rfl).1
  have hlate := hscan ⟨1000, [7]⟩ rfl 7 ⟨.zero, 0, 1001, .online⟩ (by decide) (by decide)
    (by decide)
  exact hlate.2 List.mem_cons_self

end SmartSensorNetwork.Watchdog
