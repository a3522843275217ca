import SmartSensorNetwork.Gateway.Alarms
import SmartSensorNetwork.Lib.Beats
import SmartSensorNetwork.Sensor.Schedule
import SmartSensorNetwork.System.Provenance

/-!
# A node, a network with bounded delay and the watchdog

A sensor node runs its loop, a network with bounded delay carries its packets
among any others, and the watchdog scans. Times are in nanoseconds since the
start of the node.
-/

namespace SmartSensorNetwork.FailureDetection

open CppStd Gateway SensorNode

/-- What the surroundings promise: the longest time between two passes of the
loop, from a pass to the end of the handling of its packets, and between the
readings of two scans. The system clock, in milliseconds, showed `epoch` at
the start. -/
structure Bounds where
  passGap : ℕ
  delay : ℕ
  scanGap : ℕ
  epoch : ℕ

/-- A packet of the node. The network may deliver it more than once. -/
structure Sent where
  sentAt : ℕ
  packet : ByteString
  handled : Bool
  deriving DecidableEq

/-- `network` is a record of all packets of the node, the newest first. -/
structure State where
  clock : ℕ := 0
  node : SensorNode
  timers : Timers := ⟨0, 0⟩
  lastPass : ℕ := 0
  network : List Sent := []
  gateway : Gateway := {}
  lastScan : ℕ := 0
  halted : Option ℕ := none

inductive Event where
  | advance (t : ℕ)
  | pass (sample : Double)
  | halt
  | deliver (sent : Sent)
  | foreign (packet : ByteString)
  | scan (currentTime : ℕ)

def stamp (bounds : Bounds) (t : ℕ) : ℕ := bounds.epoch + t / 1000000

/-- The reading of `now()`. -/
def wall (bounds : Bounds) (t : ℕ) : UInt64 := UInt64.ofNat (stamp bounds t)

def IsBeat (id : UInt32) (b : ByteString) : Prop :=
  AcceptsHeartbeat b ∧ (Wire.header b).sensorId = id

instance (id : UInt32) : DecidablePred (IsBeat id) := fun _ ↦ inferInstanceAs (Decidable (_ ∧ _))

def markHandled (sent p : Sent) : Sent := if p = sent then { p with handled := true } else p

/-- Time advances as far as the promises allow. A scan goes by a reading of
the clock that no heartbeat of the sensor has overtaken. Packets from elsewhere
are well formed, as others end the receiver, and no heartbeats of the sensor. -/
def step (bounds : Bounds) (s : State) : Event → Option State
  | .advance t =>
      if s.clock ≤ t ∧ stamp bounds t < 2 ^ 64 ∧
          (s.halted = none → t ≤ s.lastPass + bounds.passGap) ∧
          (∀ p ∈ s.network, p.handled = false → t ≤ p.sentAt + bounds.delay) ∧
          t ≤ s.lastScan + bounds.scanGap then
        some { s with clock := t }
      else none
  | .pass sample =>
      if s.halted = none then
        let (node, timers, packets) := s.node.iterate s.timers {
          nowTime := s.clock
          sample := sample
          telemetryNow := wall bounds s.clock
          heartbeatNow := wall bounds s.clock }
        some { s with
          node := node
          timers := timers
          lastPass := s.clock
          network := (packets.map fun packet ↦ ⟨s.clock, packet, false⟩).reverse ++ s.network }
      else none
  | .halt => if s.halted = none then some { s with halted := some s.clock } else none
  | .deliver sent =>
      if sent ∈ s.network ∧ s.clock ≤ sent.sentAt + bounds.delay then
        some { s with
          gateway := s.gateway.perform (wall bounds s.clock) (.handlePacket sent.packet)
          network := s.network.map (markHandled sent) }
      else none
  | .foreign packet =>
      if ¬ Rejects packet ∧ ¬ IsBeat s.node.sensor.getId packet then
        some { s with gateway := s.gateway.perform (wall bounds s.clock) (.handlePacket packet) }
      else none
  | .scan currentTime =>
      if currentTime ≤ s.clock ∧ s.lastScan ≤ currentTime ∧
          ∀ info ∈ s.gateway.sensors.lookup s.node.sensor.getId,
            info.lastHeartbeatReceivedTime ≤ wall bounds currentTime then
        some { s with
          gateway := s.gateway.perform (wall bounds currentTime) .detectOfflineSensors
          lastScan := currentTime }
      else none

def start (node : SensorNode) : State := { node := node }

def beats (id : UInt32) (network : List Sent) : List (Beats.Beat ℕ) :=
  (network.filter fun p ↦ IsBeat id p.packet).map fun p ↦ ⟨p.sentAt, p.handled⟩

/-! ## Stamps -/

theorem stamp_mono {bounds : Bounds} {t u : ℕ} (h : t ≤ u) : stamp bounds t ≤ stamp bounds u :=
  Nat.add_le_add_left (Nat.div_le_div_right h) _

theorem toNat_wall {bounds : Bounds} {t : ℕ} (h : stamp bounds t < 2 ^ 64) :
    (wall bounds t).toNat = stamp bounds t :=
  UInt64.toNat_ofNat_of_lt h

/-! ## What a call makes of an entry -/

theorem heartbeatFrom_iff_isBeat {id : UInt32} {b : ByteString} :
    HeartbeatFrom id (.handlePacket b) ↔ IsBeat id b := by
  constructor
  · rintro ⟨b', hb, hbeat⟩
    cases hb
    exact hbeat
  · exact fun hbeat ↦ ⟨b, rfl, hbeat⟩

theorem heard_handlePacket (id : UInt32) (gateway : Gateway) (now : UInt64) (b : ByteString) :
    heard id (gateway.perform now (.handlePacket b)) =
      if IsBeat id b then ⟨now, .online⟩ else heard id gateway := by
  rw [heard, lookup_perform]
  split_ifs with hbeat
  · exact beat_entryStep_of_heartbeat (heartbeatFrom_iff_isBeat.mpr hbeat) now _
  · rw [beat_entryStep_of_not_heartbeat (mt heartbeatFrom_iff_isBeat.mp hbeat)]
    simp [heard, beat]

theorem heard_scan (id : UInt32) (gateway : Gateway) (t : UInt64) :
    heard id (gateway.perform t .detectOfflineSensors) =
      { heard id gateway with
        health := if (heard id gateway).health ≠ .unknown ∧ Overdue (heard id gateway).last t then
          .offline else (heard id gateway).health } := by
  have hnot : ¬ HeartbeatFrom id .detectOfflineSensors :=
    not_heartbeatFrom_of_not_accepts (by simp)
  rw [heard, lookup_perform, beat_entryStep_of_not_heartbeat hnot]
  exact congrArg (Beat.mk _) (if_congr (and_iff_right rfl) rfl rfl)

theorem healthOf_eq_heard {id : UInt32} {gateway : Gateway} {health : SensorHealth}
    (h : gateway.healthOf id = some health) : (heard id gateway).health = health := by
  obtain ⟨info, hlookup, rfl⟩ := Option.map_eq_some_iff.mp h
  rw [heard, hlookup]
  rfl

/-- A line about the sensor is logged when it goes from online to offline. -/
theorem offlineMessage_mem_logger {id : UInt32} {gateway : Gateway} {now : UInt64} {call : Call}
    (h : offlineMessage id ∈ (gateway.perform now call).logger) :
    offlineMessage id ∈ gateway.logger ∨ (heard id (gateway.perform now call)).health = .offline := by
  rw [logger_perform gateway (call, now), List.mem_append, offlineMessage_mem_lines] at h
  exact h.imp_right fun hdown ↦ healthOf_eq_heard hdown.2

theorem mem_logger_perform {gateway : Gateway} {now : UInt64} {call : Call} {msg : ByteString}
    (h : msg ∈ gateway.logger) : msg ∈ (gateway.perform now call).logger := by
  rw [logger_perform gateway (call, now)]
  exact List.mem_append_left _ h

theorem healthOf_of_heard {id : UInt32} {gateway : Gateway}
    (h : (heard id gateway).health ≠ .unknown) :
    gateway.healthOf id = some (heard id gateway).health := by
  rw [heard] at h ⊢
  rw [healthOf]
  cases hlookup : gateway.sensors.lookup id with
  | none => simp [hlookup, beat] at h
  | some info => rfl

theorem offlineMessage_mem_logger_of_scan {id : UInt32} {gateway : Gateway} {t : UInt64}
    (hbefore : (heard id gateway).health ≠ .offline)
    (hafter : (heard id (gateway.perform t .detectOfflineSensors)).health = .offline) :
    offlineMessage id ∈ (gateway.perform t .detectOfflineSensors).logger := by
  have hoffline : (gateway.perform t .detectOfflineSensors).healthOf id = some .offline := by
    rw [healthOf_of_heard (by rw [hafter]; simp), hafter]
  rw [heard_scan] at hafter
  dsimp only at hafter
  split_ifs at hafter with hgoes
  · have honline : (heard id gateway).health = .online := by
      cases hhealth : (heard id gateway).health with
      | unknown => exact absurd hhealth hgoes.1
      | online => rfl
      | offline => exact absurd hhealth hbefore
    have hknown := healthOf_of_heard hgoes.1
    rw [honline] at hknown
    rw [logger_perform gateway (.detectOfflineSensors, t), List.mem_append,
      offlineMessage_mem_lines]
    exact .inr ⟨hknown, hoffline⟩
  · exact absurd hafter hbefore

/-! ## What a pass sends -/

theorem isBeat_sendHeartbeat {id : UInt32} {node : SensorNode} (h : node.sensor.getId = id)
    (now : UInt64) : IsBeat id (node.sendHeartbeat now) := by
  refine ⟨Provenance.acceptsHeartbeat_serializeHeartbeat rfl, ?_⟩
  rw [sendHeartbeat, Wire.header_serializeHeartbeat, h]

theorem not_isBeat_tick (id : UInt32) (node : SensorNode) (sample : Double) (now : UInt64) :
    ¬ IsBeat id (node.tick sample now).2.1 := by
  rintro ⟨hacc, -⟩
  have htelemetry : AcceptsTelemetry (node.tick sample now).2.1 :=
    Provenance.acceptsTelemetry_serializeTelemetry rfl
  exact not_acceptsHeartbeat htelemetry hacc

theorem getId_tick (node : SensorNode) (sample : Double) (now : UInt64) :
    (node.tick sample now).2.2.sensor.getId = node.sensor.getId := by
  rw [tick_eq, AnySensor.getId_createTelemetry, AnySensor.getId_collectData]

theorem getId_iterate (node : SensorNode) (timers : Timers) (pass : Pass) :
    (node.iterate timers pass).1.sensor.getId = node.sensor.getId := by
  rw [iterate_eq]
  by_cases hdue : Due node.telemetryInterval timers.lastTelemetry pass.nowTime
  · simp [hdue, getId_tick]
  · simp [hdue]

theorem filter_iterate (node : SensorNode) (timers : Timers) (pass : Pass) :
    ((node.iterate timers pass).2.2.filter (IsBeat node.sensor.getId)).length =
      if Due node.heartbeatInterval timers.lastHeartbeat pass.nowTime then 1 else 0 := by
  have htick := not_isBeat_tick node.sensor.getId node pass.sample pass.telemetryNow
  have hbeat := isBeat_sendHeartbeat (getId_iterate node timers pass) pass.heartbeatNow
  rw [iterate_eq] at hbeat ⊢
  dsimp only at hbeat ⊢
  rw [List.filter_append, List.length_append]
  have hnone : ((if Due node.telemetryInterval timers.lastTelemetry pass.nowTime then
      [(node.tick pass.sample pass.telemetryNow).2.1] else []).filter
        (IsBeat node.sensor.getId)).length = 0 := by
    split_ifs <;> simp [htick]
  rw [hnone, zero_add]
  split_ifs at hbeat ⊢ <;> simp [hbeat]

/-- A pass adds a beat when the heartbeat timer is due. -/
theorem beats_iterate (node : SensorNode) (timers : Timers) (pass : Pass) (t : ℕ)
    (network : List Sent) :
    beats node.sensor.getId
        (((node.iterate timers pass).2.2.map fun packet ↦ (⟨t, packet, false⟩ : Sent)).reverse ++
          network) =
      (if Due node.heartbeatInterval timers.lastHeartbeat pass.nowTime then
        [⟨t, false⟩] else []) ++ beats node.sensor.getId network := by
  have hlength := filter_iterate node timers pass
  rw [beats, List.filter_append, List.map_append, List.filter_reverse, List.filter_map,
    List.map_reverse, List.map_map]
  congr 1
  change (((node.iterate timers pass).2.2.filter (IsBeat node.sensor.getId)).map
    fun _ ↦ (⟨t, false⟩ : Beats.Beat ℕ)).reverse = _
  rw [List.map_const', hlength, List.reverse_replicate]
  split_ifs <;> rfl

/-! ## What a delivery does to the record of the network -/

theorem beats_markHandled (id : UInt32) (sent : Sent) (network : List Sent) :
    beats id (network.map (markHandled sent)) =
      (network.filter fun p ↦ IsBeat id p.packet).map fun p ↦
        ⟨(markHandled sent p).sentAt, (markHandled sent p).handled⟩ := by
  have hpacket : ∀ p, (markHandled sent p).packet = p.packet := by
    intro p
    rw [markHandled]
    split_ifs <;> rfl
  rw [beats, List.filter_map, List.map_map]
  simp only [Function.comp_def, hpacket]

theorem sentAt_markHandled (sent p : Sent) : (markHandled sent p).sentAt = p.sentAt := by
  rw [markHandled]
  split_ifs <;> rfl

theorem handled_markHandled (sent : Sent) {p : Sent} (hp : p.handled = true) :
    (markHandled sent p).handled = true := by
  rw [markHandled]
  split_ifs
  · rfl
  · exact hp

theorem forall_markHandled {sent : Sent} {network : List Sent} {t : ℕ}
    (h : ∀ p ∈ network, p.sentAt ≤ t) : ∀ p ∈ network.map (markHandled sent), p.sentAt ≤ t := by
  intro p hp
  obtain ⟨q, hq, rfl⟩ := List.mem_map.mp hp
  exact (sentAt_markHandled sent q).trans_le (h q hq)

end SmartSensorNetwork.FailureDetection
