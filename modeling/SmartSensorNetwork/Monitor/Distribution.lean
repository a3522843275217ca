import SmartSensorNetwork.Monitor.Snapshots

/-!
# The health distribution of the statistics

`SystemStats.health` is documented as the distribution of the sensors by
health state, and `getStats` copies two of its three numbers. The summary of
the same state prints all three.
-/

namespace SmartSensorNetwork.Monitor

open CppStd Gateway

def registered (gateway : Gateway) : Set UInt32 := {id | id ∈ gateway.sensors}

def withHealth (gateway : Gateway) (health : SensorHealth) : Set UInt32 :=
  {id | ∃ info, gateway.sensors.lookup id = some info ∧ info.health = health}

/-- What follows the label, on the first line that starts with it. -/
def printedAfter (label text : ByteString) : Option ByteString :=
  ((text.splitOn 10).find? fun l ↦ label.isPrefixOf l).map fun l ↦ l.drop label.length

/-- The summary prints these three numbers. -/
structure Prints (text : ByteString) (health : HealthCounts) : Prop where
  online : printedAfter (ascii "ONLINE  : ") text = some (CppStd.to_string health.online)
  offline : printedAfter (ascii "OFFLINE : ") text = some (CppStd.to_string health.offline)
  unknown : printedAfter (ascii "UNKNOWN : ") text = some (CppStd.to_string health.unknown)

structure FullDistribution (gateway : Gateway) (stats : SystemStats) (summary : ByteString) :
    Prop where
  totalSensors : stats.totalSensors = (registered gateway).ncard
  telemetryPackets : stats.telemetryPackets = gateway.telemetryPacketsReceived
  heartbeatPackets : stats.heartbeatPackets = gateway.heartbeatPacketsReceived
  online : stats.health.online = (withHealth gateway .online).ncard
  offline : stats.health.offline = (withHealth gateway .offline).ncard
  unknown : stats.health.unknown = (withHealth gateway .unknown).ncard
  sum : stats.health.online + stats.health.offline + stats.health.unknown = stats.totalSensors
  printed : Prints summary stats.health

/-! ## Counting one registry -/

theorem countValues_health (gateway : Gateway) (health : SensorHealth) :
    (gateway.sensors.countValues fun _ info ↦ info.health = health) =
      (withHealth gateway health).ncard := by
  rw [AList.countValues_eq_ncard]
  simp only [decide_eq_true_eq]
  rfl

theorem healthCounts_sum (sensors : Registry) :
    (healthCounts sensors).online + (healthCounts sensors).offline +
      (healthCounts sensors).unknown = sensors.size := by
  have hknown : ∀ (id : UInt32) (info : SensorInfo),
      (decide (info.health = .online) || decide (info.health = .offline)) →
        decide (info.health = .unknown) = false := by
    intro id info h
    cases hhealth : info.health <;> simp [hhealth] at h ⊢
  have hall : ∀ info : SensorInfo, ((decide (info.health = .online) ||
      decide (info.health = .offline)) || decide (info.health = .unknown)) = true := by
    intro info
    cases info.health <;> rfl
  rw [online_add_offline]
  refine (AList.countValues_add hknown sensors).trans ?_
  simp only [hall]
  exact congrFun List.countP_true sensors.entries

theorem unknown_eq_zero_iff (gateway : Gateway) :
    (healthCounts gateway.sensors).unknown = 0 ↔
      ∀ id info, gateway.sensors.lookup id = some info → info.health ≠ .unknown := by
  simp only [healthCounts, AList.countValues_eq_zero_iff, decide_eq_false_iff_not]

/-! ## The two reports at one instant -/

theorem getStats_eval (i : Instant) :
    getStats.eval i = {
      totalSensors := i.gateway.sensors.size
      telemetryPackets := i.gateway.telemetryPacketsReceived
      heartbeatPackets := i.gateway.heartbeatPacketsReceived
      health := { online := (healthCounts i.gateway.sensors).online
                  offline := (healthCounts i.gateway.sensors).offline } } := rfl

theorem healthSummary_eval (i : Instant) :
    healthSummary.eval i = healthText (healthCounts i.gateway.sensors) i.gateway.sensors := rfl

theorem prints_healthText (healthCount : HealthCounts) (sensors : Registry) :
    Prints (healthText healthCount sensors) healthCount := by
  constructor <;> rw [printedAfter, splitOn_healthText] <;> rfl

theorem prints_unique {text : ByteString} {health health' : HealthCounts}
    (h : Prints text health) (h' : Prints text health') : health.unknown = health'.unknown := by
  have hprinted := h.unknown.symm.trans h'.unknown
  exact to_string_injective (Option.some.inj hprinted)

/-- `getStats` reports the whole distribution exactly when no registered
sensor is in the state whose number it leaves out. -/
theorem fullDistribution_iff (i : Instant) :
    FullDistribution i.gateway (getStats.eval i) (healthSummary.eval i) ↔
      ∀ id info, i.gateway.sensors.lookup id = some info → info.health ≠ .unknown := by
  have hsum := healthCounts_sum i.gateway.sensors
  rw [← unknown_eq_zero_iff, getStats_eval, healthSummary_eval]
  constructor
  · intro h
    exact prints_unique (prints_healthText _ _) h.printed
  · intro hunknown
    have hprinted := prints_healthText (healthCounts i.gateway.sensors) i.gateway.sensors
    have hlast := hprinted.unknown
    rw [hunknown] at hlast hsum
    exact {
      totalSensors := AList.size_eq_ncard _
      telemetryPackets := rfl
      heartbeatPackets := rfl
      online := countValues_health i.gateway .online
      offline := countValues_health i.gateway .offline
      unknown := hunknown.symm.trans (countValues_health i.gateway .unknown)
      sum := hsum
      printed := ⟨hprinted.online, hprinted.offline, hlast⟩ }

def telemetryPacket7 : ByteString :=
  PacketSerializer.serializeTelemetry
    ⟨⟨.telemetry, 7, 0⟩, .temperature, .active, ⟨0⟩⟩

/-- One sensor that has sent telemetry and no heartbeat yet. -/
theorem unknown_sensor_left_out :
    let i : Instant := ⟨({} : Gateway).run [(.handlePacket telemetryPacket7, 1000)], 1000⟩
    ¬ FullDistribution i.gateway (getStats.eval i) (healthSummary.eval i) := by
  intro i h
  have hsum : 0 + 0 + 0 = (1 : ℕ) := h.sum
  cases hsum

end SmartSensorNetwork.Monitor
