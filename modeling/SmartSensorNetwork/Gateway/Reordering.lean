import SmartSensorNetwork.Gateway.Health
import SmartSensorNetwork.Lib.Projections

/-!
# Packets and scans in another order

An entry has two halves that no event writes together. Telemetry of the
sensor moves one, its heartbeats and the scans move the other, so only the
order within each of the two groups is seen.
-/

namespace SmartSensorNetwork.Gateway

open CppStd

def isTelemetryOf (id : UInt32) (call : Call × UInt64) : Bool := (telemetryOf id call).isSome

/-- Heartbeats of the sensor, and scans. -/
def isBeatOf (id : UInt32) (call : Call × UInt64) : Bool :=
  (heartbeatOf id call).isSome || decide (call.1 = .detectOfflineSensors)

/-- The same calls with their readings, in an order that differs at most
between telemetry and beats or between sensors. -/
structure Reordering (calls calls' : List (Call × UInt64)) : Prop where
  perm : calls.Perm calls'
  telemetry : ∀ id, calls.filter (isTelemetryOf id) = calls'.filter (isTelemetryOf id)
  beats : ∀ id, calls.filter (isBeatOf id) = calls'.filter (isBeatOf id)

/-- The registries are the same map, and the counters the same. -/
structure SameData (gateway gateway' : Gateway) : Prop where
  registry : ∀ id, gateway.sensors.lookup id = gateway'.sensors.lookup id
  telemetryPackets : gateway.telemetryPacketsReceived = gateway'.telemetryPacketsReceived
  heartbeatPackets : gateway.heartbeatPacketsReceived = gateway'.heartbeatPacketsReceived

/-! ## The two halves of an entry -/

def telemetryHalf (info : SensorInfo) : TelemetryMessage Double × UInt64 :=
  (info.lastTelemetry, info.lastTelemetryReceivedTime)

theorem telemetryHalf_entryStep (id : UInt32) (entry : Option SensorInfo)
    (call : Call × UInt64) :
    telemetryHalf ((entryStep id call.2 entry call.1.input).getD {}) =
      (telemetryOf id call).getD (telemetryHalf (entry.getD {})) := by
  have hreceived := received_entryStep id call.2 entry call.1
  exact congrArg (fun r ↦ (r.1, r.2.1)) hreceived

theorem follows_telemetry (id : UInt32) :
    Follows (fun entry (call : Call × UInt64) ↦ entryStep id call.2 entry call.1.input)
      (fun entry ↦ telemetryHalf (entry.getD {})) (isTelemetryOf id)
      (fun half call ↦ (telemetryOf id call).getD half) where
  moves entry call _ := telemetryHalf_entryStep id entry call
  ignores entry call h := by
    have hnone : telemetryOf id call = none := by simpa [isTelemetryOf] using h
    rw [telemetryHalf_entryStep, hnone, Option.getD_none]

/-- What a heartbeat or a scan does to the other half. -/
def beatStep (id : UInt32) (b : Beat) (call : Call × UInt64) : Beat :=
  if (heartbeatOf id call).isSome then ⟨call.2, .online⟩
  else { b with
    health := if b.health ≠ .unknown ∧ Overdue b.last call.2 then .offline else b.health }

theorem follows_beat (id : UInt32) :
    Follows (fun entry (call : Call × UInt64) ↦ entryStep id call.2 entry call.1.input)
      (fun entry ↦ beat (entry.getD {})) (isBeatOf id) (beatStep id) where
  moves entry call h := by
    rcases Classical.em (HeartbeatFrom id call.1) with hheard | hnot
    · have hsome : (heartbeatOf id call).isSome := by
        rw [heartbeatFrom_iff_heartbeatOf.mp hheard]
        rfl
      rw [beat_entryStep_of_heartbeat hheard, beatStep, if_pos hsome]
    · have hnone := heartbeatOf_eq_none hnot
      have hscan : call.1 = .detectOfflineSensors := by simpa [isBeatOf, hnone] using h
      have hnotSome : ¬ (heartbeatOf id call).isSome := by simp [hnone]
      rw [beat_entryStep_of_not_heartbeat hnot, beatStep, if_neg hnotSome]
      simp only [hscan, true_and]
      rfl
  ignores entry call h := by
    simp only [isBeatOf, Bool.or_eq_false_iff, Option.isSome_eq_false_iff, Option.isNone_iff_eq_none,
      decide_eq_false_iff_not] at h
    obtain ⟨hnone, hscan⟩ := h
    have hnot : ¬ HeartbeatFrom id call.1 := by
      rw [heartbeatFrom_iff_heartbeatOf, hnone]
      simp
    rw [beat_entryStep_of_not_heartbeat hnot]
    simp [hscan, beat]

theorem entry_ext {entry entry' : Option SensorInfo} (hsome : entry.isSome ↔ entry'.isSome)
    (htelemetry : telemetryHalf (entry.getD {}) = telemetryHalf (entry'.getD {}))
    (hbeat : beat (entry.getD {}) = beat (entry'.getD {})) : entry = entry' := by
  cases entry with
  | none =>
      cases entry' with
      | none => rfl
      | some info' => simp at hsome
  | some info =>
      cases entry' with
      | none => simp at hsome
      | some info' =>
          obtain ⟨message, received, last, health⟩ := info
          obtain ⟨message', received', last', health'⟩ := info'
          simp only [telemetryHalf, beat, Option.getD_some, Prod.mk.injEq, Beat.mk.injEq] at *
          obtain ⟨rfl, rfl⟩ := htelemetry
          obtain ⟨rfl, rfl⟩ := hbeat
          rfl

/-! ## Runs -/

theorem Reordering.entryRun_eq {calls calls' : List (Call × UInt64)}
    (h : Reordering calls calls') (id : UInt32) : entryRun id none calls = entryRun id none calls' := by
  apply entry_ext
  · rw [isSome_entryRun, isSome_entryRun]
    simp only [h.perm.mem_iff]
  · exact (follows_telemetry id).foldl_congr none (h.telemetry id)
  · exact (follows_beat id).foldl_congr none (h.beats id)

/-! ## Neighbours that may change places -/

/-- Not two telemetry packets of one sensor, and not two of its heartbeats
and scans. -/
def Independent (c d : Call × UInt64) : Prop :=
  ∀ id, ¬ (isTelemetryOf id c ∧ isTelemetryOf id d) ∧ ¬ (isBeatOf id c ∧ isBeatOf id d)

theorem filter_swap {p : Call × UInt64 → Bool} {c d : Call × UInt64} (h : ¬ (p c ∧ p d))
    (pre post : List (Call × UInt64)) :
    (pre ++ c :: d :: post).filter p = (pre ++ d :: c :: post).filter p := by
  rw [List.filter_append, List.filter_append]
  cases hc : p c with
  | true =>
      have hd : p d = false := by simpa [hc] using h
      simp [hc, hd]
  | false => simp [List.filter_cons, hc]

theorem reordering_swap {c d : Call × UInt64} (h : Independent c d)
    (pre post : List (Call × UInt64)) :
    Reordering (pre ++ c :: d :: post) (pre ++ d :: c :: post) where
  perm := (List.Perm.swap d c post).append_left pre
  telemetry id := filter_swap (h id).1 pre post
  beats id := filter_swap (h id).2 pre post

/-! ## The same state -/

/-- A fresh Gateway ends with the same registry and the same counters after
a run and after any reordering of it. -/
theorem run_reordering {calls calls' : List (Call × UInt64)} (h : Reordering calls calls') :
    SameData (({} : Gateway).run calls) (({} : Gateway).run calls') where
  registry id := by
    rw [lookup_run, lookup_run]
    exact h.entryRun_eq id
  telemetryPackets := by
    apply UInt64.toNat_inj.mp
    rw [telemetryPacketsReceived_run, telemetryPacketsReceived_run, h.perm.countP_eq]
  heartbeatPackets := by
    apply UInt64.toNat_inj.mp
    rw [heartbeatPacketsReceived_run, heartbeatPacketsReceived_run, h.perm.countP_eq]

def telemetryPacket7 : ByteString :=
  PacketSerializer.serializeTelemetry
    ⟨⟨.telemetry, 7, 500⟩, .motion, .active, ⟨4606281698874543309⟩⟩

theorem independent_telemetry_heartbeat7 :
    Independent (.handlePacket telemetryPacket7, 1000) (.handlePacket heartbeatPacket7, 1001) := by
  have htelemetry : ¬ AcceptsTelemetry heartbeatPacket7 := by decide
  have hheartbeat : ¬ AcceptsHeartbeat telemetryPacket7 := by decide
  intro id
  simp [isTelemetryOf, telemetryOf, isBeatOf, heartbeatOf, htelemetry, hheartbeat]

/-- Telemetry and a heartbeat of one sensor change places before a scan. -/
theorem run_reordering_packets7 :
    SameData
      (({} : Gateway).run [(.handlePacket telemetryPacket7, 1000),
        (.handlePacket heartbeatPacket7, 1001), (.detectOfflineSensors, 20000)])
      (({} : Gateway).run [(.handlePacket heartbeatPacket7, 1001),
        (.handlePacket telemetryPacket7, 1000), (.detectOfflineSensors, 20000)]) :=
  run_reordering (reordering_swap independent_telemetry_heartbeat7 []
    [(.detectOfflineSensors, 20000)])

end SmartSensorNetwork.Gateway
