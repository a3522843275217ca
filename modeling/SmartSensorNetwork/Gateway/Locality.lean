import SmartSensorNetwork.Gateway.EntryMachine

/-!
# Packets on the live state

`handlePacket` works on the Gateway that is there, statement by statement,
and an exception leaves behind whatever was written before it. Both parses
come before the first write, so nothing is, and an accepted packet writes to
one entry and one counter.
-/

namespace SmartSensorNetwork.Gateway

open CppStd

/-- A member function that writes to the object as it goes. The state at the
moment of a throw is kept. -/
abbrev Member := ExceptT Exception (StateM Gateway)

/-- `SensorInfo& info = sensors[sensorId];` followed by one assignment. -/
def assignInfo (sensorId : UInt32) (f : SensorInfo → SensorInfo) : Member Unit :=
  modify fun gateway ↦ { gateway with sensors := gateway.sensors.modifyD sensorId {} f }

def updateSensorInfoInPlace (now : UInt64) (message : TelemetryMessage Double) : Member Unit := do
  let sensorId := message.header.sensorId
  assignInfo sensorId id
  assignInfo sensorId fun info ↦ { info with lastTelemetry := message }
  assignInfo sensorId fun info ↦ { info with lastTelemetryReceivedTime := now }
  modify fun gateway ↦
    { gateway with telemetryPacketsReceived := gateway.telemetryPacketsReceived + 1 }

def handleHeartbeatInPlace (now : UInt64) (message : HeartbeatMessage) : Member Unit := do
  let sensorId := message.header.sensorId
  assignInfo sensorId id
  assignInfo sensorId fun info ↦ { info with lastHeartbeatReceivedTime := now }
  assignInfo sensorId fun info ↦ { info with health := .online }
  modify fun gateway ↦
    { gateway with heartbeatPacketsReceived := gateway.heartbeatPacketsReceived + 1 }

def handlePacketInPlace (now : UInt64) (packet : ByteString) : Member Unit := do
  let type ← ofExcept (PacketSerializer.peekMessageType packet)
  if type = .telemetry then
    let msg ← ofExcept (PacketSerializer.deserializeTelemetry packet)
    updateSensorInfoInPlace now msg
  else if type = .heartbeat then
    let hb ← ofExcept (PacketSerializer.deserializeHeartbeat packet)
    handleHeartbeatInPlace now hb
  else
    modify fun gateway ↦ gateway.log unknownMessageType

/-- How the call ends, and the object it leaves. -/
def receive (gateway : Gateway) (now : UInt64) (packet : ByteString) :
    Except Exception Unit × Gateway :=
  ((handlePacketInPlace now packet).run.run gateway)

/-! ## One critical section -/

theorem modifyD_modifyD (registry : Registry) (sensorId : UInt32) (f f' : SensorInfo → SensorInfo) :
    (registry.modifyD sensorId {} f).modifyD sensorId {} f' =
      registry.modifyD sensorId {} (f' ∘ f) := by
  rw [AList.modifyD, AList.lookup_modifyD_self, AList.modifyD, AList.modifyD, AList.insert_insert]
  rfl

/-- Two assignments through the reference that `operator[]` returned. -/
theorem modifyD_two_assignments (registry : Registry) (sensorId : UInt32) (f f' : SensorInfo → SensorInfo) :
    ((registry.modifyD sensorId {} id).modifyD sensorId {} f).modifyD sensorId {} f' =
      registry.modifyD sensorId {} fun info ↦ f' (f info) := by
  rw [modifyD_modifyD, modifyD_modifyD]
  rfl

theorem updateSensorInfoInPlace_run (gateway : Gateway) (now : UInt64)
    (message : TelemetryMessage Double) :
    (updateSensorInfoInPlace now message).run.run gateway =
      (.ok (), gateway.updateSensorInfo now message) := by
  have hwrites := modifyD_two_assignments gateway.sensors message.header.sensorId
    (fun info ↦ { info with lastTelemetry := message })
    (fun info ↦ { info with lastTelemetryReceivedTime := now })
  exact congrArg (fun sensors ↦ (Except.ok (), { gateway with
    sensors := sensors
    telemetryPacketsReceived := gateway.telemetryPacketsReceived + 1 })) hwrites

theorem handleHeartbeatInPlace_run (gateway : Gateway) (now : UInt64)
    (message : HeartbeatMessage) :
    (handleHeartbeatInPlace now message).run.run gateway =
      (.ok (), gateway.handleHeartbeat now message) := by
  have hwrites := modifyD_two_assignments gateway.sensors message.header.sensorId
    (fun info ↦ { info with lastHeartbeatReceivedTime := now })
    (fun info ↦ { info with health := .online })
  exact congrArg (fun sensors ↦ (Except.ok (), { gateway with
    sensors := sensors
    heartbeatPacketsReceived := gateway.heartbeatPacketsReceived + 1 })) hwrites

/-- A result with no state of its own, seen on the live object. -/
def settle (gateway : Gateway) : Except Exception Gateway → Except Exception Unit × Gateway
  | .ok gateway' => (.ok (), gateway')
  | .error e => (.error e, gateway)

section Parse

variable {α : Type} (parsed : Except Exception α) (gateway : Gateway)

theorem ofExcept_bind_run (k : α → Member Unit) :
    (ofExcept parsed >>= k).run.run gateway =
      match parsed with
      | .ok x => (k x).run.run gateway
      | .error e => (.error e, gateway) := by
  cases parsed <;> rfl

theorem settle_bind (k : α → Except Exception Gateway) :
    settle gateway (parsed >>= k) =
      match parsed with
      | .ok x => settle gateway (k x)
      | .error e => (.error e, gateway) := by
  cases parsed <;> rfl

end Parse

/-- The object after the call is the one that `handlePacket` returns, and the
object before it where it throws. -/
theorem receive_eq (gateway : Gateway) (now : UInt64) (packet : ByteString) :
    gateway.receive now packet = settle gateway (gateway.handlePacket now packet) := by
  rw [receive, handlePacketInPlace, handlePacket, ofExcept_bind_run, settle_bind]
  cases PacketSerializer.peekMessageType packet with
  | error e => rfl
  | ok type =>
      dsimp only
      by_cases htelemetry : type = .telemetry
      · rw [if_pos htelemetry, if_pos htelemetry, ofExcept_bind_run, settle_bind]
        cases PacketSerializer.deserializeTelemetry packet with
        | error e => rfl
        | ok msg => exact updateSensorInfoInPlace_run gateway now msg
      · rw [if_neg htelemetry, if_neg htelemetry]
        by_cases hheartbeat : type = .heartbeat
        · rw [if_pos hheartbeat, if_pos hheartbeat, ofExcept_bind_run, settle_bind]
          cases PacketSerializer.deserializeHeartbeat packet with
          | error e => rfl
          | ok hb => exact handleHeartbeatInPlace_run gateway now hb
        · rw [if_neg hheartbeat, if_neg hheartbeat]
          rfl

/-! ## One packet -/

/-- The id in bytes 1 to 4, most significant byte first. -/
def sensorIdBytes (b : ByteString) : UInt32 :=
  UInt32.ofNat (∑ k ∈ Finset.range 4, (b.getD (1 + k) 0).toNat * 256 ^ (3 - k))

structure Untouched (gateway gateway' : Gateway) : Prop where
  sensors : gateway'.sensors = gateway.sensors
  telemetryPackets : gateway'.telemetryPacketsReceived = gateway.telemetryPacketsReceived
  heartbeatPackets : gateway'.heartbeatPacketsReceived = gateway.heartbeatPacketsReceived

/-- One entry is there afterwards, with the fields `kept` as they were, or as
in a new entry; every other entry is the same. -/
structure EntryUpdate {β : Type} (sensorId : UInt32) (kept : SensorInfo → β)
    (gateway gateway' : Gateway) : Prop where
  entry : ∃ info, gateway'.sensors.lookup sensorId = some info ∧
    kept info = kept ((gateway.sensors.lookup sensorId).getD {})
  others : ∀ other, other ≠ sensorId →
    gateway'.sensors.lookup other = gateway.sensors.lookup other

structure PacketEffect (gateway : Gateway) (b : ByteString)
    (result : Except Exception Unit) (gateway' : Gateway) : Prop where
  throws_iff : (∃ e, result = .error e) ↔ b.length < 13 ∨ b[0]? = some 1 ∧ b.length < 23
  thrown : (∃ e, result = .error e) → Untouched gateway gateway'
  ignored : 13 ≤ b.length → b[0]? ≠ some 1 → b[0]? ≠ some 2 → Untouched gateway gateway'
  telemetry : 23 ≤ b.length → b[0]? = some 1 →
    EntryUpdate (sensorIdBytes b) (fun info ↦ (info.lastHeartbeatReceivedTime, info.health))
      gateway gateway' ∧
    gateway'.telemetryPacketsReceived = gateway.telemetryPacketsReceived + 1 ∧
    gateway'.heartbeatPacketsReceived = gateway.heartbeatPacketsReceived
  heartbeat : 13 ≤ b.length → b[0]? = some 2 →
    EntryUpdate (sensorIdBytes b) (fun info ↦ (info.lastTelemetry, info.lastTelemetryReceivedTime))
      gateway gateway' ∧
    gateway'.heartbeatPacketsReceived = gateway.heartbeatPacketsReceived + 1 ∧
    gateway'.telemetryPacketsReceived = gateway.telemetryPacketsReceived

theorem sensorId_header {b : ByteString} (h : Wire.headerSize ≤ b.length) :
    (Wire.header b).sensorId = sensorIdBytes b := by
  have hlength : 1 + UnsignedInt.sizeof UInt32 ≤ b.length := le_trans (by decide) h
  have hfield := Wire.toNat_field hlength
  rw [sensorIdBytes]
  exact UInt32.ofNat_toNat.symm.trans (congrArg UInt32.ofNat hfield)

theorem Untouched.refl (gateway : Gateway) : Untouched gateway gateway := ⟨rfl, rfl, rfl⟩

theorem entryUpdate_updateSensorInfo (gateway : Gateway) (now : UInt64)
    (message : TelemetryMessage Double) :
    EntryUpdate message.header.sensorId
      (fun info ↦ (info.lastHeartbeatReceivedTime, info.health))
      gateway (gateway.updateSensorInfo now message) where
  entry := by
    rw [lookup_updateSensorInfo, entryStep, if_pos rfl]
    exact ⟨_, rfl, rfl⟩
  others other hother := by
    rw [lookup_updateSensorInfo, entryStep, if_neg hother.symm]

theorem entryUpdate_handleHeartbeat (gateway : Gateway) (now : UInt64)
    (message : HeartbeatMessage) :
    EntryUpdate message.header.sensorId
      (fun info ↦ (info.lastTelemetry, info.lastTelemetryReceivedTime))
      gateway (gateway.handleHeartbeat now message) where
  entry := by
    rw [lookup_handleHeartbeat, entryStep, if_pos rfl]
    exact ⟨_, rfl, rfl⟩
  others other hother := by
    rw [lookup_handleHeartbeat, entryStep, if_neg hother.symm]

theorem receive_of_rejects {b : ByteString} (h : Rejects b) (gateway : Gateway) (now : UInt64) :
    gateway.receive now b = (.error PacketSerializer.bufferUnderflow, gateway) := by
  rw [receive_eq, handlePacket_eq, if_pos h]
  rfl

theorem receive_of_accepts {b : ByteString} (h : ¬ Rejects b) (gateway : Gateway) (now : UInt64) :
    gateway.receive now b =
      (.ok (), if AcceptsTelemetry b then gateway.updateSensorInfo now (Wire.telemetry b)
        else if AcceptsHeartbeat b then gateway.handleHeartbeat now (Wire.heartbeat b)
        else gateway.log unknownMessageType) := by
  rw [receive_eq, handlePacket_eq, if_neg h]
  split_ifs <;> rfl

theorem throws_receive (gateway : Gateway) (now : UInt64) (b : ByteString) :
    (∃ e, (gateway.receive now b).1 = .error e) ↔ Rejects b := by
  constructor
  · rintro ⟨e, he⟩
    by_contra hrej
    rw [receive_of_accepts hrej] at he
    cases he
  · intro hrej
    rw [receive_of_rejects hrej]
    exact ⟨_, rfl⟩

/-- A packet is rejected as a whole or handled as a whole, and then only one
sensor sees it. -/
theorem receive_effect (gateway : Gateway) (now : UInt64) (b : ByteString) :
    PacketEffect gateway b (gateway.receive now b).1 (gateway.receive now b).2 where
  throws_iff := by
    rw [throws_receive, Rejects, and_comm (a := b[0]? = some 1)]
    rfl
  thrown h := by
    rw [receive_of_rejects ((throws_receive gateway now b).mp h)]
    exact Untouched.refl gateway
  ignored hlength h1 h2 := by
    have hrej : ¬ Rejects b := by
      rintro (hlt | ⟨-, hone⟩)
      · exact absurd hlength (Nat.not_le.mpr hlt)
      · exact h1 hone
    have htelemetry : ¬ AcceptsTelemetry b := fun h ↦ h1 h.2
    have hheartbeat : ¬ AcceptsHeartbeat b := fun h ↦ h2 h.2
    rw [receive_of_accepts hrej, if_neg htelemetry, if_neg hheartbeat]
    exact ⟨rfl, rfl, rfl⟩
  telemetry hlength h1 := by
    have hacc : AcceptsTelemetry b := ⟨hlength, h1⟩
    have hid := sensorId_header (b := b) (le_trans (by decide) hlength)
    rw [receive_of_accepts hacc.not_rejects, if_pos hacc, ← hid]
    exact ⟨entryUpdate_updateSensorInfo gateway now (Wire.telemetry b), rfl, rfl⟩
  heartbeat hlength h2 := by
    have hacc : AcceptsHeartbeat b := ⟨hlength, h2⟩
    have htelemetry : ¬ AcceptsTelemetry b := fun h ↦ not_acceptsHeartbeat h hacc
    rw [receive_of_accepts hacc.not_rejects, if_neg htelemetry, if_pos hacc,
      ← sensorId_header hlength]
    exact ⟨entryUpdate_handleHeartbeat gateway now (Wire.heartbeat b), rfl, rfl⟩

end SmartSensorNetwork.Gateway
