import SmartSensorNetwork.Gateway.Gateway
import SmartSensorNetwork.Network.WireFormat

/-!
# The registry as a family of independent entries

The Gateway's map refines a product of one small machine per sensor id: an
input touches the entry of one id, or every entry by the same rule, and no
entry ever looks at another one. All results about runs are proved on the
entry machine and carried to the map by `lookup_run`.
-/

namespace SmartSensorNetwork.Gateway

open CppStd

def AcceptsTelemetry (b : ByteString) : Prop :=
  Wire.telemetrySize ≤ b.length ∧ b[0]? = some 1

def AcceptsHeartbeat (b : ByteString) : Prop :=
  Wire.headerSize ≤ b.length ∧ b[0]? = some 2

def Rejects (b : ByteString) : Prop :=
  b.length < Wire.headerSize ∨ b.length < Wire.telemetrySize ∧ b[0]? = some 1

instance : DecidablePred AcceptsTelemetry := fun _ ↦ inferInstanceAs (Decidable (_ ∧ _))
instance : DecidablePred AcceptsHeartbeat := fun _ ↦ inferInstanceAs (Decidable (_ ∧ _))
instance : DecidablePred Rejects := fun _ ↦ inferInstanceAs (Decidable (_ ∨ _))

theorem header_type {b : ByteString} {x : UInt8} (hx : b[0]? = some x) :
    (Wire.header b).type = ⟨x⟩ := by
  rw [Wire.header, Wire.field_uint8 hx]

theorem exists_head {b : ByteString} (h : 0 < b.length) : ∃ x, b[0]? = some x :=
  ⟨b[0], List.getElem?_eq_getElem h⟩

theorem handlePacket_eq (gateway : Gateway) (now : UInt64) (b : ByteString) :
    gateway.handlePacket now b =
      if Rejects b then .error PacketSerializer.bufferUnderflow
      else if AcceptsTelemetry b then .ok (gateway.updateSensorInfo now (Wire.telemetry b))
      else if AcceptsHeartbeat b then .ok (gateway.handleHeartbeat now (Wire.heartbeat b))
      else .ok (gateway.log unknownMessageType) := by
  by_cases hheader : Wire.headerSize ≤ b.length
  · obtain ⟨x, hx⟩ := exists_head (lt_of_lt_of_le (by decide) hheader)
    have hpeek : PacketSerializer.peekMessageType b = .ok ⟨x⟩ := by
      rw [Wire.peekMessageType_eq, if_pos hheader, header_type hx]
    by_cases h1 : x = 1
    · subst h1
      by_cases htelemetry : Wire.telemetrySize ≤ b.length
      · have hrej : ¬ Rejects b := by simp [Rejects, hheader, htelemetry]
        have hacc : AcceptsTelemetry b := ⟨htelemetry, hx⟩
        have hmsg : PacketSerializer.deserializeTelemetry b = .ok (Wire.telemetry b) := by
          rw [Wire.deserializeTelemetry_eq, if_pos htelemetry]
        rw [if_neg hrej, if_pos hacc, handlePacket, hpeek, hmsg]
        rfl
      · have hrej : Rejects b := .inr ⟨by omega, hx⟩
        have hmsg : PacketSerializer.deserializeTelemetry b =
            .error PacketSerializer.bufferUnderflow := by
          rw [Wire.deserializeTelemetry_eq, if_neg htelemetry]
        rw [if_pos hrej, handlePacket, hpeek, hmsg]
        rfl
    · have hrej : ¬ Rejects b := by simp [Rejects, hheader, hx, h1]
      have hacc : ¬ AcceptsTelemetry b := by simp [AcceptsTelemetry, hx, h1]
      have htype : (⟨x⟩ : MessageType) ≠ .telemetry := by simp [MessageType.telemetry, h1]
      rw [if_neg hrej, if_neg hacc]
      by_cases h2 : x = 2
      · subst h2
        have hmsg : PacketSerializer.deserializeHeartbeat b = .ok (Wire.heartbeat b) := by
          rw [Wire.deserializeHeartbeat_eq, if_pos hheader]
        have haccept : AcceptsHeartbeat b := ⟨hheader, hx⟩
        rw [if_pos haccept, handlePacket, hpeek, hmsg]
        rfl
      · have haccept : ¬ AcceptsHeartbeat b := by simp [AcceptsHeartbeat, hx, h2]
        have htype' : (⟨x⟩ : MessageType) ≠ .heartbeat := by simp [MessageType.heartbeat, h2]
        rw [if_neg haccept, handlePacket, hpeek]
        simp [bind, Except.bind, htype, htype', pure, Except.pure]
  · have hrej : Rejects b := .inl (by omega)
    have hpeek : PacketSerializer.peekMessageType b =
        .error PacketSerializer.bufferUnderflow := by
      rw [Wire.peekMessageType_eq, if_neg hheader]
    rw [if_pos hrej, handlePacket, hpeek]
    rfl

theorem handlePacket_eq_perform (gateway : Gateway) (now : UInt64) (b : ByteString) :
    gateway.handlePacket now b =
      if Rejects b then .error PacketSerializer.bufferUnderflow
      else .ok (gateway.perform now (.handlePacket b)) := by
  rw [perform, handlePacket_eq]
  by_cases hrej : Rejects b
  · simp [hrej]
  · by_cases htelemetry : AcceptsTelemetry b
    · simp [hrej, htelemetry]
    · by_cases hheartbeat : AcceptsHeartbeat b <;> simp [hrej, htelemetry, hheartbeat]

theorem not_acceptsHeartbeat {b : ByteString} (h : AcceptsTelemetry b) : ¬ AcceptsHeartbeat b := by
  simp [AcceptsHeartbeat, h.2]

theorem AcceptsTelemetry.not_rejects {b : ByteString} (h : AcceptsTelemetry b) : ¬ Rejects b := by
  have hheader : Wire.headerSize ≤ b.length := le_trans (by decide) h.1
  have htelemetry := h.1
  rintro (hlt | ⟨hlt, -⟩) <;> omega

theorem AcceptsHeartbeat.not_rejects {b : ByteString} (h : AcceptsHeartbeat b) : ¬ Rejects b := by
  have hheader := h.1
  rintro (hlt | ⟨-, hone⟩)
  · omega
  · simp [h.2] at hone

/-! ## Inputs -/

inductive Input where
  | telemetry (message : TelemetryMessage Double)
  | heartbeat (sensorId : UInt32)
  | scan
  | idle
  deriving DecidableEq

def Call.input : Call → Input
  | .handlePacket b =>
      if AcceptsTelemetry b then .telemetry (Wire.telemetry b)
      else if AcceptsHeartbeat b then .heartbeat (Wire.header b).sensorId
      else .idle
  | .detectOfflineSensors => .scan
  | .getSecondsSinceLastHeartbeat _ => .idle

/-- The entry of sensor `id` under one input. A missing entry is created
with its default fields by either kind of packet, and by nothing else. -/
def entryStep (id : UInt32) (now : UInt64) (entry : Option SensorInfo) :
    Input → Option SensorInfo
  | .telemetry message =>
      if message.header.sensorId = id then
        some { entry.getD {} with lastTelemetry := message, lastTelemetryReceivedTime := now }
      else entry
  | .heartbeat sensorId =>
      if sensorId = id then
        some { entry.getD {} with lastHeartbeatReceivedTime := now, health := .online }
      else entry
  | .scan => entry.map (checkSensor now)
  | .idle => entry

def telemetryCount : Input → ℕ
  | .telemetry _ => 1
  | _ => 0

def heartbeatCount : Input → ℕ
  | .heartbeat _ => 1
  | _ => 0

theorem perform_cases (gateway : Gateway) (now : UInt64) (call : Call) :
    (∃ m, call.input = .telemetry m ∧ gateway.perform now call = gateway.updateSensorInfo now m) ∨
      (∃ h : HeartbeatMessage, call.input = .heartbeat h.header.sensorId ∧
        gateway.perform now call = gateway.handleHeartbeat now h) ∨
      (call.input = .scan ∧ gateway.perform now call = gateway.detectOfflineSensors now) ∨
      (call.input = .idle ∧ (gateway.perform now call = gateway ∨
        gateway.perform now call = gateway.log unknownMessageType)) := by
  cases call with
  | handlePacket b =>
      by_cases htelemetry : AcceptsTelemetry b
      · refine .inl ⟨Wire.telemetry b, by simp [Call.input, htelemetry], ?_⟩
        simp [perform, handlePacket_eq, htelemetry.not_rejects, htelemetry]
      · by_cases hheartbeat : AcceptsHeartbeat b
        · refine .inr (.inl ⟨Wire.heartbeat b, ?_, ?_⟩)
          · simp [Call.input, htelemetry, hheartbeat, Wire.heartbeat]
          · simp [perform, handlePacket_eq, hheartbeat.not_rejects, htelemetry, hheartbeat]
        · refine .inr (.inr (.inr ⟨by simp [Call.input, htelemetry, hheartbeat], ?_⟩))
          by_cases hrej : Rejects b
          · exact .inl (by simp [perform, handlePacket_eq, hrej])
          · exact .inr (by simp [perform, handlePacket_eq, hrej, htelemetry, hheartbeat])
  | detectOfflineSensors => exact .inr (.inr (.inl ⟨rfl, rfl⟩))
  | getSecondsSinceLastHeartbeat id => exact .inr (.inr (.inr ⟨rfl, .inl rfl⟩))

theorem lookup_updateSensorInfo (gateway : Gateway) (now : UInt64)
    (m : TelemetryMessage Double) (id : UInt32) :
    (gateway.updateSensorInfo now m).sensors.lookup id =
      entryStep id now (gateway.sensors.lookup id) (.telemetry m) := by
  by_cases hid : m.header.sensorId = id
  · subst hid
    simp [updateSensorInfo, entryStep]
  · simp [updateSensorInfo, entryStep, hid, AList.lookup_modifyD_ne (Ne.symm hid)]

theorem lookup_handleHeartbeat (gateway : Gateway) (now : UInt64) (h : HeartbeatMessage)
    (id : UInt32) :
    (gateway.handleHeartbeat now h).sensors.lookup id =
      entryStep id now (gateway.sensors.lookup id) (.heartbeat h.header.sensorId) := by
  by_cases hid : h.header.sensorId = id
  · subst hid
    simp [handleHeartbeat, entryStep]
  · simp [handleHeartbeat, entryStep, hid, AList.lookup_modifyD_ne (Ne.symm hid)]

theorem lookup_detectOfflineSensors (gateway : Gateway) (t : UInt64) (id : UInt32) :
    (gateway.detectOfflineSensors t).sensors.lookup id =
      entryStep id t (gateway.sensors.lookup id) .scan := by
  simp [detectOfflineSensors, entryStep]

theorem lookup_perform (gateway : Gateway) (now : UInt64) (call : Call) (id : UInt32) :
    (gateway.perform now call).sensors.lookup id =
      entryStep id now (gateway.sensors.lookup id) call.input := by
  obtain ⟨m, hinput, hperform⟩ | ⟨h, hinput, hperform⟩ | ⟨hinput, hperform⟩ |
    ⟨hinput, hperform | hperform⟩ := perform_cases gateway now call <;> rw [hinput, hperform]
  · exact lookup_updateSensorInfo gateway now m id
  · exact lookup_handleHeartbeat gateway now h id
  · exact lookup_detectOfflineSensors gateway now id
  · rfl
  · rfl

theorem telemetryPacketsReceived_perform (gateway : Gateway) (now : UInt64) (call : Call) :
    (gateway.perform now call).telemetryPacketsReceived =
      gateway.telemetryPacketsReceived + UInt64.ofNat (telemetryCount call.input) := by
  obtain ⟨m, hinput, hperform⟩ | ⟨h, hinput, hperform⟩ | ⟨hinput, hperform⟩ |
    ⟨hinput, hperform | hperform⟩ := perform_cases gateway now call <;> rw [hinput, hperform] <;>
    simp [updateSensorInfo, handleHeartbeat, detectOfflineSensors, log, telemetryCount]

theorem heartbeatPacketsReceived_perform (gateway : Gateway) (now : UInt64) (call : Call) :
    (gateway.perform now call).heartbeatPacketsReceived =
      gateway.heartbeatPacketsReceived + UInt64.ofNat (heartbeatCount call.input) := by
  obtain ⟨m, hinput, hperform⟩ | ⟨h, hinput, hperform⟩ | ⟨hinput, hperform⟩ |
    ⟨hinput, hperform | hperform⟩ := perform_cases gateway now call <;> rw [hinput, hperform] <;>
    simp [updateSensorInfo, handleHeartbeat, detectOfflineSensors, log, heartbeatCount]

/-! ## Runs -/

def entryRun (id : UInt32) (entry : Option SensorInfo) (calls : List (Call × UInt64)) :
    Option SensorInfo :=
  calls.foldl (fun entry call ↦ entryStep id call.2 entry call.1.input) entry

@[simp] theorem entryRun_nil (id : UInt32) (entry : Option SensorInfo) :
    entryRun id entry [] = entry := rfl

theorem entryRun_concat (id : UInt32) (entry : Option SensorInfo) (calls : List (Call × UInt64))
    (call : Call × UInt64) :
    entryRun id entry (calls ++ [call]) =
      entryStep id call.2 (entryRun id entry calls) call.1.input := by
  simp [entryRun]

theorem entryRun_append (id : UInt32) (entry : Option SensorInfo)
    (calls more : List (Call × UInt64)) :
    entryRun id entry (calls ++ more) = entryRun id (entryRun id entry calls) more := by
  simp [entryRun]

/-- The map refines the product of the entry machines. -/
theorem lookup_run (gateway : Gateway) (calls : List (Call × UInt64)) (id : UInt32) :
    (gateway.run calls).sensors.lookup id = entryRun id (gateway.sensors.lookup id) calls := by
  induction calls using List.reverseRecOn with
  | nil => rfl
  | append_singleton calls call ih =>
      rw [run_concat, lookup_perform, entryRun_concat, ih]

end SmartSensorNetwork.Gateway
