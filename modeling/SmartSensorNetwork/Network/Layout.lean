import SmartSensorNetwork.Network.WireFormat

/-!
# The documented layout

The protocol section of the README gives the offset, the width and the byte
order of every field. The encoder writes exactly that, with weights
`256 ^ 3 .. 1` and `256 ^ 7 .. 1` for the multi-byte fields.
-/

namespace SmartSensorNetwork.Wire

open CppStd PacketSerializer

structure TelemetryLayout (m : TelemetryMessage Double) (b : ByteString) : Prop where
  length : b.length = 23
  messageType : b[0]? = some m.header.type.raw
  sensorId : ∑ k ∈ Finset.range 4, (b.getD (1 + k) 0).toNat * 256 ^ (3 - k) =
    m.header.sensorId.toNat
  timestamp : ∑ k ∈ Finset.range 8, (b.getD (5 + k) 0).toNat * 256 ^ (7 - k) =
    m.header.timestampMs.toNat
  sensorType : b[13]? = some m.type.raw
  state : b[14]? = some m.state.raw
  value : ∑ k ∈ Finset.range 8, (b.getD (15 + k) 0).toNat * 256 ^ (7 - k) =
    m.value.bits.toNat
  bytes : ∀ x ∈ b, x.toNat ≤ 255

/-- A buffer of the right length has the layout of the message in it. -/
theorem telemetryLayout_telemetry {b : ByteString} (hlength : b.length = 23) :
    TelemetryLayout (telemetry b) b where
  length := hlength
  messageType := getElem?_eq_field (by omega)
  sensorId := (toNat_field (T := UInt32) (by rw [hlength]; decide)).symm
  timestamp := (toNat_field (T := UInt64) (by rw [hlength]; decide)).symm
  sensorType := getElem?_eq_field (by omega)
  state := getElem?_eq_field (by omega)
  value := (toNat_field (T := UInt64) (by rw [hlength]; decide)).symm
  bytes x _ := Nat.le_of_lt_succ x.toNat_lt

/-- The encoder writes the documented layout. -/
theorem serialize_layout :
    (∀ m : TelemetryMessage Double, TelemetryLayout m (serializeTelemetry m)) ∧
    ∀ h : HeartbeatMessage, (serializeHeartbeat h).length = 13 ∧
      ∀ m : TelemetryMessage Double, m.header = h.header →
        serializeHeartbeat h = (serializeTelemetry m).take 13 := by
  constructor
  · intro m
    have hlayout := telemetryLayout_telemetry (length_serializeTelemetry m)
    rwa [telemetry_serializeTelemetry] at hlayout
  · intro h
    refine ⟨length_serializeHeartbeat h, fun m hheader ↦ ?_⟩
    have hlength := length_headerBytes h.header
    rw [serializeHeartbeat_eq, serializeTelemetry_eq, hheader]
    exact (List.take_left' hlength).symm

end SmartSensorNetwork.Wire
