import SmartSensorNetwork.Lib.BigEndian
import SmartSensorNetwork.Network.PacketSerializer

/-!
# The wire format and the codec laws

The documented layout is stated once, as a table of big-endian fields at
fixed offsets. The byte loops of the serializer are shown to compute it, and
the round trips in both directions follow from the ones of a single field.
-/

namespace SmartSensorNetwork.Wire

open CppStd PacketSerializer

def headerSize : ℕ := 13
def telemetrySize : ℕ := 23

def slice (b : ByteString) (offset width : ℕ) : ByteString :=
  (b.drop offset).take width

/-- The unsigned integer stored big-endian at `offset`. -/
def field (T : Type) [UnsignedInt T] (b : ByteString) (offset : ℕ) : T :=
  UnsignedInt.ofNat (BigEndian.decode (slice b offset (UnsignedInt.sizeof T)))

def header (b : ByteString) : PacketHeader where
  type := ⟨field UInt8 b 0⟩
  sensorId := field UInt32 b 1
  timestampMs := field UInt64 b 5

def telemetry (b : ByteString) : TelemetryMessage Double where
  header := header b
  type := ⟨field UInt8 b 13⟩
  state := ⟨field UInt8 b 14⟩
  value := ⟨field UInt64 b 15⟩

def heartbeat (b : ByteString) : HeartbeatMessage := ⟨header b⟩

/-! ## Slices -/

theorem length_slice {b : ByteString} {offset width : ℕ} (h : offset + width ≤ b.length) :
    (slice b offset width).length = width := by
  rw [slice, List.length_take, List.length_drop]
  omega

theorem slice_append (b : ByteString) (offset width next : ℕ) :
    slice b offset width ++ slice b (offset + width) next = slice b offset (width + next) := by
  simp only [slice, ← List.drop_drop]
  exact (List.take_add ..).symm

theorem slice_zero (b : ByteString) (width : ℕ) : slice b 0 width = b.take width := rfl

theorem slice_succ {b : ByteString} {offset width : ℕ} {x : UInt8} (h : b[offset]? = some x) :
    slice b offset (width + 1) = x :: slice b (offset + 1) width := by
  obtain ⟨hlt, hx⟩ := List.getElem?_eq_some_iff.mp h
  rw [slice, List.drop_eq_getElem_cons hlt, List.take_succ_cons, hx, slice]

theorem getD_slice (b : ByteString) (offset : ℕ) {width k : ℕ} (h : k < width) :
    (slice b offset width).getD k 0 = b.getD (offset + k) 0 := by
  rw [slice, List.getD_eq_getElem?_getD, List.getD_eq_getElem?_getD, List.getElem?_take_of_lt h,
    List.getElem?_drop]

theorem slice_append_left (xs ys : ByteString) {width : ℕ} (h : xs.length = width) :
    slice (xs ++ ys) 0 width = xs := by
  simp [slice, ← h]

theorem slice_append_right (xs ys : ByteString) {n : ℕ} (offset width : ℕ)
    (h : xs.length = n) : slice (xs ++ ys) (n + offset) width = slice ys offset width := by
  rw [slice, ← List.drop_drop, ← h, List.drop_left, slice]

/-! ## One field -/

section Field

variable {T : Type} [UnsignedInt T]

theorem encode_field {b : ByteString} {offset : ℕ}
    (h : offset + UnsignedInt.sizeof T ≤ b.length) :
    BigEndian.encode (UnsignedInt.sizeof T) (UnsignedInt.toNat (field T b offset)) =
      slice b offset (UnsignedInt.sizeof T) := by
  have hlen := length_slice h
  have hlt := BigEndian.decode_lt (slice b offset (UnsignedInt.sizeof T))
  rw [hlen] at hlt
  have hround := BigEndian.encode_decode (slice b offset (UnsignedInt.sizeof T))
  rw [hlen] at hround
  rw [field, UnsignedInt.toNat_ofNat, Nat.mod_eq_of_lt hlt, hround]

/-- A field is the numeral that its bytes spell, the first one weighing most. -/
theorem toNat_field {b : ByteString} {offset : ℕ}
    (h : offset + UnsignedInt.sizeof T ≤ b.length) :
    UnsignedInt.toNat (field T b offset) = ∑ k ∈ Finset.range (UnsignedInt.sizeof T),
      (b.getD (offset + k) 0).toNat * 256 ^ (UnsignedInt.sizeof T - 1 - k) := by
  have hlength := length_slice h
  have hlt := BigEndian.decode_lt (slice b offset (UnsignedInt.sizeof T))
  rw [hlength] at hlt
  rw [field, UnsignedInt.toNat_ofNat, Nat.mod_eq_of_lt hlt, BigEndian.decode_eq_sum, hlength]
  apply Finset.sum_congr rfl
  intro k hk
  rw [getD_slice b offset (Finset.mem_range.mp hk)]

theorem ofNat_decode_encode (x : T) :
    UnsignedInt.ofNat
      (BigEndian.decode (BigEndian.encode (UnsignedInt.sizeof T) (UnsignedInt.toNat x))) = x := by
  rw [BigEndian.decode_encode_of_lt (UnsignedInt.toNat_lt x), UnsignedInt.ofNat_toNat]

theorem field_encode_append (x : T) (ys : ByteString) :
    field T (BigEndian.encode (UnsignedInt.sizeof T) (UnsignedInt.toNat x) ++ ys) 0 = x := by
  rw [field, slice_append_left _ _ (BigEndian.length_encode ..), ofNat_decode_encode]

theorem field_append_right (xs ys : ByteString) {n : ℕ} (offset : ℕ) (h : xs.length = n) :
    field T (xs ++ ys) (n + offset) = field T ys offset := by
  rw [field, slice_append_right _ _ _ _ h, field]

/-! ## The byte loops -/

theorem writeLoop_eq (value : T) (i : ℕ) (buffer : ByteString) :
    writeLoop buffer value i = buffer ++ BigEndian.encode i (UnsignedInt.toNat value) := by
  induction i generalizing buffer with
  | zero => simp [writeLoop]
  | succ i ih =>
      have hbyte : UInt8.ofNat (UnsignedInt.toNat value >>> (i * bitsPerByte) &&& byteMask) =
          UInt8.ofNat (UnsignedInt.toNat value / 256 ^ i) := by
        rw [bitsPerByte, byteMask, BigEndian.shiftRight_and_mask]
        apply UInt8.toNat_inj.mp
        simp [UInt8.toNat_ofNat']
      rw [writeLoop, ih, hbyte, BigEndian.encode_succ, List.append_assoc, List.singleton_append]

theorem write_eq (buffer : ByteString) (value : T) :
    write buffer value =
      buffer ++ BigEndian.encode (UnsignedInt.sizeof T) (UnsignedInt.toNat value) :=
  writeLoop_eq value _ buffer

theorem nextByte_run {buffer : ByteString} {offset : ℕ} {x : UInt8}
    (hx : buffer[offset]? = some x) :
    (nextByte buffer).run offset = .ok (x, offset + 1) := by
  simp [nextByte, StateT.run, hx]

/-- While the bytes are there, each turn of the loop appends one digit. The
accumulator is cut to the width of `T` every time, which changes nothing:
only the value modulo `256 ^ sizeof T` is ever read. -/
theorem readLoop_run (buffer : ByteString) (n : ℕ) :
    ∀ (acc offset : ℕ), offset + n ≤ buffer.length →
      (readLoop (T := T) buffer (UnsignedInt.ofNat acc) n).run offset =
        .ok (UnsignedInt.ofNat (acc * 256 ^ n + BigEndian.decode (slice buffer offset n)),
          offset + n) := by
  induction n with
  | zero =>
      intro acc offset _
      simp [readLoop, slice]
      rfl
  | succ n ih =>
      intro acc offset hle
      obtain ⟨x, hx⟩ : ∃ x, buffer[offset]? = some x :=
        ⟨_, List.getElem?_eq_getElem (show offset < buffer.length by omega)⟩
      have hacc : UnsignedInt.ofNat (T := T)
          (UnsignedInt.toNat (UnsignedInt.ofNat (T := T) acc) <<< 8 ||| x.toNat) =
            UnsignedInt.ofNat (acc * 256 + x.toNat) := by
        rw [BigEndian.shiftLeft_or_byte, UnsignedInt.toNat_ofNat]
        exact UnsignedInt.ofNat_congr (((Nat.mod_modEq _ _).mul_right _).add_right _)
      have hstep : (readLoop (T := T) buffer (UnsignedInt.ofNat acc) (n + 1)).run offset =
          (readLoop (T := T) buffer (UnsignedInt.ofNat (acc * 256 + x.toNat)) n).run
            (offset + 1) := by
        rw [readLoop, StateT.run_bind, nextByte_run hx, ← hacc]
        rfl
      have hlen : (slice buffer (offset + 1) n).length = n := length_slice (by omega)
      have hvalue : (acc * 256 + x.toNat) * 256 ^ n +
          BigEndian.decode (slice buffer (offset + 1) n) =
            acc * 256 ^ (n + 1) + BigEndian.decode (slice buffer offset (n + 1)) := by
        rw [slice_succ hx, BigEndian.decode_cons, hlen]
        ring
      rw [hstep, ih _ _ (by omega), hvalue, Nat.add_assoc, Nat.add_comm 1 n]

theorem read_run (buffer : ByteString) (offset : ℕ) :
    (PacketSerializer.read T buffer).run offset =
      if offset + UnsignedInt.sizeof T ≤ buffer.length then
        .ok (field T buffer offset, offset + UnsignedInt.sizeof T)
      else .error bufferUnderflow := by
  by_cases h : offset + UnsignedInt.sizeof T ≤ buffer.length
  · have hloop := readLoop_run (T := T) buffer _ 0 offset h
    rw [Nat.zero_mul, Nat.zero_add] at hloop
    have hguard : ¬ offset + UnsignedInt.sizeof T > buffer.length := by omega
    rw [if_pos h, ← field] at *
    simpa [PacketSerializer.read, hguard] using hloop
  · have hguard : offset + UnsignedInt.sizeof T > buffer.length := by omega
    rw [if_neg h]
    simp [PacketSerializer.read, hguard]
    rfl

/-- What a reader does after a field read: it goes on past the field, or
stops with the underflow error. -/
theorem read_bind_run {β : Type} (buffer : ByteString) (offset : ℕ) (k : T → Reader β) :
    (PacketSerializer.read T buffer >>= k).run offset =
      if offset + UnsignedInt.sizeof T ≤ buffer.length then
        (k (field T buffer offset)).run (offset + UnsignedInt.sizeof T)
      else .error bufferUnderflow := by
  rw [StateT.run_bind, read_run]
  by_cases h : offset + UnsignedInt.sizeof T ≤ buffer.length
  · rw [if_pos h, if_pos h]
    rfl
  · rw [if_neg h, if_neg h]
    rfl

end Field

@[simp] theorem sizeof_uint8 : UnsignedInt.sizeof UInt8 = 1 := rfl
@[simp] theorem sizeof_uint32 : UnsignedInt.sizeof UInt32 = 4 := rfl
@[simp] theorem sizeof_uint64 : UnsignedInt.sizeof UInt64 = 8 := rfl

theorem field_uint8 {b : ByteString} {offset : ℕ} {x : UInt8} (hx : b[offset]? = some x) :
    field UInt8 b offset = x := by
  have hslice : slice b offset 1 = [x] := by
    rw [slice_succ hx]
    simp [slice]
  rw [field, sizeof_uint8, hslice, BigEndian.decode_singleton]
  exact UnsignedInt.ofNat_toNat x

theorem getElem?_eq_field {b : ByteString} {offset : ℕ} (h : offset < b.length) :
    b[offset]? = some (field UInt8 b offset) := by
  have hx := List.getElem?_eq_getElem h
  rw [hx, field_uint8 hx]

/-! ## The decoders -/

theorem pure_run {β : Type} (x : β) (offset : ℕ) :
    (pure x : Reader β).run offset = .ok (x, offset) := rfl

theorem readHeader_run (b : ByteString) :
    (readHeader b).run 0 =
      if headerSize ≤ b.length then .ok (header b, headerSize) else .error bufferUnderflow := by
  have hread : (readHeader b).run 0 =
      if 1 ≤ b.length then if 5 ≤ b.length then if 13 ≤ b.length then .ok (header b, 13)
        else .error bufferUnderflow else .error bufferUnderflow else .error bufferUnderflow := by
    simp only [readHeader, read_bind_run, pure_run, sizeof_uint8, sizeof_uint32, sizeof_uint64,
      Nat.zero_add, Nat.reduceAdd, header]
  rw [hread]
  by_cases h : headerSize ≤ b.length
  · have h13 : 13 ≤ b.length := h
    rw [if_pos h, if_pos (by omega), if_pos (by omega), if_pos h13]
    rfl
  · have h13 : ¬ 13 ≤ b.length := h
    rw [if_neg h, if_neg h13, ite_self, ite_self]

theorem readTelemetry_run (b : ByteString) :
    (readTelemetry b).run 0 =
      if telemetrySize ≤ b.length then .ok (telemetry b, telemetrySize)
      else .error bufferUnderflow := by
  rw [readTelemetry, StateT.run_bind, readHeader_run]
  by_cases hheader : headerSize ≤ b.length
  · have hpayload : (do
          let type ← PacketSerializer.read UInt8 b
          let state ← PacketSerializer.read UInt8 b
          let value ← readDouble b
          return (⟨header b, ⟨type⟩, ⟨state⟩, value⟩ : TelemetryMessage Double)).run 13 =
        if 14 ≤ b.length then if 15 ≤ b.length then if 23 ≤ b.length then .ok (telemetry b, 23)
          else .error bufferUnderflow else .error bufferUnderflow
          else .error bufferUnderflow := by
      simp only [readDouble, bind_assoc, pure_bind, read_bind_run, pure_run, sizeof_uint8,
        sizeof_uint64, Nat.reduceAdd, telemetry]
    rw [if_pos hheader]
    refine Eq.trans hpayload ?_
    by_cases h : telemetrySize ≤ b.length
    · have h23 : 23 ≤ b.length := h
      rw [if_pos h, if_pos (by omega), if_pos (by omega), if_pos h23]
      rfl
    · have h23 : ¬ 23 ≤ b.length := h
      rw [if_neg h, if_neg h23, ite_self, ite_self]
  · have htelemetry : ¬ telemetrySize ≤ b.length := fun h ↦
      hheader (le_trans (by decide) h)
    rw [if_neg hheader, if_neg htelemetry]
    rfl

theorem deserializeTelemetry_eq (b : ByteString) :
    deserializeTelemetry b =
      if telemetrySize ≤ b.length then .ok (telemetry b) else .error bufferUnderflow := by
  rw [deserializeTelemetry, StateT.run'_eq, readTelemetry_run]
  split_ifs <;> rfl

theorem deserializeHeartbeat_eq (b : ByteString) :
    deserializeHeartbeat b =
      if headerSize ≤ b.length then .ok (heartbeat b) else .error bufferUnderflow := by
  rw [deserializeHeartbeat, StateT.run'_eq, readHeader_run]
  split_ifs <;> rfl

theorem peekMessageType_eq (b : ByteString) :
    peekMessageType b =
      if headerSize ≤ b.length then .ok (header b).type else .error bufferUnderflow := by
  rw [peekMessageType, StateT.run'_eq, readHeader_run]
  split_ifs <;> rfl

/-! ## The encoders -/

def headerBytes (h : PacketHeader) : ByteString :=
  BigEndian.encode 1 h.type.raw.toNat ++ (BigEndian.encode 4 h.sensorId.toNat ++
    BigEndian.encode 8 h.timestampMs.toNat)

def payloadBytes (m : TelemetryMessage Double) : ByteString :=
  BigEndian.encode 1 m.type.raw.toNat ++ (BigEndian.encode 1 m.state.raw.toNat ++
    BigEndian.encode 8 m.value.bits.toNat)

theorem serializeHeartbeat_eq (h : HeartbeatMessage) :
    serializeHeartbeat h = headerBytes h.header := by
  simp only [serializeHeartbeat, writeHeader, write_eq, headerBytes, List.nil_append,
    List.append_assoc]
  rfl

theorem serializeTelemetry_eq (m : TelemetryMessage Double) :
    serializeTelemetry m = headerBytes m.header ++ payloadBytes m := by
  simp only [serializeTelemetry, writeDouble, writeHeader, write_eq, headerBytes, payloadBytes,
    List.nil_append, List.append_assoc]
  rfl

theorem length_headerBytes (h : PacketHeader) : (headerBytes h).length = headerSize := by
  simp [headerBytes, headerSize]

theorem length_payloadBytes (m : TelemetryMessage Double) : (payloadBytes m).length = 10 := by
  simp [payloadBytes]

theorem length_serializeHeartbeat (h : HeartbeatMessage) :
    (serializeHeartbeat h).length = headerSize := by
  rw [serializeHeartbeat_eq, length_headerBytes]

theorem length_serializeTelemetry (m : TelemetryMessage Double) :
    (serializeTelemetry m).length = telemetrySize := by
  rw [serializeTelemetry_eq, List.length_append, length_headerBytes, length_payloadBytes]
  rfl

/-! ## Round trips -/

theorem header_headerBytes (h : PacketHeader) (ys : ByteString) :
    header (headerBytes h ++ ys) = h := by
  have htype : field UInt8 (headerBytes h ++ ys) 0 = h.type.raw := by
    simp only [headerBytes, List.append_assoc]
    exact field_encode_append h.type.raw _
  have hid : field UInt32 (headerBytes h ++ ys) 1 = h.sensorId := by
    simp only [headerBytes, List.append_assoc]
    rw [show (1 : ℕ) = 1 + 0 from rfl, field_append_right _ _ 0 (BigEndian.length_encode ..)]
    exact field_encode_append h.sensorId _
  have hts : field UInt64 (headerBytes h ++ ys) 5 = h.timestampMs := by
    simp only [headerBytes, List.append_assoc]
    rw [show (5 : ℕ) = 1 + 4 from rfl, field_append_right _ _ 4 (BigEndian.length_encode ..),
      show (4 : ℕ) = 4 + 0 from rfl, field_append_right _ _ 0 (BigEndian.length_encode ..)]
    exact field_encode_append h.timestampMs _
  rw [header, htype, hid, hts]

theorem telemetry_serializeTelemetry (m : TelemetryMessage Double) :
    telemetry (serializeTelemetry m) = m := by
  have hpay (T : Type) [UnsignedInt T] (k : ℕ) :
      field T (headerBytes m.header ++ payloadBytes m) (13 + k) = field T (payloadBytes m) k :=
    field_append_right _ _ k (length_headerBytes m.header)
  have htype : field UInt8 (payloadBytes m) 0 = m.type.raw :=
    field_encode_append m.type.raw _
  have hstate : field UInt8 (payloadBytes m) 1 = m.state.raw := by
    rw [payloadBytes, show (1 : ℕ) = 1 + 0 from rfl,
      field_append_right _ _ 0 (BigEndian.length_encode ..)]
    exact field_encode_append m.state.raw _
  have hvalue : field UInt64 (payloadBytes m) 2 = m.value.bits := by
    rw [payloadBytes, show (2 : ℕ) = 1 + 1 from rfl,
      field_append_right _ _ 1 (BigEndian.length_encode ..),
      show (1 : ℕ) = 1 + 0 from rfl, field_append_right _ _ 0 (BigEndian.length_encode ..)]
    exact field_encode_append m.value.bits []
  rw [serializeTelemetry_eq, telemetry, header_headerBytes, hpay UInt8 0, hpay UInt8 1,
    hpay UInt64 2, htype, hstate, hvalue]

theorem headerBytes_header {b : ByteString} (h : headerSize ≤ b.length) :
    headerBytes (header b) = b.take headerSize := by
  have htype : BigEndian.encode 1 (header b).type.raw.toNat = slice b 0 1 :=
    encode_field (T := UInt8) (le_trans (by decide) h)
  have hid : BigEndian.encode 4 (header b).sensorId.toNat = slice b 1 4 :=
    encode_field (T := UInt32) (le_trans (by decide) h)
  have hts : BigEndian.encode 8 (header b).timestampMs.toNat = slice b 5 8 :=
    encode_field (T := UInt64) (le_trans (by decide) h)
  rw [headerBytes, htype, hid, hts, slice_append b 1 4 8, slice_append b 0 1 12, slice_zero]
  rfl

theorem serializeHeartbeat_heartbeat {b : ByteString} (h : headerSize ≤ b.length) :
    serializeHeartbeat (heartbeat b) = b.take headerSize := by
  rw [serializeHeartbeat_eq, heartbeat, headerBytes_header h]

theorem serializeTelemetry_telemetry {b : ByteString} (h : telemetrySize ≤ b.length) :
    serializeTelemetry (telemetry b) = b.take telemetrySize := by
  have hheader : headerSize ≤ b.length := le_trans (by decide) h
  have htype : BigEndian.encode 1 (telemetry b).type.raw.toNat = slice b 13 1 :=
    encode_field (T := UInt8) (le_trans (by decide) h)
  have hstate : BigEndian.encode 1 (telemetry b).state.raw.toNat = slice b 14 1 :=
    encode_field (T := UInt8) (le_trans (by decide) h)
  have hvalue : BigEndian.encode 8 (telemetry b).value.bits.toNat = slice b 15 8 :=
    encode_field (T := UInt64) h
  rw [serializeTelemetry_eq, payloadBytes, htype, hstate, hvalue, slice_append b 14 1 8,
    slice_append b 13 1 9]
  have hsplit := slice_append b 0 13 10
  rw [slice_zero, slice_zero] at hsplit
  exact (congrArg (· ++ slice b 13 10) (headerBytes_header hheader)).trans hsplit

theorem header_serializeTelemetry (m : TelemetryMessage Double) :
    header (serializeTelemetry m) = m.header := by
  rw [serializeTelemetry_eq, header_headerBytes]

theorem header_serializeHeartbeat (h : HeartbeatMessage) :
    header (serializeHeartbeat h) = h.header := by
  rw [serializeHeartbeat_eq]
  simpa using header_headerBytes h.header []

theorem serializeTelemetry_injective : Function.Injective serializeTelemetry :=
  Function.LeftInverse.injective telemetry_serializeTelemetry

theorem serializeHeartbeat_injective : Function.Injective serializeHeartbeat :=
  Function.LeftInverse.injective (g := heartbeat) fun h ↦ by
    rw [heartbeat, header_serializeHeartbeat]

/-- The codec is lossless in both directions: decoding undoes encoding for
every field value, and encoding a decoded buffer gives back its first bytes. -/
theorem codec_lossless :
    (∀ m : TelemetryMessage Double,
      deserializeTelemetry (serializeTelemetry m) = .ok m ∧
        peekMessageType (serializeTelemetry m) = .ok m.header.type) ∧
    (∀ h : HeartbeatMessage,
      deserializeHeartbeat (serializeHeartbeat h) = .ok h ∧
        peekMessageType (serializeHeartbeat h) = .ok h.header.type) ∧
    (∀ b : ByteString, 23 ≤ b.length →
      ∃ m, deserializeTelemetry b = .ok m ∧ serializeTelemetry m = b.take 23) ∧
    (∀ b : ByteString, 13 ≤ b.length →
      ∃ h, deserializeHeartbeat b = .ok h ∧ serializeHeartbeat h = b.take 13) ∧
    Function.Injective serializeTelemetry ∧ Function.Injective serializeHeartbeat := by
  refine ⟨fun m ↦ ⟨?_, ?_⟩, fun h ↦ ⟨?_, ?_⟩, fun b hb ↦ ?_, fun b hb ↦ ?_,
    serializeTelemetry_injective, serializeHeartbeat_injective⟩
  · rw [deserializeTelemetry_eq, length_serializeTelemetry, if_pos le_rfl,
      telemetry_serializeTelemetry]
  · rw [peekMessageType_eq, length_serializeTelemetry, if_pos (by decide),
      header_serializeTelemetry]
  · rw [deserializeHeartbeat_eq, length_serializeHeartbeat, if_pos le_rfl, heartbeat,
      header_serializeHeartbeat]
  · rw [peekMessageType_eq, length_serializeHeartbeat, if_pos le_rfl, header_serializeHeartbeat]
  · exact ⟨telemetry b, (deserializeTelemetry_eq b).trans (if_pos hb),
      serializeTelemetry_telemetry hb⟩
  · exact ⟨heartbeat b, (deserializeHeartbeat_eq b).trans (if_pos hb),
      serializeHeartbeat_heartbeat hb⟩

/-- A quiet NaN with a payload survives the trip, and so does a buffer one
byte longer than a telemetry packet. -/
theorem codec_lossless_nan :
    (let m : TelemetryMessage Double :=
      ⟨⟨MessageType.telemetry, 4294967295, 18446744073709551615⟩, SensorType.pressure,
        SensorState.error, ⟨0x7FF8000000000001⟩⟩
    deserializeTelemetry (serializeTelemetry m) = .ok m) ∧
      ∃ m, deserializeTelemetry (List.replicate 24 7) = .ok m ∧
        serializeTelemetry m = List.replicate 23 7 :=
  ⟨(codec_lossless.1 _).1, codec_lossless.2.2.1 (List.replicate 24 7) (by decide)⟩

end SmartSensorNetwork.Wire
