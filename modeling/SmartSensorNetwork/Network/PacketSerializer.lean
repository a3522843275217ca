import SmartSensorNetwork.Common.ProtocolTypes

/-!
# The packet serializer

`write` and `read` are the two byte loops of the anonymous namespace of the
source, generic in the width of the integer. A reader threads the running
offset through its field reads and stops at the first exception.
-/

namespace SmartSensorNetwork.PacketSerializer

open CppStd

def bitsPerByte : ℕ := 8
def byteMask : ℕ := 0xFF

/-- The bytes of a value that the loop of `write` has still to push, `i`
being its counter. -/
def writeLoop {T : Type} [UnsignedInt T] (buffer : ByteString) (value : T) : ℕ → ByteString
  | 0 => buffer
  | i + 1 =>
      let byte := UInt8.ofNat (UnsignedInt.toNat value >>> (i * bitsPerByte) &&& byteMask)
      writeLoop (buffer ++ [byte]) value i

def write {T : Type} [UnsignedInt T] (buffer : ByteString) (value : T) : ByteString :=
  writeLoop buffer value (UnsignedInt.sizeof T)

/-- A computation that moves the running offset and may throw. -/
abbrev Reader := StateT ℕ (Except Exception)

def bufferUnderflow : Exception :=
  .runtimeError "Buffer underflow during deserialization"

def nextByte (buffer : ByteString) : Reader UInt8 := fun offset ↦
  match buffer[offset]? with
  | some b => .ok (b, offset + 1)
  | none => .error (.undefinedBehaviour "vector index out of range")

def readLoop {T : Type} [UnsignedInt T] (buffer : ByteString) (value : T) : ℕ → Reader T
  | 0 => pure value
  | n + 1 => do
      let b ← nextByte buffer
      readLoop buffer (UnsignedInt.ofNat (UnsignedInt.toNat value <<< 8 ||| b.toNat)) n

def read (T : Type) [UnsignedInt T] (buffer : ByteString) : Reader T := do
  let offset ← get
  if offset + UnsignedInt.sizeof T > buffer.length then
    throw bufferUnderflow
  readLoop buffer (UnsignedInt.ofNat 0) (UnsignedInt.sizeof T)

/-- `memcpy` of a `double` into a `uint64_t`, then `write`. -/
def writeDouble (buffer : ByteString) (value : Double) : ByteString :=
  write buffer value.bits

def readDouble (buffer : ByteString) : Reader Double := do
  let bits ← read UInt64 buffer
  return ⟨bits⟩

def readHeader (buffer : ByteString) : Reader PacketHeader := do
  let type ← read UInt8 buffer
  let sensorId ← read UInt32 buffer
  let timestampMs ← read UInt64 buffer
  return ⟨⟨type⟩, sensorId, timestampMs⟩

def writeHeader (buffer : ByteString) (header : PacketHeader) : ByteString :=
  let buffer := write buffer header.type.raw
  let buffer := write buffer header.sensorId
  write buffer header.timestampMs

def serializeTelemetry (message : TelemetryMessage Double) : ByteString :=
  let buffer := writeHeader [] message.header
  let buffer := write buffer message.type.raw
  let buffer := write buffer message.state.raw
  writeDouble buffer message.value

def serializeHeartbeat (message : HeartbeatMessage) : ByteString :=
  writeHeader [] message.header

def readTelemetry (buffer : ByteString) : Reader (TelemetryMessage Double) := do
  let header ← readHeader buffer
  let type ← read UInt8 buffer
  let state ← read UInt8 buffer
  let value ← readDouble buffer
  return ⟨header, ⟨type⟩, ⟨state⟩, value⟩

def deserializeTelemetry (buffer : ByteString) : Except Exception (TelemetryMessage Double) :=
  (readTelemetry buffer).run' 0

def deserializeHeartbeat (buffer : ByteString) : Except Exception HeartbeatMessage := do
  let header ← (readHeader buffer).run' 0
  return ⟨header⟩

def peekMessageType (buffer : ByteString) : Except Exception MessageType := do
  let header ← (readHeader buffer).run' 0
  return header.type

end SmartSensorNetwork.PacketSerializer
