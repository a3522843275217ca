import SmartSensorNetwork.Lib.Binary64

/-!
# Protocol types

The enumerations and message records shared by the sensor nodes and the
Gateway. The three wire enumerations have the fixed underlying type
`uint8_t`, so a value of one of them may be any byte: `static_cast` from a
byte read off the network does not check that it names an enumerator.
-/

namespace SmartSensorNetwork

open CppStd

def sensorHeartbeatTimeoutMs : UInt64 := 10000

structure SensorType where
  raw : UInt8
  deriving DecidableEq, Repr

namespace SensorType

def motion : SensorType := ⟨1⟩
def temperature : SensorType := ⟨2⟩
def battery : SensorType := ⟨3⟩
def pressure : SensorType := ⟨4⟩

end SensorType

structure SensorState where
  raw : UInt8
  deriving DecidableEq, Repr

namespace SensorState

def active : SensorState := ⟨1⟩
def warning : SensorState := ⟨2⟩
def error : SensorState := ⟨3⟩

end SensorState

structure MessageType where
  raw : UInt8
  deriving DecidableEq, Repr

namespace MessageType

def telemetry : MessageType := ⟨1⟩
def heartbeat : MessageType := ⟨2⟩

end MessageType

/-- The communication health of a sensor. It never travels on the wire. -/
inductive SensorHealth where
  | unknown
  | online
  | offline
  deriving DecidableEq, Repr

/-- A C++ `double`, known here by its 64-bit pattern. -/
structure Double where
  bits : UInt64
  deriving DecidableEq, Repr

instance : LT Double := ⟨fun x y ↦ Binary64.lt x.bits y.bits⟩
instance : LE Double := ⟨fun x y ↦ Binary64.le x.bits y.bits⟩
instance : DecidableLT Double := fun _ _ ↦ inferInstanceAs (Decidable (_ = true))
instance : DecidableLE Double := fun _ _ ↦ inferInstanceAs (Decidable (_ = true))
instance : Sub Double := ⟨fun x y ↦ ⟨Binary64.sub x.bits y.bits⟩⟩
instance : OfScientific Double := ⟨fun m negative e ↦ ⟨Binary64.ofScientific m negative e⟩⟩

structure PacketHeader where
  type : MessageType
  sensorId : UInt32
  timestampMs : UInt64
  deriving DecidableEq, Repr

structure HeartbeatMessage where
  header : PacketHeader
  deriving DecidableEq, Repr

/-- The value type is a parameter: `Double` on the wire, an ordered type in
the sensor classes. -/
structure TelemetryMessage (α : Type) where
  header : PacketHeader
  type : SensorType
  state : SensorState
  value : α
  deriving DecidableEq, Repr

/-- `TelemetryMessage{}`: value initialisation zeroes every field. -/
def TelemetryMessage.zero : TelemetryMessage Double where
  header := ⟨⟨0⟩, 0, 0⟩
  type := ⟨0⟩
  state := ⟨0⟩
  value := ⟨0⟩

structure HealthCounts where
  online : ℕ := 0
  offline : ℕ := 0
  unknown : ℕ := 0
  deriving DecidableEq, Repr

structure SystemStats where
  totalSensors : ℕ := 0
  telemetryPackets : UInt64 := 0
  heartbeatPackets : UInt64 := 0
  health : HealthCounts := {}
  deriving DecidableEq, Repr

end SmartSensorNetwork
