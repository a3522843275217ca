import SmartSensorNetwork.Network.PacketSerializer
import SmartSensorNetwork.Sensor.Sensor

/-!
# Sensor nodes

A node collects a sample, builds a telemetry message and hands its bytes to
the sender; heartbeats carry a header alone. The run loop is timed by the
steady clock, in 64-bit nanoseconds.
-/

namespace SmartSensorNetwork

open CppStd

/-- The two intervals are in milliseconds. -/
structure SensorNode where
  sensor : AnySensor Double
  telemetryInterval : ℤ := 500
  heartbeatInterval : ℤ := 5000
  running : Bool := false

namespace SensorNode

/-- The message returned, the packet handed to the sender, the node after. -/
def tick (node : SensorNode) (sample : Double) (now : UInt64) :
    TelemetryMessage Double × ByteString × SensorNode :=
  let (_, sensor) := node.sensor.collectData sample
  let (reading, sensor) := sensor.createTelemetry now
  (reading, PacketSerializer.serializeTelemetry reading, { node with sensor := sensor })

theorem tick_eq (node : SensorNode) (sample : Double) (now : UInt64) :
    node.tick sample now =
      (((node.sensor.collectData sample).2.createTelemetry now).1,
        PacketSerializer.serializeTelemetry
          ((node.sensor.collectData sample).2.createTelemetry now).1,
        { node with sensor := ((node.sensor.collectData sample).2.createTelemetry now).2 }) :=
  rfl

def sendHeartbeat (node : SensorNode) (now : UInt64) : ByteString :=
  PacketSerializer.serializeHeartbeat
    { header := { type := .heartbeat, sensorId := node.sensor.getId, timestampMs := now } }

/-! ## The run loop -/

/-- The local variables of `run`. -/
structure Timers where
  lastTelemetry : ℤ
  lastHeartbeat : ℤ

/-- What one pass of the loop reads: the steady clock, the sample and the two
readings of `now()`. -/
structure Pass where
  nowTime : ℤ
  sample : Double
  telemetryNow : UInt64
  heartbeatNow : UInt64

/-- `nowTime - last >= interval`. The interval is converted to nanoseconds; an
overflow of the 64 bits wraps. -/
def Due (interval last nowTime : ℤ) : Prop :=
  int64 (interval * 1000000) ≤ int64 (nowTime - last)

instance (interval : ℤ) : DecidableRel (Due interval) :=
  fun last nowTime ↦
    inferInstanceAs (Decidable (int64 (interval * 1000000) ≤ int64 (nowTime - last)))

/-- One pass of the loop, with the packets it sends in order. -/
def iterate (node : SensorNode) (timers : Timers) (pass : Pass) :
    SensorNode × Timers × List ByteString :=
  let (node, timers, telemetry) :=
    if Due node.telemetryInterval timers.lastTelemetry pass.nowTime then
      let (_, data, node) := node.tick pass.sample pass.telemetryNow
      (node, { timers with lastTelemetry := pass.nowTime }, [data])
    else (node, timers, [])
  if Due node.heartbeatInterval timers.lastHeartbeat pass.nowTime then
    (node, { timers with lastHeartbeat := pass.nowTime },
      telemetry ++ [node.sendHeartbeat pass.heartbeatNow])
  else (node, timers, telemetry)

def startUp (node : SensorNode) : SensorNode := { node with running := true }

def stop (node : SensorNode) : SensorNode := { node with running := false }

end SensorNode

end SmartSensorNetwork
