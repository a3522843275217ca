import SmartSensorNetwork.Common.ProtocolTypes
import SmartSensorNetwork.Lib.AListValues
import SmartSensorNetwork.Network.PacketSerializer

/-!
# The Gateway

A public member function touches the state in one critical section under
the Gateway's mutex, so it is one function on the state here. The reading of
`now()` that a function takes is a parameter. `logger` lists the messages
handed to the shared logger, oldest first.
-/

namespace SmartSensorNetwork

open CppStd

structure SensorInfo where
  lastTelemetry : TelemetryMessage Double := .zero
  lastTelemetryReceivedTime : UInt64 := 0
  lastHeartbeatReceivedTime : UInt64 := 0
  health : SensorHealth := .unknown
  deriving DecidableEq, Repr

/-- `std::unordered_map<uint32_t, SensorInfo>`. -/
abbrev Registry := AList fun _ : UInt32 ↦ SensorInfo

structure Gateway where
  sensors : Registry := ∅
  telemetryPacketsReceived : UInt64 := 0
  heartbeatPacketsReceived : UInt64 := 0
  logger : List ByteString := []
  deriving DecidableEq

namespace Gateway

def log (gateway : Gateway) (msg : ByteString) : Gateway :=
  { gateway with logger := gateway.logger ++ [msg] }

def updateSensorInfo (gateway : Gateway) (now : UInt64) (message : TelemetryMessage Double) :
    Gateway :=
  { gateway with
    sensors := gateway.sensors.modifyD message.header.sensorId {} fun info ↦
      { info with lastTelemetry := message, lastTelemetryReceivedTime := now }
    telemetryPacketsReceived := gateway.telemetryPacketsReceived + 1 }

def handleHeartbeat (gateway : Gateway) (now : UInt64) (message : HeartbeatMessage) : Gateway :=
  { gateway with
    sensors := gateway.sensors.modifyD message.header.sensorId {} fun info ↦
      { info with lastHeartbeatReceivedTime := now, health := .online }
    heartbeatPacketsReceived := gateway.heartbeatPacketsReceived + 1 }

def unknownMessageType : ByteString := ascii "[GATEWAY] Unknown message type"

/-- The packet is parsed twice, for its type and for its contents; either
parse may throw. -/
def handlePacket (gateway : Gateway) (now : UInt64) (packet : ByteString) :
    Except Exception Gateway := do
  let type ← PacketSerializer.peekMessageType packet
  if type = .telemetry then
    let msg ← PacketSerializer.deserializeTelemetry packet
    return gateway.updateSensorInfo now msg
  else if type = .heartbeat then
    let hb ← PacketSerializer.deserializeHeartbeat packet
    return gateway.handleHeartbeat now hb
  else
    return gateway.log unknownMessageType

def getSensors (gateway : Gateway) : Registry := gateway.sensors

/-- The test of one entry in `detectOfflineSensors`: whether the pass marks
the sensor. The subtraction is on `uint64_t`. -/
def goesOffline (currentTime : UInt64) (info : SensorInfo) : Bool :=
  if info.health = .unknown ∨ info.lastHeartbeatReceivedTime = 0 then false
  else if currentTime - info.lastHeartbeatReceivedTime > sensorHeartbeatTimeoutMs then
    decide (info.health ≠ .offline)
  else false

def checkSensor (currentTime : UInt64) (info : SensorInfo) : SensorInfo :=
  if goesOffline currentTime info then { info with health := .offline } else info

def offlineMessage (id : UInt32) : ByteString :=
  ascii "[GATEWAY] Sensor " ++ CppStd.to_string id.toNat ++ ascii " is offline"

theorem offlineMessage_ne_unknownMessageType (id : UInt32) :
    offlineMessage id ≠ unknownMessageType := by
  intro h
  have hletter : some (83 : UInt8) = some 85 := congrArg (·[10]?) h
  simp at hletter

/-- The part of `detectOfflineSensors` that runs under the mutex;
`currentTime` was read before the mutex was taken. -/
def detectOfflineSensors (gateway : Gateway) (currentTime : UInt64) : Gateway :=
  { gateway with
    sensors := gateway.sensors.mapValues fun _ info ↦ checkSensor currentTime info
    logger := gateway.logger ++
      (gateway.sensors.entries.filter fun e ↦ goesOffline currentTime e.2).map
        fun e ↦ offlineMessage e.1 }

def getSecondsSinceLastHeartbeat (gateway : Gateway) (now : UInt64) (sensorId : UInt32) :
    UInt64 :=
  match gateway.sensors.lookup sensorId with
  | none => 0
  | some info =>
      if info.lastHeartbeatReceivedTime = 0 then 0
      else (now - info.lastHeartbeatReceivedTime) / 1000

def getTelemetryPacketsReceived (gateway : Gateway) : UInt64 :=
  gateway.telemetryPacketsReceived

def getHeartbeatPacketsReceived (gateway : Gateway) : UInt64 :=
  gateway.heartbeatPacketsReceived

/-! ## Calls -/

inductive Call where
  | handlePacket (packet : ByteString)
  | detectOfflineSensors
  | getSecondsSinceLastHeartbeat (sensorId : UInt32)
  deriving DecidableEq

/-- The effect of a call on the state. A caller that sees `handlePacket`
throw goes on with the state it had. -/
def perform (gateway : Gateway) (now : UInt64) : Call → Gateway
  | .handlePacket packet =>
      match gateway.handlePacket now packet with
      | .ok gateway' => gateway'
      | .error _ => gateway
  | .detectOfflineSensors => gateway.detectOfflineSensors now
  | .getSecondsSinceLastHeartbeat _ => gateway

def run (gateway : Gateway) (calls : List (Call × UInt64)) : Gateway :=
  calls.foldl (fun gateway call ↦ gateway.perform call.2 call.1) gateway

@[simp] theorem run_nil (gateway : Gateway) : gateway.run [] = gateway := rfl

@[simp] theorem run_cons (gateway : Gateway) (call : Call × UInt64)
    (calls : List (Call × UInt64)) :
    gateway.run (call :: calls) = (gateway.perform call.2 call.1).run calls := rfl

theorem run_concat (gateway : Gateway) (calls : List (Call × UInt64)) (call : Call × UInt64) :
    gateway.run (calls ++ [call]) = (gateway.run calls).perform call.2 call.1 := by
  simp [run]

end Gateway

end SmartSensorNetwork
