import SmartSensorNetwork.Common.SensorTypesString
import SmartSensorNetwork.Gateway.Gateway
import SmartSensorNetwork.Lib.AtomicReads
import SmartSensorNetwork.Lib.Binary64

/-!
# The monitor

A report calls the Gateway several times, and each call is a critical section
of its own. A report is therefore a program of atomic reads; evaluated at one
instant it is the report without concurrent change.
-/

namespace SmartSensorNetwork

open CppStd

/-- The Gateway together with the reading that `now()` gives. -/
structure Instant where
  gateway : Gateway
  clock : UInt64
  deriving DecidableEq

def Instant.next (i : Instant) (call : Gateway.Call × UInt64) : Instant where
  gateway := i.gateway.perform call.2 call.1
  clock := call.2

namespace Monitor

def getSensors : Reads Instant Registry := .get fun i ↦ i.gateway.getSensors

def getSecondsSinceLastHeartbeat (id : UInt32) : Reads Instant UInt64 :=
  .get fun i ↦ i.gateway.getSecondsSinceLastHeartbeat i.clock id

def getTelemetryPacketsReceived : Reads Instant UInt64 :=
  .get fun i ↦ i.gateway.getTelemetryPacketsReceived

def getHeartbeatPacketsReceived : Reads Instant UInt64 :=
  .get fun i ↦ i.gateway.getHeartbeatPacketsReceived

def sensorRow (id : UInt32) (info : SensorInfo) (seconds : UInt64) : ByteString :=
  setw 6 (CppStd.to_string id.toNat) ++
    setw 15 info.lastTelemetry.type.to_string ++
    setw 12 info.lastTelemetry.state.to_string ++
    setw 12 info.health.to_string ++
    CppStd.to_string seconds.toNat ++ ascii " sec\n"

def listText (rows : List ByteString) : ByteString :=
  ascii "\n=== SENSOR LIST ===\n\n" ++
    setw 6 (ascii "ID") ++ setw 15 (ascii "TYPE") ++ setw 12 (ascii "STATE") ++
    setw 12 (ascii "HEALTH") ++ ascii "LAST HB\n" ++
    ascii "-----------------------------------------------------\n" ++
    rows.flatten ++ ascii "\n\n\n"

def sensorList : Reads Instant ByteString := do
  let sensors ← getSensors
  let ids := sensors.keys.mergeSort
  let rows ← ids.attach.mapM fun (id : {id // id ∈ ids}) ↦ do
    let info := sensors.valueAt id.1 (AList.mem_keys.mpr (List.mem_mergeSort.mp id.2))
    let seconds ← getSecondsSinceLastHeartbeat id.1
    return sensorRow id.1 info seconds
  return listText rows

/-- The id printed is the one asked for, not the one in the message. -/
def headerText (id : UInt32) (header : PacketHeader) : ByteString :=
  ascii "Packet Header\n" ++
    ascii "--------------\n" ++
    ascii "messageType : " ++ header.type.to_string ++ ascii "\n" ++
    ascii "sensorId    : " ++ CppStd.to_string id.toNat ++ ascii "\n" ++
    ascii "timestamp   : " ++ CppStd.to_string header.timestampMs.toNat ++ ascii "\n\n"

def payloadText (r : TelemetryMessage Double) : ByteString :=
  ascii "Telemetry Payload\n" ++
    ascii "-----------------\n" ++
    ascii "sensorType  : " ++ r.type.to_string ++ ascii "\n" ++
    ascii "state       : " ++ r.state.to_string ++ ascii "\n" ++
    ascii "value       : " ++ Binary64.print r.value.bits ++ ascii "\n\n"

def heartbeatText (health : SensorHealth) (seconds : UInt64) : ByteString :=
  ascii "Heartbeat Status\n" ++
    ascii "----------------\n" ++
    ascii "health         : " ++ health.to_string ++ ascii "\n" ++
    ascii "last heartbeat : " ++ CppStd.to_string seconds.toNat ++ ascii " sec ago\n\n\n"

def detailsText (id : UInt32) (info : SensorInfo) (seconds : UInt64) : ByteString :=
  ascii "\n=== SENSOR INFORMATION ===\n\n" ++
    headerText id info.lastTelemetry.header ++
    payloadText info.lastTelemetry ++
    heartbeatText info.health seconds

def sensorNotFound : ByteString := ascii "sensor not found\n\n"

def sensorDetails (id : UInt32) : Reads Instant ByteString := do
  let sensors ← getSensors
  match sensors.lookup id with
  | none => return sensorNotFound
  | some info =>
      let seconds ← getSecondsSinceLastHeartbeat id
      return detailsText id info seconds

def help : ByteString :=
  ascii "\nAvailable commands:\n" ++
    ascii "-------------------\n" ++
    ascii "list              - Show all sensors\n" ++
    ascii "get <id>          - Show sensor details\n" ++
    ascii "health            - Show sensor health status\n" ++
    ascii "stats             - Show system statistics\n" ++
    ascii "help              - Show available commands\n\n\n"

def countHealthSensors : Reads Instant HealthCounts := do
  let sensors ← getSensors
  return {
    online := sensors.countValues fun _ info ↦ info.health = .online
    offline := sensors.countValues fun _ info ↦ info.health = .offline
    unknown := sensors.countValues fun _ info ↦ info.health = .unknown }

def offlineRow (id : UInt32) (info : SensorInfo) : ByteString :=
  ascii "- Sensor " ++ CppStd.to_string id.toNat ++ ascii " (" ++
    info.lastTelemetry.type.to_string ++ ascii ")\n"

def offlineRows (sensors : Registry) : List ByteString :=
  (sensors.entries.filter fun e ↦ e.2.health = .offline).map fun e ↦ offlineRow e.1 e.2

def healthText (healthCount : HealthCounts) (sensors : Registry) : ByteString :=
  ascii "\n=== HEALTH SUMMARY ===\n\n" ++
    ascii "ONLINE  : " ++ CppStd.to_string healthCount.online ++ ascii "\n" ++
    ascii "OFFLINE : " ++ CppStd.to_string healthCount.offline ++ ascii "\n" ++
    ascii "UNKNOWN : " ++ CppStd.to_string healthCount.unknown ++ ascii "\n\n" ++
    ascii "Offline sensors:\n" ++
    (offlineRows sensors).flatten ++ ascii "\n\n\n"

/-- The counts come from a second copy of the registry. -/
def healthSummary : Reads Instant ByteString := do
  let sensors ← getSensors
  let healthCount ← countHealthSensors
  return healthText healthCount sensors

/-- `health.unknown` keeps its default, 0. -/
def getStats : Reads Instant SystemStats := do
  let sensors ← getSensors
  let healthCount ← countHealthSensors
  let telemetryPackets ← getTelemetryPacketsReceived
  let heartbeatPackets ← getHeartbeatPacketsReceived
  return {
    totalSensors := sensors.size
    telemetryPackets := telemetryPackets
    heartbeatPackets := heartbeatPackets
    health := { online := healthCount.online, offline := healthCount.offline } }

def statsText (stats : SystemStats) : ByteString :=
  ascii "\n=== SYSTEM STATISTICS ===\n\n" ++
    ascii "Total sensors      : " ++ CppStd.to_string stats.totalSensors ++ ascii "\n" ++
    ascii "Telemetry packets  : " ++ CppStd.to_string stats.telemetryPackets.toNat ++ ascii "\n" ++
    ascii "Heartbeat messages : " ++ CppStd.to_string stats.heartbeatPackets.toNat ++ ascii "\n" ++
    ascii "Online sensors     : " ++ CppStd.to_string stats.health.online ++ ascii "\n" ++
    ascii "Offline sensors    : " ++ CppStd.to_string stats.health.offline ++ ascii "\n\n\n"

def stats : Reads Instant ByteString := do
  let stats ← getStats
  return statsText stats

end Monitor

end SmartSensorNetwork
