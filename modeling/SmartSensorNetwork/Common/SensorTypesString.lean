import SmartSensorNetwork.Common.ProtocolTypes

/-!
# Names of the enumerators

The `to_string` overloads of the source. Each falls through to a default for
the bytes that name no enumerator.
-/

namespace SmartSensorNetwork

open CppStd

def SensorType.to_string (type : SensorType) : ByteString :=
  if type = motion then ascii "Motion"
  else if type = temperature then ascii "Temperature"
  else if type = battery then ascii "Battery"
  else if type = pressure then ascii "Pressure"
  else ascii "Unknown"

def SensorState.to_string (state : SensorState) : ByteString :=
  if state = active then ascii "ACTIVE"
  else if state = warning then ascii "WARNING"
  else if state = error then ascii "ERROR"
  else ascii "UNKNOWN"

def MessageType.to_string (type : MessageType) : ByteString :=
  if type = telemetry then ascii "TELEMETRY" else ascii "HEARTBEAT"

def SensorHealth.to_string : SensorHealth → ByteString
  | .online => ascii "ONLINE"
  | .offline => ascii "OFFLINE"
  | .unknown => ascii "UNKNOWN"

end SmartSensorNetwork
