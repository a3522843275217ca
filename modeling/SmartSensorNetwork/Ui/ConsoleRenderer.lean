import SmartSensorNetwork.Lib.FixedWidth
import SmartSensorNetwork.Monitor.Logger
import SmartSensorNetwork.Network.TcpServer

/-!
# The dashboard

`renderLogs` prints the log history beside a panel about the TCP server. The
statistics are what `monitor.getStats()` returned.
-/

namespace SmartSensorNetwork

open CppStd

namespace ConsoleRenderer

def systemWidth : ℕ := 75

def tcpWidth : ℕ := 24

/-- `static_cast<int>` with a 32-bit `int`. -/
def toInt (size : ℕ) : ℤ := Int.bmod size (2 ^ 32)

/-- `none` stands for the `std::length_error` of the string constructor. -/
def fitText (text : ByteString) (width : ℕ) : Option ByteString :=
  if toInt text.length ≤ width then
    -- beyond the width the difference wraps around to more than a string can hold
    if text.length ≤ width then some (text ++ List.replicate (width - text.length) 32) else none
  else some (text.take (width - 3) ++ ascii "...")

def tcpPanel (tcpServer : TcpServer) (stats : SystemStats) : List ByteString :=
  [ascii "Client: " ++
      (if tcpServer.isClientConnected then ascii "CONNECTED" else ascii "DISCONNECTED"),
    ascii "Port: 8080",
    ascii "Last command: " ++ tcpServer.getLastCommand,
    ascii "",
    ascii "=== STATISTICS ===",
    ascii "",
    ascii "Total sensors : " ++ CppStd.to_string stats.totalSensors,
    ascii "Telemetry     : " ++ CppStd.to_string stats.telemetryPackets.toNat,
    ascii "Heartbeat     : " ++ CppStd.to_string stats.heartbeatPackets.toNat,
    ascii "Online        : " ++ CppStd.to_string stats.health.online,
    ascii "Offline       : " ++ CppStd.to_string stats.health.offline]

def rule : ByteString := ascii
  "+-----------------------------------------------------------------------------+--------------------------+"

def titles : List ByteString :=
  [rule,
    ascii
      "| SYSTEM LOG                                                                  | TCP MONITOR              |",
    ascii
      "|-----------------------------------------------------------------------------|--------------------------|"]

/-- What the loop prints of one line of each side. -/
def printRow (logLine tcpLine : ByteString) : Option ByteString := do
  let left ← fitText logLine systemWidth
  let right ← fitText tcpLine tcpWidth
  return ascii "| " ++ left ++ ascii " | " ++ right ++ ascii " |\n"

/-- `none` if the table is left incomplete because `fitText` throws. -/
def renderLogs (logger : Logger) (tcpServer : TcpServer) (stats : SystemStats) :
    Option ByteString := do
  let logs := logger.getRecentLogs
  let tcpPanel := tcpPanel tcpServer stats
  let maxLines := max logs.length tcpPanel.length
  let rows ← (List.range maxLines).mapM fun i ↦
    printRow (logs.getD i []) (tcpPanel.getD i [])
  return unlines titles ++ rows.flatten ++ unlines [rule]

end ConsoleRenderer

end SmartSensorNetwork
