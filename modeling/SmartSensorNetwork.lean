import SmartSensorNetwork.Gateway.Alarms
import SmartSensorNetwork.Gateway.ClockSteps
import SmartSensorNetwork.Gateway.Linearizability
import SmartSensorNetwork.Gateway.Locality
import SmartSensorNetwork.Gateway.Reordering
import SmartSensorNetwork.Gateway.Watchdog
import SmartSensorNetwork.Lib.Beats
import SmartSensorNetwork.Lib.Clients
import SmartSensorNetwork.Lib.FixedWidth
import SmartSensorNetwork.Lib.ForkJoin
import SmartSensorNetwork.Lib.ForkJoinStops
import SmartSensorNetwork.Lib.Mutexes
import SmartSensorNetwork.Lib.PeriodicTimer
import SmartSensorNetwork.Lib.SlidingWindow
import SmartSensorNetwork.Lib.Throwing
import SmartSensorNetwork.Monitor.Columns
import SmartSensorNetwork.Monitor.Distribution
import SmartSensorNetwork.Monitor.LoggerHistory
import SmartSensorNetwork.Monitor.LoggerShutdown
import SmartSensorNetwork.Monitor.LoggerWait
import SmartSensorNetwork.Monitor.OfflineRows
import SmartSensorNetwork.Monitor.Reports
import SmartSensorNetwork.Monitor.Rows
import SmartSensorNetwork.Monitor.Snapshots
import SmartSensorNetwork.Network.Decoders
import SmartSensorNetwork.Network.Layout
import SmartSensorNetwork.Network.TcpExceptions
import SmartSensorNetwork.Network.TcpGet
import SmartSensorNetwork.Network.TcpNotFound
import SmartSensorNetwork.Network.TcpSensorIds
import SmartSensorNetwork.Network.TcpThreads
import SmartSensorNetwork.Network.TcpWrites
import SmartSensorNetwork.Sensor.BatteryLife
import SmartSensorNetwork.Sensor.PressureBands
import SmartSensorNetwork.Sensor.Schedule
import SmartSensorNetwork.System.Demo
import SmartSensorNetwork.System.DemoCalls
import SmartSensorNetwork.System.DemoRuns
import SmartSensorNetwork.System.DemoShutdown
import SmartSensorNetwork.System.FailureDetection
import SmartSensorNetwork.System.Measurements
import SmartSensorNetwork.System.MonotonicReads
import SmartSensorNetwork.System.NestedMutexes
import SmartSensorNetwork.System.Provenance
import SmartSensorNetwork.System.StopRequests
import SmartSensorNetwork.Ui.ConsoleRenderer
import SmartSensorNetwork.Ui.TableShape
