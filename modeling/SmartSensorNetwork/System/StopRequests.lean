import SmartSensorNetwork.Lib.StopFlag
import SmartSensorNetwork.Network.TcpServer
import SmartSensorNetwork.Network.UdpReceiver
import SmartSensorNetwork.Sensor.SensorNode

/-!
# Requests to stop

`UdpReceiver`, `TcpServer` and `SensorNode` run their loops under one and the
same flag. Each sets it inside `run`, so a stop that arrives between the
creation of the thread and that store is overwritten.
-/

namespace SmartSensorNetwork

open CppStd

/-- A pass receives one packet; an exception ends the thread. -/
def UdpReceiver.service : Service UdpReceiver (Receive × UInt64) where
  running receiver := receiver.running
  startUp receiver := receiver.startUp
  pass x receiver :=
    match receiver.receivePacket x.2 x.1 with
    | .ok receiver' => (receiver', true)
    | .error _ => (receiver, false)
  stop receiver := receiver.stop
  running_startUp receiver h := by
    by_cases hsocket : receiver.sockfd < 0
    · simp [startUp, hsocket] at h
    · simp [startUp, hsocket, log]
  running_startUp_of_not receiver h := by
    by_cases hsocket : receiver.sockfd < 0
    · simp [startUp, hsocket, log]
    · simp [startUp, hsocket] at h
  running_pass x receiver := by
    obtain ⟨received, now⟩ := x
    cases received with
    | datagram b =>
        rw [receivePacket_datagram]
        by_cases hrej : Gateway.Rejects b <;> simp [hrej]
    | failed errno =>
        obtain ⟨receiver', hreceive, hrunning, -⟩ := receivePacket_failed receiver now errno
        simp [hreceive, hrunning]
  running_stop receiver := rfl

namespace TcpServer

theorem running_log (msg : ByteString) (server : TcpServer) :
    ((log msg).run server).2.running = server.running := rfl

theorem running_processRequest (i : Instant) (request : ByteString) (server : TcpServer) :
    ((processRequest i request).run server).2.running = server.running := by
  unfold processRequest
  simp only [StateT.run_bind]
  split_ifs
  · rfl
  · rfl
  · rfl
  · rfl
  · cases parseId (normalize request) with
    | ok id =>
        simp only
        split_ifs <;> rfl
    | error e => rfl
  · rfl

theorem running_handleClient (socket : ClientSocket) (server : TcpServer) (out : Output)
    (reads : List (Instant × ByteString)) :
    (handleClient socket server out reads).1.running = server.running := by
  induction reads generalizing server out with
  | nil => rfl
  | cons r reads ih =>
      obtain ⟨i, request⟩ := r
      by_cases hrequest : request = []
      · simp [handleClient, hrequest]
      · have hrun := running_processRequest i request server
        rw [handleClient, if_neg hrequest]
        rcases hprocess : (processRequest i request).run server with ⟨response, server'⟩
        rw [hprocess] at hrun
        rcases hsend : sendResponse socket out response with ⟨out', sent⟩
        cases sent with
        | true =>
            simp only [hsend]
            exact (ih server' out').trans hrun
        | false =>
            simp only [hsend]
            exact hrun

/-- A pass accepts one client and serves its session. -/
def service : Service TcpServer Accept where
  running server := server.running
  startUp server := server.startUp
  pass accepted server := server.acceptClient accepted
  stop server := server.stop
  running_startUp server h := by
    by_cases hsocket : server.serverSocket < 0
    · simp [startUp, hsocket] at h
    · simp [startUp, hsocket, running_log]
  running_startUp_of_not server h := by
    by_cases hsocket : server.serverSocket < 0
    · simp [startUp, hsocket, running_log]
    · simp [startUp, hsocket] at h
  running_pass accepted server := by
    cases accepted with
    | failed errno =>
        simp only [acceptClient]
        split_ifs <;> rfl
    | client socket reads =>
        simp only [acceptClient, running_log, running_handleClient]
  running_stop server := rfl

end TcpServer

namespace SensorNode

theorem running_iterate (node : SensorNode) (timers : Timers) (pass : Pass) :
    (node.iterate timers pass).1.running = node.running := by
  unfold iterate
  by_cases htelemetry :
      Due node.telemetryInterval timers.lastTelemetry pass.nowTime
  · simp only [htelemetry, if_true]
    split_ifs <;> rfl
  · simp only [htelemetry, if_false]
    split_ifs <;> rfl

/-- A pass sends what is due. The local variables of `run` belong to the
state, with the steady clock read before the loop. -/
def service : Service (SensorNode × Timers) Pass where
  running s := s.1.running
  startUp s := ((s.1.startUp, s.2), true)
  pass x s := (((s.1.iterate s.2 x).1, (s.1.iterate s.2 x).2.1), true)
  stop s := (s.1.stop, s.2)
  running_startUp s h := rfl
  running_startUp_of_not s h := by cases h
  running_pass x s := running_iterate s.1 s.2 x
  running_stop s := rfl

end SensorNode

namespace StopRequests

/-- For each of the three classes, the stops of a run are kept exactly when
no stop comes before the start-up of the loop. -/
theorem stop_kept_iff (receiver : UdpReceiver) (server : TcpServer)
    (node : SensorNode × SensorNode.Timers) (receives : List (Service.Event (Receive × UInt64)))
    (accepts : List (Service.Event TcpServer.Accept))
    (passes : List (Service.Event SensorNode.Pass)) :
    (Runs.Along UdpReceiver.service.step UdpReceiver.service.StopKept
        (Service.init receiver) receives ↔
      Runs.Along UdpReceiver.service.step UdpReceiver.service.NotLate
        (Service.init receiver) receives) ∧
    (Runs.Along TcpServer.service.step TcpServer.service.StopKept
        (Service.init server) accepts ↔
      Runs.Along TcpServer.service.step TcpServer.service.NotLate
        (Service.init server) accepts) ∧
    (Runs.Along SensorNode.service.step SensorNode.service.StopKept
        (Service.init node) passes ↔
      Runs.Along SensorNode.service.step SensorNode.service.NotLate
        (Service.init node) passes) := by
  refine ⟨?_, ?_, ?_⟩
  · apply Service.stopKept_along_iff
  · apply Service.stopKept_along_iff
  · apply Service.stopKept_along_iff

/-- A stop before the start-up is lost by each of the three. -/
theorem early_stop_lost :
    ¬ Runs.Along UdpReceiver.service.step UdpReceiver.service.StopKept
        (Service.init { sockfd := 3 }) [.stop, .startUp, .test] ∧
    ¬ Runs.Along TcpServer.service.step TcpServer.service.StopKept
        (Service.init { serverSocket := 3 }) [.stop, .startUp, .test] ∧
    ¬ Runs.Along SensorNode.service.step SensorNode.service.StopKept
        (Service.init ({ sensor := .motion (MotionSensor.new 1) }, ⟨0, 0⟩))
        [.stop, .startUp, .test] := by
  refine ⟨fun h ↦ ?_, fun h ↦ ?_, fun h ↦ ?_⟩
  · have hflag := ((h.2 _ rfl).1 _ rfl rfl).1
    cases hflag
  · have hflag := ((h.2 _ rfl).1 _ rfl rfl).1
    cases hflag
  · have hflag := ((h.2 _ rfl).1 _ rfl rfl).1
    cases hflag

end StopRequests

end SmartSensorNetwork
