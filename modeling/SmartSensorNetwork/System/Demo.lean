import SmartSensorNetwork.Lib.ForkJoinStops
import SmartSensorNetwork.Monitor.Logger
import SmartSensorNetwork.Network.TcpThreads
import SmartSensorNetwork.Network.UdpReceiver

/-!
# The demo program

The threads of `main`, the flags that steer them, the mutexes they take and
their calls of the logger. A call of `log` is its critical section and its
notification, with the steps of any other thread in between. `main` waits for
its input and a client's session for its client, both for as long as it takes.
Sleeping, printing, sending a packet and the calls of non-blocking sockets
always return. A run stops short of what ends the whole program: an exception
that no thread catches, or the signal of a write to a client that has gone.
-/

namespace SmartSensorNetwork.Demo

open CppStd ForkJoin

inductive Thread where
  | udp
  | tcp
  | dashboard
  | watchdog
  | telemetry
  | heartbeat
  deriving DecidableEq

instance : Fintype Thread where
  elems := {.udp, .tcp, .dashboard, .watchdog, .telemetry, .heartbeat}
  complete thread := by cases thread <;> decide

/-- `receiverRunning` and `serverRunning` are the members `running` of the
two services. -/
inductive Flag where
  | udpReady
  | tcpReady
  | watchdogRunning
  | telemetrySimulationRunning
  | heartbeatSimulationRunning
  | sensor3Enabled
  | sensor7Enabled
  | dashboardRunning
  | receiverRunning
  | serverRunning
  deriving DecidableEq

/-- The logger's own mutex is part of its state. -/
inductive Mutex where
  | gateway
  | command
  deriving DecidableEq

/-- Calls that return, log nothing and touch neither a flag nor a mutex. -/
inductive Call where
  | tick (node : ℕ)
  | sendHeartbeat (node : ℕ)
  | print
  | sleepFor (milliseconds : ℕ)
  deriving DecidableEq

inductive Act where
  | enqueue (msg : ByteString)
  | notifyOne
  | getRecentLogs
  | lock (mutex : Mutex)
  | unlock (mutex : Mutex)
  | call (call : Call)
  deriving DecidableEq

/-- What a thread asks of its socket, its client or the registry. `scan` is
the loop of a scan; `rows`, `size` and `entry` look at a copy of the registry
that is about to be complete. -/
inductive Question where
  | recvfrom
  | scan
  | accept
  | read
  | rows
  | size (id : UInt32)
  | entry (id : UInt32)
  | write
  deriving DecidableEq

/-- The steps of `start` and `stop`, which only `main` calls. -/
inductive Control where
  | startStore
  | createThread
  | stopStore
  | notifyAll
  | join
  deriving DecidableEq

def Control.event : Control → Logger.Event
  | .startStore => .startStore
  | .createThread => .createThread
  | .stopStore => .stopStore
  | .notifyAll => .notifyAll
  | .join => .join

inductive MainAct where
  | act (a : Act)
  | get
  | control (c : Control)
  deriving DecidableEq

/-- The steps of the logger's own thread. -/
inductive LoggerStep where
  | test
  | lock
  | evaluate
  | block
  | wakeSpuriously
  | pop
  | unlock
  deriving DecidableEq

def LoggerStep.event : LoggerStep → Logger.Event
  | .test => .test
  | .lock => .lock
  | .evaluate => .evaluate
  | .block => .block
  | .wakeSpuriously => .wakeSpuriously
  | .pop => .pop
  | .unlock => .unlock

/-- `calling` is the call of `log` that a thread is in, and `holder` the
thread that holds a mutex, with `none` for `main`. -/
structure Shared where
  logger : Logger.State := {}
  calling : Option Thread → Option ℕ := fun _ ↦ none
  holder : Mutex → Option (Option Thread) := fun _ ↦ none

inductive Accepted where
  | failed (wouldBlock : Bool)
  | client

inductive Written where
  | failed
  | sent (all : Bool)

/-- What a thread finds: what `currentTimeString()` returns, whether `get` has
its input, the datagram if one is there, the sensors that a scan finds
offline, what `accept` returns, what `read` returns once it does (nothing at
the end of a session), the sensors of a copy of the registry, and what `write`
did once it returns. The registry may hold anything. -/
structure Input where
  time : ByteString := []
  entered : Bool := false
  datagram : Option ByteString := none
  offline : List UInt32 := []
  accepted : Accepted := .failed true
  request : Option ByteString := none
  registered : List UInt32 := []
  written : Option Written := none

def perform (x : Input) (thread : Option Thread) (s : Shared) : Act → Option Shared
  | .enqueue msg =>
      (Logger.step s.logger (.enqueue x.time msg)).map fun logger ↦ { s with
        logger := logger
        calling := Function.update s.calling thread (some s.logger.logged.length) }
  | .notifyOne =>
      (s.calling thread).bind fun call ↦
        (Logger.step s.logger (.notifyOne call)).map fun logger ↦ { s with
          logger := logger
          calling := Function.update s.calling thread none }
  | .getRecentLogs => if s.logger.worker.holdsMutex = false then some s else none
  | .lock mutex =>
      if s.holder mutex = none then
        some { s with holder := Function.update s.holder mutex (some thread) }
      else none
  | .unlock mutex =>
      if s.holder mutex = some thread then
        some { s with holder := Function.update s.holder mutex none }
      else none
  | .call _ => some s

def performMain (x : Input) (a : MainAct) (s : Shared) : Option Shared :=
  match a with
  | .act a => perform x none s a
  | .get => if x.entered then some s else none
  | .control c =>
      (Logger.step s.logger c.event).map fun logger ↦ { s with logger := logger }

/-! ## The program -/

def log (msg : String) : List (Statement Thread Flag MainAct) :=
  [.act (.act (.enqueue (ascii msg))), .act (.act .notifyOne)]

def call (c : Call) : Statement Thread Flag MainAct := .act (.act (.call c))

/-- Up to the start of the simulation. -/
def services : List (Statement Thread Flag MainAct) :=
  List.flatten [
    [.act (.control .startStore), .act (.control .createThread)],
    log "[SYSTEM] Logger started",
    [.spawn .udp, .spawn .tcp, .await .udpReady, .await .tcpReady],
    log "[SYSTEM] All services ready",
    [.spawn .dashboard, .spawn .watchdog]]

def simulation : List (Statement Thread Flag MainAct) :=
  List.flatten [
    log "[SYSTEM] Sensors initialized",
    log "[SYSTEM] Sending initial telemetry packets",
    [.spawn .telemetry, call (.sleepFor 100)],
    log "[GATEWAY] Updated all sensors...",
    log "[SYSTEM] Sending initial heartbeats",
    [call (.sendHeartbeat 1), call (.sendHeartbeat 2), call (.sendHeartbeat 3),
      call (.sendHeartbeat 4), call (.sendHeartbeat 5), call (.sendHeartbeat 6),
      call (.sendHeartbeat 7), .spawn .heartbeat],
    log "[SYSTEM] Waiting for watchdog detection",
    log "[WATCHDOG] Sensor 3 marked OFFLINE",
    log "[WATCHDOG] Sensor 7 marked OFFLINE",
    [call (.sleepFor (sensorHeartbeatTimeoutMs.toNat + 2000))],
    log "[SYSTEM] Watchdog check completed",
    log "[SYSTEM] Waiting for TCP client...",
    [call (.sleepFor (sensorHeartbeatTimeoutMs.toNat + 9000))],
    log "[WATCHDOG] Sensor 7 recovered",
    [.store .sensor7Enabled true, call (.sleepFor 100)],
    log "[SYSTEM] Sensor 7 recovery completed",
    [.act .get]]

/-- Up to the stop of the logger. -/
def shutdown : List (Statement Thread Flag MainAct) :=
  log "[SYSTEM] Shutting down..." ++
  [.store .dashboardRunning false, .store .telemetrySimulationRunning false,
    .store .heartbeatSimulationRunning false, .store .watchdogRunning false,
    .join .dashboard, .join .telemetry, .join .heartbeat, .join .watchdog,
    .store .receiverRunning false, .store .serverRunning false, .join .udp, .join .tcp]

def stopLogger : List (Statement Thread Flag MainAct) :=
  [.act (.control .stopStore), .act (.control .notifyAll), .act (.control .join)]

def main : List (Statement Thread Flag MainAct) :=
  services ++ simulation ++ shutdown ++ stopLogger

def logAtStart (msg : String) : List (StartUp Flag Act) :=
  [.act (.enqueue (ascii msg)), .act .notifyOne]

abbrev Step := PassStep Flag Act Question

def logInPass (msg : ByteString) : List Step := [.act (.enqueue msg), .act .notifyOne]

/-- A critical section that waits for nothing. -/
def access (mutex : Mutex) : List Step := [.act (.lock mutex), .act (.unlock mutex)]

/-- Two copies of the registry and the two counters. -/
def getStats : List Step := (List.replicate 4 (access .gateway)).flatten

/-- `UdpReceiver::run` in a thread of its own. -/
def udpThread (bound : Bool) : Worker Flag Act Question where
  startUp :=
    logAtStart "[SYSTEM] Starting UDP service" ++ [.store .udpReady true] ++
    if bound then
      [.store .receiverRunning true] ++ logAtStart "[UDP] Receiver started"
    else logAtStart "Invalid socket. Receiver not started."
  loop := if bound then some .receiverRunning else none
  pass := [.ask .recvfrom]

/-- `TcpServer::run` in a thread of its own. -/
def tcpThread (bound : Bool) : Worker Flag Act Question where
  startUp :=
    logAtStart "[SYSTEM] Starting TCP service" ++ [.store .tcpReady true] ++
    if bound then
      [.store .serverRunning true] ++ logAtStart "[TCP] Server started"
    else logAtStart "[TCP] Server not initialized"
  loop := if bound then some .serverRunning else none
  pass := [.ask .accept]

/-- `render`, and a pause. -/
def dashboardThread : Worker Flag Act Question where
  startUp := []
  loop := some .dashboardRunning
  pass :=
    [.act (.call .print), .act .getRecentLogs] ++ getStats ++ access .command ++
    [.act (.call .print), .act (.call (.sleepFor 500))]

/-- The lines of a scan are logged with the mutex held. -/
def watchdogThread : Worker Flag Act Question where
  startUp := logAtStart "[SYSTEM] Watchdog started"
  loop := some .watchdogRunning
  pass :=
    [.act (.lock .gateway), .ask .scan, .act (.unlock .gateway), .act (.call (.sleepFor 1000))]

def telemetryThread : Worker Flag Act Question where
  startUp := []
  loop := some .telemetrySimulationRunning
  pass :=
    [.act (.call (.tick 1)), .act (.call (.tick 2)), .act (.call (.tick 3)),
      .act (.call (.tick 4)), .act (.call (.tick 5)), .act (.call (.tick 6)),
      .act (.call (.tick 7)), .act (.call (.sleepFor 2000))]

def heartbeatThread : Worker Flag Act Question where
  startUp := logAtStart "[SYSTEM] Simulating communication loss for sensors 3 and 7"
  loop := some .heartbeatSimulationRunning
  pass :=
    [.act (.call (.sendHeartbeat 1)), .act (.call (.sendHeartbeat 2)),
      .actIf .sensor3Enabled (.call (.sendHeartbeat 3)), .act (.call (.sendHeartbeat 4)),
      .act (.call (.sendHeartbeat 5)), .act (.call (.sendHeartbeat 6)),
      .actIf .sensor7Enabled (.call (.sendHeartbeat 7)), .act (.call (.sleepFor 5000))]

/-! ## Answers -/

/-- `handlePacket` for what was received; a packet that it rejects ends the
program. -/
def receivePacket : Option ByteString → Option (List Step)
  | none => some []
  | some datagram =>
      let packet := datagram.take UdpReceiver.maxPacketSize
      if Gateway.Rejects packet then none
      else if Gateway.AcceptsTelemetry packet ∨ Gateway.AcceptsHeartbeat packet then
        some (access .gateway)
      else some (logInPass Gateway.unknownMessageType)

/-- A session begins with its first `read`, and the last line comes after it. -/
def connect : Accepted → List Step
  | .failed wouldBlock => [.retest, .act (.call (if wouldBlock then .sleepFor 10 else .print))]
  | .client =>
      logInPass (ascii "[TCP] Client connected") ++ [.ask .read] ++
      logInPass (ascii "[TCP] Client disconnected")

/-- `processRequest` and the first `write` of the response. -/
def handleRequest (request : ByteString) : List Step :=
  let req := TcpServer.normalize request
  access .command ++ logInPass (ascii "[TCP] Command: " ++ req) ++
  match TcpServer.Threads.command request with
  | .help => [.ask .write]
  | .list => [.act (.lock .gateway), .ask .rows]
  | .health => access .gateway ++ access .gateway ++ [.ask .write]
  | .stats => getStats ++ [.ask .write]
  | .get id => [.act (.lock .gateway), .ask (.size id)]
  | .invalid => logInPass (ascii "[TCP] Invalid sensor id") ++ [.ask .write]
  | .unknown => logInPass (ascii "[TCP] Unknown command: " ++ req) ++ [.ask .write]

def read (request : ByteString) : List Step := if request = [] then [] else handleRequest request

/-- The mutex is released, and each row asks for an age. -/
def sensorList (registered : List UInt32) : List Step :=
  [.act (.unlock .gateway)] ++ (registered.flatMap fun _ ↦ access .gateway) ++ [.ask .write]

def compareSize (registered : List UInt32) (id : UInt32) : List Step :=
  [.act (.unlock .gateway)] ++
  (if registered.length < id.toNat then
    logInPass (ascii "[TCP] Sensor " ++ CppStd.to_string id.toNat ++ ascii " not found")
  else []) ++
  [.act (.lock .gateway), .ask (.entry id)]

def sensorDetails (registered : List UInt32) (id : UInt32) : List Step :=
  [.act (.unlock .gateway)] ++ (if id ∈ registered then access .gateway else []) ++ [.ask .write]

def afterWrite : Written → List Step
  | .failed => logInPass (ascii "[TCP] Failed to send response")
  | .sent false => [.ask .write]
  | .sent true => [.ask .read]

def answer (x : Input) : Question → Option (List Step)
  | .recvfrom => receivePacket x.datagram
  | .scan => some (x.offline.flatMap fun id ↦ logInPass (Gateway.offlineMessage id))
  | .accept => some (connect x.accepted)
  | .read => x.request.map read
  | .rows => some (sensorList x.registered)
  | .size id => some (compareSize x.registered id)
  | .entry id => some (sensorDetails x.registered id)
  | .write => x.written.map afterWrite

/-- Whether the constructors of the services could bind their sockets. -/
structure Sockets where
  udp : Bool
  tcp : Bool

def program (sockets : Sockets) :
    Program Thread Flag MainAct Act Question Input Shared LoggerStep where
  main := main
  worker
    | .udp => udpThread sockets.udp
    | .tcp => tcpThread sockets.tcp
    | .dashboard => dashboardThread
    | .watchdog => watchdogThread
    | .telemetry => telemetryThread
    | .heartbeat => heartbeatThread
  actMain := performMain
  actWorker x thread a s := perform x (some thread) s a
  answer := answer
  internal e s := (Logger.step s.logger e.event).map fun logger ↦ { s with logger := logger }

def flags : Flag → Bool
  | .watchdogRunning => true
  | .telemetrySimulationRunning => true
  | .heartbeatSimulationRunning => true
  | .dashboardRunning => true
  | _ => false

abbrev State : Type := ForkJoin.State Thread Flag MainAct Act Question Shared

abbrev Event : Type := ForkJoin.Event Thread Input LoggerStep

def start (sockets : Sockets) : State := (program sockets).start {} flags

/-! ## Discipline -/

theorem ordered (sockets : Sockets) :
    ∀ k (hk : k < main.length), (program sockets).Fits (main.take k) main[k] := by
  obtain ⟨udp, tcp⟩ := sockets
  cases udp <;> cases tcp <;> decide +kernel

theorem not_cleared_of_awaited (f : Flag) : .await f ∈ main → .store f false ∉ main := by
  cases f <;> decide +kernel

theorem joined (thread : Thread) : .join thread ∈ main := by
  cases thread <;> decide +kernel

theorem store_mem_udpThread {bound : Bool} {f : Flag} {value : Bool} :
    .store f value ∈ (udpThread bound).startUp ↔
      value = true ∧ (f = .udpReady ∨ bound = true ∧ f = .receiverRunning) := by
  cases bound <;> simp [udpThread, logAtStart] <;> grind

theorem store_mem_tcpThread {bound : Bool} {f : Flag} {value : Bool} :
    .store f value ∈ (tcpThread bound).startUp ↔
      value = true ∧ (f = .tcpReady ∨ bound = true ∧ f = .serverRunning) := by
  cases bound <;> simp [tcpThread, logAtStart] <;> grind

/-- A thread sets its ready flag and the flag of its own loop. -/
theorem store_mem_startUp {sockets : Sockets} {thread : Thread} {f : Flag} {value : Bool}
    (h : .store f value ∈ ((program sockets).worker thread).startUp) :
    value = true ∧ (f = .udpReady ∨ f = .tcpReady ∨
      f ∈ ((program sockets).worker thread).loop) := by
  cases thread with
  | udp =>
      obtain ⟨hvalue, hf | ⟨hbound, hf⟩⟩ := store_mem_udpThread.mp h
      · exact ⟨hvalue, .inl hf⟩
      · exact ⟨hvalue, .inr (.inr (by simp [program, udpThread, hbound, hf]))⟩
  | tcp =>
      obtain ⟨hvalue, hf | ⟨hbound, hf⟩⟩ := store_mem_tcpThread.mp h
      · exact ⟨hvalue, .inr (.inl hf)⟩
      · exact ⟨hvalue, .inr (.inr (by simp [program, tcpThread, hbound, hf]))⟩
  | dashboard | telemetry => cases h
  | watchdog | heartbeat =>
      simp [program, watchdogThread, heartbeatThread, logAtStart] at h

theorem disciplined (sockets : Sockets) : (program sockets).Disciplined where
  ordered := ordered sockets
  sets _ _ _ h := (store_mem_startUp h).1
  awaited := not_cleared_of_awaited
  stopped thread f h hstop := by
    refine ⟨?_, joined thread⟩
    rcases (store_mem_startUp h).2 with rfl | rfl | hloop
    · exact absurd hstop (not_cleared_of_awaited _ (by decide +kernel))
    · exact absurd hstop (not_cleared_of_awaited _ (by decide +kernel))
    · exact hloop

end SmartSensorNetwork.Demo
