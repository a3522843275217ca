import Mathlib.Data.List.DropRight
import SmartSensorNetwork.Monitor.Monitor

/-!
# The TCP server

A client session reads chunks of bytes, takes each chunk for one request and
writes the answer back. The Gateway is shared, so a request finds it at some
instant. `logger` and `stderr` list what the server itself writes there.
-/

namespace SmartSensorNetwork

open CppStd

structure TcpServer where
  serverSocket : ℤ := -1
  running : Bool := false
  clientConnected : Bool := false
  lastCommand : ByteString := []
  logger : List ByteString := []
  stderr : List ByteString := []
  deriving DecidableEq

namespace TcpServer

def maxPacketSize : ℕ := 1024

def log (msg : ByteString) : StateM TcpServer Unit :=
  modify fun server ↦ { server with logger := server.logger ++ [msg] }

def isLineEnd (b : UInt8) : Bool := b = 10 || b = 13

/-- `while (!req.empty() && ...) req.pop_back();` -/
def normalize (request : ByteString) : ByteString := request.rdropWhile isLineEnd

def parseId (request : ByteString) : Except Exception UInt32 := do
  let prefixLength := 4
  let argument ← substr request prefixLength
  let id ← stoi argument
  if id ≤ 0 then throw (.invalidArgument "Invalid sensor id")
  return UInt32.ofNat id.toNat

def invalidSensorId : ByteString := ascii "invalid sensor id\n\n"

def unknownCommand : ByteString := ascii "unknown command\n\n"

def processRequest (i : Instant) (request : ByteString) : StateM TcpServer ByteString := do
  let req := normalize request
  modify fun server ↦ { server with lastCommand := req }
  log (ascii "[TCP] Command: " ++ req)
  if req = ascii "help" then
    return Monitor.help
  else if req = ascii "list" then
    return Monitor.sensorList.eval i
  else if req = ascii "health" then
    return Monitor.healthSummary.eval i
  else if req = ascii "stats" then
    return Monitor.stats.eval i
  else if (ascii "get ").isPrefixOf req then
    match parseId req with
    | .ok id =>
        if i.gateway.getSensors.size < id.toNat then
          log (ascii "[TCP] Sensor " ++ CppStd.to_string id.toNat ++ ascii " not found")
        return (Monitor.sensorDetails id).eval i
    | .error _ =>
        log (ascii "[TCP] Invalid sensor id")
        return invalidSensorId
  else
    log (ascii "[TCP] Unknown command: " ++ req)
    return unknownCommand

/-- The client's side of `write`: what the call numbered `i` returns for `n`
bytes. A count of at most 0 is a failure. -/
structure ClientSocket where
  write : ℕ → ℕ → ℤ
  write_le : ∀ i n, write i n ≤ n

structure Output where
  bytes : ByteString := []
  writes : ℕ := 0
  deriving DecidableEq

/-- The inner loop of `handleClient`; `rest` is what is left of the response
after `total` bytes. Returns whether all of it was sent. -/
def sendResponse (socket : ClientSocket) (out : Output) (rest : ByteString) : Output × Bool :=
  if _hrest : rest = [] then (out, true)
  else
    let sent := socket.write out.writes rest.length
    if _hsent : sent ≤ 0 then ({ out with writes := out.writes + 1 }, false)
    else
      sendResponse socket
        { bytes := out.bytes ++ rest.take sent.toNat, writes := out.writes + 1 }
        (rest.drop sent.toNat)
termination_by rest.length
decreasing_by
  have hpos : 0 < rest.length := List.length_pos_iff.mpr _hrest
  rw [List.length_drop]
  omega

/-- A session, by the bytes that each `read` returns and the instant at which
the Gateway is found then. No bytes mean that the client is gone. -/
def handleClient (socket : ClientSocket) (server : TcpServer) (out : Output) :
    List (Instant × ByteString) → TcpServer × Output
  | [] => (server, out)
  | (i, request) :: reads =>
      if request = [] then (server, out)
      else
        let (response, server) := (processRequest i request).run server
        match sendResponse socket out response with
        | (out, true) => handleClient socket server out reads
        | (out, false) => (((log (ascii "[TCP] Failed to send response")).run server).2, out)

/-- What `accept` returns: a client with its session, or -1. -/
inductive Accept where
  | client (socket : ClientSocket) (reads : List (Instant × ByteString))
  | failed (errno : Errno)

def acceptClient (server : TcpServer) : Accept → TcpServer × Bool
  | .failed errno =>
      if server.running = false then (server, false)
      else if errno = .again ∨ errno = .wouldBlock then (server, true)
      else ({ server with stderr := server.stderr ++ [ascii "accept failed"] }, true)
  | .client socket reads =>
      let server := ((log (ascii "[TCP] Client connected")).run server).2
      let server := { server with clientConnected := true }
      let (server, _) := handleClient socket server {} reads
      let server := { server with clientConnected := false }
      (((log (ascii "[TCP] Client disconnected")).run server).2, true)

/-- `run` up to its loop; the loop is not entered without a socket. -/
def startUp (server : TcpServer) : TcpServer × Bool :=
  if server.serverSocket < 0 then
    (((log (ascii "[TCP] Server not initialized")).run server).2, false)
  else
    let server := { server with running := true }
    (((log (ascii "[TCP] Server started")).run server).2, true)

def stop (server : TcpServer) : TcpServer := { server with running := false }

def isClientConnected (server : TcpServer) : Bool := server.clientConnected

def getLastCommand (server : TcpServer) : ByteString :=
  if server.lastCommand = [] then ascii "None" else server.lastCommand

end TcpServer

end SmartSensorNetwork
