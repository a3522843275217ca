import SmartSensorNetwork.Gateway.EntryMachine

/-!
# The UDP receiver

The receive loop hands every datagram to the Gateway and catches nothing: an
exception that `handlePacket` throws leaves `receivePacket` and then `run`.
A finite list of `recvfrom` results stands for what the loop has seen so far.
-/

namespace SmartSensorNetwork

open CppStd

/-- What one `recvfrom` returns: a datagram as it arrived, or -1. -/
inductive Receive where
  | datagram (bytes : ByteString)
  | failed (errno : Errno)
  deriving DecidableEq, Repr

/-- `logger` and `stderr` list what the receiver itself writes there. -/
structure UdpReceiver where
  gateway : Gateway := {}
  sockfd : ℤ := -1
  running : Bool := false
  logger : List ByteString := []
  stderr : List ByteString := []

namespace UdpReceiver

/-- `MAX_PACKET_SIZE`, the length of the receive buffer. -/
def maxPacketSize : ℕ := 1024

def log (receiver : UdpReceiver) (msg : ByteString) : UdpReceiver :=
  { receiver with logger := receiver.logger ++ [msg] }

def perror (receiver : UdpReceiver) (msg : ByteString) : UdpReceiver :=
  { receiver with stderr := receiver.stderr ++ [msg] }

def receivePacket (receiver : UdpReceiver) (now : UInt64) (received : Receive) :
    Except Exception UdpReceiver :=
  match received with
  | .failed errno =>
      if receiver.running = false then .ok receiver
      else if errno = .again ∨ errno = .wouldBlock then .ok receiver
      else .ok (receiver.perror (ascii "recvfrom failed"))
  | .datagram bytes => do
      -- `recvfrom` cuts a datagram that is longer than the buffer
      let buffer := bytes.take maxPacketSize
      let gateway ← receiver.gateway.handlePacket now buffer
      return { receiver with gateway := gateway }

/-- `while (running) receivePacket();` -/
def loop (receiver : UdpReceiver) : List (Receive × UInt64) → Except Exception UdpReceiver
  | [] => .ok receiver
  | (received, now) :: rest =>
      if receiver.running then do
        let receiver ← receiver.receivePacket now received
        receiver.loop rest
      else .ok receiver

/-- `run` up to its loop; the loop is not entered without a socket. -/
def startUp (receiver : UdpReceiver) : UdpReceiver × Bool :=
  if receiver.sockfd < 0 then
    (receiver.log (ascii "Invalid socket. Receiver not started."), false)
  else
    let receiver := { receiver with running := true }
    (receiver.log (ascii "[UDP] Receiver started"), true)

def run (receiver : UdpReceiver) (receives : List (Receive × UInt64)) :
    Except Exception UdpReceiver :=
  match receiver.startUp with
  | (receiver, true) => receiver.loop receives
  | (receiver, false) => .ok receiver

def stop (receiver : UdpReceiver) : UdpReceiver := { receiver with running := false }

def packets : List (Receive × UInt64) → List (Gateway.Call × UInt64)
  | [] => []
  | (.datagram bytes, now) :: rest =>
      (.handlePacket (bytes.take maxPacketSize), now) :: packets rest
  | (.failed _, _) :: rest => packets rest

/-- `run` is still receiving after the whole sequence, and the Gateway has
taken in every packet it does not reject. -/
def RunsThrough (receiver : UdpReceiver) (receives : List (Receive × UInt64)) : Prop :=
  ∃ receiver', receiver.run receives = .ok receiver' ∧ receiver'.running = true ∧
    receiver'.gateway = receiver.gateway.run (packets receives)

/-! ## One datagram -/

theorem rejects_take_iff (b : ByteString) :
    Gateway.Rejects (b.take maxPacketSize) ↔ Gateway.Rejects b := by
  have hhead : (b.take maxPacketSize)[0]? = b[0]? := List.getElem?_take_of_lt (by decide)
  have hlength : ∀ n ≤ maxPacketSize, (b.take maxPacketSize).length < n ↔ b.length < n := by
    intro n hn
    rw [List.length_take]
    omega
  rw [Gateway.Rejects, Gateway.Rejects, hhead, hlength _ (by decide), hlength _ (by decide)]

theorem receivePacket_datagram (receiver : UdpReceiver) (now : UInt64) (b : ByteString) :
    receiver.receivePacket now (.datagram b) =
      if Gateway.Rejects b then .error PacketSerializer.bufferUnderflow
      else .ok { receiver with
        gateway := receiver.gateway.perform now (.handlePacket (b.take maxPacketSize)) } := by
  have hrun : receiver.gateway.handlePacket now (b.take maxPacketSize) =
      if Gateway.Rejects b then .error PacketSerializer.bufferUnderflow
      else .ok (receiver.gateway.perform now (.handlePacket (b.take maxPacketSize))) := by
    rw [Gateway.handlePacket_eq_perform]
    simp only [rejects_take_iff]
  by_cases hrej : Gateway.Rejects b
  · rw [if_pos hrej] at hrun ⊢
    simp only [receivePacket, hrun]
    rfl
  · rw [if_neg hrej] at hrun ⊢
    simp only [receivePacket, hrun]
    rfl

theorem receivePacket_failed (receiver : UdpReceiver) (now : UInt64) (errno : Errno) :
    ∃ receiver', receiver.receivePacket now (.failed errno) = .ok receiver' ∧
      receiver'.running = receiver.running ∧ receiver'.gateway = receiver.gateway := by
  simp only [receivePacket]
  split
  · exact ⟨receiver, rfl, rfl, rfl⟩
  · split
    · exact ⟨receiver, rfl, rfl, rfl⟩
    · exact ⟨_, rfl, rfl, rfl⟩

/-! ## The loop -/

def HasRejected (receives : List (Receive × UInt64)) : Prop :=
  ∃ b now, (Receive.datagram b, now) ∈ receives ∧ Gateway.Rejects b

theorem loop_of_hasRejected {receiver : UdpReceiver} {receives : List (Receive × UInt64)}
    (hrunning : receiver.running = true) (h : HasRejected receives) :
    receiver.loop receives = .error PacketSerializer.bufferUnderflow := by
  induction receives generalizing receiver with
  | nil =>
      obtain ⟨b, now, hmem, -⟩ := h
      cases hmem
  | cons head rest ih =>
      obtain ⟨received, now⟩ := head
      obtain ⟨b, t, hmem, hrej⟩ := h
      cases received with
      | datagram d =>
          by_cases hrej' : Gateway.Rejects d
          · simp [loop, hrunning, receivePacket_datagram, hrej', bind, Except.bind]
          · have hrest : HasRejected rest := by
              refine ⟨b, t, (List.mem_cons.mp hmem).resolve_left fun heq ↦ hrej' ?_, hrej⟩
              cases heq
              exact hrej
            have hloop := @ih { receiver with
              gateway := receiver.gateway.perform now (.handlePacket (d.take maxPacketSize)) }
              hrunning hrest
            simpa [loop, hrunning, receivePacket_datagram, hrej', bind, Except.bind] using hloop
      | failed errno =>
          obtain ⟨receiver', hreceive, hrunning', -⟩ := receivePacket_failed receiver now errno
          have hrest : HasRejected rest := ⟨b, t, by simpa using hmem, hrej⟩
          simpa [loop, hrunning, hreceive, bind, Except.bind]
            using ih (hrunning'.trans hrunning) hrest

theorem loop_of_not_hasRejected {receiver : UdpReceiver} {receives : List (Receive × UInt64)}
    (hrunning : receiver.running = true) (h : ¬ HasRejected receives) :
    ∃ receiver', receiver.loop receives = .ok receiver' ∧ receiver'.running = true ∧
      receiver'.gateway = receiver.gateway.run (packets receives) := by
  induction receives generalizing receiver with
  | nil => exact ⟨receiver, rfl, hrunning, rfl⟩
  | cons head rest ih =>
      obtain ⟨received, now⟩ := head
      have hrest : ¬ HasRejected rest := by
        rintro ⟨b, t, hmem, hrej⟩
        exact h ⟨b, t, List.mem_cons_of_mem _ hmem, hrej⟩
      cases received with
      | datagram b =>
          have hrej : ¬ Gateway.Rejects b := fun hrej ↦ h ⟨b, now, List.mem_cons_self, hrej⟩
          obtain ⟨receiver', hloop, hrunning', hgateway⟩ := @ih { receiver with
            gateway := receiver.gateway.perform now (.handlePacket (b.take maxPacketSize)) }
            hrunning hrest
          refine ⟨receiver', ?_, hrunning', hgateway⟩
          simpa [loop, hrunning, receivePacket_datagram, hrej, bind, Except.bind] using hloop
      | failed errno =>
          obtain ⟨next, hreceive, hrunning', hgateway⟩ :=
            receivePacket_failed receiver now errno
          obtain ⟨receiver', hloop, hdone, hrun⟩ := ih (hrunning'.trans hrunning) hrest
          refine ⟨receiver', ?_, hdone, hrun.trans (congrArg (Gateway.run · _) hgateway)⟩
          simpa [loop, hrunning, hreceive, bind, Except.bind] using hloop

/-- The receiver survives a sequence of datagrams exactly when the Gateway
rejects none of them. -/
theorem runsThrough_iff (receiver : UdpReceiver) (receives : List (Receive × UInt64))
    (hsocket : 0 ≤ receiver.sockfd) :
    RunsThrough receiver receives ↔
      ∀ b now, (Receive.datagram b, now) ∈ receives → ¬ Gateway.Rejects b := by
  have hvalid : ¬ receiver.sockfd < 0 := not_lt.mpr hsocket
  have hnone : (∀ b now, (Receive.datagram b, now) ∈ receives → ¬ Gateway.Rejects b) ↔
      ¬ HasRejected receives := by
    simp [HasRejected]
  rw [hnone]
  constructor
  · rintro ⟨receiver', hrun, -⟩ hrej
    simp only [run, startUp, hvalid, if_false] at hrun
    rw [loop_of_hasRejected rfl hrej] at hrun
    cases hrun
  · intro hrej
    simp only [RunsThrough, run, startUp, hvalid, if_false]
    exact loop_of_not_hasRejected rfl hrej

/-- A 13-byte telemetry packet after a heartbeat. -/
theorem runsThrough_iff_short_telemetry :
    RunsThrough { sockfd := 3 }
        [(.datagram [2, 0, 0, 0, 7, 0, 0, 0, 0, 0, 0, 0, 1], 1000),
          (.datagram [1, 0, 0, 0, 7, 0, 0, 0, 0, 0, 0, 0, 1], 1001)] ↔
      ∀ b now, (Receive.datagram b, now) ∈
        [(Receive.datagram [2, 0, 0, 0, 7, 0, 0, 0, 0, 0, 0, 0, 1], (1000 : UInt64)),
          (.datagram [1, 0, 0, 0, 7, 0, 0, 0, 0, 0, 0, 0, 1], 1001)] → ¬ Gateway.Rejects b :=
  runsThrough_iff _ _ (by decide)

/-- An empty datagram ends the receiver. -/
theorem not_runsThrough_empty : ¬ RunsThrough { sockfd := 3 } [(.datagram [], 1000)] := by
  rintro ⟨receiver', hrun, -⟩
  have herror : run { sockfd := 3 } [(.datagram [], 1000)] =
      .error PacketSerializer.bufferUnderflow := rfl
  rw [herror] at hrun
  cases hrun

end UdpReceiver

end SmartSensorNetwork
