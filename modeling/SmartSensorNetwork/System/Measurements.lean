import SmartSensorNetwork.System.MonotonicReads
import SmartSensorNetwork.System.Provenance

/-!
# From the sensor to the client

Nodes sample their sensors, and the packets that reach the receiver are theirs,
lost, repeated, delayed and reordered in any way. What a client of the TCP
server reads of a sensor is one reading that its node took.
-/

namespace SmartSensorNetwork

open CppStd

/-- The state that a sensor of this type is in at a value. -/
def SensorType.classify {α : Type} [LT α] [DecidableLT α] [LE α] [DecidableLE α] [OfScientific α]
    (type : SensorType) (value : α) : SensorState :=
  if type = .motion then
    if MotionSensor.threshold < value then .active else .warning
  else if type = .temperature then
    if value < TemperatureSensor.warningThreshold then .active
    else if value < TemperatureSensor.errorThreshold then .warning
    else .error
  else if type = .battery then
    if BatterySensor.warningThreshold < value then .active
    else if BatterySensor.errorThreshold < value then .warning
    else .error
  else if PressureSensor.lowerWarningThreshold ≤ value ∨
      value ≤ PressureSensor.upperWarningThreshold then .active
  else if PressureSensor.lowerErrorThreshold ≤ value ∧
        value < PressureSensor.lowerWarningThreshold ∨
      PressureSensor.upperWarningThreshold < value ∧
        value ≤ PressureSensor.upperErrorThreshold then .warning
  else .error

theorem AnySensor.state_collectData {α : Type} [LT α] [DecidableLT α] [LE α] [DecidableLE α]
    [Sub α] [OfScientific α] (sensor : AnySensor α) (sample : α) :
    (sensor.collectData sample).2.base.currentState =
      sensor.getType.classify (sensor.collectData sample).2.base.currentValue := by
  cases sensor with
  | motion sensor =>
      simp [collectData, MotionSensor.collectData, base, getType, SensorType.classify,
        MotionSensor.detectMotion]
  | temperature sensor => rfl
  | battery sensor => rfl
  | pressure sensor => rfl

end SmartSensorNetwork

namespace SmartSensorNetwork.Measurements

open CppStd Gateway Gateway.Threads TcpServer.Threads MonotonicReads
open Provenance (handlePacket_serializeTelemetry handlePacket_serializeHeartbeat
  not_acceptsTelemetry_serializeHeartbeat)

/-- The node after some ticks, each with its sample and its time. -/
def after (node : SensorNode) (ticks : List (Double × UInt64)) : SensorNode :=
  ticks.foldl (fun node t ↦ (node.tick t.1 t.2).2.2) node

/-- A packet that the node hands to its sender at some time. -/
def Emits (node : SensorNode) (packet : ByteString) : Prop :=
  (∃ ticks sample now, packet = ((after node ticks).tick sample now).2.1) ∨
    ∃ ticks now, packet = (after node ticks).sendHeartbeat now

/-- The message of one tick; the state is that of the value. -/
structure Reading (node : SensorNode) (m : TelemetryMessage Double) : Prop where
  taken : ∃ ticks sample now, m = ((after node ticks).tick sample now).1
  sensorId : m.header.sensorId = node.sensor.getId
  type : m.type = node.sensor.getType
  state : m.state = m.type.classify m.value

variable {ν : Type}

/-- Each entry belongs to a node, and its telemetry is a reading of this node,
if it has any. -/
def FromNodes (nodes : ν → SensorNode) (sensors : Registry) : Prop :=
  ∀ id info, sensors.lookup id = some info → ∃ k, (nodes k).sensor.getId = id ∧
    (info.lastTelemetry = .zero ∨ Reading (nodes k) info.lastTelemetry)

/-! ## The packets of a node -/

theorem data_tick (node : SensorNode) (sample : Double) (now : UInt64) :
    (node.tick sample now).2.1 =
      PacketSerializer.serializeTelemetry (node.tick sample now).1 := by
  rw [SensorNode.tick_eq]

theorem sensor_tick (node : SensorNode) (sample : Double) (now : UInt64) :
    (node.tick sample now).2.2.sensor.getId = node.sensor.getId ∧
      (node.tick sample now).2.2.sensor.getType = node.sensor.getType := by
  rw [SensorNode.tick_eq]
  constructor
  · exact (AnySensor.getId_createTelemetry now _).trans (AnySensor.getId_collectData sample _)
  · exact (AnySensor.getType_createTelemetry now _).trans (AnySensor.getType_collectData sample _)

theorem sensor_after (node : SensorNode) (ticks : List (Double × UInt64)) :
    (after node ticks).sensor.getId = node.sensor.getId ∧
      (after node ticks).sensor.getType = node.sensor.getType := by
  induction ticks generalizing node with
  | nil => exact ⟨rfl, rfl⟩
  | cons t ticks ih =>
      obtain ⟨hid, htype⟩ := sensor_tick node t.1 t.2
      obtain ⟨hid', htype'⟩ := ih (node.tick t.1 t.2).2.2
      exact ⟨hid'.trans hid, htype'.trans htype⟩

theorem reading_tick (node : SensorNode) (ticks : List (Double × UInt64)) (sample : Double)
    (now : UInt64) : Reading node ((after node ticks).tick sample now).1 where
  taken := ⟨ticks, sample, now, rfl⟩
  sensorId := by
    rw [SensorNode.tick_eq, AnySensor.createTelemetry_fst]
    exact (AnySensor.getId_collectData sample _).trans (sensor_after node ticks).1
  type := by
    rw [SensorNode.tick_eq, AnySensor.createTelemetry_fst]
    exact (AnySensor.getType_collectData sample _).trans (sensor_after node ticks).2
  state := by
    rw [SensorNode.tick_eq, AnySensor.createTelemetry_fst, AnySensor.state_collectData,
      AnySensor.getType_collectData]

theorem emits_cases {node : SensorNode} {packet : ByteString} (h : Emits node packet) :
    (∃ m, Reading node m ∧ m.header.type = .telemetry ∧
      packet = PacketSerializer.serializeTelemetry m) ∨
    ∃ h : HeartbeatMessage, h.header.type = .heartbeat ∧
      h.header.sensorId = node.sensor.getId ∧ packet = PacketSerializer.serializeHeartbeat h := by
  rcases h with ⟨ticks, sample, now, hpacket⟩ | ⟨ticks, now, hpacket⟩
  · have hreading := reading_tick node ticks sample now
    rw [data_tick] at hpacket
    have htype : ((after node ticks).tick sample now).1.header.type = .telemetry := by
      rw [SensorNode.tick_eq, AnySensor.createTelemetry_fst]
    generalize ((after node ticks).tick sample now).1 = m at hreading hpacket htype
    exact .inl ⟨m, hreading, htype, hpacket⟩
  · have hid := (sensor_after node ticks).1
    rw [SensorNode.sendHeartbeat, hid] at hpacket
    exact .inr ⟨_, rfl, rfl, hpacket⟩

/-- The buffer holds every packet of a node whole. -/
theorem received_eq {datagrams : ℕ → ByteString} {node : SensorNode} {n : ℕ}
    (h : Emits node (datagrams n)) : received datagrams n = datagrams n := by
  apply List.take_of_length_le
  rcases emits_cases h with ⟨m, -, -, hpacket⟩ | ⟨h, -, -, hpacket⟩
  · rw [hpacket, Wire.length_serializeTelemetry]
    decide
  · rw [hpacket, Wire.length_serializeHeartbeat]
    decide

/-! ## What the registry holds -/

theorem packet_of_telemetryOf {id : UInt32} {call : Call × UInt64}
    {t : TelemetryMessage Double × UInt64} (h : telemetryOf id call = some t) :
    ∃ b, packet call = some b ∧ AcceptsTelemetry b ∧ (Wire.header b).sensorId = id ∧
      t.1 = Wire.telemetry b := by
  obtain ⟨call, now⟩ := call
  cases call with
  | handlePacket b =>
      obtain ⟨⟨hacc, hid⟩, ht⟩ := Option.ite_none_right_eq_some.mp h
      exact ⟨b, rfl, hacc, hid, by rw [← Option.some.inj ht]⟩
  | detectOfflineSensors => cases h
  | getSecondsSinceLastHeartbeat sensorId => cases h

theorem sensorId_of_emits {node : SensorNode} {b : ByteString} (h : Emits node b) :
    (Wire.header b).sensorId = node.sensor.getId := by
  rcases emits_cases h with ⟨m, hm, -, hpacket⟩ | ⟨h, -, hid, hpacket⟩
  · rw [hpacket, Wire.header_serializeTelemetry, hm.sensorId]
  · rw [hpacket, Wire.header_serializeHeartbeat, hid]

theorem reading_of_emits {node : SensorNode} {b : ByteString} (h : Emits node b)
    (hacc : AcceptsTelemetry b) : Reading node (Wire.telemetry b) := by
  rcases emits_cases h with ⟨m, hm, -, hpacket⟩ | ⟨h, htype, -, hpacket⟩
  · rw [hpacket, Wire.telemetry_serializeTelemetry]
    exact hm
  · rw [hpacket] at hacc
    exact absurd hacc (not_acceptsTelemetry_serializeHeartbeat htype)

theorem fromNodes_left {nodes : ν → SensorNode} {calls : List (Call × UInt64)}
    (h : ∀ b ∈ calls.filterMap packet, ∃ k, Emits (nodes k) b) : FromNodes nodes (left calls) := by
  intro id info hlookup
  have htelemetry := congrArg Prod.fst ((registry_is_replay calls).telemetry id info hlookup)
  simp only at htelemetry
  cases hlast : lastTelemetry id calls with
  | none =>
      obtain ⟨⟨call, now⟩, hcall, b, hb, -, hid⟩ := ((registry_is_replay calls).keys id).mp
        (AList.lookup_isSome.mp (Option.isSome_of_eq_some hlookup))
      have hpacket : packet (call, now) = some b := congrArg (fun call ↦ packet (call, now)) hb
      obtain ⟨k, hk⟩ := h b (List.mem_filterMap.mpr ⟨(call, now), hcall, hpacket⟩)
      refine ⟨k, (sensorId_of_emits hk).symm.trans hid, .inl ?_⟩
      rw [htelemetry, hlast]
      rfl
  | some t =>
      obtain ⟨call, hcall, hfrom⟩ := List.mem_filterMap.mp (List.mem_of_getLast? hlast)
      obtain ⟨b, hpacket, hacc, hid, ht⟩ := packet_of_telemetryOf hfrom
      obtain ⟨k, hk⟩ := h b (List.mem_filterMap.mpr ⟨call, hcall, hpacket⟩)
      refine ⟨k, (sensorId_of_emits hk).symm.trans hid, .inr ?_⟩
      rw [htelemetry, hlast, Option.getD_some, ht]
      exact reading_of_emits hk hacc

/-! ## Runs -/

variable {ι β : Type} [DecidableEq ι] {nodes : ν → SensorNode} {datagrams : ℕ → ByteString}

theorem returned_of_emits {node : SensorNode} {n : ℕ} (h : Emits node (datagrams n))
    (gateway : Gateway) (now : UInt64) :
    Result.of gateway now (.call (.handlePacket (received datagrams n))) = .returned := by
  have hok : ∃ gateway', gateway.handlePacket now (received datagrams n) = .ok gateway' := by
    rw [received_eq h]
    rcases emits_cases h with ⟨m, -, htype, hpacket⟩ | ⟨h, htype, -, hpacket⟩
    · rw [hpacket]
      exact ⟨_, handlePacket_serializeTelemetry htype gateway now⟩
    · rw [hpacket]
      exact ⟨_, handlePacket_serializeHeartbeat htype gateway now⟩
  obtain ⟨gateway', hgateway⟩ := hok
  rw [Result.of, hgateway]

def Survives (a : Calls (Report β ⊕ Service) (Thread ι)) : Prop :=
  a.locals .receiver ≠ .calling (.inr .over)

/-- No packet of a node ends the receive loop. -/
theorem survives_step (hsent : ∀ n, ∃ k, Emits (nodes k) (datagrams n))
    {a a' : Calls (Report β ⊕ Service) (Thread ι)} {e : Thread ι × UInt64}
    (h : Receiving datagrams a) (halive : Survives a)
    (hstep : callStep (reporting (services datagrams)) a e = some a') : Survives a' := by
  obtain ⟨t, x⟩ := e
  obtain ⟨l, k, hlocal, hprogram, rfl⟩ | ⟨l, member, k, hlocal, hprogram, rfl⟩ |
    ⟨now, l, member, k, hlocal, hprogram, rfl⟩ := callStep_cases hstep
  all_goals rcases eq_or_ne .receiver t with rfl | hne
  · simp [Survives]
  · simpa only [Survives, Function.update_of_ne hne] using halive
  · have hown := h.own .receiver
    simp only at hlocal
    rw [hlocal] at hown
    rcases hown with hover | ⟨n, hn⟩
    · cases hover
      exact absurd hlocal halive
    · cases hn
      obtain ⟨rfl, rfl⟩ : Member.call (.handlePacket (received datagrams n)) = member ∧
          (fun r ↦ Sum.inr (afterPacket n r)) = k := by
        simpa [reporting, services] using hprogram
      obtain ⟨j, hj⟩ := hsent n
      simp [Survives, Calls.perform, returned_of_emits hj, afterPacket]
  · simpa only [Survives, Calls.perform, Function.update_of_ne hne] using halive
  · have hown := h.own .receiver
    simp only at hlocal
    rw [hlocal] at hown
    rcases hown with hover | ⟨n, hn⟩
    · cases hover
    · cases hn
  · simpa only [Survives, Calls.perform, Function.update_of_ne hne] using halive

theorem survives_of_run (hsent : ∀ n, ∃ k, Emits (nodes k) (datagrams n))
    {a a' : Calls (Report β ⊕ Service) (Thread ι)} {events : List (Thread ι × UInt64)}
    (h : Receiving datagrams a) (halive : Survives a)
    (hrun : Runs.run (callStep (reporting (services datagrams))) a events = some a') :
    Survives a' := by
  have hboth := Runs.invariant_run (I := fun a ↦ Receiving datagrams a ∧ Survives a)
    (fun _ _ _ h hstep ↦ ⟨receiving_step h.1 hstep, survives_step hsent h.1 h.2 hstep⟩)
    ⟨h, halive⟩ hrun
  exact hboth.2

/-- Whatever the network does with the packets of the nodes and however the
threads interleave, the receive loop goes on, and a client reads nothing of a
sensor but readings that its node took. -/
theorem replies_measured {reports : ι → Report Session} {schedule : List (Thread ι × UInt64)}
    {c : Config (Report Session ⊕ Service) (Thread ι)}
    (hsent : ∀ n, ∃ k, Emits (nodes k) (datagrams n))
    (hrun : Runs.run (CriticalSections.step (action (reporting (services datagrams))))
      (init (start reports)) schedule = some c) :
    c.position .receiver ≠ .outside (.calling (.inr .over)) ∧
      ∀ i server clients session, reports i = serve { server := server } clients →
        c.position (.reporter i) = .outside (.calling (.inl (.done session))) →
        ∀ exchange ∈ session.answered, ∃ sensors, FromNodes nodes sensors ∧
          (command exchange.1).Shows sensors exchange.2 := by
  obtain ⟨events, a, hevents, hc⟩ :=
    (tracks_init (reporting (services datagrams)) (start reports)).run hrun
  have hstart := receiving_start datagrams reports
  have hhandled := (receiving_of_run hstart hevents).handled
  constructor
  · intro hover
    have halive := survives_of_run hsent hstart (by simp [Survives, start]) hevents
    exact halive (hc.linearizes.outside _ _ hover)
  · intro i server clients session hserve hdone exchange hexchange
    have hlocal : Local.calling (start reports (.reporter i)) =
        .calling (.inl (serve { server := server } clients)) :=
      congrArg (fun p ↦ Local.calling (Sum.inl p)) hserve
    obtain ⟨exchanges, hanswered, moments, -, -, hshows⟩ :=
      exists_moments (written_of_run hevents) hc.linearizes hlocal hdone
    rw [hanswered, List.nil_append] at hexchange
    obtain ⟨n, -, hn⟩ := exists_of_forall₂ hshows hexchange
    refine ⟨left (a.history.take n), fromNodes_left fun b hb ↦ ?_, hn⟩
    obtain ⟨m, hm⟩ := hhandled
    have hpart : b ∈ a.history.filterMap packet :=
      ((List.take_prefix n a.history).filterMap packet).subset hb
    rw [hm] at hpart
    obtain ⟨j, -, rfl⟩ := List.mem_map.mp hpart
    obtain ⟨k, hk⟩ := hsent j
    exact ⟨k, (received_eq hk).symm ▸ hk⟩

def thermometer (_ : Unit) : SensorNode := { sensor := .temperature (TemperatureSensor.new 1) }

/-- The first reading of the thermometer, repeated by the network. -/
def firstReading (_ : ℕ) : ByteString := ((thermometer ()).tick 20.0 5).2.1

theorem replies_measured_of_thermometer :
    ∃ c : Config (Report Session ⊕ Service) (Thread Unit),
      (∀ n, ∃ k, Emits (thermometer k) (firstReading n)) ∧
      Runs.run (CriticalSections.step (action (reporting (services firstReading))))
        (init (start askingTwice)) betweenRequests = some c ∧
      exchanged (c.position (.reporter ())) = 2 ∧
      c.position .receiver ≠ .outside (.calling (.inr .over)) ∧
        ∀ i server clients session, askingTwice i = serve { server := server } clients →
          c.position (.reporter i) = .outside (.calling (.inl (.done session))) →
          ∀ exchange ∈ session.answered, ∃ sensors, FromNodes thermometer sensors ∧
            (command exchange.1).Shows sensors exchange.2 := by
  have hsent : ∀ n, ∃ k, Emits (thermometer k) (firstReading n) :=
    fun _ ↦ ⟨(), .inl ⟨[], 20.0, 5, rfl⟩⟩
  have hrun : ((Runs.run (CriticalSections.step (action (reporting (services firstReading))))
      (init (start askingTwice)) betweenRequests).map fun c ↦
        exchanged (c.position (.reporter ()))) = some 2 := by decide +kernel
  obtain ⟨c, hc, hexchanged⟩ := Option.map_eq_some_iff.mp hrun
  exact ⟨c, hsent, hc, hexchanged, replies_measured hsent hc⟩

end SmartSensorNetwork.Measurements
