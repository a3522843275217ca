import SmartSensorNetwork.Gateway.Health
import SmartSensorNetwork.Lib.Runs
import SmartSensorNetwork.Sensor.SensorNode

/-!
# Where the Gateway's data comes from

Nodes put packets on a network that loses, reorders and duplicates them, and
the Gateway handles whatever arrives. A run keeps a record of every tick and
of every heartbeat sent; all that the registry ever holds goes back to it.
-/

namespace SmartSensorNetwork.Provenance

open CppStd Gateway

/-- A tick of a node: its sensor before the tick, the value sampled and the
message returned. -/
structure Tick (ι : Type) where
  node : ι
  before : AnySensor Double
  sample : Double
  message : TelemetryMessage Double

/-- `ticks`, `heartbeats`, `delivered`, `duplicated` and `thrown` record the
run; the program has no such variables. -/
structure State (ι : Type) where
  nodes : ι → SensorNode
  inFlight : Multiset ByteString := 0
  gateway : Gateway := {}
  ticks : List (Tick ι) := []
  heartbeats : List ι := []
  delivered : List ByteString := []
  duplicated : Bool := false
  thrown : Bool := false

inductive Event (ι : Type) where
  | tick (node : ι) (sample : Double) (now : UInt64)
  | sendHeartbeat (node : ι) (now : UInt64)
  | lose (packet : ByteString)
  | duplicate (packet : ByteString)
  | deliver (packet : ByteString) (now : UInt64)
  | detectOfflineSensors (now : UInt64)

variable {ι : Type}

def step [DecidableEq ι] (s : State ι) : Event ι → Option (State ι)
  | .tick k sample now =>
      let (message, data, node) := (s.nodes k).tick sample now
      some { s with
        nodes := Function.update s.nodes k node
        inFlight := data ::ₘ s.inFlight
        ticks := ⟨k, (s.nodes k).sensor, sample, message⟩ :: s.ticks }
  | .sendHeartbeat k now =>
      some { s with
        inFlight := (s.nodes k).sendHeartbeat now ::ₘ s.inFlight
        heartbeats := k :: s.heartbeats }
  | .lose packet =>
      if packet ∈ s.inFlight then some { s with inFlight := s.inFlight.erase packet } else none
  | .duplicate packet =>
      if packet ∈ s.inFlight then
        some { s with inFlight := packet ::ₘ s.inFlight, duplicated := true }
      else none
  | .deliver packet now =>
      if packet ∈ s.inFlight then
        let s := { s with
          inFlight := s.inFlight.erase packet
          delivered := packet :: s.delivered }
        match s.gateway.handlePacket now packet with
        | .ok gateway => some { s with gateway := gateway }
        | .error _ => some { s with thrown := true }
      else none
  | .detectOfflineSensors now =>
      some { s with gateway := s.gateway.detectOfflineSensors now }

def start (nodes : ι → SensorNode) : State ι := { nodes := nodes }

/-- The message of a tick is what its node says: its own id and type, and the
value and state that one `collectData` left. -/
structure Genuine (nodes : ι → SensorNode) (t : Tick ι) : Prop where
  messageType : t.message.header.type = .telemetry
  sensorId : t.message.header.sensorId = (nodes t.node).sensor.getId
  type : t.message.type = (nodes t.node).sensor.getType
  value : t.message.value = (t.before.collectData t.sample).2.base.currentValue
  state : t.message.state = (t.before.collectData t.sample).2.base.currentState

def TelemetryDelivered (s : State ι) (id : UInt32) : Prop :=
  ∃ b ∈ s.delivered, AcceptsTelemetry b ∧ (Wire.header b).sensorId = id

/-- What the Gateway holds goes back to the nodes. -/
structure Traceable (nodes : ι → SensorNode) (s : State ι) : Prop where
  notThrown : s.thrown = false
  noUnknownType : unknownMessageType ∉ s.gateway.logger
  registered : ∀ id ∈ s.gateway.sensors, ∃ k, (nodes k).sensor.getId = id
  telemetry : ∀ k, TelemetryDelivered s (nodes k).sensor.getId →
    ∃ info, s.gateway.sensors.lookup (nodes k).sensor.getId = some info ∧
      ∃ t ∈ s.ticks, t.node = k ∧ info.lastTelemetry = t.message ∧ Genuine nodes t
  health : ∀ k info, s.gateway.sensors.lookup (nodes k).sensor.getId = some info →
    info.health ≠ .unknown → k ∈ s.heartbeats
  counters : s.duplicated = false →
    s.gateway.telemetryPacketsReceived.toNat ≤ s.ticks.length ∧
      s.gateway.heartbeatPacketsReceived.toNat ≤ s.heartbeats.length

/-! ## The packets of a node -/

theorem head_eq_some_type {b : ByteString} {type : MessageType} (hlength : 0 < b.length)
    (htype : (Wire.header b).type = type) : b[0]? = some type.raw := by
  obtain ⟨x, hx⟩ := exists_head hlength
  rw [header_type hx] at htype
  rw [hx, ← htype]

theorem acceptsTelemetry_serializeTelemetry {m : TelemetryMessage Double}
    (h : m.header.type = .telemetry) :
    AcceptsTelemetry (PacketSerializer.serializeTelemetry m) := by
  have hlength := Wire.length_serializeTelemetry m
  have hhead : (PacketSerializer.serializeTelemetry m)[0]? = some MessageType.telemetry.raw := by
    apply head_eq_some_type (lt_of_lt_of_le (by decide) hlength.ge)
    rw [Wire.header_serializeTelemetry, h]
  exact ⟨hlength.ge, hhead⟩

theorem acceptsHeartbeat_serializeHeartbeat {h : HeartbeatMessage}
    (htype : h.header.type = .heartbeat) :
    AcceptsHeartbeat (PacketSerializer.serializeHeartbeat h) := by
  have hlength := Wire.length_serializeHeartbeat h
  have hhead : (PacketSerializer.serializeHeartbeat h)[0]? = some MessageType.heartbeat.raw := by
    apply head_eq_some_type (lt_of_lt_of_le (by decide) hlength.ge)
    rw [Wire.header_serializeHeartbeat, htype]
  exact ⟨hlength.ge, hhead⟩

theorem handlePacket_serializeTelemetry {m : TelemetryMessage Double}
    (h : m.header.type = .telemetry) (gateway : Gateway) (now : UInt64) :
    gateway.handlePacket now (PacketSerializer.serializeTelemetry m) =
      .ok (gateway.updateSensorInfo now m) := by
  have hacc := acceptsTelemetry_serializeTelemetry h
  rw [handlePacket_eq, if_neg hacc.not_rejects, if_pos hacc, Wire.telemetry_serializeTelemetry]

theorem handlePacket_serializeHeartbeat {h : HeartbeatMessage}
    (htype : h.header.type = .heartbeat) (gateway : Gateway) (now : UInt64) :
    gateway.handlePacket now (PacketSerializer.serializeHeartbeat h) =
      .ok (gateway.handleHeartbeat now h) := by
  have hacc := acceptsHeartbeat_serializeHeartbeat htype
  have hnot : ¬ AcceptsTelemetry (PacketSerializer.serializeHeartbeat h) := fun ht ↦
    not_acceptsHeartbeat ht hacc
  rw [handlePacket_eq, if_neg hacc.not_rejects, if_neg hnot, if_pos hacc, Wire.heartbeat,
    Wire.header_serializeHeartbeat]

/-! ## The invariant -/

def Sent (nodes : ι → SensorNode) (s : State ι) (b : ByteString) : Prop :=
  (∃ t ∈ s.ticks, b = PacketSerializer.serializeTelemetry t.message) ∨
    ∃ k ∈ s.heartbeats, ∃ time, b = PacketSerializer.serializeHeartbeat
      ⟨⟨.heartbeat, (nodes k).sensor.getId, time⟩⟩

/-- Each packet kind is counted once: in the Gateway or still in flight. -/
structure Invariant (nodes : ι → SensorNode) (s : State ι) : Prop where
  getId : ∀ k, (s.nodes k).sensor.getId = (nodes k).sensor.getId
  getType : ∀ k, (s.nodes k).sensor.getType = (nodes k).sensor.getType
  genuine : ∀ t ∈ s.ticks, Genuine nodes t
  sent : ∀ b ∈ s.inFlight, Sent nodes s b
  notThrown : s.thrown = false
  noUnknownType : unknownMessageType ∉ s.gateway.logger
  registered : ∀ id info, s.gateway.sensors.lookup id = some info →
    ∃ k, (nodes k).sensor.getId = id
  telemetry : ∀ id, TelemetryDelivered s id → ∃ info, s.gateway.sensors.lookup id = some info ∧
    ∃ t ∈ s.ticks, t.message.header.sensorId = id ∧ info.lastTelemetry = t.message
  health : ∀ id info, s.gateway.sensors.lookup id = some info → info.health ≠ .unknown →
    ∃ k ∈ s.heartbeats, (nodes k).sensor.getId = id
  telemetryCount : s.duplicated = false →
    s.gateway.telemetryPacketsReceived.toNat + s.inFlight.countP AcceptsTelemetry ≤
      s.ticks.length
  heartbeatCount : s.duplicated = false →
    s.gateway.heartbeatPacketsReceived.toNat + s.inFlight.countP AcceptsHeartbeat ≤
      s.heartbeats.length

theorem invariant_start (nodes : ι → SensorNode) : Invariant nodes (start nodes) where
  getId k := rfl
  getType k := rfl
  genuine t ht := by cases ht
  sent b hb := absurd hb (Multiset.notMem_zero b)
  notThrown := rfl
  noUnknownType h := by cases h
  registered id info h := by simp [start] at h
  telemetry id h := by
    obtain ⟨b, hb, -⟩ := h
    cases hb
  health id info h := by simp [start] at h
  telemetryCount _ := by simp [start]
  heartbeatCount _ := by simp [start]

theorem not_acceptsTelemetry_serializeHeartbeat {h : HeartbeatMessage}
    (htype : h.header.type = .heartbeat) :
    ¬ AcceptsTelemetry (PacketSerializer.serializeHeartbeat h) := fun ht ↦
  not_acceptsHeartbeat ht (acceptsHeartbeat_serializeHeartbeat htype)

/-! ## Counting packets -/

section Counts

variable {p : ByteString → Prop} [DecidablePred p] {b : ByteString}
  {inFlight : Multiset ByteString}

theorem add_countP_erase_le {received sent : ℕ} (h : received + inFlight.countP p ≤ sent) :
    received + (inFlight.erase b).countP p ≤ sent := by
  have hle : (inFlight.erase b).countP p ≤ inFlight.countP p := by
    apply Multiset.countP_le_of_le
    exact Multiset.erase_le b inFlight
  omega

/-- A packet taken out of flight may be counted as received. -/
theorem count_add_countP_erase_le {counter : UInt64} {sent : ℕ} (hb : b ∈ inFlight) (hp : p b)
    (h : counter.toNat + inFlight.countP p ≤ sent) :
    (counter + 1).toNat + (inFlight.erase b).countP p ≤ sent := by
  have hcount : inFlight.countP p = (inFlight.erase b).countP p + 1 := by
    rw [← Multiset.countP_cons_of_pos _ hp, Multiset.cons_erase hb]
  have hwrap : (counter + 1).toNat ≤ counter.toNat + 1 := by
    rw [UInt64.toNat_add]
    exact Nat.mod_le _ _
  omega

end Counts

/-! ## Steps -/

section Steps

variable {nodes : ι → SensorNode} {s : State ι}

theorem invariant_deliver_telemetry (hs : Invariant nodes s) {t : Tick ι} (ht : t ∈ s.ticks)
    {b : ByteString} (hb : b ∈ s.inFlight) (hacc : AcceptsTelemetry b)
    (hheader : Wire.header b = t.message.header) (now : UInt64) :
    Invariant nodes { s with
      inFlight := s.inFlight.erase b
      delivered := b :: s.delivered
      gateway := s.gateway.updateSensorInfo now t.message } := by
  have hgenuine := hs.genuine t ht
  exact { hs with
    sent := fun c hc ↦ hs.sent c (Multiset.mem_of_mem_erase hc)
    noUnknownType := hs.noUnknownType
    registered := fun id info hlookup ↦ by
      rw [lookup_updateSensorInfo, entryStep] at hlookup
      split at hlookup
      · next hid => exact ⟨t.node, hgenuine.sensorId.symm.trans hid⟩
      · exact hs.registered id info hlookup
    telemetry := fun id ⟨c, hc, hcacc, hcid⟩ ↦ by
      rw [lookup_updateSensorInfo, entryStep]
      split
      · next hid => exact ⟨_, rfl, t, ht, hid, rfl⟩
      · next hid =>
          rcases List.mem_cons.mp hc with rfl | hc
          · rw [hheader] at hcid
            exact absurd hcid hid
          · exact hs.telemetry id ⟨c, hc, hcacc, hcid⟩
    health := fun id info hlookup hhealth ↦ by
      rw [lookup_updateSensorInfo, entryStep] at hlookup
      split at hlookup
      · cases hold : s.gateway.sensors.lookup id with
        | none =>
            rw [hold] at hlookup
            cases hlookup
            exact absurd rfl hhealth
        | some old =>
            rw [hold] at hlookup
            cases hlookup
            exact hs.health id old hold hhealth
      · exact hs.health id info hlookup hhealth
    telemetryCount := fun hdup ↦ count_add_countP_erase_le hb hacc (hs.telemetryCount hdup)
    heartbeatCount := fun hdup ↦ add_countP_erase_le (hs.heartbeatCount hdup) }

theorem invariant_deliver_heartbeat (hs : Invariant nodes s) {h : HeartbeatMessage} {k : ι}
    (hk : k ∈ s.heartbeats) (hid : h.header.sensorId = (nodes k).sensor.getId)
    {b : ByteString} (hb : b ∈ s.inFlight) (hacc : AcceptsHeartbeat b) (now : UInt64) :
    Invariant nodes { s with
      inFlight := s.inFlight.erase b
      delivered := b :: s.delivered
      gateway := s.gateway.handleHeartbeat now h } := by
  exact { hs with
    sent := fun c hc ↦ hs.sent c (Multiset.mem_of_mem_erase hc)
    noUnknownType := hs.noUnknownType
    registered := fun id info hlookup ↦ by
      rw [lookup_handleHeartbeat, entryStep] at hlookup
      split at hlookup
      · next heq => exact ⟨k, hid.symm.trans heq⟩
      · exact hs.registered id info hlookup
    telemetry := fun id ⟨c, hc, hcacc, hcid⟩ ↦ by
      have hold : TelemetryDelivered s id := by
        rcases List.mem_cons.mp hc with rfl | hc
        · exact absurd hacc (not_acceptsHeartbeat hcacc)
        · exact ⟨c, hc, hcacc, hcid⟩
      obtain ⟨info, hlookup, hmessage⟩ := hs.telemetry id hold
      rw [lookup_handleHeartbeat, entryStep, hlookup]
      split
      · exact ⟨_, rfl, hmessage⟩
      · exact ⟨info, rfl, hmessage⟩
    health := fun id info hlookup hhealth ↦ by
      rw [lookup_handleHeartbeat, entryStep] at hlookup
      split at hlookup
      · next heq => exact ⟨k, hk, hid.symm.trans heq⟩
      · exact hs.health id info hlookup hhealth
    telemetryCount := fun hdup ↦ add_countP_erase_le (hs.telemetryCount hdup)
    heartbeatCount := fun hdup ↦ count_add_countP_erase_le hb hacc (hs.heartbeatCount hdup) }

variable [DecidableEq ι]

theorem invariant_tick (hs : Invariant nodes s) (k : ι) (sample : Double) (now : UInt64)
    {s' : State ι} (h : step s (.tick k sample now) = some s') : Invariant nodes s' := by
  have hid := AnySensor.getId_collectData sample (s.nodes k).sensor
  have htype := AnySensor.getType_collectData sample (s.nodes k).sensor
  simp only [step, SensorNode.tick_eq, Option.some.injEq] at h
  have hgenuine : Genuine nodes ⟨k, (s.nodes k).sensor, sample,
      (((s.nodes k).sensor.collectData sample).2.createTelemetry now).1⟩ := by
    rw [AnySensor.createTelemetry_fst]
    exact ⟨rfl, hid.trans (hs.getId k), htype.trans (hs.getType k), rfl, rfl⟩
  -- only what the sensor keeps and the message matter from here on
  generalize ((s.nodes k).sensor.collectData sample).2 = collected at h hid htype hgenuine
  have hacc := acceptsTelemetry_serializeTelemetry hgenuine.messageType
  subst h
  exact {
    getId := fun j ↦ by
      rcases eq_or_ne j k with rfl | hj
      · simp only [Function.update_self, AnySensor.getId_createTelemetry]
        exact hid.trans (hs.getId j)
      · simp only [Function.update_of_ne hj]
        exact hs.getId j
    getType := fun j ↦ by
      rcases eq_or_ne j k with rfl | hj
      · simp only [Function.update_self, AnySensor.getType_createTelemetry]
        exact htype.trans (hs.getType j)
      · simp only [Function.update_of_ne hj]
        exact hs.getType j
    genuine := List.forall_mem_cons.mpr ⟨hgenuine, hs.genuine⟩
    sent := fun b hb ↦ by
      rcases Multiset.mem_cons.mp hb with hb | hb
      · exact .inl ⟨⟨k, (s.nodes k).sensor, sample, (collected.createTelemetry now).1⟩,
          List.mem_cons_self, hb⟩
      · rcases hs.sent b hb with ⟨t, ht, hbytes⟩ | hheartbeat
        · exact .inl ⟨t, List.mem_cons_of_mem _ ht, hbytes⟩
        · exact .inr hheartbeat
    notThrown := hs.notThrown
    noUnknownType := hs.noUnknownType
    registered := hs.registered
    telemetry := fun id hid ↦ by
      obtain ⟨info, hlookup, t, ht, htick⟩ := hs.telemetry id hid
      exact ⟨info, hlookup, t, List.mem_cons_of_mem _ ht, htick⟩
    health := hs.health
    telemetryCount := fun hdup ↦ by
      have hcount := hs.telemetryCount hdup
      rw [Multiset.countP_cons_of_pos _ hacc, List.length_cons]
      exact Nat.succ_le_succ hcount
    heartbeatCount := fun hdup ↦ by
      rw [Multiset.countP_cons_of_neg _ (not_acceptsHeartbeat hacc)]
      exact hs.heartbeatCount hdup }

theorem invariant_sendHeartbeat (hs : Invariant nodes s) (k : ι) (now : UInt64) {s' : State ι}
    (h : step s (.sendHeartbeat k now) = some s') : Invariant nodes s' := by
  have hbytes : (s.nodes k).sendHeartbeat now = PacketSerializer.serializeHeartbeat
      ⟨⟨.heartbeat, (nodes k).sensor.getId, now⟩⟩ := by
    rw [SensorNode.sendHeartbeat, hs.getId k]
  have hacc : AcceptsHeartbeat ((s.nodes k).sendHeartbeat now) :=
    acceptsHeartbeat_serializeHeartbeat rfl
  have hnot : ¬ AcceptsTelemetry ((s.nodes k).sendHeartbeat now) :=
    not_acceptsTelemetry_serializeHeartbeat rfl
  cases h
  exact { hs with
    sent := fun b hb ↦ by
      rcases Multiset.mem_cons.mp hb with rfl | hb
      · exact .inr ⟨k, List.mem_cons_self, now, hbytes⟩
      · rcases hs.sent b hb with htick | ⟨j, hj, hheartbeat⟩
        · exact .inl htick
        · exact .inr ⟨j, List.mem_cons_of_mem _ hj, hheartbeat⟩
    health := fun id info hlookup hhealth ↦ by
      obtain ⟨j, hj, hid⟩ := hs.health id info hlookup hhealth
      exact ⟨j, List.mem_cons_of_mem _ hj, hid⟩
    telemetryCount := fun hdup ↦ by
      rw [Multiset.countP_cons_of_neg _ hnot]
      exact hs.telemetryCount hdup
    heartbeatCount := fun hdup ↦ by
      have hcount := hs.heartbeatCount hdup
      rw [Multiset.countP_cons_of_pos _ hacc, List.length_cons]
      exact Nat.succ_le_succ hcount }

theorem invariant_lose (hs : Invariant nodes s) (b : ByteString) {s' : State ι}
    (h : step s (.lose b) = some s') : Invariant nodes s' := by
  obtain ⟨-, rfl⟩ := Runs.of_guard h
  exact { hs with
    sent := fun c hc ↦ hs.sent c (Multiset.mem_of_mem_erase hc)
    telemetryCount := fun hdup ↦ add_countP_erase_le (hs.telemetryCount hdup)
    heartbeatCount := fun hdup ↦ add_countP_erase_le (hs.heartbeatCount hdup) }

theorem invariant_duplicate (hs : Invariant nodes s) (b : ByteString) {s' : State ι}
    (h : step s (.duplicate b) = some s') : Invariant nodes s' := by
  obtain ⟨hb, rfl⟩ := Runs.of_guard h
  exact { hs with
    sent := fun c hc ↦ by
      rcases Multiset.mem_cons.mp hc with rfl | hc
      · exact hs.sent c hb
      · exact hs.sent c hc
    telemetryCount := fun hdup ↦ by cases hdup
    heartbeatCount := fun hdup ↦ by cases hdup }

theorem invariant_deliver (hs : Invariant nodes s) (b : ByteString) (now : UInt64)
    {s' : State ι} (h : step s (.deliver b now) = some s') : Invariant nodes s' := by
  by_cases hb : b ∈ s.inFlight
  · rcases hs.sent b hb with ⟨t, ht, hbytes⟩ | ⟨k, hk, time, hbytes⟩
    · have htype := (hs.genuine t ht).messageType
      have hhandle : s.gateway.handlePacket now b =
          .ok (s.gateway.updateSensorInfo now t.message) := by
        rw [hbytes, handlePacket_serializeTelemetry htype]
      have hacc : AcceptsTelemetry b := by
        rw [hbytes]
        exact acceptsTelemetry_serializeTelemetry htype
      have hheader : Wire.header b = t.message.header := by
        rw [hbytes, Wire.header_serializeTelemetry]
      simp only [step, hb, if_true, hhandle, Option.some.injEq] at h
      subst h
      exact invariant_deliver_telemetry hs ht hb hacc hheader now
    · have hhandle : s.gateway.handlePacket now b = .ok (s.gateway.handleHeartbeat now
          ⟨⟨.heartbeat, (nodes k).sensor.getId, time⟩⟩) := by
        rw [hbytes, handlePacket_serializeHeartbeat rfl]
      have hacc : AcceptsHeartbeat b := by
        rw [hbytes]
        exact acceptsHeartbeat_serializeHeartbeat rfl
      simp only [step, hb, if_true, hhandle, Option.some.injEq] at h
      subst h
      exact invariant_deliver_heartbeat hs hk rfl hb hacc now
  · simp [step, hb] at h

theorem invariant_detectOfflineSensors (hs : Invariant nodes s) (now : UInt64) {s' : State ι}
    (h : step s (.detectOfflineSensors now) = some s') : Invariant nodes s' := by
  have hold : ∀ id info, (s.gateway.detectOfflineSensors now).sensors.lookup id = some info →
      ∃ old, s.gateway.sensors.lookup id = some old ∧ checkSensor now old = info := by
    intro id info hlookup
    rw [lookup_detectOfflineSensors, entryStep] at hlookup
    exact Option.map_eq_some_iff.mp hlookup
  cases h
  exact { hs with
    noUnknownType := fun hmem ↦ by
      rcases List.mem_append.mp hmem with hmem | hmem
      · exact hs.noUnknownType hmem
      · obtain ⟨e, -, he⟩ := List.mem_map.mp hmem
        exact offlineMessage_ne_unknownMessageType e.1 he
    registered := fun id info hlookup ↦ by
      obtain ⟨old, hlookup, -⟩ := hold id info hlookup
      exact hs.registered id old hlookup
    telemetry := fun id hid ↦ by
      obtain ⟨info, hlookup, t, ht, htid, hmessage⟩ := hs.telemetry id hid
      have hkept : (checkSensor now info).lastTelemetry = info.lastTelemetry :=
        congrArg Prod.fst (received_checkSensor now info)
      refine ⟨checkSensor now info, ?_, t, ht, htid, hkept.trans hmessage⟩
      rw [lookup_detectOfflineSensors, hlookup]
      rfl
    health := fun id info hlookup hhealth ↦ by
      obtain ⟨old, hold, rfl⟩ := hold id info hlookup
      refine hs.health id old hold fun hunknown ↦ hhealth ?_
      have hcheck := congrArg Beat.health (beat_checkSensor now old)
      simpa [beat, hunknown] using hcheck
    telemetryCount := hs.telemetryCount
    heartbeatCount := hs.heartbeatCount }

theorem invariant_step (e : Event ι) {s' : State ι} (hs : Invariant nodes s)
    (h : step s e = some s') : Invariant nodes s' := by
  cases e with
  | tick k sample now => exact invariant_tick hs k sample now h
  | sendHeartbeat k now => exact invariant_sendHeartbeat hs k now h
  | lose b => exact invariant_lose hs b h
  | duplicate b => exact invariant_duplicate hs b h
  | deliver b now => exact invariant_deliver hs b now h
  | detectOfflineSensors now => exact invariant_detectOfflineSensors hs now h

end Steps

/-- With distinct ids the record of a sensor's id is that of its node. -/
theorem Invariant.traceable {nodes : ι → SensorNode} {s : State ι} (hs : Invariant nodes s)
    (hids : Function.Injective fun k ↦ (nodes k).sensor.getId) : Traceable nodes s where
  notThrown := hs.notThrown
  noUnknownType := hs.noUnknownType
  registered id hid := by
    obtain ⟨info, hlookup⟩ := AList.mem_iff_lookup_eq_some.mp hid
    exact hs.registered id info hlookup
  telemetry k hk := by
    obtain ⟨info, hlookup, t, ht, htid, hmessage⟩ := hs.telemetry _ hk
    have hgenuine := hs.genuine t ht
    exact ⟨info, hlookup, t, ht, hids (hgenuine.sensorId.symm.trans htid), hmessage, hgenuine⟩
  health k info hlookup hhealth := by
    obtain ⟨j, hj, hid⟩ := hs.health _ info hlookup hhealth
    exact hids hid ▸ hj
  counters hdup :=
    ⟨(Nat.le_add_right _ _).trans (hs.telemetryCount hdup),
      (Nat.le_add_right _ _).trans (hs.heartbeatCount hdup)⟩

/-- In every reachable state the Gateway's data goes back to the nodes. -/
theorem traceable_of_run [DecidableEq ι] (nodes : ι → SensorNode)
    (hids : Function.Injective fun k ↦ (nodes k).sensor.getId) (events : List (Event ι))
    (s : State ι) (hrun : Runs.run step (start nodes) events = some s) : Traceable nodes s :=
  (Runs.invariant_run (fun _ e _ hs h ↦ invariant_step e hs h) (invariant_start nodes)
    hrun).traceable hids

def twoNodes : Bool → SensorNode
  | true => { sensor := .motion (MotionSensor.new 1) }
  | false => { sensor := .battery (BatterySensor.new 2) }

theorem twoNodes_injective : Function.Injective fun k ↦ (twoNodes k).sensor.getId := by
  intro j k h
  cases j <;> cases k
  · rfl
  · cases (show (2 : UInt32) = 1 from h)
  · cases (show (1 : UInt32) = 2 from h)
  · rfl

def motionPacket : ByteString := ((twoNodes true).tick ⟨4606281698874543309⟩ 1000).2.1
def batteryHeartbeat : ByteString := (twoNodes false).sendHeartbeat 1001

def twoNodesRun : List (Event Bool) :=
  [.tick true ⟨4606281698874543309⟩ 1000, .sendHeartbeat false 1001, .duplicate motionPacket,
    .deliver batteryHeartbeat 1002, .deliver motionPacket 1003, .detectOfflineSensors 1004,
    .lose motionPacket]

theorem twoNodesRun_possible : (Runs.run step (start twoNodes) twoNodesRun).isSome = true := by
  decide +kernel

theorem traceable_of_run_two_nodes :
    ∃ s, Runs.run step (start twoNodes) twoNodesRun = some s ∧ Traceable twoNodes s := by
  obtain ⟨s, hrun⟩ := Option.isSome_iff_exists.mp twoNodesRun_possible
  exact ⟨s, hrun, traceable_of_run twoNodes twoNodes_injective twoNodesRun s hrun⟩

end SmartSensorNetwork.Provenance
