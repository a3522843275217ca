import SmartSensorNetwork.Gateway.Locality
import SmartSensorNetwork.Lib.CriticalSections

/-!
# Many threads, one mutex

The member functions statement by statement, as the threads of the program
interleave them. What parses a packet, reads the clock for a scan or reports
an unknown type runs without the mutex; the rest of a call is one critical
section.
-/

namespace SmartSensorNetwork.Gateway.Threads

open CppStd CriticalSections

inductive Member where
  | call (call : Call)
  | getSensors
  | getTelemetryPacketsReceived
  | getHeartbeatPacketsReceived

inductive Result where
  | returned
  | threw (e : Exception)
  | sensors (sensors : Registry)
  | number (n : UInt64)

abbrev Statements := Body Gateway UInt64 ByteString Result

/-! ## Statements -/

def load (k : Gateway → Statements) : Statements :=
  .act (fun _ gateway ↦ (gateway, [])) fun _ gateway ↦ k gateway

def store (f : UInt64 → Gateway → Gateway) (k : Statements) : Statements :=
  .act (fun now gateway ↦ (f now gateway, [])) fun _ _ ↦ k

def log (msg : ByteString) (k : Statements) : Statements :=
  .act (fun _ gateway ↦ (gateway, [msg])) fun _ _ ↦ k

/-- An assignment through the reference that `sensors[sensorId]` returned. -/
def assignInfo (sensorId : UInt32) (f : UInt64 → SensorInfo → SensorInfo) (k : Statements) :
    Statements :=
  store (fun now gateway ↦
    { gateway with sensors := gateway.sensors.modifyD sensorId {} (f now) }) k

/-- The increment reads the counter and writes it back. -/
def updateSensorInfo (message : TelemetryMessage Double) : Statements :=
  let sensorId := message.header.sensorId
  assignInfo sensorId (fun _ ↦ id) <|
  assignInfo sensorId (fun _ info ↦ { info with lastTelemetry := message }) <|
  assignInfo sensorId (fun now info ↦ { info with lastTelemetryReceivedTime := now }) <|
  load fun gateway ↦
  let count := gateway.telemetryPacketsReceived
  store (fun _ gateway ↦ { gateway with telemetryPacketsReceived := count + 1 }) <|
  .done .returned

def handleHeartbeat (message : HeartbeatMessage) : Statements :=
  let sensorId := message.header.sensorId
  assignInfo sensorId (fun _ ↦ id) <|
  assignInfo sensorId (fun now info ↦ { info with lastHeartbeatReceivedTime := now }) <|
  assignInfo sensorId (fun _ info ↦ { info with health := .online }) <|
  load fun gateway ↦
  let count := gateway.heartbeatPacketsReceived
  store (fun _ gateway ↦ { gateway with heartbeatPacketsReceived := count + 1 }) <|
  .done .returned

/-- `info.health = SensorHealth::OFFLINE;` in the loop, which holds a
reference to the entry of `id`. -/
def markOffline (id : UInt32) (gateway : Gateway) : Gateway :=
  match gateway.sensors.lookup id with
  | none => gateway
  | some info =>
      { gateway with sensors := gateway.sensors.replace id { info with health := .offline } }

def scanEntries (currentTime : UInt64) : List UInt32 → Statements
  | [] => .done .returned
  | id :: ids => load fun gateway ↦
      match gateway.sensors.lookup id with
      | none => scanEntries currentTime ids
      | some info =>
          if goesOffline currentTime info then
            store (fun _ gateway ↦ markOffline id gateway) <|
            log (offlineMessage id) <|
            scanEntries currentTime ids
          else scanEntries currentTime ids

def detectOfflineSensors (currentTime : UInt64) : Statements :=
  load fun gateway ↦ scanEntries currentTime gateway.sensors.keys

def getSecondsSinceLastHeartbeat (sensorId : UInt32) : Statements :=
  load fun gateway ↦
  match gateway.sensors.lookup sensorId with
  | none => .done (.number 0)
  | some info =>
      if info.lastHeartbeatReceivedTime = 0 then .done (.number 0)
      else .act (fun _ gateway ↦ (gateway, [])) fun now gateway ↦
        let info := (gateway.sensors.lookup sensorId).getD {}
        .done (.number ((now - info.lastHeartbeatReceivedTime) / 1000))

/-! ## Threads -/

/-- Between two statements of its own code, a thread is about to make a call
or has read the clock for a scan. -/
inductive Local (κ : Type) where
  | calling (l : κ)
  | scanning (currentTime : UInt64) (l : κ)

/-- A program decides from what its calls returned so far which one comes
next. -/
abbrev Program (κ : Type) := κ → Option (Member × (Result → κ))

variable {κ θ : Type}

abbrev ThreadAction (κ : Type) := Action Gateway UInt64 ByteString Result (Local κ)

def handlePacket (packet : ByteString) (k : Result → Local κ) : ThreadAction κ :=
  match PacketSerializer.peekMessageType packet with
  | .error e => .own fun _ ↦ ([], k (.threw e))
  | .ok type =>
      if type = .telemetry then
        match PacketSerializer.deserializeTelemetry packet with
        | .error e => .own fun _ ↦ ([], k (.threw e))
        | .ok msg => .enter (updateSensorInfo msg) k
      else if type = .heartbeat then
        match PacketSerializer.deserializeHeartbeat packet with
        | .error e => .own fun _ ↦ ([], k (.threw e))
        | .ok hb => .enter (handleHeartbeat hb) k
      else .own fun _ ↦ ([unknownMessageType], k .returned)

def action (program : Program κ) : Local κ → ThreadAction κ
  | .calling l =>
      match program l with
      | none => .halt
      | some (.call (.handlePacket packet), k) => handlePacket packet (.calling ∘ k)
      | some (.call .detectOfflineSensors, _) =>
          .own fun currentTime ↦ ([], .scanning currentTime l)
      | some (.call (.getSecondsSinceLastHeartbeat sensorId), k) =>
          .enter (getSecondsSinceLastHeartbeat sensorId) (.calling ∘ k)
      | some (.getSensors, k) =>
          .enter (load fun gateway ↦ .done (.sensors gateway.sensors)) (.calling ∘ k)
      | some (.getTelemetryPacketsReceived, k) =>
          .enter (load fun gateway ↦ .done (.number gateway.telemetryPacketsReceived))
            (.calling ∘ k)
      | some (.getHeartbeatPacketsReceived, k) =>
          .enter (load fun gateway ↦ .done (.number gateway.heartbeatPacketsReceived))
            (.calling ∘ k)
  | .scanning currentTime l =>
      match program l with
      | none => .halt
      | some (_, k) => .enter (detectOfflineSensors currentTime) (.calling ∘ k)

abbrev Config (κ θ : Type) :=
  CriticalSections.Config Gateway UInt64 ByteString Result (Local κ) θ

def init (start : θ → κ) : Config κ θ := CriticalSections.init {} fun t ↦ .calling (start t)

/-! ## One section -/

section Specs

variable {gateway gateway' : Gateway} {inputs : List UInt64} {r : Result} {out : List ByteString}

theorem ends_load {k : Gateway → Statements} :
    (load k).Ends gateway inputs r gateway' out ↔
      ∃ x xs, inputs = x :: xs ∧ (k gateway).Ends gateway xs r gateway' out := by
  simp [load, Body.ends_act]

theorem ends_store {f : UInt64 → Gateway → Gateway} {k : Statements} :
    (store f k).Ends gateway inputs r gateway' out ↔
      ∃ x xs, inputs = x :: xs ∧ k.Ends (f x gateway) xs r gateway' out := by
  simp [store, Body.ends_act]

theorem ends_log {msg : ByteString} {k : Statements} :
    (log msg k).Ends gateway inputs r gateway' out ↔
      ∃ x xs more, inputs = x :: xs ∧ k.Ends gateway xs r gateway' more ∧ out = msg :: more := by
  simp [log, Body.ends_act]

theorem ends_updateSensorInfo {message : TelemetryMessage Double}
    (h : (updateSensorInfo message).Ends gateway inputs r gateway' out) :
    ∃ now ∈ inputs, r = .returned ∧ gateway' = gateway.updateSensorInfo now message ∧ out = [] := by
  simp only [updateSensorInfo, assignInfo, ends_store, ends_load, Body.ends_done] at h
  obtain ⟨x₁, _, rfl, x₂, _, rfl, now, _, rfl, x₄, _, rfl, x₅, _, rfl, -, rfl, rfl, rfl⟩ := h
  refine ⟨now, by simp, rfl, ?_, rfl⟩
  have hwrites := modifyD_two_assignments gateway.sensors message.header.sensorId
    (fun info ↦ { info with lastTelemetry := message })
    (fun info ↦ { info with lastTelemetryReceivedTime := now })
  exact congrArg (fun sensors ↦ { gateway with
    sensors := sensors
    telemetryPacketsReceived := gateway.telemetryPacketsReceived + 1 }) hwrites

theorem ends_handleHeartbeat {message : HeartbeatMessage}
    (h : (handleHeartbeat message).Ends gateway inputs r gateway' out) :
    ∃ now ∈ inputs, r = .returned ∧ gateway' = gateway.handleHeartbeat now message ∧ out = [] := by
  simp only [handleHeartbeat, assignInfo, ends_store, ends_load, Body.ends_done] at h
  obtain ⟨x₁, _, rfl, now, _, rfl, x₃, _, rfl, x₄, _, rfl, x₅, _, rfl, -, rfl, rfl, rfl⟩ := h
  refine ⟨now, by simp, rfl, ?_, rfl⟩
  have hwrites := modifyD_two_assignments gateway.sensors message.header.sensorId
    (fun info ↦ { info with lastHeartbeatReceivedTime := now })
    (fun info ↦ { info with health := .online })
  exact congrArg (fun sensors ↦ { gateway with
    sensors := sensors
    heartbeatPacketsReceived := gateway.heartbeatPacketsReceived + 1 }) hwrites

theorem ends_getSecondsSinceLastHeartbeat {sensorId : UInt32}
    (h : (getSecondsSinceLastHeartbeat sensorId).Ends gateway inputs r gateway' out) :
    ∃ now ∈ inputs, r = .number (gateway.getSecondsSinceLastHeartbeat now sensorId) ∧
      gateway' = gateway ∧ out = [] := by
  rw [getSecondsSinceLastHeartbeat, ends_load] at h
  obtain ⟨x, xs, rfl, hrest⟩ := h
  cases hlookup : gateway.sensors.lookup sensorId with
  | none =>
      simp only [hlookup, Body.ends_done] at hrest
      obtain ⟨-, rfl, rfl, rfl⟩ := hrest
      refine ⟨x, by simp, ?_, rfl, rfl⟩
      simp [Gateway.getSecondsSinceLastHeartbeat, hlookup]
  | some info =>
      simp only [hlookup] at hrest
      by_cases hzero : info.lastHeartbeatReceivedTime = 0
      · rw [if_pos hzero, Body.ends_done] at hrest
        obtain ⟨-, rfl, rfl, rfl⟩ := hrest
        refine ⟨x, by simp, ?_, rfl, rfl⟩
        simp [Gateway.getSecondsSinceLastHeartbeat, hlookup, hzero]
      · rw [if_neg hzero, Body.ends_act] at hrest
        obtain ⟨now, _, _, rfl, hdone, rfl⟩ := hrest
        simp only [hlookup, Option.getD_some, Body.ends_done] at hdone
        obtain ⟨-, rfl, rfl, rfl⟩ := hdone
        refine ⟨now, by simp, ?_, rfl, rfl⟩
        simp [Gateway.getSecondsSinceLastHeartbeat, hlookup, hzero]

end Specs

/-! ### The loop of a scan -/

theorem markOffline_eq {gateway : Gateway} {pre post : List (Sigma fun _ : UInt32 ↦ SensorInfo)}
    {id : UInt32} {info : SensorInfo}
    (hentries : gateway.sensors.entries = pre ++ ⟨id, info⟩ :: post) :
    markOffline id gateway = { gateway with
      sensors := gateway.sensors.replace id { info with health := .offline } } := by
  have hlookup : gateway.sensors.lookup id = some info :=
    AList.mem_lookup_iff.mpr (by simp [hentries])
  rw [markOffline, hlookup]

theorem ends_scanEntries {currentTime : UInt64} {gateway gateway' : Gateway}
    {pre post : List (Sigma fun _ : UInt32 ↦ SensorInfo)} {inputs : List UInt64} {r : Result}
    {out : List ByteString} (hentries : gateway.sensors.entries = pre ++ post)
    (h : (scanEntries currentTime post.keys).Ends gateway inputs r gateway' out) :
    ∃ sensors : Registry,
      sensors.entries = pre ++ post.map (Sigma.map id fun _ ↦ checkSensor currentTime) ∧
      r = .returned ∧ gateway' = { gateway with sensors := sensors } ∧
      out = (post.filter fun e ↦ goesOffline currentTime e.2).map fun e ↦ offlineMessage e.1 := by
  induction post generalizing gateway pre inputs out with
  | nil =>
      obtain ⟨-, rfl, rfl, rfl⟩ := Body.ends_done.mp h
      exact ⟨gateway.sensors, hentries, rfl, rfl, rfl⟩
  | cons e post ih =>
      obtain ⟨id, info⟩ := e
      have hlookup : gateway.sensors.lookup id = some info :=
        AList.mem_lookup_iff.mpr (by simp [hentries])
      rw [List.keys_cons, scanEntries, ends_load] at h
      obtain ⟨x, xs, rfl, hrest⟩ := h
      simp only [hlookup] at hrest
      cases hgoes : goesOffline currentTime info with
      | true =>
          rw [if_pos hgoes, ends_store] at hrest
          obtain ⟨_, _, rfl, hlog⟩ := hrest
          obtain ⟨_, _, more, rfl, hlater, rfl⟩ := ends_log.mp hlog
          rw [markOffline_eq hentries] at hlater
          have hreplaced := AList.entries_replace hentries { info with health := .offline }
          obtain ⟨sensors, hsensors, rfl, rfl, rfl⟩ :=
            ih (hreplaced.trans (List.append_cons pre _ post)) hlater
          refine ⟨sensors, ?_, rfl, rfl, by simp [hgoes]⟩
          simp [hsensors, Sigma.map, checkSensor, hgoes]
      | false =>
          rw [if_neg (by simp [hgoes])] at hrest
          obtain ⟨sensors, hsensors, rfl, rfl, rfl⟩ :=
            ih (hentries.trans (List.append_cons pre _ post)) hrest
          refine ⟨sensors, ?_, rfl, rfl, by simp [hgoes]⟩
          simp [hsensors, Sigma.map, checkSensor, hgoes]

theorem ends_detectOfflineSensors {currentTime : UInt64} {gateway gateway' : Gateway}
    {inputs : List UInt64} {r : Result} {out : List ByteString}
    (h : (detectOfflineSensors currentTime).Ends gateway inputs r gateway' out) :
    r = .returned ∧
      gateway' = { gateway.detectOfflineSensors currentTime with logger := gateway.logger } ∧
      (gateway.detectOfflineSensors currentTime).logger = gateway.logger ++ out := by
  obtain ⟨_, _, rfl, hloop⟩ := ends_load.mp h
  obtain ⟨sensors, hsensors, rfl, rfl, rfl⟩ := ends_scanEntries (List.nil_append _).symm hloop
  have heq : sensors = gateway.sensors.mapValues fun _ info ↦ checkSensor currentTime info :=
    AList.ext hsensors
  exact ⟨rfl, by rw [heq]; rfl, rfl⟩

/-! ## One call -/

theorem handlePacket_eq (packet : ByteString) (k : Result → Local κ) :
    handlePacket packet k =
      if Rejects packet then .own fun _ ↦ ([], k (.threw PacketSerializer.bufferUnderflow))
      else if AcceptsTelemetry packet then .enter (updateSensorInfo (Wire.telemetry packet)) k
      else if AcceptsHeartbeat packet then .enter (handleHeartbeat (Wire.heartbeat packet)) k
      else .own fun _ ↦ ([unknownMessageType], k .returned) := by
  by_cases hheader : Wire.headerSize ≤ packet.length
  · obtain ⟨x, hx⟩ := exists_head (lt_of_lt_of_le (by decide) hheader)
    have hpeek : PacketSerializer.peekMessageType packet = .ok ⟨x⟩ := by
      rw [Wire.peekMessageType_eq, if_pos hheader, header_type hx]
    rw [handlePacket, hpeek]
    by_cases h1 : x = 1
    · subst h1
      simp only [show (⟨1⟩ : MessageType) = .telemetry from rfl, if_true]
      rw [Wire.deserializeTelemetry_eq]
      by_cases htelemetry : Wire.telemetrySize ≤ packet.length
      · have hacc : AcceptsTelemetry packet := ⟨htelemetry, hx⟩
        rw [if_pos htelemetry, if_neg hacc.not_rejects, if_pos hacc]
      · have hrej : Rejects packet := .inr ⟨by omega, hx⟩
        rw [if_neg htelemetry, if_pos hrej]
    · have hrej : ¬ Rejects packet := by simp [Rejects, hheader, hx, h1]
      have hacc : ¬ AcceptsTelemetry packet := by simp [AcceptsTelemetry, hx, h1]
      have htype : (⟨x⟩ : MessageType) ≠ .telemetry := by simp [MessageType.telemetry, h1]
      simp only [htype, if_false]
      rw [if_neg hrej, if_neg hacc, Wire.deserializeHeartbeat_eq, if_pos hheader]
      by_cases h2 : x = 2
      · have haccept : AcceptsHeartbeat packet := ⟨hheader, h2 ▸ hx⟩
        rw [if_pos haccept, if_pos (by rw [h2]; rfl)]
      · have haccept : ¬ AcceptsHeartbeat packet := by simp [AcceptsHeartbeat, hx, h2]
        have htype' : (⟨x⟩ : MessageType) ≠ .heartbeat := by simp [MessageType.heartbeat, h2]
        rw [if_neg haccept, if_neg htype']
  · have hrej : Rejects packet := .inl (by omega)
    have hpeek : PacketSerializer.peekMessageType packet =
        .error PacketSerializer.bufferUnderflow := by
      rw [Wire.peekMessageType_eq, if_neg hheader]
    rw [if_pos hrej, handlePacket, hpeek]

end SmartSensorNetwork.Gateway.Threads
