import SmartSensorNetwork.Gateway.EntryMachine

/-!
# The registry is the replay of the accepted packets

What a finite run of calls leaves in a fresh Gateway is read off the list of
calls: which ids were ever accepted, the last telemetry packet and the last
heartbeat of each id, and the number of packets of each kind.
-/

namespace SmartSensorNetwork.Gateway

open CppStd

/-- The decoded message and the reading, if the call is an accepted telemetry
packet of sensor `id`. -/
def telemetryOf (id : UInt32) (call : Call × UInt64) :
    Option (TelemetryMessage Double × UInt64) :=
  match call.1 with
  | .handlePacket b =>
      if AcceptsTelemetry b ∧ (Wire.header b).sensorId = id then some (Wire.telemetry b, call.2)
      else none
  | _ => none

def heartbeatOf (id : UInt32) (call : Call × UInt64) : Option UInt64 :=
  match call.1 with
  | .handlePacket b =>
      if AcceptsHeartbeat b ∧ (Wire.header b).sensorId = id then some call.2 else none
  | _ => none

def lastTelemetry (id : UInt32) (calls : List (Call × UInt64)) :
    Option (TelemetryMessage Double × UInt64) :=
  (calls.filterMap (telemetryOf id)).getLast?

def lastHeartbeat (id : UInt32) (calls : List (Call × UInt64)) : Option UInt64 :=
  (calls.filterMap (heartbeatOf id)).getLast?

def AcceptedFrom (id : UInt32) (call : Call) : Prop :=
  ∃ b, call = .handlePacket b ∧ (AcceptsTelemetry b ∨ AcceptsHeartbeat b) ∧
    (Wire.header b).sensorId = id

def isTelemetry : Call → Bool
  | .handlePacket b => AcceptsTelemetry b
  | _ => false

def isHeartbeat : Call → Bool
  | .handlePacket b => AcceptsHeartbeat b
  | _ => false

/-- The fields of an entry that packets determine. -/
def received (info : SensorInfo) : TelemetryMessage Double × UInt64 × UInt64 :=
  (info.lastTelemetry, info.lastTelemetryReceivedTime, info.lastHeartbeatReceivedTime)

structure IsReplay (calls : List (Call × UInt64)) (gateway : Gateway) : Prop where
  keys : ∀ id, id ∈ gateway.sensors ↔ ∃ call ∈ calls, AcceptedFrom id call.1
  telemetry : ∀ id info, gateway.sensors.lookup id = some info →
    (info.lastTelemetry, info.lastTelemetryReceivedTime) =
      (lastTelemetry id calls).getD (.zero, 0)
  heartbeat : ∀ id info, gateway.sensors.lookup id = some info →
    info.lastHeartbeatReceivedTime = (lastHeartbeat id calls).getD 0
  telemetryPackets : gateway.telemetryPacketsReceived.toNat =
    (calls.countP fun call ↦ isTelemetry call.1) % 2 ^ 64
  heartbeatPackets : gateway.heartbeatPacketsReceived.toNat =
    (calls.countP fun call ↦ isHeartbeat call.1) % 2 ^ 64
  unaffected : ∀ call now, (∀ id, ¬ AcceptedFrom id call) →
    (∀ id, ((gateway.perform now call).sensors.lookup id).map received =
      (gateway.sensors.lookup id).map received) ∧
    (gateway.perform now call).telemetryPacketsReceived = gateway.telemetryPacketsReceived ∧
    (gateway.perform now call).heartbeatPacketsReceived = gateway.heartbeatPacketsReceived

/-! ## One call -/

theorem call_cases (call : Call) :
    (∃ b, call = .handlePacket b ∧ AcceptsTelemetry b ∧ ¬ AcceptsHeartbeat b ∧
      call.input = .telemetry (Wire.telemetry b)) ∨
    (∃ b, call = .handlePacket b ∧ ¬ AcceptsTelemetry b ∧ AcceptsHeartbeat b ∧
      call.input = .heartbeat (Wire.header b).sensorId) ∨
    ((∀ b, call = .handlePacket b → ¬ AcceptsTelemetry b ∧ ¬ AcceptsHeartbeat b) ∧
      (call.input = .scan ∨ call.input = .idle)) := by
  cases call with
  | handlePacket b =>
      by_cases htelemetry : AcceptsTelemetry b
      · exact .inl ⟨b, rfl, htelemetry, not_acceptsHeartbeat htelemetry,
          by simp [Call.input, htelemetry]⟩
      · by_cases hheartbeat : AcceptsHeartbeat b
        · exact .inr (.inl ⟨b, rfl, htelemetry, hheartbeat,
            by simp [Call.input, htelemetry, hheartbeat]⟩)
        · refine .inr (.inr ⟨?_, .inr (by simp [Call.input, htelemetry, hheartbeat])⟩)
          rintro b' ⟨⟩
          exact ⟨htelemetry, hheartbeat⟩
  | detectOfflineSensors => exact .inr (.inr ⟨by simp, .inl rfl⟩)
  | getSecondsSinceLastHeartbeat id => exact .inr (.inr ⟨by simp, .inr rfl⟩)

section Ignored

variable {call : Call} {now : UInt64}
  (h : ∀ b, call = .handlePacket b → ¬ AcceptsTelemetry b ∧ ¬ AcceptsHeartbeat b)

include h

theorem not_acceptedFrom_of_ignored (id : UInt32) : ¬ AcceptedFrom id call := by
  rintro ⟨b, rfl, hacc | hacc, -⟩
  · exact (h b rfl).1 hacc
  · exact (h b rfl).2 hacc

theorem telemetryOf_of_ignored (id : UInt32) : telemetryOf id (call, now) = none := by
  cases call with
  | handlePacket b => simp [telemetryOf, (h b rfl).1]
  | detectOfflineSensors => rfl
  | getSecondsSinceLastHeartbeat i => rfl

theorem heartbeatOf_of_ignored (id : UInt32) : heartbeatOf id (call, now) = none := by
  cases call with
  | handlePacket b => simp [heartbeatOf, (h b rfl).2]
  | detectOfflineSensors => rfl
  | getSecondsSinceLastHeartbeat i => rfl

theorem isTelemetry_of_ignored : isTelemetry call = false := by
  cases call with
  | handlePacket b => simp [isTelemetry, (h b rfl).1]
  | detectOfflineSensors => rfl
  | getSecondsSinceLastHeartbeat i => rfl

theorem isHeartbeat_of_ignored : isHeartbeat call = false := by
  cases call with
  | handlePacket b => simp [isHeartbeat, (h b rfl).2]
  | detectOfflineSensors => rfl
  | getSecondsSinceLastHeartbeat i => rfl

end Ignored

@[simp] theorem received_checkSensor (now : UInt64) (info : SensorInfo) :
    received (checkSensor now info) = received info := by
  by_cases h : goesOffline now info <;> simp [checkSensor, h, received]

theorem acceptedFrom_handlePacket {id : UInt32} {b : ByteString}
    (h : AcceptsTelemetry b ∨ AcceptsHeartbeat b) :
    AcceptedFrom id (.handlePacket b) ↔ (Wire.header b).sensorId = id := by
  constructor
  · rintro ⟨b', hb, -, hid⟩
    cases hb
    exact hid
  · exact fun hid ↦ ⟨b, rfl, h, hid⟩

theorem isSome_entryStep (id : UInt32) (now : UInt64) (entry : Option SensorInfo) (call : Call) :
    (entryStep id now entry call.input).isSome ↔ entry.isSome ∨ AcceptedFrom id call := by
  obtain ⟨b, rfl, hacc, -, hinput⟩ | ⟨b, rfl, -, hacc, hinput⟩ | ⟨hign, hinput⟩ :=
    call_cases call
  · rw [hinput, acceptedFrom_handlePacket (.inl hacc)]
    by_cases hid : (Wire.header b).sensorId = id <;> simp [entryStep, Wire.telemetry, hid]
  · rw [hinput, acceptedFrom_handlePacket (.inr hacc)]
    by_cases hid : (Wire.header b).sensorId = id <;> simp [entryStep, hid]
  · have hfrom := not_acceptedFrom_of_ignored hign id
    rcases hinput with hinput | hinput <;> rw [hinput] <;> simp [entryStep, hfrom]

/-- The packet half of an entry after a call. A missing entry counts as one
with default fields, so the two updates read the same in both cases. -/
theorem received_entryStep (id : UInt32) (now : UInt64) (entry : Option SensorInfo)
    (call : Call) :
    received ((entryStep id now entry call.input).getD {}) =
      (((telemetryOf id (call, now)).getD
          ((entry.getD {}).lastTelemetry, (entry.getD {}).lastTelemetryReceivedTime)).1,
        ((telemetryOf id (call, now)).getD
          ((entry.getD {}).lastTelemetry, (entry.getD {}).lastTelemetryReceivedTime)).2,
        (heartbeatOf id (call, now)).getD (entry.getD {}).lastHeartbeatReceivedTime) := by
  obtain ⟨b, rfl, hacc, hnot, hinput⟩ | ⟨b, rfl, hnot, hacc, hinput⟩ | ⟨hign, hinput⟩ :=
    call_cases call
  · rw [hinput]
    by_cases hid : (Wire.header b).sensorId = id <;>
      simp [entryStep, telemetryOf, heartbeatOf, received, Wire.telemetry, hacc, hnot, hid]
  · rw [hinput]
    by_cases hid : (Wire.header b).sensorId = id <;>
      simp [entryStep, telemetryOf, heartbeatOf, received, hacc, hnot, hid]
  · rw [telemetryOf_of_ignored hign, heartbeatOf_of_ignored hign]
    rcases hinput with hinput | hinput <;> rw [hinput]
    · cases entry with
      | none => rfl
      | some info => exact received_checkSensor now info
    · rfl

/-! ## Runs -/

theorem isSome_entryRun (id : UInt32) (calls : List (Call × UInt64)) :
    (entryRun id none calls).isSome ↔ ∃ call ∈ calls, AcceptedFrom id call.1 := by
  induction calls using List.reverseRecOn with
  | nil => simp
  | append_singleton calls call ih =>
      rw [entryRun_concat, isSome_entryStep, ih]
      constructor
      · rintro (⟨c, hc, hfrom⟩ | hfrom)
        · exact ⟨c, List.mem_append_left _ hc, hfrom⟩
        · exact ⟨call, by simp, hfrom⟩
      · rintro ⟨c, hc, hfrom⟩
        rcases List.mem_append.mp hc with hc | hc
        · exact .inl ⟨c, hc, hfrom⟩
        · exact .inr (List.mem_singleton.mp hc ▸ hfrom)

theorem getLast?_filterMap_concat {β γ : Type} (f : β → Option γ) (xs : List β) (x : β) :
    ((xs ++ [x]).filterMap f).getLast? = (f x).or (xs.filterMap f).getLast? := by
  cases hx : f x <;> simp [List.filterMap_append, hx]

theorem getD_or {β : Type} (o : Option β) (o' : Option β) (d : β) :
    (o.or o').getD d = o.getD (o'.getD d) := by
  cases o <;> rfl

theorem received_entryRun (id : UInt32) (calls : List (Call × UInt64)) :
    received ((entryRun id none calls).getD {}) =
      (((lastTelemetry id calls).getD (.zero, 0)).1, ((lastTelemetry id calls).getD (.zero, 0)).2,
        (lastHeartbeat id calls).getD 0) := by
  induction calls using List.reverseRecOn with
  | nil => rfl
  | append_singleton calls call ih =>
      have hfields := Prod.ext_iff.mp ih
      have hrest := Prod.ext_iff.mp hfields.2
      rw [entryRun_concat, received_entryStep, lastTelemetry, lastHeartbeat,
        getLast?_filterMap_concat, getLast?_filterMap_concat, getD_or, getD_or]
      simp only [received] at hfields hrest
      rw [hfields.1, hrest.1, hrest.2]
      rfl

theorem telemetryCount_input (call : Call) :
    telemetryCount call.input = (isTelemetry call).toNat := by
  obtain ⟨b, rfl, hacc, -, hinput⟩ | ⟨b, rfl, hnot, -, hinput⟩ | ⟨hign, hinput⟩ :=
    call_cases call
  · simp [hinput, telemetryCount, isTelemetry, hacc]
  · simp [hinput, telemetryCount, isTelemetry, hnot]
  · rw [isTelemetry_of_ignored hign]
    rcases hinput with hinput | hinput <;> rw [hinput] <;> rfl

theorem heartbeatCount_input (call : Call) :
    heartbeatCount call.input = (isHeartbeat call).toNat := by
  obtain ⟨b, rfl, -, hnot, hinput⟩ | ⟨b, rfl, -, hacc, hinput⟩ | ⟨hign, hinput⟩ :=
    call_cases call
  · simp [hinput, heartbeatCount, isHeartbeat, hnot]
  · simp [hinput, heartbeatCount, isHeartbeat, hacc]
  · rw [isHeartbeat_of_ignored hign]
    rcases hinput with hinput | hinput <;> rw [hinput] <;> rfl

theorem counter_run (counter : Gateway → UInt64) (p : Call → Bool)
    (hstep : ∀ gateway now call,
      counter (perform gateway now call) = counter gateway + UInt64.ofNat (p call).toNat)
    (hinit : counter {} = 0) (calls : List (Call × UInt64)) :
    (counter (({} : Gateway).run calls)).toNat = (calls.countP fun call ↦ p call.1) % 2 ^ 64 := by
  induction calls using List.reverseRecOn with
  | nil => simp [hinit]
  | append_singleton calls call ih =>
      have hbool : (UInt64.ofNat (p call.1).toNat).toNat = (p call.1).toNat := by
        cases p call.1 <;> rfl
      have hcount : [call].countP (fun call ↦ p call.1) = (p call.1).toNat := by
        cases hp : p call.1 <;> simp [hp]
      rw [run_concat, hstep, UInt64.toNat_add, hbool, ih, List.countP_append, hcount,
        Nat.mod_add_mod]

theorem telemetryPacketsReceived_run (calls : List (Call × UInt64)) :
    (({} : Gateway).run calls).telemetryPacketsReceived.toNat =
      (calls.countP fun call ↦ isTelemetry call.1) % 2 ^ 64 := by
  refine counter_run telemetryPacketsReceived isTelemetry (fun gateway now call ↦ ?_) rfl calls
  rw [telemetryPacketsReceived_perform, telemetryCount_input]

theorem heartbeatPacketsReceived_run (calls : List (Call × UInt64)) :
    (({} : Gateway).run calls).heartbeatPacketsReceived.toNat =
      (calls.countP fun call ↦ isHeartbeat call.1) % 2 ^ 64 := by
  refine counter_run heartbeatPacketsReceived isHeartbeat (fun gateway now call ↦ ?_) rfl calls
  rw [heartbeatPacketsReceived_perform, heartbeatCount_input]

theorem perform_of_not_accepted (gateway : Gateway) (now : UInt64) {call : Call}
    (h : ∀ id, ¬ AcceptedFrom id call) :
    (∀ id, ((gateway.perform now call).sensors.lookup id).map received =
      (gateway.sensors.lookup id).map received) ∧
    (gateway.perform now call).telemetryPacketsReceived = gateway.telemetryPacketsReceived ∧
    (gateway.perform now call).heartbeatPacketsReceived = gateway.heartbeatPacketsReceived := by
  obtain ⟨b, rfl, hacc, -, -⟩ | ⟨b, rfl, -, hacc, -⟩ | ⟨hign, hinput⟩ := call_cases call
  · exact absurd ((acceptedFrom_handlePacket (.inl hacc)).mpr rfl) (h _)
  · exact absurd ((acceptedFrom_handlePacket (.inr hacc)).mpr rfl) (h _)
  · refine ⟨fun id ↦ ?_, ?_, ?_⟩
    · rw [lookup_perform]
      rcases hinput with hinput | hinput <;> rw [hinput] <;>
        cases gateway.sensors.lookup id <;> simp [entryStep]
    · rw [telemetryPacketsReceived_perform, telemetryCount_input, isTelemetry_of_ignored hign]
      simp
    · rw [heartbeatPacketsReceived_perform, heartbeatCount_input, isHeartbeat_of_ignored hign]
      simp

/-- After any finite run of calls on a fresh Gateway, the registry and the
counters are the replay of the packets that were accepted. -/
theorem registry_is_replay (calls : List (Call × UInt64)) :
    IsReplay calls (({} : Gateway).run calls) where
  keys id := by
    rw [← AList.lookup_isSome, lookup_run]
    exact isSome_entryRun id calls
  telemetry id info hlookup := by
    have hreceived := received_entryRun id calls
    rw [lookup_run] at hlookup
    rw [show entryRun id none calls = some info from hlookup, Option.getD_some] at hreceived
    exact congrArg (fun r ↦ (r.1, r.2.1)) hreceived
  heartbeat id info hlookup := by
    have hreceived := received_entryRun id calls
    rw [lookup_run] at hlookup
    rw [show entryRun id none calls = some info from hlookup, Option.getD_some] at hreceived
    exact congrArg (·.2.2) hreceived
  telemetryPackets := telemetryPacketsReceived_run calls
  heartbeatPackets := heartbeatPacketsReceived_run calls
  unaffected _ now h := perform_of_not_accepted _ now h

end SmartSensorNetwork.Gateway
