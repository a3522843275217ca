import SmartSensorNetwork.Network.TcpSession

/-!
# The sensor that is not found

Whether a sensor exists is decided twice for one `get` request: the answer
looks the id up, the log compares it with the number of sensors.
-/

namespace SmartSensorNetwork.TcpServer

open CppStd

def notFoundLine (id : UInt32) : ByteString :=
  ascii "[TCP] Sensor " ++ CppStd.to_string id.toNat ++ ascii " not found"

/-- What one request hands to the logger. -/
def logged (server : TcpServer) (i : Instant) (request : ByteString) : List ByteString :=
  ((processRequest i request).run server).2.logger.drop server.logger.length

def response (server : TcpServer) (i : Instant) (request : ByteString) : ByteString :=
  ((processRequest i request).run server).1

structure LogAgrees (server : TcpServer) (i : Instant) (request : ByteString) (id : UInt32) :
    Prop where
  logged_iff : notFoundLine id ∈ logged server i request ↔ id ∉ i.gateway.sensors
  answered_iff : response server i request = Monitor.sensorNotFound ↔ id ∉ i.gateway.sensors

/-! ## One request -/

/-- `get ` and an argument that `parseId` accepts. -/
structure Asks (request : ByteString) (id : UInt32) : Prop where
  get : (ascii "get ").isPrefixOf (normalize request)
  parsed : parseId (normalize request) = .ok id

theorem Asks.ne_word {request : ByteString} {id : UInt32} (h : Asks request id)
    {word : ByteString} (hword : (ascii "get ").isPrefixOf word = false) :
    normalize request ≠ word := by
  rintro rfl
  exact absurd h.get (Bool.eq_false_iff.mp hword)

theorem processRequest_of_asks {request : ByteString} {id : UInt32} (h : Asks request id)
    (server : TcpServer) (i : Instant) :
    (processRequest i request).run server = ((Monitor.sensorDetails id).eval i,
      { server with
        lastCommand := normalize request
        logger := server.logger ++ (ascii "[TCP] Command: " ++ normalize request) ::
          if i.gateway.sensors.size < id.toNat then [notFoundLine id] else [] }) := by
  unfold processRequest
  simp only [StateT.run_bind]
  rw [if_neg (h.ne_word rfl), if_neg (h.ne_word rfl), if_neg (h.ne_word rfl),
    if_neg (h.ne_word rfl), if_pos h.get, h.parsed]
  have hsize : i.gateway.getSensors.size = i.gateway.sensors.size := rfl
  by_cases hlt : i.gateway.sensors.size < id.toNat
  · simp only [hsize, hlt, if_true]
    refine Prod.ext rfl (congrArg (fun lines ↦
      { server with lastCommand := normalize request, logger := lines }) ?_)
    exact List.append_assoc ..
  · simp only [hsize, hlt, if_false]
    rfl

theorem sensorDetails_eq_sensorNotFound_iff (i : Instant) (id : UInt32) :
    (Monitor.sensorDetails id).eval i = Monitor.sensorNotFound ↔ id ∉ i.gateway.sensors := by
  rw [sensorDetails_eval]
  constructor
  · intro hanswer hid
    have hquery : Query.sensor i.gateway.sensors id = .notFound :=
      (answer_prefixFree i).injective hanswer
    rw [Query.sensor, dif_pos hid] at hquery
    cases hquery
  · intro hid
    rw [Query.sensor, dif_neg hid]
    rfl

theorem command_ne_notFoundLine (req : ByteString) (id : UInt32) :
    ascii "[TCP] Command: " ++ req ≠ notFoundLine id := by
  intro h
  have hletter : some (67 : UInt8) = some 83 := congrArg (·[6]?) h
  simp at hletter

theorem notFoundLine_mem_logged_iff {request : ByteString} {id : UInt32} (h : Asks request id)
    (server : TcpServer) (i : Instant) :
    notFoundLine id ∈ logged server i request ↔ i.gateway.sensors.size < id.toNat := by
  have hcommand := (command_ne_notFoundLine (normalize request) id).symm
  rw [logged, processRequest_of_asks h, List.drop_left, List.mem_cons, or_iff_right hcommand]
  split_ifs with hsize <;> simp [hsize]

/-! ## The log and the answer -/

/-- The log agrees with the answer exactly when the id is registered and at
most the number of sensors, or is not registered and exceeds it. -/
theorem logAgrees_iff {request : ByteString} {id : UInt32} (h : Asks request id)
    (server : TcpServer) (i : Instant) :
    LogAgrees server i request id ↔
      id ∈ i.gateway.sensors ∧ id.toNat ≤ i.gateway.sensors.size ∨
        id ∉ i.gateway.sensors ∧ i.gateway.sensors.size < id.toNat := by
  have hlogged := notFoundLine_mem_logged_iff h server i
  have hanswered : response server i request = Monitor.sensorNotFound ↔
      id ∉ i.gateway.sensors := by
    rw [response, processRequest_of_asks h]
    exact sensorDetails_eq_sensorNotFound_iff i id
  constructor
  · intro hagrees
    have hsize := hlogged.symm.trans hagrees.logged_iff
    by_cases hid : id ∈ i.gateway.sensors
    · exact .inl ⟨hid, Nat.le_of_not_lt fun hlt ↦ hsize.mp hlt hid⟩
    · exact .inr ⟨hid, hsize.mpr hid⟩
  · rintro (⟨hid, hle⟩ | ⟨hid, hlt⟩)
    · exact ⟨hlogged.trans (iff_of_false (Nat.not_lt.mpr hle) (not_not.mpr hid)), hanswered⟩
    · exact ⟨hlogged.trans (iff_of_true hlt hid), hanswered⟩

def heardSeven : Gateway :=
  ({} : Gateway).run
    [(.handlePacket (PacketSerializer.serializeHeartbeat ⟨⟨.heartbeat, 7, 0⟩⟩), 1000)]

theorem asks_seven : Asks (ascii "get 7") 7 := ⟨by decide, by decide⟩

/-- An empty registry, as in the test. -/
theorem logAgrees_empty :
    LogAgrees {} ⟨{}, 0⟩ (ascii "get 7") 7 ↔
      7 ∈ ({} : Gateway).sensors ∧ (7 : UInt32).toNat ≤ ({} : Gateway).sensors.size ∨
        7 ∉ ({} : Gateway).sensors ∧ ({} : Gateway).sensors.size < (7 : UInt32).toNat :=
  logAgrees_iff asks_seven {} ⟨{}, 0⟩

/-- Sensor 7 alone is registered: the log says that it is not found, and the
answer is its report. -/
theorem found_sensor_logged_as_missing :
    Asks (ascii "get 7") 7 ∧ ¬ LogAgrees {} ⟨heardSeven, 1001⟩ (ascii "get 7") 7 := by
  refine ⟨asks_seven, fun h ↦ ?_⟩
  have hlogged := (notFoundLine_mem_logged_iff asks_seven {} ⟨heardSeven, 1001⟩).mpr (by decide)
  exact h.logged_iff.mp hlogged (by decide)

end SmartSensorNetwork.TcpServer
