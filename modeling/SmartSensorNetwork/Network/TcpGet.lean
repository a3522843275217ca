import SmartSensorNetwork.Network.TcpSession

/-!
# The ids that `get` can name

The registry holds any 32-bit id from the wire; a request names an id through
`std::stoi`, whose result is a signed 32-bit integer, and a sign test.
-/

namespace SmartSensorNetwork.TcpServer

open CppStd

def getRequest (id : UInt32) (lineEnd : ByteString) : ByteString :=
  ascii "get " ++ CppStd.to_string id.toNat ++ lineEnd

theorem normalize_append_of_lineEnd {lineEnd : ByteString} (h : ∀ b ∈ lineEnd, isLineEnd b)
    (s : ByteString) : normalize (s ++ lineEnd) = normalize s := by
  induction lineEnd using List.reverseRecOn with
  | nil => rw [List.append_nil]
  | append_singleton bs b ih =>
      have hb : isLineEnd b := h b (by simp)
      have hrest := ih fun c hc ↦ h c (List.mem_append_left _ hc)
      rw [← List.append_assoc, normalize, List.rdropWhile_concat_pos _ _ _ hb]
      exact hrest

theorem normalize_get (argument : ByteString) :
    normalize (ascii "get " ++ argument) = ascii "get " ++ normalize argument := by
  have hsplit : ascii "get " ++ argument =
      (ascii "get " ++ normalize argument) ++ argument.rtakeWhile isLineEnd := by
    rw [List.append_assoc, normalize, List.rdropWhile_append_rtakeWhile]
  rw [hsplit, normalize_append_of_lineEnd fun b hb ↦ List.mem_rtakeWhile_imp hb]
  refine List.rdropWhile_eq_self_iff.mpr fun hne ↦ ?_
  by_cases hnil : normalize argument = []
  · have hblank : ¬ isLineEnd 32 := by decide
    simp only [hnil]
    exact hblank
  · rw [List.getLast_append_of_ne_nil hne hnil]
    exact List.rdropWhile_last_not isLineEnd argument hnil

theorem normalize_to_string (n : ℕ) : normalize (CppStd.to_string n) = CppStd.to_string n := by
  refine List.rdropWhile_eq_self_iff.mpr fun hne ↦ ?_
  have hdigit := isdigit_of_mem_to_string (List.getLast_mem hne)
  simp only [isdigit, isLineEnd, Bool.and_eq_true, decide_eq_true_eq] at hdigit ⊢
  grind

theorem substr_get (argument : ByteString) :
    substr (ascii "get " ++ argument) 4 = .ok argument := by
  have hlength : ¬ (ascii "get " ++ argument).length < 4 := by
    have hget : (ascii "get ").length = 4 := rfl
    rw [List.length_append, hget]
    omega
  rw [substr, if_neg hlength]
  rfl

/-- Reading the argument back fails for 0 and from `2 ^ 31` on. -/
theorem parseId_get (n : ℕ) :
    parseId (ascii "get " ++ CppStd.to_string n) =
      if intMax < (n : ℤ) then .error (.outOfRange "stoi")
      else if n = 0 then .error (.invalidArgument "Invalid sensor id")
      else .ok (UInt32.ofNat n) := by
  simp only [parseId, substr_get, bind, Except.bind, stoi_to_string]
  by_cases hmax : intMax < (n : ℤ)
  · rw [if_neg (not_le.mpr hmax), if_pos hmax]
  · rw [if_pos (not_lt.mp hmax), if_neg hmax]
    by_cases hzero : n = 0
    · subst hzero
      rfl
    · have hpos : ¬ (n : ℤ) ≤ 0 := by omega
      simp only [hpos, hzero, if_false, Int.toNat_natCast]
      rfl

theorem query_get (sensors : Registry) (argument : ByteString) :
    query sensors (ascii "get " ++ argument) =
      match parseId (ascii "get " ++ normalize argument) with
      | .ok id => .sensor sensors id
      | .error _ => .invalid := by
  have hword : ∀ word : ByteString, word.head? ≠ some 103 →
      ascii "get " ++ normalize argument ≠ word := by
    intro word hhead heq
    apply hhead
    rw [← heq]
    rfl
  have hget : (ascii "get ").isPrefixOf (ascii "get " ++ normalize argument) := by
    rw [List.isPrefixOf_iff_prefix]
    exact List.prefix_append _ _
  have hhelp := hword (ascii "help") (by decide)
  have hlist := hword (ascii "list") (by decide)
  have hhealth := hword (ascii "health") (by decide)
  have hstats := hword (ascii "stats") (by decide)
  cases hparse : parseId (ascii "get " ++ normalize argument) with
  | ok id =>
      simp only [query, normalize_get, hhelp, hlist, hhealth, hstats, hget, hparse, if_true,
        if_false]
  | error e =>
      simp only [query, normalize_get, hhelp, hlist, hhealth, hstats, hget, hparse, if_true,
        if_false]

theorem query_getRequest {lineEnd : ByteString} (h : ∀ b ∈ lineEnd, isLineEnd b)
    (sensors : Registry) (id : UInt32) :
    query sensors (getRequest id lineEnd) =
      if id = 0 ∨ 2147483647 < id.toNat then .invalid else .sensor sensors id := by
  have hzero : id = 0 ↔ id.toNat = 0 := UInt32.toNat_inj.symm
  have hmax : intMax < (id.toNat : ℤ) ↔ 2147483647 < id.toNat := by
    simp only [intMax]
    omega
  rw [getRequest, List.append_assoc, query_get, normalize_append_of_lineEnd h,
    normalize_to_string, parseId_get]
  by_cases hlarge : 2147483647 < id.toNat
  · simp [hmax.mpr hlarge, hlarge]
  · by_cases hid : id = 0
    · subst hid
      rfl
    · have hnotmax : ¬ intMax < (id.toNat : ℤ) := fun h ↦ hlarge (hmax.mp h)
      simp [hnotmax, hlarge, hid, mt hzero.mpr hid]

def getResponse (server : TcpServer) (i : Instant) (id : UInt32) (lineEnd : ByteString) :
    ByteString :=
  ((processRequest i (getRequest id lineEnd)).run server).1

theorem getResponse_eq {lineEnd : ByteString} (h : ∀ b ∈ lineEnd, isLineEnd b)
    (server : TcpServer) (i : Instant) (id : UInt32) :
    getResponse server i id lineEnd =
      if id = 0 ∨ 2147483647 < id.toNat then invalidSensorId
      else (Monitor.sensorDetails id).eval i := by
  rw [getResponse, processRequest_fst, query_getRequest h, sensorDetails_eval]
  split <;> rfl

theorem sensorDetails_of_lookup {i : Instant} {id : UInt32} {info : SensorInfo}
    (h : i.gateway.sensors.lookup id = some info) :
    (Monitor.sensorDetails id).eval i =
      Monitor.detailsText id info (i.gateway.getSecondsSinceLastHeartbeat i.clock id) := by
  simp [Monitor.sensorDetails, Monitor.getSensors, Gateway.getSensors, h,
    Monitor.getSecondsSinceLastHeartbeat]

theorem sensorDetails_ne_invalid (i : Instant) (id : UInt32) :
    (Monitor.sensorDetails id).eval i ≠ invalidSensorId := by
  rw [sensorDetails_eval]
  intro h
  have hquery : Query.sensor i.gateway.sensors id = .invalid := (answer_prefixFree i).injective h
  rw [Query.sensor] at hquery
  split at hquery <;> cases hquery

/-- What `get` answers for the ids that a positive `int` can hold, and for 0. -/
structure GetAnswers (server : TcpServer) (i : Instant) (id : UInt32) (lineEnd : ByteString) :
    Prop where
  registered : 1 ≤ id.toNat → id.toNat ≤ 2147483647 → ∀ info,
    i.gateway.sensors.lookup id = some info →
    getResponse server i id lineEnd = (Monitor.sensorDetails id).eval i ∧
      getResponse server i id lineEnd =
        Monitor.detailsText id info (i.gateway.getSecondsSinceLastHeartbeat i.clock id)
  unregistered : 1 ≤ id.toNat → id.toNat ≤ 2147483647 → id ∉ i.gateway.sensors →
    getResponse server i id lineEnd = Monitor.sensorNotFound
  valid : 1 ≤ id.toNat → id.toNat ≤ 2147483647 →
    getResponse server i id lineEnd ≠ invalidSensorId
  zero : id = 0 → getResponse server i id lineEnd = invalidSensorId

theorem get_answers (server : TcpServer) (i : Instant) (id : UInt32) (lineEnd : ByteString)
    (hlineEnd : ∀ b ∈ lineEnd, isLineEnd b) : GetAnswers server i id lineEnd := by
  have hresponse := getResponse_eq hlineEnd server i id
  have hpositive : 1 ≤ id.toNat → id.toNat ≤ 2147483647 →
      getResponse server i id lineEnd = (Monitor.sensorDetails id).eval i := by
    intro hone hmax
    have hid : ¬ (id = 0 ∨ 2147483647 < id.toNat) := by
      rintro (rfl | hlarge)
      · exact absurd hone (by decide)
      · omega
    rw [hresponse, if_neg hid]
  exact {
    registered := fun hone hmax info hlookup ↦
      ⟨hpositive hone hmax, (hpositive hone hmax).trans (sensorDetails_of_lookup hlookup)⟩
    unregistered := fun hone hmax hid ↦ by
      rw [hpositive hone hmax, sensorDetails_eval, Query.sensor, dif_neg hid]
      rfl
    valid := fun hone hmax ↦ by
      rw [hpositive hone hmax]
      exact sensorDetails_ne_invalid i id
    zero := fun hid ↦ by rw [hresponse, if_pos (.inl hid)] }

def heardLargest : Gateway :=
  ({} : Gateway).run
    [(.handlePacket (PacketSerializer.serializeHeartbeat ⟨⟨.heartbeat, 2147483647, 0⟩⟩), 1000)]

/-- The largest id, with a carriage return and a line feed: before the sensor
is heard, and three seconds after. -/
theorem get_answers_max :
    getResponse {} ⟨{}, 0⟩ 2147483647 [13, 10] = Monitor.sensorNotFound ∧
      getResponse {} ⟨heardLargest, 4000⟩ 2147483647 [13, 10] =
        Monitor.detailsText 2147483647 ⟨.zero, 0, 1000, .online⟩ 3 := by
  have hlineEnd : ∀ b ∈ ([13, 10] : ByteString), isLineEnd b := by simp [isLineEnd]
  have hbefore := get_answers {} ⟨{}, 0⟩ 2147483647 [13, 10] hlineEnd
  have hafter := get_answers {} ⟨heardLargest, 4000⟩ 2147483647 [13, 10] hlineEnd
  constructor
  · exact hbefore.unregistered (by decide) (by decide) (by decide)
  · have hlookup : heardLargest.sensors.lookup 2147483647 = some ⟨.zero, 0, 1000, .online⟩ := by
      decide
    exact (hafter.registered (by decide) (by decide) _ hlookup).2

def heardEdges : Gateway :=
  ({} : Gateway).run
    [(.handlePacket (PacketSerializer.serializeHeartbeat ⟨⟨.heartbeat, 0, 0⟩⟩), 1000),
      (.handlePacket (PacketSerializer.serializeHeartbeat ⟨⟨.heartbeat, 2147483648, 0⟩⟩), 1001)]

/-- Both are registered, and both are refused as invalid. -/
theorem registered_ids_refused :
    (0 ∈ heardEdges.sensors ∧
      getResponse {} ⟨heardEdges, 1002⟩ 0 [10] = invalidSensorId ∧
      getResponse {} ⟨heardEdges, 1002⟩ 0 [10] ≠
        (Monitor.sensorDetails 0).eval ⟨heardEdges, 1002⟩) ∧
    2147483648 ∈ heardEdges.sensors ∧
      getResponse {} ⟨heardEdges, 1002⟩ 2147483648 [10] = invalidSensorId ∧
      getResponse {} ⟨heardEdges, 1002⟩ 2147483648 [10] ≠
        (Monitor.sensorDetails 2147483648).eval ⟨heardEdges, 1002⟩ := by
  have hlf : ∀ b ∈ ([10] : ByteString), isLineEnd b := by simp [isLineEnd]
  have hzero := getResponse_eq hlf {} ⟨heardEdges, 1002⟩ 0
  have hlarge := getResponse_eq hlf {} ⟨heardEdges, 1002⟩ 2147483648
  rw [if_pos (by decide)] at hzero hlarge
  refine ⟨⟨by decide, hzero, ?_⟩, by decide, hlarge, ?_⟩
  · rw [hzero]
    exact (sensorDetails_ne_invalid _ _).symm
  · rw [hlarge]
    exact (sensorDetails_ne_invalid _ _).symm

end SmartSensorNetwork.TcpServer
