import SmartSensorNetwork.Lib.Throwing
import SmartSensorNetwork.Network.TcpGet
import SmartSensorNetwork.Network.TcpNotFound

/-!
# Requests and exceptions

`processRequest` again, with every call that can throw: `substr`, `stoi`,
`at`, and the calls of `back` that an empty string would make undefined. Only
`parseId` stands in a `try` block.
-/

namespace SmartSensorNetwork.TcpServer

open CppStd

/-- What a request can reach. -/
structure World where
  instant : Instant
  server : TcpServer
  deriving DecidableEq

abbrev Command := Throwing Exception World

namespace Command

open Throwing

def log (msg : ByteString) : Command Unit :=
  modify fun world ↦ { world with server := ((TcpServer.log msg).run world.server).2 }

def back (s : ByteString) : Except Exception UInt8 :=
  match s.getLast? with
  | some b => .ok b
  | none => .error (.undefinedBehaviour "back of an empty string")

def normalize (req : ByteString) : Except Exception ByteString :=
  if _hne : req = [] then .ok req
  else do
    let b ← back req
    if isLineEnd b then normalize req.dropLast else .ok req
termination_by req.length
decreasing_by
  have hpos : 0 < req.length := List.length_pos_iff.mpr _hne
  rw [List.length_dropLast]
  omega

def sensorAt (sensors : Registry) (id : UInt32) : Except Exception SensorInfo :=
  match sensors.lookup id with
  | some info => .ok info
  | none => .error (.outOfRange "unordered_map::at")

/-- A call that the Gateway or the monitor answers without throwing. -/
def call {α : Type} (p : Reads Instant α) : Command α := reads fun world ↦ p.eval world.instant

def sensorList : Command ByteString := do
  let sensors ← call Monitor.getSensors
  let ids := sensors.keys.mergeSort
  let rows ← ids.mapM fun id ↦ do
    let info ← ofExcept (sensorAt sensors id)
    let seconds ← call (Monitor.getSecondsSinceLastHeartbeat id)
    return Monitor.sensorRow id info seconds
  return Monitor.listText rows

/-- `const std::exception&`; no handler sees undefined behaviour. -/
def isStdException : Exception → Bool
  | .undefinedBehaviour _ => false
  | _ => true

def processRequest (request : ByteString) : Command ByteString := do
  let req ← ofExcept (normalize request)
  modify fun world ↦ { world with server := { world.server with lastCommand := req } }
  log (ascii "[TCP] Command: " ++ req)
  if req = ascii "help" then
    return Monitor.help
  else if req = ascii "list" then
    sensorList
  else if req = ascii "health" then
    call Monitor.healthSummary
  else if req = ascii "stats" then
    call Monitor.stats
  else if (ascii "get ").isPrefixOf req then
    catchSome isStdException
      (do
        let id ← ofExcept (parseId req)
        let sensors ← call Monitor.getSensors
        if sensors.size < id.toNat then
          log (ascii "[TCP] Sensor " ++ CppStd.to_string id.toNat ++ ascii " not found")
        call (Monitor.sensorDetails id))
      (do
        log (ascii "[TCP] Invalid sensor id")
        return invalidSensorId)
  else
    log (ascii "[TCP] Unknown command: " ++ req)
    return unknownCommand

/-! ## Every call returns -/

theorem normalize_eq (req : ByteString) : normalize req = .ok (TcpServer.normalize req) := by
  induction req using List.reverseRecOn with
  | nil =>
      rw [normalize]
      rfl
  | append_singleton bs b ih =>
      have hne : bs ++ [b] ≠ [] := by simp
      have hback : back (bs ++ [b]) = .ok b := by rw [back, List.getLast?_concat]
      rw [normalize, dif_neg hne, hback, TcpServer.normalize]
      by_cases hb : isLineEnd b
      · rw [List.rdropWhile_concat_pos _ _ _ hb]
        rw [TcpServer.normalize] at ih
        simpa [bind, Except.bind, hb] using ih
      · rw [List.rdropWhile_concat_neg _ _ _ hb]
        simp [bind, Except.bind, hb]

theorem returns_call {α : Type} (p : Reads Instant α) (world : World) :
    Returns (call p) world (p.eval world.instant) world :=
  Returns.reads _ world

theorem returns_log (msg : ByteString) (world : World) :
    Returns (log msg) world ⟨⟩
      { world with server := ((TcpServer.log msg).run world.server).2 } :=
  Returns.modify _ world

/-- The ids come from the same copy in which `at` looks them up. -/
theorem returns_sensorList (world : World) :
    Returns sensorList world (Monitor.sensorList.eval world.instant) world := by
  have hrow : ∀ id : {id // id ∈ world.instant.gateway.sensors.keys.mergeSort}, Returns
      (do
        let info ← ofExcept (sensorAt world.instant.gateway.sensors id.1)
        let seconds ← call (Monitor.getSecondsSinceLastHeartbeat id.1)
        return Monitor.sensorRow id.1 info seconds)
      world
      (Monitor.sensorRow id.1
        (world.instant.gateway.sensors.valueAt id.1
          (AList.mem_keys.mpr (List.mem_mergeSort.mp id.2)))
        (world.instant.gateway.getSecondsSinceLastHeartbeat world.instant.clock id.1))
      world := by
    intro id
    have hat : sensorAt world.instant.gateway.sensors id.1 =
        .ok (world.instant.gateway.sensors.valueAt id.1
          (AList.mem_keys.mpr (List.mem_mergeSort.mp id.2))) := by
      rw [sensorAt, AList.lookup_eq_some_valueAt]
    have hseconds := returns_call (Monitor.getSecondsSinceLastHeartbeat id.1) world
    exact (Returns.ofExcept hat world).bind (hseconds.bind (Returns.pure _ world))
  have hsensors := returns_call Monitor.getSensors world
  have hlist : Returns sensorList world _ world :=
    hsensors.bind ((Returns.mapM_attach hrow).bind (Returns.pure (Monitor.listText _) world))
  simpa [Monitor.sensorList, Monitor.getSensors, Monitor.getSecondsSinceLastHeartbeat,
    Gateway.getSensors] using hlist

theorem isStdException_of_stoi {s : ByteString} {e : Exception} (h : stoi s = .error e) :
    isStdException e := by
  rw [stoi] at h
  split at h
  · obtain rfl := Except.error.inj h
    rfl
  · split_ifs at h
    obtain rfl := Except.error.inj h
    rfl

theorem isStdException_of_parseId {req : ByteString} {e : Exception}
    (h : parseId req = .error e) : isStdException e := by
  by_cases hlength : req.length < 4
  · simp only [parseId, substr, hlength, if_true, bind, Except.bind] at h
    obtain rfl := Except.error.inj h
    rfl
  · simp only [parseId, substr, hlength, if_false, bind, Except.bind] at h
    cases hread : stoi (req.drop 4) with
    | error e' =>
        rw [hread] at h
        obtain rfl := Except.error.inj h
        exact isStdException_of_stoi hread
    | ok v =>
        rw [hread] at h
        by_cases hpos : v ≤ 0
        · simp only [hpos, if_true] at h
          obtain rfl := Except.error.inj h
          rfl
        · simp only [hpos, if_false] at h
          cases h

/-- Nothing escapes, and the outcome is that of the plain model. -/
theorem returns_processRequest (request : ByteString) (world : World) :
    Returns (processRequest request) world
      ((TcpServer.processRequest world.instant request).run world.server).1
      { world with
        server := ((TcpServer.processRequest world.instant request).run world.server).2 } := by
  refine (Returns.ofExcept (normalize_eq request) world).bind
    ((Returns.modify _ world).bind ((returns_log _ _).bind ?_))
  unfold TcpServer.processRequest
  simp only [StateT.run_bind]
  split_ifs with hhelp hlist hhealth hstats hget
  · exact Returns.pure _ _
  · exact returns_sensorList _
  · exact returns_call _ _
  · exact returns_call _ _
  · cases hparse : parseId (TcpServer.normalize request) with
    | error e =>
        refine Throws.catchSome (Throws.ofExcept rfl _).bind (isStdException_of_parseId hparse) ?_
        exact (returns_log _ _).bind (Returns.pure _ _)
    | ok id =>
        refine Returns.catchSome _ ((Returns.ofExcept rfl _).bind
          ((returns_call _ _).bind ?_))
        by_cases hsize : world.instant.gateway.getSensors.size < id.toNat
        · simp only [Monitor.getSensors, Reads.eval_get, hsize, if_true]
          exact (returns_log _ _).bind (returns_call _ _)
        · simp only [Monitor.getSensors, Reads.eval_get, hsize, if_false]
          exact returns_call _ _
  · exact (returns_log _ _).bind (Returns.pure _ _)

end Command

/-! ## What a request leaves behind -/

theorem lastCommand_processRequest (i : Instant) (request : ByteString) (server : TcpServer) :
    ((processRequest i request).run server).2.lastCommand = normalize request := by
  unfold processRequest
  simp only [StateT.run_bind]
  split_ifs
  · rfl
  · rfl
  · rfl
  · rfl
  · cases parseId (normalize request) with
    | ok id => by_cases hsize : i.gateway.getSensors.size < id.toNat <;> simp only [hsize] <;> rfl
    | error e => rfl
  · rfl

theorem processRequest_append_of_lineEnd {lineEnds : ByteString}
    (h : ∀ b ∈ lineEnds, isLineEnd b) (i : Instant) (request : ByteString) :
    processRequest i (request ++ lineEnds) = processRequest i request := by
  unfold processRequest
  rw [normalize_append_of_lineEnd h]

def commands : List ByteString := [ascii "help", ascii "list", ascii "health", ascii "stats"]

theorem query_eq_unknown_iff (sensors : Registry) (request : ByteString) :
    query sensors request = .unknown ↔
      normalize request ∉ commands ∧ ¬ ascii "get " <+: normalize request := by
  have hsensor : ∀ id, Query.sensor sensors id ≠ .unknown := by
    intro id h
    rw [Query.sensor] at h
    split at h <;> cases h
  rw [← List.isPrefixOf_iff_prefix]
  simp only [query, commands, List.mem_cons, List.not_mem_nil, or_false, not_or]
  split_ifs with hhelp hlist hhealth hstats hget
  · simp [hhelp]
  · simp [hlist]
  · simp [hhealth]
  · simp [hstats]
  · cases parseId (normalize request) with
    | ok id => simp [hsensor id, hget]
    | error e => simp [hget]
  · simp [hhelp, hlist, hhealth, hstats, hget]

/-- The line ends at the end are cut off, and no others are left there. -/
theorem normalize_parts (request : ByteString) :
    ∃ lineEnds : ByteString, request = normalize request ++ lineEnds ∧
      (∀ b ∈ lineEnds, b = 10 ∨ b = 13) ∧
      ∀ b ∈ (normalize request).getLast?, b ≠ 10 ∧ b ≠ 13 := by
  refine ⟨request.rtakeWhile isLineEnd, ?_, ?_, ?_⟩
  · rw [normalize, List.rdropWhile_append_rtakeWhile]
  · intro b hb
    simpa [isLineEnd] using List.mem_rtakeWhile_imp hb
  · intro b hb
    obtain ⟨hne, rfl⟩ := List.mem_getLast?_eq_getLast hb
    have hlineEnd : ¬ isLineEnd ((normalize request).getLast hne) :=
      List.rdropWhile_last_not isLineEnd request hne
    simpa [isLineEnd] using hlineEnd

/-- A request is answered, whatever its bytes; nothing is thrown. -/
structure Completes (request : ByteString) (world world' : World) (answer : ByteString) :
    Prop where
  returned : Throwing.Returns (Command.processRequest request) world answer world'
  instant_eq : world'.instant = world.instant
  lastCommand_eq : ∃ lineEnds : ByteString, request = world'.server.lastCommand ++ lineEnds ∧
    (∀ b ∈ lineEnds, b = 10 ∨ b = 13) ∧ ∀ b ∈ world'.server.lastCommand.getLast?, b ≠ 10 ∧ b ≠ 13
  lineEnds_ignored : ∀ lineEnds : ByteString, (∀ b ∈ lineEnds, b = 10 ∨ b = 13) →
    Throwing.Returns (Command.processRequest (request ++ lineEnds)) world answer world'
  unknown_iff : answer = unknownCommand ↔
    world'.server.lastCommand ∉ commands ∧ ¬ ascii "get " <+: world'.server.lastCommand

theorem processRequest_completes (request : ByteString) (world : World) :
    ∃ answer world', Completes request world world' answer := by
  have hlast := lastCommand_processRequest world.instant request world.server
  refine ⟨((processRequest world.instant request).run world.server).1,
    { world with server := ((processRequest world.instant request).run world.server).2 }, ?_⟩
  exact {
    returned := Command.returns_processRequest request world
    instant_eq := rfl
    lastCommand_eq := by
      rw [hlast]
      exact normalize_parts request
    lineEnds_ignored := by
      intro lineEnds h
      have hends : ∀ b ∈ lineEnds, isLineEnd b := fun b hb ↦ by simpa [isLineEnd] using h b hb
      have hsame := processRequest_append_of_lineEnd hends world.instant request
      rw [← hsame]
      exact Command.returns_processRequest (request ++ lineEnds) world
    unknown_iff := by
      rw [hlast, processRequest_fst, ← query_eq_unknown_iff world.instant.gateway.sensors]
      exact (answer_prefixFree world.instant).injective.eq_iff (b := .unknown) }

end SmartSensorNetwork.TcpServer
