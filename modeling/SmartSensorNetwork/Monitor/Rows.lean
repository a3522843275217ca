import SmartSensorNetwork.Monitor.Monitor

/-!
# The rows of the sensor list

A row shows the fields of one sensor from the copy of the registry, and an age
that a later call reads. The rows are given here before they are printed,
together with the order in which the list prints them.
-/

namespace SmartSensorNetwork.Monitor

open CppStd Gateway

/-- What a row shows of a sensor; a detail report shows the same. -/
structure Row where
  id : UInt32
  info : SensorInfo
  seconds : UInt64
  deriving DecidableEq

def Row.text (row : Row) : ByteString := sensorRow row.id row.info row.seconds

theorem mem_of_sorted (sensors : Registry) (id : {id // id ∈ sensors.keys.mergeSort}) :
    id.1 ∈ sensors :=
  AList.mem_keys.mpr (List.mem_mergeSort.mp id.2)

def rows : Reads Instant (List Row) := do
  let sensors ← getSensors
  let ids := sensors.keys.mergeSort
  ids.attach.mapM fun (id : {id // id ∈ ids}) ↦ do
    let info := sensors.valueAt id.1 (mem_of_sorted sensors id)
    let seconds ← getSecondsSinceLastHeartbeat id.1
    return ⟨id.1, info, seconds⟩

def details (id : UInt32) : Reads Instant (Option Row) := do
  let sensors ← getSensors
  match sensors.lookup id with
  | none => return none
  | some info =>
      let seconds ← getSecondsSinceLastHeartbeat id
      return some ⟨id, info, seconds⟩

def Row.details : Option Row → ByteString
  | none => sensorNotFound
  | some row => detailsText row.id row.info row.seconds

theorem sensorList_eq_rows : sensorList = (fun rows ↦ listText (rows.map Row.text)) <$> rows := by
  unfold sensorList rows
  rw [map_bind]
  refine bind_congr fun sensors ↦ ?_
  have hprint : ∀ p : Reads Instant (List Row),
      (fun rows ↦ listText (rows.map Row.text)) <$> p = listText <$> List.map Row.text <$> p :=
    fun p ↦ comp_map (List.map Row.text) listText p
  rw [hprint, ← Reads.mapM_map]
  rfl

theorem sensorDetails_eq_details (id : UInt32) : sensorDetails id = Row.details <$> details id := by
  unfold sensorDetails details
  rw [map_bind]
  refine bind_congr fun sensors ↦ ?_
  cases sensors.lookup id <;> rfl

/-! ## What is printed -/

/-- The fields of a row as a line shows them: each is followed by blanks up to
the width of its column, and the age by its unit. -/
def Row.Shows (row : Row) (line : ByteString) : Prop :=
  ∃ a b c d : ℕ,
    line = CppStd.to_string row.id.toNat ++ List.replicate a 32 ++
      row.info.lastTelemetry.type.to_string ++ List.replicate b 32 ++
      row.info.lastTelemetry.state.to_string ++ List.replicate c 32 ++
      row.info.health.to_string ++ List.replicate d 32 ++
      CppStd.to_string row.seconds.toNat ++ ascii " sec\n" ∧
    -- an id of more than six digits runs into the type
    (CppStd.to_string row.id.toNat).length + a = max 6 (CppStd.to_string row.id.toNat).length ∧
    row.info.lastTelemetry.type.to_string.length + b = 15 ∧
    row.info.lastTelemetry.state.to_string.length + c = 12 ∧
    row.info.health.to_string.length + d = 12

/-- A sensor list with these rows: the header, a line for each row, and empty
lines at its end. -/
def PrintsTable (text : ByteString) (shown : List Row) : Prop :=
  ∃ lines, List.Forall₂ Row.Shows shown lines ∧
    text = ascii "\n=== SENSOR LIST ===\n\n" ++
      ascii "ID    TYPE           STATE       HEALTH      LAST HB\n" ++
      ascii "-----------------------------------------------------\n" ++
      lines.flatten ++ ascii "\n\n\n"

theorem type_fits (type : SensorType) : isWord type.to_string ∧ type.to_string.length < 15 := by
  unfold SensorType.to_string
  split_ifs <;> decide

theorem state_fits (state : SensorState) :
    isWord state.to_string ∧ state.to_string.length < 12 := by
  unfold SensorState.to_string
  split_ifs <;> decide

theorem health_fits (health : SensorHealth) :
    isWord health.to_string ∧ health.to_string.length < 12 := by
  cases health <;> decide

theorem shows_text (row : Row) : row.Shows row.text := by
  have htype := (type_fits row.info.lastTelemetry.type).2
  have hstate := (state_fits row.info.lastTelemetry.state).2
  have hhealth := (health_fits row.info.health).2
  refine ⟨6 - (CppStd.to_string row.id.toNat).length,
    15 - row.info.lastTelemetry.type.to_string.length,
    12 - row.info.lastTelemetry.state.to_string.length,
    12 - row.info.health.to_string.length, ?_, ?_, ?_, ?_, ?_⟩
  · simp only [Row.text, sensorRow, setw, List.append_assoc]
  · omega
  · omega
  · omega
  · omega

theorem printsTable_listText (shown : List Row) :
    PrintsTable (listText (shown.map Row.text)) shown := by
  have hcolumns : setw 6 (ascii "ID") ++ setw 15 (ascii "TYPE") ++ setw 12 (ascii "STATE") ++
      setw 12 (ascii "HEALTH") ++ ascii "LAST HB\n" =
      ascii "ID    TYPE           STATE       HEALTH      LAST HB\n" := by decide
  refine ⟨shown.map Row.text, ?_, ?_⟩
  · rw [List.forall₂_map_right_iff, List.forall₂_same]
    exact fun row _ ↦ shows_text row
  · rw [← hcolumns, listText]
    simp only [List.append_assoc]

/-- A detail report ends with the health and the age. -/
def PrintsDetails (text : ByteString) : Option Row → Prop
  | none => text = ascii "sensor not found\n\n"
  | some row => ∃ before, text = before ++
      ascii "health         : " ++ row.info.health.to_string ++ ascii "\n" ++
      ascii "last heartbeat : " ++ CppStd.to_string row.seconds.toNat ++ ascii " sec ago\n\n\n"

theorem printsDetails (shown : Option Row) : PrintsDetails (Row.details shown) shown := by
  cases shown with
  | none => rfl
  | some row =>
      refine ⟨ascii "\n=== SENSOR INFORMATION ===\n\n" ++
        headerText row.id row.info.lastTelemetry.header ++
        payloadText row.info.lastTelemetry ++
        ascii "Heartbeat Status\n" ++ ascii "----------------\n", ?_⟩
      simp only [Row.details, detailsText, heartbeatText, List.append_assoc]

/-! ## Among other threads -/

section

variable (i : Instant) (gaps : List (List (Call × UInt64)))

/-- The instant of the copy. -/
def copied : Instant := (gaps.headD []).foldl Instant.next i

/-- What happens between the copy and the reading of the age in row `k`. -/
def sinceCopy (k : ℕ) : List (Call × UInt64) := (gaps.tail.take (k + 1)).flatten

/-- The instant at which the age in row `k` is read. -/
def readAt (k : ℕ) : Instant := (sinceCopy gaps k).foldl Instant.next (copied i gaps)

theorem rows_exec :
    rows.exec Instant.next i gaps =
      (copied i gaps).gateway.sensors.keys.mergeSort.attach.mapIdx fun k id ↦
        { id := id.1
          info := (copied i gaps).gateway.sensors.valueAt id.1 (mem_of_sorted _ id)
          seconds := (readAt i gaps k).gateway.getSecondsSinceLastHeartbeat
            (readAt i gaps k).clock id.1 } := by
  unfold rows getSensors
  rw [Reads.exec_get_bind]
  exact Reads.exec_mapM_get _ _ _ _ _

theorem sensorList_exec :
    sensorList.exec Instant.next i gaps =
      listText ((rows.exec Instant.next i gaps).map Row.text) := by
  rw [sensorList_eq_rows, Reads.exec_map]

theorem sensorDetails_exec (id : UInt32) :
    (sensorDetails id).exec Instant.next i gaps =
      Row.details ((details id).exec Instant.next i gaps) := by
  rw [sensorDetails_eq_details, Reads.exec_map]

theorem map_id_rows :
    (rows.exec Instant.next i gaps).map Row.id =
      (copied i gaps).gateway.sensors.keys.mergeSort := by
  rw [rows_exec]
  apply List.ext_getElem
  · simp
  · intro k _ _
    simp

/-- A row repeats the fields that the copy has for its own id. -/
theorem row_faithful {k : ℕ} {row : Row} (h : (rows.exec Instant.next i gaps)[k]? = some row) :
    (copied i gaps).gateway.sensors.lookup row.id = some row.info ∧
      row.seconds = (readAt i gaps k).gateway.getSecondsSinceLastHeartbeat
        (readAt i gaps k).clock row.id := by
  rw [rows_exec, List.getElem?_mapIdx] at h
  obtain ⟨id, -, rfl⟩ := Option.map_eq_some_iff.mp h
  exact ⟨AList.lookup_eq_some_valueAt (mem_of_sorted _ id), rfl⟩

end

/-! ## Without concurrent change -/

/-- Nothing but the clock moves. -/
def Quiet (gaps : List (List (Call × UInt64))) : Prop :=
  ∀ events ∈ gaps, ∀ e ∈ events, ∃ id, e.1 = .getSecondsSinceLastHeartbeat id

/-- The reading that row `k` takes of the clock. -/
def clockAt (i : Instant) (gaps : List (List (Call × UInt64))) (k : ℕ) : UInt64 :=
  (readAt i gaps k).clock

theorem gateway_of_quiet {events : List (Call × UInt64)}
    (h : ∀ e ∈ events, ∃ id, e.1 = .getSecondsSinceLastHeartbeat id) (i : Instant) :
    (events.foldl Instant.next i).gateway = i.gateway := by
  induction events generalizing i with
  | nil => rfl
  | cons e events ih =>
      obtain ⟨id, he⟩ := h e List.mem_cons_self
      have hrest := ih (fun e' he' ↦ h e' (List.mem_cons_of_mem e he')) (i.next e)
      rw [List.foldl_cons, hrest, Instant.next, he]
      rfl

theorem clock_of_events (i : Instant) (events : List (Call × UInt64)) :
    (events.foldl Instant.next i).clock = (events.getLast?.map Prod.snd).getD i.clock := by
  induction events using List.reverseRecOn with
  | nil => rfl
  | append_singleton events e _ => simp [Instant.next]

theorem Quiet.copied {gaps : List (List (Call × UInt64))} (h : Quiet gaps) (i : Instant) :
    (Monitor.copied i gaps).gateway = i.gateway := by
  apply gateway_of_quiet
  cases gaps with
  | nil => simp
  | cons events gaps => exact h events List.mem_cons_self

theorem Quiet.readAt {gaps : List (List (Call × UInt64))} (h : Quiet gaps) (i : Instant) (k : ℕ) :
    (Monitor.readAt i gaps k).gateway = i.gateway := by
  rw [Monitor.readAt, gateway_of_quiet, h.copied]
  intro e he
  obtain ⟨events, hevents, he⟩ := List.mem_flatten.mp he
  exact h events (List.mem_of_mem_tail (List.mem_of_mem_take hevents)) e he

end SmartSensorNetwork.Monitor
