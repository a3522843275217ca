import SmartSensorNetwork.Monitor.Rows

/-!
# The columns of the sensor list

`std::setw` pads a column and never cuts or separates. Every name is shorter
than its column; the column of the ids holds six characters.
-/

namespace SmartSensorNetwork.Monitor

open CppStd

/-- Each row of the list can be taken apart again into its six fields. -/
structure ReadsBack (i : Instant) : Prop where
  printed : sensorList.eval i = listText ((rows.eval i).map Row.text)
  fields : ∀ row ∈ rows.eval i, words row.text =
    [CppStd.to_string row.id.toNat, row.info.lastTelemetry.type.to_string,
      row.info.lastTelemetry.state.to_string, row.info.health.to_string,
      CppStd.to_string row.seconds.toNat, ascii "sec"]

/-- The fields of a row, whatever stands in front of the type. -/
theorem words_after_id (row : Row) :
    words (setw 15 row.info.lastTelemetry.type.to_string ++
        (setw 12 row.info.lastTelemetry.state.to_string ++
          (setw 12 row.info.health.to_string ++
            (CppStd.to_string row.seconds.toNat ++ ascii " sec\n")))) =
      [row.info.lastTelemetry.type.to_string, row.info.lastTelemetry.state.to_string,
        row.info.health.to_string, CppStd.to_string row.seconds.toNat, ascii "sec"] := by
  obtain ⟨htype, htypeLength⟩ := type_fits row.info.lastTelemetry.type
  obtain ⟨hstate, hstateLength⟩ := state_fits row.info.lastTelemetry.state
  obtain ⟨hhealth, hhealthLength⟩ := health_fits row.info.health
  have hunit : words (CppStd.to_string row.seconds.toNat ++ ascii " sec\n") =
      [CppStd.to_string row.seconds.toNat, ascii "sec"] := by
    have hsec : words (ascii "sec\n") = [ascii "sec"] := by decide
    have hblank : ascii " sec\n" = 32 :: ascii "sec\n" := rfl
    rw [hblank, words_append_cons (isWord_to_string _) (by decide), hsec]
  rw [words_setw_append htype htypeLength, words_setw_append hstate hstateLength,
    words_setw_append hhealth hhealthLength, hunit]

theorem text_eq (row : Row) :
    row.text = setw 6 (CppStd.to_string row.id.toNat) ++
      (setw 15 row.info.lastTelemetry.type.to_string ++
        (setw 12 row.info.lastTelemetry.state.to_string ++
          (setw 12 row.info.health.to_string ++
            (CppStd.to_string row.seconds.toNat ++ ascii " sec\n")))) := by
  simp only [Row.text, sensorRow, List.append_assoc]

/-- A row is read back exactly when its id has at most five digits. -/
theorem words_text_iff (row : Row) :
    words row.text =
      [CppStd.to_string row.id.toNat, row.info.lastTelemetry.type.to_string,
        row.info.lastTelemetry.state.to_string, row.info.health.to_string,
        CppStd.to_string row.seconds.toNat, ascii "sec"] ↔ row.id.toNat < 100000 := by
  have hlength : (CppStd.to_string row.id.toNat).length < 6 ↔ row.id.toNat < 100000 := by
    rw [Nat.lt_succ_iff, length_to_string_le_iff (by norm_num)]
    norm_num
  have hid := isWord_to_string row.id.toNat
  rw [← hlength, text_eq]
  constructor
  · intro hfields
    by_contra hlong
    obtain ⟨htype, htypeLength⟩ := type_fits row.info.lastTelemetry.type
    obtain ⟨n, hn⟩ : ∃ n, 15 - row.info.lastTelemetry.type.to_string.length = n + 1 :=
      ⟨15 - row.info.lastTelemetry.type.to_string.length - 1, by omega⟩
    rw [setw_of_le (not_lt.mp hlong), setw, hn, List.replicate_succ, List.append_assoc,
      ← List.append_assoc, List.cons_append,
      words_append_cons (isWord_append hid htype) (by decide)] at hfields
    have hglued := (List.cons.inj hfields).1
    exact (isWord_iff.mp htype).1 (List.append_right_eq_self.mp hglued)
  · intro hshort
    rw [words_setw_append hid hshort, words_after_id]

theorem mem_ids_rows {i : Instant} {id : UInt32} :
    id ∈ (rows.eval i).map Row.id ↔ id ∈ i.gateway.sensors := by
  have hids := map_id_rows i []
  rw [Reads.exec_nil] at hids
  rw [hids, List.mem_mergeSort, AList.mem_keys]
  rfl

/-- The rows are read back exactly when no registered id has six digits. -/
theorem readsBack_iff (i : Instant) :
    ReadsBack i ↔ ∀ id ∈ i.gateway.sensors, id.toNat < 100000 := by
  constructor
  · intro h id hid
    obtain ⟨row, hrow, rfl⟩ := List.mem_map.mp (mem_ids_rows.mpr hid)
    exact (words_text_iff row).mp (h.fields row hrow)
  · intro h
    refine ⟨?_, fun row hrow ↦ ?_⟩
    · rw [sensorList_eq_rows, Reads.eval_map]
    · apply (words_text_iff row).mpr
      exact h row.id (mem_ids_rows.mp (List.mem_map_of_mem hrow))

/-- One heartbeat from the sensor 100000. -/
def sixDigits : Gateway :=
  ({} : Gateway).run
    [(.handlePacket (PacketSerializer.serializeHeartbeat ⟨⟨.heartbeat, 100000, 0⟩⟩), 1000)]

/-- The row begins with `100000Unknown`. -/
theorem six_digits_run_into_type : ¬ ReadsBack ⟨sixDigits, 1000⟩ := by
  intro h
  have hid : (100000 : UInt32) ∈ (⟨sixDigits, 1000⟩ : Instant).gateway.sensors := by decide
  obtain ⟨row, hrow, heq⟩ := List.mem_map.mp (mem_ids_rows.mpr hid)
  have hlt := (words_text_iff row).mp (h.fields row hrow)
  rw [heq] at hlt
  exact absurd hlt (by decide)

end SmartSensorNetwork.Monitor
