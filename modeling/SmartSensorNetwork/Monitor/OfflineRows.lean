import SmartSensorNetwork.Monitor.Rows
import SmartSensorNetwork.Monitor.Snapshots

/-!
# Offline rows and their age

The health in a row comes from the copy of the registry, the age from a later
call. A heartbeat that lands between the two makes the age small and leaves
the health as it was. An event `getSecondsSinceLastHeartbeat` moves only the
clock, so the age itself may be read as late as one likes.
-/

namespace SmartSensorNetwork.Monitor

open CppStd Gateway

/-- The instant after a run from the fresh Gateway. -/
def reached (history : List (Call × UInt64)) : Instant := history.foldl Instant.next ⟨{}, 0⟩

structure ListShowsAge (i : Instant) (gaps : List (List (Call × UInt64))) : Prop where
  printed : PrintsTable (sensorList.exec Instant.next i gaps) (rows.exec Instant.next i gaps)
  old : ∀ row ∈ rows.exec Instant.next i gaps, row.info.health = .offline →
    10 ≤ row.seconds.toNat

structure DetailsShowAge (i : Instant) (gaps : List (List (Call × UInt64))) (id : UInt32) :
    Prop where
  printed : PrintsDetails ((sensorDetails id).exec Instant.next i gaps)
    ((details id).exec Instant.next i gaps)
  old : ∀ row, (details id).exec Instant.next i gaps = some row → row.info.health = .offline →
    10 ≤ row.seconds.toNat

/-- If the sensor is heard after the copy, then ten seconds or more before the
age of row `k` is read. -/
def NotHeardAgain (i : Instant) (gaps : List (List (Call × UInt64))) (k : ℕ) (id : UInt32) :
    Prop :=
  ∀ h, lastHeartbeat id (sinceCopy gaps k) = some h →
    h.toNat + 10000 ≤ (clockAt i gaps k).toNat

/-! ## The calls before a reading -/

theorem lastHeartbeat_append (id : UInt32) (calls more : List (Call × UInt64)) :
    lastHeartbeat id (calls ++ more) = (lastHeartbeat id more).or (lastHeartbeat id calls) := by
  simp [lastHeartbeat, List.filterMap_append, List.getLast?_append]

theorem notBefore_clock {calls : List (Call × UInt64)} (hclock : ClockOrdered calls)
    (i : Instant) : NotBefore calls (calls.foldl Instant.next i).clock := by
  rw [clock_of_events]
  intro c hc
  rcases List.eq_nil_or_concat' calls with rfl | ⟨before, last, rfl⟩
  · cases hc
  · rw [List.getLast?_concat, Option.map_some, Option.getD_some]
    rcases List.mem_append.mp hc with hc | hc
    · exact (List.pairwise_append.mp hclock.ordered).2.2 c hc last (List.mem_singleton_self _)
    · exact List.mem_singleton.mp hc ▸ UInt64.le_refl _

section

variable (history : List (Call × UInt64)) (gaps : List (List (Call × UInt64)))

theorem copied_reached :
    copied (reached history) gaps = (history ++ gaps.headD []).foldl Instant.next ⟨{}, 0⟩ := by
  rw [List.foldl_append]
  rfl

theorem readAt_reached (k : ℕ) :
    readAt (reached history) gaps k =
      ((history ++ gaps.headD []) ++ sinceCopy gaps k).foldl Instant.next ⟨{}, 0⟩ := by
  rw [List.foldl_append, ← copied_reached]
  rfl

variable {history gaps}

theorem clockOrdered_until_reading (hclock : ClockOrdered (history ++ gaps.flatten)) (k : ℕ) :
    ClockOrdered ((history ++ gaps.headD []) ++ sinceCopy gaps k) := by
  have hsplit : history ++ gaps.flatten =
      ((history ++ gaps.headD []) ++ sinceCopy gaps k) ++ (gaps.tail.drop (k + 1)).flatten := by
    have htail : sinceCopy gaps k ++ (gaps.tail.drop (k + 1)).flatten = gaps.tail.flatten := by
      rw [sinceCopy, ← List.flatten_append, List.take_append_drop]
    rw [List.append_assoc, htail, List.append_assoc]
    cases gaps <;> rfl
  rw [hsplit] at hclock
  exact hclock.append_left

/-- The age of a sensor that the copy shows offline. -/
theorem ten_le_age_iff (hclock : ClockOrdered (history ++ gaps.flatten)) {id : UInt32}
    (hoffline : OfflineIn (copied (reached history) gaps).gateway.sensors id) (k : ℕ) :
    10 ≤ ((readAt (reached history) gaps k).gateway.getSecondsSinceLastHeartbeat
        (readAt (reached history) gaps k).clock id).toNat ↔
      NotHeardAgain (reached history) gaps k id := by
  have hordered := clockOrdered_until_reading hclock k
  have hnow := notBefore_clock hordered ⟨{}, 0⟩
  have hmissed : MissedSince id (history ++ gaps.headD []) := by
    obtain ⟨info, hlookup, hhealth⟩ := hoffline
    rw [copied_reached, gateway_foldl_next] at hlookup
    rw [← offline_iff_missedSince hordered.append_left, ← beat_of_lookup_run hlookup]
    exact hhealth
  obtain ⟨pre, call, post, t, hsplit, hcall, hsilent, hscan, hlate⟩ := hmissed
  have hbefore : lastHeartbeat id (history ++ gaps.headD []) = some call.2 := by
    rw [hsplit, lastHeartbeat_of_heard hcall hsilent]
  rw [NotHeardAgain, clockAt, readAt_reached, gateway_foldl_next, age_entryRun hordered hnow,
    lastHeartbeat_append, hbefore]
  cases hsince : lastHeartbeat id (sinceCopy gaps k) with
  | none =>
      have hscanned : t ≤ _ := hnow (.detectOfflineSensors, t) (by
        rw [hsplit]
        simp [hscan])
      have hscanned' := UInt64.le_iff_toNat_le.mp hscanned
      simp only [Option.none_or, reduceCtorEq, false_implies, implies_true, iff_true,
        Nat.le_div_iff_mul_le (by norm_num : 0 < 1000)]
      omega
  | some h =>
      simp only [Option.some_or, Option.some.injEq, forall_eq',
        Nat.le_div_iff_mul_le (by norm_num : 0 < 1000)]
      omega

end

theorem details_exec (i : Instant) (gaps : List (List (Call × UInt64))) (id : UInt32) :
    (details id).exec Instant.next i gaps =
      ((copied i gaps).gateway.sensors.lookup id).map fun info ↦
        { id, info
          seconds := (readAt i gaps 0).gateway.getSecondsSinceLastHeartbeat
            (readAt i gaps 0).clock id } := by
  have hread : readAt i gaps 0 = (gaps.tail.headD []).foldl Instant.next (copied i gaps) := by
    rw [readAt, sinceCopy]
    cases gaps.tail <;> simp
  rw [hread]
  unfold details getSensors
  rw [Reads.exec_get_bind]
  have hcopied : (gaps.headD []).foldl Instant.next i = copied i gaps := rfl
  rw [hcopied, Gateway.getSensors]
  cases (copied i gaps).gateway.sensors.lookup id with
  | none => rfl
  | some info =>
      unfold getSecondsSinceLastHeartbeat
      rw [Reads.exec_get_bind]
      rfl

section

variable {history : List (Call × UInt64)} {gaps : List (List (Call × UInt64))}

theorem listShowsAge_iff (hclock : ClockOrdered (history ++ gaps.flatten)) :
    ListShowsAge (reached history) gaps ↔
      ∀ k id, (copied (reached history) gaps).gateway.sensors.keys.mergeSort[k]? = some id →
        OfflineIn (copied (reached history) gaps).gateway.sensors id →
        NotHeardAgain (reached history) gaps k id := by
  have hids := map_id_rows (reached history) gaps
  constructor
  · intro h k id hk hoffline
    rw [← hids, List.getElem?_map] at hk
    obtain ⟨row, hrow, rfl⟩ := Option.map_eq_some_iff.mp hk
    obtain ⟨hlookup, hseconds⟩ := row_faithful _ _ hrow
    have hhealth : row.info.health = .offline := by
      obtain ⟨info, hinfo, hhealth⟩ := hoffline
      rw [hlookup, Option.some.injEq] at hinfo
      rw [hinfo, hhealth]
    have hold := h.old row (List.mem_of_getElem? hrow) hhealth
    rw [hseconds] at hold
    exact (ten_le_age_iff hclock hoffline k).mp hold
  · intro h
    refine ⟨sensorList_exec _ gaps ▸ printsTable_listText _, fun row hmem hhealth ↦ ?_⟩
    obtain ⟨k, hrow⟩ := List.getElem?_of_mem hmem
    obtain ⟨hlookup, hseconds⟩ := row_faithful _ _ hrow
    have hk : (copied (reached history) gaps).gateway.sensors.keys.mergeSort[k]? =
        some row.id := by
      rw [← hids, List.getElem?_map, hrow]
      rfl
    have hoffline : OfflineIn (copied (reached history) gaps).gateway.sensors row.id :=
      ⟨row.info, hlookup, hhealth⟩
    rw [hseconds]
    apply (ten_le_age_iff hclock hoffline k).mpr
    exact h k row.id hk hoffline

theorem detailsShowAge_iff (hclock : ClockOrdered (history ++ gaps.flatten)) (id : UInt32) :
    DetailsShowAge (reached history) gaps id ↔
      (OfflineIn (copied (reached history) gaps).gateway.sensors id →
        NotHeardAgain (reached history) gaps 0 id) := by
  have hdetails := details_exec (reached history) gaps id
  constructor
  · rintro h ⟨info, hlookup, hhealth⟩
    rw [hlookup] at hdetails
    apply (ten_le_age_iff hclock ⟨info, hlookup, hhealth⟩ 0).mp
    exact h.old _ hdetails hhealth
  · intro h
    refine ⟨sensorDetails_exec _ gaps id ▸ printsDetails _, fun row hrow hhealth ↦ ?_⟩
    rw [hdetails] at hrow
    obtain ⟨info, hlookup, rfl⟩ := Option.map_eq_some_iff.mp hrow
    have hoffline : OfflineIn (copied (reached history) gaps).gateway.sensors id :=
      ⟨info, hlookup, hhealth⟩
    apply (ten_le_age_iff hclock hoffline 0).mpr
    exact h hoffline

end

/-- Offline rows and reports show an age of ten seconds exactly when no sensor
that the copy has offline is heard again, until ten seconds before its age is
read. -/
theorem offline_shows_age_iff (history : List (Call × UInt64))
    (gaps : List (List (Call × UInt64))) (hclock : ClockOrdered (history ++ gaps.flatten)) :
    (ListShowsAge (reached history) gaps ↔
      ∀ k id, (copied (reached history) gaps).gateway.sensors.keys.mergeSort[k]? = some id →
        OfflineIn (copied (reached history) gaps).gateway.sensors id →
        NotHeardAgain (reached history) gaps k id) ∧
    ∀ id, DetailsShowAge (reached history) gaps id ↔
      (OfflineIn (copied (reached history) gaps).gateway.sensors id →
        NotHeardAgain (reached history) gaps 0 id) :=
  ⟨listShowsAge_iff hclock, detailsShowAge_iff hclock⟩

/-- Sensor 7 is put offline at 12000. -/
def downHistory : List (Call × UInt64) :=
  [(.handlePacket heartbeatPacket7, 1000), (.detectOfflineSensors, 12000)]

/-- Sensor 7 is heard after the copy, ten seconds before its age is read. -/
def heardEarly : List (List (Call × UInt64)) :=
  [[], [(.handlePacket heartbeatPacket7, 12001), (.getSecondsSinceLastHeartbeat 7, 22001)]]

theorem heardEarly_shows_age :
    ListShowsAge (reached downHistory) heardEarly ∧
      DetailsShowAge (reached downHistory) heardEarly 7 := by
  obtain ⟨hlist, hdetails⟩ := offline_shows_age_iff downHistory heardEarly
    ⟨by decide, by decide⟩
  have hids : (copied (reached downHistory) heardEarly).gateway.sensors.keys.mergeSort = [7] := by
    have hkeys : (copied (reached downHistory) heardEarly).gateway.sensors.keys = [7] := by decide
    rw [hkeys, List.mergeSort_singleton]
  have hheard : NotHeardAgain (reached downHistory) heardEarly 0 7 := by
    intro h hlast
    have hlast' : lastHeartbeat 7 (sinceCopy heardEarly 0) = some 12001 := by decide
    rw [hlast', Option.some.injEq] at hlast
    subst hlast
    decide
  refine ⟨hlist.mpr fun k id hk _ ↦ ?_, (hdetails 7).mpr fun _ ↦ hheard⟩
  rw [hids] at hk
  cases k with
  | zero =>
      obtain rfl : 7 = id := by simpa using hk
      exact hheard
  | succ k => simp at hk

/-- The age is read right after the heartbeat: offline, and zero seconds. -/
theorem offline_shows_fresh_heartbeat :
    ¬ ListShowsAge (reached downHistory) [[], [(.handlePacket heartbeatPacket7, 12001)]] ∧
      ¬ DetailsShowAge (reached downHistory) [[], [(.handlePacket heartbeatPacket7, 12001)]] 7 := by
  have hdetails : (details 7).exec Instant.next (reached downHistory)
      [[], [(.handlePacket heartbeatPacket7, 12001)]] =
        some ⟨7, ⟨.zero, 0, 1000, .offline⟩, 0⟩ := by decide
  have hrows : rows.exec Instant.next (reached downHistory)
      [[], [(.handlePacket heartbeatPacket7, 12001)]] =
        [⟨7, ⟨.zero, 0, 1000, .offline⟩, 0⟩] := by decide +kernel
  refine ⟨fun h ↦ ?_, fun h ↦ ?_⟩
  · have hold := h.old ⟨7, ⟨.zero, 0, 1000, .offline⟩, 0⟩ (by rw [hrows]; simp) rfl
    exact absurd hold (by decide)
  · have hold := h.old ⟨7, ⟨.zero, 0, 1000, .offline⟩, 0⟩ hdetails rfl
    exact absurd hold (by decide)

end SmartSensorNetwork.Monitor
