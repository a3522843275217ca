import SmartSensorNetwork.Gateway.Health
import SmartSensorNetwork.Monitor.Monitor

/-!
# Reports made of two snapshots

`getStats` and `healthSummary` copy the registry twice. Packets and scans that
land between the copies show in the second one only, and the numbers of one
report are then taken from two different states.
-/

namespace SmartSensorNetwork.Monitor

open CppStd Gateway

def StatsAgree (stats : SystemStats) : Prop :=
  stats.health.online + stats.health.offline ≤ stats.totalSensors

/-- What the report prints after `OFFLINE : `. -/
def printedOffline (text : ByteString) : Option ByteString :=
  ((text.splitOn 10).find? fun l ↦ (ascii "OFFLINE :").isPrefixOf l).map fun l ↦ l.drop 10

def listedOffline (text : ByteString) : ℕ :=
  (text.splitOn 10).countP fun l ↦ (ascii "- Sensor").isPrefixOf l

def SummaryAgrees (text : ByteString) : Prop :=
  printedOffline text = some (CppStd.to_string (listedOffline text))

/-- The sensor is known to be up or down in the copy, or is heard after it. -/
def Heard (copy : Registry) (events : List (Call × UInt64)) (id : UInt32) : Prop :=
  (∃ info, copy.lookup id = some info ∧ info.health ≠ .unknown) ∨
    ∃ e ∈ events, HeartbeatFrom id e.1

def OfflineIn (copy : Registry) (id : UInt32) : Prop :=
  ∃ info, copy.lookup id = some info ∧ info.health = .offline

/-- The sensor ends up offline: an overdue scan follows its last heartbeat,
or it is not heard and was offline or goes offline. -/
def OfflineAfter (copy : Registry) (events : List (Call × UInt64)) (id : UInt32) : Prop :=
  (∃ pre e post, events = pre ++ e :: post ∧ HeartbeatFrom id e.1 ∧
    (∀ c ∈ post, ¬ HeartbeatFrom id c.1) ∧ HasOverdueScan e.2 post) ∨
  (∀ e ∈ events, ¬ HeartbeatFrom id e.1) ∧ ∃ info, copy.lookup id = some info ∧
    (info.health = .offline ∨
      info.health = .online ∧ HasOverdueScan info.lastHeartbeatReceivedTime events)

/-! ## The two copies of a report -/

theorem gateway_foldl_next (i : Instant) (events : List (Call × UInt64)) :
    (events.foldl Instant.next i).gateway = i.gateway.run events := by
  induction events generalizing i with
  | nil => rfl
  | cons e events ih => exact ih (i.next e)

def firstCopy (i : Instant) (gaps : List (List (Call × UInt64))) : Registry :=
  (i.gateway.run (gaps.headD [])).sensors

def between (gaps : List (List (Call × UInt64))) : List (Call × UInt64) := gaps.tail.headD []

def secondCopy (i : Instant) (gaps : List (List (Call × UInt64))) : Registry :=
  ((i.gateway.run (gaps.headD [])).run (between gaps)).sensors

def healthCounts (sensors : Registry) : HealthCounts where
  online := sensors.countValues fun _ info ↦ info.health = .online
  offline := sensors.countValues fun _ info ↦ info.health = .offline
  unknown := sensors.countValues fun _ info ↦ info.health = .unknown

theorem getStats_exec (i : Instant) (gaps : List (List (Call × UInt64))) :
    (getStats.exec Instant.next i gaps).totalSensors = (firstCopy i gaps).size ∧
      (getStats.exec Instant.next i gaps).health =
        { online := (healthCounts (secondCopy i gaps)).online
          offline := (healthCounts (secondCopy i gaps)).offline } := by
  simp only [getStats, countHealthSensors, getSensors, getTelemetryPacketsReceived,
    getHeartbeatPacketsReceived, bind_assoc, pure_bind, Reads.exec_get_bind, gateway_foldl_next,
    firstCopy, secondCopy, between]
  exact ⟨rfl, rfl⟩

theorem healthSummary_exec (i : Instant) (gaps : List (List (Call × UInt64))) :
    healthSummary.exec Instant.next i gaps =
      healthText (healthCounts (secondCopy i gaps)) (firstCopy i gaps) := by
  simp only [healthSummary, countHealthSensors, getSensors, bind_assoc, pure_bind,
    Reads.exec_get_bind, gateway_foldl_next, firstCopy, secondCopy, between]
  rfl

/-! ## The second copy in terms of the first -/

theorem lookup_secondCopy (i : Instant) (gaps : List (List (Call × UInt64))) (id : UInt32) :
    (secondCopy i gaps).lookup id =
      entryRun id ((firstCopy i gaps).lookup id) (between gaps) :=
  lookup_run _ _ id

theorem exists_health_iff (entry : Option SensorInfo) {P : SensorHealth → Prop}
    (hP : ¬ P .unknown) :
    (∃ info, entry = some info ∧ P info.health) ↔ P (entry.getD {}).health := by
  cases entry with
  | none => simpa using hP
  | some info => simp

theorem health_entryRun_ne_unknown_iff {id : UInt32} {entry : Option SensorInfo}
    {events : List (Call × UInt64)} :
    ((entryRun id entry events).getD {}).health ≠ .unknown ↔
      (entry.getD {}).health ≠ .unknown ∨ ∃ e ∈ events, HeartbeatFrom id e.1 := by
  rcases silent_or_last_heartbeat id events with hsilent | ⟨pre, e, post, rfl, he, hsilent⟩
  · have hnone : ¬ ∃ e ∈ events, HeartbeatFrom id e.1 := fun ⟨e, hmem, he⟩ ↦ hsilent e hmem he
    rw [health_entryRun_of_silent hsilent, or_iff_left hnone]
    split <;> simp_all
  · refine iff_of_true ?_ (.inr ⟨e, by simp, he⟩)
    rw [health_entryRun_of_heard he hsilent]
    split <;> simp

theorem health_entryRun_eq_offline_iff {id : UInt32} {copy : Registry}
    {events : List (Call × UInt64)} :
    ((entryRun id (copy.lookup id) events).getD {}).health = .offline ↔
      OfflineAfter copy events id := by
  constructor
  · intro hoffline
    rcases silent_or_last_heartbeat id events with hsilent | ⟨pre, e, post, rfl, he, hsilent⟩
    · rw [health_entryRun_of_silent hsilent] at hoffline
      refine .inr ⟨hsilent, ?_⟩
      cases hentry : copy.lookup id with
      | none => simp [hentry] at hoffline
      | some info =>
          refine ⟨info, rfl, ?_⟩
          simp only [hentry, Option.getD_some] at hoffline
          cases h : info.health with
          | unknown => simp [h] at hoffline
          | offline => exact .inl rfl
          | online => simpa [h] using hoffline
    · rw [health_entryRun_of_heard he hsilent] at hoffline
      refine .inl ⟨pre, e, post, rfl, he, hsilent, ?_⟩
      by_contra hscan
      simp [hscan] at hoffline
  · rintro (⟨pre, e, post, rfl, he, hsilent, hscan⟩ | ⟨hsilent, info, hentry, hinfo⟩)
    · rw [health_entryRun_of_heard he hsilent, if_pos hscan]
    · rw [health_entryRun_of_silent hsilent, hentry, Option.getD_some]
      rcases hinfo with hinfo | ⟨hinfo, hscan⟩
      · simp [hinfo]
      · simp [hinfo, hscan]

/-! ## Counts -/

theorem online_add_offline (sensors : Registry) :
    (healthCounts sensors).online + (healthCounts sensors).offline =
      sensors.countValues fun _ info ↦
        decide (info.health = .online) || decide (info.health = .offline) := by
  have hdisjoint : ∀ (id : UInt32) (info : SensorInfo), decide (info.health = .online) →
      decide (info.health = .offline) = false := by
    intro id info honline
    simp [of_decide_eq_true honline]
  exact AList.countValues_add hdisjoint sensors

theorem offline_eq_ncard (sensors : Registry) :
    (healthCounts sensors).offline = {id | OfflineIn sensors id}.ncard := by
  have hcount : (healthCounts sensors).offline =
      sensors.countValues fun _ info ↦ info.health = .offline := rfl
  rw [hcount, AList.countValues_eq_ncard]
  simp only [decide_eq_true_eq]
  rfl

theorem online_add_offline_secondCopy (i : Instant) (gaps : List (List (Call × UInt64))) :
    (healthCounts (secondCopy i gaps)).online + (healthCounts (secondCopy i gaps)).offline =
      {id | Heard (firstCopy i gaps) (between gaps) id}.ncard := by
  rw [online_add_offline, AList.countValues_eq_ncard]
  congr 1
  ext id
  have hsecond := exists_health_iff ((secondCopy i gaps).lookup id)
    (P := fun h ↦ h ≠ .unknown) (by simp)
  have hfirst := exists_health_iff ((firstCopy i gaps).lookup id)
    (P := fun h ↦ h ≠ .unknown) (by simp)
  have hheard : ∀ info : SensorInfo,
      (decide (info.health = .online) || decide (info.health = .offline)) = true ↔
        info.health ≠ .unknown := by
    intro info
    cases info.health <;> simp
  simp only [Set.mem_ofPred_eq, hheard, Heard]
  rw [hsecond, hfirst, lookup_secondCopy, health_entryRun_ne_unknown_iff]

theorem offline_secondCopy (i : Instant) (gaps : List (List (Call × UInt64))) :
    (healthCounts (secondCopy i gaps)).offline =
      {id | OfflineAfter (firstCopy i gaps) (between gaps) id}.ncard := by
  rw [offline_eq_ncard]
  congr 1
  ext id
  have hsecond := exists_health_iff ((secondCopy i gaps).lookup id)
    (P := fun h ↦ h = .offline) (by simp)
  simp only [Set.mem_ofPred_eq, OfflineIn]
  rw [hsecond, lookup_secondCopy, health_entryRun_eq_offline_iff]

/-! ## The text of the summary -/

theorem lf_not_mem_sensorType (type : SensorType) : 10 ∉ type.to_string := by
  unfold SensorType.to_string
  split_ifs <;> decide

def offlineLine (id : UInt32) (info : SensorInfo) : ByteString :=
  ascii "- Sensor " ++ CppStd.to_string id.toNat ++ ascii " (" ++
    info.lastTelemetry.type.to_string ++ ascii ")"

def offlineLines (sensors : Registry) : List ByteString :=
  (sensors.entries.filter fun e ↦ e.2.health = .offline).map fun e ↦ offlineLine e.1 e.2

def healthLines (healthCount : HealthCounts) : List ByteString :=
  [[], ascii "=== HEALTH SUMMARY ===", [],
    ascii "ONLINE  : " ++ CppStd.to_string healthCount.online,
    ascii "OFFLINE : " ++ CppStd.to_string healthCount.offline,
    ascii "UNKNOWN : " ++ CppStd.to_string healthCount.unknown, [],
    ascii "Offline sensors:"]

theorem healthText_eq_unlines (healthCount : HealthCounts) (sensors : Registry) :
    healthText healthCount sensors =
      unlines (healthLines healthCount ++ offlineLines sensors ++ [[], [], []]) := by
  have hrows : (offlineRows sensors).flatten = unlines (offlineLines sensors) := by
    have hrow : ∀ e : (_ : UInt32) × SensorInfo,
        offlineRow e.1 e.2 = offlineLine e.1 e.2 ++ [10] := by
      intro e
      simp only [offlineRow, offlineLine, List.append_assoc]
      rfl
    simp only [offlineRows, offlineLines, unlines, List.map_map, Function.comp_def, hrow]
  have htitle : ascii "\n=== HEALTH SUMMARY ===\n\n" =
      unlines [[], ascii "=== HEALTH SUMMARY ===", []] := by decide
  have hblank : ascii "\n\n\n" = unlines [[], [], []] := by decide
  have hend : ascii "\n" = [10] := by decide
  have hend2 : ascii "\n\n" = [10, 10] := by decide
  have hlist : ascii "Offline sensors:\n" = ascii "Offline sensors:" ++ [10] := by decide
  simp only [healthText, healthLines, unlines_append, unlines_cons, unlines_nil, hrows, htitle,
    hblank, hend, hend2, hlist, List.append_assoc, List.nil_append, List.cons_append]

theorem lf_not_mem_healthLines (healthCount : HealthCounts) :
    ∀ l ∈ healthLines healthCount, 10 ∉ l := by
  have hliteral : 10 ∉ ascii "=== HEALTH SUMMARY ===" ∧ 10 ∉ ascii "ONLINE  : " ∧
      10 ∉ ascii "OFFLINE : " ∧ 10 ∉ ascii "UNKNOWN : " ∧ 10 ∉ ascii "Offline sensors:" := by
    decide
  simp [healthLines, hliteral, lf_not_mem_to_string]

theorem lf_not_mem_offlineLines (sensors : Registry) : ∀ l ∈ offlineLines sensors, 10 ∉ l := by
  intro l hl
  obtain ⟨e, -, rfl⟩ := List.mem_map.mp hl
  have hliteral : 10 ∉ ascii "- Sensor " ∧ 10 ∉ ascii " (" ∧ 10 ∉ ascii ")" := by decide
  simp [offlineLine, hliteral, lf_not_mem_to_string, lf_not_mem_sensorType]

theorem splitOn_healthText (healthCount : HealthCounts) (sensors : Registry) :
    (healthText healthCount sensors).splitOn 10 =
      healthLines healthCount ++ offlineLines sensors ++ [[], [], [], []] := by
  have hlf : ∀ l ∈ healthLines healthCount ++ offlineLines sensors ++ [[], [], []], 10 ∉ l := by
    intro l hl
    simp only [List.mem_append, or_assoc] at hl
    rcases hl with hl | hl | hl
    · exact lf_not_mem_healthLines healthCount l hl
    · exact lf_not_mem_offlineLines sensors l hl
    · simp at hl
      simp [hl]
  have hsplit := splitOn_unlines_append hlf []
  rw [List.append_nil, ← healthText_eq_unlines] at hsplit
  simpa using hsplit

theorem printedOffline_healthText (healthCount : HealthCounts) (sensors : Registry) :
    printedOffline (healthText healthCount sensors) =
      some (CppStd.to_string healthCount.offline) := by
  rw [printedOffline, splitOn_healthText]
  rfl

theorem listedOffline_healthText (healthCount : HealthCounts) (sensors : Registry) :
    listedOffline (healthText healthCount sensors) = (healthCounts sensors).offline := by
  have hhead : (healthLines healthCount).countP
      (fun l ↦ (ascii "- Sensor").isPrefixOf l) = 0 := rfl
  have hrows : ∀ l ∈ offlineLines sensors, (ascii "- Sensor").isPrefixOf l := by
    intro l hl
    obtain ⟨e, -, rfl⟩ := List.mem_map.mp hl
    rfl
  have htail : [[], [], [], []].countP (fun l ↦ (ascii "- Sensor").isPrefixOf l) = 0 := rfl
  rw [listedOffline, splitOn_healthText, List.countP_append, List.countP_append, hhead, htail,
    List.countP_eq_length.mpr hrows, zero_add, add_zero, offlineLines, List.length_map]
  exact List.countP_eq_length_filter.symm

theorem summaryAgrees_healthText_iff (healthCount : HealthCounts) (sensors : Registry) :
    SummaryAgrees (healthText healthCount sensors) ↔
      healthCount.offline = (healthCounts sensors).offline := by
  rw [SummaryAgrees, printedOffline_healthText, listedOffline_healthText, Option.some.injEq,
    to_string_injective.eq_iff]

/-- The statistics agree exactly when the sensors heard by the second copy
are no more than those registered at the first; the summary agrees exactly
when as many sensors are offline at the second copy as at the first. -/
theorem reports_agree_iff (i : Instant) (gaps : List (List (Call × UInt64))) :
    (StatsAgree (getStats.exec Instant.next i gaps) ↔
      {id | Heard (firstCopy i gaps) (between gaps) id}.ncard ≤ (firstCopy i gaps).size) ∧
    (SummaryAgrees (healthSummary.exec Instant.next i gaps) ↔
      {id | OfflineAfter (firstCopy i gaps) (between gaps) id}.ncard =
        {id | OfflineIn (firstCopy i gaps) id}.ncard) := by
  obtain ⟨htotal, hhealth⟩ := getStats_exec i gaps
  constructor
  · rw [StatsAgree, htotal, hhealth, online_add_offline_secondCopy]
  · rw [healthSummary_exec, summaryAgrees_healthText_iff, offline_secondCopy, offline_eq_ncard]

/-- A first heartbeat between the copies is counted online in a registry of
no sensors; a heartbeat between the copies of a summary leaves its row under
a count of 0. -/
theorem reports_disagree :
    ¬ StatsAgree (getStats.exec Instant.next ⟨{}, 0⟩
      [[], [(.handlePacket heartbeatPacket7, 1000)]]) ∧
    ¬ SummaryAgrees (healthSummary.exec Instant.next ⟨{}, 0⟩
      [[(.handlePacket heartbeatPacket7, 1000), (.detectOfflineSensors, 20000)],
        [(.handlePacket heartbeatPacket7, 21000)]]) := by
  constructor
  · unfold StatsAgree
    decide
  · rw [healthSummary_exec, summaryAgrees_healthText_iff]
    decide

end SmartSensorNetwork.Monitor
