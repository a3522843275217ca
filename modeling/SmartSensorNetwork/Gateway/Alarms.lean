import SmartSensorNetwork.Gateway.Watchdog

/-!
# One alarm per outage

A scan logs a line for each sensor that it puts offline. The line is armed
again by a heartbeat, and by nothing else.
-/

namespace SmartSensorNetwork.Gateway

open CppStd

/-- What one call hands to the logger. -/
def lines (gateway : Gateway) (call : Call × UInt64) : List ByteString :=
  (gateway.perform call.2 call.1).logger.drop gateway.logger.length

def healthOf (gateway : Gateway) (id : UInt32) : Option SensorHealth :=
  (gateway.sensors.lookup id).map SensorInfo.health

/-- The call takes the sensor from online to offline. -/
def GoesDown (gateway : Gateway) (id : UInt32) (call : Call × UInt64) : Prop :=
  gateway.healthOf id = some .online ∧
    (gateway.perform call.2 call.1).healthOf id = some .offline

instance (gateway : Gateway) (id : UInt32) (call : Call × UInt64) :
    Decidable (gateway.GoesDown id call) :=
  inferInstanceAs (Decidable (_ ∧ _))

def outages (gateway : Gateway) (id : UInt32) : List (Call × UInt64) → ℕ
  | [] => 0
  | call :: calls =>
      (if gateway.GoesDown id call then 1 else 0) +
        outages (gateway.perform call.2 call.1) id calls

structure OneAlarmPerOutage (id : UInt32) (calls : List (Call × UInt64)) : Prop where
  count_eq : (({} : Gateway).run calls).logger.count (offlineMessage id) =
    ({} : Gateway).outages id calls
  once : ∀ pre c post, calls = pre ++ c :: post →
    ((({} : Gateway).run pre).lines c).count (offlineMessage id) ≤ 1
  rearmed : ∀ pre c mid d post, calls = pre ++ c :: (mid ++ d :: post) →
    offlineMessage id ∈ (({} : Gateway).run pre).lines c →
    offlineMessage id ∈ (({} : Gateway).run (pre ++ c :: mid)).lines d →
    ∃ e ∈ mid, HeartbeatFrom id e.1
  late : ∀ pre c post, calls = pre ++ c :: post →
    offlineMessage id ∈ (({} : Gateway).run pre).lines c →
    c.1 = .detectOfflineSensors ∧
      ∃ h, lastHeartbeat id pre = some h ∧ h.toNat + 10000 < c.2.toNat
  unheard : ∀ pre c post, calls = pre ++ c :: post →
    (∀ e ∈ pre, ¬ HeartbeatFrom id e.1) →
    offlineMessage id ∉ (({} : Gateway).run pre).lines c

/-! ## One call -/

theorem offlineMessage_injective : Function.Injective offlineMessage := by
  intro a b h
  simp only [offlineMessage, List.append_assoc, List.append_cancel_left_eq,
    List.append_cancel_right_eq] at h
  exact UInt32.toNat_inj.mp (to_string_injective h)

theorem goesDown_detectOfflineSensors {gateway : Gateway} {id : UInt32} {t : UInt64} :
    gateway.GoesDown id (.detectOfflineSensors, t) ↔
      ∃ info, gateway.sensors.lookup id = some info ∧ goesOffline t info := by
  rw [GoesDown, healthOf, healthOf, perform, lookup_detectOfflineSensors]
  cases gateway.sensors.lookup id with
  | none => simp
  | some info =>
      simp only [Option.map_some, Option.some.injEq, entryStep, exists_eq_left']
      constructor
      · rintro ⟨honline, hoffline⟩
        exact (checkSensor_eq_offline_iff (by simp [honline])).mp hoffline
      · intro hgoes
        have honline := (goesOffline_iff.mp hgoes).1
        exact ⟨honline, (checkSensor_eq_offline_iff (by simp [honline])).mpr hgoes⟩

theorem not_goesDown_of_input {gateway : Gateway} {id : UInt32} {call : Call × UInt64}
    (h : call.1.input ≠ .scan) : ¬ gateway.GoesDown id call := by
  rintro ⟨hbefore, hafter⟩
  rw [healthOf, lookup_perform] at hafter
  rw [healthOf] at hbefore
  cases hlookup : gateway.sensors.lookup id with
  | none => simp [hlookup] at hbefore
  | some info =>
      have honline : info.health = .online := by simpa [hlookup] using hbefore
      cases hinput : call.1.input with
      | telemetry m =>
          by_cases hid : m.header.sensorId = id <;>
            simp [hlookup, hinput, entryStep, hid, honline] at hafter
      | heartbeat i =>
          by_cases hid : i = id <;> simp [hlookup, hinput, entryStep, hid, honline] at hafter
      | scan => exact h hinput
      | idle => simp [hlookup, hinput, entryStep, honline] at hafter

theorem eq_detectOfflineSensors {call : Call} (h : call.input = .scan) :
    call = .detectOfflineSensors := by
  cases call with
  | handlePacket b =>
      rw [Call.input] at h
      split_ifs at h
  | detectOfflineSensors => rfl
  | getSecondsSinceLastHeartbeat i => cases h

theorem count_lines (gateway : Gateway) (id : UInt32) (call : Call × UInt64) :
    (gateway.lines call).count (offlineMessage id) = if gateway.GoesDown id call then 1 else 0 := by
  obtain ⟨call, t⟩ := call
  obtain ⟨m, hinput, hperform⟩ | ⟨h, hinput, hperform⟩ | ⟨hinput, hperform⟩ |
    ⟨hinput, hperform | hperform⟩ := perform_cases gateway t call
  · rw [if_neg (not_goesDown_of_input (by simp [hinput])), lines, hperform]
    simp [updateSensorInfo]
  · rw [if_neg (not_goesDown_of_input (by simp [hinput])), lines, hperform]
    simp [handleHeartbeat]
  · obtain rfl := eq_detectOfflineSensors hinput
    have hlines : gateway.lines (.detectOfflineSensors, t) =
        (gateway.sensors.entries.filter fun e ↦ goesOffline t e.2).map
          fun e ↦ offlineMessage e.1 := by
      rw [lines, hperform, detectOfflineSensors]
      exact List.drop_left
    rw [hlines, AList.count_map_filter offlineMessage_injective fun _ info ↦ goesOffline t info]
    exact if_congr goesDown_detectOfflineSensors.symm rfl rfl
  · rw [if_neg (not_goesDown_of_input (by simp [hinput])), lines, hperform]
    simp
  · rw [if_neg (not_goesDown_of_input (by simp [hinput])), lines, hperform]
    simp [log, (offlineMessage_ne_unknownMessageType id).symm]

theorem offlineMessage_mem_lines {gateway : Gateway} {id : UInt32} {call : Call × UInt64} :
    offlineMessage id ∈ gateway.lines call ↔ gateway.GoesDown id call := by
  rw [← List.count_pos_iff, count_lines]
  split_ifs with h <;> simp [h]

theorem logger_perform (gateway : Gateway) (call : Call × UInt64) :
    (gateway.perform call.2 call.1).logger = gateway.logger ++ gateway.lines call := by
  have hgrows : gateway.logger <+: (gateway.perform call.2 call.1).logger := by
    obtain ⟨m, -, hperform⟩ | ⟨h, -, hperform⟩ | ⟨-, hperform⟩ | ⟨-, hperform | hperform⟩ :=
      perform_cases gateway call.2 call.1 <;> rw [hperform]
    · exact List.prefix_refl _
    · exact List.prefix_refl _
    · exact List.prefix_append _ _
    · exact List.prefix_append _ _
  obtain ⟨new, hnew⟩ := hgrows
  rw [lines, ← hnew, List.drop_left]

/-! ## Runs -/

theorem count_logger_run (gateway : Gateway) (id : UInt32) (calls : List (Call × UInt64)) :
    (gateway.run calls).logger.count (offlineMessage id) =
      gateway.logger.count (offlineMessage id) + gateway.outages id calls := by
  induction calls generalizing gateway with
  | nil => simp [outages]
  | cons call calls ih =>
      rw [run_cons, ih, logger_perform, List.count_append, count_lines, outages, Nat.add_assoc]

/-- An offline sensor that is not heard stays offline through packets of every
other kind and through scans. -/
theorem healthOf_run_of_silent {gateway : Gateway} {id : UInt32} {calls : List (Call × UInt64)}
    (hoffline : gateway.healthOf id = some .offline)
    (hsilent : ∀ e ∈ calls, ¬ HeartbeatFrom id e.1) :
    (gateway.run calls).healthOf id ≠ some .online := by
  intro honline
  rw [healthOf, lookup_run] at honline
  rw [healthOf] at hoffline
  have hhealth := health_entryRun_of_silent hsilent (gateway.sensors.lookup id)
  cases hlookup : gateway.sensors.lookup id with
  | none => simp [hlookup] at hoffline
  | some info =>
      have hinfo : info.health = .offline := by simpa [hlookup] using hoffline
      cases hentry : entryRun id (gateway.sensors.lookup id) calls with
      | none => simp [hentry] at honline
      | some info' =>
          rw [hentry] at hhealth honline
          simp_all

theorem run_append (gateway : Gateway) (calls more : List (Call × UInt64)) :
    gateway.run (calls ++ more) = (gateway.run calls).run more := by
  simp [run]

theorem exists_heartbeat_between {gateway : Gateway} {id : UInt32} {c d : Call × UInt64}
    {mid : List (Call × UInt64)} (hc : gateway.GoesDown id c)
    (hd : ((gateway.perform c.2 c.1).run mid).GoesDown id d) :
    ∃ e ∈ mid, HeartbeatFrom id e.1 := by
  by_contra hnone
  push Not at hnone
  exact healthOf_run_of_silent hc.2 hnone hd.1

/-- What precedes an alarm: a heartbeat, and more than the timeout since. -/
theorem late_of_goesDown {id : UInt32} {pre : List (Call × UInt64)} {c : Call × UInt64}
    (hclock : ClockOrdered (pre ++ [c])) (hdown : (({} : Gateway).run pre).GoesDown id c) :
    c.1 = .detectOfflineSensors ∧
      ∃ h, lastHeartbeat id pre = some h ∧ h.toNat + 10000 < c.2.toNat := by
  obtain ⟨call, t⟩ := c
  have hcall : call = .detectOfflineSensors := by
    apply eq_detectOfflineSensors
    by_contra hinput
    exact not_goesDown_of_input hinput hdown
  subst hcall
  refine ⟨rfl, ?_⟩
  obtain ⟨info, hlookup, hgoes⟩ := goesDown_detectOfflineSensors.mp hdown
  obtain ⟨honline, hoverdue⟩ := goesOffline_iff.mp hgoes
  have ht : NotBefore pre t := fun e he ↦
    (List.pairwise_append.mp hclock.ordered).2.2 e he _ (List.mem_singleton_self _)
  have hbeat := beat_of_lookup_run hlookup
  rcases silent_or_last_heartbeat id pre with hsilent | ⟨before, call, after, rfl, hcall, hsilent⟩
  · rw [beat_fresh_of_silent hsilent] at hbeat
    have hhealth := congrArg Beat.health hbeat
    simp [beat, honline] at hhealth
  · have hlast : lastHeartbeat id (before ++ call :: after) = some call.2 :=
      lastHeartbeat_of_heard hcall hsilent
    have hinfo : info.lastHeartbeatReceivedTime = call.2 := by
      rw [beat_entryRun_of_heard hcall hsilent] at hbeat
      exact congrArg Beat.last hbeat
    have hpos : 0 < call.2 := lastHeartbeat_pos hclock.append_left hlast
    rw [hinfo, overdue_iff hpos (ht call (by simp))] at hoverdue
    exact ⟨call.2, hlast, hoverdue⟩

theorem late_of_mem_lines {id : UInt32} {pre post : List (Call × UInt64)} {c : Call × UInt64}
    (hclock : ClockOrdered (pre ++ c :: post))
    (hc : offlineMessage id ∈ (({} : Gateway).run pre).lines c) :
    c.1 = .detectOfflineSensors ∧
      ∃ h, lastHeartbeat id pre = some h ∧ h.toNat + 10000 < c.2.toNat := by
  have hsplit : pre ++ c :: post = (pre ++ [c]) ++ post := by simp
  rw [hsplit] at hclock
  exact late_of_goesDown hclock.append_left (offlineMessage_mem_lines.mp hc)

/-- In every run with a positive clock that never goes back, the log of a
sensor has one line for each time that the sensor goes from online to offline. -/
theorem one_alarm_per_outage (id : UInt32) (calls : List (Call × UInt64))
    (hclock : ClockOrdered calls) : OneAlarmPerOutage id calls where
  count_eq := by
    rw [count_logger_run]
    exact Nat.zero_add _
  once pre c post _ := by
    rw [count_lines]
    split_ifs
    · exact le_refl 1
    · exact Nat.zero_le 1
  rearmed pre c mid d post _ hc hd := by
    rw [offlineMessage_mem_lines] at hc hd
    rw [run_append, run_cons] at hd
    exact exists_heartbeat_between hc hd
  late pre c post hcalls hc := by
    subst hcalls
    exact late_of_mem_lines hclock hc
  unheard pre c post hcalls hsilent hc := by
    subst hcalls
    obtain ⟨-, h, hlast, -⟩ := late_of_mem_lines hclock hc
    rw [lastHeartbeat_of_silent hsilent] at hlast
    cases hlast

/-- Sensor 7 is heard twice and missed twice; a third scan finds nothing new. -/
def heardTwice : List (Call × UInt64) :=
  [(.handlePacket heartbeatPacket7, 1000), (.detectOfflineSensors, 11001),
    (.detectOfflineSensors, 12000), (.handlePacket heartbeatPacket7, 13000),
    (.detectOfflineSensors, 23001)]

theorem one_alarm_per_outage_twice :
    OneAlarmPerOutage 7 heardTwice ∧ ({} : Gateway).outages 7 heardTwice = 2 ∧
      (({} : Gateway).run heardTwice).logger =
        [ascii "[GATEWAY] Sensor 7 is offline", ascii "[GATEWAY] Sensor 7 is offline"] :=
  ⟨one_alarm_per_outage 7 _ ⟨by decide, by decide⟩, by decide, by decide⟩

end SmartSensorNetwork.Gateway
