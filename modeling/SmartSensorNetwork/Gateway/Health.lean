import SmartSensorNetwork.Gateway.Replay

/-!
# Health and heartbeat age

The health of a sensor depends on its last heartbeat and on the scans after
it, and on nothing else. The closed form is first proved for arbitrary clock
readings, with the subtraction modulo `2 ^ 64` that the code performs; a
clock that never goes back then removes the wrap-around.
-/

namespace SmartSensorNetwork.Gateway

open CppStd

/-- The fields of an entry that heartbeats and scans determine. -/
structure Beat where
  last : UInt64 := 0
  health : SensorHealth := .unknown
  deriving DecidableEq

def beat (info : SensorInfo) : Beat := ⟨info.lastHeartbeatReceivedTime, info.health⟩

/-- The entry of a sensor, as far as heartbeats and scans determine it. -/
def heard (id : UInt32) (gateway : Gateway) : Beat := beat ((gateway.sensors.lookup id).getD {})

def lastHeard (gateway : Gateway) (id : UInt32) : UInt64 := (heard id gateway).last

theorem lastHeard_of_lookup {gateway : Gateway} {id : UInt32} {info : SensorInfo}
    (h : gateway.sensors.lookup id = some info) :
    gateway.lastHeard id = info.lastHeartbeatReceivedTime := by
  rw [lastHeard, heard, h]
  rfl

def HeartbeatFrom (id : UInt32) (call : Call) : Prop :=
  ∃ b, call = .handlePacket b ∧ AcceptsHeartbeat b ∧ (Wire.header b).sensorId = id

def Overdue (h t : UInt64) : Prop := h ≠ 0 ∧ sensorHeartbeatTimeoutMs < t - h

instance (h t : UInt64) : Decidable (Overdue h t) := inferInstanceAs (Decidable (_ ∧ _))

theorem heartbeatFrom_handlePacket {id : UInt32} {b : ByteString} (h : AcceptsHeartbeat b) :
    HeartbeatFrom id (.handlePacket b) ↔ (Wire.header b).sensorId = id := by
  constructor
  · rintro ⟨b', hb, -, hid⟩
    cases hb
    exact hid
  · exact fun hid ↦ ⟨b, rfl, h, hid⟩

theorem not_heartbeatFrom_of_not_accepts {id : UInt32} {call : Call}
    (h : ∀ b, call = .handlePacket b → ¬ AcceptsHeartbeat b) : ¬ HeartbeatFrom id call := by
  rintro ⟨b, hcall, hacc, -⟩
  exact h b hcall hacc

/-! ## One call -/

theorem goesOffline_iff {t : UInt64} {info : SensorInfo} :
    goesOffline t info ↔ info.health = .online ∧ Overdue info.lastHeartbeatReceivedTime t := by
  cases hhealth : info.health with
  | unknown => simp [goesOffline, hhealth]
  | offline => simp [goesOffline, hhealth]
  | online => simp [goesOffline, Overdue, hhealth]

theorem checkSensor_eq_offline_iff {t : UInt64} {info : SensorInfo}
    (hhealth : info.health ≠ .offline) :
    (checkSensor t info).health = .offline ↔ goesOffline t info := by
  rw [checkSensor]
  split_ifs with hgoes
  · exact iff_of_true rfl hgoes
  · exact iff_of_false hhealth hgoes

theorem beat_checkSensor (t : UInt64) (info : SensorInfo) :
    beat (checkSensor t info) =
      { beat info with
        health := if info.health ≠ .unknown ∧ Overdue info.lastHeartbeatReceivedTime t then
          .offline else info.health } := by
  rw [checkSensor]
  by_cases hgoes : goesOffline t info
  · obtain ⟨honline, hoverdue⟩ := goesOffline_iff.mp hgoes
    simp [hgoes, beat, honline, hoverdue]
  · rw [if_neg hgoes]
    have hnot := mt goesOffline_iff.mpr hgoes
    cases hhealth : info.health with
    | unknown => simp [beat, hhealth]
    | offline => simp [beat, hhealth]
    | online => simp [beat, hhealth, not_and.mp hnot hhealth]

theorem beat_entryStep_of_heartbeat {id : UInt32} {call : Call} (h : HeartbeatFrom id call)
    (t : UInt64) (entry : Option SensorInfo) :
    beat ((entryStep id t entry call.input).getD {}) = ⟨t, .online⟩ := by
  obtain ⟨b, rfl, hacc, hid⟩ := h
  have hnot : ¬ AcceptsTelemetry b := fun ht ↦ not_acceptsHeartbeat ht hacc
  simp [Call.input, hacc, hnot, entryStep, hid, beat]

theorem beat_entryStep_of_not_heartbeat {id : UInt32} {call : Call} (h : ¬ HeartbeatFrom id call)
    (t : UInt64) (entry : Option SensorInfo) :
    beat ((entryStep id t entry call.input).getD {}) =
      { beat (entry.getD {}) with
        health := if call = .detectOfflineSensors ∧ (entry.getD {}).health ≠ .unknown ∧
            Overdue (entry.getD {}).lastHeartbeatReceivedTime t then .offline
          else (entry.getD {}).health } := by
  cases call with
  | handlePacket b =>
      by_cases htelemetry : AcceptsTelemetry b
      · by_cases hid : (Wire.telemetry b).header.sensorId = id <;>
          simp [Call.input, htelemetry, entryStep, hid, beat]
      · by_cases hheartbeat : AcceptsHeartbeat b
        · have hid : ¬ (Wire.header b).sensorId = id := fun hid ↦
            h ((heartbeatFrom_handlePacket hheartbeat).mpr hid)
          simp [Call.input, htelemetry, hheartbeat, entryStep, hid, beat]
        · simp [Call.input, htelemetry, hheartbeat, entryStep, beat]
  | detectOfflineSensors =>
      cases entry with
      | none => rfl
      | some info => simpa [Call.input, entryStep] using beat_checkSensor t info
  | getSecondsSinceLastHeartbeat i => simp [Call.input, entryStep, beat]

/-! ## Runs with arbitrary readings -/

def HasOverdueScan (h : UInt64) (calls : List (Call × UInt64)) : Prop :=
  ∃ call ∈ calls, call.1 = .detectOfflineSensors ∧ Overdue h call.2

instance (h : UInt64) (calls : List (Call × UInt64)) : Decidable (HasOverdueScan h calls) :=
  inferInstanceAs (Decidable (∃ call ∈ calls, _ ∧ _))

theorem hasOverdueScan_concat {h : UInt64} {calls : List (Call × UInt64)}
    {call : Call × UInt64} :
    HasOverdueScan h (calls ++ [call]) ↔
      HasOverdueScan h calls ∨ call.1 = .detectOfflineSensors ∧ Overdue h call.2 := by
  constructor
  · rintro ⟨c, hmem, hlate⟩
    rcases List.mem_append.mp hmem with hmem | hmem
    · exact .inl ⟨c, hmem, hlate⟩
    · exact .inr (List.mem_singleton.mp hmem ▸ hlate)
  · rintro (⟨c, hmem, hlate⟩ | hlate)
    · exact ⟨c, List.mem_append_left _ hmem, hlate⟩
    · exact ⟨call, by simp, hlate⟩

/-- While a sensor is not heard, its beat keeps its time, and it goes offline
at the first overdue scan. -/
theorem beat_entryRun_of_silent {id : UInt32} {calls : List (Call × UInt64)}
    (hsilent : ∀ call ∈ calls, ¬ HeartbeatFrom id call.1) (entry : Option SensorInfo) :
    beat ((entryRun id entry calls).getD {}) =
      { beat (entry.getD {}) with
        health := if (entry.getD {}).health ≠ .unknown ∧
            HasOverdueScan (entry.getD {}).lastHeartbeatReceivedTime calls then .offline
          else (entry.getD {}).health } := by
  induction calls using List.reverseRecOn with
  | nil => simp [HasOverdueScan, beat]
  | append_singleton calls call ih =>
      have hcall : ¬ HeartbeatFrom id call.1 := hsilent call (by simp)
      have hrest := ih fun c hc ↦ hsilent c (List.mem_append_left _ hc)
      have hlast := congrArg Beat.last hrest
      have hhealth := congrArg Beat.health hrest
      simp only [beat] at hlast hhealth
      rw [entryRun_concat, beat_entryStep_of_not_heartbeat hcall, hrest, hlast, hhealth]
      simp only [hasOverdueScan_concat, Beat.mk.injEq, true_and]
      by_cases hunknown : (entry.getD {}).health = .unknown
      · simp [hunknown]
      · by_cases hscan : HasOverdueScan (entry.getD {}).lastHeartbeatReceivedTime calls <;>
          simp [hunknown, hscan]

/-- The beat of a sensor that was heard: the time of its last heartbeat, and
offline exactly when a later scan found it overdue. -/
theorem beat_entryRun_of_heard {id : UInt32} {pre post : List (Call × UInt64)}
    {call : Call × UInt64} (hcall : HeartbeatFrom id call.1)
    (hsilent : ∀ c ∈ post, ¬ HeartbeatFrom id c.1) (entry : Option SensorInfo) :
    beat ((entryRun id entry (pre ++ call :: post)).getD {}) =
      ⟨call.2, if HasOverdueScan call.2 post then .offline else .online⟩ := by
  have hheard := beat_entryStep_of_heartbeat hcall call.2 (entryRun id entry pre)
  have hlast := congrArg Beat.last hheard
  have hhealth := congrArg Beat.health hheard
  simp only [beat] at hlast hhealth
  have hsplit : entryRun id entry (pre ++ call :: post) =
      entryRun id (entryStep id call.2 (entryRun id entry pre) call.1.input) post := by
    rw [← entryRun_concat, ← entryRun_append, List.append_assoc]
    rfl
  rw [hsplit, beat_entryRun_of_silent hsilent, hheard, hlast, hhealth]
  simp

theorem health_entryRun_of_silent {id : UInt32} {calls : List (Call × UInt64)}
    (hsilent : ∀ call ∈ calls, ¬ HeartbeatFrom id call.1) (entry : Option SensorInfo) :
    ((entryRun id entry calls).getD {}).health =
      if (entry.getD {}).health ≠ .unknown ∧
        HasOverdueScan (entry.getD {}).lastHeartbeatReceivedTime calls then .offline
      else (entry.getD {}).health :=
  congrArg Beat.health (beat_entryRun_of_silent hsilent entry)

theorem health_entryRun_of_heard {id : UInt32} {pre post : List (Call × UInt64)}
    {call : Call × UInt64} (hcall : HeartbeatFrom id call.1)
    (hsilent : ∀ c ∈ post, ¬ HeartbeatFrom id c.1) (entry : Option SensorInfo) :
    ((entryRun id entry (pre ++ call :: post)).getD {}).health =
      if HasOverdueScan call.2 post then .offline else .online :=
  congrArg Beat.health (beat_entryRun_of_heard hcall hsilent entry)

theorem silent_or_last_heartbeat (id : UInt32) (calls : List (Call × UInt64)) :
    (∀ call ∈ calls, ¬ HeartbeatFrom id call.1) ∨
      ∃ pre call post, calls = pre ++ call :: post ∧ HeartbeatFrom id call.1 ∧
        ∀ c ∈ post, ¬ HeartbeatFrom id c.1 := by
  induction calls using List.reverseRecOn with
  | nil => exact .inl (by simp)
  | append_singleton calls call ih =>
      by_cases hcall : HeartbeatFrom id call.1
      · exact .inr ⟨calls, call, [], rfl, hcall, by simp⟩
      · rcases ih with hsilent | ⟨pre, last, post, rfl, hlast, hsilent⟩
        · refine .inl fun c hc ↦ ?_
          rcases List.mem_append.mp hc with hc | hc
          · exact hsilent c hc
          · exact List.mem_singleton.mp hc ▸ hcall
        · refine .inr ⟨pre, last, post ++ [call], by simp, hlast, fun c hc ↦ ?_⟩
          rcases List.mem_append.mp hc with hc | hc
          · exact hsilent c hc
          · exact List.mem_singleton.mp hc ▸ hcall

/-! ## A clock that never goes back -/

/-- The readings of a run are positive and never decrease. -/
structure ClockOrdered (calls : List (Call × UInt64)) : Prop where
  positive : ∀ call ∈ calls, 0 < call.2
  ordered : calls.Pairwise fun c d ↦ c.2 ≤ d.2

def NotBefore (calls : List (Call × UInt64)) (t : UInt64) : Prop :=
  ∀ call ∈ calls, call.2 ≤ t

/-- The last heartbeat of `id` was taken at `h`, and a later scan ran more
than ten seconds after it. -/
def MissedSince (id : UInt32) (calls : List (Call × UInt64)) : Prop :=
  ∃ pre call post t, calls = pre ++ call :: post ∧ HeartbeatFrom id call.1 ∧
    (∀ c ∈ post, ¬ HeartbeatFrom id c.1) ∧ (Call.detectOfflineSensors, t) ∈ post ∧
      call.2.toNat + 10000 < t.toNat

structure HealthMeaning (calls : List (Call × UInt64)) (gateway : Gateway) : Prop where
  unknown : ∀ id info, gateway.sensors.lookup id = some info →
    (info.health = .unknown ↔ ∀ call ∈ calls, ¬ HeartbeatFrom id call.1)
  offline : ∀ id info, gateway.sensors.lookup id = some info →
    (info.health = .offline ↔ MissedSince id calls)
  online : ∀ id info, gateway.sensors.lookup id = some info →
    (info.health = .online ↔
      (∃ call ∈ calls, HeartbeatFrom id call.1) ∧ ¬ MissedSince id calls)
  afterScan : ∀ t, NotBefore calls t → ∀ id info h,
    (gateway.perform t .detectOfflineSensors).sensors.lookup id = some info →
    lastHeartbeat id calls = some h →
    (info.health = .offline ↔ h.toNat + 10000 < t.toNat)
  noWrap : ∀ t, NotBefore calls t → ∀ id info, gateway.sensors.lookup id = some info →
    info.lastHeartbeatReceivedTime ≤ t ∧
      (t - info.lastHeartbeatReceivedTime).toNat =
        t.toNat - info.lastHeartbeatReceivedTime.toNat
  age : ∀ t, NotBefore calls t → ∀ id,
    (gateway.getSecondsSinceLastHeartbeat t id).toNat =
      match lastHeartbeat id calls with
      | some h => (t.toNat - h.toNat) / 1000
      | none => 0

theorem overdue_iff {h t : UInt64} (hpos : 0 < h) (hle : h ≤ t) :
    Overdue h t ↔ h.toNat + 10000 < t.toNat := by
  have hne : h ≠ 0 := by
    rintro rfl
    exact absurd hpos (by decide)
  have hle' : h.toNat ≤ t.toNat := UInt64.le_iff_toNat_le.mp hle
  have htimeout : sensorHeartbeatTimeoutMs.toNat = 10000 := rfl
  rw [Overdue, and_iff_right hne, UInt64.lt_iff_toNat_lt, UInt64.toNat_sub_of_le _ _ hle, htimeout]
  omega

theorem heartbeatFrom_iff_heartbeatOf {id : UInt32} {call : Call × UInt64} :
    HeartbeatFrom id call.1 ↔ heartbeatOf id call = some call.2 := by
  obtain ⟨call, t⟩ := call
  cases call with
  | handlePacket b =>
      by_cases hacc : AcceptsHeartbeat b
      · rw [heartbeatFrom_handlePacket hacc]
        by_cases hid : (Wire.header b).sensorId = id <;> simp [heartbeatOf, hacc, hid]
      · have hnot : ¬ HeartbeatFrom id (.handlePacket b) := by
          rintro ⟨b', hb, hacc', -⟩
          cases hb
          exact hacc hacc'
        simp [heartbeatOf, hacc, hnot]
  | detectOfflineSensors => simp [HeartbeatFrom, heartbeatOf]
  | getSecondsSinceLastHeartbeat i => simp [HeartbeatFrom, heartbeatOf]

theorem heartbeatOf_eq_none {id : UInt32} {call : Call × UInt64}
    (h : ¬ HeartbeatFrom id call.1) : heartbeatOf id call = none := by
  obtain ⟨call, t⟩ := call
  cases call with
  | handlePacket b =>
      by_cases hacc : AcceptsHeartbeat b
      · have hid := mt (heartbeatFrom_handlePacket hacc).mpr h
        simp [heartbeatOf, hid]
      · simp [heartbeatOf, hacc]
  | detectOfflineSensors => rfl
  | getSecondsSinceLastHeartbeat i => rfl

theorem lastHeartbeat_of_silent {id : UInt32} {calls : List (Call × UInt64)}
    (hsilent : ∀ call ∈ calls, ¬ HeartbeatFrom id call.1) : lastHeartbeat id calls = none := by
  have hnil : calls.filterMap (heartbeatOf id) = [] :=
    List.filterMap_eq_nil_iff.mpr fun call hcall ↦ heartbeatOf_eq_none (hsilent call hcall)
  rw [lastHeartbeat, hnil]
  rfl

theorem lastHeartbeat_of_heard {id : UInt32} {pre post : List (Call × UInt64)}
    {call : Call × UInt64} (hcall : HeartbeatFrom id call.1)
    (hsilent : ∀ c ∈ post, ¬ HeartbeatFrom id c.1) :
    lastHeartbeat id (pre ++ call :: post) = some call.2 := by
  have hnil : post.filterMap (heartbeatOf id) = [] :=
    List.filterMap_eq_nil_iff.mpr fun c hc ↦ heartbeatOf_eq_none (hsilent c hc)
  simp [lastHeartbeat, List.filterMap_append, heartbeatFrom_iff_heartbeatOf.mp hcall, hnil]

/-! ## Fresh runs with an ordered clock -/

theorem beat_of_lookup_run {calls : List (Call × UInt64)} {id : UInt32} {info : SensorInfo}
    (hlookup : (({} : Gateway).run calls).sensors.lookup id = some info) :
    beat info = beat ((entryRun id none calls).getD {}) := by
  rw [lookup_run] at hlookup
  have hrun : entryRun id none calls = some info := hlookup
  rw [hrun, Option.getD_some]

theorem beat_fresh_of_silent {id : UInt32} {calls : List (Call × UInt64)}
    (hsilent : ∀ call ∈ calls, ¬ HeartbeatFrom id call.1) :
    beat ((entryRun id none calls).getD {}) = ⟨0, .unknown⟩ := by
  rw [beat_entryRun_of_silent hsilent]
  simp [beat]

theorem ClockOrdered.append_left {calls more : List (Call × UInt64)}
    (h : ClockOrdered (calls ++ more)) : ClockOrdered calls where
  positive c hc := h.positive c (List.mem_append_left _ hc)
  ordered := (List.pairwise_append.mp h.ordered).1

theorem ClockOrdered.le_of_split {pre post : List (Call × UInt64)} {call c : Call × UInt64}
    (hclock : ClockOrdered (pre ++ call :: post)) (hc : c ∈ post) : call.2 ≤ c.2 :=
  (List.pairwise_cons.mp (List.pairwise_append.mp hclock.ordered).2.1).1 c hc

/-- With an ordered clock the modular test of a scan is the real one. -/
theorem hasOverdueScan_iff {pre post : List (Call × UInt64)} {call : Call × UInt64}
    (hclock : ClockOrdered (pre ++ call :: post)) :
    HasOverdueScan call.2 post ↔
      ∃ t, (Call.detectOfflineSensors, t) ∈ post ∧ call.2.toNat + 10000 < t.toNat := by
  have hpos : 0 < call.2 := hclock.positive call (by simp)
  constructor
  · rintro ⟨⟨c, t⟩, hc, rfl, hlate⟩
    exact ⟨t, hc, (overdue_iff hpos (hclock.le_of_split hc)).mp hlate⟩
  · rintro ⟨t, hc, hlate⟩
    exact ⟨_, hc, rfl, (overdue_iff hpos (hclock.le_of_split hc)).mpr hlate⟩

theorem offline_iff_missedSince {id : UInt32} {calls : List (Call × UInt64)}
    (hclock : ClockOrdered calls) :
    (beat ((entryRun id none calls).getD {})).health = .offline ↔ MissedSince id calls := by
  constructor
  · intro hoffline
    rcases silent_or_last_heartbeat id calls with hsilent | ⟨pre, call, post, rfl, hcall, hsilent⟩
    · rw [beat_fresh_of_silent hsilent] at hoffline
      cases hoffline
    · rw [beat_entryRun_of_heard hcall hsilent] at hoffline
      by_cases hscan : HasOverdueScan call.2 post
      · obtain ⟨t, hmem, hlate⟩ := (hasOverdueScan_iff hclock).mp hscan
        exact ⟨pre, call, post, t, rfl, hcall, hsilent, hmem, hlate⟩
      · simp [hscan] at hoffline
  · rintro ⟨pre, call, post, t, rfl, hcall, hsilent, hmem, hlate⟩
    have hscan : HasOverdueScan call.2 post := (hasOverdueScan_iff hclock).mpr ⟨t, hmem, hlate⟩
    rw [beat_entryRun_of_heard hcall hsilent, if_pos hscan]

theorem unknown_iff_silent {id : UInt32} {calls : List (Call × UInt64)} :
    (beat ((entryRun id none calls).getD {})).health = .unknown ↔
      ∀ call ∈ calls, ¬ HeartbeatFrom id call.1 := by
  constructor
  · intro hunknown
    rcases silent_or_last_heartbeat id calls with hsilent | ⟨pre, call, post, rfl, hcall, hsilent⟩
    · exact hsilent
    · rw [beat_entryRun_of_heard hcall hsilent] at hunknown
      by_cases hscan : HasOverdueScan call.2 post <;> simp [hscan] at hunknown
  · intro hsilent
    rw [beat_fresh_of_silent hsilent]

theorem online_iff {id : UInt32} {calls : List (Call × UInt64)} (hclock : ClockOrdered calls) :
    (beat ((entryRun id none calls).getD {})).health = .online ↔
      (∃ call ∈ calls, HeartbeatFrom id call.1) ∧ ¬ MissedSince id calls := by
  have hunknown : (beat ((entryRun id none calls).getD {})).health = .unknown ↔
      ∀ call ∈ calls, ¬ HeartbeatFrom id call.1 := unknown_iff_silent
  have hoffline : (beat ((entryRun id none calls).getD {})).health = .offline ↔
      MissedSince id calls := offline_iff_missedSince hclock
  cases hhealth : (beat ((entryRun id none calls).getD {})).health with
  | unknown =>
      have hsilent := hunknown.mp hhealth
      simp only [reduceCtorEq, false_iff, not_and]
      rintro ⟨call, hmem, hcall⟩
      exact absurd hcall (hsilent call hmem)
  | offline => simp [hoffline.mp hhealth]
  | online =>
      have hheard : ∃ call ∈ calls, HeartbeatFrom id call.1 := by
        by_contra hnone
        push Not at hnone
        have := hunknown.mpr hnone
        rw [hhealth] at this
        cases this
      have hmissed : ¬ MissedSince id calls := fun hmissed ↦ by
        have := hoffline.mpr hmissed
        rw [hhealth] at this
        cases this
      exact iff_of_true rfl ⟨hheard, hmissed⟩

theorem last_entryRun (id : UInt32) {calls : List (Call × UInt64)} {t : UInt64}
    (ht : NotBefore calls t) :
    (beat ((entryRun id none calls).getD {})).last = (lastHeartbeat id calls).getD 0 ∧
      (lastHeartbeat id calls).getD 0 ≤ t := by
  rcases silent_or_last_heartbeat id calls with hsilent | ⟨pre, call, post, rfl, hcall, hsilent⟩
  · rw [beat_fresh_of_silent hsilent, lastHeartbeat_of_silent hsilent]
    exact ⟨rfl, UInt64.le_iff_toNat_le.mpr (Nat.zero_le _)⟩
  · rw [beat_entryRun_of_heard hcall hsilent, lastHeartbeat_of_heard hcall hsilent]
    exact ⟨rfl, ht call (by simp)⟩

theorem lastHeartbeat_pos {id : UInt32} {calls : List (Call × UInt64)} {h : UInt64}
    (hclock : ClockOrdered calls) (hlast : lastHeartbeat id calls = some h) : 0 < h := by
  rcases silent_or_last_heartbeat id calls with hsilent | ⟨pre, call, post, rfl, hcall, hsilent⟩
  · rw [lastHeartbeat_of_silent hsilent] at hlast
    cases hlast
  · rw [lastHeartbeat_of_heard hcall hsilent] at hlast
    cases hlast
    exact hclock.positive call (by simp)

theorem ClockOrdered.concat {calls : List (Call × UInt64)} {t : UInt64} (call : Call)
    (hclock : ClockOrdered calls) (hpos : 0 < t) (ht : NotBefore calls t) :
    ClockOrdered (calls ++ [(call, t)]) where
  positive c hc := by
    rcases List.mem_append.mp hc with hc | hc
    · exact hclock.positive c hc
    · exact List.mem_singleton.mp hc ▸ hpos
  ordered := List.pairwise_append.mpr ⟨hclock.ordered, by simp, fun c hc d hd ↦
    List.mem_singleton.mp hd ▸ ht c hc⟩

theorem offline_after_scan {id : UInt32} {calls : List (Call × UInt64)} {t h : UInt64}
    (hclock : ClockOrdered calls) (ht : NotBefore calls t)
    (hlast : lastHeartbeat id calls = some h) :
    MissedSince id (calls ++ [(.detectOfflineSensors, t)]) ↔ h.toNat + 10000 < t.toNat := by
  rcases silent_or_last_heartbeat id calls with hsilent | ⟨pre, call, post, rfl, hcall, hsilent⟩
  · rw [lastHeartbeat_of_silent hsilent] at hlast
    cases hlast
  · rw [lastHeartbeat_of_heard hcall hsilent] at hlast
    cases hlast
    have hle : call.2 ≤ t := ht call (by simp)
    have hpos : 0 < call.2 := hclock.positive call (by simp)
    have hpost : ∀ c ∈ post ++ [(Call.detectOfflineSensors, t)], ¬ HeartbeatFrom id c.1 := by
      intro c hc
      rcases List.mem_append.mp hc with hc | hc
      · exact hsilent c hc
      · rw [List.mem_singleton.mp hc]
        exact not_heartbeatFrom_of_not_accepts (by simp)
    have hclock' := hclock.concat .detectOfflineSensors (UInt64.lt_of_lt_of_le hpos hle) ht
    rw [← offline_iff_missedSince hclock', List.append_assoc, List.cons_append,
      beat_entryRun_of_heard hcall hpost]
    constructor
    · intro hoffline
      by_cases hscan : HasOverdueScan call.2 (post ++ [(.detectOfflineSensors, t)])
      · rcases hasOverdueScan_concat.mp hscan with hscan | ⟨-, hlate⟩
        · obtain ⟨t', hmem, hlate⟩ := (hasOverdueScan_iff hclock).mp hscan
          have hle' : t'.toNat ≤ t.toNat :=
            UInt64.le_iff_toNat_le.mp (ht (.detectOfflineSensors, t') (by simp [hmem]))
          omega
        · exact (overdue_iff hpos hle).mp hlate
      · simp [hscan] at hoffline
    · intro hlate
      have hoverdue : Overdue call.2 t := (overdue_iff hpos hle).mpr hlate
      have hscan : HasOverdueScan call.2 (post ++ [(.detectOfflineSensors, t)]) :=
        hasOverdueScan_concat.mpr (.inr ⟨rfl, hoverdue⟩)
      simp [hscan]

theorem age_entryRun {id : UInt32} {calls : List (Call × UInt64)} {t : UInt64}
    (hclock : ClockOrdered calls) (ht : NotBefore calls t) :
    ((({} : Gateway).run calls).getSecondsSinceLastHeartbeat t id).toNat =
      match lastHeartbeat id calls with
      | some h => (t.toNat - h.toNat) / 1000
      | none => 0 := by
  have hlast := last_entryRun id ht
  have hage : (({} : Gateway).run calls).getSecondsSinceLastHeartbeat t id =
      if (beat ((entryRun id none calls).getD {})).last = 0 then 0
      else (t - (beat ((entryRun id none calls).getD {})).last) / 1000 := by
    have hlookup : (({} : Gateway).run calls).sensors.lookup id = entryRun id none calls :=
      lookup_run {} calls id
    rw [getSecondsSinceLastHeartbeat, hlookup]
    cases entryRun id none calls <;> rfl
  rw [hage, hlast.1]
  cases hsome : lastHeartbeat id calls with
  | none => rfl
  | some h =>
      have hpos : 0 < h := lastHeartbeat_pos hclock hsome
      have hne : h ≠ 0 := by
        rintro rfl
        exact absurd hpos (by decide)
      have hle : h ≤ t := by simpa [hsome] using hlast.2
      simp only [Option.getD_some, hne, if_false]
      rw [UInt64.toNat_div, UInt64.toNat_sub_of_le _ _ hle]
      rfl

/-- In every run with a positive clock that never goes back, health and
heartbeat age mean what they say, and no subtraction wraps. -/
theorem health_has_its_meaning (calls : List (Call × UInt64)) (hclock : ClockOrdered calls) :
    HealthMeaning calls (({} : Gateway).run calls) where
  unknown id info hlookup := by
    rw [← unknown_iff_silent, ← beat_of_lookup_run hlookup]
    rfl
  offline id info hlookup := by
    rw [← offline_iff_missedSince hclock, ← beat_of_lookup_run hlookup]
    rfl
  online id info hlookup := by
    rw [← online_iff hclock, ← beat_of_lookup_run hlookup]
    rfl
  afterScan t ht id info h hlookup hlast := by
    have hpos : 0 < t := by
      have hle := (last_entryRun id ht).2
      rw [hlast] at hle
      exact UInt64.lt_of_lt_of_le (lastHeartbeat_pos hclock hlast) hle
    have hclock' := hclock.concat .detectOfflineSensors hpos ht
    rw [← run_concat _ calls (.detectOfflineSensors, t)] at hlookup
    rw [← offline_after_scan hclock ht hlast, ← offline_iff_missedSince hclock',
      ← beat_of_lookup_run hlookup]
    rfl
  noWrap t ht id info hlookup := by
    have hlast := last_entryRun id ht
    have hle : info.lastHeartbeatReceivedTime ≤ t := by
      rw [← hlast.1, ← beat_of_lookup_run hlookup] at hlast
      exact hlast.2
    exact ⟨hle, UInt64.toNat_sub_of_le _ _ hle⟩
  age t ht id := age_entryRun hclock ht

def heartbeatPacket7 : ByteString :=
  PacketSerializer.serializeHeartbeat ⟨⟨.heartbeat, 7, 0⟩⟩

/-- A scan at exactly ten seconds, an age query, and a scan one past it. -/
theorem health_has_its_meaning_at_the_boundary :
    HealthMeaning
      [(.handlePacket heartbeatPacket7, 1000), (.detectOfflineSensors, 11000),
        (.getSecondsSinceLastHeartbeat 7, 11000), (.detectOfflineSensors, 11001)]
      (({} : Gateway).run
        [(.handlePacket heartbeatPacket7, 1000), (.detectOfflineSensors, 11000),
          (.getSecondsSinceLastHeartbeat 7, 11000), (.detectOfflineSensors, 11001)]) :=
  health_has_its_meaning _ ⟨by decide, by decide⟩

end SmartSensorNetwork.Gateway
