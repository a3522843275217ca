import SmartSensorNetwork.System.HeartbeatRuns

/-!
# Heartbeats as a failure detector

The timeout is long enough for a node that keeps its pace, and a node that has
stopped is found out in bounded time.
-/

namespace SmartSensorNetwork.FailureDetection

open CppStd Gateway SensorNode

/-- The timeout in nanoseconds. -/
def timeout : ℕ := sensorHeartbeatTimeoutMs.toNat * 1000000

theorem timeout_eq : timeout = 10000000000 := rfl

def spacing (bounds : Bounds) (interval : ℤ) : ℕ :=
  (milliseconds interval).toNat + bounds.passGap

/-- The promises fit into the timeout. -/
def InTime (bounds : Bounds) (interval : ℤ) : Prop :=
  spacing bounds interval + bounds.delay ≤ timeout

structure Invariant (bounds : Bounds) (id : UInt32) (interval : ℤ) (s : State) : Prop where
  getId : s.node.sensor.getId = id
  heartbeatInterval : s.node.heartbeatInterval = interval
  clock_lt : stamp bounds s.clock < 2 ^ 64
  scan_le : s.lastScan ≤ s.clock
  watched : s.clock ≤ s.lastScan + bounds.scanGap
  sent_le : ∀ p ∈ s.network, p.sentAt ≤ s.clock
  beat_le : s.timers.lastHeartbeat ≤ s.clock
  timer : InTime bounds interval →
    (s.lastPass : ℤ) < s.timers.lastHeartbeat + milliseconds interval
  newest : ∀ b ∈ (beats id s.network).head?, (b.sentAt : ℤ) = s.timers.lastHeartbeat
  live : s.halted = none → s.clock ≤ s.lastPass + bounds.passGap
  timely : InTime bounds interval →
    Beats.Timely (spacing bounds interval) bounds.delay s.clock (beats id s.network)
  handled : ∀ b ∈ beats id s.network, b.arrived = true →
    stamp bounds b.sentAt ≤ (heard id s.gateway).last.toNat
  arrived : (heard id s.gateway).health ≠ .unknown →
    0 < (heard id s.gateway).last ∧ ∃ b ∈ beats id s.network, b.arrived = true
  last_le : (heard id s.gateway).last.toNat ≤ stamp bounds s.clock
  online : InTime bounds interval → s.halted = none →
    (heard id s.gateway).health ≠ .offline ∧ offlineMessage id ∉ s.gateway.logger
  logged : (heard id s.gateway).health = .offline → offlineMessage id ∈ s.gateway.logger
  scanned : (heard id s.gateway).health = .online →
    stamp bounds s.lastScan ≤ (heard id s.gateway).last.toNat + 10000
  halted : ∀ T, s.halted = some T → (∀ p ∈ s.network, p.sentAt ≤ T) ∧
    (heard id s.gateway).last.toNat ≤ stamp bounds (T + bounds.delay)

/-! ## Steps -/

section Steps

variable {bounds : Bounds} {id : UInt32} {interval : ℤ} {s s' : State}

theorem invariant_start {node : SensorNode} (hid : node.sensor.getId = id)
    (hinterval : node.heartbeatInterval = interval) (hpos : 0 < interval)
    (hepoch : bounds.epoch < 2 ^ 64) : Invariant bounds id interval (start node) where
  getId := hid
  heartbeatInterval := hinterval
  clock_lt := by simpa [stamp, start] using hepoch
  scan_le := le_rfl
  watched := Nat.zero_le _
  sent_le p hp := by cases hp
  beat_le := le_rfl
  timer _ := by
    simp only [start, milliseconds]
    omega
  newest b hb := by cases hb
  live _ := Nat.zero_le _
  timely _ := Beats.Timely.nil
  handled b hb := by cases hb
  arrived h := absurd rfl h
  last_le := Nat.zero_le _
  online _ _ := ⟨by simp [heard, beat, start], by simp [start]⟩
  logged h := by simp [heard, beat, start] at h
  scanned h := by simp [heard, beat, start] at h
  halted T hT := by cases hT

theorem invariant_advance (hs : Invariant bounds id interval s) {t : ℕ}
    (h : step bounds s (.advance t) = some s') : Invariant bounds id interval s' := by
  obtain ⟨⟨hle, hlt, hlive, hdeadline, hwatched⟩, rfl⟩ := Runs.of_guard h
  exact { hs with
    clock_lt := hlt
    scan_le := hs.scan_le.trans hle
    watched := hwatched
    sent_le := fun p hp ↦ (hs.sent_le p hp).trans hle
    beat_le := hs.beat_le.trans (Int.ofNat_le.mpr hle)
    live := hlive
    timely := fun hbound ↦ by
      refine ⟨(hs.timely hbound).spaced, fun b hb hmissing ↦ ?_⟩
      obtain ⟨p, hp, rfl⟩ := List.mem_map.mp hb
      exact hdeadline p (List.mem_of_mem_filter hp) hmissing
    last_le := hs.last_le.trans (stamp_mono hle) }

theorem step_pass {sample : Double} (h : step bounds s (.pass sample) = some s') :
    s.halted = none ∧ ∃ pass : Pass, pass.nowTime = s.clock ∧ s' = { s with
      node := (s.node.iterate s.timers pass).1
      timers := (s.node.iterate s.timers pass).2.1
      lastPass := s.clock
      network := ((s.node.iterate s.timers pass).2.2.map
        fun packet ↦ ⟨s.clock, packet, false⟩).reverse ++ s.network } := by
  obtain ⟨hrunning, rfl⟩ := Runs.of_guard h
  exact ⟨hrunning, _, rfl, rfl⟩

theorem recent (hs : Invariant bounds id interval s) (hpos : 0 < interval)
    (hbound : InTime bounds interval) (hrunning : s.halted = none) :
    ∀ b ∈ (beats id s.network).head?, s.clock < b.sentAt + spacing bounds interval := by
  intro b hb
  have hnewest := hs.newest b hb
  have htimer := hs.timer hbound
  have hlive := hs.live hrunning
  rw [spacing]
  rw [milliseconds] at htimer ⊢
  omega

/-- With promises that fit into the timeout nothing overflows in the loop. -/
theorem due_iff_of_inTime (hs : Invariant bounds id interval s) (hpos : 0 < interval)
    (hbound : InTime bounds interval) (hrunning : s.halted = none) :
    Due interval s.timers.lastHeartbeat s.clock ↔
      milliseconds interval ≤ s.clock - s.timers.lastHeartbeat := by
  have htimer := hs.timer hbound
  have hlive := hs.live hrunning
  rw [InTime, spacing, timeout_eq] at hbound
  have hshort : milliseconds interval ≤ 10000000000 := by omega
  have hrange : interval ≤ longestInterval := by
    rw [milliseconds] at hshort
    rw [longestInterval]
    omega
  exact due_iff hpos hrange hs.beat_le (by omega)

theorem invariant_pass (hs : Invariant bounds id interval s) (hpos : 0 < interval)
    {sample : Double} (h : step bounds s (.pass sample) = some s') :
    Invariant bounds id interval s' := by
  obtain ⟨hrunning, pass, hnow, rfl⟩ := step_pass h
  have hbeats := beats_iterate s.node s.timers pass s.clock s.network
  rw [hs.getId, hs.heartbeatInterval, hnow] at hbeats
  have htimers := congrArg Timers.lastHeartbeat (iterate_timers s.node s.timers pass)
  rw [hs.heartbeatInterval, hnow] at htimers
  have hnew : ∀ p ∈ ((s.node.iterate s.timers pass).2.2.map
      fun packet ↦ (⟨s.clock, packet, false⟩ : Sent)).reverse ++ s.network,
      p.sentAt ≤ s.clock := by
    intro p hp
    rcases List.mem_append.mp hp with hp | hp
    · obtain ⟨packet, -, rfl⟩ := List.mem_map.mp (List.mem_reverse.mp hp)
      exact le_rfl
    · exact hs.sent_le p hp
  have hmem : ∀ b ∈ beats id s.network, b ∈ beats id (((s.node.iterate s.timers pass).2.2.map
      fun packet ↦ (⟨s.clock, packet, false⟩ : Sent)).reverse ++ s.network) := by
    intro b hb
    rw [hbeats]
    exact List.mem_append_right _ hb
  exact { hs with
    getId := (getId_iterate s.node s.timers pass).trans hs.getId
    heartbeatInterval :=
      (intervals_iterate s.node s.timers pass).2.trans hs.heartbeatInterval
    sent_le := hnew
    beat_le := by
      rw [htimers]
      rcases PeriodicTimer.next_eq_or (Due interval) s.timers.lastHeartbeat s.clock with h | h
      · exact h.le
      · exact h.trans_le hs.beat_le
    timer := fun hbound ↦ by
      have hpositive : 0 < milliseconds interval := by
        rw [milliseconds]
        omega
      simp only [htimers, PeriodicTimer.next, due_iff_of_inTime hs hpos hbound hrunning]
      split_ifs <;> omega
    newest := by
      simp only [hbeats, htimers, PeriodicTimer.next]
      split_ifs
      · simp
      · exact hs.newest
    live := fun _ ↦ Nat.le_add_right _ _
    timely := fun hbound ↦ by
      simp only [hbeats]
      split_ifs
      · exact (hs.timely hbound).send (Nat.zero_le _) (recent hs hpos hbound hrunning)
      · exact hs.timely hbound
    handled := by
      simp only [hbeats]
      intro b hb harrived
      rcases List.mem_append.mp hb with hb | hb
      · split_ifs at hb
        · rw [List.mem_singleton.mp hb] at harrived
          cases harrived
        · cases hb
      · exact hs.handled b hb harrived
    arrived := fun hhealth ↦ by
      obtain ⟨hpositive, b, hb, harrived⟩ := hs.arrived hhealth
      exact ⟨hpositive, b, hmem b hb, harrived⟩
    halted := fun T hT ↦ by
      rw [hrunning] at hT
      cases hT }

theorem invariant_halt (hs : Invariant bounds id interval s)
    (h : step bounds s .halt = some s') : Invariant bounds id interval s' := by
  obtain ⟨-, rfl⟩ := Runs.of_guard h
  exact { hs with
    live := fun hrunning ↦ by cases hrunning
    online := fun _ hrunning ↦ by cases hrunning
    halted := fun T hT ↦ by
      cases hT
      exact ⟨hs.sent_le, hs.last_le.trans (stamp_mono (Nat.le_add_right _ _))⟩ }

/-- A packet that is no heartbeat of the sensor leaves its record alone. -/
theorem invariant_otherPacket (hs : Invariant bounds id interval s) {b : ByteString}
    (hb : ¬ IsBeat id b) :
    Invariant bounds id interval
      { s with gateway := s.gateway.perform (wall bounds s.clock) (.handlePacket b) } := by
  have hheard := heard_handlePacket id s.gateway (wall bounds s.clock) b
  rw [if_neg hb] at hheard
  exact { hs with
    handled := by simpa only [hheard] using hs.handled
    arrived := by simpa only [hheard] using hs.arrived
    last_le := by simpa only [hheard] using hs.last_le
    online := fun hbound hrunning ↦ by
      obtain ⟨hhealth, hlogger⟩ := hs.online hbound hrunning
      refine ⟨by simpa only [hheard] using hhealth, fun hmem ↦ ?_⟩
      rcases offlineMessage_mem_logger hmem with hmem | hoffline
      · exact hlogger hmem
      · rw [hheard] at hoffline
        exact hhealth hoffline
    logged := fun hoffline ↦ by
      rw [hheard] at hoffline
      exact mem_logger_perform (hs.logged hoffline)
    scanned := by simpa only [hheard] using hs.scanned
    halted := by simpa only [hheard] using hs.halted }

theorem invariant_deliver_beat (hs : Invariant bounds id interval s) (hepoch : 0 < bounds.epoch)
    {sent : Sent} (hmem : sent ∈ s.network) (htime : s.clock ≤ sent.sentAt + bounds.delay)
    (hbeat : IsBeat id sent.packet) :
    Invariant bounds id interval { s with
      gateway := s.gateway.perform (wall bounds s.clock) (.handlePacket sent.packet)
      network := s.network.map (markHandled sent) } := by
  have hbeats : beats id (s.network.map (markHandled sent)) = _ :=
    beats_markHandled id sent s.network
  have hheard := heard_handlePacket id s.gateway (wall bounds s.clock) sent.packet
  rw [if_pos hbeat] at hheard
  have hclock : (wall bounds s.clock).toNat = stamp bounds s.clock := toNat_wall hs.clock_lt
  exact { hs with
    sent_le := forall_markHandled hs.sent_le
    newest := fun b hb ↦ by
      rw [hbeats, List.head?_map] at hb
      obtain ⟨p, hp, rfl⟩ := Option.mem_map.mp hb
      rw [sentAt_markHandled]
      apply hs.newest ⟨p.sentAt, p.handled⟩
      rw [beats, List.head?_map]
      exact Option.mem_map_of_mem _ hp
    timely := fun hbound ↦ by
      simp only [hbeats]
      exact (hs.timely hbound).arrive (sentAt_markHandled sent) fun p ↦ handled_markHandled sent
    handled := fun b hb _ ↦ by
      simp only [hbeats] at hb
      obtain ⟨p, hp, rfl⟩ := List.mem_map.mp hb
      rw [hheard, hclock, sentAt_markHandled]
      exact stamp_mono (hs.sent_le p (List.mem_of_mem_filter hp))
    arrived := fun _ ↦ by
      have hpositive : 0 < wall bounds s.clock := by
        rw [UInt64.lt_iff_toNat_lt, hclock]
        exact Nat.add_pos_left hepoch _
      refine ⟨by rwa [hheard], ⟨sent.sentAt, true⟩, ?_, rfl⟩
      simp only [hbeats]
      exact List.mem_map.mpr ⟨sent, List.mem_filter.mpr ⟨hmem, by simpa using hbeat⟩,
        by simp [markHandled]⟩
    last_le := by rw [hheard, hclock]
    online := fun hbound hrunning ↦ by
      refine ⟨by simp [hheard], fun hlogger ↦ ?_⟩
      rcases offlineMessage_mem_logger hlogger with hlogger | hoffline
      · exact (hs.online hbound hrunning).2 hlogger
      · rw [hheard] at hoffline
        cases hoffline
    logged := fun hoffline ↦ by
      rw [hheard] at hoffline
      cases hoffline
    scanned := fun _ ↦ by
      rw [hheard, hclock]
      exact (stamp_mono hs.scan_le).trans (Nat.le_add_right _ _)
    halted := fun T hT ↦ by
      obtain ⟨hsent, -⟩ := hs.halted T hT
      refine ⟨forall_markHandled hsent, ?_⟩
      rw [hheard, hclock]
      exact stamp_mono (htime.trans (Nat.add_le_add_right (hsent sent hmem) _)) }

theorem invariant_deliver (hs : Invariant bounds id interval s) (hepoch : 0 < bounds.epoch)
    {sent : Sent} (h : step bounds s (.deliver sent) = some s') :
    Invariant bounds id interval s' := by
  obtain ⟨⟨hmem, htime⟩, rfl⟩ := Runs.of_guard h
  by_cases hbeat : IsBeat id sent.packet
  · exact invariant_deliver_beat hs hepoch hmem htime hbeat
  · have hother := invariant_otherPacket hs hbeat
    have hbeats : beats id (s.network.map (markHandled sent)) = beats id s.network := by
      rw [beats_markHandled, beats]
      apply List.map_congr_left
      intro p hp
      have hne : p ≠ sent := by
        rintro rfl
        exact hbeat (by simpa using List.of_mem_filter hp)
      rw [markHandled, if_neg hne]
    exact { hother with
      sent_le := forall_markHandled hs.sent_le
      newest := by simpa only [hbeats] using hother.newest
      timely := by simpa only [hbeats] using hother.timely
      handled := by simpa only [hbeats] using hother.handled
      arrived := by simpa only [hbeats] using hother.arrived
      halted := fun T hT ↦ ⟨forall_markHandled (hs.halted T hT).1, (hother.halted T hT).2⟩ }

/-- While the node runs, no scan finds its last heartbeat overdue. -/
theorem not_overdue (hs : Invariant bounds id interval s) (hpos : 0 < interval)
    (hbound : InTime bounds interval) (hrunning : s.halted = none)
    (hhealth : (heard id s.gateway).health ≠ .unknown) {t : ℕ} (ht : t ≤ s.clock)
    (hlast : (heard id s.gateway).last ≤ wall bounds t) :
    ¬ Overdue (heard id s.gateway).last (wall bounds t) := by
  obtain ⟨hpositive, harrived⟩ := hs.arrived hhealth
  obtain ⟨b, hb, hbarrived, hrecent⟩ :=
    (hs.timely hbound).exists_recent_arrival (Nat.zero_le _) (recent hs hpos hbound hrunning)
      harrived
  have hstamp := hs.handled b hb hbarrived
  have hlt : stamp bounds t < 2 ^ 64 := (stamp_mono ht).trans_lt hs.clock_lt
  rw [overdue_iff hpositive hlast, toNat_wall hlt]
  rw [stamp] at hstamp ⊢
  rw [InTime, timeout_eq] at hbound
  omega

theorem invariant_scan (hs : Invariant bounds id interval s) (hpos : 0 < interval) {t : ℕ}
    (h : step bounds s (.scan t) = some s') : Invariant bounds id interval s' := by
  obtain ⟨⟨ht, hlater, hovertaken⟩, rfl⟩ := Runs.of_guard h
  have hlast : (heard id s.gateway).last ≤ wall bounds t := by
    rw [hs.getId] at hovertaken
    rw [heard]
    cases hlookup : s.gateway.sensors.lookup id with
    | none => exact UInt64.le_iff_toNat_le.mpr (Nat.zero_le _)
    | some info => exact hovertaken info hlookup
  have hlt : stamp bounds t < 2 ^ 64 := (stamp_mono ht).trans_lt hs.clock_lt
  have hheard := heard_scan id s.gateway (wall bounds t)
  have hsame : (heard id (s.gateway.perform (wall bounds t) .detectOfflineSensors)).last =
      (heard id s.gateway).last := by rw [hheard]
  exact { hs with
    scan_le := ht
    watched := hs.watched.trans (Nat.add_le_add_right hlater _)
    handled := by simpa only [hsame] using hs.handled
    arrived := fun hhealth ↦ by
      rw [hsame]
      apply hs.arrived
      intro hunknown
      simp [hheard, hunknown] at hhealth
    last_le := by simpa only [hsame] using hs.last_le
    online := fun hbound hrunning ↦ by
      obtain ⟨hnotOffline, hlogger⟩ := hs.online hbound hrunning
      have hkept : (heard id (s.gateway.perform (wall bounds t) .detectOfflineSensors)).health =
          (heard id s.gateway).health := by
        rw [hheard]
        exact if_neg fun hgoes ↦ not_overdue hs hpos hbound hrunning hgoes.1 ht hlast hgoes.2
      refine ⟨by rwa [hkept], fun hmem ↦ ?_⟩
      rcases offlineMessage_mem_logger hmem with hmem | hoffline
      · exact hlogger hmem
      · rw [hkept] at hoffline
        exact hnotOffline hoffline
    logged := fun hoffline ↦ by
      by_cases hbefore : (heard id s.gateway).health = .offline
      · exact mem_logger_perform (hs.logged hbefore)
      · exact offlineMessage_mem_logger_of_scan hbefore hoffline
    scanned := fun honline ↦ by
      rw [hheard] at honline
      dsimp only at honline
      split_ifs at honline with hgoes
      have hhealth : (heard id s.gateway).health ≠ .unknown := by simp [honline]
      have hpositive := (hs.arrived hhealth).1
      have hnot := not_and.mp hgoes hhealth
      rw [overdue_iff hpositive hlast, toNat_wall hlt] at hnot
      rw [hsame]
      exact Nat.not_lt.mp hnot
    halted := by simpa only [hsame] using hs.halted }

theorem invariant_step (hpos : 0 < interval) (hepoch : 0 < bounds.epoch) (e : Event)
    (hs : Invariant bounds id interval s) (h : step bounds s e = some s') :
    Invariant bounds id interval s' := by
  cases e with
  | advance t => exact invariant_advance hs h
  | pass sample => exact invariant_pass hs hpos h
  | halt => exact invariant_halt hs h
  | deliver sent => exact invariant_deliver hs hepoch h
  | foreign b =>
      obtain ⟨⟨-, hb⟩, rfl⟩ := Runs.of_guard h
      rw [hs.getId] at hb
      exact invariant_otherPacket hs hb
  | scan t => exact invariant_scan hs hpos h

end Steps

/-! ## Runs -/

section Runs

variable {bounds : Bounds} {node : SensorNode} {events : List Event} {s : State}

theorem invariant_of_run (hpos : 0 < node.heartbeatInterval) (hepoch : 0 < bounds.epoch)
    (hhorizon : bounds.epoch < 2 ^ 64)
    (hrun : Runs.run (step bounds) (start node) events = some s) :
    Invariant bounds node.sensor.getId node.heartbeatInterval s :=
  Runs.invariant_run (fun _ e _ hs h ↦ invariant_step hpos hepoch e hs h)
    (invariant_start rfl rfl hpos hhorizon) hrun

/-- Accuracy: if a heartbeat interval, a gap of the loop and a delay of the
network fit into the timeout, then a sensor whose node runs is never offline
and no line about it is logged. -/
theorem never_suspected (hpos : 0 < node.heartbeatInterval) (hepoch : 0 < bounds.epoch)
    (hhorizon : bounds.epoch < 2 ^ 64)
    (hbound : spacing bounds node.heartbeatInterval + bounds.delay ≤ timeout)
    (hrun : Runs.run (step bounds) (start node) events = some s) (hrunning : s.halted = none) :
    s.gateway.healthOf node.sensor.getId ≠ some .offline ∧
      offlineMessage node.sensor.getId ∉ s.gateway.logger := by
  have hs := invariant_of_run hpos hepoch hhorizon hrun
  obtain ⟨hhealth, hlogger⟩ := hs.online hbound hrunning
  exact ⟨fun hoffline ↦ hhealth (healthOf_eq_heard hoffline), hlogger⟩

/-- Completeness: a delay, the timeout with a millisecond for the rounding of
the clock, and a gap of the watchdog after its node has stopped, a sensor that
was ever heard is offline, and a line says so. -/
theorem eventually_suspected (hpos : 0 < node.heartbeatInterval) (hepoch : 0 < bounds.epoch)
    (hhorizon : bounds.epoch < 2 ^ 64)
    (hrun : Runs.run (step bounds) (start node) events = some s) {T : ℕ}
    (hhalted : s.halted = some T)
    (hlate : T + bounds.delay + (timeout + 1000000) + bounds.scanGap ≤ s.clock)
    {health : SensorHealth} (hhealth : s.gateway.healthOf node.sensor.getId = some health)
    (hheard : health ≠ .unknown) :
    health = .offline ∧ offlineMessage node.sensor.getId ∈ s.gateway.logger := by
  have hs := invariant_of_run hpos hepoch hhorizon hrun
  have heq : (heard node.sensor.getId s.gateway).health = health := healthOf_eq_heard hhealth
  cases health with
  | unknown => exact absurd rfl hheard
  | offline => exact ⟨rfl, hs.logged heq⟩
  | online =>
      have hscanned := hs.scanned heq
      have hlast := (hs.halted T hhalted).2
      have hwatched := hs.watched
      rw [stamp] at hscanned hlast
      rw [timeout_eq] at hlate
      omega

end Runs

/-- A node that sends telemetry once a minute. -/
def motionNode : SensorNode where
  sensor := .motion (MotionSensor.new 7)
  telemetryInterval := 60000

def seconds (n : ℕ) : ℕ := n * 1000000000

/-- Three seconds between passes and between scans, and one for a packet. -/
def slowBounds : Bounds where
  passGap := seconds 3
  delay := seconds 1
  scanGap := seconds 3
  epoch := 1000

/-- The first heartbeat goes out after six seconds. -/
def firstHeartbeat : List Event :=
  [.advance (seconds 3), .pass ⟨0⟩, .scan (seconds 3), .advance (seconds 6), .pass ⟨0⟩,
    .deliver ⟨seconds 6, motionNode.sendHeartbeat 7000, false⟩, .scan (seconds 6)]

def silence : List Event :=
  [.halt, .advance (seconds 7), .deliver ⟨seconds 6, motionNode.sendHeartbeat 7000, true⟩,
    .advance (seconds 9), .scan (seconds 9), .advance (seconds 12), .scan (seconds 12),
    .advance (seconds 15), .scan (seconds 15), .advance (seconds 18), .scan (seconds 18),
    .advance (seconds 21)]

def outcome (events : List Event) : Option (ℕ × Option ℕ × Option SensorHealth) :=
  (Runs.run (step slowBounds) (start motionNode) events).map fun s ↦
    (s.clock, s.halted, s.gateway.healthOf motionNode.sensor.getId)

theorem outcome_firstHeartbeat :
    outcome firstHeartbeat = some (seconds 6, none, some .online) := by
  decide +kernel

theorem outcome_silence :
    outcome (firstHeartbeat ++ silence) = some (seconds 21, some (seconds 6), some .offline) := by
  decide +kernel

theorem never_suspected_after_heartbeat :
    ∃ s, Runs.run (step slowBounds) (start motionNode) firstHeartbeat = some s ∧
      s.gateway.healthOf motionNode.sensor.getId ≠ some .offline ∧
        offlineMessage motionNode.sensor.getId ∉ s.gateway.logger := by
  obtain ⟨s, hrun, hs⟩ := Option.map_eq_some_iff.mp outcome_firstHeartbeat
  have hrunning : s.halted = none := congrArg (fun o ↦ o.2.1) hs
  exact ⟨s, hrun, never_suspected (by decide) (by decide) (by decide) (by decide) hrun hrunning⟩

theorem eventually_suspected_after_silence :
    ∃ s health, Runs.run (step slowBounds) (start motionNode) (firstHeartbeat ++ silence) =
        some s ∧ s.gateway.healthOf motionNode.sensor.getId = some health ∧ health = .offline ∧
      offlineMessage motionNode.sensor.getId ∈ s.gateway.logger := by
  obtain ⟨s, hrun, hs⟩ := Option.map_eq_some_iff.mp outcome_silence
  have hclock : s.clock = seconds 21 := congrArg (fun o ↦ o.1) hs
  have hhalted : s.halted = some (seconds 6) := congrArg (fun o ↦ o.2.1) hs
  have hhealth : s.gateway.healthOf motionNode.sensor.getId = some .offline :=
    congrArg (fun o ↦ o.2.2) hs
  exact ⟨s, .offline, hrun, hhealth,
    eventually_suspected (by decide) (by decide) (by decide) hrun hhalted
      (by rw [hclock]; decide) hhealth (by decide)⟩

end SmartSensorNetwork.FailureDetection
