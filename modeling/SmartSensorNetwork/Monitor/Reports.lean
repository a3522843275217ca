import SmartSensorNetwork.Gateway.Linearizability
import SmartSensorNetwork.Lib.Clients
import SmartSensorNetwork.Monitor.Rows
import SmartSensorNetwork.Monitor.Snapshots

/-!
# Reports written by a thread

A thread that writes a report calls the member functions of the Gateway one
after the other, while the statements of other threads interleave with those
of its calls. What it writes is a report made of atomic reads.
-/

namespace SmartSensorNetwork.Gateway.Threads

open CppStd CriticalSections

/-- The member functions that a report calls. -/
inductive Question where
  | getSensors
  | getSecondsSinceLastHeartbeat (sensorId : UInt32)
  | getTelemetryPacketsReceived
  | getHeartbeatPacketsReceived

def Question.member : Question → Member
  | .getSensors => .getSensors
  | .getSecondsSinceLastHeartbeat sensorId => .call (.getSecondsSinceLastHeartbeat sensorId)
  | .getTelemetryPacketsReceived => .getTelemetryPacketsReceived
  | .getHeartbeatPacketsReceived => .getHeartbeatPacketsReceived

abbrev Report := Client Question Result

def Result.toSensors : Result → Registry
  | .sensors registry => registry
  | _ => ∅

def Result.toNumber : Result → UInt64
  | .number n => n
  | _ => 0

def answer (i : Instant) (q : Question) : Result := Result.of i.gateway i.clock q.member

namespace Report

def getSensors : Report Registry := Result.toSensors <$> Client.question .getSensors

def getSecondsSinceLastHeartbeat (id : UInt32) : Report UInt64 :=
  Result.toNumber <$> Client.question (.getSecondsSinceLastHeartbeat id)

def getTelemetryPacketsReceived : Report UInt64 :=
  Result.toNumber <$> Client.question .getTelemetryPacketsReceived

def getHeartbeatPacketsReceived : Report UInt64 :=
  Result.toNumber <$> Client.question .getHeartbeatPacketsReceived

def sensorList : Report ByteString := do
  let sensors ← getSensors
  let ids := sensors.keys.mergeSort
  let rows ← ids.attach.mapM fun (id : {id // id ∈ ids}) ↦ do
    let info := sensors.valueAt id.1 (Monitor.mem_of_sorted sensors id)
    let seconds ← getSecondsSinceLastHeartbeat id.1
    return Monitor.sensorRow id.1 info seconds
  return Monitor.listText rows

def sensorDetails (id : UInt32) : Report ByteString := do
  let sensors ← getSensors
  match sensors.lookup id with
  | none => return Monitor.sensorNotFound
  | some info =>
      let seconds ← getSecondsSinceLastHeartbeat id
      return Monitor.detailsText id info seconds

def countHealthSensors : Report HealthCounts := do
  let sensors ← getSensors
  return {
    online := sensors.countValues fun _ info ↦ info.health = .online
    offline := sensors.countValues fun _ info ↦ info.health = .offline
    unknown := sensors.countValues fun _ info ↦ info.health = .unknown }

def healthSummary : Report ByteString := do
  let sensors ← getSensors
  let healthCount ← countHealthSensors
  return Monitor.healthText healthCount sensors

def getStats : Report SystemStats := do
  let sensors ← getSensors
  let healthCount ← countHealthSensors
  let telemetryPackets ← getTelemetryPacketsReceived
  let heartbeatPackets ← getHeartbeatPacketsReceived
  return {
    totalSensors := sensors.size
    telemetryPackets := telemetryPackets
    heartbeatPackets := heartbeatPackets
    health := { online := healthCount.online, offline := healthCount.offline } }

def stats : Report ByteString := do
  let stats ← getStats
  return Monitor.statsText stats

/-! ## Reports as atomic reads -/

@[simp] theorem reads_getSensors : getSensors.reads answer = Monitor.getSensors := rfl

@[simp] theorem reads_getSecondsSinceLastHeartbeat (id : UInt32) :
    (getSecondsSinceLastHeartbeat id).reads answer = Monitor.getSecondsSinceLastHeartbeat id := rfl

@[simp] theorem reads_getTelemetryPacketsReceived :
    getTelemetryPacketsReceived.reads answer = Monitor.getTelemetryPacketsReceived := rfl

@[simp] theorem reads_getHeartbeatPacketsReceived :
    getHeartbeatPacketsReceived.reads answer = Monitor.getHeartbeatPacketsReceived := rfl

theorem reads_sensorList : sensorList.reads answer = Monitor.sensorList := by
  simp [sensorList, Monitor.sensorList]

theorem reads_sensorDetails (id : UInt32) :
    (sensorDetails id).reads answer = Monitor.sensorDetails id := by
  rw [sensorDetails, Monitor.sensorDetails, Client.reads_bind, reads_getSensors]
  apply bind_congr
  intro sensors
  cases sensors.lookup id with
  | none => rfl
  | some info => simp

@[simp] theorem reads_countHealthSensors :
    countHealthSensors.reads answer = Monitor.countHealthSensors := by
  simp [countHealthSensors, Monitor.countHealthSensors]

theorem reads_healthSummary : healthSummary.reads answer = Monitor.healthSummary := by
  simp [healthSummary, Monitor.healthSummary]

@[simp] theorem reads_getStats : getStats.reads answer = Monitor.getStats := by
  simp [getStats, Monitor.getStats]

theorem reads_stats : stats.reads answer = Monitor.stats := by
  simp [stats, Monitor.stats]

end Report

/-! ## Threads that write reports -/

variable {κ θ : Type} {β : Type}

/-- Threads that write one report each, beside threads that do anything. -/
def reporting (rest : Program κ) : Program (Report β ⊕ κ)
  | .inl (.done _) => none
  | .inl (.ask q k) => some (q.member, fun r ↦ .inl (k r))
  | .inr l => (rest l).map fun call ↦ (call.1, fun r ↦ .inr (call.2 r))

def fresh : Instant := ⟨{}, 0⟩

def Calls.instant (a : Calls κ θ) : Instant := a.history.foldl Instant.next fresh

/-- A call of a report returns what the state answers once the call has been
made. -/
theorem result_eq_answer (a : Calls κ θ) (now : UInt64) (q : Question) :
    Result.of a.gateway now q.member =
      answer ((q.member.entry now).foldl Instant.next a.instant) q := by
  have hgateway : a.instant.gateway = a.gateway := Monitor.gateway_foldl_next fresh a.history
  cases q with
  | getSensors => simp [Question.member, Member.entry, answer, Result.of, hgateway]
  | getSecondsSinceLastHeartbeat sensorId =>
      simp [Question.member, Member.entry, answer, Result.of, Instant.next, Gateway.perform,
        hgateway]
  | getTelemetryPacketsReceived =>
      simp [Question.member, Member.entry, answer, Result.of, hgateway]
  | getHeartbeatPacketsReceived =>
      simp [Question.member, Member.entry, answer, Result.of, hgateway]

variable [DecidableEq θ]

theorem callStep_cases {program : Program κ} {a a' : Calls κ θ} {e : θ × UInt64}
    (h : callStep program a e = some a') :
    (∃ l k, a.locals e.1 = .calling l ∧ program l = some (.call .detectOfflineSensors, k) ∧
      a' = { a with locals := Function.update a.locals e.1 (.scanning e.2 l) }) ∨
    (∃ l member k, a.locals e.1 = .calling l ∧ program l = some (member, k) ∧
      a' = a.perform e.1 e.2 member k) ∨
    (∃ currentTime l member k, a.locals e.1 = .scanning currentTime l ∧
      program l = some (member, k) ∧
      a' = a.perform e.1 currentTime (.call .detectOfflineSensors) k) := by
  cases hlocal : a.locals e.1 with
  | calling l =>
      cases hprogram : program l with
      | none => simp [callStep, hlocal, hprogram] at h
      | some call =>
          obtain ⟨member, k⟩ := call
          by_cases hmember : member = .call .detectOfflineSensors
          · subst hmember
            simp only [callStep, hlocal, hprogram, Option.some.injEq] at h
            exact .inl ⟨l, k, rfl, hprogram, h.symm⟩
          · have hcall := callStep_calling hlocal hprogram hmember e.2
            rw [h] at hcall
            exact .inr (.inl ⟨l, member, k, rfl, hprogram, Option.some.inj hcall⟩)
  | scanning currentTime l =>
      cases hprogram : program l with
      | none => simp [callStep, hlocal, hprogram] at h
      | some call =>
          simp only [callStep, hlocal, hprogram, Option.some.injEq] at h
          exact .inr (.inr ⟨currentTime, l, call.1, call.2, rfl, hprogram, h.symm⟩)

/-- How far the reports have been written since an earlier moment. -/
def Written (a₀ a : Calls (Report β ⊕ κ) θ) : Prop :=
  ∃ more, a.history = a₀.history ++ more ∧ ∀ t p, a₀.locals t = .calling (.inl p) →
    ∃ p', a.locals t = .calling (.inl p') ∧ p.Follows answer Instant.next a₀.instant more p'

theorem Written.perform {rest : Program κ} {a₀ a : Calls (Report β ⊕ κ) θ} (h : Written a₀ a)
    {t : θ} {now : UInt64} {member : Member} {k : Result → Report β ⊕ κ}
    (hcall : ∀ p, a.locals t = .calling (.inl p) → reporting rest (.inl p) = some (member, k)) :
    Written a₀ (a.perform t now member k) := by
  obtain ⟨more, hmore, hfollows⟩ := h
  refine ⟨more ++ member.entry now, ?_, fun t' p hp ↦ ?_⟩
  · rw [Calls.perform, hmore, List.append_assoc]
  · obtain ⟨p', hlocal, hp'⟩ := hfollows t' p hp
    rcases eq_or_ne t' t with rfl | hne
    · have hown := hcall p' hlocal
      cases p' with
      | done b => simp [reporting] at hown
      | ask q k' =>
          obtain ⟨rfl, rfl⟩ : q.member = member ∧ (fun r ↦ Sum.inl (k' r)) = k := by
            simpa [reporting] using hown
          refine ⟨k' (Result.of a.gateway now q.member), by simp [Calls.perform], ?_⟩
          have hinstant : a.instant = more.foldl Instant.next a₀.instant := by
            rw [Calls.instant, hmore, List.foldl_append, Calls.instant]
          rw [result_eq_answer, hinstant, ← List.foldl_append]
          exact (hp'.append (q.member.entry now)).ask
    · refine ⟨p', ?_, hp'.append _⟩
      simp only [Calls.perform, Function.update_of_ne hne, hlocal]

theorem written_step {rest : Program κ} {a₀ a a' : Calls (Report β ⊕ κ) θ} {e : θ × UInt64}
    (h : Written a₀ a) (hstep : callStep (reporting rest) a e = some a') : Written a₀ a' := by
  obtain ⟨l, k, hlocal, hprogram, rfl⟩ | ⟨l, member, k, hlocal, hprogram, rfl⟩ |
    ⟨currentTime, l, member, k, hlocal, -, rfl⟩ := callStep_cases hstep
  · -- no report begins a scan
    obtain ⟨more, hmore, hfollows⟩ := h
    refine ⟨more, hmore, fun t p hp ↦ ?_⟩
    obtain ⟨p', hlocal', hp'⟩ := hfollows t p hp
    rcases eq_or_ne t e.1 with rfl | hne
    · rw [hlocal] at hlocal'
      cases hlocal'
      cases p' with
      | done b => simp [reporting] at hprogram
      | ask q k' => cases q <;> simp [reporting, Question.member] at hprogram
    · exact ⟨p', by simpa only [Function.update_of_ne hne] using hlocal', hp'⟩
  · apply h.perform
    intro p hp
    rw [hlocal] at hp
    cases hp
    exact hprogram
  · have hcall : ∀ p, a.locals e.1 = .calling (.inl p) →
        reporting rest (.inl p) = some (.call .detectOfflineSensors, k) := by
      intro p hp
      rw [hlocal] at hp
      cases hp
    exact h.perform hcall

omit [DecidableEq θ] in
theorem written_refl (a : Calls (Report β ⊕ κ) θ) : Written a a :=
  ⟨[], (List.append_nil _).symm, fun _ p hp ↦ ⟨p, hp, Client.Follows.refl p a.instant⟩⟩

theorem written_of_run {rest : Program κ} {a a' : Calls (Report β ⊕ κ) θ}
    {events : List (θ × UInt64)}
    (hrun : Runs.run (callStep (reporting rest)) a events = some a') : Written a a' :=
  Runs.invariant_run (fun _ _ _ h hstep ↦ written_step h hstep) (written_refl a) hrun

omit [DecidableEq θ] in
theorem Written.result {rest : Program κ} {a₀ a : Calls (Report β ⊕ κ) θ}
    {c : Config (Report β ⊕ κ) θ} (h : Written a₀ a) (hc : Linearizes (reporting rest) c a)
    {t : θ} {p : Report β} {b : β} (hp : a₀.locals t = .calling (.inl p))
    (hdone : c.position t = .outside (.calling (.inl (.done b)))) :
    ∃ gaps, a₀.history ++ gaps.flatten <+: a.history ∧
      b = (p.reads answer).exec Instant.next a₀.instant gaps := by
  obtain ⟨more, hmore, hfollows⟩ := h
  obtain ⟨p', hlocal, hp'⟩ := hfollows t p hp
  rw [hc.outside t _ hdone] at hlocal
  cases hlocal
  obtain ⟨gaps, hgaps, hb⟩ := hp'.result
  refine ⟨gaps, ?_, hb⟩
  rw [hmore]
  exact (List.prefix_append_right_inj a₀.history).mpr hgaps

/-- The whole calls that account for a moment of a run. -/
def Tracks (program : Program κ) (c : Config κ θ) (a : Calls κ θ) : Prop :=
  ∃ s, Simulates (action program) c s ∧ Reflects s a

omit [DecidableEq θ] in
theorem tracks_init (program : Program κ) (start : θ → κ) :
    Tracks program (init start) { locals := fun t ↦ .calling (start t) } :=
  ⟨_, simulates_init (action program) {} _, ⟨rfl, ⟨rfl, rfl, rfl⟩⟩⟩

omit [DecidableEq θ] in
theorem Tracks.linearizes {program : Program κ} {c : Config κ θ} {a : Calls κ θ}
    (h : Tracks program c a) : Linearizes program c a := by
  obtain ⟨s, hc, hs⟩ := h
  exact linearizes_of_simulates hc hs

theorem Tracks.run {program : Program κ} {c c' : Config κ θ} {a : Calls κ θ}
    {schedule : List (θ × UInt64)} (h : Tracks program c a)
    (hrun : Runs.run (step (action program)) c schedule = some c') :
    ∃ events a', Runs.run (callStep program) a events = some a' ∧ Tracks program c' a' := by
  obtain ⟨s, hc, hs⟩ := h
  obtain ⟨s', hserial, hc'⟩ :=
    Runs.exists_run_emitted (fun _ _ _ _ hs h ↦ simulates_step hs h) hc hrun
  obtain ⟨events, a', _, hevents, hs', -, -⟩ := exists_calls_of_serial hs hserial
  exact ⟨events, a', hevents, s', hc', hs'⟩

/-- However the statements interleave, one order of the whole calls accounts
for all reports: each is its report of atomic reads, with gaps that list the
calls of that order in turn. -/
theorem reports_written {rest : Program κ} {start : θ → Report β ⊕ κ}
    {schedule : List (θ × UInt64)} {c : Config (Report β ⊕ κ) θ}
    (hrun : Runs.run (step (action (reporting rest))) (init start) schedule = some c) :
    ∃ events a, Runs.run (callStep (reporting rest))
        { locals := fun t ↦ .calling (start t) } events = some a ∧
      Linearizes (reporting rest) c a ∧
      ∀ t p b, start t = .inl p → c.position t = .outside (.calling (.inl (.done b))) →
        ∃ gaps, gaps.flatten <+: a.history ∧
          b = (p.reads answer).exec Instant.next fresh gaps := by
  obtain ⟨events, a, hevents, hc⟩ := (tracks_init (reporting rest) start).run hrun
  refine ⟨events, a, hevents, hc.linearizes, fun t p b hp hdone ↦ ?_⟩
  have hlocal : Local.calling (start t) = .calling (.inl p) := congrArg Local.calling hp
  obtain ⟨gaps, hgaps, hb⟩ := (written_of_run hevents).result hc.linearizes hlocal hdone
  exact ⟨gaps, hgaps, hb⟩

/-- The statistics, and a heartbeat. -/
def statsAndHeartbeat : Fin 2 → Report SystemStats ⊕ List Member :=
  ![.inl Report.getStats, .inr [.call (.handlePacket (2 :: List.replicate 12 0))]]

/-- The heartbeat is handled between the two copies of the registry. -/
def betweenCopies : List (Fin 2 × UInt64) :=
  List.replicate 3 (0, 5) ++ List.replicate 7 (1, 6) ++ List.replicate 9 (0, 7)

/-- One sensor is online, and none is registered. -/
def torn : SystemStats := { totalSensors := 0, heartbeatPackets := 1, health := { online := 1 } }

theorem reports_written_around_heartbeat :
    ∃ c : Config (Report SystemStats ⊕ List Member) (Fin 2),
      Runs.run (step (action (reporting inTurn))) (init statsAndHeartbeat) betweenCopies = some c ∧
      c.position 0 = .outside (.calling (.inl (.done torn))) ∧
      ∃ events a, Runs.run (callStep (reporting inTurn))
          { locals := fun t ↦ .calling (statsAndHeartbeat t) } events = some a ∧
        Linearizes (reporting inTurn) c a ∧
        ∀ t p b, statsAndHeartbeat t = .inl p →
          c.position t = .outside (.calling (.inl (.done b))) →
          ∃ gaps, gaps.flatten <+: a.history ∧
            b = (p.reads answer).exec Instant.next fresh gaps := by
  have hrun : ∃ c : Config (Report SystemStats ⊕ List Member) (Fin 2),
      Runs.run (step (action (reporting inTurn))) (init statsAndHeartbeat) betweenCopies =
        some c ∧ c.position 0 = .outside (.calling (.inl (.done torn))) := ⟨_, rfl, rfl⟩
  obtain ⟨c, hrun, hdone⟩ := hrun
  exact ⟨c, hrun, hdone, reports_written hrun⟩

end SmartSensorNetwork.Gateway.Threads
