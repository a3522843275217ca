import SmartSensorNetwork.Gateway.Threads

/-!
# The Gateway is linearizable

Every run of the threads, statement by statement, is one in which the calls
follow each other whole, in an order that keeps to the real time of the run.
All results about lists of calls hold of the threaded program through it.
-/

namespace SmartSensorNetwork.Gateway.Threads

open CppStd CriticalSections

variable {κ θ : Type}

/-! ## Whole calls -/

def Result.of (gateway : Gateway) (now : UInt64) : Member → Result
  | .call (.handlePacket packet) =>
      match gateway.handlePacket now packet with
      | .ok _ => .returned
      | .error e => .threw e
  | .call .detectOfflineSensors => .returned
  | .call (.getSecondsSinceLastHeartbeat sensorId) =>
      .number (gateway.getSecondsSinceLastHeartbeat now sensorId)
  | .getSensors => .sensors gateway.getSensors
  | .getTelemetryPacketsReceived => .number gateway.getTelemetryPacketsReceived
  | .getHeartbeatPacketsReceived => .number gateway.getHeartbeatPacketsReceived

/-- The threads between calls, and the calls made so far. -/
structure Calls (κ θ : Type) where
  history : List (Call × UInt64) := []
  locals : θ → Local κ

def Calls.gateway (a : Calls κ θ) : Gateway := ({} : Gateway).run a.history

def Member.entry (now : UInt64) : Member → List (Call × UInt64)
  | .call c => [(c, now)]
  | _ => []

variable [DecidableEq θ]

def Calls.perform (a : Calls κ θ) (t : θ) (now : UInt64) (member : Member) (k : Result → κ) :
    Calls κ θ where
  history := a.history ++ member.entry now
  locals := Function.update a.locals t (.calling (k (Result.of a.gateway now member)))

/-- A thread makes its next call at a reading of the clock. A scan reads the
clock in a step of its own and goes by that reading. -/
def callStep (program : Program κ) (a : Calls κ θ) (e : θ × UInt64) : Option (Calls κ θ) :=
  match a.locals e.1 with
  | .calling l =>
      match program l with
      | none => none
      | some (.call .detectOfflineSensors, _) =>
          some { a with locals := Function.update a.locals e.1 (.scanning e.2 l) }
      | some (member, k) => some (a.perform e.1 e.2 member k)
  | .scanning currentTime l =>
      match program l with
      | none => none
      | some (_, k) => some (a.perform e.1 currentTime (.call .detectOfflineSensors) k)

/-- What the statements leave, seen as calls made whole. The lines are in the
order of the calls, except that a report of an unknown type, written without
the mutex, may come between the lines of a scan. -/
structure Agrees (shared : Gateway) (output : List (Line ByteString)) (a : Calls κ θ) : Prop where
  shared : shared = { a.gateway with logger := [] }
  scans : texts true output = a.gateway.logger.filter (· ≠ unknownMessageType)
  unknown : texts false output = a.gateway.logger.filter (· = unknownMessageType)

/-- A moment of a run among whole calls. A call under way has not been made,
and the state counts when the mutex is free. -/
structure Linearizes (program : Program κ) (c : Config κ θ) (a : Calls κ θ) : Prop where
  outside : ∀ t l, c.position t = .outside l → a.locals t = l
  inside : ∀ t rest k, c.position t = .inside rest k →
    ∃ body, action program (a.locals t) = .enter body k
  free : c.owner = none → Agrees c.shared c.output a

/-- Whether the call reads the clock with the mutex held. -/
def readsInside : Call → Bool
  | .handlePacket b => AcceptsTelemetry b ∨ AcceptsHeartbeat b
  | .detectOfflineSensors => false
  | .getSecondsSinceLastHeartbeat _ => true

def readings (history : List (Call × UInt64)) : List UInt64 :=
  (history.filter fun call ↦ readsInside call.1).map Prod.snd

/-! ## One call -/

/-- A section is the member function at one of the readings that satisfy
`P`. -/
def Performs (body : Statements) (member : Member) (P : UInt64 → Prop) : Prop :=
  ∀ (gateway : Gateway) inputs r shared out,
    body.Ends { gateway with logger := [] } inputs r shared out → ∃ now, P now ∧
      r = Result.of gateway now member ∧
      shared = { gateway.run (member.entry now) with logger := [] } ∧
      (gateway.run (member.entry now)).logger = gateway.logger ++ out ∧
      (∀ line ∈ out, line ≠ unknownMessageType) ∧
      (readings (member.entry now)).Sublist inputs

theorem performs_updateSensorInfo {packet : ByteString} (hacc : AcceptsTelemetry packet) :
    Performs (updateSensorInfo (Wire.telemetry packet)) (.call (.handlePacket packet))
      fun _ ↦ True := by
  intro gateway inputs r shared out h
  obtain ⟨now, hnow, rfl, rfl, rfl⟩ := ends_updateSensorInfo h
  have hhandle : gateway.handlePacket now packet =
      .ok (gateway.updateSensorInfo now (Wire.telemetry packet)) := by
    rw [Gateway.handlePacket_eq, if_neg hacc.not_rejects, if_pos hacc]
  have hrun : gateway.run (Member.entry now (.call (.handlePacket packet))) =
      gateway.updateSensorInfo now (Wire.telemetry packet) := by
    rw [Member.entry, run_cons, run_nil, perform, hhandle]
  refine ⟨now, trivial, by rw [Result.of, hhandle], by rw [hrun]; rfl, ?_, by simp, ?_⟩
  · rw [hrun, List.append_nil]
    rfl
  · simpa [readings, Member.entry, readsInside, hacc] using hnow

theorem performs_handleHeartbeat {packet : ByteString} (hacc : AcceptsHeartbeat packet) :
    Performs (handleHeartbeat (Wire.heartbeat packet)) (.call (.handlePacket packet))
      fun _ ↦ True := by
  intro gateway inputs r shared out h
  obtain ⟨now, hnow, rfl, rfl, rfl⟩ := ends_handleHeartbeat h
  have hnot : ¬ AcceptsTelemetry packet := fun htelemetry ↦ not_acceptsHeartbeat htelemetry hacc
  have hhandle : gateway.handlePacket now packet =
      .ok (gateway.handleHeartbeat now (Wire.heartbeat packet)) := by
    rw [Gateway.handlePacket_eq, if_neg hacc.not_rejects, if_neg hnot, if_pos hacc]
  have hrun : gateway.run (Member.entry now (.call (.handlePacket packet))) =
      gateway.handleHeartbeat now (Wire.heartbeat packet) := by
    rw [Member.entry, run_cons, run_nil, perform, hhandle]
  refine ⟨now, trivial, by rw [Result.of, hhandle], by rw [hrun]; rfl, ?_, by simp, ?_⟩
  · rw [hrun, List.append_nil]
    rfl
  · simpa [readings, Member.entry, readsInside, hacc] using hnow

theorem performs_getSecondsSinceLastHeartbeat (sensorId : UInt32) :
    Performs (getSecondsSinceLastHeartbeat sensorId)
      (.call (.getSecondsSinceLastHeartbeat sensorId)) fun _ ↦ True := by
  intro gateway inputs r shared out h
  obtain ⟨now, hnow, rfl, rfl, rfl⟩ := ends_getSecondsSinceLastHeartbeat h
  refine ⟨now, trivial, rfl, rfl, (List.append_nil _).symm, by simp, ?_⟩
  simpa [readings, Member.entry, readsInside] using hnow

theorem performs_detectOfflineSensors (currentTime : UInt64) :
    Performs (detectOfflineSensors currentTime) (.call .detectOfflineSensors)
      (· = currentTime) := by
  intro gateway inputs r shared out h
  obtain ⟨rfl, rfl, hlogger⟩ := ends_detectOfflineSensors h
  have hout : out = (gateway.sensors.entries.filter fun e ↦ goesOffline currentTime e.2).map
      fun e ↦ offlineMessage e.1 := (List.nil_append out).symm.trans hlogger.symm
  refine ⟨currentTime, rfl, rfl, rfl, by rw [hout]; rfl, ?_, List.nil_sublist _⟩
  rw [hout]
  intro line hline
  obtain ⟨e, -, rfl⟩ := List.mem_map.mp hline
  exact offlineMessage_ne_unknownMessageType e.1

theorem performs_load {member : Member} {f : Gateway → Result}
    (hentry : ∀ now, member.entry now = [])
    (hresult : ∀ gateway now, f { gateway with logger := [] } = Result.of gateway now member) :
    Performs (load fun gateway ↦ .done (f gateway)) member fun _ ↦ True := by
  intro gateway inputs r shared out h
  obtain ⟨now, _, rfl, hdone⟩ := ends_load.mp h
  obtain ⟨-, rfl, rfl, rfl⟩ := Body.ends_done.mp hdone
  refine ⟨now, trivial, hresult gateway now, ?_⟩
  rw [hentry, run_nil]
  exact ⟨rfl, (List.append_nil _).symm, by simp, List.nil_sublist _⟩

/-- What a thread does at a call, section by section. -/
theorem action_enter {program : Program κ} {l : Local κ} {body : Statements}
    {k : Result → Local κ} (h : action program l = .enter body k) :
    (∃ l₀ member k₀, l = .calling l₀ ∧ program l₀ = some (member, k₀) ∧
      member ≠ .call .detectOfflineSensors ∧ k = .calling ∘ k₀ ∧
        Performs body member fun _ ↦ True) ∨
    (∃ currentTime l₀ member k₀, l = .scanning currentTime l₀ ∧
      program l₀ = some (member, k₀) ∧ k = .calling ∘ k₀ ∧
        Performs body (.call .detectOfflineSensors) (· = currentTime)) := by
  cases l with
  | calling l =>
      refine .inl ⟨l, ?_⟩
      rw [action] at h
      cases hprogram : program l with
      | none => simp [hprogram] at h
      | some call =>
          obtain ⟨member, k₀⟩ := call
          refine ⟨member, k₀, rfl, rfl, ?_⟩
          rw [hprogram] at h
          match member with
          | .call (.handlePacket packet) =>
              simp only [handlePacket_eq] at h
              split_ifs at h with hrej htelemetry hheartbeat
              · cases h
                exact ⟨by simp, rfl, performs_updateSensorInfo htelemetry⟩
              · cases h
                exact ⟨by simp, rfl, performs_handleHeartbeat hheartbeat⟩
          | .call .detectOfflineSensors => cases h
          | .call (.getSecondsSinceLastHeartbeat sensorId) =>
              cases h
              exact ⟨by simp, rfl, performs_getSecondsSinceLastHeartbeat sensorId⟩
          | .getSensors =>
              cases h
              exact ⟨by simp, rfl, performs_load (fun _ ↦ rfl) fun _ _ ↦ rfl⟩
          | .getTelemetryPacketsReceived =>
              cases h
              exact ⟨by simp, rfl, performs_load (fun _ ↦ rfl) fun _ _ ↦ rfl⟩
          | .getHeartbeatPacketsReceived =>
              cases h
              exact ⟨by simp, rfl, performs_load (fun _ ↦ rfl) fun _ _ ↦ rfl⟩
  | scanning currentTime l =>
      refine .inr ⟨currentTime, l, ?_⟩
      rw [action] at h
      cases hprogram : program l with
      | none => simp [hprogram] at h
      | some call =>
          obtain ⟨member, k₀⟩ := call
          rw [hprogram] at h
          cases h
          exact ⟨member, k₀, rfl, rfl, rfl, performs_detectOfflineSensors currentTime⟩

theorem not_accepts_of_rejects {packet : ByteString} (h : Rejects packet) :
    ¬ AcceptsTelemetry packet ∧ ¬ AcceptsHeartbeat packet :=
  ⟨fun hacc ↦ hacc.not_rejects h, fun hacc ↦ hacc.not_rejects h⟩

theorem action_own {program : Program κ} {l : Local κ} {f : UInt64 → List ByteString × Local κ}
    (h : action program l = .own f) :
    ∃ l₀ member k, l = .calling l₀ ∧ program l₀ = some (member, k) ∧
      (member = .call .detectOfflineSensors ∧ f = (fun now ↦ ([], .scanning now l₀)) ∨
      member ≠ .call .detectOfflineSensors ∧ ∀ gateway now, 
        (f now).2 = .calling (k (Result.of gateway now member)) ∧
        gateway.run (member.entry now) = (f now).1.foldl Gateway.log gateway ∧
        (∀ line ∈ (f now).1, line = unknownMessageType) ∧
        readings (member.entry now) = []) := by
  cases l with
  | calling l =>
      rw [action] at h
      cases hprogram : program l with
      | none => simp [hprogram] at h
      | some call =>
          obtain ⟨member, k⟩ := call
          refine ⟨l, member, k, rfl, hprogram, ?_⟩
          rw [hprogram] at h
          match member with
          | .call (.handlePacket packet) =>
              refine .inr ⟨by simp, fun gateway now ↦ ?_⟩
              simp only [handlePacket_eq] at h
              split_ifs at h with hrej htelemetry hheartbeat
              · cases h
                have hhandle : gateway.handlePacket now packet =
                    .error PacketSerializer.bufferUnderflow := by
                  rw [Gateway.handlePacket_eq, if_pos hrej]
                have hnot := not_accepts_of_rejects hrej
                simp [Result.of, Member.entry, perform, hhandle, readings, readsInside, hnot]
              · cases h
                have hhandle : gateway.handlePacket now packet =
                    .ok (gateway.log unknownMessageType) := by
                  rw [Gateway.handlePacket_eq, if_neg hrej, if_neg htelemetry, if_neg hheartbeat]
                simp [Result.of, Member.entry, perform, hhandle, readings, readsInside, htelemetry,
                  hheartbeat]
          | .call .detectOfflineSensors =>
              cases h
              exact .inl ⟨rfl, rfl⟩
  | scanning currentTime l =>
      rw [action] at h
      cases hprogram : program l <;> simp [hprogram] at h

/-! ## Runs -/

structure Reflects (s : Serial Gateway ByteString (Local κ) θ) (a : Calls κ θ) : Prop where
  locals : a.locals = s.locals
  agrees : Agrees s.shared s.output a

def thread : Atomic UInt64 θ → θ
  | .own t _ => t
  | .whole t _ => t

theorem gateway_perform (a : Calls κ θ) (t : θ) (now : UInt64) (member : Member)
    (k : Result → κ) : (a.perform t now member k).gateway = a.gateway.run (member.entry now) := by
  simp [Calls.gateway, Calls.perform, Gateway.run]

theorem callStep_calling {program : Program κ} {a : Calls κ θ} {t : θ} {l : κ}
    {member : Member} {k : Result → κ} (hlocal : a.locals t = .calling l)
    (hprogram : program l = some (member, k)) (hmember : member ≠ .call .detectOfflineSensors)
    (now : UInt64) : callStep program a (t, now) = some (a.perform t now member k) := by
  match member with
  | .call .detectOfflineSensors => exact absurd rfl hmember
  | .call (.handlePacket packet) => simp [callStep, hlocal, hprogram]
  | .call (.getSecondsSinceLastHeartbeat sensorId) => simp [callStep, hlocal, hprogram]
  | .getSensors => simp [callStep, hlocal, hprogram]
  | .getTelemetryPacketsReceived => simp [callStep, hlocal, hprogram]
  | .getHeartbeatPacketsReceived => simp [callStep, hlocal, hprogram]

theorem Agrees.perform {shared shared' : Gateway} {output out : List (Line ByteString)}
    {a : Calls κ θ} (h : Agrees shared output a) {t : θ} {now : UInt64} {member : Member}
    {k : Result → κ}
    (hshared : shared' = { a.gateway.run (member.entry now) with logger := [] })
    (hscans : (a.gateway.run (member.entry now)).logger.filter (· ≠ unknownMessageType) =
      a.gateway.logger.filter (· ≠ unknownMessageType) ++ texts true out)
    (hunknown : (a.gateway.run (member.entry now)).logger.filter (· = unknownMessageType) =
      a.gateway.logger.filter (· = unknownMessageType) ++ texts false out) :
    Agrees shared' (output ++ out) (a.perform t now member k) where
  shared := by rw [gateway_perform, hshared]
  scans := by rw [gateway_perform, hscans, texts_append, h.scans]
  unknown := by rw [gateway_perform, hunknown, texts_append, h.unknown]

theorem foldl_log (gateway : Gateway) (msgs : List ByteString) :
    msgs.foldl Gateway.log gateway = { gateway with logger := gateway.logger ++ msgs } := by
  induction msgs generalizing gateway with
  | nil => simp
  | cons msg msgs ih => simp [ih, Gateway.log]

theorem filter_eq_of_forall {out : List ByteString}
    (h : ∀ line ∈ out, line = unknownMessageType) :
    out.filter (· = unknownMessageType) = out ∧ out.filter (· ≠ unknownMessageType) = [] := by
  constructor
  · exact List.filter_eq_self.mpr fun line hline ↦ by simp [h line hline]
  · exact List.filter_eq_nil_iff.mpr fun line hline ↦ by simp [h line hline]

theorem filter_eq_of_forall_ne {out : List ByteString}
    (h : ∀ line ∈ out, line ≠ unknownMessageType) :
    out.filter (· ≠ unknownMessageType) = out ∧ out.filter (· = unknownMessageType) = [] := by
  constructor
  · exact List.filter_eq_self.mpr fun line hline ↦ by simp [h line hline]
  · exact List.filter_eq_nil_iff.mpr fun line hline ↦ by simp [h line hline]

theorem exists_callStep_own {program : Program κ} {s : Serial Gateway ByteString (Local κ) θ}
    {a : Calls κ θ} {t : θ} {f : UInt64 → List ByteString × Local κ} (hs : Reflects s a)
    (haction : action program (s.locals t) = .own f) (x : UInt64) :
    ∃ now a' more, callStep program a (t, now) = some a' ∧
      Reflects { s with
        locals := Function.update s.locals t (f x).2
        output := s.output ++ lines false (f x).1 } a' ∧
      a'.history = a.history ++ more ∧ (readings more).Sublist [] := by
  obtain ⟨l, member, k, hlocal, hprogram, hcase⟩ := action_own haction
  rw [← hs.locals] at hlocal
  rcases hcase with ⟨rfl, rfl⟩ | ⟨hmember, hown⟩
  · refine ⟨x, { a with locals := Function.update a.locals t (.scanning x l) }, [], ?_, ⟨?_, ?_⟩,
      (List.append_nil _).symm, List.nil_sublist _⟩
    · simp [callStep, hlocal, hprogram]
    · rw [hs.locals]
    · have hnone : s.output ++ lines false ([] : List ByteString) = s.output := by simp [lines]
      simp only [hnone]
      exact ⟨hs.agrees.shared, hs.agrees.scans, hs.agrees.unknown⟩
  · obtain ⟨hresult, hrun, hout, hreadings⟩ := hown a.gateway x
    rw [foldl_log] at hrun
    refine ⟨x, a.perform t x member k, member.entry x, callStep_calling hlocal hprogram hmember x,
      ⟨?_, ?_⟩, rfl, by rw [hreadings]⟩
    · rw [Calls.perform, hs.locals, hresult]
    · apply hs.agrees.perform
      · rw [hrun, hs.agrees.shared]
      · rw [hrun, List.filter_append, (filter_eq_of_forall hout).2, texts_lines_of_ne (by decide)]
      · rw [hrun, List.filter_append, (filter_eq_of_forall hout).1, texts_lines_self]

theorem exists_callStep_whole {program : Program κ} {s : Serial Gateway ByteString (Local κ) θ}
    {a : Calls κ θ} {t : θ} {inputs : List UInt64} {body : Statements} {k : Result → Local κ}
    {r : Result} {shared : Gateway} {out : List ByteString} (hs : Reflects s a)
    (haction : action program (s.locals t) = .enter body k)
    (hends : body.Ends s.shared inputs r shared out) :
    ∃ now a' more, callStep program a (t, now) = some a' ∧
      Reflects {
        shared := shared
        locals := Function.update s.locals t (k r)
        output := s.output ++ lines true out } a' ∧
      a'.history = a.history ++ more ∧ (readings more).Sublist inputs := by
  rw [hs.agrees.shared] at hends
  -- a call that begins with its section, and a scan that has its reading
  obtain ⟨l, member, k₀, hlocal, hprogram, hmember, rfl, hperforms⟩ |
    ⟨currentTime, l, member, k₀, hlocal, hprogram, rfl, hperforms⟩ := action_enter haction
  · obtain ⟨now, -, rfl, rfl, hlogger, hout, hreadings⟩ := hperforms a.gateway _ _ _ _ hends
    rw [← hs.locals] at hlocal
    refine ⟨now, a.perform t now member k₀, member.entry now,
      callStep_calling hlocal hprogram hmember now, ⟨?_, ?_⟩, rfl, hreadings⟩
    · rw [Calls.perform, hs.locals]
      rfl
    · apply hs.agrees.perform rfl
      · rw [hlogger, List.filter_append, (filter_eq_of_forall_ne hout).1, texts_lines_self]
      · rw [hlogger, List.filter_append, (filter_eq_of_forall_ne hout).2,
          texts_lines_of_ne (by decide)]
  · obtain ⟨_, rfl, rfl, rfl, hlogger, hout, hreadings⟩ := hperforms a.gateway _ _ _ _ hends
    rw [← hs.locals] at hlocal
    refine ⟨0, a.perform t _ (.call .detectOfflineSensors) k₀, Member.entry _ _,
      by simp [callStep, hlocal, hprogram], ⟨?_, ?_⟩, rfl, hreadings⟩
    · rw [Calls.perform, hs.locals]
      rfl
    · apply hs.agrees.perform rfl
      · rw [hlogger, List.filter_append, (filter_eq_of_forall_ne hout).1, texts_lines_self]
      · rw [hlogger, List.filter_append, (filter_eq_of_forall_ne hout).2,
          texts_lines_of_ne (by decide)]

/-- Each atomic step is a call made whole, or the reading of the clock that a
scan begins with. -/
theorem exists_callStep {program : Program κ} {s s' : Serial Gateway ByteString (Local κ) θ}
    {a : Calls κ θ} {e : Atomic UInt64 θ} (hs : Reflects s a)
    (h : serialStep (action program) s e = some s') :
    ∃ now a' more, callStep program a (thread e, now) = some a' ∧ Reflects s' a' ∧
      a'.history = a.history ++ more ∧ (readings more).Sublist e.sectionInputs := by
  cases e with
  | own t x =>
      cases haction : action program (s.locals t) with
      | halt => simp [serialStep, haction] at h
      | enter body k => simp [serialStep, haction] at h
      | own f =>
          simp only [serialStep, haction, Option.some.injEq] at h
          subst h
          exact exists_callStep_own hs haction x
  | whole t inputs =>
      cases haction : action program (s.locals t) with
      | halt => simp [serialStep, haction] at h
      | own f => simp [serialStep, haction] at h
      | enter body k =>
          cases hadvance : body.advance s.shared inputs with
          | none => simp [serialStep, haction, hadvance] at h
          | some result =>
              obtain ⟨rest, shared, out⟩ := result
              cases rest with
              | act f rest => simp [serialStep, haction, hadvance] at h
              | done r =>
                  simp only [serialStep, haction, hadvance, Option.some.injEq] at h
                  subst h
                  exact exists_callStep_whole hs haction hadvance

theorem exists_calls_of_serial {program : Program κ}
    {s s' : Serial Gateway ByteString (Local κ) θ} {a : Calls κ θ} {order : List (Atomic UInt64 θ)}
    (hs : Reflects s a) (hrun : Runs.run (serialStep (action program)) s order = some s') :
    ∃ events a' more, Runs.run (callStep program) a events = some a' ∧ Reflects s' a' ∧
      a'.history = a.history ++ more ∧
      (readings more).Sublist (order.flatMap Atomic.sectionInputs) := by
  induction order generalizing s a with
  | nil =>
      cases hrun
      exact ⟨[], a, [], rfl, hs, (List.append_nil _).symm, List.nil_sublist _⟩
  | cons e order ih =>
      obtain ⟨s₁, hstep, hrest⟩ := Runs.run_cons_eq_some.mp hrun
      obtain ⟨now, a₁, more, hcall, hs₁, hhistory, hreadings⟩ := exists_callStep hs hstep
      obtain ⟨events, a', more', hevents, hs', hhistory', hreadings'⟩ := ih hs₁ hrest
      refine ⟨(thread e, now) :: events, a', more ++ more', ?_, hs', ?_, ?_⟩
      · exact Runs.run_cons_eq_some.mpr ⟨a₁, hcall, hevents⟩
      · rw [hhistory', hhistory, List.append_assoc]
      · rw [readings, List.filter_append, List.map_append, List.flatMap_cons]
        exact hreadings.append hreadings'

omit [DecidableEq θ] in
theorem linearizes_of_simulates {program : Program κ} {c : Config κ θ}
    {s : Serial Gateway ByteString (Local κ) θ} {a : Calls κ θ}
    (hc : Simulates (action program) c s) (hs : Reflects s a) : Linearizes program c a where
  outside t l h := by rw [hs.locals, hc.outside t l h]
  inside t rest k h := by
    obtain ⟨body, _, _, _, hnext, hinside, -⟩ := hc.held t (hc.owner t rest k h)
    rw [h] at hinside
    cases hinside
    exact ⟨body, by rw [hs.locals, hnext]⟩
  free howner := by
    obtain ⟨hshared, hscans⟩ := hc.free howner
    exact ⟨hshared.trans hs.agrees.shared, hscans.trans hs.agrees.scans,
      hc.unlocked.trans hs.agrees.unknown⟩

/-- However the threads interleave, their calls happen one after the other:
those that have returned by some moment come first, each call returns what it
returns there, and the times that packets leave in the state are in the order
in which they were read. -/
theorem linearizable {program : Program κ} {start : θ → κ} {pre post : List (θ × UInt64)}
    {c c' : Config κ θ} (hpre : Runs.run (step (action program)) (init start) pre = some c)
    (hpost : Runs.run (step (action program)) c post = some c') :
    ∃ events later a a',
      Runs.run (callStep program) { locals := fun t ↦ .calling (start t) } events = some a ∧
      Runs.run (callStep program) a later = some a' ∧
      Linearizes program c a ∧ Linearizes program c' a' ∧
      (readings a'.history).Sublist ((pre ++ post).map Prod.snd) := by
  obtain ⟨s, hserial, hc⟩ := exists_serial_run hpre
  obtain ⟨s', hserial', hc'⟩ :=
    Runs.exists_run_emitted (fun _ _ _ _ hs h ↦ simulates_step hs h) hc hpost
  have hfresh : Reflects ({ shared := {}, locals := fun t ↦ .calling (start t) } :
      Serial Gateway ByteString (Local κ) θ) { locals := fun t ↦ .calling (start t) } :=
    ⟨rfl, ⟨rfl, rfl, rfl⟩⟩
  obtain ⟨events, a, more, hevents, hs, hhistory, hread⟩ := exists_calls_of_serial hfresh hserial
  obtain ⟨later, a', more', hlater, hs', hhistory', hread'⟩ := exists_calls_of_serial hs hserial'
  refine ⟨events, later, a, a', hevents, hlater, linearizes_of_simulates hc hs,
    linearizes_of_simulates hc' hs', ?_⟩
  have hseen := sectionInputs_sublist (Runs.run_append_eq_some.mpr ⟨c, hpre, hpost⟩)
  rw [serialOrder, Runs.emitted_append hpre, List.flatMap_append] at hseen
  rw [hhistory', hhistory, readings, List.filter_append, List.map_append]
  exact (hread.append hread').trans ((List.sublist_append_left _ _).trans hseen)

/-- A program that makes the calls of a list and ignores what they return. -/
def inTurn : Program (List Member)
  | [] => none
  | member :: members => some (member, fun _ ↦ members)

/-- A scan, a heartbeat and a packet of an unknown type. -/
def threeCalls : Fin 3 → List Member :=
  ![[.call .detectOfflineSensors], [.call (.handlePacket (2 :: List.replicate 12 0))],
    [.call (.handlePacket (3 :: List.replicate 12 0))]]

def untilHeartbeat : List (Fin 3 × UInt64) :=
  [(0, 5), (1, 6), (1, 7), (1, 8), (1, 8), (1, 9), (1, 9), (1, 9)]

def duringScan : List (Fin 3 × UInt64) :=
  [(0, 10), (0, 10), (2, 11), (0, 12), (0, 13), (0, 14), (0, 15)]

/-- The scan reads the clock, the heartbeat is handled before it has the
mutex, and the unknown type is reported while it runs. -/
theorem linearizable_of_overtaken_scan :
    ∃ c c' : Config (List Member) (Fin 3),
      Runs.run (step (action inTurn)) (init threeCalls) untilHeartbeat = some c ∧
      Runs.run (step (action inTurn)) c duringScan = some c' ∧
      ∃ events later a a',
        Runs.run (callStep inTurn) { locals := fun t ↦ .calling (threeCalls t) } events = some a ∧
        Runs.run (callStep inTurn) a later = some a' ∧
        Linearizes inTurn c a ∧ Linearizes inTurn c' a' ∧
        (readings a'.history).Sublist ((untilHeartbeat ++ duringScan).map Prod.snd) :=
  ⟨_, _, rfl, rfl, linearizable rfl rfl⟩

end SmartSensorNetwork.Gateway.Threads
