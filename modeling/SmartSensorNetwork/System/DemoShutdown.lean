import SmartSensorNetwork.System.DemoRuns

/-!
# The shutdown of the demo program

`main` clears the flags of its threads and joins them before it stops the
logger, so nobody logs during or after that stop. The program comes to its
end unless a service is stopped before it has set its own flag, a client's
session goes on, or the logger's thread sleeps through its stop.
-/

namespace SmartSensorNetwork.Demo

open CppStd ForkJoin

variable {sockets : Sockets} {s s' : State}

/-! ## After the stop of the logger -/

/-- Every other thread has ended and no call of `log` is under way. -/
structure AfterStop (s : State) : Prop where
  finished : ∀ thread, s.worker thread = .finished
  left : ∀ st ∈ s.main, st = .act (.control .notifyAll) ∨ st = .act (.control .join)
  starting : s.shared.logger.starting = .returned
  pending : s.shared.logger.pending = ∅

theorem afterStop_of_stopping (hs : Invariant sockets s)
    (hstop : s.shared.logger.stopping ≠ .notCalled) : AfterStop s := by
  have hscript : s.passed ++ s.main = main := hs.reached.script
  have hlength : s.passed.length < main.length + 1 := by
    rw [← hscript, List.length_append]
    omega
  have htake : main.take s.passed.length = s.passed := by simp [← hscript]
  have hdrop : main.drop s.passed.length = s.main := by simp [← hscript]
  have hphase : stoppingAfter (main.take s.passed.length) ≠ .notCalled := by
    have hphases : s.shared.logger.stopping = stoppingAfter s.passed :=
      congrArg Prod.snd hs.phases
    rwa [htake, ← hphases]
  have hfinished : ∀ thread, s.worker thread = .finished := fun thread ↦ by
    apply hs.reached.joined
    rw [← htake]
    exact joined_of_stopping _ hlength hphase thread
  have hleft := left_of_stopping _ hlength hphase
  rw [hdrop] at hleft
  have hstarting := starting_of_stopping _ hlength hphase
  rw [htake] at hstarting
  refine ⟨hfinished, hleft, (congrArg Prod.fst hs.phases).trans hstarting, ?_⟩
  have hworker : ∀ thread, s.shared.calling (some thread) = none := fun thread ↦ by
    obtain ⟨h, hthread, hpaired⟩ := hs.worker_paired thread
    rw [hfinished] at hpaired
    obtain rfl : h = {} := hpaired
    exact hthread.calling_eq_none rfl
  have hmain : s.shared.calling none = none := by
    obtain ⟨h, hnone, hpaired⟩ := hs.main_paired
    cases hrest : s.main with
    | nil =>
        rw [hrest] at hpaired
        obtain rfl := paired_nil.mp hpaired
        exact hnone.calling_eq_none rfl
    | cons st rest =>
        rw [hrest, List.map_cons] at hpaired
        have hst : mainPart st = .other := by
          rcases hleft st (by simp [hrest]) with rfl | rfl
          · rfl
          · rfl
        rw [hst] at hpaired
        obtain ⟨rfl, -⟩ := paired_other.mp hpaired
        exact hnone.calling_eq_none rfl
  apply Finset.eq_empty_of_forall_notMem
  intro c hc
  obtain ⟨thread, hcalling⟩ := (hs.calls.mem_pending_iff c).mp hc
  cases thread with
  | none => cases hmain.symm.trans hcalling
  | some thread => cases (hworker thread).symm.trans hcalling

/-- What a step means to the logger. -/
theorem logger_step (hs : Invariant sockets s) {e : Event}
    (h : (program sockets).step s e = some s') :
    s'.shared.logger = s.shared.logger ∨
      (∃ f, Quiet f ∧ Logger.step s.shared.logger f = some s'.shared.logger) ∨
      ∃ x c rest, e = .main x ∧ s.main = .act (.control c) :: rest ∧
        Logger.step s.shared.logger c.event = some s'.shared.logger := by
  cases e with
  | main x =>
      obtain ⟨st, rest, t, hmain, heffect, rfl⟩ := Program.stepMain_cases h
      cases st with
      | act a =>
          obtain ⟨shared, hact, rfl⟩ := Option.map_eq_some_iff.mp heffect
          cases a with
          | act a => exact (perform_logger hact).imp_right .inl
          | get =>
              obtain ⟨-, rfl⟩ := Runs.of_guard hact
              exact .inl rfl
          | control c =>
              obtain ⟨logger, hlogger, rfl⟩ := Option.map_eq_some_iff.mp hact
              exact .inr (.inr ⟨x, c, rest, rfl, hmain, hlogger⟩)
      | store f value =>
          cases heffect
          exact .inl rfl
      | await f | spawn i | join i =>
          obtain ⟨-, rfl⟩ := Runs.of_guard heffect
          exact .inl rfl
  | worker thread x =>
      obtain ⟨shared, flags, position, hadvance, rfl⟩ := Program.stepWorker_cases h
      obtain ⟨h, hthread, hpaired⟩ := hs.worker_paired thread
      obtain ⟨h', hacted, -⟩ := acted_advance hadvance hs.calls hthread hpaired
      exact hacted.logger.imp_right .inl
  | internal e =>
      obtain ⟨shared, hinternal, rfl⟩ := Program.internal_cases h
      obtain ⟨logger, hlogger, rfl⟩ := Option.map_eq_some_iff.mp hinternal
      exact .inr (.inl ⟨e.event, quiet_event e, hlogger⟩)

/-- After the stop only `stop` itself and the logger's thread go on. -/
theorem step_after_stop (hs : Invariant sockets s) {e : Event}
    (hstop : s.shared.logger.stopping ≠ .notCalled) (h : (program sockets).step s e = some s') :
    ∃ f, Logger.step s.shared.logger f = some s'.shared.logger ∧
      (f = .notifyAll ∨ f = .join ∨ ∃ i : LoggerStep, f = i.event) := by
  have hafter := afterStop_of_stopping hs hstop
  cases e with
  | main x =>
      obtain ⟨st, rest, t, hmain, heffect, rfl⟩ := Program.stepMain_cases h
      rcases hafter.left st (by simp [hmain]) with rfl | rfl
      · obtain ⟨shared, hact, rfl⟩ := Option.map_eq_some_iff.mp heffect
        obtain ⟨logger, hlogger, rfl⟩ := Option.map_eq_some_iff.mp hact
        exact ⟨.notifyAll, hlogger, .inl rfl⟩
      · obtain ⟨shared, hact, rfl⟩ := Option.map_eq_some_iff.mp heffect
        obtain ⟨logger, hlogger, rfl⟩ := Option.map_eq_some_iff.mp hact
        exact ⟨.join, hlogger, .inr (.inl rfl)⟩
  | worker thread x =>
      obtain ⟨shared, flags, position, hadvance, rfl⟩ := Program.stepWorker_cases h
      exact absurd (hafter.finished thread) (Program.advance_cases hadvance).2.1
  | internal e =>
      obtain ⟨shared, hinternal, rfl⟩ := Program.internal_cases h
      obtain ⟨logger, hlogger, rfl⟩ := Option.map_eq_some_iff.mp hinternal
      exact ⟨e.event, hlogger, .inr (.inr ⟨e, rfl⟩)⟩

theorem unlogged_after_stop {l l' : Logger.State} {f : Logger.Event}
    (h : Logger.step l f = some l')
    (hf : f = .notifyAll ∨ f = .join ∨ ∃ i : LoggerStep, f = i.event) :
    l'.logged = l.logged ∧ l'.early = l.early := by
  rcases hf with rfl | rfl | ⟨i, rfl⟩
  · obtain ⟨-, rfl⟩ := Runs.of_guard h
    exact ⟨rfl, rfl⟩
  · obtain ⟨-, rfl⟩ := Runs.of_guard h
    exact ⟨rfl, rfl⟩
  · exact ⟨(logger_event h).2, (unaffected_step (quiet_event i) h).early⟩

/-- The step with which `stop` begins. -/
theorem stopStore_of_step (hs : Invariant sockets s) {e : Event}
    (h : (program sockets).step s e = some s')
    (hbefore : s.shared.logger.stopping = .notCalled)
    (hafter : s'.shared.logger.stopping ≠ .notCalled) :
    ∃ x rest, e = .main x ∧ s.main = .act (.control .stopStore) :: rest ∧
      Logger.step s.shared.logger .stopStore = some s'.shared.logger := by
  rcases logger_step hs h with hsame | ⟨f, hf, hlogger⟩ | ⟨x, c, rest, rfl, hmain, hlogger⟩
  · rw [hsame] at hafter
    exact absurd hbefore hafter
  · rw [(unaffected_step hf hlogger).stopping] at hafter
    exact absurd hbefore hafter
  · cases c with
    | stopStore => exact ⟨x, rest, rfl, hmain, hlogger⟩
    | startStore | createThread =>
        obtain ⟨-, hlogger⟩ := Runs.of_guard hlogger
        rw [← hlogger] at hafter
        exact absurd hbefore hafter
    | notifyAll =>
        have hstored := (Runs.of_guard hlogger).1
        cases hbefore.symm.trans hstored
    | join =>
        have hnotified := (Runs.of_guard hlogger).1.1
        cases hbefore.symm.trans hnotified

/-! ## Messages -/

/-- `stop` does not clear the flag while the logger's thread stands before a
test of it with a message in the queue. -/
def StopsLoggerInTime (s : State) (e : Event) : Prop :=
  ∀ x rest, e = .main x → s.main = .act (.control .stopStore) :: rest →
    s.shared.logger.worker = .testing → s.shared.logger.logger.queue = []

/-- All calls of `log` count as early once `stop` is called. -/
structure Settled (sockets : Sockets) (s : State) : Prop extends Invariant sockets s where
  early : s.shared.logger.stopping ≠ .notCalled →
    s.shared.logger.early = Finset.range s.shared.logger.logged.length

theorem settled_start : Settled sockets (start sockets) :=
  { invariant_start with early := fun h ↦ absurd rfl h }

theorem settled_step {e : Event} (hs : Settled sockets s)
    (h : (program sockets).step s e = some s') : Settled sockets s' := by
  have hinvariant := invariant_step hs.toInvariant h
  refine { hinvariant with early := fun hstop ↦ ?_ }
  by_cases hbefore : s.shared.logger.stopping = .notCalled
  · obtain ⟨x, rest, -, -, hlogger⟩ := stopStore_of_step hs.toInvariant h hbefore hstop
    have hpending := (afterStop_of_stopping hinvariant hstop).pending
    obtain ⟨-, hlogger⟩ := Runs.of_guard hlogger
    rw [← hlogger] at hpending ⊢
    have hnone : s.shared.logger.pending = ∅ := hpending
    simp [Logger.State.returned, hnone]
  · obtain ⟨f, hlogger, hf⟩ := step_after_stop hs.toInvariant hbefore h
    obtain ⟨hlogged, hearly⟩ := unlogged_after_stop hlogger hf
    rw [hearly, hlogged]
    exact hs.early hbefore

theorem settled_of_run {events : List Event}
    (hrun : Runs.run (program sockets).step (start sockets) events = some s) :
    Settled sockets s :=
  Runs.invariant_run (fun _ _ _ hs h ↦ settled_step hs h) settled_start hrun

theorem draining_step {e : Event} (hs : Settled sockets s)
    (hdraining : Logger.Draining s.shared.logger) (he : StopsLoggerInTime s e)
    (h : (program sockets).step s e = some s') : Logger.Draining s'.shared.logger := by
  by_cases hstops : s.shared.logger.stopping = .notCalled ∧
      s'.shared.logger.stopping ≠ .notCalled
  · obtain ⟨x, rest, rfl, hmain, hlogger⟩ := stopStore_of_step hs.toInvariant h hstops.1 hstops.2
    apply Logger.draining_step hdraining _ hlogger
    rintro - - (habsent | htesting) call hcall
    · have hstarting := (afterStop_of_stopping (invariant_step hs.toInvariant h) hstops.2).starting
      obtain ⟨-, hlogger⟩ := Runs.of_guard hlogger
      rw [← hlogger] at hstarting
      exact absurd hstarting (hdraining.absent_iff.mp habsent)
    · have hqueue := he x rest rfl hmain htesting
      have hfifo := hdraining.fifo
      rw [hqueue, List.append_nil] at hfifo
      rw [hfifo]
      exact Finset.mem_range.mp (Finset.mem_sdiff.mp hcall).1
  · rcases logger_step hs.toInvariant h with hsame | ⟨f, hf, hlogger⟩ | ⟨x, c, rest, -, -, hlogger⟩
    · rwa [hsame]
    · refine Logger.draining_step hdraining ?_ hlogger
      rintro rfl
      exact hf.elim
    · refine Logger.draining_step hdraining ?_ hlogger
      intro hevent hnotCalled
      have hcalled : s'.shared.logger.stopping ≠ .notCalled := by
        cases c with
        | stopStore =>
            obtain ⟨-, hlogger⟩ := Runs.of_guard hlogger
            simp [← hlogger]
        | _ => cases hevent
      exact absurd ⟨hnotCalled, hcalled⟩ hstops

/-- The logger's thread is about to end and leave a message behind. -/
structure Abandoned (s : State) : Prop where
  stopping : s.shared.logger.stopping ≠ .notCalled
  running : s.shared.logger.logger.running = false
  queue : s.shared.logger.logger.queue ≠ []
  worker : s.shared.logger.worker = .testing ∨ s.shared.logger.worker = .finished

theorem abandoned_step {e : Event} (hs : Invariant sockets s) (hlost : Abandoned s)
    (h : (program sockets).step s e = some s') : Abandoned s' := by
  obtain ⟨f, hlogger, hf⟩ := step_after_stop hs hlost.stopping h
  obtain ⟨hstopping, hrunning, hqueue, hworker⟩ := hlost
  rcases hf with rfl | rfl | ⟨i, rfl⟩
  · obtain ⟨-, hlogger⟩ := Runs.of_guard hlogger
    refine ⟨by simp [← hlogger], by simpa [← hlogger], by simpa [← hlogger], ?_⟩
    rw [← hlogger]
    rcases hworker with hworker | hworker
    · exact .inl (by simp [hworker, Logger.Worker.notify])
    · exact .inr (by simp [hworker, Logger.Worker.notify])
  · obtain ⟨-, hlogger⟩ := Runs.of_guard hlogger
    exact ⟨by simp [← hlogger], by simpa [← hlogger], by simpa [← hlogger],
      by simpa [← hlogger]⟩
  · cases i with
    | test =>
        obtain ⟨-, hlogger⟩ := Runs.of_guard hlogger
        refine ⟨by simpa [← hlogger], by simpa [← hlogger], by simpa [← hlogger], .inr ?_⟩
        simp [← hlogger, hrunning]
    | pop =>
        obtain ⟨msg, queue, hdraining, -, -⟩ := Logger.of_pop hlogger
        simp [hdraining] at hworker
    | unlock =>
        have hdraining := (Runs.of_guard hlogger).1.1
        simp [hdraining] at hworker
    | lock | evaluate | block | wakeSpuriously =>
        have hat := (Runs.of_guard hlogger).1
        simp [hat] at hworker

theorem abandoned_of_not_stopsLoggerInTime {e : Event}
    (he : ¬ StopsLoggerInTime s e) (h : (program sockets).step s e = some s') : Abandoned s' := by
  simp only [StopsLoggerInTime, Classical.not_imp, not_forall] at he
  obtain ⟨x, rest, rfl, hmain, hworker, hqueue⟩ := he
  obtain ⟨st, rest', t, hmain', heffect, rfl⟩ := Program.stepMain_cases h
  cases hmain.symm.trans hmain'
  obtain ⟨shared, hact, rfl⟩ := Option.map_eq_some_iff.mp heffect
  obtain ⟨logger, hlogger, rfl⟩ := Option.map_eq_some_iff.mp hact
  obtain ⟨-, rfl⟩ := Runs.of_guard hlogger
  exact ⟨by simp, rfl, hqueue, .inl hworker⟩

/-- When `main` returns every thread has ended and every call of `log` has
returned. All messages were taken from the queue exactly if the stop of the
logger came in time. -/
theorem all_taken_iff {events : List Event}
    (hrun : Runs.run (program sockets).step (start sockets) events = some s)
    (hover : s.main = []) :
    (∀ thread, s.worker thread = .finished) ∧ s.shared.logger.worker = .finished ∧
      s.shared.logger.pending = ∅ ∧
      (s.shared.logger.consumed = s.shared.logger.logged ↔
        Runs.Along (program sockets).step StopsLoggerInTime (start sockets) events) := by
  have hs := settled_of_run hrun
  have hpassed : s.passed = main := by
    have hscript : s.passed ++ s.main = main := hs.reached.script
    rwa [hover, List.append_nil] at hscript
  have hreturned : s.shared.logger.stopping = .returned := by
    have hphases : s.shared.logger.stopping = stoppingAfter s.passed :=
      congrArg Prod.snd hs.phases
    rw [hphases, hpassed]
    decide +kernel
  have hcalled : s.shared.logger.stopping ≠ .notCalled := by simp [hreturned]
  have hafter := afterStop_of_stopping hs.toInvariant hcalled
  have hworker := hs.stopped.finished hreturned
  refine ⟨hafter.finished, hworker, hafter.pending, fun htaken ↦ ?_, fun halong ↦ ?_⟩
  · refine Runs.along_iff_forall_split.mpr fun pre e post hes t hpre ↦ ?_
    subst hes
    by_contra hlate
    obtain ⟨t', hpre', hrest⟩ := Runs.run_append_eq_some.mp hrun
    cases hpre.symm.trans hpre'
    obtain ⟨u, he, hpost⟩ := Runs.run_cons_eq_some.mp hrest
    have ht := invariant_of_run hpre
    have hend : Invariant sockets s ∧ Abandoned s :=
      Runs.invariant_run (I := fun s ↦ Invariant sockets s ∧ Abandoned s)
        (fun _ _ _ hs h ↦ ⟨invariant_step hs.1 h, abandoned_step hs.1 hs.2 h⟩)
        ⟨invariant_step ht he, abandoned_of_not_stopsLoggerInTime hlate he⟩ hpost
    have hfifo := hs.consistent.fifo
    rw [htaken] at hfifo
    exact hend.2.queue (List.append_right_eq_self.mp hfifo)
  · have hend : Settled sockets s ∧ Logger.Draining s.shared.logger :=
      Runs.invariant_run_of_along (I := fun s ↦ Settled sockets s ∧ Logger.Draining s.shared.logger)
        (fun _ _ _ hs he h ↦ ⟨settled_step hs.1 h, draining_step hs.1 hs.2 he h⟩)
        ⟨settled_start, Logger.draining_init⟩ halong hrun
    have hearly : s.shared.logger.EarlyConsumed := hend.2.taken hcalled (by rw [hworker]; rfl)
    have hfifo := hs.consistent.fifo
    have hlength : s.shared.logger.logged.length ≤ s.shared.logger.consumed.length := by
      by_contra hless
      rw [not_le] at hless
      have hmem : s.shared.logger.consumed.length ∈ s.shared.logger.early := by
        rw [hs.early hcalled]
        exact Finset.mem_range.mpr hless
      exact absurd (hearly _ hmem) (lt_irrefl _)
    rw [← hfifo, List.length_append] at hlength
    have hqueue : s.shared.logger.logger.queue = [] := List.length_eq_zero_iff.mp (by omega)
    rw [← hfifo, hqueue, List.append_nil]

/-! ## Termination -/

def loopFlags : List Flag :=
  [.dashboardRunning, .telemetrySimulationRunning, .heartbeatSimulationRunning, .watchdogRunning,
    .receiverRunning, .serverRunning]

theorem stops_of_last : ∀ k < main.length + 1, .store .serverRunning false ∈ main.take k →
    ∀ f ∈ loopFlags, .store f false ∈ main.take k := by
  decide +kernel

theorem mem_loopFlags {thread : Thread} {f : Flag}
    (h : f ∈ ((program sockets).worker thread).loop) : f ∈ loopFlags := by
  obtain ⟨udp, tcp⟩ := sockets
  cases thread with
  | udp =>
      cases udp
      · cases h
      · cases h
        decide
  | tcp =>
      cases tcp
      · cases h
      · cases h
        decide
  | _ =>
      cases h
      decide

theorem closing_of_last {events : List Event}
    (hrun : Runs.run (program sockets).step (start sockets) events = some s)
    (halong : Runs.Along (program sockets).step (program sockets).StopsInTime (start sockets)
      events)
    (hlast : .store .serverRunning false ∈ s.passed) : (program sockets).Closing s := by
  intro thread f hf
  have hscript : s.passed ++ s.main = main := (invariant_of_run hrun).reached.script
  have hlength : s.passed.length < main.length + 1 := by
    rw [← hscript, List.length_append]
    omega
  have htake : main.take s.passed.length = s.passed := by simp [← hscript]
  apply Program.cleared_of_run rfl halong hrun
  rw [← htake] at hlast ⊢
  exact stops_of_last _ hlength hlast f (mem_loopFlags hf)

/-- `main` returns only if no service is stopped before it has set its flag.
If none is, then once the last of them is stopped no loop is entered again, and
the threads take a bounded number of steps, whatever the order, except for what
the answers that they still get ask them to do: a session goes on as long as
its client sends requests. -/
theorem shutdown_ends {events : List Event}
    (hrun : Runs.run (program sockets).step (start sockets) events = some s) :
    (s.main = [] →
      Runs.Along (program sockets).step (program sockets).StopsInTime (start sockets) events) ∧
    (Runs.Along (program sockets).step (program sockets).StopsInTime (start sockets) events →
      .store .serverRunning false ∈ s.passed → ∀ more t,
        Runs.run (program sockets).step s more = some t →
          (∀ thread, ∀ f ∈ ((program sockets).worker thread).loop, t.flags f = false) ∧
          more.countP ForkJoin.Event.IsOwn ≤
            (program sockets).remaining s + (program sockets).answers s more) := by
  refine ⟨Program.stopsInTime_of_finished (disciplined sockets) hrun, ?_⟩
  intro halong hlast more t hmore
  have hs := closing_of_last hrun halong hlast
  have ht : (program sockets).Closing t :=
    Runs.invariant_run (fun _ _ _ hs h ↦ hs.step h) hs hmore
  exact ⟨fun thread f hf ↦ (ht thread f hf).flag, Program.countP_isOwn_le hs hmore⟩

/-! ## Deadlock -/

/-- Nothing comes from the user or a client. -/
structure Input.Silent (x : Input) : Prop where
  entered : x.entered = false
  request : x.request = none
  written : x.written = none

theorem silent_default : Input.Silent {} := ⟨rfl, rfl, rfl⟩

/-- Nothing can happen with no input from outside but a spurious wake-up of
the logger's thread. -/
structure Stalled (sockets : Sockets) (s : State) : Prop where
  main : ∀ x : Input, x.Silent → (program sockets).step s (.main x) = none
  worker : ∀ thread, ∀ x : Input, x.Silent → (program sockets).step s (.worker thread x) = none
  logger : ∀ e ≠ .wakeSpuriously, (program sockets).step s (.internal e) = none

/-- `main` waits for its input. -/
def AwaitsInput (s : State) : Prop := ∃ rest, s.main = .act .get :: rest

/-- A thread waits for a request of its client, or to write its response. -/
def AwaitsClient (s : State) : Prop :=
  ∃ thread, ∃ q ∈ (s.worker thread).question, q = .read ∨ q = .write

theorem Stalled.logger_step (h : Stalled sockets s) {e : LoggerStep} (he : e ≠ .wakeSpuriously) :
    Logger.step s.shared.logger e.event = none :=
  Option.map_eq_none_iff.mp (Option.map_eq_none_iff.mp (h.logger e he))

/-- The logger's thread goes on unless it sleeps or is not there. -/
theorem worker_of_stalled (h : Stalled sockets s) :
    s.shared.logger.worker = .absent ∨ s.shared.logger.worker = .blocked ∨
      s.shared.logger.worker = .finished := by
  cases hworker : s.shared.logger.worker with
  | absent => exact .inl rfl
  | blocked => exact .inr (.inl rfl)
  | finished => exact .inr (.inr rfl)
  | testing =>
      have htest := h.logger_step (e := .test) (by decide)
      simp [Logger.step, LoggerStep.event, hworker] at htest
  | locking =>
      have hlock := h.logger_step (e := .lock) (by decide)
      simp [Logger.step, LoggerStep.event, hworker] at hlock
  | evaluating =>
      have hevaluate := h.logger_step (e := .evaluate) (by decide)
      simp [Logger.step, LoggerStep.event, hworker] at hevaluate
  | blocking =>
      have hblock := h.logger_step (e := .block) (by decide)
      simp [Logger.step, LoggerStep.event, hworker] at hblock
  | draining =>
      cases hqueue : s.shared.logger.logger.queue with
      | nil =>
          have hunlock := h.logger_step (e := .unlock) (by decide)
          simp [Logger.step, LoggerStep.event, hworker, hqueue] at hunlock
      | cons msg queue =>
          have hpop := h.logger_step (e := .pop) (by decide)
          simp [Logger.step, LoggerStep.event, hworker, hqueue] at hpop

theorem holdsMutex_of_stalled (h : Stalled sockets s) :
    s.shared.logger.worker.holdsMutex = false := by
  rcases worker_of_stalled h with hworker | hworker | hworker
  · rw [hworker]
    rfl
  · rw [hworker]
    rfl
  · rw [hworker]
    rfl

/-- With the logger's mutex free an act waits for one of the others only, and
its thread is in no call and holds none. -/
theorem waits_for_lock {x : Input} {thread : Option Thread} {shared : Shared} {a : Act}
    {h h' : Hold} (hcalls : Calls shared) (hthread : Holds shared thread h)
    (hpart : a.part.apply h = some h') (hfree : shared.logger.worker.holdsMutex = false)
    (hact : perform x thread shared a = none) :
    h = {} ∧ ∃ mutex, a = .lock mutex ∧ shared.holder mutex ≠ none := by
  cases a with
  | call c => cases hact
  | getRecentLogs => simp [perform, hfree] at hact
  | enqueue msg => simp [perform, Logger.step, hfree] at hact
  | notifyOne =>
      obtain ⟨hin, -⟩ := Runs.of_guard hpart
      obtain ⟨c, hc⟩ := Option.isSome_iff_exists.mp (hthread.inCall.trans hin)
      have hmem := (hcalls.mem_pending_iff c).mpr ⟨thread, hc⟩
      simp [perform, hc, Logger.step, hmem] at hact
  | lock mutex =>
      obtain ⟨rfl, -⟩ := Runs.of_guard hpart
      refine ⟨rfl, mutex, rfl, fun hnone ↦ ?_⟩
      simp [perform, hnone] at hact
  | unlock mutex =>
      obtain ⟨rfl, -⟩ := Runs.of_guard hpart
      have hheld := (hthread.held mutex).mpr rfl
      simp [perform, hheld] at hact

/-- A question without an answer is one to the client. -/
theorem waits_for_client {x : Input} (hdatagram : x.datagram = none) {q : Question}
    (h : answer x q = none) : q = .read ∨ q = .write := by
  cases q with
  | read => exact .inl rfl
  | write => exact .inr rfl
  | recvfrom => simp [answer, receivePacket, hdatagram] at h
  | scan | accept | rows | size id | entry id => cases h

/-- Of the steps of `start` and `stop` only the join of the logger's thread
can wait. -/
theorem eq_join_of_waits {l : Logger.State} {c : Control} (hbefore : phases l = c.before)
    (h : Logger.step l c.event = none) :
    l.stopping = .notified ∧ l.worker ≠ .absent ∧ l.worker ≠ .finished := by
  have hstarting : l.starting = c.before.1 := congrArg Prod.fst hbefore
  have hstopping : l.stopping = c.before.2 := congrArg Prod.snd hbefore
  cases c with
  | join =>
      refine ⟨hstopping, fun habsent ↦ ?_, fun hfinished ↦ ?_⟩
      · simp [Logger.step, Control.event, hstopping, Control.before, habsent] at h
      · simp [Logger.step, Control.event, hstopping, Control.before, hfinished] at h
  | _ => simp [Logger.step, Control.event, hstarting, hstopping, Control.before] at h

theorem part_of_act {h : Hold} {p : Position Flag Act Question} {a : Act}
    (hpaired : PositionPaired h p) (ha : a ∈ p.act) : ∃ h', a.part.apply h = some h' := by
  cases p with
  | unborn => cases ha
  | testing => cases ha
  | finished => cases ha
  | starting rest =>
      cases rest with
      | nil => cases ha
      | cons st rest =>
          cases st with
          | act b =>
              cases ha
              exact (paired_cons.mp hpaired).imp fun _ h ↦ h.1
          | store f value => cases ha
  | passing rest =>
      cases rest with
      | nil => cases ha
      | cons st rest =>
          cases st with
          | act b =>
              cases ha
              exact (paired_cons.mp hpaired).imp fun _ h ↦ h.1
          | actIf f b | retest | ask q => cases ha

theorem part_of_question {h : Hold} {p : Position Flag Act Question} {q : Question}
    (hpaired : PositionPaired h p) (hq : q ∈ p.question) : ∃ h', q.part.apply h = some h' := by
  cases p with
  | unborn | testing | finished | starting rest => cases hq
  | passing rest =>
      cases rest with
      | nil => cases hq
      | cons st rest =>
          cases st with
          | ask q' =>
              cases hq
              exact (paired_cons.mp hpaired).imp fun _ h ↦ h.1
          | act b | actIf f b | retest => cases hq

theorem holds_main_of_stalled (hs : Invariant sockets s) (hstalled : Stalled sockets s) :
    Holds s.shared none {} := by
  obtain ⟨h, hnone, hpaired⟩ := hs.main_paired
  have hmain : (program sockets).stepMain {} s = none := hstalled.main {} silent_default
  rw [Program.stepMain] at hmain
  cases hscript : s.main with
  | nil =>
      rw [hscript] at hpaired
      exact paired_nil.mp hpaired ▸ hnone
  | cons st rest =>
      rw [hscript] at hpaired hmain
      cases st with
      | act a =>
          cases a with
          | act a =>
              obtain ⟨h', hpart, -⟩ := paired_cons.mp hpaired
              have hact := Option.map_eq_none_iff.mp (Option.map_eq_none_iff.mp hmain)
              obtain ⟨rfl, -⟩ :=
                waits_for_lock hs.calls hnone hpart (holdsMutex_of_stalled hstalled) hact
              exact hnone
          | get | control c => exact (paired_other.mp hpaired).1 ▸ hnone
      | store f value | await f | spawn i | join i => exact (paired_other.mp hpaired).1 ▸ hnone

theorem holds_worker_of_stalled (hs : Invariant sockets s) (hstalled : Stalled sockets s)
    (thread : Thread) : Holds s.shared (some thread) {} := by
  obtain ⟨h, hthread, hpaired⟩ := hs.worker_paired thread
  by_cases hborn : s.worker thread = .unborn
  · rw [hborn] at hpaired
    obtain rfl : h = {} := hpaired
    exact hthread
  by_cases hrunning : s.worker thread = .finished
  · rw [hrunning] at hpaired
    obtain rfl : h = {} := hpaired
    exact hthread
  have hblocked := Option.map_eq_none_iff.mp (hstalled.worker thread {} silent_default)
  rcases Program.blocked_worker hborn hrunning hblocked with ⟨a, ha, hact⟩ | ⟨q, hq, hask⟩
  · obtain ⟨h', hpart⟩ := part_of_act hpaired ha
    obtain ⟨rfl, -⟩ := waits_for_lock hs.calls hthread hpart (holdsMutex_of_stalled hstalled) hact
    exact hthread
  · obtain ⟨h', hpart⟩ := part_of_question hpaired hq
    rcases waits_for_client rfl hask with rfl | rfl
    · exact (Runs.of_guard hpart).1 ▸ hthread
    · exact (Runs.of_guard hpart).1 ▸ hthread

/-- A thread that cannot go on is in no call and holds no mutex. -/
theorem holds_of_stalled (hs : Invariant sockets s) (hstalled : Stalled sockets s)
    (thread : Option Thread) : Holds s.shared thread {} := by
  cases thread with
  | none => exact holds_main_of_stalled hs hstalled
  | some thread => exact holds_worker_of_stalled hs hstalled thread

theorem holder_of_stalled (hs : Invariant sockets s) (hstalled : Stalled sockets s)
    (mutex : Mutex) : s.shared.holder mutex = none := by
  by_contra hheld
  obtain ⟨thread, hthread⟩ := Option.ne_none_iff_exists'.mp hheld
  cases ((holds_of_stalled hs hstalled thread).held mutex).mp hthread

theorem pending_of_stalled (hs : Invariant sockets s) (hstalled : Stalled sockets s) :
    s.shared.logger.pending = ∅ := by
  apply Finset.eq_empty_of_forall_notMem
  intro c hc
  obtain ⟨thread, hcalling⟩ := (hs.calls.mem_pending_iff c).mp hc
  cases ((holds_of_stalled hs hstalled thread).calling_eq_none rfl).symm.trans hcalling

/-- In a state in which no thread can go on by itself all mutexes are free, no
call of `log` is under way, and `main` has returned, the logger's thread sleeps
through its stop, or a thread waits for the user or a client. -/
theorem stuck_of_stalled {events : List Event}
    (hrun : Runs.run (program sockets).step (start sockets) events = some s)
    (hstalled : Stalled sockets s) :
    (∀ mutex, s.shared.holder mutex = none) ∧ s.shared.logger.worker.holdsMutex = false ∧
      s.shared.logger.pending = ∅ ∧
      (s.main = [] ∨ Logger.Stuck s.shared.logger ∨ AwaitsInput s ∨ AwaitsClient s) := by
  have hs := invariant_of_run hrun
  have hfree := holdsMutex_of_stalled hstalled
  have hholder := holder_of_stalled hs hstalled
  have hpending := pending_of_stalled hs hstalled
  refine ⟨hholder, hfree, hpending, ?_⟩
  rcases Program.waits (disciplined sockets) hs.reached hs.ready {}
    (hstalled.main {} silent_default) (fun thread ↦ hstalled.worker thread {} silent_default) with
    hover | ⟨a, rest, hmain, hact⟩ | ⟨thread, a, ha, hact⟩ | ⟨thread, q, hq, hask⟩
  · exact .inl hover
  · obtain ⟨h, hnone, hpaired⟩ := hs.main_paired
    rw [hmain] at hpaired
    cases a with
    | act a =>
        obtain ⟨h', hpart, -⟩ := paired_cons.mp hpaired
        obtain ⟨-, mutex, -, hheld⟩ := waits_for_lock hs.calls hnone hpart hfree hact
        exact absurd (hholder mutex) hheld
    | get => exact .inr (.inr (.inl ⟨rest, hmain⟩))
    | control c =>
        have hscript : s.passed ++ .act (.control c) :: rest = main := hmain ▸ hs.reached.script
        have hlogger : Logger.step s.shared.logger c.event = none := Option.map_eq_none_iff.mp hact
        obtain ⟨hnotified, habsent, hfinished⟩ :=
          eq_join_of_waits (hs.phases.trans (phases_of_front hscript).1) hlogger
        have hcalled : s.shared.logger.stopping ≠ .notCalled := by simp [hnotified]
        right
        left
        exact {
          pastNotify := .inl hnotified
          running := hs.stopped.running hcalled
          worker := ((worker_of_stalled hstalled).resolve_left habsent).resolve_right hfinished
          pending := hpending }
  · obtain ⟨h, hthread, hpaired⟩ := hs.worker_paired thread
    obtain ⟨h', hpart⟩ := part_of_act hpaired ha
    obtain ⟨-, mutex, -, hheld⟩ := waits_for_lock hs.calls hthread hpart hfree hact
    exact absurd (hholder mutex) hheld
  · exact .inr (.inr (.inr ⟨thread, q, hq, waits_for_client rfl hask⟩))

/-! ## A run -/

def mainSteps (n : ℕ) : List Event := List.replicate n (.main { entered := true })

def workerSteps (thread : Thread) (n : ℕ) : List Event := List.replicate n (.worker thread {})

def loggerSteps (steps : List LoggerStep) : List Event := steps.map .internal

/-- Up to the stop of the server, which is in the session of a client. The
watchdog has found sensor 3 offline, and the dashboard has drawn once. -/
def upToLastStop : List Event :=
  List.flatten [
    mainSteps 6, workerSteps .udp 9, workerSteps .tcp 8,
    [.worker .tcp { accepted := .client }], workerSteps .tcp 2, mainSteps 6,
    workerSteps .dashboard 17, workerSteps .watchdog 5, [.worker .watchdog { offline := [3] }],
    workerSteps .watchdog 5, mainSteps 43, workerSteps .dashboard 1, workerSteps .telemetry 2,
    workerSteps .heartbeat 4, workerSteps .watchdog 1, mainSteps 6]

/-- The client asks for help and leaves. -/
def lastRequest : List Event :=
  List.flatten [
    [.worker .tcp { request := some (ascii "help") }], workerSteps .tcp 4,
    [.worker .tcp { written := some (.sent true) }, .worker .tcp { request := some [] }],
    workerSteps .tcp 4]

/-- The logger's thread has taken all messages when `main` comes to stop it. -/
def upToLoggerStop : List Event :=
  List.flatten [
    workerSteps .udp 2, lastRequest, mainSteps 2,
    loggerSteps ([.test, .lock, .evaluate] ++ List.replicate 24 .pop ++ [.unlock])]

def closing : List Event :=
  upToLoggerStop ++ mainSteps 1 ++ loggerSteps [.test] ++ mainSteps 2

def returning : List Event := upToLastStop ++ closing

/-- The client stays and is silent while `main` joins the thread. -/
def idling : List Event :=
  upToLastStop ++ workerSteps .udp 2 ++ mainSteps 1 ++
    loggerSteps ([.test, .lock, .evaluate] ++ List.replicate 22 .pop ++
      [.unlock, .test, .lock, .evaluate, .block])

def bothBound : Sockets := ⟨true, true⟩

def outcome (events : List Event) :
    Option (List (Statement Thread Flag MainAct) × Bool × Logger.Worker × Option Question) :=
  (Runs.run (program bothBound).step (start bothBound) events).map fun s ↦
    (s.main, decide (∀ thread ≠ .tcp, s.worker thread = .finished), s.shared.logger.worker,
      (s.worker .tcp).question)

theorem outcome_returning : outcome returning = some ([], true, .finished, none) := by
  decide +kernel

theorem outcome_idling :
    (outcome idling).map Prod.snd = some (true, .blocked, some .read) ∧
      (outcome idling).map (fun o ↦ o.1.head?) = some (some (.join .tcp)) := by
  decide +kernel

theorem all_taken_iff_when_returning :
    ∃ s, Runs.run (program bothBound).step (start bothBound) returning = some s ∧
      (∀ thread, s.worker thread = .finished) ∧ s.shared.logger.worker = .finished ∧
      s.shared.logger.pending = ∅ ∧
      (s.shared.logger.consumed = s.shared.logger.logged ↔
        Runs.Along (program bothBound).step StopsLoggerInTime (start bothBound) returning) := by
  obtain ⟨s, hrun, hs⟩ := Option.map_eq_some_iff.mp outcome_returning
  have hover : s.main = [] := congrArg (fun o ↦ o.1) hs
  exact ⟨s, hrun, all_taken_iff hrun hover⟩

/-- What is left to do after the last stop, and the steps of the client's last
request. -/
theorem bound_of_closing :
    (Runs.run (program bothBound).step (start bothBound) upToLastStop).map (fun s ↦
      (decide (.store .serverRunning false ∈ s.passed), (program bothBound).remaining s,
        (program bothBound).answers s closing)) = some (true, 12, 6) := by
  decide +kernel

theorem shutdown_ends_when_returning :
    ∃ s t, Runs.run (program bothBound).step (start bothBound) upToLastStop = some s ∧
      Runs.run (program bothBound).step s closing = some t ∧ t.main = [] ∧
      Runs.Along (program bothBound).step (program bothBound).StopsInTime (start bothBound)
        returning ∧
      (program bothBound).remaining s = 12 ∧ (program bothBound).answers s closing = 6 ∧
      closing.countP ForkJoin.Event.IsOwn = 18 ∧
      (∀ thread, ∀ f ∈ ((program bothBound).worker thread).loop, t.flags f = false) ∧
      closing.countP ForkJoin.Event.IsOwn ≤
        (program bothBound).remaining s + (program bothBound).answers s closing := by
  obtain ⟨t, hrun, ht⟩ := Option.map_eq_some_iff.mp outcome_returning
  have hover : t.main = [] := congrArg (fun o ↦ o.1) ht
  obtain ⟨s, hlast, hclosing⟩ := Runs.run_append_eq_some.mp hrun
  obtain ⟨s', hlast', hs⟩ := Option.map_eq_some_iff.mp bound_of_closing
  cases hlast.symm.trans hlast'
  have hstops : .store .serverRunning false ∈ s.passed :=
    of_decide_eq_true (congrArg (fun o ↦ o.1) hs)
  have halong := (shutdown_ends hrun).1 hover
  refine ⟨s, t, hlast, hclosing, hover, halong, congrArg (fun o ↦ o.2.1) hs,
    congrArg (fun o ↦ o.2.2) hs, by decide +kernel, ?_⟩
  exact (shutdown_ends hlast).2 (Runs.along_append.mp halong).1 hstops closing t hclosing

/-- `main` waits for the thread of the server, which waits for its client, and
the logger's thread sleeps. -/
theorem stalled_of_idle {rest : List (Statement Thread Flag MainAct)}
    (hmain : s.main = .join .tcp :: rest)
    (hfinished : ∀ thread ≠ .tcp, s.worker thread = .finished)
    (htcp : (s.worker .tcp).question = some .read)
    (hworker : s.shared.logger.worker = .blocked) : Stalled sockets s where
  main x _ := by
    have hrunning : s.worker .tcp ≠ .finished := fun h ↦ by simp [h, Position.question] at htcp
    simp [Program.step, Program.stepMain, hmain, Program.effect, hrunning]
  worker thread x hx := by
    by_cases hthread : thread = .tcp
    · subst hthread
      obtain ⟨left, hposition⟩ := Position.question_eq_some_iff.mp htcp
      simp [Program.step, Program.stepWorker, hposition, Program.advance, program, answer,
        hx.request]
    · simp [Program.step, Program.stepWorker, hfinished thread hthread, Program.advance]
  logger e he := by
    cases e with
    | wakeSpuriously => exact absurd rfl he
    | _ => simp [Program.step, program, Logger.step, LoggerStep.event, hworker]

theorem stuck_when_idling :
    ∃ s, Runs.run (program bothBound).step (start bothBound) idling = some s ∧
      Stalled bothBound s ∧ AwaitsClient s ∧
      (∀ mutex, s.shared.holder mutex = none) ∧ s.shared.logger.worker.holdsMutex = false ∧
      s.shared.logger.pending = ∅ ∧
      (s.main = [] ∨ Logger.Stuck s.shared.logger ∨ AwaitsInput s ∨ AwaitsClient s) := by
  obtain ⟨o, ho, hseen⟩ := Option.map_eq_some_iff.mp outcome_idling.1
  obtain ⟨s, hrun, rfl⟩ := Option.map_eq_some_iff.mp ho
  have hhead := outcome_idling.2
  rw [ho] at hhead
  obtain ⟨rest, hmain⟩ := List.head?_eq_some_iff.mp (Option.some.inj hhead)
  have htcp : (s.worker .tcp).question = some .read := congrArg (fun o ↦ o.2.2) hseen
  have hstalled : Stalled bothBound s :=
    stalled_of_idle hmain (of_decide_eq_true (congrArg (fun o ↦ o.1) hseen)) htcp
      (congrArg (fun o ↦ o.2.1) hseen)
  exact ⟨s, hrun, hstalled, ⟨.tcp, .read, htcp, .inl rfl⟩, stuck_of_stalled hrun hstalled⟩

end SmartSensorNetwork.Demo
