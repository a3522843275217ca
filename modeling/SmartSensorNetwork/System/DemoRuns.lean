import SmartSensorNetwork.Monitor.LoggerShutdown
import SmartSensorNetwork.Monitor.LoggerWait
import SmartSensorNetwork.System.DemoCalls

/-!
# Runs of the demo program

How far `start` and `stop` of the logger have come, and what holds in every
state that a run reaches.
-/

namespace SmartSensorNetwork.Demo

open CppStd ForkJoin

/-! ## The logger of the program -/

def startingAfter (passed : List (Statement Thread Flag MainAct)) : Logger.Starting :=
  if .act (.control .createThread) ∈ passed then .returned
  else if .act (.control .startStore) ∈ passed then .stored
  else .notCalled

def stoppingAfter (passed : List (Statement Thread Flag MainAct)) : Logger.Stopping :=
  if .act (.control .join) ∈ passed then .returned
  else if .act (.control .notifyAll) ∈ passed then .notified
  else if .act (.control .stopStore) ∈ passed then .stored
  else .notCalled

/-- Where `start` and `stop` are before each of their steps. -/
def Control.before : Control → Logger.Starting × Logger.Stopping
  | .startStore => (.notCalled, .notCalled)
  | .createThread => (.stored, .notCalled)
  | .stopStore => (.returned, .notCalled)
  | .notifyAll => (.returned, .stored)
  | .join => (.returned, .notified)

def Control.after : Control → Logger.Starting × Logger.Stopping
  | .startStore => (.stored, .notCalled)
  | .createThread => (.returned, .notCalled)
  | .stopStore => (.returned, .stored)
  | .notifyAll => (.returned, .notified)
  | .join => (.returned, .returned)

def phasesAfter (passed : List (Statement Thread Flag MainAct)) :
    Logger.Starting × Logger.Stopping :=
  (startingAfter passed, stoppingAfter passed)

theorem phases_of_control : ∀ k (hk : k < main.length) c, main[k] = .act (.control c) →
    phasesAfter (main.take k) = c.before ∧ phasesAfter (main.take (k + 1)) = c.after := by
  intro k hk c
  revert k
  cases c <;> decide +kernel

theorem phasesAfter_append (passed : List (Statement Thread Flag MainAct))
    (st : Statement Thread Flag MainAct) (hst : ∀ c, st ≠ .act (.control c)) :
    phasesAfter (passed ++ [st]) = phasesAfter passed := by
  simp only [phasesAfter, startingAfter, stoppingAfter, List.mem_append, List.mem_singleton,
    (hst _).symm, or_false]

/-- The logger is stopped once every thread has been joined. -/
theorem joined_of_stopping : ∀ k < main.length + 1, stoppingAfter (main.take k) ≠ .notCalled →
    ∀ thread, .join thread ∈ main.take k := by
  decide +kernel

theorem starting_of_stopping : ∀ k < main.length + 1,
    stoppingAfter (main.take k) ≠ .notCalled → startingAfter (main.take k) = .returned := by
  decide +kernel

/-- After that, main only has `stop` to finish. -/
theorem left_of_stopping : ∀ k < main.length + 1, stoppingAfter (main.take k) ≠ .notCalled →
    ∀ st ∈ main.drop k, st = .act (.control .notifyAll) ∨ st = .act (.control .join) := by
  decide +kernel

def phases (l : Logger.State) : Logger.Starting × Logger.Stopping := (l.starting, l.stopping)

/-- A step of `log` or of the logger's own thread. -/
def Quiet : Logger.Event → Prop
  | .startStore => False
  | .createThread => False
  | .stopStore => False
  | .notifyAll => False
  | .join => False
  | _ => True

structure Unaffected (l l' : Logger.State) : Prop where
  starting : l'.starting = l.starting
  stopping : l'.stopping = l.stopping
  running : l'.logger.running = l.logger.running
  early : l'.early = l.early
  finished : l.worker = .finished → l'.worker = .finished

section Logger

variable {l l' : Logger.State}

theorem unaffected_step {e : Logger.Event} (he : Quiet e) (h : Logger.step l e = some l') :
    Unaffected l l' := by
  cases e with
  | startStore => exact he.elim
  | createThread => exact he.elim
  | stopStore => exact he.elim
  | notifyAll => exact he.elim
  | join => exact he.elim
  | enqueue time msg =>
      obtain ⟨-, rfl⟩ := Runs.of_guard h
      exact ⟨rfl, rfl, rfl, rfl, id⟩
  | notifyOne c =>
      obtain ⟨-, rfl⟩ := Runs.of_guard h
      exact ⟨rfl, rfl, rfl, rfl, Logger.notify_eq_finished_iff.mpr⟩
  | pop =>
      obtain ⟨msg, queue, hworker, -, rfl⟩ := Logger.of_pop h
      exact ⟨rfl, rfl, rfl, rfl, id⟩
  | unlock =>
      obtain ⟨⟨hworker, -⟩, rfl⟩ := Runs.of_guard h
      exact ⟨rfl, rfl, rfl, rfl, fun hfinished ↦ by cases hworker.symm.trans hfinished⟩
  | test | lock | evaluate | block | wakeSpuriously =>
      obtain ⟨hworker, rfl⟩ := Runs.of_guard h
      exact ⟨rfl, rfl, rfl, rfl, fun hfinished ↦ by cases hworker.symm.trans hfinished⟩

theorem quiet_event (e : LoggerStep) : Quiet e.event := by cases e <;> trivial

/-- The logger's own thread logs nothing. -/
theorem logger_event {e : LoggerStep} (h : Logger.step l e.event = some l') :
    l'.pending = l.pending ∧ l'.logged = l.logged := by
  cases e with
  | pop =>
      obtain ⟨msg, queue, -, -, rfl⟩ := Logger.of_pop h
      exact ⟨rfl, rfl⟩
  | test | lock | evaluate | block | wakeSpuriously | unlock =>
      obtain ⟨-, rfl⟩ := Runs.of_guard h
      exact ⟨rfl, rfl⟩

theorem control_event {c : Control} (h : Logger.step l c.event = some l')
    (hbefore : phases l = c.before) :
    l'.pending = l.pending ∧ l'.logged = l.logged ∧ phases l' = c.after := by
  have hstarting : l.starting = c.before.1 := congrArg Prod.fst hbefore
  have hstopping : l.stopping = c.before.2 := congrArg Prod.snd hbefore
  cases c with
  | startStore | createThread =>
      obtain ⟨-, rfl⟩ := Runs.of_guard h
      exact ⟨rfl, rfl, Prod.ext rfl hstopping⟩
  | stopStore | notifyAll | join =>
      obtain ⟨-, rfl⟩ := Runs.of_guard h
      exact ⟨rfl, rfl, Prod.ext hstarting rfl⟩

/-- Once `stop` has cleared the flag it stays false, and `stop` returns when
the logger's thread has ended. -/
structure Stopped (l : Logger.State) : Prop where
  running : l.stopping ≠ .notCalled → l.logger.running = false
  finished : l.stopping = .returned → l.worker = .finished

theorem Stopped.quiet (hl : Stopped l) (h : Unaffected l l') : Stopped l' where
  running hstopping := by
    rw [h.running]
    exact hl.running (h.stopping ▸ hstopping)
  finished hstopping := h.finished (hl.finished (h.stopping.symm.trans hstopping))

theorem Stopped.control {c : Control} (hl : Stopped l) (hconsistent : Logger.Consistent l)
    (hbefore : phases l = c.before) (h : Logger.step l c.event = some l') : Stopped l' := by
  have hstarting : l.starting = c.before.1 := congrArg Prod.fst hbefore
  have hstopping : l.stopping = c.before.2 := congrArg Prod.snd hbefore
  cases c with
  | startStore | createThread =>
      obtain ⟨-, rfl⟩ := Runs.of_guard h
      exact ⟨fun hcalled ↦ absurd hstopping hcalled,
        fun hreturned ↦ by cases hstopping.symm.trans hreturned⟩
  | stopStore =>
      obtain ⟨-, rfl⟩ := Runs.of_guard h
      exact ⟨fun _ ↦ rfl, nofun⟩
  | notifyAll =>
      obtain ⟨hstored, rfl⟩ := Runs.of_guard h
      exact ⟨fun _ ↦ hl.running (by simp [hstored]), nofun⟩
  | join =>
      obtain ⟨⟨hnotified, hworker⟩, rfl⟩ := Runs.of_guard h
      refine ⟨fun _ ↦ hl.running (by simp [hnotified]), fun _ ↦ ?_⟩
      apply hworker.resolve_left
      exact fun habsent ↦ hconsistent.absent_iff.mp habsent hstarting

end Logger

/-! ## What holds in every state of a run -/

variable {sockets : Sockets}

structure Invariant (sockets : Sockets) (s : State) : Prop where
  reached : (program sockets).Reached s
  ready : (program sockets).Ready s
  calls : Calls s.shared
  main_paired : ∃ h, Holds s.shared none h ∧ Paired h (s.main.map mainPart)
  worker_paired : ∀ thread, ∃ h, Holds s.shared (some thread) h ∧ PositionPaired h (s.worker thread)
  consistent : Logger.Consistent s.shared.logger
  phases : phases s.shared.logger = phasesAfter s.passed
  stopped : Stopped s.shared.logger

theorem invariant_start : Invariant sockets (start sockets) where
  reached := Program.reached_start _ _
  ready := Program.ready_start _ _
  calls := ⟨fun c ↦ by simp [start, Program.start], nofun, nofun⟩
  main_paired := ⟨{}, ⟨rfl, by simp [start, Program.start]⟩, paired_main⟩
  worker_paired thread := ⟨{}, ⟨rfl, by simp [start, Program.start]⟩, rfl⟩
  consistent := Logger.consistent_init
  phases := rfl
  stopped := ⟨fun h ↦ absurd rfl h, nofun⟩

/-- A worker's or main's ordinary act takes a step of the logger or none. -/
theorem perform_logger {x : Input} {thread : Option Thread} {s s' : Shared} {a : Act}
    (h : perform x thread s a = some s') :
    s'.logger = s.logger ∨ ∃ e, Quiet e ∧ Logger.step s.logger e = some s'.logger := by
  cases a with
  | call c =>
      cases h
      exact .inl rfl
  | getRecentLogs | lock mutex | unlock mutex =>
      obtain ⟨-, rfl⟩ := Runs.of_guard h
      exact .inl rfl
  | enqueue msg => exact .inr ⟨.enqueue x.time msg, trivial, (perform_enqueue h).1⟩
  | notifyOne =>
      obtain ⟨c, -, hstep, -⟩ := perform_notifyOne h
      exact .inr ⟨.notifyOne c, trivial, hstep⟩

theorem of_quiet {l l' : Logger.State} (hl : Logger.Consistent l)
    (h : l' = l ∨ ∃ e, Quiet e ∧ Logger.step l e = some l') :
    Logger.Consistent l' ∧ Unaffected l l' := by
  rcases h with rfl | ⟨e, he, hstep⟩
  · exact ⟨hl, rfl, rfl, rfl, rfl, id⟩
  · exact ⟨Logger.consistent_step hl hstep, unaffected_step he hstep⟩

theorem Unaffected.phases {l l' : Logger.State} (h : Unaffected l l') :
    phases l' = Demo.phases l := Prod.ext h.starting h.stopping

/-- What an act leaves to its thread, to the others and to the logger. -/
structure Acted (thread : Option Thread) (shared shared' : Shared) (h' : Hold) : Prop where
  calls : Calls shared'
  holds : Holds shared' thread h'
  others : ∀ t ≠ thread, ∀ g, Holds shared t g → Holds shared' t g
  logger : shared'.logger = shared.logger ∨
    ∃ e, Quiet e ∧ Logger.step shared.logger e = some shared'.logger

theorem Acted.refl {thread : Option Thread} {shared : Shared} {h : Hold} (hcalls : Calls shared)
    (hthread : Holds shared thread h) : Acted thread shared shared h :=
  ⟨hcalls, hthread, fun _ _ _ ht ↦ ht, .inl rfl⟩

theorem acted_perform {x : Input} {thread : Option Thread} {shared shared' : Shared} {a : Act}
    {h h' : Hold} (hcalls : Calls shared) (hthread : Holds shared thread h)
    (hpart : a.part.apply h = some h') (hact : perform x thread shared a = some shared') :
    Acted thread shared shared' h' where
  calls := calls_perform hcalls hthread hpart hact
  holds := holds_perform hthread hpart hact
  others _ hne _ ht := holds_perform_of_ne ht hne hact
  logger := perform_logger hact

/-- The statements of a worker fit what it holds. -/
theorem acted_advance {thread : Thread} {x : Input} {shared shared' : Shared}
    {flags flags' : Flag → Bool} {p p' : Position Flag Act Question} {h : Hold}
    (hadvance : (program sockets).advance thread x shared flags p = some (shared', flags', p'))
    (hcalls : Calls shared) (hthread : Holds shared (some thread) h)
    (hpaired : PositionPaired h p) :
    ∃ h', Acted (some thread) shared shared' h' ∧ PositionPaired h' p' := by
  cases p with
  | unborn => cases hadvance
  | finished => cases hadvance
  | testing =>
      cases hadvance
      obtain rfl : h = {} := hpaired
      refine ⟨{}, .refl hcalls hthread, ?_⟩
      rw [Program.tested]
      split_ifs
      · exact paired_pass sockets thread
      · rfl
  | starting rest =>
      cases rest with
      | nil =>
          cases hadvance
          exact ⟨h, .refl hcalls hthread, paired_nil.mp hpaired⟩
      | cons st rest =>
          cases st with
          | act a =>
              obtain ⟨_, hact, ht⟩ := Option.map_eq_some_iff.mp hadvance
              cases ht
              obtain ⟨h', hpart, hrest⟩ := paired_cons.mp hpaired
              exact ⟨h', acted_perform hcalls hthread hpart hact, hrest⟩
          | store f value =>
              cases hadvance
              obtain ⟨rfl, hrest⟩ := paired_other.mp hpaired
              exact ⟨{}, .refl hcalls hthread, hrest⟩
  | passing rest =>
      cases rest with
      | nil =>
          cases hadvance
          exact ⟨h, .refl hcalls hthread, paired_nil.mp hpaired⟩
      | cons st rest =>
          cases st with
          | act a =>
              obtain ⟨_, hact, ht⟩ := Option.map_eq_some_iff.mp hadvance
              cases ht
              obtain ⟨h', hpart, hrest⟩ := paired_cons.mp hpaired
              exact ⟨h', acted_perform hcalls hthread hpart hact, hrest⟩
          | actIf f a =>
              cases hadvance
              refine ⟨h, .refl hcalls hthread, ?_⟩
              cases a with
              | call c =>
                  obtain ⟨rfl, hrest⟩ := paired_other.mp hpaired
                  split_ifs
                  · exact hpaired
                  · exact hrest
              | _ =>
                  obtain ⟨_, hpart, -⟩ := paired_cons.mp hpaired
                  cases hpart
          | retest =>
              cases hadvance
              obtain ⟨rfl, hrest⟩ := paired_other.mp hpaired
              refine ⟨{}, .refl hcalls hthread, ?_⟩
              rw [Program.tested]
              split_ifs
              · exact hrest
              · rfl
          | ask q =>
              obtain ⟨steps, hsteps, ht⟩ := Option.map_eq_some_iff.mp hadvance
              cases ht
              obtain ⟨h', hpart, hrest⟩ := paired_cons.mp hpaired
              refine ⟨h, .refl hcalls hthread, ?_⟩
              rw [PositionPaired, Paired, List.map_append, holdAfter_append,
                holdAfter_answer hsteps hpart]
              exact hrest

section Steps

variable {s s' : State}

theorem invariant_worker (hs : Invariant sockets s) {thread : Thread} {x : Input}
    (h : (program sockets).stepWorker thread x s = some s') : Invariant sockets s' := by
  have hreached := hs.reached.worker h
  have hready := hs.ready.step (e := .worker thread x) (disciplined sockets) hs.reached h
  obtain ⟨shared, flags, position, hadvance, rfl⟩ := Program.stepWorker_cases h
  obtain ⟨h, hthread, hpaired⟩ := hs.worker_paired thread
  obtain ⟨h', hacted, hpaired'⟩ := acted_advance hadvance hs.calls hthread hpaired
  obtain ⟨hconsistent, hunaffected⟩ := of_quiet hs.consistent hacted.logger
  exact {
    reached := hreached
    ready := hready
    calls := hacted.calls
    main_paired := by
      obtain ⟨g, hmain, hrest⟩ := hs.main_paired
      exact ⟨g, hacted.others none nofun g hmain, hrest⟩
    worker_paired := fun t ↦ by
      by_cases ht : t = thread
      · subst ht
        exact ⟨h', hacted.holds, by simpa using hpaired'⟩
      · obtain ⟨g, ht', hrest⟩ := hs.worker_paired t
        exact ⟨g, hacted.others _ (by simpa using ht) g ht', by simpa [ht] using hrest⟩
    consistent := hconsistent
    phases := hunaffected.phases.trans hs.phases
    stopped := hs.stopped.quiet hunaffected }

theorem invariant_internal (hs : Invariant sockets s) {e : LoggerStep}
    (h : (program sockets).step s (.internal e) = some s') : Invariant sockets s' := by
  have hreached := Program.reached_step hs.reached h
  have hready := hs.ready.step (disciplined sockets) hs.reached h
  obtain ⟨shared, hinternal, rfl⟩ := Program.internal_cases h
  obtain ⟨logger, hlogger, rfl⟩ := Option.map_eq_some_iff.mp hinternal
  obtain ⟨hpending, hlogged⟩ := logger_event hlogger
  have hunaffected := unaffected_step (quiet_event e) hlogger
  exact {
    reached := hreached
    ready := hready
    calls := hs.calls.of_logger hpending hlogged
    main_paired := hs.main_paired.imp fun _ h ↦ ⟨h.1.of_logger _, h.2⟩
    worker_paired := fun t ↦ (hs.worker_paired t).imp fun _ h ↦ ⟨h.1.of_logger _, h.2⟩
    consistent := Logger.consistent_step hs.consistent hlogger
    phases := hunaffected.phases.trans hs.phases
    stopped := hs.stopped.quiet hunaffected }

theorem phases_of_front {passed rest : List (Statement Thread Flag MainAct)} {c : Control}
    (h : passed ++ .act (.control c) :: rest = main) :
    phasesAfter passed = c.before ∧ phasesAfter (passed ++ [.act (.control c)]) = c.after := by
  have hlength : passed.length < main.length := by simp [← h]
  have hat : main[passed.length] = .act (.control c) := by simp [← h]
  have hbefore : main.take passed.length = passed := by simp [← h]
  have hafter : main.take (passed.length + 1) = passed ++ [.act (.control c)] := by
    rw [List.take_succ_eq_append_getElem hlength, hbefore, hat]
  have hphases := phases_of_control passed.length hlength c hat
  rwa [hbefore, hafter] at hphases

/-- `main` moves past a statement that leaves the shared state alone. -/
theorem Invariant.pass (hs : Invariant sockets s) {st : Statement Thread Flag MainAct}
    {rest : List (Statement Thread Flag MainAct)} (hmain : s.main = st :: rest)
    (hother : mainPart st = .other) (hst : ∀ c, st ≠ .act (.control c))
    (hreached : (program sockets).Reached s') (hready : (program sockets).Ready s')
    (hshared : s'.shared = s.shared) (hrest : s'.main = rest)
    (hpassed : s'.passed = s.passed ++ [st])
    (hworker : ∀ thread, ∃ h, Holds s.shared (some thread) h ∧
      PositionPaired h (s'.worker thread)) : Invariant sockets s' := by
  obtain ⟨h, hnone, hpaired⟩ := hs.main_paired
  rw [hmain, List.map_cons, hother] at hpaired
  obtain ⟨rfl, hleft⟩ := paired_other.mp hpaired
  exact {
    reached := hreached
    ready := hready
    calls := hshared ▸ hs.calls
    main_paired := ⟨{}, hshared ▸ hnone, hrest ▸ hleft⟩
    worker_paired := hshared ▸ hworker
    consistent := hshared ▸ hs.consistent
    phases := by rw [hshared, hpassed, phasesAfter_append _ st hst, hs.phases]
    stopped := hshared ▸ hs.stopped }

theorem invariant_main (hs : Invariant sockets s) {x : Input}
    (h : (program sockets).stepMain x s = some s') : Invariant sockets s' := by
  have hreached := hs.reached.main h
  have hready := hs.ready.step (e := .main x) (disciplined sockets) hs.reached h
  obtain ⟨st, rest, t, hmain, heffect, rfl⟩ := Program.stepMain_cases h
  obtain ⟨h₀, hnone, hfront⟩ := hs.main_paired
  rw [hmain, List.map_cons] at hfront
  have hscript : s.passed ++ st :: rest = main := hmain ▸ hs.reached.script
  cases st with
  | act a =>
      obtain ⟨shared, hact, rfl⟩ := Option.map_eq_some_iff.mp heffect
      cases a with
      | act a =>
          obtain ⟨h', hpart, hrest⟩ := paired_cons.mp hfront
          have hacted := acted_perform hs.calls hnone hpart hact
          obtain ⟨hconsistent, hunaffected⟩ := of_quiet hs.consistent hacted.logger
          exact {
            reached := hreached
            ready := hready
            calls := hacted.calls
            main_paired := ⟨h', hacted.holds, hrest⟩
            worker_paired := fun t ↦
              (hs.worker_paired t).imp fun g h ↦ ⟨hacted.others (some t) (by simp) g h.1, h.2⟩
            consistent := hconsistent
            phases := (hunaffected.phases.trans hs.phases).trans
              (phasesAfter_append _ (.act (.act a)) nofun).symm
            stopped := hs.stopped.quiet hunaffected }
      | get =>
          obtain ⟨-, rfl⟩ := Runs.of_guard hact
          exact hs.pass hmain rfl nofun hreached hready rfl rfl rfl hs.worker_paired
      | control c =>
          obtain ⟨logger, hlogger, rfl⟩ := Option.map_eq_some_iff.mp hact
          obtain ⟨rfl, hrest⟩ := paired_other.mp hfront
          obtain ⟨hbefore, hafter⟩ := phases_of_front hscript
          rw [← hs.phases] at hbefore
          obtain ⟨hpending, hlogged, hphases⟩ := control_event hlogger hbefore
          exact {
            reached := hreached
            ready := hready
            calls := hs.calls.of_logger hpending hlogged
            main_paired := ⟨{}, hnone.of_logger _, hrest⟩
            worker_paired := fun t ↦ (hs.worker_paired t).imp fun _ h ↦ ⟨h.1.of_logger _, h.2⟩
            consistent := Logger.consistent_step hs.consistent hlogger
            phases := hphases.trans hafter.symm
            stopped := hs.stopped.control hs.consistent hbefore hlogger }
  | store f value =>
      cases heffect
      exact hs.pass hmain rfl nofun hreached hready rfl rfl rfl hs.worker_paired
  | await f | join i =>
      obtain ⟨-, rfl⟩ := Runs.of_guard heffect
      exact hs.pass hmain rfl nofun hreached hready rfl rfl rfl hs.worker_paired
  | spawn i =>
      obtain ⟨hunborn, rfl⟩ := Runs.of_guard heffect
      refine hs.pass hmain rfl nofun hreached hready rfl rfl rfl fun t ↦ ?_
      obtain ⟨g, ht', hpaired⟩ := hs.worker_paired t
      by_cases ht : t = i
      · subst ht
        rw [hunborn] at hpaired
        obtain rfl : g = {} := hpaired
        refine ⟨{}, ht', ?_⟩
        simp only [Function.update_self]
        exact paired_startUp sockets t
      · exact ⟨g, ht', by simpa [ht] using hpaired⟩

theorem invariant_step {e : Event} (hs : Invariant sockets s)
    (h : (program sockets).step s e = some s') : Invariant sockets s' := by
  cases e with
  | main x => exact invariant_main hs h
  | worker thread x => exact invariant_worker hs h
  | internal e => exact invariant_internal hs h

theorem invariant_of_run {events : List Event}
    (hrun : Runs.run (program sockets).step (start sockets) events = some s) :
    Invariant sockets s :=
  Runs.invariant_run (fun _ _ _ hs h ↦ invariant_step hs h) invariant_start hrun

end Steps

end SmartSensorNetwork.Demo
