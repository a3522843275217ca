import SmartSensorNetwork.Lib.Runs
import SmartSensorNetwork.Monitor.Logger

/-!
# Shutting the logger down

A worker that is about to test the flag when `stop` clears it exits without
draining the queue. Anywhere else in its loop it drains the queue first.
-/

namespace SmartSensorNetwork.Logger

open CppStd Runs

/-! ## What holds in every state -/

structure Consistent (s : State) : Prop where
  fifo : s.consumed ++ s.logger.queue = s.logged
  absent_iff : s.worker = .absent ↔ s.starting ≠ .returned
  running : s.starting ≠ .notCalled → s.stopping = .notCalled → s.logger.running = true
  finished : s.worker = .finished → s.stopping ≠ .notCalled
  early_lt : ∀ call ∈ s.early, call < s.logged.length

theorem notify_eq_absent_iff {worker : Worker} : worker.notify = .absent ↔ worker = .absent := by
  cases worker <;> decide

theorem notify_eq_finished_iff {worker : Worker} :
    worker.notify = .finished ↔ worker = .finished := by
  cases worker <;> decide

theorem consistent_init : Consistent {} where
  fifo := rfl
  absent_iff := by simp
  running h := absurd rfl h
  finished h := by cases h
  early_lt call h := by simp at h

/-- The worker moves on between creation and exit. -/
theorem Consistent.move {s : State} (hs : Consistent s) {worker : Worker}
    (hfrom : s.worker ≠ .absent) (hto : worker ≠ .absent) (hfinished : worker ≠ .finished) :
    Consistent { s with worker := worker } := by
  have hstarting : s.starting = .returned := by
    by_contra hstarting
    exact hfrom (hs.absent_iff.mpr hstarting)
  exact { hs with
    absent_iff := iff_of_false hto (not_not_intro hstarting)
    finished := fun h ↦ absurd h hfinished }

theorem consistent_step {s s' : State} {e : Event} (hs : Consistent s)
    (h : step s e = some s') : Consistent s' := by
  cases e with
  | enqueue time msg =>
      obtain ⟨-, rfl⟩ := of_guard h
      refine { hs with fifo := ?_, early_lt := fun call hcall ↦ ?_ }
      · simp [log, ← hs.fifo]
      · have hlt := hs.early_lt call hcall
        rw [List.length_append]
        omega
  | notifyOne call =>
      obtain ⟨-, rfl⟩ := of_guard h
      exact { hs with
        absent_iff := notify_eq_absent_iff.trans hs.absent_iff
        finished := fun hfinished ↦ hs.finished (notify_eq_finished_iff.mp hfinished) }
  | startStore =>
      obtain ⟨hstarting, rfl⟩ := of_guard h
      have habsent := hs.absent_iff.mpr (by simp [hstarting])
      exact { hs with
        absent_iff := by simp [habsent]
        running := fun _ _ ↦ rfl }
  | createThread =>
      obtain ⟨hstarting, rfl⟩ := of_guard h
      exact { hs with
        absent_iff := by simp
        running := fun _ ↦ hs.running (by simp [hstarting])
        finished := fun hfinished ↦ by cases hfinished }
  | stopStore =>
      obtain ⟨-, rfl⟩ := of_guard h
      exact { hs with
        running := fun _ hstopping ↦ by cases hstopping
        finished := fun _ hstopping ↦ by cases hstopping
        early_lt := fun call hcall ↦
          Finset.mem_range.mp (Finset.mem_sdiff.mp hcall).1 }
  | notifyAll =>
      obtain ⟨-, rfl⟩ := of_guard h
      exact { hs with
        absent_iff := notify_eq_absent_iff.trans hs.absent_iff
        running := fun _ hstopping ↦ by cases hstopping
        finished := fun _ hstopping ↦ by cases hstopping }
  | join =>
      obtain ⟨-, rfl⟩ := of_guard h
      exact { hs with
        running := fun _ hstopping ↦ by cases hstopping
        finished := fun _ hstopping ↦ by cases hstopping }
  | test =>
      obtain ⟨hworker, rfl⟩ := of_guard h
      have hstarting : s.starting = .returned := by
        by_contra hstarting
        rw [hs.absent_iff.mpr hstarting] at hworker
        cases hworker
      refine { hs with absent_iff := ?_, finished := fun hfinished hstopping ↦ ?_ }
      · split <;> simp [hstarting]
      · have hrunning := hs.running (by simp [hstarting]) hstopping
        simp [hrunning] at hfinished
  | lock | block | wakeSpuriously =>
      obtain ⟨hworker, rfl⟩ := of_guard h
      apply hs.move <;> simp [hworker]
  | evaluate =>
      obtain ⟨hworker, rfl⟩ := of_guard h
      apply hs.move
      · simp [hworker]
      · split <;> simp
      · split <;> simp
  | pop =>
      obtain ⟨msg, queue, -, hqueue, rfl⟩ := of_pop h
      refine { hs with fifo := ?_ }
      rw [← hs.fifo, hqueue, List.append_assoc, List.singleton_append]
  | unlock =>
      obtain ⟨⟨hworker, -⟩, rfl⟩ := of_guard h
      apply hs.move <;> simp [hworker]

/-! ## Messages left in the queue -/

/-- The calls that had returned when `stop` was called have had their
messages taken from the queue. -/
def State.EarlyConsumed (s : State) : Prop := ∀ call ∈ s.early, call < s.consumed.length

/-- `stop` does not return while such a message is in the queue. -/
def LosesNothing (s : State) (e : Event) : Prop :=
  e = .join → ∀ s', step s e = some s' → s'.EarlyConsumed

/-- `stop` does not clear the flag while the worker stands before a test of
it, or is not there yet, and a message whose call has returned is queued. -/
def ClearsInTime (s : State) (e : Event) : Prop :=
  e = .stopStore → s.stopping = .notCalled → s.worker = .absent ∨ s.worker = .testing →
    ∀ call ∈ s.returned, call < s.consumed.length

/-- The worker will drain the queue before it next tests the flag. -/
def Worker.willDrain : Worker → Bool
  | .absent => false
  | .testing => false
  | .finished => false
  | _ => true

theorem willDrain_notify (worker : Worker) : worker.notify.willDrain = worker.willDrain := by
  cases worker <;> rfl

theorem not_willDrain_iff {worker : Worker} :
    worker.willDrain = false ↔
      worker = .absent ∨ worker = .testing ∨ worker = .finished := by
  cases worker <;> simp [Worker.willDrain]

/-- Once `stop` is called, the early messages are gone or will be. -/
structure Draining (s : State) : Prop extends Consistent s where
  taken : s.stopping ≠ .notCalled → s.worker.willDrain = false → s.EarlyConsumed

theorem draining_init : Draining {} :=
  { consistent_init with taken := fun h ↦ absurd rfl h }

theorem draining_step {s s' : State} {e : Event} (hs : Draining s) (he : ClearsInTime s e)
    (h : step s e = some s') : Draining s' := by
  refine { consistent_step hs.toConsistent h with taken := ?_ }
  cases e with
  | enqueue time msg =>
      obtain ⟨-, rfl⟩ := of_guard h
      exact hs.taken
  | notifyOne call =>
      obtain ⟨-, rfl⟩ := of_guard h
      rw [willDrain_notify]
      exact hs.taken
  | startStore =>
      obtain ⟨-, rfl⟩ := of_guard h
      exact hs.taken
  | createThread =>
      obtain ⟨hstarting, rfl⟩ := of_guard h
      have habsent : s.worker = .absent := hs.absent_iff.mpr (by simp [hstarting])
      exact fun hstopping _ ↦ hs.taken hstopping (by rw [habsent]; rfl)
  | stopStore =>
      obtain ⟨hstopping, rfl⟩ := of_guard h
      intro _ hwill
      have hworker : s.worker = .absent ∨ s.worker = .testing := by
        rcases not_willDrain_iff.mp hwill with hworker | hworker | hworker
        · exact .inl hworker
        · exact .inr hworker
        · exact absurd hstopping (hs.finished hworker)
      exact he rfl hstopping hworker
  | notifyAll =>
      obtain ⟨hstopping, rfl⟩ := of_guard h
      rw [willDrain_notify]
      exact fun _ ↦ hs.taken (by simp [hstopping])
  | join =>
      obtain ⟨⟨hstopping, -⟩, rfl⟩ := of_guard h
      exact fun _ ↦ hs.taken (by simp [hstopping])
  | test =>
      obtain ⟨hworker, rfl⟩ := of_guard h
      exact fun hstopping _ ↦ hs.taken hstopping (by rw [hworker]; rfl)
  | lock | block | wakeSpuriously =>
      obtain ⟨-, rfl⟩ := of_guard h
      intro _ hwill
      cases hwill
  | evaluate =>
      obtain ⟨-, rfl⟩ := of_guard h
      intro _ hwill
      split at hwill <;> cases hwill
  | pop =>
      obtain ⟨msg, queue, hworker, -, rfl⟩ := of_pop h
      intro _ hwill
      rw [hworker] at hwill
      cases hwill
  | unlock =>
      obtain ⟨⟨-, hqueue⟩, rfl⟩ := of_guard h
      -- the queue is empty, so everything queued so far has been taken
      intro _ _ call hcall
      have hlogged := hs.fifo
      rw [hqueue, List.append_nil] at hlogged
      have hlt := hs.early_lt call hcall
      rwa [← hlogged] at hlt

theorem losesNothing_of_draining {s : State} {e : Event} (hs : Draining s) :
    LosesNothing s e := by
  rintro rfl s' h
  obtain ⟨⟨hstopping, hworker⟩, rfl⟩ := of_guard h
  apply hs.taken (by simp [hstopping])
  rcases hworker with hworker | hworker
  · rw [hworker]
    rfl
  · rw [hworker]
    rfl

/-- An early message is queued, and the worker will exit without it. -/
def Abandoned (s : State) : Prop :=
  ¬ s.EarlyConsumed ∧
    (s.worker = .absent ∨ (s.worker = .testing ∨ s.worker = .finished) ∧
      s.logger.running = false)

/-- `start` has set the flag again, and the worker never exits. -/
def Restarted (s : State) : Prop :=
  s.logger.running = true ∧ s.worker ≠ .absent ∧ s.worker ≠ .finished

/-- `stop` has cleared the flag too early and has not returned. -/
structure TooEarly (s : State) : Prop extends Consistent s where
  called : s.stopping ≠ .notCalled
  notReturned : s.stopping ≠ .returned
  outcome : Abandoned s ∨ Restarted s

theorem Abandoned.notify {s : State} (h : Abandoned s) :
    s.worker.notify = .absent ∨ (s.worker.notify = .testing ∨ s.worker.notify = .finished) ∧
      s.logger.running = false := by
  rcases h.2 with hworker | ⟨hworker | hworker, hrunning⟩
  · exact .inl (notify_eq_absent_iff.mpr hworker)
  · exact .inr ⟨.inl (by rw [hworker]; rfl), hrunning⟩
  · exact .inr ⟨.inr (notify_eq_finished_iff.mpr hworker), hrunning⟩

theorem Restarted.notify {s : State} (h : Restarted s) :
    s.worker.notify ≠ .absent ∧ s.worker.notify ≠ .finished :=
  ⟨mt notify_eq_absent_iff.mp h.2.1, mt notify_eq_finished_iff.mp h.2.2⟩

theorem TooEarly.restarted {s : State} (hs : TooEarly s) (hwill : s.worker.willDrain = true) :
    Restarted s := by
  rcases hs.outcome with hlost | hlive
  · have hnot : s.worker.willDrain = false := by
      apply not_willDrain_iff.mpr
      rcases hlost.2 with hworker | ⟨hworker | hworker, -⟩
      · exact .inl hworker
      · exact .inr (.inl hworker)
      · exact .inr (.inr hworker)
    rw [hwill] at hnot
    cases hnot
  · exact hlive

theorem tooEarly_step {s s' : State} {e : Event} (hs : TooEarly s) (he : LosesNothing s e)
    (h : step s e = some s') : TooEarly s' := by
  have hconsistent := consistent_step hs.toConsistent h
  have hcalled := hs.called
  have hnotReturned := hs.notReturned
  cases e with
  | enqueue time msg =>
      obtain ⟨-, rfl⟩ := of_guard h
      exact { hconsistent with
        called := hcalled
        notReturned := hnotReturned
        outcome := hs.outcome }
  | notifyOne call =>
      obtain ⟨-, rfl⟩ := of_guard h
      refine { hconsistent with called := hcalled, notReturned := hnotReturned, outcome := ?_ }
      rcases hs.outcome with hlost | hlive
      · exact .inl ⟨hlost.1, hlost.notify⟩
      · exact .inr ⟨hlive.1, hlive.notify⟩
  | startStore =>
      obtain ⟨hstarting, rfl⟩ := of_guard h
      have habsent : s.worker = .absent := hs.absent_iff.mpr (by simp [hstarting])
      refine { hconsistent with called := hcalled, notReturned := hnotReturned, outcome := ?_ }
      rcases hs.outcome with hlost | hlive
      · exact .inl ⟨hlost.1, .inl habsent⟩
      · exact absurd habsent hlive.2.1
  | createThread =>
      obtain ⟨hstarting, rfl⟩ := of_guard h
      have habsent : s.worker = .absent := hs.absent_iff.mpr (by simp [hstarting])
      refine { hconsistent with called := hcalled, notReturned := hnotReturned, outcome := ?_ }
      rcases hs.outcome with hlost | hlive
      · cases hrunning : s.logger.running with
        | true => exact .inr ⟨hrunning, by simp, by simp⟩
        | false => exact .inl ⟨hlost.1, .inr ⟨.inl rfl, hrunning⟩⟩
      · exact absurd habsent hlive.2.1
  | stopStore =>
      exact absurd (of_guard h).1 hcalled
  | notifyAll =>
      obtain ⟨-, rfl⟩ := of_guard h
      refine { hconsistent with called := by simp, notReturned := by simp, outcome := ?_ }
      rcases hs.outcome with hlost | hlive
      · exact .inl ⟨hlost.1, hlost.notify⟩
      · exact .inr ⟨hlive.1, hlive.notify⟩
  | join =>
      have hearly := he rfl s' h
      obtain ⟨⟨-, hworker⟩, rfl⟩ := of_guard h
      rcases hs.outcome with hlost | hlive
      · exact absurd hearly hlost.1
      · exact absurd hworker (not_or.mpr hlive.2)
  | test =>
      obtain ⟨hworker, rfl⟩ := of_guard h
      refine { hconsistent with called := hcalled, notReturned := hnotReturned, outcome := ?_ }
      rcases hs.outcome with hlost | hlive
      · have hrunning : s.logger.running = false := by
          rcases hlost.2 with habsent | ⟨-, hrunning⟩
          · rw [hworker] at habsent
            cases habsent
          · exact hrunning
        exact .inl ⟨hlost.1, .inr ⟨.inr (by simp [hrunning]), hrunning⟩⟩
      · exact .inr ⟨hlive.1, by simp [hlive.1], by simp [hlive.1]⟩
  | lock | block | wakeSpuriously =>
      obtain ⟨hworker, rfl⟩ := of_guard h
      have hlive := hs.restarted (by rw [hworker]; rfl)
      exact { hconsistent with
        called := hcalled
        notReturned := hnotReturned
        outcome := .inr ⟨hlive.1, by simp, by simp⟩ }
  | evaluate =>
      obtain ⟨hworker, rfl⟩ := of_guard h
      have hlive := hs.restarted (by rw [hworker]; rfl)
      refine { hconsistent with called := hcalled, notReturned := hnotReturned, outcome := ?_ }
      refine .inr ⟨hlive.1, ?_, ?_⟩
      · split <;> simp
      · split <;> simp
  | pop =>
      obtain ⟨msg, queue, hworker, -, rfl⟩ := of_pop h
      have hlive := hs.restarted (by rw [hworker]; rfl)
      exact { hconsistent with
        called := hcalled
        notReturned := hnotReturned
        outcome := .inr hlive }
  | unlock =>
      obtain ⟨⟨hworker, -⟩, rfl⟩ := of_guard h
      have hlive := hs.restarted (by rw [hworker]; rfl)
      exact { hconsistent with
        called := hcalled
        notReturned := hnotReturned
        outcome := .inr ⟨hlive.1, by simp, by simp⟩ }

theorem tooEarly_of_not_clearsInTime {s : State} {e : Event} (hs : Consistent s)
    (he : ¬ ClearsInTime s e) :
    e = .stopStore ∧ ∀ s', step s e = some s' → TooEarly s' := by
  simp only [ClearsInTime, Classical.not_imp] at he
  obtain ⟨rfl, hstopping, hworker, hqueued⟩ := he
  refine ⟨rfl, fun s' h ↦ ?_⟩
  have hconsistent := consistent_step hs h
  obtain ⟨-, rfl⟩ := of_guard h
  refine { hconsistent with called := by simp, notReturned := by simp, outcome := .inl ⟨hqueued, ?_⟩ }
  rcases hworker with hworker | hworker
  · exact .inl hworker
  · exact .inr ⟨.inl hworker, rfl⟩

/-- The worker takes the messages in order, each once. No message is lost by
a shutdown if `stop` clears the flag in time, and in a run in which `stop`
returns, only then. -/
theorem stop_loses_nothing_iff (events : List Event) :
    (∀ s, run step {} events = some s → s.consumed ++ s.logger.queue = s.logged) ∧
    (Along step ClearsInTime {} events → Along step LosesNothing {} events) ∧
    (∀ s, run step {} events = some s → s.stopping = .returned →
      (Along step LosesNothing {} events ↔ Along step ClearsInTime {} events)) := by
  have henough : Along step ClearsInTime {} events → Along step LosesNothing {} events := by
    apply Along.imp
    · exact fun _ _ _ hs he h ↦ draining_step hs he h
    · exact fun _ _ hs _ ↦ losesNothing_of_draining hs
    · exact draining_init
  refine ⟨fun s hrun ↦ ?_, henough, fun t hrun hreturned ↦ ⟨fun hloses ↦ ?_, henough⟩⟩
  · exact (invariant_run (fun _ _ _ hs h ↦ consistent_step hs h) consistent_init hrun).fifo
  · refine along_iff_forall_split.mpr fun pre e post hes s hpre ↦ ?_
    subst hes
    by_contra hlate
    have hs : Consistent s :=
      invariant_run (fun _ _ _ hs h ↦ consistent_step hs h) consistent_init hpre
    obtain ⟨s', hpre', hrest⟩ := run_append_eq_some.mp hrun
    cases hpre.symm.trans hpre'
    obtain ⟨u, he, hpost⟩ := run_cons_eq_some.mp hrest
    have hafter := ((along_append.mp hloses).2 s hpre).2 u he
    have hu := (tooEarly_of_not_clearsInTime hs hlate).2 u he
    have ht := invariant_run_of_along (fun _ _ _ hs he h ↦ tooEarly_step hs he h) hu hafter hpost
    exact ht.notReturned hreturned

/-- The flag is cleared while the worker, just created, stands before its
first test with a message in the queue. -/
theorem message_lost_at_stop :
    ¬ Along step LosesNothing {}
      [.startStore, .createThread, .enqueue [] (ascii "x"), .notifyOne 0, .stopStore, .test,
        .notifyAll, .join] := by
  intro h
  have hjoin := (((((((h.2 _ rfl).2 _ rfl).2 _ rfl).2 _ rfl).2 _ rfl).2 _ rfl).2 _ rfl).1
  have hearly := hjoin rfl _ rfl 0 (by decide)
  cases hearly

end SmartSensorNetwork.Logger
