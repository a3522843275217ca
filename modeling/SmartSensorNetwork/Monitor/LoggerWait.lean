import SmartSensorNetwork.Lib.Runs
import SmartSensorNetwork.Monitor.Logger

/-!
# Waking the logger's worker

`stop` clears the flag and notifies without the mutex. A worker that has
found the predicate of its wait false holds the mutex until it blocks, and a
notification in that time is lost on it.
-/

namespace SmartSensorNetwork.Logger

open CppStd Runs

def State.pastNotify (s : State) : Prop := s.stopping = .notified ∨ s.stopping = .returned

/-- The worker is blocked with the flag cleared, and no notification is left
to come. -/
structure Stuck (s : State) : Prop where
  pastNotify : s.pastNotify
  running : s.logger.running = false
  worker : s.worker = .blocked
  pending : s.pending = ∅

/-- The last notification does not fall between an evaluation of the predicate
that found it false and the moment the worker blocks. -/
def NotifiesInTime (s : State) : Event → Prop
  | .notifyAll => s.stopping = .stored → s.pending = ∅ → s.logger.running = false →
      s.worker ≠ .blocking
  | .notifyOne call => s.pastNotify → s.pending = {call} → s.logger.running = false →
      s.worker ≠ .blocking
  | _ => True

/-- With no notification left to come, the worker is not asleep and does not
fall asleep. -/
def Awake (s : State) : Prop :=
  s.pastNotify → s.logger.running = false → s.pending = ∅ →
    s.worker ≠ .blocking ∧ s.worker ≠ .blocked

theorem Awake.not_stuck {s : State} (hs : Awake s) : ¬ Stuck s := fun h ↦
  (hs h.pastNotify h.running h.pending).2 h.worker

theorem notify_ne_blocked (worker : Worker) : worker.notify ≠ .blocked := by
  cases worker <;> decide

theorem notify_eq_blocking_iff {worker : Worker} :
    worker.notify = .blocking ↔ worker = .blocking := by
  cases worker <;> decide

theorem awake_init : Awake {} := by
  rintro (h | h) <;> cases h

theorem awake_step {s s' : State} {e : Event} (hs : Awake s) (he : NotifiesInTime s e)
    (h : step s e = some s') : Awake s' := by
  cases e with
  | enqueue time msg =>
      obtain ⟨-, rfl⟩ := of_guard h
      exact fun _ _ hpending ↦ absurd hpending (Finset.insert_ne_empty _ _)
  | notifyOne call =>
      obtain ⟨hmem, rfl⟩ := of_guard h
      intro hpast hrunning hpending
      have herase : s.pending.erase call = ∅ := hpending
      have hlast : s.pending = {call} := by
        rw [← Finset.insert_erase hmem, herase]
        rfl
      refine ⟨fun hblocking ↦ ?_, notify_ne_blocked s.worker⟩
      exact he hpast hlast hrunning (notify_eq_blocking_iff.mp hblocking)
  | startStore =>
      obtain ⟨-, rfl⟩ := of_guard h
      intro _ hrunning
      cases hrunning
  | createThread =>
      obtain ⟨-, rfl⟩ := of_guard h
      intro _ _ _
      simp
  | stopStore =>
      obtain ⟨-, rfl⟩ := of_guard h
      rintro (hpast | hpast) <;> cases hpast
  | notifyAll =>
      obtain ⟨hstopping, rfl⟩ := of_guard h
      intro _ hrunning hpending
      refine ⟨fun hblocking ↦ ?_, notify_ne_blocked s.worker⟩
      exact he hstopping hpending hrunning (notify_eq_blocking_iff.mp hblocking)
  | join =>
      obtain ⟨⟨hstopping, -⟩, rfl⟩ := of_guard h
      exact fun _ ↦ hs (.inl hstopping)
  | test =>
      obtain ⟨-, rfl⟩ := of_guard h
      intro _ _ _
      constructor <;> split <;> simp
  | lock | wakeSpuriously =>
      obtain ⟨-, rfl⟩ := of_guard h
      intro _ _ _
      simp
  | evaluate =>
      -- the flag is false, so the predicate holds and the worker goes on
      obtain ⟨-, rfl⟩ := of_guard h
      intro _ hrunning _
      have hpredicate : s.logger.queue ≠ [] ∨ s.logger.running = false := .inr hrunning
      simp [hpredicate]
  | block =>
      obtain ⟨hworker, rfl⟩ := of_guard h
      exact fun hpast hrunning hpending ↦ absurd hworker (hs hpast hrunning hpending).1
  | pop =>
      obtain ⟨msg, queue, -, -, rfl⟩ := of_pop h
      exact hs
  | unlock =>
      obtain ⟨-, rfl⟩ := of_guard h
      intro _ _ _
      simp

/-- A last notification in between leaves a worker that blocks for good. -/
theorem stuck_of_not_notifiesInTime {s : State} {e : Event} (he : ¬ NotifiesInTime s e) :
    ∃ s', step s e = some s' ∧ ∃ t, step s' .block = some t ∧ Stuck t := by
  cases e with
  | notifyOne call =>
      simp only [NotifiesInTime, Classical.not_imp, not_not] at he
      obtain ⟨hpast, hpending, hrunning, hworker⟩ := he
      have hmem : call ∈ s.pending := by simp [hpending]
      have hblocking : s.worker.notify = .blocking := notify_eq_blocking_iff.mpr hworker
      refine ⟨_, if_pos hmem, _, if_pos hblocking, hpast, hrunning, rfl, ?_⟩
      simp [hpending]
  | notifyAll =>
      simp only [NotifiesInTime, Classical.not_imp, not_not] at he
      obtain ⟨hstopping, hpending, hrunning, hworker⟩ := he
      have hblocking : s.worker.notify = .blocking := notify_eq_blocking_iff.mpr hworker
      exact ⟨_, if_pos hstopping, _, if_pos hblocking, .inl rfl, hrunning, rfl, hpending⟩
  | _ => exact absurd trivial he

/-- Neither a run nor the next step of its worker reaches a stuck state
exactly when the last notification comes in time. -/
theorem never_stuck_iff (events : List Event) :
    Along step NotifiesInTime {} events ↔
      ∀ pre, pre <+: events → ∀ t,
        run step {} pre = some t ∨ run step {} (pre ++ [.block]) = some t → ¬ Stuck t := by
  constructor
  · rintro halong pre ⟨post, rfl⟩ t hrun
    have hbefore := (along_append.mp halong).1
    have hawake : ∀ s, run step {} pre = some s → Awake s := fun s hs ↦
      invariant_run_of_along (fun _ _ _ hs he h ↦ awake_step hs he h) awake_init hbefore hs
    rcases hrun with hrun | hrun
    · exact (hawake t hrun).not_stuck
    · obtain ⟨s, hs, hblock⟩ := run_append_eq_some.mp hrun
      obtain ⟨s', hstep, hrest⟩ := run_cons_eq_some.mp hblock
      cases hrest
      have hblock : NotifiesInTime s .block := trivial
      exact (awake_step (hawake s hs) hblock hstep).not_stuck
  · intro hnever
    refine along_iff_forall_split.mpr fun pre e post hes s hpre ↦ ?_
    by_contra hlate
    obtain ⟨s', hstep, t, hblock, hstuck⟩ := stuck_of_not_notifiesInTime hlate
    have hbegins : pre ++ [e] <+: events := ⟨post, by simp [hes]⟩
    apply hnever (pre ++ [e]) hbegins t _ hstuck
    refine .inr (run_append_eq_some.mpr ⟨s', ?_, ?_⟩)
    · exact run_append_eq_some.mpr ⟨s, hpre, run_cons_eq_some.mpr ⟨s', hstep, rfl⟩⟩
    · exact run_cons_eq_some.mpr ⟨t, hblock, rfl⟩

/-- Both steps of `stop` fall between the evaluation and the wait. -/
theorem worker_sleeps_through_stop :
    ∃ t, run step {} [.startStore, .createThread, .test, .lock, .evaluate, .stopStore, .notifyAll,
        .block] = some t ∧ Stuck t :=
  ⟨_, rfl, .inl rfl, rfl, rfl, rfl⟩

end SmartSensorNetwork.Logger
