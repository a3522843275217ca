import SmartSensorNetwork.Lib.Runs

/-!
# Worker threads with a stop flag

A worker starts up by setting a flag and then repeats: test the flag, do one
pass of the loop. Another thread stops it by clearing the flag. A service
is what the worker does, and the machine interleaves it with the requests to
stop it.
-/

universe u v

/-- A service with state in `σ` whose passes take inputs in `β`. -/
structure Service (σ : Type u) (β : Type v) where
  running : σ → Bool
  /-- Start-up, and whether the loop is entered. -/
  startUp : σ → σ × Bool
  /-- One pass of the loop, and whether the loop goes on. -/
  pass : β → σ → σ × Bool
  stop : σ → σ
  running_startUp : ∀ s, (startUp s).2 = true → running (startUp s).1 = true
  running_startUp_of_not : ∀ s, (startUp s).2 = false → running (startUp s).1 = running s
  running_pass : ∀ x s, running (pass x s).1 = running s
  running_stop : ∀ s, running (stop s) = false

namespace Service

variable {σ : Type u} {β : Type v}

inductive Position where
  | created
  | testing
  | passing
  | finished
  deriving DecidableEq

/-- `stopped` records that a call of `stop` has returned. -/
structure State (σ : Type u) where
  object : σ
  position : Position := .created
  stopped : Bool := false

inductive Event (β : Type v) where
  | startUp
  | test
  | pass (x : β)
  | stop

def continueIf (goesOn : Bool) : Position := if goesOn then .testing else .finished

def step (service : Service σ β) (s : State σ) : Event β → Option (State σ)
  | .startUp =>
      if s.position = .created then
        some { s with
          object := (service.startUp s.object).1
          position := continueIf (service.startUp s.object).2 }
      else none
  | .test =>
      if s.position = .testing then
        some { s with
          position := if service.running s.object then .passing else .finished }
      else none
  | .pass x =>
      if s.position = .passing then
        some { s with
          object := (service.pass x s.object).1
          position := continueIf (service.pass x s.object).2 }
      else none
  | .stop => some { s with object := service.stop s.object, stopped := true }

def init (object : σ) : State σ := { object := object }

variable (service : Service σ β)

/-- After a stop the flag is false, and a test does not start another pass. -/
def StopKept (s : State σ) (e : Event β) : Prop :=
  ∀ s', service.step s e = some s' → s'.stopped = true →
    service.running s'.object = false ∧ (e = .test → s'.position ≠ .passing)

/-- A start-up that enters the loop is not preceded by a stop. -/
def NotLate (s : State σ) (e : Event β) : Prop :=
  e = .startUp → s.position = .created → (service.startUp s.object).2 = true →
    s.stopped = false

def Invariant (s : State σ) : Prop := s.stopped = true → service.running s.object = false

variable {service}

theorem invariant_step {s s' : State σ} {e : Event β} (hs : service.Invariant s)
    (he : service.NotLate s e) (h : service.step s e = some s') : service.Invariant s' := by
  cases e with
  | startUp =>
      obtain ⟨hposition, rfl⟩ := Runs.of_guard h
      intro hstopped
      cases henters : (service.startUp s.object).2 with
      | true =>
          have hfresh := he rfl hposition henters
          rw [hfresh] at hstopped
          cases hstopped
      | false => exact (service.running_startUp_of_not s.object henters).trans (hs hstopped)
  | test =>
      obtain ⟨-, rfl⟩ := Runs.of_guard h
      exact hs
  | pass x =>
      obtain ⟨-, rfl⟩ := Runs.of_guard h
      intro hstopped
      exact (service.running_pass x s.object).trans (hs hstopped)
  | stop =>
      cases h
      intro _
      exact service.running_stop s.object

theorem stopKept_iff_notLate (s : State σ) (e : Event β) (hs : service.Invariant s) :
    service.StopKept s e ↔ service.NotLate s e := by
  constructor
  · rintro hkept rfl hposition henters
    by_contra hstopped
    have hstep : service.step s .startUp = some { s with
        object := (service.startUp s.object).1
        position := continueIf (service.startUp s.object).2 } := by
      simp [step, hposition]
    have hflag := (hkept _ hstep (Bool.eq_true_of_not_eq_false hstopped)).1
    rw [service.running_startUp s.object henters] at hflag
    cases hflag
  · intro he s' h hstopped
    refine ⟨invariant_step hs he h hstopped, ?_⟩
    rintro rfl
    obtain ⟨-, rfl⟩ := Runs.of_guard h
    simp [hs hstopped]

/-- Stops are kept in exactly the runs without a late start-up. -/
theorem stopKept_along_iff (object : σ) (events : List (Event β)) :
    Runs.Along service.step service.StopKept (init object) events ↔
      Runs.Along service.step service.NotLate (init object) events := by
  have hinit : service.Invariant (init object) := by
    intro hstopped
    cases hstopped
  exact Runs.along_congr (fun _ _ _ hs he h ↦ invariant_step hs he h) stopKept_iff_notLate hinit
    events

end Service
