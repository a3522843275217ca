import SmartSensorNetwork.Lib.CppStd

/-!
# The logger

`log` queues a message for the worker thread and keeps it in a short history.
The threads that call `log`, `start` and `stop` interleave with the worker at
every access to the flag, the mutex and the condition variable.
-/

namespace SmartSensorNetwork

open CppStd

structure Logger where
  queue : List ByteString := []
  running : Bool := false
  history : List ByteString := []
  deriving DecidableEq

namespace Logger

def maxHistory : ℕ := 15

/-- The critical section of `log`; `time` is what `currentTimeString()`
returns. -/
def log (logger : Logger) (time msg : ByteString) : Logger :=
  let history := logger.history ++ [ascii "[" ++ time ++ ascii "] " ++ msg]
  { logger with
    queue := logger.queue ++ [msg]
    history := if maxHistory < history.length then history.tail else history }

def getRecentLogs (logger : Logger) : List ByteString := logger.history

/-! ## Threads -/

/-- Where the worker is in `run`. It holds the mutex while it evaluates the
predicate of `wait`, until it blocks, and while it drains the queue. -/
inductive Worker where
  | absent
  | testing
  | locking
  | evaluating
  | blocking
  | blocked
  | draining
  | finished
  deriving DecidableEq

inductive Starting where
  | notCalled
  | stored
  | returned
  deriving DecidableEq

inductive Stopping where
  | notCalled
  | stored
  | notified
  | returned
  deriving DecidableEq

/-- Calls of `log` are numbered in the order of their critical sections, and
`pending` are those that have still to notify. `logged`, `consumed` and
`early` record the run: all messages queued, those the worker has taken, and
the calls that had returned when `stop` was called. -/
structure State where
  logger : Logger := {}
  worker : Worker := .absent
  starting : Starting := .notCalled
  stopping : Stopping := .notCalled
  pending : Finset ℕ := ∅
  logged : List ByteString := []
  consumed : List ByteString := []
  early : Finset ℕ := ∅

def State.returned (s : State) : Finset ℕ := Finset.range s.logged.length \ s.pending

def Worker.holdsMutex : Worker → Bool
  | .evaluating => true
  | .blocking => true
  | .draining => true
  | _ => false

/-- A notification reaches the worker only if it is blocked already. -/
def Worker.notify : Worker → Worker
  | .blocked => .locking
  | worker => worker

inductive Event where
  | enqueue (time msg : ByteString)
  | notifyOne (call : ℕ)
  | startStore
  | createThread
  | stopStore
  | notifyAll
  | join
  | test
  | lock
  | evaluate
  | block
  | wakeSpuriously
  | pop
  | unlock

def step (s : State) : Event → Option State
  | .enqueue time msg =>
      if s.worker.holdsMutex = false then
        some { s with
          logger := s.logger.log time msg
          pending := insert s.logged.length s.pending
          logged := s.logged ++ [msg] }
      else none
  | .notifyOne call =>
      if call ∈ s.pending then
        some { s with pending := s.pending.erase call, worker := s.worker.notify }
      else none
  | .startStore =>
      if s.starting = .notCalled then
        some { s with logger := { s.logger with running := true }, starting := .stored }
      else none
  | .createThread =>
      if s.starting = .stored then
        some { s with worker := .testing, starting := .returned }
      else none
  | .stopStore =>
      if s.stopping = .notCalled then
        some { s with
          logger := { s.logger with running := false }
          stopping := .stored
          early := s.returned }
      else none
  | .notifyAll =>
      if s.stopping = .stored then
        some { s with worker := s.worker.notify, stopping := .notified }
      else none
  | .join =>
      -- a thread that was never created is not joinable
      if s.stopping = .notified ∧ (s.worker = .absent ∨ s.worker = .finished) then
        some { s with stopping := .returned }
      else none
  | .test =>
      if s.worker = .testing then
        some { s with worker := if s.logger.running then .locking else .finished }
      else none
  | .lock => if s.worker = .locking then some { s with worker := .evaluating } else none
  | .evaluate =>
      if s.worker = .evaluating then
        some { s with
          worker := if s.logger.queue ≠ [] ∨ s.logger.running = false then .draining
            else .blocking }
      else none
  | .block => if s.worker = .blocking then some { s with worker := .blocked } else none
  | .wakeSpuriously => if s.worker = .blocked then some { s with worker := .locking } else none
  | .pop =>
      match s.worker, s.logger.queue with
      | .draining, msg :: queue =>
          some { s with
            logger := { s.logger with queue := queue }
            consumed := s.consumed ++ [msg] }
      | _, _ => none
  | .unlock =>
      if s.worker = .draining ∧ s.logger.queue = [] then some { s with worker := .testing }
      else none

/-- The worker takes the first message, and only while it drains. -/
theorem of_pop {s s' : State} (h : step s .pop = some s') :
    ∃ msg queue, s.worker = .draining ∧ s.logger.queue = msg :: queue ∧
      s' = { s with
        logger := { s.logger with queue := queue }
        consumed := s.consumed ++ [msg] } := by
  simp only [step] at h
  split at h
  · next msg queue hworker hqueue =>
      cases h
      exact ⟨msg, queue, hworker, hqueue, rfl⟩
  · cases h

end Logger

end SmartSensorNetwork
